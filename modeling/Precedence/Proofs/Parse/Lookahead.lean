import Precedence.Proofs.Parse.Session
import Precedence.Proofs.Parse.Termination

/-!
# One token of lookahead

A parse sees the tokens that it takes and the one that comes next, and nothing behind that.  So from two states with the
same tokens up to there it goes the same way: the events of the one run are the events of the other
(`Traces.exists_moved`, by induction on the trace), and as the events tell to which depths a parse succeeds, both end
with the same tree and the same reports (`expression_lookahead`).
-/

namespace Precedence

namespace Context

/-! ### Moves -/

/-- The state behind the next tokens, with more problems reported. -/
def moved (c : Context) (count : Nat) (added : List Diagnostic) : Context :=
  { c.drop count with diagnostics := c.diagnostics ++ added }

variable (c : Context) (m n : Nat) (added more : List Diagnostic)

theorem moved_zero : c.moved 0 [] = c := by
  simp [moved]

theorem skip_eq_moved : c.skip = c.moved 1 [] := by
  simp [moved, skip_eq_drop, drop]

theorem add_eq_moved (d : Diagnostic) : c.add d = c.moved 0 [d] := rfl

theorem moved_moved : (c.moved m added).moved n more = c.moved (m + n) (added ++ more) := by
  simp [moved, drop, Nat.add_assoc]

theorem skip_moved : c.skip.moved n more = c.moved (n + 1) more := by
  rw [skip_eq_moved, moved_moved, Nat.add_comm, List.nil_append]

theorem skip_moved_moved : (c.skip.moved m added).moved n more = c.moved (m + n + 1) (added ++ more) := by
  rw [moved_moved, skip_moved]

theorem lookahead_drop_moved : ((c.moved m added).drop n).lookahead = (c.drop (m + n)).lookahead := by
  simp [moved, drop, lookahead]

/-! ### The same tokens next -/

/-- As many tokens as the number says are the same, ends behind the input included. -/
def SameNext (count : Nat) (c d : Context) : Prop := ∀ n < count, (c.drop n).lookahead = (d.drop n).lookahead

variable {c m n} {d : Context} {count : Nat}

theorem SameNext.lookahead_eq (h : SameNext count c d) (hcount : 0 < count) : c.lookahead = d.lookahead := h 0 hcount

theorem SameNext.mono (h : SameNext count c d) (hle : n ≤ count) : SameNext n c d :=
  fun k hk => h k (Nat.lt_of_lt_of_le hk hle)

/-- Where both states are moved by as many tokens, what is left of the same tokens comes next. -/
theorem SameNext.moved (h : SameNext count c d) (hle : m + n ≤ count) :
    SameNext n (c.moved m added) (d.moved m added) := by
  intro k hk
  rw [lookahead_drop_moved, lookahead_drop_moved]
  exact h (m + k) (by omega)

theorem SameNext.skip (h : SameNext count c d) (hle : n + 1 ≤ count) : SameNext n c.skip d.skip := by
  rw [skip_eq_moved, skip_eq_moved]
  exact h.moved [] (by omega)

end Context

open Context

/-! ### Traces -/

/-- A trace moves its state by the tokens that are taken, and from any other state with the same tokens up to the next
one behind these the same events happen and move that state in the same way. -/
theorem Traces.exists_moved {stage : Stage} {c c' : Context} {events : List Event} {t : Tree}
    (h : Traces stage c events t c') :
    ∃ added, c' = c.moved (taken events).length added ∧
      ∀ d, SameNext ((taken events).length + 1) c d →
        Traces stage d events t (d.moved (taken events).length added) := by
  induction h with
  | @expression power c _ _ inner further t u _ _ ihfirst ihfurther =>
    obtain ⟨added, rfl, hfirst⟩ := ihfirst
    obtain ⟨more, rfl, hfurther⟩ := ihfurther
    have hlength : (taken (.enter :: .first c.lookahead :: (inner ++ further) ++ [.leave])).length =
        (taken inner).length + (taken further).length + 1 := by simp
    rw [hlength]
    refine ⟨added ++ more, skip_moved_moved _ _ _ _ _, fun d hsame => ?_⟩
    -- the first part sees no further than where the second one begins, one token behind what it takes
    have hskip : SameNext ((taken inner).length + (taken further).length + 1) c.skip d.skip := hsame.skip (by omega)
    have hnext := hfirst d.skip (hskip.mono (by omega))
    rw [hsame.lookahead_eq (by omega)] at hnext ⊢
    rw [← skip_moved_moved]
    exact .expression hnext (hfurther _ (hskip.moved added (by omega)))
  | stop weak =>
    refine ⟨[], (moved_zero _).symm, fun d hsame => ?_⟩
    rw [hsame.lookahead_eq (by omega)] at weak
    exact (moved_zero d).symm ▸ .stop weak
  | @extend power c _ _ inner further t u v tight _ _ ihnext ihfurther =>
    obtain ⟨added, rfl, hnext⟩ := ihnext
    obtain ⟨more, rfl, hfurther⟩ := ihfurther
    have hlength : (taken (.further c.lookahead :: (inner ++ further))).length =
        (taken inner).length + (taken further).length + 1 := by simp
    rw [hlength]
    refine ⟨added ++ more, skip_moved_moved _ _ _ _ _, fun d hsame => ?_⟩
    have hskip : SameNext ((taken inner).length + (taken further).length + 1) c.skip d.skip := hsame.skip (by omega)
    have hnext := hnext d.skip (hskip.mono (by omega))
    rw [hsame.lookahead_eq (by omega)] at hnext tight ⊢
    rw [← skip_moved_moved]
    exact .extend tight hnext (hfurther _ (hskip.moved added (by omega)))
  | give => exact ⟨[], (moved_zero _).symm, fun d _ => (moved_zero d).symm ▸ .give⟩
  | @report code message notes next c c' events t _ ih =>
    obtain ⟨added, rfl, hmore⟩ := ih
    have hmoved : ∀ d : Context, (d.add ⟨.error, code, message, notes⟩).moved (taken events).length added =
        d.moved (taken events).length (⟨.error, code, message, notes⟩ :: added) :=
      fun d => by rw [add_eq_moved, moved_moved, Nat.zero_add, List.singleton_append]
    refine ⟨_, hmoved c, fun d hsame => ?_⟩
    rw [← hmoved]
    exact .report (hmore _ (hsame.moved [_] (Nat.le_of_eq (Nat.zero_add _))))
  | @operand power next c _ _ inner further t u _ _ ihinner ihfurther =>
    obtain ⟨added, rfl, hinner⟩ := ihinner
    obtain ⟨more, rfl, hfurther⟩ := ihfurther
    rw [taken_append, List.length_append]
    refine ⟨added ++ more, moved_moved _ _ _ _ _, fun d hsame => ?_⟩
    rw [← moved_moved]
    exact .operand (hinner d (hsame.mono (by omega))) (hfurther _ (hsame.moved added (by omega)))
  | look _ ih =>
    obtain ⟨added, heq, hmore⟩ := ih
    refine ⟨added, heq, fun d hsame => .look ?_⟩
    rw [← hsame.lookahead_eq (by omega)]
    exact hmore d hsame
  | @skip next c c' events t _ ih =>
    obtain ⟨added, rfl, hmore⟩ := ih
    have hlength : (taken (.delimiter c.lookahead :: events)).length = (taken events).length + 1 := rfl
    rw [hlength]
    refine ⟨added, skip_moved _ _ _, fun d hsame => ?_⟩
    rw [← skip_moved, hsame.lookahead_eq (by omega)]
    exact .skip (hmore _ (hsame.skip (by omega)))
  | items _ ih =>
    obtain ⟨added, heq, hround⟩ := ih
    exact ⟨added, heq, fun d hsame => .items (hround d hsame)⟩

/-! ### Parses -/

open Parse

/-- What an expression is parsed as depends on the tokens that it takes and on the next one: from any other tokens that
are the same up to there, the same ones are taken, and the tree and the reports are the same. -/
theorem expression_lookahead {tokens others : List Token} {depth : Nat} {power : Int} {t : Tree} {c : Context}
    (htokens : ∀ token ∈ tokens, token.kind.Nonneg) (hothers : ∀ token ∈ others, token.kind.Nonneg)
    (hpower : 0 ≤ power) (hrun : expression depth power (.start tokens) = .ok t c)
    (hsame : ∀ n ≤ c.consumed, tokenAt tokens n = tokenAt others n) :
    ∃ taken, taken.length = c.consumed ∧ (start tokens).Takes taken c ∧
      expression depth power (.start others) = .ok t ⟨others.drop c.consumed, c.consumed, c.diagnostics⟩ ∧
      (start others).Takes taken ⟨others.drop c.consumed, c.consumed, c.diagnostics⟩ := by
  have htokens : (start tokens).Nonneg := htokens
  have hothers : (start others).Nonneg := hothers
  obtain ⟨events, htraces⟩ := (runs_of_expression htokens hpower hrun).exists_traces
  have hdecides := htraces.decides htokens hpower depth
  have hshallow : Shallow depth events := hdecides.room_of_ok hrun
  have hlength : (taken events).length = c.consumed := by simpa [start] using htraces.takes.consumed_eq.symm
  obtain ⟨added, hc, hother⟩ := htraces.exists_moved
  have hdiagnostics : c.diagnostics = added := by rw [hc]; rfl
  have hmoved : (start others).moved (taken events).length added =
      ⟨others.drop c.consumed, c.consumed, c.diagnostics⟩ := by
    rw [hlength, hdiagnostics]
    simp [moved, drop, start]
  have htraces' := hother (.start others) fun n hn => by
    rw [lookahead_drop_start, lookahead_drop_start]
    exact hsame n (by omega)
  rw [hmoved] at htraces'
  exact ⟨taken events, hlength, htraces.takes, (htraces'.decides hothers hpower depth).ok hshallow, htraces'.takes⟩

/-- The tokens of `(1`, where a parenthesis is missing. -/
def unclosedGroup : List Token := [⟨.openParen, "("⟩, ⟨.number, "1"⟩]

/-- The tokens of `(1` with an end of the input and a `2` behind them. -/
def endedGroup : List Token := unclosedGroup ++ [.endOfInput, ⟨.number, "2"⟩]

theorem expression_lookahead_unclosedGroup :
    (∀ token ∈ unclosedGroup, token.kind.Nonneg) ∧ (∀ token ∈ endedGroup, token.kind.Nonneg) ∧
      (∀ n ≤ 2, tokenAt unclosedGroup n = tokenAt endedGroup n) ∧ ∃ missing : Diagnostic,
        expression 2 0 (.start unclosedGroup) = .ok (.atom "1") ⟨[], 2, [missing]⟩ ∧
        expression 2 0 (.start endedGroup) = .ok (.atom "1") ⟨[.endOfInput, ⟨.number, "2"⟩], 2, [missing]⟩ := by
  have htokens : ∀ token ∈ unclosedGroup, token.kind.Nonneg := by
    simp only [unclosedGroup, List.forall_mem_cons, List.not_mem_nil, false_imp_iff, implies_true]
    exact ⟨⟨trivial, trivial⟩, ⟨trivial, trivial⟩, trivial⟩
  have hothers : ∀ token ∈ endedGroup, token.kind.Nonneg := by
    refine List.forall_mem_append.mpr ⟨htokens, ?_⟩
    simp only [List.forall_mem_cons, List.not_mem_nil, false_imp_iff, implies_true]
    exact ⟨⟨trivial, trivial⟩, ⟨trivial, trivial⟩, trivial⟩
  have hsame : ∀ n ≤ 2, tokenAt unclosedGroup n = tokenAt endedGroup n := by decide
  obtain ⟨missing, hrun⟩ : ∃ missing : Diagnostic,
      expression 2 0 (.start unclosedGroup) = .ok (.atom "1") ⟨[], 2, [missing]⟩ := ⟨_, rfl⟩
  obtain ⟨-, -, -, hother, -⟩ := expression_lookahead htokens hothers (Int.le_refl 0) hrun hsame
  exact ⟨htokens, hothers, hsame, missing, hrun, hother⟩

end Precedence
