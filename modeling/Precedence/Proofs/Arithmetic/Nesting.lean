import Precedence.Proofs.Arithmetic.Spacing
import Precedence.Proofs.Arithmetic.Steps
import Precedence.Proofs.Parse.Trace

/-!
# How deeply arithmetic is nested

An operand is parsed with a higher power than the expression it belongs to, unless it is enclosed in parentheses or
follows a sign.  There are five powers that an expression can begin with, from that of a whole expression to that of a
factor, so that without parentheses and signs no more than five expressions are active at a time.  A parenthesis allows
for five more, and a sign for one more (`within_of_traces`).  This holds of all lists of tokens, well formed or not.

So a text is nested too deeply only by its parentheses and signs, and never by its length alone.
-/

namespace Precedence.Arithmetic

/-! ### Ranks of powers -/

/-- The powers that expressions are parsed with, other than that of the operand of a sign. -/
def stairs : List Int := [0, 10, 20, 50, 60]

/-- How many of the stairs are no higher than the power. -/
def rank (power : Int) : Nat := stairs.countP fun stair => decide (stair ≤ power)

theorem rank_le (power : Int) : rank power ≤ 5 := List.countP_le_length

/-- The rank rises on each of the stairs. -/
theorem rank_lt {power stair : Int} (h : power < stair) (hmem : stair ∈ stairs) : rank power < rank stair := by
  have hmono : ∀ list : List Int,
      list.countP (fun other => decide (other ≤ power)) ≤ list.countP (fun other => decide (other ≤ stair)) := by
    intro list
    refine List.countP_mono_left fun other _ hle => ?_
    rw [decide_eq_true_eq] at hle ⊢
    omega
  obtain ⟨lower, upper, hsplit⟩ := List.append_of_mem hmem
  have hlower := hmono lower
  have hupper := hmono upper
  unfold rank
  rw [hsplit, List.countP_append, List.countP_append, List.countP_cons_of_neg (by simpa using h),
    List.countP_cons_of_pos (by simp)]
  omega

theorem bindingPower_mem_stairs {kind : Kind} (h : kind ∈ kinds) (hkind : kind ≠ .openParen) :
    kind.bindingPower ∈ stairs := by
  have hall : ∀ kind ∈ kinds, kind ≠ .openParen → kind.bindingPower ∈ stairs := by decide
  exact hall kind h hkind

/-! ### What parentheses and signs allow for -/

/-- The number of opening parentheses that are taken. -/
def opened (events : List Event) : Nat := (taken events).countP fun token => decide (token.kind = .openParen)

instance : DecidablePred IsSign := fun token => inferInstanceAs (Decidable (token.kind = .plus ∨ token.kind = .minus))

/-- Whether a sign is taken at the start of an expression. -/
def startsWithSign : Event → Bool
  | .first token => decide (IsSign token)
  | _ => false

/-- The number of signs that are taken at the start of an expression. -/
def prefixSigns (events : List Event) : Nat := events.countP startsWithSign

/-- How many more expressions may be active after the event. -/
def credit (event : Event) : Nat := 5 * opened [event] + prefixSigns [event]

theorem opened_append (events more : List Event) : opened (events ++ more) = opened events + opened more := by
  simp [opened, taken]

theorem prefixSigns_append (events more : List Event) :
    prefixSigns (events ++ more) = prefixSigns events + prefixSigns more :=
  List.countP_append

theorem gained_credit (events : List Event) : gained credit events = 5 * opened events + prefixSigns events := by
  induction events with
  | nil => rfl
  | cons event events ih =>
    rw [← List.singleton_append, opened_append, prefixSigns_append, gained_append, ih, gained_cons, gained_nil, credit]
    omega

theorem credit_first_of_sign {token : Token} (h : IsSign token) : credit (.first token) = 1 := by
  have hkind : token.kind ≠ .openParen := by
    rcases h with h | h <;> rw [h] <;> decide
  simp [credit, opened, prefixSigns, taken, Event.token?, startsWithSign, h, hkind]

theorem le_credit_of_openParen (event : Event) {token : Token} (htoken : event.token? = some token)
    (h : token.kind = .openParen) : 5 ≤ credit event := by
  have hopened : opened [event] = 1 := by simp [opened, taken, htoken, h]
  rw [credit, hopened]
  omega

/-- So many more expressions may be active that each of the powers of operands can still rise to the highest one. -/
def Affordable (limit : Nat) : Stage → Prop
  | .expression power => 6 ≤ rank power + limit
  | .extension power _ => 5 ≤ rank power + limit
  | .procedure steps => steps.All (fun power => 6 ≤ rank power + limit) fun _ => True

theorem affordable_null {token : Token} (h : token.kind ∈ kinds) (limit : Nat) :
    Affordable (limit + credit (.first token)) (.procedure token.nullProcedure) := by
  refine all_null h trivial trivial ?_ ?_
  · intro hsign
    rw [credit_first_of_sign hsign]
    have : rank Kind.signPower = 5 := rfl
    omega
  · intro hgroup
    have hcredit := le_credit_of_openParen (.first token) rfl hgroup
    have : rank 0 = 1 := rfl
    omega

theorem affordable_left {token : Token} (h : token.kind ∈ kinds) {power : Int} {limit : Nat} {left : Tree}
    (hextension : Affordable limit (.extension power left)) (tight : power < token.kind.bindingPower) :
    Affordable (limit + credit (.further token)) (.procedure (token.leftProcedure left)) := by
  have hextension : 5 ≤ rank power + limit := hextension
  refine all_left h trivial trivial ?_ ?_ left
  · intro hoperator
    have hrank := rank_lt tight (bindingPower_mem_stairs h hoperator)
    omega
  · intro hcall
    have hcredit := le_credit_of_openParen (.further token) rfl hcall
    have : rank 0 = 1 := rfl
    omega

theorem Affordable.mono {limit : Nat} {stage : Stage} (h : Affordable limit stage) (more : Nat) :
    Affordable (limit + more) stage := by
  cases stage with
  | expression power =>
    have h : 6 ≤ rank power + limit := h
    show 6 ≤ rank power + (limit + more)
    omega
  | extension power left =>
    have h : 5 ≤ rank power + limit := h
    show 5 ≤ rank power + (limit + more)
    omega
  | procedure steps => exact Procedure.All.imp h fun power h => by omega

/-- At no moment more expressions are active than the limit, the parentheses and the signs allow for. -/
theorem within_of_traces {stage : Stage} {c c' : Context} {events : List Event} {t : Tree}
    (h : Traces stage c events t c') (hc : Tokenized c) {limit : Nat} (hstage : Affordable limit stage) :
    Within credit limit events := by
  induction h generalizing limit with
  | @expression power c c' c'' inner more t u first further ihfirst ihmore =>
    have hstage : 6 ≤ rank power + limit := hstage
    -- the expression itself is active, as the rank of its power is at most five
    obtain ⟨inside, rfl⟩ : ∃ inside, limit = inside + 1 := by
      have := rank_le power
      exact ⟨limit - 1, by omega⟩
    have hinside : Affordable inside (.extension power t) := by
      show 5 ≤ rank power + inside
      omega
    have hbalanced : Balanced (.first c.lookahead :: (inner ++ more)) :=
      (first.balanced.append further.balanced).cons (by simp) (by simp)
    rw [within_call hbalanced rfl, within_cons (by simp) (by simp), within_append first.balanced]
    exact ⟨ihfirst hc.skip (affordable_null hc.lookahead inside),
      ihmore (hc.skip.of_leads first.leads) ((hinside.mono _).mono _)⟩
  | stop | give => exact within_nil _ _
  | extend tight next further ihnext ihmore =>
    rw [within_cons (by simp) (by simp), within_append next.balanced]
    exact ⟨ihnext hc.skip (affordable_left hc.lookahead hstage tight),
      ihmore (hc.skip.of_leads next.leads) (Affordable.mono (Affordable.mono hstage _) _)⟩
  | report _ ih => exact ih (hc.of_leads (Context.leads_add _ rfl)) hstage.2
  | @operand power next c c' c'' inner more t u operand _ ihinner ihmore =>
    have hnext : Affordable limit (.procedure (next t)) := hstage.2 t
    rw [within_append operand.balanced]
    exact ⟨ihinner hc hstage.1, ihmore (hc.of_leads operand.leads) (hnext.mono _)⟩
  | look _ ih => exact ih hc (hstage _)
  | skip _ ih =>
    rw [within_cons (by simp) (by simp)]
    exact ih hc.skip (Affordable.mono hstage _)
  | items _ ih => exact ih hc (Procedure.All.firstItem hstage)

/-! ### Parses of texts -/

/-- A whole expression begins with room for five, one for each of the stairs. -/
theorem within_of_tokenized {c c' : Context} {events : List Event} {t : Tree} (hc : Tokenized c)
    (h : Traces (.expression 0) c events t c') :
    ∀ moment, moment <+: events → active moment ≤ 5 * (1 + opened moment) + prefixSigns moment := by
  intro moment hmoment
  have hstage : Affordable 5 (.expression 0) := Nat.le_refl 6
  have hwithin := within_of_traces h hc hstage moment hmoment
  rw [gained_credit] at hwithin
  omega

theorem eq_of_lexeme_openParen {kind : Kind} {chars : List Char} (h : Lexeme kind chars) (hkind : kind = .openParen) :
    chars = ['('] := by
  cases h with
  | number | symbol => exact absurd hkind (by decide)
  | @mark kind c h =>
    have hmarks : ∀ mark ∈ marks, mark.1 = .openParen → mark.2 = '(' := by decide
    rw [show c = '(' from hmarks _ h hkind]

/-- A text without the character `(` has no token that opens a parenthesis. -/
theorem kind_ne_openParen {text : List Char} {tokens : List Token} {left : List Char} (hnone : '(' ∉ text)
    (h : tokensOf rules text = .ok (tokens, left)) : ∀ token ∈ tokens, token.kind ≠ .openParen := by
  intro token hmem hkind
  have hvalue := eq_of_lexeme_openParen (lexeme_of_tokensOf h token hmem) hkind
  obtain ⟨chunks, hcut, rfl⟩ := exists_chunks_of_tokensOf h
  obtain ⟨chunk, hchunk, rfl⟩ := List.mem_map.mp hmem
  have hwritten : '(' ∈ chunk.value.toList := by
    show '(' ∈ chunk.token.value.toList
    rw [hvalue]
    exact List.mem_singleton_self _
  rcases chunk.value_cases with hempty | hpiece
  · rw [show chunk.token.value = Rule.emptyValue from hempty] at hvalue
    exact absurd hvalue (by decide)
  · exact hnone ((hcut.remaining_suffix chunk hchunk).subset (hpiece.subset hwritten))

/-- Where no parenthesis can be opened and no sign starts an expression, five expressions are enough. -/
theorem shallow_of_traces {tokens : List Token} {events : List Event} {t : Tree} {c : Context}
    (htokens : Tokenized (.initial tokens)) (hnone : ∀ token ∈ tokens, token.kind ≠ .openParen)
    (h : Traces (.expression 0) (.initial tokens) events t c) (hsigns : prefixSigns events = 0) : Shallow 5 events := by
  have hopened : opened events = 0 := by
    obtain ⟨ends, heq, hends⟩ := h.takes.taken_append_rest
    refine List.countP_eq_zero.mpr fun token hmem => ?_
    have hall : ∀ token ∈ (Context.initial tokens).rest ++ ends, token.kind ≠ .openParen := by
      refine List.forall_mem_append.mpr ⟨List.forall_mem_append.mpr ⟨hnone, ?_⟩, fun token hmem => ?_⟩
      · exact List.forall_mem_singleton.mpr (by decide)
      · rw [hends token hmem]
        decide
    simpa using hall token (heq ▸ List.mem_append_left _ hmem)
  intro moment hmoment
  have hactive := within_of_tokenized htokens h moment hmoment
  obtain ⟨later, rfl⟩ := hmoment
  rw [opened_append] at hopened
  rw [prefixSigns_append] at hsigns
  omega

/-- Where five expressions can be active, the text has a result. -/
theorem exists_parseResult_of_traces [Runtime] (hroom : 5 ≤ Runtime.expressionDepth) (strict : Bool) {source : String}
    {lexed : Lexed} {events : List Event} {t : Tree} {c : Context} (hnone : '(' ∉ source.toList)
    (hlexed : lex rules source = .ok lexed) (h : Traces (.expression 0) { rest := lexed.tokens } events t c)
    (hsigns : prefixSigns events = 0) : ∃ result, (parser strict).parseResult source = .ok result := by
  obtain ⟨tokens, left, htokens, hinitial⟩ := exists_tokensOf hlexed
  rw [hinitial] at h
  have htokenized := (allLegible_initial htokens).tokenized
  have hshallow := shallow_of_traces htokenized (kind_ne_openParen hnone htokens) h hsigns
  have hdecides := h.decides htokenized.nonneg (Int.le_refl 0) Parse.depthLimit
  have hwithin : Shallow Parse.depthLimit events := fun moment hmoment => Nat.le_trans (hshallow moment hmoment) hroom
  obtain ⟨context, hwhole⟩ := Parse.exists_wholeExpression (hdecides.ok hwithin)
  rw [← parser_rules strict] at htokens
  rw [parseResult_of_tokensOf htokens, show Parse.wholeExpression _ (.initial tokens) = _ from hwhole]
  exact ⟨_, rfl⟩

/-- Every list of tokens has a parse, and its trace tells to which depths it succeeds.  At no moment of it more
expressions are active than five, five for each parenthesis that has been opened, and one for each sign that has started
an expression.  So a text without opening parentheses and without such signs is never nested too deeply for a runtime
that has room for five expressions. -/
theorem active_le [Runtime] (strict : Bool) :
    (∀ tokens : List Token, (∀ token ∈ tokens, token.kind ∈ Kind.arithmetic) →
      (∃ events t c, Traces (.expression 0) (.initial tokens) events t c) ∧
      ∀ events t c, Traces (.expression 0) (.initial tokens) events t c →
        (Context.initial tokens).Takes (taken events) c ∧
        (∀ depth, Parse.Decides (Shallow depth events) (Parse.expression depth 0) (.initial tokens) t c) ∧
        ∀ moment, moment <+: events → active moment ≤ 5 * (1 + opened moment) + prefixSigns moment) ∧
    (5 ≤ Runtime.expressionDepth → ∀ source : String, '(' ∉ source.toList → ∃ lexed, lex rules source = .ok lexed ∧
      ∀ events t c, Traces (.expression 0) { rest := lexed.tokens } events t c → prefixSigns events = 0 →
        (∃ result, (parser strict).parseResult source = .ok result) ∧
          (parser strict).parse source ≠ .error .nestedTooDeeply) := by
  constructor
  · intro tokens hkinds
    have htokenized : Tokenized (.initial tokens) := tokenized_initial hkinds
    obtain ⟨t, c, hruns⟩ := exists_runs htokenized.nonneg (Int.le_refl 0)
    obtain ⟨events, htraces⟩ := hruns.exists_traces
    refine ⟨⟨events, t, c, htraces⟩, fun events t c htraces => ⟨htraces.takes, fun depth => ?_, ?_⟩⟩
    · exact htraces.decides htokenized.nonneg (Int.le_refl 0) depth
    · exact within_of_tokenized htokenized htraces
  · intro hroom source hnone
    obtain ⟨lexed, hlexed⟩ := exists_lex source
    refine ⟨lexed, hlexed, fun events t c htraces hsigns => ?_⟩
    obtain ⟨result, hresult⟩ := exists_parseResult_of_traces hroom strict hnone hlexed htraces hsigns
    refine ⟨⟨result, hresult⟩, ?_⟩
    rw [parse_of_parseResult hresult]
    split
    · simp
    · simp

/-- The tokens of `-(`, which is no expression. -/
def unfinished : List Token := [⟨.minus, "-"⟩, ⟨.openParen, "("⟩]

/-- The tokens of `1+2`. -/
def onePlusTwo : List Token := [⟨.number, "1"⟩, ⟨.plus, "+"⟩, ⟨.number, "2"⟩]

private theorem exists_traces_onePlusTwo :
    ∃ events, Traces (.expression 0) (.initial onePlusTwo) events (.node [.atom "+", .atom "1", .atom "2"])
      ⟨[.endOfInput], 3, []⟩ ∧ prefixSigns events = 0 :=
  ⟨_, .expression .give
    (.extend (by decide) (.operand (.expression .give (.stop (by decide))) .give) (.stop (by decide))), by decide⟩

private theorem lex_onePlusTwo : lex rules "1+2" = .ok ⟨onePlusTwo ++ [.endOfInput], "", []⟩ := by
  have htwo : Renders [⟨.number, "2"⟩] ['2'] := .lexeme (.number (by decide)) (by simp) (.nil (List.forall_mem_nil _))
  have hstops : Text.isDigit '+' = false := by decide
  have hrenders : Renders onePlusTwo ['1', '+', '2'] :=
    (htwo.mark (by decide)).lexeme (.number (by decide)) (by simp [hstops])
  have htokens : tokensOf rules "1+2".toList = .ok (onePlusTwo, []) := tokensOf_eq_iff.mpr ⟨hrenders, nofun⟩
  rw [lex, htokens]
  rfl

theorem active_le_onePlusTwo :
    (∀ token ∈ unfinished, token.kind ∈ Kind.arithmetic) ∧
      (∃ events t c, Traces (.expression 0) (.initial unfinished) events t c ∧
        ∀ moment, moment <+: events → active moment ≤ 5 * (1 + opened moment) + prefixSigns moment) ∧
      5 ≤ Runtime.expressionDepth ∧ '(' ∉ "1+2".toList ∧
      ∃ result, (parser true).parseResult "1+2" = .ok result := by
  have hroom : 5 ≤ Runtime.expressionDepth := by decide
  have hunfinished : ∀ token ∈ unfinished, token.kind ∈ Kind.arithmetic := by decide
  have hnone : '(' ∉ "1+2".toList := by decide
  obtain ⟨htokens, hsources⟩ := active_le true
  obtain ⟨⟨events, t, c, htraces⟩, hall⟩ := htokens unfinished hunfinished
  obtain ⟨lexed, hlexed, hresult⟩ := hsources hroom "1+2" hnone
  cases lex_onePlusTwo.symm.trans hlexed
  obtain ⟨events', hsource, hsigns⟩ := exists_traces_onePlusTwo
  exact ⟨hunfinished, ⟨events, t, c, htraces, (hall events t c htraces).2.2⟩, hroom, hnone,
    (hresult _ _ _ hsource hsigns).1⟩

end Precedence.Arithmetic
