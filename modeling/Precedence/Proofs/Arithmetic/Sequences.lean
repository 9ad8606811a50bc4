import Precedence.Proofs.Arithmetic.Phrase
import Precedence.Proofs.Parse.Progress
import Precedence.Proofs.Tree.Statements

/-!
# Sequences of statements

The statements of a tree are found with a list of pending trees, onto which the members of a sequence go.  They are the
ones that a recursion on the tree finds (`statements_eq_flattened`), and none of them is a sequence itself
(`isTagged_of_mem_statementsOf`).

What is parsed behind a separator is added to the statements before it (`statements_followedBy`).  The members of the
tree do not show that: a sequence before the separator goes on, while a sequence behind it becomes a member.
-/

namespace Precedence

namespace Tree

/-! ### Statements by recursion -/

/-- The statements of a tree, by recursion on the tree: those of the members of a sequence in order, and any other tree
as it is. -/
def flattened : Tree → List Tree
  | node (atom label :: members) =>
    if label = "sequence" then members.flatMap flattened else [node (atom label :: members)]
  | t => [t]

theorem flattened_of_sequenceMembers? {t : Tree} {members : List Tree} (h : t.sequenceMembers? = some members) :
    t.flattened = members.flatMap flattened := by
  rw [eq_of_sequenceMembers? h, sequenceLabel, flattened, if_pos rfl]

theorem flattened_of_no_sequence {t : Tree} (h : t.sequenceMembers? = none) : t.flattened = [t] := by
  fun_cases flattened t with
  | case1 members => cases h
  | case2 => rfl
  | case3 => rfl

/-- The statements of pending trees are those of each of them, one after the other. -/
theorem statementsOf_eq_flatMap (pending : List Tree) : statementsOf pending = pending.flatMap flattened := by
  fun_induction statementsOf pending with
  | case1 => rfl
  | case2 t pending members hmembers ih =>
    rw [ih, List.flatMap_append, List.flatMap_cons, flattened_of_sequenceMembers? hmembers]
  | case3 t pending hnone ih =>
    rw [ih, List.flatMap_cons, flattened_of_no_sequence hnone]
    rfl

theorem statements_eq_flattened (t : Tree) : t.statements = t.flattened := by
  rw [statements, statementsOf_eq_flatMap, List.flatMap_singleton]

theorem isTagged_of_no_sequence {t : Tree} (h : t.sequenceMembers? = none) : t.isTagged sequenceLabel = false := by
  rw [Bool.eq_false_iff]
  intro htagged
  obtain ⟨members, rfl⟩ := eq_of_isTagged htagged
  cases h

/-- No statement is a sequence. -/
theorem isTagged_of_mem_statementsOf {s : Tree} {pending : List Tree} (h : s ∈ statementsOf pending) :
    s.isTagged sequenceLabel = false := by
  fun_induction statementsOf pending with
  | case1 => cases h
  | case2 t pending members hmembers ih => exact ih h
  | case3 t pending hnone ih =>
    rcases List.mem_cons.mp h with rfl | hmem
    · exact isTagged_of_no_sequence hnone
    · exact ih hmem

/-! ### Statements behind a separator -/

theorem statementsOf_listed (t : Tree) : statementsOf t.listed = t.statements := by
  rw [listed_eq]
  cases h : t.sequenceMembers? with
  | none => rfl
  | some members => exact (statements_of_sequenceMembers? h).symm

/-- The statements on both sides of a separator are those on its left and then the one on its right, flattened. -/
theorem statements_followedBy (left : Tree) (right : Option Tree) :
    (left.followedBy right).statements = left.statements ++ statementsOf right.toList := by
  rw [followedBy_eq, statements_sequence, statementsOf_append, statementsOf_listed]

theorem succeeded?_of_ne_failed {t : Tree} (h : t ≠ failed) : t.succeeded? = some t := by
  cases t with
  | failed => exact (h rfl).elim
  | atom | node => rfl

end Tree

/-- A separator takes what is parsed behind it as a further statement, unless the input ends there or is closed. -/
theorem parseLeft_of_sequence (parse : Int → Parse Tree) {token : Token} {close : Delimiter} (left : Tree) (c : Context)
    (hmeans : token.kind.left = .sequence close) :
    token.parseLeft parse left c =
      if c.lookahead.isEnd || c.lookahead.is close then .ok (left.followedBy none) c
      else match parse token.kind.bindingPower c with
        | .ok right c' => .ok (left.followedBy right.succeeded?) c'
        | .error error c' => .error error c' := by
  rw [Token.parseLeft, hmeans]
  show (if c.lookahead.isEnd || c.lookahead.is close then _ else _ : Parse Tree) c = _
  split
  · rfl
  · rw [Parse.bind_apply]
    cases parse token.kind.bindingPower c <;> rfl

namespace Tree

/-- The statements of a tree are found by recursion on it, and none of them is a sequence.  A separator makes a tree
that has the statements of the one before it and then those of the one that is parsed behind it, if that has not failed.
At the end of the input, or where it is closed, the tree has the statements of the one before the separator. -/
theorem statements_flattening :
    (∀ t : Tree, t.statements = t.flattened ∧ ∀ s ∈ t.statements, s.isTagged "sequence" = false) ∧
      ∀ (parse : Int → Parse Tree) (token : Token) (close : Delimiter) (left : Tree) (c : Context),
        token.kind.left = .sequence close →
          (c.lookahead.isEnd ∨ c.lookahead.is close →
            ∃ t, token.parseLeft parse left c = .ok t c ∧ t.statements = left.statements) ∧
          (¬ (c.lookahead.isEnd ∨ c.lookahead.is close) →
            ∀ right c', parse token.kind.bindingPower c = .ok right c' → right ≠ failed →
              ∃ t, token.parseLeft parse left c = .ok t c' ∧ t.statements = left.statements ++ right.statements) := by
  refine ⟨fun t => ⟨t.statements_eq_flattened, fun s => isTagged_of_mem_statementsOf⟩, ?_⟩
  intro parse token close left c hmeans
  have hparse := parseLeft_of_sequence parse left c hmeans
  constructor
  · intro hends
    rw [if_pos (by simpa using hends)] at hparse
    refine ⟨_, hparse, ?_⟩
    rw [statements_followedBy, Option.toList_none, statementsOf, List.append_nil]
  · intro hgoes right c' hright hne
    rw [if_neg (by simpa using hgoes), hright] at hparse
    refine ⟨_, hparse, ?_⟩
    rw [statements_followedBy, succeeded?_of_ne_failed hne, Option.toList_some]
    rfl

/-- The state behind the first separator of `sequence(1);(a;b)`. -/
def groupAhead : Context where
  rest := [⟨.openParen, "("⟩, ⟨.symbol, "a"⟩, ⟨.sequence, ";"⟩, ⟨.symbol, "b"⟩, ⟨.closeParen, ")"⟩]
  consumed := 5

theorem statements_flattening_mergedCall :
    let separator : Token := ⟨.sequence, ";"⟩
    let call : Tree := node [atom "sequence", atom "1"]
    let group : Tree := node [atom "sequence", atom "a", atom "b"]
    let behind : Context := ⟨[], 10, []⟩
    separator.kind.left = .sequence Kind.closeParen.delimiter ∧
      Parse.expression Parse.depthLimit 10 groupAhead = .ok group behind ∧ group ≠ failed ∧
      (∃ t, separator.parseLeft (Parse.expression Parse.depthLimit) call groupAhead = .ok t behind ∧
        t.statements = [atom "1", atom "a", atom "b"]) ∧
      ∃ t, separator.parseLeft (Parse.expression Parse.depthLimit) group behind = .ok t behind ∧
        t.statements = [atom "a", atom "b"] := by
  intro separator call group behind
  have hcall : call.statements = [atom "1"] := by
    simp [call, statements, statementsOf, sequenceMembers?, sequenceLabel]
  have hgroup : group.statements = [atom "a", atom "b"] := by
    simp [group, statements, statementsOf, sequenceMembers?, sequenceLabel]
  have hparse : Parse.expression Parse.depthLimit 10 groupAhead = .ok group behind := rfl
  have hne : group ≠ failed := by simp [group]
  obtain ⟨-, hseparator⟩ := statements_flattening
  obtain ⟨-, hgoes⟩ := hseparator (Parse.expression Parse.depthLimit) separator _ call groupAhead rfl
  obtain ⟨hends, -⟩ := hseparator (Parse.expression Parse.depthLimit) separator _ group behind rfl
  obtain ⟨t, ht, hstatements⟩ := hgoes (by decide) group behind hparse hne
  obtain ⟨u, hu, hsame⟩ := hends (.inl (by decide))
  rw [hcall, hgroup] at hstatements
  rw [hgroup] at hsame
  exact ⟨rfl, hparse, hne, ⟨t, ht, hstatements⟩, u, hu, hsame⟩

end Tree

end Precedence
