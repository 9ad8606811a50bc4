import Precedence.Tree.Negation
import Precedence.Tree.Statements

/-!
# Statements of trees

The statements of several trees are those of each of them in turn (`statementsOf_append`).  A sequence has the
statements of its members (`statements_of_sequenceMembers?`), and a tree that is no sequence is one statement
(`statements_of_no_sequence`).
-/

namespace Precedence.Tree

theorem weight_lt_weights {t : Tree} {ts : List Tree} (h : t ∈ ts) : t.weight < weights ts := by
  induction ts with
  | nil => cases h
  | cons s ts ih =>
    rw [weights]
    rcases List.mem_cons.mp h with rfl | hmem
    · omega
    · have := ih hmem
      omega

theorem eq_of_isTagged {t : Tree} {label : String} (h : t.isTagged label) :
    ∃ members, t = node (atom label :: members) := by
  unfold isTagged at h
  split at h
  · next text members => exact ⟨members, by rw [eq_of_beq h]⟩
  · cases h

theorem eq_of_sequenceMembers? {t : Tree} {members : List Tree} (h : t.sequenceMembers? = some members) :
    t = node (atom sequenceLabel :: members) := by
  unfold sequenceMembers? at h
  split at h
  · split at h
    · next hlabel =>
      cases h
      rw [hlabel]
    · cases h
  · cases h

theorem statementsOf_append (ts us : List Tree) : statementsOf (ts ++ us) = statementsOf ts ++ statementsOf us := by
  fun_induction statementsOf ts with
  | case1 => rfl
  | case2 t ts members hmembers ih =>
    rw [List.cons_append, statementsOf]
    split
    · next others hothers =>
      cases hmembers.symm.trans hothers
      rw [← List.append_assoc, ih]
    · next hnone => cases hmembers.symm.trans hnone
  | case3 t ts hnone ih =>
    rw [List.cons_append, statementsOf]
    split
    · next members hmembers => cases hnone.symm.trans hmembers
    · rw [ih, List.cons_append]

/-- The statements of a sequence are those of its members. -/
theorem statements_of_sequenceMembers? {t : Tree} {members : List Tree} (h : t.sequenceMembers? = some members) :
    t.statements = statementsOf members := by
  rw [statements, statementsOf]
  split
  · next others hothers =>
    cases h.symm.trans hothers
    rw [List.append_nil]
  · next hnone => cases h.symm.trans hnone

/-- A tree that is no sequence is a statement. -/
theorem statements_of_no_sequence {t : Tree} (h : t.sequenceMembers? = none) : t.statements = [t] := by
  rw [statements, statementsOf]
  split
  · next members hmembers => cases h.symm.trans hmembers
  · rw [statementsOf]

theorem statements_sequence (members : List Tree) :
    (node (atom sequenceLabel :: members)).statements = statementsOf members :=
  statements_of_sequenceMembers? (by rw [sequenceMembers?, if_pos rfl])

/-- What is true of all members of a sequence that it is true of is true of all statements of a tree. -/
theorem forall_statements {p : Tree → Prop} {t : Tree} (h : p t)
    (hmembers : ∀ members, p (node (atom sequenceLabel :: members)) → ∀ t ∈ members, p t) :
    ∀ s ∈ t.statements, p s := by
  have hall : ∀ pending : List Tree, (∀ t ∈ pending, p t) → ∀ s ∈ statementsOf pending, p s := by
    intro pending hpending
    fun_induction statementsOf pending with
    | case1 => simp
    | case2 t pending members hsequence ih =>
      rw [List.forall_mem_cons, eq_of_sequenceMembers? hsequence] at hpending
      exact ih (List.forall_mem_append.mpr ⟨hmembers members hpending.1, hpending.2⟩)
    | case3 t pending _ ih =>
      rw [List.forall_mem_cons] at hpending
      exact List.forall_mem_cons.mpr ⟨hpending.1, ih hpending.2⟩
  exact hall [t] (by simpa using h)

/-! ### Trees that are no sequences -/

theorem sequenceMembers?_node {label : String} (h : label ≠ sequenceLabel) (members : List Tree) :
    (node (atom label :: members)).sequenceMembers? = none := by
  rw [sequenceMembers?, if_neg h]

theorem sequenceMembers?_negated (t : Tree) : t.negated.sequenceMembers? = none := by
  have hlabel : negateLabel ≠ sequenceLabel := by decide
  unfold negated
  split
  · split
    · rfl
    · exact sequenceMembers?_node hlabel _
  · exact sequenceMembers?_node hlabel _

end Precedence.Tree
