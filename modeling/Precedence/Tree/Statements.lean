import Precedence.Tree

/-!
# Statements

A tree tagged `sequence` is a list of statements, and sequences may be nested.  `statements` flattens them from left to
right; a tree that is no sequence is a single statement.
-/

namespace Precedence.Tree

/-- The members of a sequence. -/
def sequenceMembers? : Tree → Option (List Tree)
  | node (atom text :: members) => if text = sequenceLabel then some members else none
  | _ => none

theorem weights_append (ts us : List Tree) : weights (ts ++ us) = weights ts + weights us := by
  induction ts with
  | nil => simp [weights]
  | cons t ts ih => simp [weights, ih]; omega

theorem weights_tail_le (ts : List Tree) : weights ts.tail ≤ weights ts := by
  cases ts with
  | nil => exact Nat.le_refl _
  | cons t ts => exact Nat.le_add_left _ _

/-- A sequence weighs more than its members together. -/
theorem weights_lt_of_sequenceMembers? {t : Tree} {members : List Tree} (h : t.sequenceMembers? = some members) :
    weights members + 3 < weight t := by
  unfold sequenceMembers? at h
  split at h
  · split at h
    · cases h; simp [weight, weights]; omega
    · contradiction
  · contradiction

/-- The statements of the pending trees, in order. -/
def statementsOf : List Tree → List Tree
  | [] => []
  | t :: pending =>
    match _h : t.sequenceMembers? with
    | some members => statementsOf (members ++ pending)
    | none => t :: statementsOf pending
termination_by pending => weights pending
decreasing_by
  · have := weights_lt_of_sequenceMembers? _h
    simp [weights, weights_append]; omega
  · simp [weights]

/-- The statements of a tree. -/
def statements (t : Tree) : List Tree := statementsOf [t]

end Precedence.Tree
