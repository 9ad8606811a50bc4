import Precedence.Proofs.Tree.Statements
import Precedence.Tree.Operator

/-!
# What the nodes of the arithmetic grammar mean

`form` reads a tree by the tags of the arithmetic grammar: a sequence of statements, an assignment, a binary operation,
a negation, a call, or a node without meaning.  The tag `sequence` comes first, so a sequence is never a call; a pair is
a call unless its tag is the minus sign.

The walk that evaluates and the one that writes a script decide about a node on their own, and each of them twice: when
the operands are queued, and when they have given their results.  The operands that they queue are those of the form
(`Evaluation.operandsOf_form`, `Script.operandsOf_form`), and what they make of the results follows the form as well.
All that has to be known of a tree for this is which trees have its form (`hasForm`).
-/

namespace Precedence.Tree

/-- A tree, read by the tags of the arithmetic grammar. -/
inductive Form where
  | incomplete
  | atom (text : String)
  | sequence (members : List Tree)
  | assign (target value : Tree)
  | binary (op : Operator) (left right : Tree)
  | negate (operand : Tree)
  | call (callee argument : Tree)
  | other

/-- The form of a node whose first member is the atom. -/
def taggedForm (label : String) (members : List Tree) : Form :=
  if label = sequenceLabel then .sequence members
  else match members with
    | [operand] => if label = negateLabel then .negate operand else .call (.atom label) operand
    | [left, right] =>
      if label = assignLabel then .assign left right
      else match Operator.ofSymbol? label with
        | some op => .binary op left right
        | none => .other
    | _ => .other

/-- The form of a tree. -/
def form : Tree → Form
  | failed => .incomplete
  | atom text => .atom text
  | node (atom label :: members) => taggedForm label members
  | node [callee, argument] => .call callee argument
  | node _ => .other

/-! ### The trees of a form -/

/-- The members are those of no sequence and of no pair, and those of a triple only if it is tagged neither as an
assignment nor by an operator. -/
structure Meaningless (members : List Tree) : Prop where
  not_sequence : ∀ rest, members ≠ atom sequenceLabel :: rest
  not_pair : ∀ first second, members ≠ [first, second]
  not_assign : ∀ left right, members ≠ [atom assignLabel, left, right]
  no_operator : ∀ label left right, members = [atom label, left, right] → Operator.ofSymbol? label = none

/-- The trees of each form.  A call is a pair that is tagged neither as a sequence nor as a negation. -/
inductive HasForm : Tree → Form → Prop
  | incomplete : HasForm failed .incomplete
  | atom (text : String) : HasForm (atom text) (.atom text)
  | sequence (members : List Tree) : HasForm (node (.atom sequenceLabel :: members)) (.sequence members)
  | assign (target value : Tree) : HasForm (node [.atom assignLabel, target, value]) (.assign target value)
  | binary (op : Operator) (left right : Tree) : HasForm (node [.atom op.symbol, left, right]) (.binary op left right)
  | negate (operand : Tree) : HasForm (node [.atom negateLabel, operand]) (.negate operand)
  | call {callee argument : Tree} (not_sequence : callee ≠ .atom sequenceLabel)
    (not_negate : callee ≠ .atom negateLabel) : HasForm (node [callee, argument]) (.call callee argument)
  | other {members : List Tree} (meaningless : Meaningless members) : HasForm (node members) .other

theorem symbol_of_ofSymbol? {label : String} {op : Operator} (h : Operator.ofSymbol? label = some op) :
    op.symbol = label := by
  unfold Operator.ofSymbol? at h
  grind [Operator.symbol]

theorem hasForm_taggedForm (label : String) (members : List Tree) :
    HasForm (node (atom label :: members)) (taggedForm label members) := by
  unfold taggedForm
  split
  · next hsequence => exact hsequence ▸ .sequence members
  next hsequence =>
  have hother : ∀ rest, atom label :: members ≠ atom sequenceLabel :: rest := by simp [hsequence]
  split
  · next operand =>
    split
    · next hnegate => exact hnegate ▸ .negate operand
    · next hnegate => exact .call (by simpa using hsequence) (by simpa using hnegate)
  · next left right =>
    split
    · next hassign => exact hassign ▸ .assign left right
    next hassign =>
    split
    · next op hsymbol => exact symbol_of_ofSymbol? hsymbol ▸ .binary op left right
    · next hsymbol => exact .other ⟨hother, by simp, by simp [hassign], by simpa using hsymbol⟩
  · next hone htwo =>
    have hpair : ∀ first second, atom label :: members ≠ [first, second] :=
      fun _ second heq => hone second (List.cons.inj heq).2
    have htriple : ∀ tag left right, atom label :: members ≠ [tag, left, right] :=
      fun _ left right heq => htwo left right (List.cons.inj heq).2
    exact .other ⟨hother, hpair, htriple _, fun _ _ _ heq => absurd heq (htriple _ _ _)⟩

/-- Every tree has its form. -/
theorem hasForm (t : Tree) : t.HasForm t.form := by
  unfold form
  split
  · exact .incomplete
  · next text => exact .atom text
  · next label members => exact hasForm_taggedForm label members
  · next callee argument htagged => exact .call (htagged _) (htagged _)
  · next members htagged hpair =>
    exact .other ⟨htagged _, hpair, fun _ _ => htagged _ _, fun _ _ _ heq => absurd heq (htagged _ _)⟩

/-- How much the parts of a form weigh, with the steps it takes to put their results together. -/
def Form.weight : Form → Nat
  | incomplete | atom _ | other => 0
  | sequence members => weights members + 2
  | assign _ value => value.weight + 2
  | binary _ left right => left.weight + right.weight + 3
  | negate operand => operand.weight + 2
  | call callee argument => callee.weight + argument.weight + 3

/-- A walk over the parts of a tree takes fewer steps than the tree's weight allows. -/
theorem form_weight_lt (t : Tree) : t.form.weight < t.weight := by
  have hform := t.hasForm
  generalize t.form = form at hform ⊢
  cases hform <;> simp only [Form.weight, weight, weights] <;> omega

theorem eq_atom_of_form {t : Tree} {text : String} (h : t.form = .atom text) : t = atom text := by
  have hform := t.hasForm
  rw [h] at hform
  cases hform
  rfl

theorem eq_of_form_assign {t target value : Tree} (h : t.form = .assign target value) :
    t = node [atom assignLabel, target, value] := by
  have hform := t.hasForm
  rw [h] at hform
  cases hform
  rfl

/-! ### Tags -/

theorem isTagged_eq_false {members : List Tree} {label : String} (h : ∀ rest, members ≠ atom label :: rest) :
    (node members).isTagged label = false := by
  refine Bool.eq_false_iff.mpr fun htagged => ?_
  obtain ⟨rest, heq⟩ := eq_of_isTagged htagged
  exact h rest (node.inj heq)

theorem isTagged_pair_eq_false {first second : Tree} {label : String} (h : first ≠ atom label) :
    (node [first, second]).isTagged label = false :=
  isTagged_eq_false fun _ heq => h (List.head_eq_of_cons_eq heq)

namespace Meaningless

variable {members : List Tree}

theorem isTagged_sequence (h : Meaningless members) : (node members).isTagged sequenceLabel = false :=
  isTagged_eq_false h.not_sequence

theorem isTagged_assign {tag left right : Tree} (h : Meaningless [tag, left, right]) :
    (node [tag, left, right]).isTagged assignLabel = false := by
  refine isTagged_eq_false fun rest heq => h.not_assign left right ?_
  rw [List.head_eq_of_cons_eq heq]

theorem text?_bind_eq_none {α : Type} {tag left right : Tree} {meaning : String → Option α}
    (h : Meaningless [tag, left, right]) (hmeaning : ∀ label, Operator.ofSymbol? label = none → meaning label = none) :
    tag.text?.bind meaning = none := by
  cases tag with
  | atom label => exact hmeaning label (h.no_operator label left right rfl)
  | _ => rfl

end Meaningless

end Precedence.Tree
