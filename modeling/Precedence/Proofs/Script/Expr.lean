import Precedence.Proofs.Arithmetic.Shape
import Precedence.Proofs.Script.Emission
import Precedence.Proofs.Tree.Below

/-!
# Expressions of a script

The expressions that a script consists of, assignments inside of expressions left out: numbers, names, operations,
negations and calls.  An `Expr` stands for a tree and for the text of it.  Trees of the arithmetic grammar for which
there is a text (`Expressible`) are trees of expressions, except for the spelling of their numbers (`exists_expr`), and
the text of the tree of an expression is its text (`emit_tree`).
-/

namespace Precedence

namespace Tree

/-- The tree is an assignment. -/
def IsAssignment (t : Tree) : Prop := ∃ target value, t = node [atom assignLabel, target, value]

/-- The tree is a call of the literal of a negative number. -/
def CallsNegative (t : Tree) : Prop :=
  ∃ text argument, t = node [atom text, argument] ∧ isIntegerLiteral text ∧ literalValue text.toList < 0

/-- An atom with the shortest spelling of its number, if it is an integer literal. -/
def respelledText (text : String) : String :=
  if isIntegerLiteral text then toString (literalValue text.toList) else text

mutual

/-- The tree with its integer literals spelled as short as possible. -/
def respelled : Tree → Tree
  | failed => failed
  | atom text => atom (respelledText text)
  | node members => node (respelledAll members)

/-- The trees with their integer literals spelled as short as possible. -/
def respelledAll : List Tree → List Tree
  | [] => []
  | t :: ts => t.respelled :: respelledAll ts

end

end Tree

namespace Script

open Arithmetic

/-- The text of a symbol that is a name. -/
structure Name where
  text : String
  isName : isName text
  symbol : Lexeme .symbol text.toList

/-- An expression of a script. -/
inductive Expr where
  /-- An integer with no more digits than can be read. -/
  | number (n : Int) (short : (Nat.toDigits 10 n.natAbs).length ≤ digitLimit)
  | name (name : Name)
  | binary (op : Operator) (left right : Expr)
  | negate (operand : Expr)
  | call (callee argument : Expr)

namespace Expr

/-- The tree of an expression. -/
def tree : Expr → Tree
  | number n _ => .atom (toString n)
  | name x => .atom x.text
  | binary op left right => .node [.atom op.symbol, left.tree, right.tree]
  | negate operand => .node [.atom Tree.negateLabel, operand.tree]
  | call callee argument => .node [callee.tree, argument.tree]

/-- The text of an expression where a least precedence is required. -/
def text : Expr → Nat → String
  | number n _, _ => toString n
  | name x, _ => x.text
  | binary op left right, least =>
    enclosed op.precedence least (left.text op.precedence ++ " " ++ op.symbol ++ " " ++ right.text (op.precedence + 1))
  | negate operand, least => enclosed negationPrecedence least ("-" ++ operand.text negationPrecedence)
  | call callee argument, _ => callee.text primaryPrecedence ++ "(" ++ argument.text 0 ++ ")"

/-- No number is negated, and the tag of sequences is not called. -/
def Proper : Expr → Prop
  | number .. | name _ => True
  | binary _ left right => left.Proper ∧ right.Proper
  | negate operand => operand.Proper ∧ ∀ n short, operand ≠ number n short
  | call callee argument =>
    callee.Proper ∧ argument.Proper ∧ ∀ x, callee = name x → x.text ≠ Tree.sequenceLabel

/-- No negative number is called. -/
def Plain : Expr → Prop
  | number .. | name _ => True
  | binary _ left right => left.Plain ∧ right.Plain
  | negate operand => operand.Plain
  | call callee argument => callee.Plain ∧ argument.Plain ∧ ∀ n short, callee = number n short → 0 ≤ n

end Expr

/-! ### Texts of expressions -/

theorem Name.not_isIntegerLiteral (x : Name) : ¬ isIntegerLiteral x.text := not_isIntegerChars_of_symbol x.symbol

theorem form_binary (op : Operator) (l r : Tree) : (Tree.node [.atom op.symbol, l, r]).form = .binary op l r := by
  cases op <;>
    simp [Tree.form, Tree.taggedForm, Operator.symbol, Operator.ofSymbol?, Tree.sequenceLabel, Tree.assignLabel]

theorem form_assign (target value : Tree) :
    (Tree.node [.atom Tree.assignLabel, target, value]).form = .assign target value := by
  simp [Tree.form, Tree.taggedForm, Tree.assignLabel, Tree.sequenceLabel]

theorem form_negate (t : Tree) : (Tree.node [.atom Tree.negateLabel, t]).form = .negate t := by
  simp [Tree.form, Tree.taggedForm, Tree.negateLabel, Tree.sequenceLabel]

theorem form_call {f : Tree} (hsequence : f ≠ .atom Tree.sequenceLabel) (hnegate : f ≠ .atom Tree.negateLabel)
    (a : Tree) : (Tree.node [f, a]).form = .call f a := by
  cases f with
  | atom text =>
    have h1 : text ≠ Tree.sequenceLabel := fun h => hsequence (h ▸ rfl)
    have h2 : text ≠ Tree.negateLabel := fun h => hnegate (h ▸ rfl)
    simp [Tree.form, Tree.taggedForm, h1, h2]
  | failed => rfl
  | node => rfl

theorem atomText_toString {n : Int} (short : (Nat.toDigits 10 n.natAbs).length ≤ digitLimit) :
    atomText (toString n) = .ok (toString n) := by
  have hliteral : isIntegerChars (toString n).toList := isIntegerLiteral_toString n
  simp only [atomText, hliteral, literalDigits_toString, short, literalValue_toString, if_true]

theorem Name.atomText_text (x : Name) : atomText x.text = .ok x.text := by
  have hliteral : ¬ isIntegerChars x.text.toList := x.not_isIntegerLiteral
  simp only [atomText, hliteral, x.isName, if_true, if_false, Bool.false_eq_true]

theorem Expr.tree_ne_atom {e : Expr} {text : String} (hliteral : ¬ isIntegerLiteral text)
    (hname : ∀ x, e = name x → x.text ≠ text) : e.tree ≠ .atom text := by
  cases e with
  | number n =>
    intro h
    injection h with h
    exact hliteral (h ▸ isIntegerLiteral_toString n)
  | name x =>
    intro h
    injection h with h
    exact hname x rfl h
  | binary => nofun
  | negate => nofun
  | call => nofun

theorem Expr.form_call {callee argument : Expr} (h : (call callee argument).Proper) :
    (call callee argument).tree.form = .call callee.tree argument.tree := by
  refine Script.form_call (tree_ne_atom (by decide) h.2.2) (tree_ne_atom (by decide) ?_) _
  rintro x - hlabel
  exact not_symbol_negateLabel (hlabel ▸ x.symbol)

/-- The text of the tree of an expression is that of the expression. -/
theorem Expr.emit_tree {e : Expr} (h : e.Proper) (least : Nat) : emit e.tree least = .ok (e.text least) := by
  induction e generalizing least with
  | number n short =>
    rw [emit_form]
    exact atomText_toString short
  | name x =>
    rw [emit_form]
    exact x.atomText_text
  | binary op left right ihleft ihright =>
    rw [emit_form, tree, form_binary]
    simp only [ihleft h.1, ihright h.2]
    rfl
  | negate operand ih =>
    rw [emit_form, tree, form_negate]
    simp only [ih h.1]
    rfl
  | call callee argument ihcallee ihargument =>
    rw [emit_form, form_call h]
    simp only [ihcallee h.1, ihargument h.2.1]
    rfl

/-! ### Expressions of trees -/

private theorem exists_of_respelled {t : Tree} {text : String} (h : t.respelled = .atom text) :
    ∃ spelling, t = .atom spelling ∧ Tree.respelledText spelling = text := by
  cases t with
  | atom spelling =>
    injection h with h
    exact ⟨spelling, rfl, h⟩
  | failed => cases h
  | node => cases h

private theorem isIntegerLiteral_respelledText (text : String) :
    isIntegerLiteral (Tree.respelledText text) = isIntegerLiteral text := by
  unfold Tree.respelledText
  split
  · next h => rw [isIntegerLiteral_toString, h]
  · rfl

/-- Respelling makes no atom the literal of another number. -/
private theorem literalValue_of_respelledText {text : String} {n : Int} (h : Tree.respelledText text = toString n) :
    isIntegerLiteral text ∧ literalValue text.toList = n := by
  have hliteral : isIntegerLiteral text := by
    rw [← isIntegerLiteral_respelledText, h]
    exact isIntegerLiteral_toString n
  refine ⟨hliteral, ?_⟩
  rw [Tree.respelledText, if_pos hliteral] at h
  rw [← literalValue_toString (literalValue text.toList), h, literalValue_toString]

theorem eq_atom_of_respelled {t : Tree} {text : String} (h : t.respelled = .atom text)
    (hliteral : ¬ isIntegerLiteral text) : t = .atom text := by
  obtain ⟨spelling, rfl, htext⟩ := exists_of_respelled h
  have hspelling : ¬ isIntegerLiteral spelling := by
    rwa [← isIntegerLiteral_respelledText, htext]
  rw [Tree.respelledText, if_neg hspelling] at htext
  rw [htext]

/-- The trees that are written as expressions, assignments inside of them left out. -/
inductive Expressible : Tree → Prop
  | literal {text : String} (h : isIntegerLiteral text) (short : (literalDigits text.toList).length ≤ digitLimit) :
      Expressible (.atom text)
  | name (x : Name) : Expressible (.atom x.text)
  | negation {t : Tree} (operand : Expressible t) (folded : ∀ text, t = .atom text → ¬ isIntegerLiteral text) :
      Expressible (.node [.atom Tree.negateLabel, t])
  | binary {op : Operator} {l r : Tree} (left : Expressible l) (right : Expressible r) :
      Expressible (.node [.atom op.symbol, l, r])
  | call {f a : Tree} (callee : Expressible f) (argument : Expressible a) (untagged : f ≠ .atom Tree.sequenceLabel) :
      Expressible (.node [f, a])

theorem Expressible.ne_negateLabel {t : Tree} (h : Expressible t) : t ≠ .atom Tree.negateLabel := by
  rintro rfl
  generalize hlabel : Tree.negateLabel = label at h
  cases h with
  | literal hliteral =>
    subst hlabel
    exact absurd hliteral (by decide)
  | name x => exact not_symbol_negateLabel (hlabel ▸ x.symbol)

/-- A tree for which there is a text is one of these. -/
theorem expressible_of_emit {t : Tree} (h : Shaped t) (flat : ∀ u, u = t ∨ u.Below t → ¬ u.IsAssignment) {least : Nat}
    {text : String} (written : emit t least = .ok text) : Expressible t := by
  induction h generalizing least text with
  | @literal spelling hliteral =>
    have hchars : isIntegerChars spelling.toList := hliteral
    rw [emit_form] at written
    simp only [Tree.form, atomText, hchars, if_true] at written
    split at written
    · next hdigits => exact .literal hliteral hdigits
    · cases written
  | @symbol spelling hsymbol =>
    have hchars : ¬ isIntegerChars spelling.toList := not_isIntegerChars_of_symbol hsymbol
    rw [emit_form] at written
    simp only [Tree.form, atomText, hchars, if_false, Bool.false_eq_true] at written
    split at written
    · next hname => exact .name ⟨spelling, hname, hsymbol⟩
    · cases written
  | negation _ folded ih =>
    rw [emit_form, form_negate] at written
    obtain ⟨_, hoperand, _⟩ := exists_of_bind written
    exact .negation (ih (Tree.forall_of_mem flat (by simp)) hoperand) folded
  | binary _ _ ihleft ihright =>
    rw [emit_form, form_binary] at written
    obtain ⟨_, hleft, written⟩ := exists_of_bind written
    obtain ⟨_, hright, _⟩ := exists_of_bind written
    exact .binary (ihleft (Tree.forall_of_mem flat (by simp)) hleft)
      (ihright (Tree.forall_of_mem flat (by simp)) hright)
  | assignment => exact absurd ⟨_, _, rfl⟩ (flat _ (.inl rfl))
  | sequence =>
    rw [emit_form] at written
    simp [Tree.form, Tree.taggedForm] at written
  | @call f a hf _ ihcallee ihargument =>
    -- a node with one of these tags is no call, whatever its only member is
    have hsequence : f ≠ .atom Tree.sequenceLabel := by
      rintro rfl
      rw [emit_form] at written
      simp [Tree.form, Tree.taggedForm] at written
    have hnegate : f ≠ .atom Tree.negateLabel := by
      rintro rfl
      cases hf with
      | literal hliteral => exact absurd hliteral (by decide)
      | symbol hsymbol => exact not_symbol_negateLabel hsymbol
    rw [emit_form, form_call hsequence hnegate] at written
    obtain ⟨_, hcallee, written⟩ := exists_of_bind written
    obtain ⟨_, hargument, _⟩ := exists_of_bind written
    exact .call (ihcallee (Tree.forall_of_mem flat (by simp)) hcallee)
      (ihargument (Tree.forall_of_mem flat (by simp)) hargument) hsequence

/-- Such a tree is that of an expression, but for the spelling of its numbers, and it has the text of the expression. -/
theorem Expressible.exists_expr {t : Tree} (h : Expressible t) :
    ∃ e : Expr, e.Proper ∧ e.tree = t.respelled ∧ (∀ least, emit t least = .ok (e.text least)) ∧
      ((∀ u, u = t ∨ u.Below t → ¬ u.CallsNegative) → e.Plain) := by
  induction h with
  | @literal spelling hliteral hdigits =>
    have hchars : isIntegerChars spelling.toList := hliteral
    have hle := length_literalDigits_toString_le hchars
    rw [literalDigits_toString] at hle
    refine ⟨.number (literalValue spelling.toList) (Nat.le_trans hle hdigits), trivial, ?_, ?_, fun _ => trivial⟩
    · rw [Expr.tree, Tree.respelled, Tree.respelledText, if_pos hliteral]
    · intro least
      rw [emit_form]
      simp only [Tree.form, atomText, hchars, hdigits, if_true]
      rfl
  | name x =>
    refine ⟨.name x, trivial, ?_, ?_, fun _ => trivial⟩
    · rw [Expr.tree, Tree.respelled, Tree.respelledText, if_neg x.not_isIntegerLiteral]
    · intro least
      rw [emit_form]
      exact x.atomText_text
  | @negation operand _ folded ih =>
    obtain ⟨e, hproper, htree, htext, hplain⟩ := ih
    refine ⟨.negate e, ⟨hproper, ?_⟩, ?_, ?_, fun hnone => hplain (Tree.forall_of_mem hnone (by simp))⟩
    · -- the sign of a literal is part of the literal
      rintro n short rfl
      obtain ⟨spelling, rfl, hspelling⟩ := exists_of_respelled htree.symm
      exact folded spelling rfl (literalValue_of_respelledText hspelling).1
    · rw [Expr.tree, htree]
      rfl
    · intro least
      rw [emit_form, form_negate]
      simp only [htext]
      rfl
  | @binary op l r _ _ ihleft ihright =>
    obtain ⟨e, hproper, htree, htext, hplain⟩ := ihleft
    obtain ⟨e', hproper', htree', htext', hplain'⟩ := ihright
    refine ⟨.binary op e e', ⟨hproper, hproper'⟩, ?_, ?_, fun hnone =>
      ⟨hplain (Tree.forall_of_mem hnone (by simp)), hplain' (Tree.forall_of_mem hnone (by simp))⟩⟩
    · rw [Expr.tree, htree, htree']
      cases op <;> rfl
    · intro least
      rw [emit_form, form_binary]
      simp only [htext, htext']
      rfl
  | @call f a callee _ untagged ihcallee ihargument =>
    obtain ⟨e, hproper, htree, htext, hplain⟩ := ihcallee
    obtain ⟨e', hproper', htree', htext', hplain'⟩ := ihargument
    refine ⟨.call e e', ⟨hproper, hproper', ?_⟩, ?_, ?_, fun hnone =>
      ⟨hplain (Tree.forall_of_mem hnone (by simp)), hplain' (Tree.forall_of_mem hnone (by simp)), ?_⟩⟩
    · rintro x rfl hlabel
      refine untagged (eq_atom_of_respelled ?_ (by decide))
      rw [← htree, Expr.tree, hlabel]
    · rw [Expr.tree, htree, htree']
      rfl
    · intro least
      rw [emit_form, form_call untagged callee.ne_negateLabel]
      simp only [htext, htext']
      rfl
    · rintro n short rfl
      obtain ⟨spelling, rfl, hspelling⟩ := exists_of_respelled htree.symm
      obtain ⟨hliteral, hvalue⟩ := literalValue_of_respelledText hspelling
      have hcalls := hnone _ (.inl rfl)
      simp only [Tree.CallsNegative, not_exists, not_and] at hcalls
      have hnonneg := hcalls spelling a rfl hliteral
      omega

end Script

end Precedence
