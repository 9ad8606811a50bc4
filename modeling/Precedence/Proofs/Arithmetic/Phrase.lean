import Precedence.Arithmetic
import Precedence.Tree.Operator

/-!
# The grammar of arithmetic

The phrases of each category and their trees, as a grammar gives them: with `S` for statements, `A` for an assignment,
`B` for a sum, `T` for a term, `U` for an operand with signs, `C` for a call and `P` for a primary,

* `S := A (';' A)* [';']`, `A := B ('=' B)*`, `B := T (('+' | '-') T)*`, `T := U (('*' | '/') U)*`,
* `U := ('+' | '-') U | C`, `C := P ('(' S ')')*`, `P := number | symbol | '(' S ')'`.

A repetition folds to the left, so it is a rule that begins with a phrase of the same category.  Nothing here depends on
how a parser goes about it.
-/

namespace Precedence

/-- The kind of the tokens that stand for the operator. -/
def Operator.kind : Operator → Kind
  | add => .plus
  | sub => .minus
  | mul => .times
  | div => .divide

/-- The statements that a tree stands for on the left of a separator: the members of a sequence, or else the tree. -/
def Tree.listed : Tree → List Tree
  | node (atom label :: members) => if label = sequenceLabel then members else [node (atom label :: members)]
  | t => [t]

namespace Tree

theorem listed_eq (t : Tree) : t.listed = t.sequenceMembers?.getD [t] := by
  rcases t with _ | text | (_ | ⟨(_ | label | _), members⟩)
  case node.cons.atom =>
    unfold listed sequenceMembers?
    by_cases h : label = sequenceLabel <;> simp [h]
  all_goals rfl

theorem followedBy_eq (t : Tree) (right : Option Tree) :
    t.followedBy right = node (atom sequenceLabel :: (t.listed ++ right.toList)) := by
  rw [listed_eq]
  unfold followedBy
  cases t.sequenceMembers? <;> rfl

theorem succeeded?_negated (t : Tree) : t.negated.succeeded? = some t.negated := by
  unfold negated
  split
  · split <;> rfl
  · rfl

end Tree

namespace Arithmetic

/-- The categories of phrases, from the loosest to the tightest. -/
inductive Category where
  | statements
  /-- Statements without a separator at the end. -/
  | sequence
  | assignment
  | sum
  | term
  | unary
  | call
  | primary

namespace Category

/-- The category that takes the phrases of the category as they are. -/
def looser : Category → Category
  | statements | sequence => statements
  | assignment => sequence
  | sum => assignment
  | term => sum
  | unary => term
  | call => unary
  | primary => call

/-- The place of a category in the order. -/
def rank : Category → Nat
  | statements => 0
  | sequence => 1
  | assignment => 2
  | sum => 3
  | term => 4
  | unary => 5
  | call => 6
  | primary => 7

end Category

/-- The tokens are a phrase of the category, and the tree is what they stand for. -/
inductive Phrase : Category → List Token → Tree → Prop
  | number {token : Token} (kind : token.kind = .number) : Phrase .primary [token] (.atom token.value)
  | symbol {token : Token} (kind : token.kind = .symbol) : Phrase .primary [token] (.atom token.value)
  | group {opening closing : Token} {u : List Token} {t : Tree} (opens : opening.kind = .openParen)
      (inner : Phrase .statements u t) (closes : closing.kind = .closeParen) :
      Phrase .primary (opening :: (u ++ [closing])) t
  | call {opening closing : Token} {u v : List Token} {f a : Tree} (callee : Phrase .call u f)
      (opens : opening.kind = .openParen) (argument : Phrase .statements v a) (closes : closing.kind = .closeParen) :
      Phrase .call (u ++ opening :: (v ++ [closing])) (.node [f, a])
  | positive {sign : Token} {u : List Token} {t : Tree} (kind : sign.kind = .plus) (operand : Phrase .unary u t) :
      Phrase .unary (sign :: u) t
  | negative {sign : Token} {u : List Token} {t : Tree} (kind : sign.kind = .minus) (operand : Phrase .unary u t) :
      Phrase .unary (sign :: u) t.negated
  | term {op : Operator} {token : Token} {u v : List Token} {l r : Tree} (isFactor : op = .mul ∨ op = .div)
      (left : Phrase .term u l) (kind : token.kind = op.kind) (right : Phrase .unary v r) :
      Phrase .term (u ++ token :: v) (.node [.atom op.symbol, l, r])
  | sum {op : Operator} {token : Token} {u v : List Token} {l r : Tree} (isSummand : op = .add ∨ op = .sub)
      (left : Phrase .sum u l) (kind : token.kind = op.kind) (right : Phrase .term v r) :
      Phrase .sum (u ++ token :: v) (.node [.atom op.symbol, l, r])
  | assignment {token : Token} {u v : List Token} {l r : Tree} (left : Phrase .assignment u l)
      (kind : token.kind = .assign) (right : Phrase .sum v r) :
      Phrase .assignment (u ++ token :: v) (.node [.atom Tree.assignLabel, l, r])
  | sequence {token : Token} {u v : List Token} {l r : Tree} (left : Phrase .sequence u l)
      (kind : token.kind = .sequence) (right : Phrase .assignment v r) :
      Phrase .sequence (u ++ token :: v) (.node (.atom Tree.sequenceLabel :: (l.listed ++ [r])))
  | trailing {token : Token} {u : List Token} {t : Tree} (left : Phrase .sequence u t) (kind : token.kind = .sequence) :
      Phrase .statements (u ++ [token]) (.node (.atom Tree.sequenceLabel :: t.listed))
  | looser {category : Category} {u : List Token} {t : Tree} (phrase : Phrase category u t) :
      Phrase category.looser u t

/-! ### Phrases of looser categories -/

theorem Phrase.loosen {a b : Category} {u : List Token} {t : Tree} (h : Phrase b u t) (hrank : a.rank ≤ b.rank) :
    Phrase a u t := by
  obtain ⟨n, hn⟩ := Nat.exists_eq_add_of_le hrank
  induction n generalizing b with
  | zero =>
    have hab : b = a := by cases a <;> cases b <;> first | rfl | (simp [Category.rank] at hn)
    exact hab ▸ h
  | succ n ih =>
    have hlooser : b.looser.rank = a.rank + n := by
      cases b <;> simp only [Category.rank, Category.looser] at hn ⊢ <;> omega
    exact ih h.looser (by omega) hlooser

/-- The first token of a phrase is one that an operand begins with. -/
theorem Phrase.exists_cons {category : Category} {u : List Token} {t : Tree} (h : Phrase category u t) :
    ∃ token rest, u = token :: rest ∧ token.kind ∈ [Kind.number, .symbol, .openParen, .plus, .minus] := by
  induction h with
  | number kind | symbol kind => exact ⟨_, _, rfl, by simp [kind]⟩
  | group opens => exact ⟨_, _, rfl, by simp [opens]⟩
  | positive kind | negative kind => exact ⟨_, _, rfl, by simp [kind]⟩
  | call _ _ _ _ ih | term _ _ _ _ ih | sum _ _ _ _ ih | assignment _ _ _ ih | sequence _ _ _ ih | trailing _ _ ih =>
    obtain ⟨token, rest, rfl, hkind⟩ := ih
    exact ⟨token, _, rfl, hkind⟩
  | looser _ ih => exact ih

private theorem kind_mem_arithmetic (op : Operator) : op.kind ∈ Kind.arithmetic := by
  cases op <;> decide

/-- All tokens of a phrase are of the kinds of arithmetic. -/
theorem Phrase.kind_mem {category : Category} {u : List Token} {t : Tree} (h : Phrase category u t) :
    ∀ token ∈ u, token.kind ∈ Kind.arithmetic := by
  induction h with
  | number kind | symbol kind =>
    intro token hmem
    obtain rfl := List.mem_singleton.mp hmem
    rw [kind]
    decide
  | group opens _ closes ih =>
    simp only [List.forall_mem_cons, List.forall_mem_append, opens, closes]
    exact ⟨by decide, ih, by decide⟩
  | call _ opens _ closes ihcallee ihargument =>
    simp only [List.forall_mem_cons, List.forall_mem_append, opens, closes]
    exact ⟨ihcallee, by decide, ihargument, by decide⟩
  | positive kind _ ih | negative kind _ ih =>
    simp only [List.forall_mem_cons, kind]
    exact ⟨by decide, ih⟩
  | term _ _ kind _ ihleft ihright | sum _ _ kind _ ihleft ihright =>
    simp only [List.forall_mem_cons, List.forall_mem_append, kind]
    exact ⟨ihleft, kind_mem_arithmetic _, ihright⟩
  | assignment _ kind _ ihleft ihright | sequence _ kind _ ihleft ihright =>
    simp only [List.forall_mem_cons, List.forall_mem_append, kind]
    exact ⟨ihleft, by decide, ihright⟩
  | trailing _ kind ih =>
    simp only [List.forall_mem_append, List.forall_mem_singleton, kind]
    exact ⟨ih, by decide⟩
  | looser _ ih => exact ih

end Arithmetic

end Precedence
