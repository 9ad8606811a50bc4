import Precedence.Proofs.Arithmetic.Phrase
import Precedence.Proofs.Script.Expr

/-!
# Rereading of expressions

How the text of an expression is read again.  The sign of a negative number is a token of its own, so where the number
is called the sign goes to the whole call: `-5(x)` is the negation of `5(x)`.  `reread` is the expression that comes
out, and it has the same text (`text_reread`).  It is the expression itself if no negative number is called
(`reread_eq`).

The text is a rendering of `tokens` (`writes_tokens`), and these are a phrase with the tree of the expression that is
read again (`phrase_tokens`).  A least precedence corresponds to a category: an operand that is not enclosed for it is
a phrase of the category (`level`).
-/

namespace Precedence.Script.Expr

open Arithmetic

/-- Whether the text begins with the sign of a number. -/
def isNegative : Expr → Bool
  | number n _ => n < 0
  | call callee _ => callee.isNegative
  | _ => false

/-- The negation of an expression, which is done on a number itself. -/
def opposite : Expr → Expr
  | number n short => number (-n) (by rwa [Int.natAbs_neg])
  | e => negate e

/-- The expression or its negation. -/
def signed (isNegative : Bool) (e : Expr) : Expr := if isNegative then e.opposite else e

/-- The expression that is read behind the sign of a number, if the text begins with one. -/
def core : Expr → Expr
  | number n short => number n.natAbs (by rwa [Int.natAbs_natCast])
  | name x => name x
  | binary op left right => binary op (left.core.signed left.isNegative) (right.core.signed right.isNegative)
  | negate operand => negate (operand.core.signed operand.isNegative)
  | call callee argument => call callee.core (argument.core.signed argument.isNegative)

/-- The expression that is read from the text. -/
def reread (e : Expr) : Expr := e.core.signed e.isNegative

/-! ### Tokens -/

/-- The sign of a number. -/
def sign (isNegative : Bool) : List Token := if isNegative then [⟨.minus, "-"⟩] else []

/-- Tokens, between parentheses if their precedence is less than required. -/
def enclosedTokens (precedence least : Nat) (tokens : List Token) : List Token :=
  if precedence < least then ⟨.openParen, "("⟩ :: (tokens ++ [⟨.closeParen, ")"⟩]) else tokens

/-- The tokens behind the sign of a number, if the text begins with one. -/
def coreTokens : Expr → Nat → List Token
  | number n _, _ => [⟨.number, toString n.natAbs⟩]
  | name x, _ => [⟨.symbol, x.text⟩]
  | binary op left right, least =>
    enclosedTokens op.precedence least ((sign left.isNegative ++ left.coreTokens op.precedence) ++
      ⟨op.kind, op.symbol⟩ :: (sign right.isNegative ++ right.coreTokens (op.precedence + 1)))
  | negate operand, least =>
    enclosedTokens negationPrecedence least
      (⟨.minus, "-"⟩ :: (sign operand.isNegative ++ operand.coreTokens negationPrecedence))
  | call callee argument, _ =>
    callee.coreTokens primaryPrecedence ++
      ⟨.openParen, "("⟩ :: ((sign argument.isNegative ++ argument.coreTokens 0) ++ [⟨.closeParen, ")"⟩])

/-- The tokens of the text. -/
def tokens (e : Expr) (least : Nat) : List Token := sign e.isNegative ++ e.coreTokens least

theorem tokens_binary (op : Operator) (left right : Expr) (least : Nat) :
    (binary op left right).tokens least = enclosedTokens op.precedence least
      (left.tokens op.precedence ++ ⟨op.kind, op.symbol⟩ :: right.tokens (op.precedence + 1)) := rfl

theorem tokens_negate (operand : Expr) (least : Nat) :
    (negate operand).tokens least =
      enclosedTokens negationPrecedence least (⟨.minus, "-"⟩ :: operand.tokens negationPrecedence) := rfl

theorem tokens_call (callee argument : Expr) (least : Nat) :
    (call callee argument).tokens least =
      callee.tokens primaryPrecedence ++ ⟨.openParen, "("⟩ :: (argument.tokens 0 ++ [⟨.closeParen, ")"⟩]) := by
  simp [tokens, coreTokens, isNegative]

/-- The text begins with no letter or digit, so that it goes on with no number and no name. -/
def Apart (text : List Char) : Prop := ∀ c ∈ text.head?, ¬ Text.isDigit c ∧ ¬ isWordChar c

theorem apart_cons {c : Char} {text : List Char} (h : ¬ Text.isDigit c ∧ ¬ isWordChar c) : Apart (c :: text) := by
  simpa [Apart] using h

/-- The characters are a rendering of the tokens in front of any rendering that is apart from them. -/
def Writes (tokens : List Token) (chars : List Char) : Prop :=
  ∀ ⦃more rest⦄, Renders more rest → Apart rest → Renders (tokens ++ more) (chars ++ rest)

theorem Writes.lexeme {kind : Kind} {chars : List Char} (h : Lexeme kind chars) :
    Writes [⟨kind, String.ofList chars⟩] chars := by
  intro more rest hmore hrest
  refine .lexeme h (fun c hc => ?_) hmore
  have := hrest c hc
  simp [runsOn, this.1, this.2]

theorem Writes.append {s t : List Token} {a b : List Char} (h : Writes s a) (h' : Writes t b)
    (hb : Apart b) : Writes (s ++ t) (a ++ b) := by
  intro more rest hmore hrest
  rw [List.append_assoc, List.append_assoc]
  refine h (h' hmore hrest) ?_
  cases b with
  | nil => exact hrest
  | cons d b => exact hb

theorem Writes.space {t : List Token} {b : List Char} (h : Writes t b) : Writes t (' ' :: b) := by
  intro more rest hmore hrest
  have hspace : ∀ c ∈ [' '], Text.isSpace c := List.forall_mem_singleton.mpr (by decide)
  exact (h hmore hrest).space hspace

theorem Writes.mark (kind : Kind) (c : Char) {t : List Token} {b : List Char} (hmark : (kind, c) ∈ marks)
    (h : Writes t b) : Writes (⟨kind, String.ofList [c]⟩ :: t) (c :: b) := by
  intro more rest hmore hrest
  exact .mark hmark (h hmore hrest)

theorem Writes.nil : Writes [] [] := fun _ _ h _ => h

theorem Writes.renders {t : List Token} {b : List Char} (h : Writes t b) : Renders t b := by
  have hnil : Renders [] [] := .nil (by simp)
  simpa using h hnil nofun

theorem Writes.enclosed {precedence least : Nat} {t : List Token} {text : String} (h : Writes t text.toList) :
    Writes (enclosedTokens precedence least t) (Script.enclosed precedence least text).toList := by
  unfold enclosedTokens Script.enclosed
  split
  · have hclosed : Writes (t ++ [⟨.closeParen, ")"⟩]) (text.toList ++ [')']) :=
      h.append (.mark .closeParen ')' (by decide) .nil) (apart_cons (by decide))
    have hopened := Writes.mark .openParen '(' (by decide) hclosed
    rw [String.toList_append, String.toList_append, List.append_assoc]
    exact hopened
  · exact h

theorem writes_operator (op : Operator) {t : List Token} {b : List Char} (h : Writes t b) :
    Writes (⟨op.kind, op.symbol⟩ :: t) (op.symbol.toList ++ b) := by
  cases op with
  | add => exact .mark .plus '+' (by decide) h
  | sub => exact .mark .minus '-' (by decide) h
  | mul => exact .mark .times '*' (by decide) h
  | div => exact .mark .divide '/' (by decide) h

theorem writes_minus {t : List Token} {b : List Char} (h : Writes t b) : Writes (⟨.minus, "-"⟩ :: t) ('-' :: b) :=
  .mark .minus '-' (by decide) h

private theorem writes_number (n : Int) :
    Writes (sign (n < 0) ++ [⟨.number, toString n.natAbs⟩]) (toString n).toList := by
  have hnumeral : Writes [⟨.number, toString n.natAbs⟩] (Nat.toDigits 10 n.natAbs) := by
    rw [Nat.toString_eq_ofList_toDigits]
    exact .lexeme (.number (isNumeral_toDigits _))
  rw [toList_toString]
  by_cases hneg : n < 0
  · rw [if_neg (by omega)]
    simpa [sign, hneg] using writes_minus hnumeral
  · rw [if_pos (by omega)]
    simpa [sign, hneg] using hnumeral

/-- The text of an expression is a rendering of its tokens. -/
theorem writes_tokens (e : Expr) (least : Nat) : Writes (e.tokens least) (e.text least).toList := by
  induction e generalizing least with
  | number n short => exact writes_number n
  | name x =>
    have h := Writes.lexeme x.symbol
    rwa [String.ofList_toList] at h
  | binary op left right ihleft ihright =>
    have hright := (writes_operator op (ihright (op.precedence + 1)).space).space
    have h := (ihleft op.precedence).append hright (apart_cons (by decide))
    rw [tokens_binary]
    exact Writes.enclosed (by simpa [String.toList_append] using h)
  | negate operand ih =>
    have h := writes_minus (ih negationPrecedence)
    rw [tokens_negate]
    exact Writes.enclosed (by simpa [String.toList_append] using h)
  | call callee argument ihcallee ihargument =>
    have hclosed := (ihargument 0).append (.mark .closeParen ')' (by decide) .nil) (apart_cons (by decide))
    have hopened := Writes.mark .openParen '(' (by decide) hclosed
    have h := (ihcallee primaryPrecedence).append hopened (apart_cons (by decide))
    rw [tokens_call]
    simpa [text, String.toList_append] using h

/-! ### The text of what is read again -/

private theorem text_reread_of {e : Expr}
    (heq : ∀ least, e.text least = (if e.isNegative then "-" else "") ++ e.core.text least) {least : Nat}
    (h : least ≤ negationPrecedence) : e.reread.text least = e.text least := by
  rw [heq, reread, signed]
  cases hnegative : e.isNegative with
  | false => simp
  | true =>
    simp only [if_true]
    -- only numbers and calls begin with the sign of a number
    cases e with
    | number n short =>
      have hneg : n < 0 := by simpa [isNegative] using hnegative
      simp only [core, opposite, text]
      rw [show (-(n.natAbs : Int)) = n by omega, toString_of_neg hneg]
      rfl
    | call callee argument => simp only [core, opposite, text, enclosed, Nat.not_lt.mpr h, if_false]
    | name => cases hnegative
    | binary => cases hnegative
    | negate => cases hnegative

/-- Behind the sign of a number, there is the text of what is read there. -/
theorem text_eq (e : Expr) (least : Nat) : e.text least = (if e.isNegative then "-" else "") ++ e.core.text least := by
  induction e generalizing least with
  | number n short =>
    by_cases hneg : n < 0
    · simp only [text, core, isNegative, hneg, decide_true, if_true]
      exact toString_of_neg hneg
    · simp only [text, core, isNegative, hneg, decide_false, if_false, Bool.false_eq_true, String.empty_append]
      exact toString_of_nonneg (by omega)
  | name x => simp [text, core, isNegative]
  | binary op left right ihleft ihright =>
    have hleft := text_reread_of ihleft (show op.precedence ≤ negationPrecedence by cases op <;> decide)
    have hright := text_reread_of ihright (show op.precedence + 1 ≤ negationPrecedence by cases op <;> decide)
    rw [reread] at hleft hright
    simp [text, core, isNegative, hleft, hright]
  | negate operand ih =>
    have hoperand := text_reread_of ih (Nat.le_refl _)
    rw [reread] at hoperand
    simp [text, core, isNegative, hoperand]
  | call callee argument ihcallee ihargument =>
    have hargument := text_reread_of ihargument (Nat.zero_le _)
    rw [reread] at hargument
    simp only [text, core, isNegative, hargument]
    rw [ihcallee]
    simp only [String.append_assoc]
    rfl

/-- What is read again has the same text, except where it would be called. -/
theorem text_reread (e : Expr) {least : Nat} (h : least ≤ negationPrecedence) : e.reread.text least = e.text least :=
  text_reread_of e.text_eq h

/-! ### Which expression is read again -/

private theorem Plain.eq_number {e : Expr} (h : e.Plain) (hnegative : e.isNegative) :
    ∃ n short, e = number n short := by
  induction e with
  | number n short => exact ⟨n, short, rfl⟩
  | call callee argument ihcallee =>
    obtain ⟨n, short, rfl⟩ := ihcallee h.1 hnegative
    have hnonneg := h.2.2 n short rfl
    have hneg : n < 0 := by simpa [isNegative] using hnegative
    omega
  | name => cases hnegative
  | binary => cases hnegative
  | negate => cases hnegative

private theorem reread_eq_of {e : Expr} (h : e.Plain) (hcore : e.isNegative = false → e.core = e) : e.reread = e := by
  rw [reread, signed]
  cases hnegative : e.isNegative with
  | false => exact hcore hnegative
  | true =>
    obtain ⟨n, short, rfl⟩ := h.eq_number hnegative
    have hneg : n < 0 := by simpa [isNegative] using hnegative
    simp only [core, opposite, if_true, number.injEq]
    omega

private theorem core_eq {e : Expr} (h : e.Plain) (hnegative : e.isNegative = false) : e.core = e := by
  induction e with
  | number n short =>
    have hneg : ¬ n < 0 := by simpa [isNegative] using hnegative
    simp only [core, number.injEq]
    omega
  | name => rfl
  | binary op left right ihleft ihright =>
    have hleft := reread_eq_of h.1 (ihleft h.1)
    have hright := reread_eq_of h.2 (ihright h.2)
    rw [reread] at hleft hright
    rw [core, hleft, hright]
  | negate operand ih =>
    have hoperand : operand.reread = operand := reread_eq_of h (ih h)
    rw [reread] at hoperand
    rw [core, hoperand]
  | call callee argument ihcallee ihargument =>
    have hargument := reread_eq_of h.2.1 (ihargument h.2.1)
    rw [reread] at hargument
    rw [core, ihcallee h.1 hnegative, hargument]

/-- An expression is read as itself if no negative number is called. -/
theorem reread_eq {e : Expr} (h : e.Plain) : e.reread = e := reread_eq_of h (core_eq h)

private theorem reread_ne_number {e : Expr} (h : ∀ n short, e ≠ number n short) (n : Int)
    (short : (Nat.toDigits 10 n.natAbs).length ≤ digitLimit) : e.reread ≠ number n short := by
  cases e with
  | number n short => exact absurd rfl (h n short)
  | name =>
    intro h'
    cases h'
  | binary =>
    intro h'
    cases h'
  | negate =>
    intro h'
    cases h'
  | call callee argument =>
    rw [reread, signed]
    split
    all_goals
      intro h'
      cases h'

private theorem eq_name_of_core {e : Expr} {x : Name} (h : e.core = name x) : e = name x := by
  cases e with
  | name => exact h
  | number => cases h
  | binary => cases h
  | negate => cases h
  | call => cases h

private theorem Proper.reread_of {e : Expr} (h : e.core.Proper) : e.reread.Proper := by
  rw [Expr.reread, signed]
  split
  · next hnegative =>
    cases e with
    | number => trivial
    | call => exact ⟨h, nofun⟩
    | name => cases hnegative
    | binary => cases hnegative
    | negate => cases hnegative
  · exact h

theorem Proper.core {e : Expr} (h : e.Proper) : e.core.Proper := by
  induction e with
  | number => trivial
  | name => trivial
  | binary op left right ihleft ihright => exact ⟨.reread_of (ihleft h.1), .reread_of (ihright h.2)⟩
  | negate operand ih => exact ⟨.reread_of (ih h.1), reread_ne_number h.2⟩
  | call callee argument ihcallee ihargument =>
    exact ⟨ihcallee h.1, .reread_of (ihargument h.2.1), fun x hx => h.2.2 x (eq_name_of_core hx)⟩

theorem Proper.reread {e : Expr} (h : e.Proper) : e.reread.Proper := .reread_of h.core

/-! ### Phrases -/

/-- The category of the operands that are not enclosed where a least precedence is required. -/
def level : Nat → Category
  | 0 | 1 => .sum
  | 2 => .term
  | 3 => .unary
  | _ => .call

theorem rank_level (n : Nat) : (level n).rank = if n ≤ 1 then 3 else if n ≤ 3 then n + 2 else 6 := by
  match n with
  | 0 | 1 | 2 | 3 => rfl
  | n + 4 =>
    rw [if_neg (by omega), if_neg (by omega)]
    rfl

theorem rank_level_mono {m n : Nat} (h : m ≤ n) : (level m).rank ≤ (level n).rank := by
  rw [rank_level, rank_level]
  repeat' split
  all_goals omega

theorem rank_level_le (n : Nat) : (level n).rank ≤ Category.call.rank := by
  rw [rank_level]
  repeat' split
  all_goals simp only [Category.rank]
  all_goals omega

private theorem negated_tree {e : Expr} (h : ∀ n short, e ≠ number n short) : e.tree.negated = (negate e).tree := by
  cases e with
  | number n short => exact absurd rfl (h n short)
  | name x => simp [tree, Tree.negated, x.not_isIntegerLiteral]
  | binary => rfl
  | negate => rfl
  | call => rfl

private theorem negated_core {e : Expr} (h : e.isNegative) : e.core.tree.negated = e.reread.tree := by
  rw [reread, signed, if_pos h]
  cases e with
  | number n short =>
    have hneg : n < 0 := by simpa [isNegative] using h
    have hliteral : (toString (n.natAbs : Int)).toList = Nat.toDigits 10 n.natAbs := by
      rw [toList_toString, if_pos (by omega), Int.natAbs_natCast]
    have hopposite : (toString (-(n.natAbs : Int))).toList = '-' :: Nat.toDigits 10 n.natAbs := by
      rw [toList_toString, if_neg (by omega), Int.natAbs_neg, Int.natAbs_natCast]
    simp only [core, opposite, tree, Tree.negated, isIntegerLiteral_toString, if_true]
    rw [hliteral, toggleSign_of_isNumeral (isNumeral_toDigits _), ← hopposite, String.ofList_toList]
  | call => rfl
  | name => cases h
  | binary => cases h
  | negate => cases h

private theorem phrase_enclosed {precedence least : Nat} {tokens : List Token} {t : Tree}
    (h : Phrase (level precedence) tokens t) : Phrase (level least) (enclosedTokens precedence least tokens) t := by
  unfold enclosedTokens
  split
  · have hgroup : Phrase .primary (⟨.openParen, "("⟩ :: (tokens ++ [⟨.closeParen, ")"⟩])) t :=
      .group rfl (h.loosen (Nat.zero_le _)) rfl
    exact hgroup.loosen (Nat.le_trans (rank_level_le least) (by decide))
  · exact h.loosen (rank_level_mono (by omega))

private theorem coreTokens_of_isNegative {e : Expr} (h : e.isNegative) (least other : Nat) :
    e.coreTokens least = e.coreTokens other := by
  cases e with
  | number => rfl
  | call => rfl
  | name => cases h
  | binary => cases h
  | negate => cases h

private theorem phrase_tokens_of {e : Expr} (hcore : ∀ least, Phrase (level least) (e.coreTokens least) e.core.tree)
    {least : Nat} (hleast : least ≤ negationPrecedence) : Phrase (level least) (e.tokens least) e.reread.tree := by
  cases hnegative : e.isNegative with
  | false => simpa [tokens, reread, signed, sign, hnegative] using hcore least
  | true =>
    -- what begins with the sign of a number is no operation, so it is enclosed nowhere
    have hunary : Phrase .unary (e.coreTokens least) e.core.tree := by
      rw [coreTokens_of_isNegative hnegative least primaryPrecedence]
      exact (hcore primaryPrecedence).looser
    have hphrase : Phrase .unary (⟨.minus, "-"⟩ :: e.coreTokens least) e.core.tree.negated := .negative rfl hunary
    rw [negated_core hnegative] at hphrase
    rw [tokens, hnegative]
    exact hphrase.loosen (rank_level_mono hleast)

private theorem phrase_binary {op : Operator} {u v : List Token} {l r : Tree} (left : Phrase (level op.precedence) u l)
    (right : Phrase (level (op.precedence + 1)) v r) :
    Phrase (level op.precedence) (u ++ ⟨op.kind, op.symbol⟩ :: v) (.node [.atom op.symbol, l, r]) := by
  cases op with
  | add => exact .sum (.inl rfl) left rfl right
  | sub => exact .sum (.inr rfl) left rfl right
  | mul => exact .term (.inl rfl) left rfl right
  | div => exact .term (.inr rfl) left rfl right

/-- Behind the sign of a number, the tokens are a phrase, and a call at most if they are called. -/
private theorem phrase_coreTokens {e : Expr} (h : e.Proper) (least : Nat) :
    Phrase (level least) (e.coreTokens least) e.core.tree := by
  induction e generalizing least with
  | number n short =>
    have hvalue : toString (n.natAbs : Int) = toString n.natAbs := toString_of_nonneg (by omega)
    have hphrase : Phrase .primary [⟨.number, toString n.natAbs⟩] (.atom (toString n.natAbs)) := .number rfl
    rw [core, tree, hvalue]
    exact hphrase.loosen (Nat.le_trans (rank_level_le least) (by decide))
  | name x =>
    have hphrase : Phrase .primary [⟨.symbol, x.text⟩] (.atom x.text) := .symbol rfl
    exact hphrase.loosen (Nat.le_trans (rank_level_le least) (by decide))
  | binary op left right ihleft ihright =>
    have hleft := phrase_tokens_of (ihleft h.1) (show op.precedence ≤ negationPrecedence by cases op <;> decide)
    have hright := phrase_tokens_of (ihright h.2) (show op.precedence + 1 ≤ negationPrecedence by cases op <;> decide)
    exact phrase_enclosed (phrase_binary hleft hright)
  | negate operand ih =>
    have hoperand := phrase_tokens_of (ih h.1) (Nat.le_refl _)
    have hphrase : Phrase (level negationPrecedence) (⟨.minus, "-"⟩ :: operand.tokens negationPrecedence)
        operand.reread.tree.negated := .negative rfl hoperand
    rw [negated_tree (reread_ne_number h.2)] at hphrase
    exact phrase_enclosed hphrase
  | call callee argument ihcallee ihargument =>
    have hargument := phrase_tokens_of (ihargument h.2.1) (Nat.zero_le _)
    have hphrase : Phrase .call (callee.coreTokens primaryPrecedence ++
          ⟨.openParen, "("⟩ :: (argument.tokens 0 ++ [⟨.closeParen, ")"⟩]))
        (.node [callee.core.tree, argument.reread.tree]) :=
      .call (ihcallee h.1 primaryPrecedence) rfl (hargument.loosen (Nat.zero_le _)) rfl
    exact hphrase.loosen (rank_level_le least)

/-- The tokens of an expression are a phrase with the tree of what is read again. -/
theorem phrase_tokens {e : Expr} (h : e.Proper) {least : Nat} (hleast : least ≤ negationPrecedence) :
    Phrase (level least) (e.tokens least) e.reread.tree :=
  phrase_tokens_of (phrase_coreTokens h) hleast

end Precedence.Script.Expr
