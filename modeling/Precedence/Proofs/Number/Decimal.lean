import Precedence.Number.Literal

/-!
# Decimal numerals

The text of an integer is an integer literal of that value (`isIntegerLiteral_toString`, `literalValue_toString`), and
among the literals of a value it is one with the fewest digits (`length_literalDigits_toString_le`).
-/

namespace Precedence

namespace Text

private theorem find?_digitRanges {c : Char} (h : c.isDigit) : digitRanges.find? c.toNat = some (0x30, 0x39) := by
  simp only [Char.isDigit, ge_iff_le, Bool.and_eq_true, decide_eq_true_eq, UInt32.le_iff_toNat_le] at h
  have hlo : ¬ c.toNat < 0x30 := Nat.not_lt.mpr h.1
  have hhi : c.toNat ≤ 0x39 := h.2
  rw [digitRanges, Ranges.find?, if_neg hlo, if_pos hhi]

/-- The digits of ASCII are decimal digits. -/
theorem isDigit_of_ascii {c : Char} (h : c.isDigit) : isDigit c := by
  simp [isDigit, Ranges.contains, find?_digitRanges h]

theorem digitValue?_of_ascii {c : Char} (h : c.isDigit) : digitValue? c = some (c.toNat - '0'.toNat) := by
  have hhi : c.toNat ≤ 0x39 := by
    simp only [Char.isDigit, Bool.and_eq_true, decide_eq_true_eq, UInt32.le_iff_toNat_le] at h
    exact h.2
  have hmod : (c.toNat - 0x30) % 10 = c.toNat - 0x30 := Nat.mod_eq_of_lt (by omega)
  simp [digitValue?, find?_digitRanges h, hmod]

private theorem digitValue?_lt {c : Char} {value : Nat} (h : digitValue? c = some value) : value < 10 := by
  obtain ⟨range, -, rfl⟩ := Option.map_eq_some_iff.mp h
  exact Nat.mod_lt _ (by decide)

private theorem foldl_digits {digits : List Char} (h : ∀ c ∈ digits, c.isDigit) (value : Nat) :
    digits.foldl (fun value c => value * 10 + (digitValue? c).getD 0) value = Nat.ofDigitChars 10 digits value := by
  induction digits generalizing value with
  | nil => simp
  | cons c digits ih =>
    have hc := h c List.mem_cons_self
    rw [List.foldl_cons, ih fun d hd => h d (List.mem_cons_of_mem _ hd), Nat.ofDigitChars_cons,
      digitValue?_of_ascii hc, Nat.mul_comm, Option.getD_some]

theorem digitsValue_toDigits (n : Nat) : digitsValue (Nat.toDigits 10 n) = n := by
  have hdigits : ∀ c ∈ Nat.toDigits 10 n, c.isDigit := fun c hc =>
    Nat.isDigit_of_mem_toDigits (by decide) (by decide) hc
  rw [digitsValue, foldl_digits hdigits, Nat.ofDigitChars_ten_toDigits]

private theorem foldl_lt (digits : List Char) (value : Nat) :
    digits.foldl (fun value c => value * 10 + (digitValue? c).getD 0) value <
      (value + 1) * Nat.pow 10 digits.length := by
  induction digits generalizing value with
  | nil => simp
  | cons c digits ih =>
    have hc : (digitValue? c).getD 0 < 10 := by
      cases hvalue : digitValue? c with
      | none => simp
      | some value => exact digitValue?_lt hvalue
    calc
      _ < (value * 10 + (digitValue? c).getD 0 + 1) * Nat.pow 10 digits.length := ih _
      _ ≤ (value + 1) * 10 * Nat.pow 10 digits.length := Nat.mul_le_mul_right _ (by omega)
      _ = (value + 1) * Nat.pow 10 (c :: digits).length := by
        rw [Nat.mul_assoc, Nat.mul_comm 10]
        rfl

theorem digitsValue_lt (digits : List Char) : digitsValue digits < Nat.pow 10 digits.length := by
  have h := foldl_lt digits 0
  rwa [Nat.zero_add, Nat.one_mul] at h

end Text

/-! ### The text of an integer -/

theorem toString_of_nonneg {n : Int} (h : 0 ≤ n) : toString n = toString n.natAbs := by
  have habs : n.toNat = n.natAbs := by omega
  rw [Int.toString_eq_repr, Int.repr_eq_if, if_pos h, Nat.toString_eq_repr, habs]

theorem toString_of_neg {n : Int} (h : n < 0) : toString n = "-" ++ toString n.natAbs := by
  have habs : (-n).toNat = n.natAbs := by omega
  rw [Int.toString_eq_repr, Int.repr_eq_if, if_neg (by omega), Nat.toString_eq_repr, habs]

theorem toList_toString (n : Int) :
    (toString n).toList = if 0 ≤ n then Nat.toDigits 10 n.natAbs else '-' :: Nat.toDigits 10 n.natAbs := by
  split
  · next h => rw [toString_of_nonneg h, Nat.toString_eq_repr, Nat.toList_repr]
  · next h =>
    rw [toString_of_neg (by omega), String.toList_append, Nat.toString_eq_repr, Nat.toList_repr]
    rfl

theorem isNumeral_toDigits (n : Nat) : isNumeral (Nat.toDigits 10 n) := by
  have hdigits : ∀ c ∈ Nat.toDigits 10 n, Text.isDigit c := fun c hc =>
    Text.isDigit_of_ascii (Nat.isDigit_of_mem_toDigits (by decide) (by decide) hc)
  simpa [isNumeral] using hdigits

theorem isDigit_of_isNumeral {chars : List Char} (h : isNumeral chars) : ∀ c ∈ chars, Text.isDigit c := by
  rw [isNumeral, Bool.and_eq_true] at h
  exact List.all_eq_true.mp h.2

theorem head?_ne_of_isNumeral {chars : List Char} (h : isNumeral chars) : chars.head? ≠ some '-' := by
  intro hhead
  have hminus : Text.isDigit '-' := isDigit_of_isNumeral h '-' (List.mem_of_mem_head? hhead)
  exact absurd hminus (by decide)

theorem literalDigits_of_isNumeral {chars : List Char} (h : isNumeral chars) : literalDigits chars = chars := by
  cases chars with
  | nil => rfl
  | cons c chars =>
    have hc : c ≠ '-' := by simpa using head?_ne_of_isNumeral h
    simp [literalDigits, hc]

theorem isIntegerChars_of_isNumeral {chars : List Char} (h : isNumeral chars) : isIntegerChars chars := by
  rw [isIntegerChars, literalDigits_of_isNumeral h]
  exact h

theorem toggleSign_of_isNumeral {chars : List Char} (h : isNumeral chars) : toggleSign chars = '-' :: chars := by
  cases chars with
  | nil => rfl
  | cons c chars =>
    have hc : c ≠ '-' := by simpa using head?_ne_of_isNumeral h
    simp [toggleSign, hc]

/-- A literal is a numeral, or a minus sign with a numeral behind it. -/
theorem isIntegerChars_cases {chars : List Char} (h : isIntegerChars chars) :
    isNumeral chars ∨ ∃ digits, chars = '-' :: digits ∧ isNumeral digits := by
  rcases chars with _ | ⟨c, digits⟩
  · cases h
  by_cases hc : c = '-'
  · subst hc
    exact .inr ⟨digits, rfl, h⟩
  · rw [isIntegerChars, literalDigits, if_neg hc] at h
    exact .inl h

/-- To toggle the sign of a literal leaves its digits as they are. -/
theorem literalDigits_toggleSign {chars : List Char} (h : isIntegerChars chars) :
    literalDigits (toggleSign chars) = literalDigits chars := by
  rcases isIntegerChars_cases h with hnumeral | ⟨digits, rfl, hnumeral⟩
  · rw [toggleSign_of_isNumeral hnumeral, literalDigits_of_isNumeral hnumeral]
    rfl
  · exact literalDigits_of_isNumeral hnumeral

theorem isIntegerChars_toggleSign {chars : List Char} (h : isIntegerChars chars) :
    isIntegerChars (toggleSign chars) := by
  rw [isIntegerChars, literalDigits_toggleSign h]
  exact h

theorem isIntegerLiteral_toggleSign {text : String} (h : isIntegerLiteral text) :
    isIntegerLiteral (String.ofList (toggleSign text.toList)) := by
  rw [isIntegerLiteral, String.toList_ofList]
  exact isIntegerChars_toggleSign h

/-- To toggle the sign of a literal twice leaves the literal as it is. -/
theorem toggleSign_toggleSign {chars : List Char} (h : isIntegerChars chars) :
    toggleSign (toggleSign chars) = chars := by
  rcases isIntegerChars_cases h with hnumeral | ⟨digits, rfl, hnumeral⟩
  · rw [toggleSign_of_isNumeral hnumeral]
    rfl
  · exact toggleSign_of_isNumeral hnumeral

theorem literalValue_of_isNumeral {chars : List Char} (h : isNumeral chars) :
    literalValue chars = Text.digitsValue chars := by
  rw [literalValue, literalDigits_of_isNumeral h]
  exact if_neg (head?_ne_of_isNumeral h)

/-- To toggle the sign of a literal turns its value into the opposite one. -/
theorem literalValue_toggleSign {chars : List Char} (h : isIntegerChars chars) :
    literalValue (toggleSign chars) = -literalValue chars := by
  have hminus : ∀ digits, literalValue ('-' :: digits) = -(Text.digitsValue digits : Int) := fun _ => rfl
  rcases isIntegerChars_cases h with hnumeral | ⟨digits, rfl, hnumeral⟩
  · rw [toggleSign_of_isNumeral hnumeral, hminus, literalValue_of_isNumeral hnumeral]
  · have htoggled : toggleSign ('-' :: digits) = digits := rfl
    rw [htoggled, hminus, literalValue_of_isNumeral hnumeral, Int.neg_neg]

theorem literalDigits_toString (n : Int) : literalDigits (toString n).toList = Nat.toDigits 10 n.natAbs := by
  rw [toList_toString]
  split
  · exact literalDigits_of_isNumeral (isNumeral_toDigits _)
  · simp [literalDigits]

theorem isIntegerLiteral_toString (n : Int) : isIntegerLiteral (toString n) := by
  rw [isIntegerLiteral, isIntegerChars, literalDigits_toString]
  exact isNumeral_toDigits _

theorem literalValue_toString (n : Int) : literalValue (toString n).toList = n := by
  have hvalue : Text.digitsValue (literalDigits (toString n).toList) = n.natAbs := by
    rw [literalDigits_toString, Text.digitsValue_toDigits]
  have hhead : (toString n).toList.head? = some '-' ↔ n < 0 := by
    rw [toList_toString]
    split
    · have := head?_ne_of_isNumeral (isNumeral_toDigits n.natAbs)
      simp only [this, false_iff]
      omega
    · simp only [List.head?_cons, true_iff]
      omega
  simp only [literalValue, hvalue, hhead]
  split <;> omega

/-- The text of the value of a literal has no more digits than the literal. -/
theorem length_literalDigits_toString_le {chars : List Char} (h : isIntegerChars chars) :
    (literalDigits (toString (literalValue chars)).toList).length ≤ (literalDigits chars).length := by
  have hpos : 0 < (literalDigits chars).length := by
    cases hdigits : literalDigits chars with
    | nil => simp [isIntegerChars, isNumeral, hdigits] at h
    | cons c digits => simp
  have habs : (literalValue chars).natAbs = Text.digitsValue (literalDigits chars) := by
    unfold literalValue
    simp only
    split <;> omega
  rw [literalDigits_toString, habs, Nat.length_toDigits_le_iff (by decide) hpos]
  exact Text.digitsValue_lt _

end Precedence
