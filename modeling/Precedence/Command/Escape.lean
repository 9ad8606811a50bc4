/-!
# Escape sequences

Output that does not go to a terminal is written without control sequences: an escape character and an open bracket,
parameter characters, intermediate characters, and one final character.  Each of the three is a range of code points.
-/

namespace Precedence

/-- Whether the character may be part of the parameters of an escape sequence. -/
def isEscapeParameter (c : Char) : Bool := '0' ≤ c && c ≤ '?'

/-- Whether the character may stand between the parameters and the final character of an escape sequence. -/
def isEscapeIntermediate (c : Char) : Bool := ' ' ≤ c && c ≤ '/'

/-- Whether the character may end an escape sequence. -/
def isEscapeFinal (c : Char) : Bool := '@' ≤ c && c ≤ '~'

/-- The text behind an escape sequence, given the text behind its first character. -/
def behindEscape? : List Char → Option (List Char)
  | [] => none
  | c :: text =>
    if c = '[' then
      match (text.dropWhile isEscapeParameter).dropWhile isEscapeIntermediate with
      | [] => none
      | final :: rest => if isEscapeFinal final then some rest else none
    else none

theorem length_dropWhile_le {p : Char → Bool} (text : List Char) : (text.dropWhile p).length ≤ text.length :=
  (List.dropWhile_sublist p).length_le

theorem length_behindEscape?_lt {text rest : List Char} (h : behindEscape? text = some rest) :
    rest.length < text.length := by
  unfold behindEscape? at h
  split at h
  · cases h
  · next c text =>
    split at h
    · have hle := Nat.le_trans (length_dropWhile_le (p := isEscapeIntermediate) _)
        (length_dropWhile_le (p := isEscapeParameter) text)
      split at h
      · cases h
      · next final rest' hd =>
        split at h
        · cases h
          rw [hd] at hle
          simp at hle ⊢; omega
        · cases h
    · cases h

/-- The text without escape sequences. -/
def withoutEscapes : List Char → List Char
  | [] => []
  | c :: text =>
    if c = '\x1b' then
      match _h : behindEscape? text with
      | some rest => withoutEscapes rest
      | none => c :: withoutEscapes text
    else c :: withoutEscapes text
termination_by text => text.length
decreasing_by
  · have := length_behindEscape?_lt _h; simp; omega
  · simp
  · simp

end Precedence
