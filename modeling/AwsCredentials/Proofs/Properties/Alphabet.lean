import AwsCredentials.Properties.Document
import Mathlib.Tactic.SplitIfs

/-!
# The characters of a properties text

Which characters have a meaning of their own in a properties text, and which, is laid down here in
lists, as a description of the format would have it: the blanks, the separators, the comment
markers, the letters that stand for control characters, and the hexadecimal digits in the order of
their values.

What is said of properties texts apart from the parser, by a grammar or by another way to read them,
goes by these lists. The parser has tests of its own for the same characters, so it has to be shown
of each list that the parser goes by it as well.
-/

namespace AwsCredentials.Properties

/-! ### Blanks, separators and comments -/

/-- The characters that count as blanks within a line: the space, the tab and the form feed. -/
def blanks : List Char :=
  [' ', '\t', '\x0c']

/-- The characters that stand between a key and its value. -/
def separators : List Char :=
  ['=', ':']

/-- The characters that begin a comment where they come first in a logical line. -/
def commentMarkers : List Char :=
  ['#', '!']

variable {c : Char}

@[simp]
theorem mem_blanks_iff : c ∈ blanks ↔ isSpace c = true := by
  simp [blanks, isSpace, or_assoc]

@[simp]
theorem mem_separators_iff : c ∈ separators ↔ isSeparator c = true := by
  simp [separators, isSeparator]

/-- The letters that stand for another character after a backslash, each with this character. -/
def letters : List (Char × Char) :=
  [('t', '\t'), ('n', '\n'), ('r', '\r'), ('f', '\x0c')]

/-- What a character stands for after a backslash: a letter of the list for another character, and
any other for itself. -/
def meaning (c : Char) : Char :=
  (letters.lookup c).getD c

/-- **The decoder goes by the list of letters**: a letter of the list has the meaning that it has
there, and any other character means itself. -/
theorem escapedChar_eq (c : Char) : escapedChar c = meaning c := by
  unfold escapedChar
  split
  · rfl
  · rfl
  · rfl
  · rfl
  · next t n r f =>
    have unlisted : letters.lookup c = none := by
      simp only [List.lookup_eq_none_iff, letters, List.forall_mem_cons]
      simpa using ⟨t, n, r, f⟩
    rw [meaning, unlisted]
    rfl

/-! ### Digits -/

/-- The hexadecimal digits in the order of their values. The capitals come last, and have the values
of the small letters six places before them. -/
def hexadecimalDigits : List Char :=
  "0123456789abcdefABCDEF".toList

/-- The value of a digit, told by its place in the list. -/
def digitValue? (c : Char) : Option Nat :=
  (hexadecimalDigits.idxOf? c).map fun place ↦ if place < 16 then place else place - 6

/-- The number that digits spell to the base of sixteen, if they are four. -/
def numeral? (digits : List Char) : Option (Fin 65536) :=
  if digits.length = 4 then
    (digits.mapM digitValue?).map fun values ↦ .ofNat _ (values.foldl (16 * · + ·) 0)
  else none

/-- The characters with a value are the hexadecimal digits, in small letters and in capitals. -/
theorem isSome_hexValue?_iff : (hexValue? c).isSome ↔ c ∈ hexadecimalDigits := by
  -- Every digit is below 128, which leaves finitely many characters to compare with the list.
  have small : (hexValue? c).isSome → c.toNat < 128 := by
    have nine : '9'.toNat = 57 := rfl
    have upper : 'F'.toNat = 70 := rfl
    have lower : 'f'.toNat = 102 := rfl
    unfold hexValue?
    split_ifs <;> simp <;> omega
  have of_small : ∀ n < 128,
      (hexValue? (Char.ofNat n)).isSome → Char.ofNat n ∈ hexadecimalDigits := by
    decide
  have all_digits : ∀ d ∈ hexadecimalDigits, (hexValue? d).isSome := List.all_eq_true.1 rfl
  constructor
  · intro h
    have listed := of_small c.toNat (small h)
    rw [Char.ofNat_toNat] at listed
    exact listed h
  · exact all_digits c

/-- **The decoder gives each digit the value that its place has**, and no value to anything else. -/
theorem digitValue?_eq (c : Char) : digitValue? c = (hexValue? c).map Fin.val := by
  by_cases digit : c ∈ hexadecimalDigits
  · have all_digits : ∀ d ∈ hexadecimalDigits,
        decide (digitValue? d = (hexValue? d).map Fin.val) = true := List.all_eq_true.1 rfl
    exact of_decide_eq_true (all_digits c digit)
  · have no_value : hexValue? c = none := by
      rwa [← Option.not_isSome_iff_eq_none, isSome_hexValue?_iff]
    rw [digitValue?, List.idxOf?_eq_none_iff.2 digit, no_value]
    rfl

/-- **The decoder reads four digits as the number that they spell**, and no number where one of them
is no digit. -/
theorem unit?_eq (a b c d : Char) : unit? a b c d = numeral? [a, b, c, d] := by
  simp only [numeral?, List.mapM_cons, List.mapM_nil, digitValue?_eq]
  unfold unit?
  cases hexValue? a <;> cases hexValue? b <;> cases hexValue? c <;> cases hexValue? d <;> try rfl
  next a b c d =>
    -- Four digits are too few for the modulus to change the number.
    refine congrArg some (Fin.ext ?_)
    change ((a.val * 16 + b) * 16 + c) * 16 + d =
      (16 * (16 * (16 * (16 * 0 + a.val) + b) + c) + d) % 65536
    omega

theorem isSome_unit?_iff {a b c d : Char} :
    (unit? a b c d).isSome ↔ ∀ x ∈ [a, b, c, d], x ∈ hexadecimalDigits := by
  simp only [List.forall_mem_cons, ← isSome_hexValue?_iff]
  unfold unit?
  cases hexValue? a <;> cases hexValue? b <;> cases hexValue? c <;> cases hexValue? d <;> simp

end AwsCredentials.Properties
