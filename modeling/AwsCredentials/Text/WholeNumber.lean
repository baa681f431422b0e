/-!
# Whole numbers

A whole number is written as an optional sign and one or more ASCII digits, with nothing before,
between or after them. Numbers are unbounded, but a text of more than `maxDigits` digits is not
converted: leading zeros count, the sign does not.

* `Numeral.ofText?` accepts exactly the texts of that form, and `Numeral.value` is the number
  denoted;
* `readWhole` joins the two with the limit, and `decimal` writes a number back in its shortest form,
  with `digitCount` digits.
-/

namespace AwsCredentials.Text

/-- A whole number as it was written: a sign, if there is one, and digits, which may begin with
zeros. -/
structure Numeral where
  /-- A minus sign stood in front. -/
  negative : Bool
  /-- The digits, leading zeros included. -/
  digits : List Char
deriving DecidableEq

namespace Numeral

/-- The digits of a numeral: at least one, and all of them ASCII. -/
def digits? (s : List Char) : Option (List Char) :=
  if s ≠ [] ∧ s.all Char.isDigit then some s else none

/-- The numeral that a whole text spells, if it spells one. -/
def ofText? : List Char → Option Numeral
  | '-' :: s => (digits? s).map (⟨true, ·⟩)
  | '+' :: s => (digits? s).map (⟨false, ·⟩)
  | s => (digits? s).map (⟨false, ·⟩)

/-- The number that the digits denote, without the sign. Leading zeros add nothing to it. -/
def magnitude (n : Numeral) : Nat :=
  Nat.ofDigitChars 10 n.digits 0

/-- The number denoted, negative only if the sign is a minus. -/
def value (n : Numeral) : Int :=
  if n.negative then -(n.magnitude : Int) else n.magnitude

end Numeral

/-- The greatest count of digits that is converted. Leading zeros count too, the sign does not. -/
def maxDigits : Nat := 4300

/-- The failure of a conversion that would take more than `maxDigits` digits. -/
structure Overlong where
  /-- How many digits the text has. -/
  count : Nat
deriving DecidableEq

namespace Overlong

/-- The wording of the failure, which quotes both counts of digits. -/
def message (o : Overlong) : String :=
  "Exceeds the limit (" ++ toString maxDigits
    ++ " digits) for integer string conversion: value has " ++ toString o.count
    ++ " digits; use sys.set_int_max_str_digits() to increase the limit"

end Overlong

/-- What a text says when it is read as a whole number: a number, none at all, or one that is too
long to be converted. -/
inductive WholeReading
  /-- The text does not spell a whole number. -/
  | malformed
  /-- The text spells a number that is too long to convert. -/
  | overlong (o : Overlong)
  /-- The text spells this number. -/
  | number (n : Int)
deriving DecidableEq

/-- Reads a whole text as a whole number. That it is too long is looked at only when it is a
numeral. -/
def readWhole (s : List Char) : WholeReading :=
  match Numeral.ofText? s with
  | none => .malformed
  | some n => if n.digits.length ≤ maxDigits then .number n.value else .overlong ⟨n.digits.length⟩

/-- The shortest decimal text of a number, without a plus sign and without leading zeros. -/
def decimal (n : Int) : String :=
  match n with
  | .ofNat m => String.ofList (Nat.toDigits 10 m)
  | .negSucc m => String.ofList ('-' :: Nat.toDigits 10 (m + 1))

/-- How many digits the shortest decimal text of a number has, its sign left out. -/
def digitCount (n : Int) : Nat :=
  (Nat.toDigits 10 n.natAbs).length

end AwsCredentials.Text
