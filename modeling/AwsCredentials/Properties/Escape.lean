import AwsCredentials.Text.CodePoint
import AwsCredentials.Text.Quoted

/-!
# Escapes of a properties text

In a key and in a value a backslash and the character after it stand for one code point: `t`, `n`,
`r` and `f` for tab, line feed, carriage return and form feed, `u` with four hexadecimal digits for
the code point of that number, and any other character for itself. A backslash that nothing follows
stands for itself.

The only fault is a `u` without its four digits; the fault carries what is shown of the text, from
the backslash to the end of the place where the digits belong.
-/

namespace AwsCredentials.Properties

open Text (CodePoint CodeText)

/-- An escape by number that lacks a digit. No other escape is ever at fault. -/
structure MalformedEscape where
  /-- The backslash, the letter and what stands in the place of the digits. -/
  shown : List Char
deriving DecidableEq

namespace MalformedEscape

/-- The wording of the fault, which quotes the escape as far as it goes. -/
def message (e : MalformedEscape) : String :=
  "Malformed \\uXXXX escape: " ++ Text.quote (String.ofList e.shown)

end MalformedEscape

/-- The value of a hexadecimal digit in either case, and none for any other character. -/
def hexValue? (c : Char) : Option (Fin 16) :=
  if h : '0'.toNat ≤ c.toNat ∧ c.toNat ≤ '9'.toNat then
    some ⟨c.toNat - '0'.toNat, by have : '0'.toNat = 48 := rfl; have : '9'.toNat = 57 := rfl; omega⟩
  else if h : 'A'.toNat ≤ c.toNat ∧ c.toNat ≤ 'F'.toNat then
    some ⟨c.toNat - 'A'.toNat + 10, by
      have : 'A'.toNat = 65 := rfl; have : 'F'.toNat = 70 := rfl; omega⟩
  else if h : 'a'.toNat ≤ c.toNat ∧ c.toNat ≤ 'f'.toNat then
    some ⟨c.toNat - 'a'.toNat + 10, by
      have : 'a'.toNat = 97 := rfl; have : 'f'.toNat = 102 := rfl; omega⟩
  else none

/-- The 16-bit number that four hexadecimal digits spell, if they are such digits, the first being
the most significant. -/
def unit? (a b c d : Char) : Option (Fin 65536) :=
  match hexValue? a, hexValue? b, hexValue? c, hexValue? d with
  | some a, some b, some c, some d => some ⟨((a * 16 + b) * 16 + c) * 16 + d, by omega⟩
  | _, _, _, _ => none

/-- The character that a backslash and a character stand for: a control character for four letters,
or else the second character itself. -/
def escapedChar : Char → Char
  | 't' => '\t'
  | 'n' => '\n'
  | 'r' => '\r'
  | 'f' => '\x0c'
  | c => c

/-- The text that a key or a value stands for, or the first escape by number in it that lacks a
digit. -/
def unescape : List Char → Except MalformedEscape CodeText
  | [] => .ok []
  | '\\' :: 'u' :: a :: b :: c :: d :: r =>
    match unit? a b c d with
    | some n => (CodePoint.ofUnit n :: ·) <$> unescape r
    | none => .error ⟨['\\', 'u', a, b, c, d]⟩
  | '\\' :: 'u' :: r => .error ⟨'\\' :: 'u' :: r⟩
  | '\\' :: c :: r => (CodePoint.char (escapedChar c) :: ·) <$> unescape r
  | c :: r => (CodePoint.char c :: ·) <$> unescape r

/-- A character that is no backslash stands for itself, and the rest of the text is decoded without
regard to it. -/
theorem unescape_cons {c : Char} (h : c ≠ '\\') (s : List Char) :
    unescape (c :: s) = (CodePoint.char c :: ·) <$> unescape s := by
  rw [unescape]
  all_goals simp_all

/-- A backslash and any character but a `u` stand for one character, and the rest of the text is
decoded without regard to the two. -/
theorem unescape_escape {c : Char} (h : c ≠ 'u') (s : List Char) :
    unescape ('\\' :: c :: s) = (CodePoint.char (escapedChar c) :: ·) <$> unescape s := by
  rw [unescape]
  all_goals simp_all

end AwsCredentials.Properties
