import AwsCredentials.Dictionary
import AwsCredentials.Properties.Escape
import AwsCredentials.Properties.Line

/-!
# Properties texts

Each logical line is an entry. Its key ends before the first separator (`=` or `:`) or blank that is
not the second character of an escape; blanks, at most one separator and more blanks follow, and the
rest of the line is the value, trailing blanks included. Escapes of the value are decoded before
those of the key, so of two faults in one line the one in the value is reported.

`parse` reads a whole text into a dictionary, in which a later entry replaces an earlier one under
the same key.
-/

namespace AwsCredentials.Properties

open Text (CodeText)

/-- A character that separates a key from its value. One of them is dropped between the two; a
second one belongs to the value. -/
def isSeparator (c : Char) : Bool :=
  c = '=' || c = ':'

/-- A line cut where its key ends. A backslash takes the character after it into the key. -/
def splitKey : List Char → List Char × List Char
  | [] => ([], [])
  | '\\' :: c :: r =>
    let cut := splitKey r
    ('\\' :: c :: cut.1, cut.2)
  | c :: r =>
    if isSeparator c || isSpace c then ([], c :: r)
    else
      let cut := splitKey r
      (c :: cut.1, cut.2)

/-- What follows the key without the blanks and the separator before the value: blanks, at most one
separator, and blanks again. -/
def dropSeparator (s : List Char) : List Char :=
  match s.dropWhile isSpace with
  | [] => []
  | c :: r => if isSeparator c then r.dropWhile isSpace else c :: r

/-- The key and the value of a line as they are written, that is, before any escape is decoded. -/
def splitEntry (line : List Char) : List Char × List Char :=
  let cut := splitKey line
  (cut.1, dropSeparator cut.2)

/-- The entry of a line. The value is decoded first, so of two malformed escapes the one in the
value is reported. -/
def readEntry (line : List Char) : Except MalformedEscape (CodeText × CodeText) := do
  let value ← unescape (splitEntry line).2
  let key ← unescape (splitEntry line).1
  return (key, value)

/-- The entries of a text, in order and with repeated keys, or the first malformed escape. -/
def readEntries (s : List Char) : Except MalformedEscape (List (CodeText × CodeText)) :=
  (logicalLines s).mapM readEntry

/-- The dictionary that a properties text stands for, in which a repeated key keeps its place and
has its last value. -/
def parse (s : List Char) : Except MalformedEscape (Dictionary CodeText CodeText) :=
  Dictionary.ofList <$> readEntries s

/-- A backslash takes the character after it into the key, even if this character would end the key
elsewhere. -/
theorem splitKey_escape (c : Char) (r : List Char) :
    splitKey ('\\' :: c :: r) = ('\\' :: c :: (splitKey r).1, (splitKey r).2) := by
  rw [splitKey]

/-- The key ends before a separator or a blank, and goes on over any other character. -/
theorem splitKey_cons {c : Char} (h : c ≠ '\\') (r : List Char) :
    splitKey (c :: r) =
      if isSeparator c || isSpace c then ([], c :: r)
      else (c :: (splitKey r).1, (splitKey r).2) := by
  rw [splitKey]
  simp_all

/-- Nothing is lost where a line is cut: the key and what follows it make up the line again. -/
theorem splitKey_append (line : List Char) : (splitKey line).1 ++ (splitKey line).2 = line := by
  fun_induction splitKey line <;> simp_all +zetaDelta

/-- A separator is no blank, so it is not dropped together with the blanks before it. -/
theorem isSpace_eq_false_of_isSeparator {c : Char} (h : isSeparator c = true) :
    isSpace c = false := by
  rcases (by simpa [isSeparator] using h : c = '=' ∨ c = ':') with rfl | rfl <;> decide

/-- A blank between the key and the value is dropped, and what is left to drop is the same without
it. -/
theorem dropSeparator_of_isSpace {c : Char} (h : isSpace c = true) (s : List Char) :
    dropSeparator (c :: s) = dropSeparator s := by
  rw [dropSeparator, List.dropWhile_cons_of_pos h]
  rfl

/-- One separator is dropped together with the blanks after it. A second one would begin the
value. -/
theorem dropSeparator_of_isSeparator {c : Char} (h : isSeparator c = true) (s : List Char) :
    dropSeparator (c :: s) = s.dropWhile isSpace := by
  have not_space := isSpace_eq_false_of_isSeparator h
  simp [dropSeparator, not_space, h]

/-- A character that is neither a separator nor a blank begins the value at once. -/
theorem dropSeparator_of_not {c : Char} (hs : isSeparator c = false) (hb : isSpace c = false)
    (s : List Char) : dropSeparator (c :: s) = c :: s := by
  simp [dropSeparator, hb, hs]

end AwsCredentials.Properties
