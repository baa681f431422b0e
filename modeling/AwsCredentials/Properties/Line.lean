import AwsCredentials.Text.LineEnd

/-!
# Logical lines of a properties text

A properties text is cut into natural lines at its line ends, and natural lines are joined into
logical ones:

* leading blanks of a natural line are dropped (a blank is a space, a tab or a form feed);
* outside a logical line already begun, a natural line that is then empty or begins with a comment
  marker is skipped;
* a natural line that ends in an odd number of backslashes loses the last of them and goes on with
  the next natural line, or with nothing at the end of the text.

`joinLines` carries the logical line begun so far as an option: an empty beginning is not the same
as none, because comment markers and empty lines count within a logical line.
-/

namespace AwsCredentials.Properties

/-- A blank within a line. Only these three count, and not the other white space that is trimmed
from values elsewhere. -/
def isSpace (c : Char) : Bool :=
  c = ' ' || c = '\t' || c = '\x0c'

/-- A character that makes a line a comment when it comes first in a logical line, after blanks. -/
def isCommentMarker (c : Char) : Bool :=
  c = '#' || c = '!'

/-- A natural line, without its leading blanks, that holds no part of an entry. -/
def isIgnorable : List Char → Bool
  | [] => true
  | c :: _ => isCommentMarker c

/-- How many backslashes stand at the end of a line. What stands before them does not matter. -/
def trailingBackslashes (l : List Char) : Nat :=
  (l.reverse.takeWhile (· = '\\')).length

/-- A line goes on with the next one when it ends in an odd number of backslashes. -/
def continues (l : List Char) : Bool :=
  trailingBackslashes l % 2 = 1

/-- Joins natural lines into logical lines, the first of which may have begun already. -/
def joinLines : Option (List Char) → List (List Char) → List (List Char)
  | begun, [] => begun.toList
  | begun, natural :: rest =>
    let line := natural.dropWhile isSpace
    if begun.isNone && isIgnorable line then joinLines none rest
    -- The last backslash of an odd run escapes the line end; all before it pair up.
    else if continues line then joinLines (some (begun.getD [] ++ line.dropLast)) rest
    else (begun.getD [] ++ line) :: joinLines none rest

/-- The logical lines of a text, each of which is an entry; comments and empty lines are no longer
among them. -/
def logicalLines (s : List Char) : List (List Char) :=
  joinLines none (Text.naturalLines s)

@[simp]
theorem joinLines_none_nil : joinLines none [] = [] :=
  rfl

@[simp]
theorem joinLines_some_nil (l : List Char) : joinLines (some l) [] = [l] :=
  rfl

/-- An ignorable line between logical lines leaves no trace. Within a logical line it would be a
part of it. -/
theorem joinLines_ignorable {natural : List Char} (h : isIgnorable (natural.dropWhile isSpace))
    (rest : List (List Char)) : joinLines none (natural :: rest) = joinLines none rest := by
  simp [joinLines, h]

end AwsCredentials.Properties
