/-!
# Line ends

A line ends at a line feed, at a carriage return, or at a carriage return with a line feed right
after it, and the longest of these counts.

* `unifyLineEnds` writes every line end as a line feed, as reading a file does.
* `naturalLines` cuts a text at its line ends; a text with `n` line ends has `n + 1` lines, the last
  one empty when the text ends with a line end.
-/

namespace AwsCredentials.Text

/-- The text with every line end written as a line feed. The two characters of a line end make
one. -/
def unifyLineEnds : List Char → List Char
  | [] => []
  | '\r' :: '\n' :: r => '\n' :: unifyLineEnds r
  | '\r' :: r => '\n' :: unifyLineEnds r
  | c :: r => c :: unifyLineEnds r

/-- The lines of a text, without their ends. A text that ends in a line end has an empty last
line. -/
def naturalLines : List Char → List (List Char)
  | [] => [[]]
  | '\r' :: '\n' :: r => [] :: naturalLines r
  | '\r' :: r => [] :: naturalLines r
  | '\n' :: r => [] :: naturalLines r
  | c :: r => (naturalLines r).modifyHead (c :: ·)

/-- A text has at least one line, be it an empty one. -/
theorem naturalLines_ne_nil (s : List Char) : naturalLines s ≠ [] := by
  fun_induction naturalLines s <;> simp_all

/-- A character that ends no line belongs to the first line. -/
theorem naturalLines_cons {c : Char} (hr : c ≠ '\r') (hn : c ≠ '\n') (s : List Char) :
    naturalLines (c :: s) = (naturalLines s).modifyHead (c :: ·) := by
  rw [naturalLines]
  all_goals simp_all

/-- A carriage return ends a line, alone if no line feed follows, and the next line begins after
it. -/
theorem naturalLines_return {s : List Char} (h : s.head? ≠ some '\n') :
    naturalLines ('\r' :: s) = [] :: naturalLines s := by
  rw [naturalLines]
  rintro r rfl
  exact h rfl

end AwsCredentials.Text
