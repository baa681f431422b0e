/-!
# White space around a text

A configured value is stored without the white space around it, and a value that is nothing but
white space counts as not given. White space here is the Unicode property of that name together
with the four information separators U+001C to U+001F, which some older formats use as blanks.

* `trim` removes from both ends what a predicate selects; `strip` is `trim` at `isBlank`.
* `dropTrailing` is the half of `trim` that works at the end of a list.

A selected last element goes, and what is before it is treated as if it had not been there
(`dropTrailing_concat`).
-/

namespace AwsCredentials.Text

/-! ### The blanks -/

/-- The code points that count as white space, as closed ranges in ascending order: those of
Unicode, and the four separators of information below the space. -/
def blankRanges : List (Nat × Nat) :=
  [(0x09, 0x0D), (0x1C, 0x20), (0x85, 0x85), (0xA0, 0xA0), (0x1680, 0x1680), (0x2000, 0x200A),
    (0x2028, 0x2029), (0x202F, 0x202F), (0x205F, 0x205F), (0x3000, 0x3000)]

/-- A character counts as white space when its code point lies in one of `blankRanges`. -/
def isBlank (c : Char) : Bool :=
  blankRanges.any fun r ↦ r.1 ≤ c.toNat && c.toNat ≤ r.2

/-! ### Trimming -/

variable {α : Type}

/-- The list without the longest run of selected elements at its end. Selected elements before any
other stay. -/
def dropTrailing (p : α → Bool) (l : List α) : List α :=
  (l.reverse.dropWhile p).reverse

/-- The list without the longest runs of selected elements at both ends. -/
def trim (p : α → Bool) (l : List α) : List α :=
  dropTrailing p (l.dropWhile p)

/-- A text without the white space around it, from which nothing within is removed. -/
def strip (s : List Char) : List Char :=
  trim isBlank s

@[simp]
theorem dropTrailing_nil (p : α → Bool) : dropTrailing p [] = [] :=
  rfl

@[simp]
theorem trim_nil (p : α → Bool) : trim p [] = [] :=
  rfl

/-- A selected last element goes, and whether more go does not depend on it. -/
theorem dropTrailing_concat {p : α → Bool} {x : α} (h : p x = true) (l : List α) :
    dropTrailing p (l ++ [x]) = dropTrailing p l := by
  simp [dropTrailing, h]

/-- A string without the white space around it, as values of fields and tokens are kept. -/
def stripped (s : String) : String :=
  String.ofList (strip s.toList)

end AwsCredentials.Text
