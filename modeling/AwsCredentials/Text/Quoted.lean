import AwsCredentials.Text.Printable

/-!
# Quoted texts

A message shows a text that a user gave between quotes, so that its ends are visible and it takes
one line whatever characters it holds.

* The quote is the single one, unless the text has a single quote and no double quote
  (`quoteFor`).
* A backslash and the quote in use get a backslash before them; line feed, carriage return and tab
  are written as letters; any other character that is not printable is written by its number in two,
  four or eight hexadecimal digits (`escapeChar`).

The law kept here, `not_mem_lineEnds_of_mem_quoteChars`, says that a quoted text holds no line end:
each line end is unprintable, and what stands for an unprintable character is ASCII.
-/

namespace AwsCredentials.Text

/-! ### Numbers in hexadecimal -/

/-- The low digits of a number in base 16, most significant first and small letters. -/
def hexDigits : (width : Nat) → Nat → List Char
  | 0, _ => []
  | width + 1, n => hexDigits width (n / 16) ++ [(n % 16).digitChar]

@[simp]
theorem length_hexDigits (width n : Nat) : (hexDigits width n).length = width := by
  induction width generalizing n with
  | zero => rfl
  | succ width ih => simp [hexDigits, ih]

/-- What stands in a hexadecimal number is the digit of a number below 16, by induction on the
width. -/
theorem exists_of_mem_hexDigits {width n : Nat} {c : Char} (h : c ∈ hexDigits width n) :
    ∃ d < 16, d.digitChar = c := by
  induction width generalizing n with
  | zero => simp [hexDigits] at h
  | succ width ih =>
    rcases List.mem_append.1 h with h | h
    · exact ih h
    · exact ⟨n % 16, Nat.mod_lt _ (by decide), (List.mem_singleton.1 h).symm⟩

/-! ### Quoting -/

/-- The quote that a text is put between. It is the double one only if this saves an escape. -/
def quoteFor (s : List Char) : Char :=
  if '\'' ∈ s ∧ '"' ∉ s then '"' else '\''

/-- What stands for a character that is not printable: its number, in the shortest of three
widths. -/
def escapeNumber (n : Nat) : List Char :=
  if n < 0x100 then '\\' :: 'x' :: hexDigits 2 n
  else if n < 0x10000 then '\\' :: 'u' :: hexDigits 4 n
  else '\\' :: 'U' :: hexDigits 8 n

/-- What stands for a character between the given quotes: the character itself, or an escape. -/
def escapeChar (quote c : Char) : List Char :=
  if c = quote ∨ c = '\\' then ['\\', c]
  else if c = '\n' then ['\\', 'n']
  else if c = '\r' then ['\\', 'r']
  else if c = '\t' then ['\\', 't']
  else if isPrintable c then [c]
  else escapeNumber c.toNat

/-- A text between quotes, with escapes for what cannot be shown or would end it. -/
def quoteChars (s : List Char) : List Char :=
  quoteFor s :: s.flatMap (escapeChar (quoteFor s)) ++ [quoteFor s]

/-- A string between quotes, as messages show it. -/
def quote (s : String) : String :=
  String.ofList (quoteChars s.toList)

/-! ### A quoted text takes one line -/

/-- The quote is one of the two quotation marks, so it does not end a line. -/
theorem quoteFor_eq (s : List Char) : quoteFor s = '\'' ∨ quoteFor s = '"' := by
  unfold quoteFor
  split
  · exact .inr rfl
  · exact .inl rfl

/-- A hexadecimal number holds no line end, since no digit is one. -/
theorem not_mem_lineEnds_of_mem_hexDigits {width n : Nat} {c : Char} (h : c ∈ hexDigits width n) :
    c ∉ lineEnds := by
  obtain ⟨d, hd, rfl⟩ := exists_of_mem_hexDigits h
  have all : (List.range 16).all (fun d ↦ !lineEnds.contains d.digitChar) = true := by decide
  simpa using List.all_eq_true.1 all d (List.mem_range.2 hd)

/-- The number that stands for an unprintable character holds no line end, in any of the three forms
that it can have. -/
theorem not_mem_lineEnds_of_mem_escapeNumber {n : Nat} {c : Char} (h : c ∈ escapeNumber n) :
    c ∉ lineEnds := by
  unfold escapeNumber at h
  split at h
  · rcases List.mem_cons.1 h with rfl | h
    · decide
    · rcases List.mem_cons.1 h with rfl | h
      · decide
      · exact not_mem_lineEnds_of_mem_hexDigits h
  · split at h <;>
    · rcases List.mem_cons.1 h with rfl | h
      · decide
      · rcases List.mem_cons.1 h with rfl | h
        · decide
        · exact not_mem_lineEnds_of_mem_hexDigits h

/-- What stands for a character holds no line end: a line end is not printable, so a number stands
for it. -/
theorem not_mem_lineEnds_of_mem_escapeChar {q c d : Char} (hq : q ∉ lineEnds)
    (h : d ∈ escapeChar q c) : d ∉ lineEnds := by
  unfold escapeChar at h
  split at h
  · next hc =>
    rcases List.mem_cons.1 h with rfl | h
    · decide
    · obtain rfl := List.mem_singleton.1 h
      rcases hc with rfl | rfl
      · exact hq
      · decide
  · split at h
    · simp only [List.mem_cons, List.not_mem_nil, or_false] at h
      rcases h with rfl | rfl <;> decide
    · split at h
      · simp only [List.mem_cons, List.not_mem_nil, or_false] at h
        rcases h with rfl | rfl <;> decide
      · split at h
        · simp only [List.mem_cons, List.not_mem_nil, or_false] at h
          rcases h with rfl | rfl <;> decide
        · split at h
          · next hp =>
            obtain rfl := List.mem_singleton.1 h
            intro hd
            simp [not_isPrintable_of_lineEnd hd] at hp
          · exact not_mem_lineEnds_of_mem_escapeNumber h

/-- A quoted text holds no line end, whatever the text held that was quoted. -/
theorem not_mem_lineEnds_of_mem_quoteChars {s : List Char} {c : Char} (h : c ∈ quoteChars s) :
    c ∉ lineEnds := by
  have hq : quoteFor s ∉ lineEnds := by
    rcases quoteFor_eq s with h | h <;> rw [h] <;> decide
  simp only [quoteChars, List.mem_append, List.mem_cons, List.mem_flatMap, List.not_mem_nil,
    or_false] at h
  rcases h with (rfl | ⟨d, _, h⟩) | rfl
  · exact hq
  · exact not_mem_lineEnds_of_mem_escapeChar hq h
  · exact hq

end AwsCredentials.Text
