import AwsCredentials.Proofs.Text.Numeral
import AwsCredentials.Text.Quoted

/-!
# Texts on one line

A text that is shown to a user is broken into lines at ten characters, and at a carriage return with
a line feed right after it as if the two were one. `shownLines` does that; a text that ends with a
line end has no further line after it. A text takes one line (`IsOneLine`) when none of the ten
characters stands in it.

Of what a message is put together from, quoted texts take one line whatever they quote
(`isOneLine_quote`), and so do numbers. Lines that are joined by line feeds are shown as they were
(`shownLines_intercalate`), provided that none is empty: an empty line at the end would not show.
-/

namespace AwsCredentials.Text

/-! ### One line -/

/-- A text takes one line: no character of it ends a line, by any of the ten characters that do for
some reader. -/
def IsOneLine (s : String) : Prop :=
  ∀ c ∈ s.toList, c ∉ lineEnds

-- Instance search may find the one that looks at all characters there are, so this one is named.
instance : DecidablePred IsOneLine := fun s ↦
  List.decidableBAll (· ∉ lineEnds) s.toList

@[simp]
theorem isOneLine_append {s t : String} : IsOneLine (s ++ t) ↔ IsOneLine s ∧ IsOneLine t := by
  simp only [IsOneLine, String.toList_append, List.forall_mem_append]

/-- Texts that take one line take one line together, with a separator that takes one. -/
theorem isOneLine_intercalate_map {α : Type} {separator : String} (hs : IsOneLine separator)
    {f : α → String} (h : ∀ a, IsOneLine (f a)) (l : List α) :
    IsOneLine (separator.intercalate (l.map f)) := by
  induction l with
  | nil => simp [IsOneLine]
  | cons a l ih =>
    cases l with
    | nil => simpa using h a
    | cons b l =>
      rw [List.map_cons, List.map_cons, String.intercalate_cons_cons, isOneLine_append,
        isOneLine_append]
      exact ⟨⟨h a, hs⟩, ih⟩

/-- **A quoted text takes one line**, whatever it quotes, because line ends are written as
escapes. -/
@[simp]
theorem isOneLine_quote (s : String) : IsOneLine (quote s) := by
  intro c hc
  rw [quote, String.toList_ofList] at hc
  exact not_mem_lineEnds_of_mem_quoteChars hc

/-- The digits of a number end no line, each being an ASCII digit. -/
theorem not_mem_lineEnds_of_mem_toDigits {n : Nat} {c : Char} (h : c ∈ Nat.toDigits 10 n) :
    c ∉ lineEnds := by
  have no_digit : lineEnds.all (!Char.isDigit ·) = true := by decide
  intro hc
  have digit := Numeral.isDigit_iff.2 ((isDigits_toDigits n).2 c h)
  simpa [digit] using List.all_eq_true.1 no_digit c hc

@[simp]
theorem isOneLine_toString (n : Nat) : IsOneLine (toString n) := by
  intro c hc
  rw [Nat.toString_eq_repr, Nat.toList_repr] at hc
  exact not_mem_lineEnds_of_mem_toDigits hc

@[simp]
theorem isOneLine_decimal (n : Int) : IsOneLine (decimal n) := by
  intro c hc
  cases n with
  | ofNat k =>
    rw [decimal, String.toList_ofList] at hc
    exact not_mem_lineEnds_of_mem_toDigits hc
  | negSucc k =>
    rw [decimal, String.toList_ofList, List.mem_cons] at hc
    rcases hc with rfl | hc
    · decide
    · exact not_mem_lineEnds_of_mem_toDigits hc

/-! ### The lines of a text -/

/-- The lines of a text as they are shown, without their ends. -/
def shownLines : List Char → List (List Char)
  | [] => []
  | '\r' :: '\n' :: s => [] :: shownLines s
  | c :: s =>
    if c ∈ lineEnds then [] :: shownLines s
    else
      match shownLines s with
      | [] => [[c]]
      | line :: more => (c :: line) :: more

/-- The lines of a string as a reader sees them. -/
def linesOf (s : String) : List String :=
  (shownLines s.toList).map String.ofList

/-- A character that ends no line belongs to the first line. -/
theorem shownLines_cons {c : Char} (h : c ∉ lineEnds) (s : List Char) :
    shownLines (c :: s) =
      match shownLines s with
      | [] => [[c]]
      | line :: more => (c :: line) :: more := by
  have no_return : c ≠ '\r' := fun hc ↦ h (hc ▸ by decide)
  rw [shownLines, if_neg h]
  intro s' hc
  exact absurd hc no_return

/-- What stands before a line feed is the first line, if nothing in it ends a line before. -/
theorem shownLines_append {l : List Char} (h : ∀ c ∈ l, c ∉ lineEnds) (s : List Char) :
    shownLines (l ++ '\n' :: s) = l :: shownLines s := by
  induction l with
  | nil =>
    rw [List.nil_append, shownLines, if_pos (by decide)]
    intro s' hc
    exact absurd hc (by decide)
  | cons c l ih =>
    obtain ⟨first, others⟩ := List.forall_mem_cons.1 h
    rw [List.cons_append, shownLines_cons first, ih others]

/-- A text that is not empty and takes one line is that line. The empty text has no line. -/
theorem shownLines_eq_singleton {l : List Char} (hne : l ≠ []) (h : ∀ c ∈ l, c ∉ lineEnds) :
    shownLines l = [l] := by
  induction l with
  | nil => exact absurd rfl hne
  | cons c l ih =>
    obtain ⟨first, others⟩ := List.forall_mem_cons.1 h
    rw [shownLines_cons first]
    cases l with
    | nil => rfl
    | cons d l => rw [ih (List.cons_ne_nil d l) others]

/-- **Lines that are joined by line feeds are shown as they were**, by induction on the lines, if
none is empty. -/
theorem shownLines_intercalate {ls : List (List Char)} (hne : ∀ l ∈ ls, l ≠ [])
    (h : ∀ l ∈ ls, ∀ c ∈ l, c ∉ lineEnds) : shownLines (['\n'].intercalate ls) = ls := by
  induction ls with
  | nil => rfl
  | cons l ls ih =>
    obtain ⟨first_ne, others_ne⟩ := List.forall_mem_cons.1 hne
    obtain ⟨first, others⟩ := List.forall_mem_cons.1 h
    cases ls with
    | nil => simpa using shownLines_eq_singleton first_ne first
    | cons m ls =>
      rw [List.intercalate_cons_cons, List.append_assoc, List.singleton_append,
        shownLines_append first, ih others_ne others]

theorem linesOf_intercalate {ss : List String} (hne : ∀ s ∈ ss, s ≠ "")
    (h : ∀ s ∈ ss, IsOneLine s) : linesOf ("\n".intercalate ss) = ss := by
  have joined : ("\n".intercalate ss).toList = ['\n'].intercalate (ss.map String.toList) := by
    rw [String.toList_intercalate]
    rfl
  rw [linesOf, joined, shownLines_intercalate, List.map_map]
  · simp
  · simpa using hne
  · simpa [IsOneLine] using h

end AwsCredentials.Text
