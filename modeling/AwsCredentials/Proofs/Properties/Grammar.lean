import AwsCredentials.Proofs.Properties.Alphabet
import AwsCredentials.Proofs.Properties.Piece
import AwsCredentials.Proofs.Text.LineEnd
import Mathlib.Data.List.TakeWhile

/-!
# The grammar of properties texts

Properties texts are written by hand, and there are many ways to write the same entries. This is the
grammar of all of them, from the inside out:

* `Spells` writes a text: a character stands for itself, and any may be escaped by a backslash, by a
  letter or by its number;
* `Parts` is what may stand between a key and a value, and `WritesEntry` is a key, such a part and a
  value;
* `Spreads` lays a text out over natural lines, each but the last with a backslash at its end and
  each with blanks before it;
* `Holds` puts entries one after the other, with blank lines and comments (`IsIgnored`) in between;
* `IsWritten` gives the lines ends of any kind.

What a text is written to hold is what is read (`IsWritten.readEntries_eq`), so a text is written to
hold one list of entries at most. Each relation is shown to agree with the pass of the parser that
undoes it, by induction on how it was built.
-/

namespace AwsCredentials.Properties

open Text (CodePoint CodeText Lined)

/-! ### Keys and values -/

/-- A character that ends a key unless it is escaped: a separator or a blank. -/
def endsKey (c : Char) : Bool :=
  isSeparator c || isSpace c

/-- The characters write a text in which the stops are escaped. -/
inductive Spells (stops : Char → Bool) : List Char → CodeText → Prop
  /-- The empty text. -/
  | nil : Spells stops [] []
  /-- A character that stands for itself. -/
  | plain {c : Char} {s : List Char} {t : CodeText} (no_backslash : c ≠ '\\')
      (no_stop : stops c = false) (rest : Spells stops s t) : Spells stops (c :: s) (.char c :: t)
  /-- A character after a backslash. -/
  | escape {c : Char} {s : List Char} {t : CodeText} (no_number : c ≠ 'u')
      (rest : Spells stops s t) : Spells stops ('\\' :: c :: s) (.char (meaning c) :: t)
  /-- A code point by its number. -/
  | number {a b c d : Char} {n : Fin 65536} {s : List Char} {t : CodeText}
      (digits : numeral? [a, b, c, d] = some n) (rest : Spells stops s t) :
      Spells stops ('\\' :: 'u' :: a :: b :: c :: d :: s) (.ofUnit n :: t)

/-- **What is spelled is decoded.** -/
theorem Spells.unescape_eq {stops : Char → Bool} {s : List Char} {t : CodeText}
    (h : Spells stops s t) : unescape s = .ok t := by
  induction h with
  | nil => rfl
  | plain no_backslash _ _ ih => rw [unescape_cons no_backslash, ih]; rfl
  | escape no_number _ ih => rw [unescape_escape no_number, escapedChar_eq, ih]; rfl
  | number digits _ ih => rw [unescape, unit?_eq, digits]; dsimp only; rw [ih]; rfl

/-- A text without backslashes and stops is spelled as it is, each character by itself. -/
theorem spells_of_not_mem {stops : Char → Bool} {s : List Char}
    (h : ∀ c ∈ s, c ≠ '\\' ∧ stops c = false) : Spells stops s (CodeText.ofChars s) := by
  induction s with
  | nil => exact .nil
  | cons c s ih =>
    rw [List.forall_mem_cons] at h
    exact .plain h.1.1 h.1.2 (ih h.2)

/-- The digits of a number neither end a key nor begin an escape, so that a key goes on over an
escape by number. -/
theorem not_endsKey_of_numeral? {a b c d : Char} {n : Fin 65536}
    (h : numeral? [a, b, c, d] = some n) :
    ∀ x ∈ [a, b, c, d], x ≠ '\\' ∧ endsKey x = false := by
  have no_digit : ∀ x ∈ hexadecimalDigits, decide (x ≠ '\\' ∧ endsKey x = false) = true :=
    List.all_eq_true.1 rfl
  have digits : ∀ x ∈ [a, b, c, d], x ∈ hexadecimalDigits :=
    isSome_unit?_iff.1 (by rw [unit?_eq, h]; rfl)
  exact fun x hx ↦ of_decide_eq_true (no_digit x (digits x hx))

/-- What is spelled leaves no backslash over, because every backslash in it has its second
character. -/
theorem Spells.isSpelled {stops : Char → Bool} {s : List Char} {t : CodeText}
    (h : Spells stops s t) : IsSpelled s := by
  induction h with
  | nil => exact ⟨[], rfl⟩
  | plain no_backslash _ _ ih =>
    exact isSpelled_append (Piece.plain _ no_backslash).isSpelled_chars ih
  | @escape c _ _ _ _ ih => exact isSpelled_append (Piece.escape c).isSpelled_chars ih
  | number digits _ ih =>
    have no_backslash := isSpelled_of_not_mem fun h ↦ (not_endsKey_of_numeral? digits _ h).1 rfl
    exact isSpelled_append (Piece.escape 'u').isSpelled_chars (isSpelled_append no_backslash ih)

/-- Characters that end no key belong to it, as long as none of them is a backslash. -/
theorem splitKey_append_of_not_endsKey {k : List Char}
    (h : ∀ c ∈ k, c ≠ '\\' ∧ endsKey c = false) (s : List Char) :
    splitKey (k ++ s) = (k ++ (splitKey s).1, (splitKey s).2) := by
  induction k with
  | nil => rfl
  | cons c k ih =>
    rw [List.forall_mem_cons] at h
    have goes_on : (isSeparator c || isSpace c) = false := h.1.2
    rw [List.cons_append, splitKey_cons h.1.1, goes_on, ih h.2]
    rfl

/-- **A key goes on over all that it is spelled with**, and where it ends is decided by what comes
after that. -/
theorem Spells.splitKey_append {k : List Char} {t : CodeText} (h : Spells endsKey k t)
    (s : List Char) : splitKey (k ++ s) = (k ++ (splitKey s).1, (splitKey s).2) := by
  induction h with
  | nil => rfl
  | @plain c _ _ no_backslash no_stop _ ih =>
    have goes_on : (isSeparator c || isSpace c) = false := no_stop
    rw [List.cons_append, splitKey_cons no_backslash, goes_on, ih]
    rfl
  | escape _ _ ih => rw [List.cons_append, List.cons_append, splitKey_escape, ih]; rfl
  | @number a b c d _ k _ digits _ ih =>
    -- The backslash takes only the `u` along, so the digits are looked at one by one.
    have among_digits := splitKey_append_of_not_endsKey (not_endsKey_of_numeral? digits) (k ++ s)
    have cut : '\\' :: 'u' :: a :: b :: c :: d :: k ++ s =
        '\\' :: 'u' :: ([a, b, c, d] ++ (k ++ s)) := rfl
    rw [cut, splitKey_escape, among_digits, ih]
    rfl

/-! ### Entries -/

/-- A text of blanks within a line, maybe the empty one. -/
def AreBlanks (s : List Char) : Prop :=
  ∀ c ∈ s, isSpace c = true

instance (s : List Char) : Decidable (AreBlanks s) :=
  decidable_of_iff (s.all isSpace = true) List.all_eq_true

/-- The first text parts a key from a value that is written as the second one. -/
inductive Parts : List Char → List Char → Prop
  /-- There is no value. -/
  | nothing : Parts [] []
  /-- Blanks alone, where the value begins with no separator that is not escaped. -/
  | blanks {gap v : List Char} (some_blank : gap ≠ []) (blank : AreBlanks gap)
      (starts : ∀ c ∈ v.head?, endsKey c = false) : Parts gap v
  /-- A separator among blanks. -/
  | separator {before after v : List Char} {c : Char} (blank_before : AreBlanks before)
      (separates : isSeparator c = true) (blank_after : AreBlanks after)
      (starts : ∀ c ∈ v.head?, isSpace c = false) : Parts (before ++ c :: after) v

/-- A line is the entry of a key and a value. -/
def WritesEntry (line : List Char) (key value : CodeText) : Prop :=
  ∃ k gap v, line = k ++ (gap ++ v) ∧ Spells endsKey k key ∧ Parts gap v ∧
    Spells (fun _ ↦ false) v value

/-- A text that begins with no blank has none to drop, and this is so of the empty text too. -/
theorem dropWhile_isSpace_of_head? {s : List Char} (h : ∀ c ∈ s.head?, isSpace c = false) :
    s.dropWhile isSpace = s := by
  cases s with
  | nil => rfl
  | cons c s =>
    have not_space : isSpace c = false := h c rfl
    exact List.dropWhile_cons_of_neg (by simp [not_space])

/-- Blanks before a separator or a value are dropped, and then it goes on as if they had not been
there. -/
theorem AreBlanks.dropSeparator_append {gap : List Char} (h : AreBlanks gap) (s : List Char) :
    dropSeparator (gap ++ s) = dropSeparator s := by
  induction gap with
  | nil => rfl
  | cons c gap ih =>
    rw [AreBlanks, List.forall_mem_cons] at h
    rw [List.cons_append, dropSeparator_of_isSpace h.1, ih h.2]

/-- **What parts a key from a value is dropped**, and nothing else: the value is left as it is
written. -/
theorem Parts.dropSeparator_append {gap v : List Char} (h : Parts gap v) :
    dropSeparator (gap ++ v) = v := by
  cases h with
  | nothing => rfl
  | blanks _ blank starts =>
    rw [blank.dropSeparator_append]
    cases v with
    | nil => rfl
    | cons c v =>
      have no_end : (isSeparator c || isSpace c) = false := starts c rfl
      rw [Bool.or_eq_false_iff] at no_end
      exact dropSeparator_of_not no_end.1 no_end.2 v
  | separator blank_before separates blank_after starts =>
    rw [List.append_assoc, blank_before.dropSeparator_append, List.cons_append,
      dropSeparator_of_isSeparator separates, List.dropWhile_append_of_pos blank_after,
      dropWhile_isSpace_of_head? starts]

/-- The key ends where something parts it from a value, since the first character there is a
separator or a blank, or there is none. -/
theorem Parts.splitKey_eq {gap v : List Char} (h : Parts gap v) :
    splitKey (gap ++ v) = ([], gap ++ v) := by
  have ends {c : Char} (hc : endsKey c = true) (s : List Char) :
      splitKey (c :: s) = ([], c :: s) := by
    have no_backslash : c ≠ '\\' := by
      rintro rfl
      exact absurd hc (by decide)
    exact (splitKey_cons no_backslash s).trans (if_pos hc)
  cases h with
  | nothing => rfl
  | blanks some_blank blank _ =>
    obtain ⟨c, gap, rfl⟩ := List.ne_nil_iff_exists_cons.1 some_blank
    exact ends (by simp [endsKey, blank c List.mem_cons_self]) _
  | @separator before after _ c blank_before separates _ _ =>
    cases before with
    | nil => exact ends (by simp [endsKey, separates]) _
    | cons d before => exact ends (by simp [endsKey, blank_before d List.mem_cons_self]) _

/-- There is no backslash in what parts a key from a value, so none is left over in it. -/
theorem Parts.isSpelled {gap v : List Char} (h : Parts gap v) : IsSpelled gap := by
  have of_blanks {s : List Char} (blank : AreBlanks s) : IsSpelled s :=
    isSpelled_of_not_mem fun h ↦ absurd (blank _ h) (by decide)
  cases h with
  | nothing => exact of_blanks (List.forall_mem_nil _)
  | blanks _ blank _ => exact of_blanks blank
  | @separator before after _ c blank_before separates blank_after _ =>
    have no_backslash : '\\' ∉ [c] := by
      rintro h
      obtain rfl := List.mem_singleton.1 h
      exact absurd separates (by decide)
    exact isSpelled_append (of_blanks blank_before)
      (isSpelled_append (isSpelled_of_not_mem no_backslash) (of_blanks blank_after))

/-- No backslash is left over at the end of an entry, so its line would not go on. -/
theorem WritesEntry.isSpelled {line : List Char} {key value : CodeText}
    (h : WritesEntry line key value) : IsSpelled line := by
  obtain ⟨k, gap, v, rfl, spells_key, parts, spells_value⟩ := h
  exact isSpelled_append spells_key.isSpelled
    (isSpelled_append parts.isSpelled spells_value.isSpelled)

/-- **The entry of a line is read**: the key is found to be as long as it is, the gap is dropped,
and both parts are decoded. -/
theorem WritesEntry.readEntry_eq {line : List Char} {key value : CodeText}
    (h : WritesEntry line key value) : readEntry line = .ok (key, value) := by
  obtain ⟨k, gap, v, rfl, spells_key, parts, spells_value⟩ := h
  have cut : splitEntry (k ++ (gap ++ v)) = (k, v) := by
    rw [splitEntry, spells_key.splitKey_append, parts.splitKey_eq, List.append_nil,
      parts.dropSeparator_append]
  rw [readEntry, cut, spells_value.unescape_eq, spells_key.unescape_eq]
  rfl

/-! ### Lines -/

/-- A natural line that is blank or a comment, which is skipped unless a logical line was begun
before it. -/
def IsIgnored (l : List Char) : Prop :=
  AreBlanks l ∨ ∃ indent c s, AreBlanks indent ∧ isCommentMarker c = true ∧ l = indent ++ c :: s

/-- A comment marker is no blank. -/
theorem isSpace_of_isCommentMarker {c : Char} (h : isCommentMarker c = true) :
    isSpace c = false := by
  rcases (by simpa [isCommentMarker] using h : c = '#' ∨ c = '!') with rfl | rfl <;> decide

/-- Without its leading blanks, an ignored line is empty or begins with a comment marker. This is
how the parser looks at it. -/
theorem isIgnored_iff {l : List Char} :
    IsIgnored l ↔ isIgnorable (l.dropWhile isSpace) = true := by
  constructor
  · rintro (blank | ⟨indent, c, s, blank, marker, rfl⟩)
    · rw [List.dropWhile_eq_nil_iff.2 blank]
      rfl
    · have not_space := isSpace_of_isCommentMarker marker
      rw [List.dropWhile_append_of_pos blank, List.dropWhile_cons_of_neg (by simp [not_space])]
      exact marker
  · intro ignorable
    cases h : l.dropWhile isSpace with
    | nil => exact .inl (List.dropWhile_eq_nil_iff.1 h)
    | cons c s =>
      rw [h] at ignorable
      refine .inr ⟨l.takeWhile isSpace, c, s, fun x hx ↦ List.mem_takeWhile_imp hx, ignorable, ?_⟩
      rw [← h, List.takeWhile_append_dropWhile]

/-- Natural lines hold one text between them. Each begins with blanks that do not count, and each
but the last ends with a backslash that does not count either. -/
inductive Spreads : List (List Char) → List Char → Prop
  /-- The last line. -/
  | last {indent s : List Char} (blank : AreBlanks indent)
      (starts : ∀ c ∈ s.head?, isSpace c = false) (spelled : IsSpelled s) : Spreads [indent ++ s] s
  /-- A line that goes on with the next. -/
  | more {indent s r : List Char} {ls : List (List Char)} (blank : AreBlanks indent)
      (starts : ∀ c ∈ s.head?, isSpace c = false) (spelled : IsSpelled s) (rest : Spreads ls r) :
      Spreads ((indent ++ (s ++ ['\\'])) :: ls) (s ++ r)

/-- A line that does not go on holds what comes after its leading blanks, and nothing of it is lost
at the end. -/
theorem spreads_line {l s : List Char} (dropped : l.dropWhile isSpace = s)
    (spelled : IsSpelled s) : Spreads [l] s := by
  have starts : ∀ c ∈ s.head?, isSpace c = false := by
    intro c hc
    have := List.head?_dropWhile_not isSpace l
    rwa [dropped, hc] at this
  have blank : AreBlanks (l.takeWhile isSpace) := fun c hc ↦ List.mem_takeWhile_imp hc
  have held := Spreads.last blank starts spelled
  rwa [← dropped, List.takeWhile_append_dropWhile, dropped] at held

/-- A line is looked at when a logical line was begun before it, and when it is not ignored. -/
theorem not_skipped {begun : Option (List Char)} {l : List Char}
    (h : begun = none → ¬IsIgnored l) :
    (begun.isNone && isIgnorable (l.dropWhile isSpace)) = false := by
  cases begun with
  | none => simpa [isIgnored_iff] using h rfl
  | some _ => rfl

/-- **Lines that hold one text are joined**, if the first of them is looked at. -/
theorem Spreads.joinLines_append {ls : List (List Char)} {s : List Char} (h : Spreads ls s)
    (begun : Option (List Char)) (counts : ∀ l ∈ ls.head?, begun = none → ¬IsIgnored l)
    (rest : List (List Char)) :
    joinLines begun (ls ++ rest) = (begun.getD [] ++ s) :: joinLines none rest := by
  -- What was begun varies, since all lines but the first are joined to the lines before them.
  induction h generalizing begun with
  | @last indent s blank starts spelled =>
    obtain ⟨ps, rfl⟩ := spelled
    have dropped : (indent ++ spell ps).dropWhile isSpace = spell ps := by
      rw [List.dropWhile_append_of_pos blank, dropWhile_isSpace_of_head? starts]
    exact joinLines_spell (not_skipped (counts _ rfl)) dropped rest
  | @more indent s r ls blank starts spelled _ ih =>
    obtain ⟨ps, rfl⟩ := spelled
    have still_starts : ∀ c ∈ (spell ps ++ ['\\']).head?, isSpace c = false := by
      cases hs : spell ps with
      | nil => simp [isSpace]
      | cons c t => simpa [hs] using starts
    have dropped : (indent ++ (spell ps ++ ['\\'])).dropWhile isSpace = spell ps ++ ['\\'] := by
      rw [List.dropWhile_append_of_pos blank, dropWhile_isSpace_of_head? still_starts]
    have joined := ih (some (begun.getD [] ++ spell ps)) (by simp)
    rw [List.cons_append, joinLines_spell_concat (not_skipped (counts _ rfl)) dropped, joined,
      Option.getD_some, List.append_assoc]

/-- The natural lines hold the entries in order, with ignored lines between those of two entries. -/
inductive Holds : List (List Char) → List (CodeText × CodeText) → Prop
  /-- No line and no entry. -/
  | nil : Holds [] []
  /-- A line that is blank or a comment. -/
  | ignored {l : List Char} {ls : List (List Char)} {es : List (CodeText × CodeText)}
      (skipped : IsIgnored l) (rest : Holds ls es) : Holds (l :: ls) es
  /-- The lines of an entry. -/
  | entry {l : List Char} {ks ls : List (List Char)} {line : List Char} {key value : CodeText}
      {es : List (CodeText × CodeText)} (counts : ¬IsIgnored l) (spread : Spreads (l :: ks) line)
      (writes : WritesEntry line key value) (rest : Holds ls es) :
      Holds ((l :: ks) ++ ls) ((key, value) :: es)

/-- **The entries that lines hold are read in order**, by induction on how they hold them. -/
theorem Holds.mapM_readEntry_eq {ls : List (List Char)} {es : List (CodeText × CodeText)}
    (h : Holds ls es) : (joinLines none ls).mapM readEntry = .ok es := by
  induction h with
  | nil => rfl
  | ignored skipped _ ih => rwa [joinLines_ignorable (isIgnored_iff.1 skipped)]
  | @entry l _ ls _ _ _ _ counts spread writes _ ih =>
    have looked_at : ∀ k ∈ some l, (none : Option (List Char)) = none → ¬IsIgnored k := by
      simpa using counts
    rw [spread.joinLines_append none looked_at, Option.getD_none, List.nil_append, List.mapM_cons,
      writes.readEntry_eq, ih]
    rfl

/-! ### Texts -/

/-- A text is written to hold the entries: its natural lines do, however they end. -/
def IsWritten (s : List Char) (es : List (CodeText × CodeText)) : Prop :=
  ∃ ls, Lined s ls ∧ Holds ls es

/-- **What a text is written to hold is read**, whatever its line ends. -/
theorem IsWritten.readEntries_eq {s : List Char} {es : List (CodeText × CodeText)}
    (h : IsWritten s es) : readEntries s = .ok es := by
  obtain ⟨ls, lined, holds⟩ := h
  rw [readEntries, logicalLines, lined.naturalLines_eq, holds.mapM_readEntry_eq]

/-- A text still holds its entries after its line ends are unified, since it has the same natural
lines. -/
theorem IsWritten.unifyLineEnds {s : List Char} {es : List (CodeText × CodeText)}
    (h : IsWritten s es) : IsWritten (Text.unifyLineEnds s) es := by
  obtain ⟨ls, lined, holds⟩ := h
  have same_lines : Text.naturalLines (Text.unifyLineEnds s) = ls := by
    rw [Text.naturalLines_unifyLineEnds, lined.naturalLines_eq]
  exact ⟨ls, Text.lined_iff.2 same_lines, holds⟩

/-- **A text of given entries stands for their dictionary**, in which a repeated key has its last
value. -/
theorem IsWritten.parse_eq {s : List Char} {es : List (CodeText × CodeText)}
    (h : IsWritten s es) : parse s = .ok (.ofList es) := by
  rw [parse, h.readEntries_eq]
  rfl

end AwsCredentials.Properties
