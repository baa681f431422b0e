import AwsCredentials.Proofs.Properties.Grammar

/-!
# Writing properties texts

Keys and values are arbitrary texts, and every list of them can be written down: `write` escapes
what has a meaning of its own and leaves the writer a choice of separators, blanks and line ends
(`Layout`). **What is written is read back** (`parse_write`), whatever the choice.

The characters that are escaped by themselves are a parameter of `writeChar`: in a key these are
`keyMarks`, in a value the backslash, and at the head of a value the space as well. What is read is
left to the grammar of properties texts. It remains to show that what is written is written by the
grammar (`isWritten_write`):

* keys and values are spelled, whatever the marks, as long as these cover the stops
  (`spells_writeChar_append`);
* an entry is an entry of the grammar (`Layout.writesEntry`), on one natural line
  (`Layout.isLine_entry`) that is not ignored (`Layout.exists_spreads_entry`).
-/

namespace AwsCredentials.Properties

open Text (CodeText LineEnd IsLine Lined isLine_nil isLine_append isLine_cons)

/-! ### Writing -/

/-- The letter by which a character is written after a backslash, if there is one. It is the
writer's own list. -/
def letter? : Char → Option Char
  | '\t' => some 't'
  | '\n' => some 'n'
  | '\r' => some 'r'
  | '\x0c' => some 'f'
  | _ => none

/-- A character as it is written where the marks are escaped by themselves: by a letter if it has
one, after a backslash if it is a mark, or as it is. -/
def writeChar (marks : List Char) (c : Char) : List Char :=
  match letter? c with
  | some l => ['\\', l]
  | none => if c ∈ marks then ['\\', c] else [c]

/-- The marks of a key: what would end it, begin an escape, or make its line a comment. -/
def keyMarks : List Char :=
  ['\\', ' ', '=', ':', '#', '!']

/-- The marks of a value, but for its first character. -/
def valueMarks : List Char :=
  ['\\']

/-- The marks of the first character of a value, which must not look like a part of what comes
before the value. -/
def headMarks : List Char :=
  ['\\', ' ']

/-- A key as it is written. -/
def writeKey (key : List Char) : List Char :=
  key.flatMap (writeChar keyMarks)

/-- A value as it is written. Only its first character has marks beside the backslash. -/
def writeValue : List Char → List Char
  | [] => []
  | c :: r => writeChar headMarks c ++ r.flatMap (writeChar valueMarks)

/-- What is left to the writer of an entry. -/
structure Layout where
  /-- The blanks before the separator. -/
  before : List Char
  /-- The separator. -/
  separator : Char
  /-- The blanks after the separator. -/
  after : List Char
  /-- The line end. -/
  lineEnd : LineEnd
  /-- The blanks before the separator are blanks. -/
  isSpace_before : ∀ c ∈ before, isSpace c = true
  /-- The separator is a separator. -/
  isSeparator_separator : isSeparator separator = true
  /-- The blanks after the separator are blanks. -/
  isSpace_after : ∀ c ∈ after, isSpace c = true

/-- An entry as it is written, without its line end. -/
def Layout.entry (y : Layout) (key value : List Char) : List Char :=
  writeKey key ++ (y.before ++ y.separator :: (y.after ++ writeValue value))

/-- Keys and values as they are written, one after the other, each in a layout of its own. -/
def write (es : List (Layout × List Char × List Char)) : List Char :=
  es.flatMap fun e ↦ e.1.entry e.2.1 e.2.2 ++ e.1.lineEnd.chars

theorem write_cons (y : Layout) (key value : List Char)
    (es : List (Layout × List Char × List Char)) :
    write ((y, key, value) :: es) = y.entry key value ++ (y.lineEnd.chars ++ write es) :=
  List.append_assoc ..

/-! ### Characters -/

/-- A character is written by a letter, escaped by itself, or as it is, in this order of
preference. -/
theorem writeChar_eq_or (marks : List Char) (c : Char) :
    (∃ l, letter? c = some l ∧ writeChar marks c = ['\\', l]) ∨
      letter? c = none ∧ c ∈ marks ∧ writeChar marks c = ['\\', c] ∨
      letter? c = none ∧ c ∉ marks ∧ writeChar marks c = [c] := by
  unfold writeChar
  cases letter? c with
  | some l => exact .inl ⟨l, rfl, rfl⟩
  | none => by_cases hc : c ∈ marks <;> simp [hc]

/-- The letters are written for the characters that they stand for: the writer's list is the
format's, read the other way. -/
theorem letter?_eq_some_iff {c l : Char} : letter? c = some l ↔ (l, c) ∈ letters := by
  constructor
  · intro h
    unfold letter? at h
    split at h <;> cases h
    all_goals decide
  · have listed : ∀ e ∈ letters, letter? e.2 = some e.1 := by decide
    exact listed (l, c)

/-- A letter stands for the character that is written by it. It is not the one that begins an escape
by number, and ends no line. -/
theorem meaning_of_letter? {c l : Char} (h : letter? c = some l) :
    meaning l = c ∧ l ≠ 'u' ∧ l ≠ '\r' ∧ l ≠ '\n' := by
  have listed : ∀ e ∈ letters, meaning e.1 = e.2 ∧ e.1 ≠ 'u' ∧ e.1 ≠ '\r' ∧ e.1 ≠ '\n' := by
    decide
  exact listed (l, c) (letter?_eq_some_iff.1 h)

/-- Of the blanks only the space is written without a letter, so only the space needs a mark. -/
theorem isSpace_eq_false_of_letter? {c : Char} (h : letter? c = none) (hc : c ≠ ' ') :
    isSpace c = false := by
  unfold letter? at h
  split at h <;> simp_all [isSpace]

/-- No character that ends a line is written without a letter, so an entry never spreads over two
lines. -/
theorem ne_lineEnd_of_letter? {c : Char} (h : letter? c = none) : c ≠ '\r' ∧ c ≠ '\n' := by
  unfold letter? at h
  split at h <;> simp_all

/-- A mark stands for itself. -/
theorem meaning_of_mem_keyMarks {c : Char} (h : c ∈ keyMarks) :
    meaning c = c ∧ c ≠ 'u' := by
  simp only [keyMarks, List.mem_cons, List.not_mem_nil, or_false] at h
  rcases h with rfl | rfl | rfl | rfl | rfl | rfl <;> decide

/-- **What is written for a character spells it**, if the marks cover the stops. -/
theorem spells_writeChar_append {marks : List Char} {stops : Char → Bool} (hb : '\\' ∈ marks)
    (hm : marks ⊆ keyMarks) (covered : ∀ c, stops c = true → letter? c = none → c ∈ marks)
    (c : Char) {s : List Char} {t : CodeText} (h : Spells stops s t) :
    Spells stops (writeChar marks c ++ s) (.char c :: t) := by
  -- Written by a letter, behind a backslash, or plain because no reader would stop at it.
  rcases writeChar_eq_or marks c with ⟨l, hl, hw⟩ | ⟨-, hc, hw⟩ | ⟨hl, hc, hw⟩ <;> rw [hw]
  · obtain ⟨stands, hu, -⟩ := meaning_of_letter? hl
    rw [← stands]
    exact .escape hu h
  · obtain ⟨stands, hu⟩ := meaning_of_mem_keyMarks (hm hc)
    have spelled := Spells.escape hu h
    rwa [stands] at spelled
  · have no_backslash : c ≠ '\\' := by
      rintro rfl
      exact hc hb
    have no_stop : stops c = false := Bool.eq_false_iff.2 fun stop ↦ hc (covered c stop hl)
    exact .plain no_backslash no_stop h

theorem isLine_writeChar (marks : List Char) (c : Char) : IsLine (writeChar marks c) := by
  have backslash : '\\' ≠ '\r' ∧ '\\' ≠ '\n' := by decide
  rcases writeChar_eq_or marks c with ⟨l, hl, hw⟩ | ⟨hc, -, hw⟩ | ⟨hc, -, hw⟩ <;> rw [hw]
  · have letter := (meaning_of_letter? hl).2.2
    exact isLine_cons.2 ⟨backslash, isLine_cons.2 ⟨letter, isLine_nil⟩⟩
  · exact isLine_cons.2 ⟨backslash, isLine_cons.2 ⟨ne_lineEnd_of_letter? hc, isLine_nil⟩⟩
  · exact isLine_cons.2 ⟨ne_lineEnd_of_letter? hc, isLine_nil⟩

/-- Where spaces are escaped, what is written for a character begins with no blank, and with a
backslash unless it begins with a character that is no mark. -/
theorem exists_writeChar_eq_cons (marks : List Char) (hs : ' ' ∈ marks) (c : Char) :
    ∃ d t, writeChar marks c = d :: t ∧ isSpace d = false ∧ (d = '\\' ∨ d ∉ marks) := by
  have backslash : isSpace '\\' = false := by decide
  rcases writeChar_eq_or marks c with ⟨l, -, hw⟩ | ⟨-, -, hw⟩ | ⟨hl, hc, hw⟩
  · exact ⟨_, _, hw, backslash, .inl rfl⟩
  · exact ⟨_, _, hw, backslash, .inl rfl⟩
  · have not_space := isSpace_eq_false_of_letter? hl fun space ↦ hc (by rwa [space])
    exact ⟨_, _, hw, not_space, .inr hc⟩

/-! ### Keys and values -/

/-- A text in which every character is written with the same marks is spelled by what is written, by
induction on the text. -/
theorem spells_flatMap_writeChar {marks : List Char} {stops : Char → Bool} (hb : '\\' ∈ marks)
    (hm : marks ⊆ keyMarks) (covered : ∀ c, stops c = true → letter? c = none → c ∈ marks)
    (s : List Char) : Spells stops (s.flatMap (writeChar marks)) (CodeText.ofChars s) := by
  induction s with
  | nil => exact .nil
  | cons c s ih => exact spells_writeChar_append hb hm covered c ih

theorem spells_writeKey (key : List Char) :
    Spells endsKey (writeKey key) (CodeText.ofChars key) := by
  refine spells_flatMap_writeChar (by decide) (by decide) (fun c ends unlettered ↦ ?_) key
  simp only [endsKey, isSeparator, isSpace, Bool.or_eq_true, decide_eq_true_eq] at ends
  rcases ends with (rfl | rfl) | (rfl | rfl) | rfl
  · decide
  · decide
  · decide
  · exact absurd unlettered (by decide)
  · exact absurd unlettered (by decide)

theorem spells_writeValue (value : List Char) :
    Spells (fun _ ↦ false) (writeValue value) (CodeText.ofChars value) := by
  cases value with
  | nil => exact .nil
  | cons c r =>
    have rest : Spells (fun _ ↦ false) (r.flatMap (writeChar valueMarks)) (CodeText.ofChars r) :=
      spells_flatMap_writeChar (by decide) (by decide) (by simp) r
    exact spells_writeChar_append (by decide) (by decide) (by simp) c rest

theorem isLine_flatMap_writeChar (marks s : List Char) : IsLine (s.flatMap (writeChar marks)) := by
  intro c hc
  obtain ⟨d, -, hd⟩ := List.mem_flatMap.1 hc
  exact isLine_writeChar marks d c hd

theorem isLine_writeValue (value : List Char) : IsLine (writeValue value) := by
  cases value with
  | nil => exact isLine_nil
  | cons c r =>
    exact isLine_append.2 ⟨isLine_writeChar headMarks c, isLine_flatMap_writeChar valueMarks r⟩

/-- A value begins with no blank where it is written, since a space at its head is escaped. -/
theorem isSpace_head?_writeValue (value : List Char) :
    ∀ d ∈ (writeValue value).head?, isSpace d = false := by
  intro d hd
  cases value with
  | nil => simp [writeValue] at hd
  | cons c r =>
    obtain ⟨b, t, hw, not_space, -⟩ := exists_writeChar_eq_cons headMarks (by decide) c
    rw [writeValue, hw] at hd
    obtain rfl : b = d := by simpa using hd
    exact not_space

/-! ### Entries -/

namespace Layout

variable (y : Layout) (key value : List Char)

/-- **An entry is written by the grammar**: key, gap and value of the layout are those of a line
that the grammar accepts. -/
theorem writesEntry :
    WritesEntry (y.entry key value) (CodeText.ofChars key) (CodeText.ofChars value) := by
  have parts : Parts (y.before ++ y.separator :: y.after) (writeValue value) :=
    .separator y.isSpace_before y.isSeparator_separator y.isSpace_after
      (isSpace_head?_writeValue value)
  refine ⟨writeKey key, _, writeValue value, ?_, spells_writeKey key, parts,
    spells_writeValue value⟩
  rw [entry, List.append_assoc, List.cons_append]

/-- Leading blanks are no part of a written line, which stays the line of the same entry: they stand
before the separator, where the key is empty. -/
theorem exists_dropWhile_entry :
    ∃ z : Layout, (y.entry key value).dropWhile isSpace = z.entry key value ∧
      isIgnorable (z.entry key value) = false := by
  -- The blanks before an empty key are those before the line; any other key begins the line with a
  -- character that is escaped or neither a blank nor a comment marker.
  cases key with
  | nil =>
    have separator : isSpace y.separator = false :=
      isSpace_eq_false_of_isSeparator y.isSeparator_separator
    have no_marker : isCommentMarker y.separator = false := by
      rcases (by simpa [isSeparator] using y.isSeparator_separator) with h | h <;> rw [h] <;> decide
    refine ⟨{ y with before := [], isSpace_before := List.forall_mem_nil _ }, ?_, no_marker⟩
    rw [entry, writeKey, List.flatMap_nil, List.nil_append,
      List.dropWhile_append_of_pos y.isSpace_before,
      List.dropWhile_cons_of_neg (by simp [separator])]
    rfl
  | cons c key =>
    obtain ⟨d, t, hw, not_space, hd⟩ := exists_writeChar_eq_cons keyMarks (by decide) c
    have shape : ∃ t, y.entry (c :: key) value = d :: t := by simp [entry, writeKey, hw]
    obtain ⟨t, ht⟩ := shape
    refine ⟨y, ?_, ?_⟩
    · rw [ht, List.dropWhile_cons_of_neg (by simp [not_space])]
    · rw [ht, isIgnorable]
      rcases hd with rfl | hd
      · decide
      · simp only [keyMarks, List.mem_cons, not_or] at hd
        simp [isCommentMarker, hd]

/-- An entry holds no character that ends a line, neither in its texts nor in its layout. -/
theorem isLine_entry : IsLine (y.entry key value) := by
  have no_end {c : Char} (h : isSpace c = true ∨ isSeparator c = true) : c ≠ '\r' ∧ c ≠ '\n' := by
    constructor <;> rintro rfl <;> exact absurd h (by decide)
  have before : IsLine y.before := fun c hc ↦ no_end (.inl (y.isSpace_before c hc))
  have after : IsLine y.after := fun c hc ↦ no_end (.inl (y.isSpace_after c hc))
  exact isLine_append.2 ⟨isLine_flatMap_writeChar keyMarks key, isLine_append.2 ⟨before,
    isLine_cons.2 ⟨no_end (.inr y.isSeparator_separator),
      isLine_append.2 ⟨after, isLine_writeValue value⟩⟩⟩⟩

/-- **An entry is a line of its own**, up to its layout, from which the leading blanks are
dropped. -/
theorem exists_spreads_entry :
    ∃ z : Layout, Spreads [y.entry key value] (z.entry key value) ∧
      ¬IsIgnored (y.entry key value) := by
  obtain ⟨z, dropped, counts⟩ := y.exists_dropWhile_entry key value
  refine ⟨z, spreads_line dropped (z.writesEntry key value).isSpelled, fun ignored ↦ ?_⟩
  rw [isIgnored_iff, dropped, counts] at ignored
  exact absurd ignored (by decide)

end Layout

/-! ### Texts -/

/-- What is written begins with no line feed, which would join a carriage return before it. -/
theorem head?_write_ne (es : List (Layout × List Char × List Char)) :
    (write es).head? ≠ some '\n' := by
  cases es with
  | nil => simp [write]
  | cons e es =>
    obtain ⟨y, key, value⟩ := e
    obtain ⟨c, t, hc⟩ : ∃ c t, y.entry key value = c :: t := by
      rw [← List.ne_nil_iff_exists_cons]
      simp [Layout.entry]
    have line := y.isLine_entry key value
    rw [hc] at line
    rw [write_cons, hc, List.cons_append, List.head?_cons, ne_eq, Option.some.injEq]
    exact (isLine_cons.1 line).1.2

/-- **What is written is written by the grammar**, by induction on the entries: each adds one
natural line. -/
theorem isWritten_write (es : List (Layout × List Char × List Char)) :
    IsWritten (write es) (es.map fun e ↦ (CodeText.ofChars e.2.1, CodeText.ofChars e.2.2)) := by
  induction es with
  | nil => exact ⟨[[]], .last isLine_nil, .ignored (.inl (List.forall_mem_nil _)) .nil⟩
  | cons e es ih =>
    obtain ⟨y, key, value⟩ := e
    obtain ⟨z, spread, counts⟩ := y.exists_spreads_entry key value
    obtain ⟨ls, lined, holds⟩ := ih
    have first_line := Lined.cons (y.isLine_entry key value) y.lineEnd
      (fun _ ↦ head?_write_ne es) lined
    rw [← write_cons] at first_line
    exact ⟨_, first_line, .entry counts spread (z.writesEntry key value) holds⟩

/-- **The entries are read in order** from what is written, repeated keys included. -/
theorem readEntries_write (es : List (Layout × List Char × List Char)) :
    readEntries (write es) =
      .ok (es.map fun e ↦ (CodeText.ofChars e.2.1, CodeText.ofChars e.2.2)) :=
  (isWritten_write es).readEntries_eq

/-- **What is written is read back**: keys and values of any texts, in any layout, are the
dictionary into which they are put in order. -/
theorem parse_write (es : List (Layout × List Char × List Char)) :
    parse (write es) =
      .ok (.ofList (es.map fun e ↦ (CodeText.ofChars e.2.1, CodeText.ofChars e.2.2))) := by
  rw [parse, readEntries_write]
  rfl

/-- A blank in a key and one at the head of a value are escaped, those around the separator are
not. -/
example : parse "a\\ b : \\ #\r\n".toList =
    .ok (.ofList [(CodeText.ofString "a b", CodeText.ofString " #")]) := by
  rfl

end AwsCredentials.Properties
