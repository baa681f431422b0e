import AwsCredentials.Proofs.Properties.Malformed
import AwsCredentials.Proofs.Text.LineEnd
import Mathlib.Data.List.TakeWhile

/-!
# Lines end between escapes

Three passes look for backslashes in a properties text, and each goes about it in its own way.
Natural lines are joined by the parity of the backslashes at their ends. The search for the end of a
key steps over a backslash and the character after it, and does not ask whether there is one. The
decoder asks, and lets a backslash that nothing follows stand for itself.

**The main statement**, `isWhole_of_mem_logicalLines`, is that the two later passes never see a
backslash at the end of a logical line, or of a key or a value of one, that the character after it
is missing from: the search stops within the line, the value begins where an escape is over, and the
decoder has no use for its case.

What the passes hand on to each other is that a text is spelled by pieces, with no backslash left
over (`IsSpelled`).

* A natural line is spelled once the backslash is dropped that makes it go on, and what is joined of
  such lines is spelled as well (`forall_mem_joinLines`).
* A line that is spelled is cut between two pieces, and both parts are spelled
  (`isSpelled_splitKey`, `exists_dropSeparator`).
* Every step of the decoder leaves a spelled text behind (`DecodeStep.isSpelled`), also one that
  takes four digits along, because no digit is a backslash. A single backslash is not spelled.
-/

namespace AwsCredentials.Properties

open Text (CodePoint CodeText IsLine)

variable {s t line part front : List Char} {p : Piece} {c : Char} {x : CodePoint}
  {out : CodeText}

/-! ### Texts without a backslash left over -/

theorem isSpelled_chars_append_iff : IsSpelled (p.chars ++ s) ↔ IsSpelled s := by
  refine ⟨?_, isSpelled_append p.isSpelled_chars⟩
  rintro ⟨ps, spells⟩
  cases ps with
  | nil => cases p <;> simp at spells
  | cons q qs =>
    rw [spell_cons, chars_append_inj] at spells
    exact ⟨qs, spells.2⟩

theorem isSpelled_cons_iff (h : c ≠ '\\') : IsSpelled (c :: s) ↔ IsSpelled s :=
  isSpelled_chars_append_iff (p := .plain c h)

theorem isSpelled_escape_iff : IsSpelled ('\\' :: c :: s) ↔ IsSpelled s :=
  isSpelled_chars_append_iff (p := .escape c)

theorem not_isSpelled_backslash : ¬IsSpelled ['\\'] := by
  rintro ⟨ps, spells⟩
  cases ps with
  | nil => simp at spells
  | cons q qs => cases q <;> simp_all

/-- Characters that are no backslashes can be taken off the front of a text, since each of them is a
piece. -/
theorem isSpelled_append_iff (h : '\\' ∉ front) : IsSpelled (front ++ s) ↔ IsSpelled s := by
  induction front with
  | nil => rfl
  | cons c front ih =>
    rw [List.mem_cons, not_or] at h
    rw [List.cons_append, isSpelled_cons_iff (Ne.symm h.1), ih h.2]

/-! ### Logical lines -/

/-- **Logical lines are lines, and no backslash is left over in them**, if that is so of what the
first of them has begun with. -/
theorem forall_mem_joinLines {begun : Option (List Char)} {naturals : List (List Char)}
    (hbegun : ∀ l ∈ begun, IsLine l ∧ IsSpelled l) (lines : ∀ l ∈ naturals, IsLine l) :
    ∀ l ∈ joinLines begun naturals, IsLine l ∧ IsSpelled l := by
  -- What was begun varies, since a line that goes on is joined to the lines after it.
  induction naturals generalizing begun with
  | nil => simpa [joinLines] using hbegun
  | cons natural naturals ih =>
    obtain ⟨line, lines⟩ := List.forall_mem_cons.1 lines
    have begun_whole : IsLine (begun.getD []) ∧ IsSpelled (begun.getD []) := by
      cases begun with
      | none => exact ⟨Text.isLine_nil, [], rfl⟩
      | some l => exact hbegun l rfl
    have stripped : IsLine (natural.dropWhile isSpace) :=
      fun c hc ↦ line c (List.dropWhile_subset _ hc)
    have together {ps : List Piece} (kept : IsLine (spell ps)) :
        IsLine (begun.getD [] ++ spell ps) ∧ IsSpelled (begun.getD [] ++ spell ps) :=
      ⟨Text.isLine_append.2 ⟨begun_whole.1, kept⟩, isSpelled_append begun_whole.2 ⟨ps, rfl⟩⟩
    obtain ⟨rfl, -, joined⟩ | ⟨-, ps, ⟨hs, joined⟩ | ⟨hs, joined⟩⟩ :=
      joinLines_cons_cases begun natural naturals
    · rw [joined]
      exact ih hbegun lines
    · rw [joined]
      exact List.forall_mem_cons.2 ⟨together (hs ▸ stripped), ih (by simp) lines⟩
    · rw [joined]
      have kept : IsLine (spell ps) := (Text.isLine_append.1 (hs ▸ stripped)).1
      exact ih (fun l hl ↦ Option.some.inj hl ▸ together kept) lines

/-! ### Keys and values -/

/-- The index at which the search for the end of a key stops. A backslash and the character after it
are passed in one step, whether there is such a character or not. -/
def keyEnd : List Char → Nat
  | [] => 0
  | c :: r =>
    if c = '\\' then
      match r with
      | [] => 2
      | _ :: r => keyEnd r + 2
    else if isSeparator c || isSpace c then 0
    else keyEnd r + 1

/-- A line is cut where the search stops: the two parts are those before and after the index. -/
theorem splitKey_eq_splitAt (line : List Char) : splitKey line = line.splitAt (keyEnd line) := by
  fun_induction keyEnd line with
  | case1 => rfl
  | case2 => rfl
  | case3 c r ih => simp [splitKey_escape, ih]
  | case4 c r plain ends => simp [splitKey_cons plain, ends]
  | case5 c r plain ends ih => simp [splitKey_cons plain, ends, ih]

/-- The search stops within a line in which no backslash is left over. It goes over whole pieces,
and the line is made of pieces. -/
theorem keyEnd_le_length (h : IsSpelled line) : keyEnd line ≤ line.length := by
  fun_induction keyEnd line with
  | case1 => exact Nat.le_refl 0
  | case2 => exact absurd h not_isSpelled_backslash
  | case3 c r ih => exact Nat.add_le_add_right (ih (isSpelled_escape_iff.1 h)) 2
  | case4 c r plain ends => exact Nat.zero_le _
  | case5 c r plain ends ih => exact Nat.add_le_add_right (ih ((isSpelled_cons_iff plain).1 h)) 1

/-- A backslash that nothing follows takes the search beyond the end of the line, which is what the
theorem excludes. -/
example : keyEnd "a\\".toList = 3 := by rfl

/-- The index at which the search stops lies between two pieces. -/
theorem isSpelled_splitKey (h : IsSpelled line) :
    IsSpelled (splitKey line).1 ∧ IsSpelled (splitKey line).2 := by
  fun_induction keyEnd line with
  | case1 => exact ⟨h, h⟩
  | case2 => exact absurd h not_isSpelled_backslash
  | case3 c r ih =>
    rw [splitKey_escape, isSpelled_escape_iff]
    exact ih (isSpelled_escape_iff.1 h)
  | case4 c r plain ends =>
    rw [splitKey_cons plain, if_pos ends]
    exact ⟨⟨[], rfl⟩, h⟩
  | case5 c r plain ends ih =>
    rw [splitKey_cons plain, if_neg ends, isSpelled_cons_iff plain]
    exact ih ((isSpelled_cons_iff plain).1 h)

/-- What is dropped between the key and the value holds no backslash. -/
theorem exists_dropSeparator (s : List Char) :
    ∃ front, '\\' ∉ front ∧ s = front ++ dropSeparator s := by
  -- Blanks, at most one separator and blanks again: none of these characters is a backslash.
  have no_backslash (l : List Char) : '\\' ∉ l.takeWhile isSpace :=
    fun hb ↦ absurd (List.mem_takeWhile_imp hb) (by decide)
  have cut := List.takeWhile_append_dropWhile (p := isSpace) (l := s)
  rw [dropSeparator]
  split
  · next nothing =>
    rw [nothing] at cut
    exact ⟨s.takeWhile isSpace, no_backslash s, cut.symm⟩
  · next c r after =>
    rw [after] at cut
    split
    · next separator =>
      refine ⟨s.takeWhile isSpace ++ c :: r.takeWhile isSpace, ?_, ?_⟩
      · have not_c : '\\' ≠ c := by
          rintro rfl
          exact absurd separator (by decide)
        simp [no_backslash, not_c]
      · rw [List.append_assoc, List.cons_append, List.takeWhile_append_dropWhile, cut]
    · exact ⟨s.takeWhile isSpace, no_backslash s, cut.symm⟩

/-! ### Decoding -/

/-- One step of decoding: what is decoded at the front of a text, and what is left. -/
inductive DecodeStep : List Char → CodePoint → List Char → Prop
  /-- A character on its own. -/
  | plain {c : Char} {r : List Char} (h : c ≠ '\\') : DecodeStep (c :: r) (.char c) r
  /-- A backslash and a character. -/
  | escape {c : Char} {r : List Char} (h : c ≠ 'u') :
      DecodeStep ('\\' :: c :: r) (.char (escapedChar c)) r
  /-- An escape by number with its digits. -/
  | number {a b c d : Char} {n : Fin 65536} {r : List Char} (h : unit? a b c d = some n) :
      DecodeStep ('\\' :: 'u' :: a :: b :: c :: d :: r) (.ofUnit n) r

/-- Decoding has come from a text to what is left of it, and has this to show for it. -/
inductive DecodeRun : List Char → CodeText → List Char → Prop
  /-- Nothing was decoded yet. -/
  | start (s : List Char) : DecodeRun s [] s
  /-- A step, and the steps after it. -/
  | step {s r t : List Char} {x : CodePoint} {out : CodeText} (first : DecodeStep s x r)
      (rest : DecodeRun r out t) : DecodeRun s (x :: out) t

/-- What a step decodes is the first of what the text stands for, and the rest stands for the
rest. -/
theorem DecodeStep.unescape_eq (h : DecodeStep s x t) : unescape s = (x :: ·) <$> unescape t := by
  cases h with
  | plain h => exact unescape_cons h t
  | escape h => exact unescape_escape h t
  | number h => rw [unescape, h]

theorem DecodeRun.unescape_eq (h : DecodeRun s out t) :
    unescape s = (out ++ ·) <$> unescape t := by
  induction h with
  | start => simp
  | step first _ ih => rw [first.unescape_eq, ih, ← comp_map]; rfl

/-- A step goes over whole pieces, so that no backslash is left over after it if none was before. -/
theorem DecodeStep.isSpelled (h : DecodeStep s x t) (hs : IsSpelled s) : IsSpelled t := by
  cases h with
  | plain h => exact (isSpelled_cons_iff h).1 hs
  | escape h => exact isSpelled_escape_iff.1 hs
  | @number a b c d n r h =>
    -- The digits are pieces of their own.
    have digits : ∀ x ∈ [a, b, c, d], x ∈ hexadecimalDigits := isSome_unit?_iff.1 (by simp [h])
    have no_backslash : '\\' ∉ [a, b, c, d] := fun hb ↦ absurd (digits _ hb) (by decide)
    exact (isSpelled_append_iff no_backslash).1 (isSpelled_escape_iff.1 hs)

/-- After any number of steps no backslash is left over if none was before, by induction on the
run. -/
theorem DecodeRun.isSpelled (h : DecodeRun s out t) (hs : IsSpelled s) : IsSpelled t := by
  induction h with
  | start => exact hs
  | step first _ ih => exact ih (first.isSpelled hs)

/-- Where decoding stops: nothing is left, or a backslash that nothing follows, or an escape that
lacks a digit. -/
def StopsAt (t : List Char) : Prop :=
  t = [] ∨ t = ['\\'] ∨ ∃ ds, t = '\\' :: 'u' :: ds ∧ ¬BeginsWithDigits ds

/-- Decoding goes on in any other place: a character, an escape, or an escape by number with its
digits comes next. -/
theorem stopsAt_or_exists_decodeStep (s : List Char) :
    StopsAt s ∨ ∃ x t, DecodeStep s x t := by
  -- Two characters decide, except after a `u`, where the decoder looks at four more.
  match s with
  | [] => exact .inl (.inl rfl)
  | [c] =>
    by_cases hc : c = '\\'
    · exact .inl (.inr (.inl (by rw [hc])))
    · exact .inr ⟨_, _, .plain hc⟩
  | c :: d :: r =>
    by_cases hc : c = '\\'
    · subst hc
      by_cases hd : d = 'u'
      · subst hd
        by_cases digits : BeginsWithDigits r
        · match r, digits with
          | a :: b :: c :: d :: r, digits =>
            obtain ⟨n, unit⟩ := Option.isSome_iff_exists.1 (isSome_unit?_iff.2 digits.2)
            exact .inr ⟨_, _, .number unit⟩
        · exact .inl (.inr (.inr ⟨r, rfl, digits⟩))
      · exact .inr ⟨_, _, .escape hd⟩
    · exact .inr ⟨_, _, .plain hc⟩

theorem DecodeStep.length_lt (h : DecodeStep s x t) : t.length < s.length := by
  cases h <;> simp only [List.length_cons] <;> omega

/-- Decoding comes to a stop, by induction on the length of the text, since every step takes
something off its front. -/
theorem exists_decodeRun (s : List Char) : ∃ out t, DecodeRun s out t ∧ StopsAt t := by
  obtain stops | ⟨x, r, first⟩ := stopsAt_or_exists_decodeStep s
  · exact ⟨[], s, .start s, stops⟩
  · have shorter := first.length_lt
    obtain ⟨out, t, rest, stops⟩ := exists_decodeRun r
    exact ⟨x :: out, t, .step first rest, stops⟩
termination_by s.length

/-- A key or a value is decoded to its end, or to an escape that lacks a digit. -/
structure DecodesWhole (part : List Char) : Prop where
  /-- Decoding never comes to a backslash that nothing follows. -/
  not_dangling : ∀ out, ¬DecodeRun part out ['\\']
  /-- Decoding comes to the end with what was decoded, or it fails at an escape that lacks a
  digit. -/
  outcome : (∃ out, DecodeRun part out [] ∧ unescape part = .ok out) ∨
    ∃ out ds, DecodeRun part out ('\\' :: 'u' :: ds) ∧ ¬BeginsWithDigits ds ∧
      unescape part = .error ⟨'\\' :: 'u' :: ds.take 4⟩

/-- A part in which no backslash is left over does not come to one while it is decoded. -/
theorem decodesWhole (h : IsSpelled part) : DecodesWhole part where
  not_dangling _ run := not_isSpelled_backslash (run.isSpelled h)
  outcome := by
    obtain ⟨out, t, run, rfl | rfl | ⟨ds, rfl, lacks⟩⟩ := exists_decodeRun part
    · exact .inl ⟨out, run, by simp [run.unescape_eq, unescape]⟩
    · exact absurd (run.isSpelled h) not_isSpelled_backslash
    · exact .inr ⟨out, ds, run, lacks, by rw [run.unescape_eq, unescape_of_lacks lacks]; rfl⟩

/-! ### Whole lines -/

/-- A logical line that does not end inside an escape, and neither do its parts. -/
structure IsWhole (line : List Char) : Prop where
  /-- There is no line end in it. -/
  isLine : IsLine line
  /-- From left to right, each backslash has the character after it. -/
  isSpelled : IsSpelled line
  /-- The search for the end of the key stops within the line. -/
  keyEnd_le : keyEnd line ≤ line.length
  /-- The line is cut into key and rest at the index where the search stops. -/
  cut : splitKey line = line.splitAt (keyEnd line)
  /-- The value begins between two pieces of the line. -/
  value_begins : ∃ front, IsSpelled front ∧ line = front ++ (splitEntry line).2
  /-- The key is decoded without a backslash left over. -/
  key_decodes : DecodesWhole (splitEntry line).1
  /-- The value is decoded without a backslash left over. -/
  value_decodes : DecodesWhole (splitEntry line).2

/-- A line is whole as soon as no backslash is left over in it. -/
theorem isWhole (hl : IsLine line) (hs : IsSpelled line) : IsWhole line := by
  obtain ⟨key, rest⟩ := isSpelled_splitKey hs
  obtain ⟨front, no_backslash, dropped⟩ := exists_dropSeparator (splitKey line).2
  rw [dropped, isSpelled_append_iff no_backslash] at rest
  refine ⟨hl, hs, keyEnd_le_length hs, splitKey_eq_splitAt line, ?_, decodesWhole key,
    decodesWhole rest⟩
  refine ⟨(splitKey line).1 ++ front, isSpelled_append key (isSpelled_of_not_mem no_backslash), ?_⟩
  rw [splitEntry, List.append_assoc, ← dropped, splitKey_append]

/-- **No logical line ends inside an escape**, also one that was to go on at the end of the text. -/
theorem isWhole_of_mem_logicalLines (h : line ∈ logicalLines s) : IsWhole line := by
  have lines (l : List Char) (hl : l ∈ Text.naturalLines s) : IsLine l :=
    Text.isLine_of_mem_naturalLines hl
  obtain ⟨hl, hs⟩ := forall_mem_joinLines (by simp) lines line h
  exact isWhole hl hs

/-- Two natural lines of three backslashes, the second one at the end of the text. Each loses one,
and what is joined is whole. -/
theorem isWhole_of_mem_logicalLines_backslashes :
    "\\\\\\\\".toList ∈ logicalLines "\\\\\\\r \\\\\\".toList ∧
      IsWhole "\\\\\\\\".toList :=
  have joined : "\\\\\\\\".toList ∈ logicalLines "\\\\\\\r \\\\\\".toList := by decide
  ⟨joined, isWhole_of_mem_logicalLines joined⟩

end AwsCredentials.Properties
