import AwsCredentials.Proofs.Basic
import AwsCredentials.Proofs.Properties.Alphabet
import AwsCredentials.Proofs.Properties.Piece
import Mathlib.Order.Nat

/-!
# Malformed texts

The parser refuses a text for one reason only: somewhere in a key or a value, a backslash that is
not escaped itself is followed by a `u`, and this by fewer than four hexadecimal digits. Digits
beyond the end of the key or of the value are missing, while digits that were spread over two
natural lines count.

**The main statement**, `parse_refuses_malformed`, is that this is exactly when a text is refused,
and which of several such places the refusal shows: of the first line that has one, the first in the
value, or the first in the key if the value has none.

Which backslashes are escaped is told by the pieces of a key or a value. The decoder does not go by
pieces, since it takes the digits of an escape along with it, but digits are pieces of their own and
no fault. So the first fault is found piece by piece (`unescape_eq_error_iff`).
-/

namespace AwsCredentials.Properties

open Text (CodePoint CodeText)

/-! ### Digits -/

/-- A text begins with four hexadecimal digits, which is what an escape by number asks of the text
after its `u`. -/
def BeginsWithDigits (s : List Char) : Prop :=
  4 ≤ s.length ∧ ∀ c ∈ s.take 4, c ∈ hexadecimalDigits

instance (s : List Char) : Decidable (BeginsWithDigits s) :=
  inferInstanceAs (Decidable (_ ∧ _))

/-- No digit is a backslash, so no escape begins among the digits of another one. -/
theorem backslash_not_mem_take {s : List Char} (h : BeginsWithDigits s) : '\\' ∉ s.take 4 :=
  fun backslash ↦ absurd (h.2 _ backslash) (by decide)

/-- A text without backslashes stands for itself, whatever comes after it. -/
theorem unescape_append_of_not_mem {ds : List Char} (h : '\\' ∉ ds) (s : List Char) :
    unescape (ds ++ s) = (CodeText.ofChars ds ++ ·) <$> unescape s := by
  induction ds with
  | nil => simp [CodeText.ofChars]
  | cons c ds ih =>
    rw [List.mem_cons, not_or] at h
    rw [List.cons_append, unescape_cons (Ne.symm h.1), ih h.2, ← comp_map]
    rfl

/-! ### Faults -/

/-- After the pieces comes an active backslash with a `u`, and then the rest, which does not begin
with four digits. -/
structure LacksDigit (part : List Char) (before : List Piece) (rest : List Char) : Prop where
  /-- The part is made of these. -/
  cut : part = spell before ++ '\\' :: 'u' :: rest
  /-- A digit is missing. -/
  lacks : ¬BeginsWithDigits rest

/-- A key or a value has an escape by number that lacks a digit, after any number of whole
pieces. -/
def IsMalformed (part : List Char) : Prop :=
  ∃ before rest, LacksDigit part before rest

/-- The first escape of a key or a value that lacks a digit is shown by its backslash, its `u` and
up to four characters after these. -/
def ShowsFirst (part shown : List Char) : Prop :=
  ∃ before rest, LacksDigit part before rest ∧
    (∀ before' rest', LacksDigit part before' rest' → before.length ≤ before'.length) ∧
    shown = '\\' :: 'u' :: rest.take 4

section

variable {p : Piece} {s part shown rest : List Char} {before : List Piece} {e : MalformedEscape}

/-- A malformed key or value has a first fault: the first fault is the only one, since what comes
after it is not looked at. -/
theorem isMalformed_iff : IsMalformed part ↔ ∃ shown, ShowsFirst part shown := by
  classical
  constructor
  · rintro ⟨before, rest, lacks⟩
    have counted : ∃ n, ∃ before rest, LacksDigit part before rest ∧ before.length = n :=
      ⟨_, before, rest, lacks, rfl⟩
    obtain ⟨first, rest, lacks, length⟩ := Nat.find_spec counted
    refine ⟨_, first, rest, lacks, fun before' rest' lacks' ↦ ?_, rfl⟩
    rw [length]
    exact Nat.find_min' counted ⟨before', rest', lacks', rfl⟩
  · rintro ⟨_, before, rest, lacks, -⟩
    exact ⟨before, rest, lacks⟩

/-- The first piece of a text is the only one that it can begin with: whether it is an escape is
told by its first character. -/
theorem chars_append_inj {p q : Piece} {s t : List Char} :
    p.chars ++ s = q.chars ++ t ↔ p = q ∧ s = t := by
  cases p with
  | plain c hc =>
    cases q with
    | plain d hd => simp
    | escape d => simp [hc]
  | escape c =>
    cases q with
    | plain d hd => simp [Ne.symm hd]
    | escape d => simp

/-- A fault is at the first piece, or among the others. It is the step of all inductions on pieces
that follow. -/
theorem lacksDigit_chars_append_iff :
    LacksDigit (p.chars ++ s) before rest ↔
      before = [] ∧ p = .escape 'u' ∧ s = rest ∧ ¬BeginsWithDigits rest ∨
        ∃ ps, before = p :: ps ∧ LacksDigit s ps rest := by
  have marked : '\\' :: 'u' :: rest = (Piece.escape 'u').chars ++ rest := rfl
  constructor
  · rintro ⟨cut, lacks⟩
    cases before with
    | nil =>
      rw [spell_nil, List.nil_append, marked, chars_append_inj] at cut
      exact .inl ⟨rfl, cut.1, cut.2, lacks⟩
    | cons q ps =>
      rw [spell_cons, List.append_assoc, chars_append_inj] at cut
      exact .inr ⟨ps, by rw [cut.1], cut.2, lacks⟩
  · rintro (⟨rfl, rfl, rfl, lacks⟩ | ⟨ps, rfl, cut, lacks⟩)
    · exact ⟨rfl, lacks⟩
    · exact ⟨by rw [cut, spell_cons, List.append_assoc], lacks⟩

/-- A piece with this text after it is no fault: if it is an escape by number, it has its digits. -/
def IsSound (p : Piece) (s : List Char) : Prop :=
  p = .escape 'u' → BeginsWithDigits s

/-- What comes first is shown, if it is a fault. -/
theorem showsFirst_of_lacks (h : ¬BeginsWithDigits s) :
    ShowsFirst ('\\' :: 'u' :: s) shown ↔ shown = '\\' :: 'u' :: s.take 4 := by
  have at_once : LacksDigit ('\\' :: 'u' :: s) [] s := ⟨rfl, h⟩
  constructor
  · rintro ⟨before, rest, lacks, least, rfl⟩
    obtain rfl : before = [] := List.length_eq_zero_iff.1 (Nat.le_zero.1 (least [] s at_once))
    obtain rfl : s = rest := by simpa using lacks.cut
    rfl
  · rintro rfl
    exact ⟨[], s, at_once, fun _ _ _ ↦ Nat.zero_le _, rfl⟩

/-- If the first piece is no fault, the first fault of a text is the first among the other
pieces. -/
theorem showsFirst_chars_append (h : IsSound p s) :
    ShowsFirst (p.chars ++ s) shown ↔ ShowsFirst s shown := by
  have later {before : List Piece} {rest : List Char} :
      LacksDigit (p.chars ++ s) before rest ↔ ∃ ps, before = p :: ps ∧ LacksDigit s ps rest := by
    rw [lacksDigit_chars_append_iff, or_iff_right]
    rintro ⟨-, number, rfl, lacks⟩
    exact lacks (h number)
  constructor
  · rintro ⟨before, rest, lacks, least, shows⟩
    obtain ⟨ps, rfl, among_others⟩ := later.1 lacks
    refine ⟨ps, rest, among_others, fun ps' rest' lacks' ↦ ?_, shows⟩
    exact Nat.le_of_succ_le_succ (least (p :: ps') rest' (later.2 ⟨ps', rfl, lacks'⟩))
  · rintro ⟨ps, rest, lacks, least, shows⟩
    refine ⟨p :: ps, rest, later.2 ⟨ps, rfl, lacks⟩, fun before' rest' lacks' ↦ ?_, shows⟩
    obtain ⟨ps', rfl, among_others⟩ := later.1 lacks'
    exact Nat.succ_le_succ (least ps' rest' among_others)

/-- A text without pieces has no fault, and neither has a single character, be it a backslash that
nothing follows. -/
theorem not_isMalformed_of_length_le (h : part.length ≤ 1) : ¬IsMalformed part := by
  rintro ⟨before, rest, rfl, -⟩
  simp only [List.length_append, List.length_cons] at h
  omega

/-! ### Decoding -/

/-- An escape that lacks a digit is not decoded, and what is shown of it is at most the four
characters after the `u`. -/
theorem unescape_of_lacks (h : ¬BeginsWithDigits s) :
    unescape ('\\' :: 'u' :: s) = .error ⟨'\\' :: 'u' :: s.take 4⟩ := by
  match s with
  | [] | [_] | [_, _] | [_, _, _] => rfl
  | a :: b :: c :: d :: r =>
    have no_unit : unit? a b c d = none := by
      rw [← Option.not_isSome_iff_eq_none, isSome_unit?_iff]
      exact fun digits ↦ h ⟨by simp, digits⟩
    rw [unescape, no_unit]
    rfl

/-- Decoding goes on after a sound piece, and fails if what comes after it does, with the same
error. -/
theorem unescape_chars_append_eq_error_iff (h : IsSound p s) :
    unescape (p.chars ++ s) = .error e ↔ unescape s = .error e := by
  have map_iff {α β : Type} {f : α → β} {x : Except MalformedEscape α} :
      f <$> x = .error e ↔ x = .error e := by
    cases x <;> simp
  cases p with
  | plain c hc => rw [Piece.chars_plain, List.singleton_append, unescape_cons hc, map_iff]
  | escape c =>
    by_cases number : c = 'u'
    · subst number
      have digits : BeginsWithDigits s := h rfl
      -- The digits stand for themselves where they are looked at one by one.
      have apart := unescape_append_of_not_mem (backslash_not_mem_take digits) (s.drop 4)
      rw [List.take_append_drop] at apart
      rw [apart, map_iff]
      match s, digits with
      | a :: b :: c :: d :: r, digits =>
        obtain ⟨n, unit⟩ := Option.isSome_iff_exists.1 (isSome_unit?_iff.2 digits.2)
        show unescape ('\\' :: 'u' :: a :: b :: c :: d :: r) = _ ↔ _
        rw [unescape, unit]
        exact map_iff
    · rw [Piece.chars_escape, List.cons_append, List.singleton_append, unescape_escape number,
        map_iff]

/-- **A key or a value is decoded unless it is malformed, and the first fault is shown.** The
induction is on the pieces that spell the text, with a backslash that is left over kept at its
end. -/
theorem unescape_eq_error_iff : unescape part = .error e ↔ ShowsFirst part e.shown := by
  obtain ⟨ps, hs⟩ := exists_spell part
  obtain ⟨stray, short, rfl⟩ : ∃ stray : List Char, (stray = [] ∨ stray = ['\\']) ∧
      part = spell ps ++ stray := by
    rcases hs with rfl | rfl
    · exact ⟨[], .inl rfl, (List.append_nil _).symm⟩
    · exact ⟨['\\'], .inr rfl, rfl⟩
  clear hs
  -- Piece by piece: a sound one is passed over by the decoder and by the law alike, and the first
  -- that is not is the one that both report.
  induction ps with
  | nil =>
    have sound : ¬ShowsFirst stray e.shown := fun shows ↦
      not_isMalformed_of_length_le (by rcases short with rfl | rfl <;> simp)
        (isMalformed_iff.2 ⟨_, shows⟩)
    rcases short with rfl | rfl <;> exact iff_of_false (by simp [unescape]) sound
  | cons p ps ih =>
    rw [spell_cons, List.append_assoc]
    by_cases sound : IsSound p (spell ps ++ stray)
    · rw [unescape_chars_append_eq_error_iff sound, showsFirst_chars_append sound, ih]
    · obtain ⟨rfl, lacks⟩ := Classical.not_imp.1 sound
      have marked : (Piece.escape 'u').chars ++ (spell ps ++ stray) =
          '\\' :: 'u' :: (spell ps ++ stray) := rfl
      rw [marked, unescape_of_lacks lacks, showsFirst_of_lacks lacks]
      cases e
      simp [eq_comm]

/-- A fault is what it shows: to speak of all faults is to speak of all that can be shown. -/
theorem exists_shown_iff {P : List Char → Prop} :
    (∃ e : MalformedEscape, P e.shown) ↔ ∃ shown, P shown := by
  constructor
  · rintro ⟨e, h⟩
    exact ⟨e.shown, h⟩
  · rintro ⟨shown, h⟩
    exact ⟨⟨shown⟩, h⟩

theorem exists_unescape_eq_error_iff : (∃ e, unescape part = .error e) ↔ IsMalformed part := by
  rw [isMalformed_iff, ← exists_shown_iff]
  exact exists_congr fun _ ↦ unescape_eq_error_iff

end

/-! ### Lines -/

/-- The key or the value of a line is malformed, each taken as it is written. -/
def IsMalformedLine (line : List Char) : Prop :=
  IsMalformed (splitEntry line).1 ∨ IsMalformed (splitEntry line).2

/-- What is shown of a line is the first fault of its value, or of its key if the value has none. -/
def LineShows (line shown : List Char) : Prop :=
  ShowsFirst (splitEntry line).2 shown ∨
    ¬IsMalformed (splitEntry line).2 ∧ ShowsFirst (splitEntry line).1 shown

variable {line : List Char} {e : MalformedEscape}

/-- **The entry of a line is refused for what is shown of the line**: for its value, or for its key
if the value is sound. -/
theorem readEntry_eq_error_iff : readEntry line = .error e ↔ LineShows line e.shown := by
  rw [readEntry, bind_eq_error_iff, LineShows, ← unescape_eq_error_iff, ← unescape_eq_error_iff,
    ← exists_unescape_eq_error_iff, ← exists_eq_ok_iff, ← exists_and_right]
  refine or_congr_right (exists_congr fun value ↦ and_congr_right fun _ ↦ ?_)
  rw [bind_eq_error_iff]
  simp [Pure.pure, Except.pure]

/-- A line of which something is shown is malformed, and of a malformed line something is shown. -/
theorem isMalformedLine_iff : IsMalformedLine line ↔ ∃ shown, LineShows line shown := by
  rw [IsMalformedLine]
  simp only [LineShows, exists_or, ← isMalformed_iff, exists_and_left]
  tauto

theorem exists_readEntry_eq_error_iff :
    (∃ e, readEntry line = .error e) ↔ IsMalformedLine line := by
  rw [isMalformedLine_iff, ← exists_shown_iff]
  exact exists_congr fun _ ↦ readEntry_eq_error_iff

theorem exists_readEntry_eq_ok_iff :
    (∃ pair, readEntry line = .ok pair) ↔ ¬IsMalformedLine line := by
  rw [exists_eq_ok_iff, exists_readEntry_eq_error_iff]

/-! ### Texts -/

/-- What is shown of a text is shown of the first line that is malformed. -/
def Shows (s shown : List Char) : Prop :=
  ∃ before line after, logicalLines s = before ++ line :: after ∧
    (∀ l ∈ before, ¬IsMalformedLine l) ∧ LineShows line shown

variable {s : List Char}

/-- A text is refused for the first of its lines that is, with the error of this line. -/
theorem parse_eq_error_iff_mapM :
    parse s = .error e ↔ (logicalLines s).mapM readEntry = .error e := by
  rw [parse, readEntries]
  cases (logicalLines s).mapM readEntry <;> simp

/-- A text is refused for what is shown of it, and what is shown is shown of one line only. -/
theorem parse_eq_error_iff : parse s = .error e ↔ Shows s e.shown := by
  rw [parse_eq_error_iff_mapM, mapM_eq_error_iff, Shows]
  simp only [exists_readEntry_eq_ok_iff, readEntry_eq_error_iff]

/-- A text is refused exactly when one of its lines is malformed. -/
theorem exists_parse_eq_error_iff :
    (∃ e, parse s = .error e) ↔ ∃ line ∈ logicalLines s, IsMalformedLine line := by
  simp only [parse_eq_error_iff_mapM, exists_mapM_eq_error_iff, exists_readEntry_eq_error_iff]

/-- **The parser refuses the malformed texts, and no others.** The message shows the first fault of
the first malformed line, where the value of a line comes before its key. -/
theorem parse_refuses_malformed (s : List Char) :
    ((∃ e, parse s = .error e) ↔ ∃ line ∈ logicalLines s, IsMalformedLine line) ∧
    (∀ message, (∃ e, parse s = .error e ∧ e.message = message) ↔
      ∃ shown, Shows s shown ∧
        message = "Malformed \\uXXXX escape: " ++ Text.quote (String.ofList shown)) ∧
    ((∃ d, parse s = .ok d) ↔ ∀ line ∈ logicalLines s, ¬IsMalformedLine line) := by
  refine ⟨exists_parse_eq_error_iff, fun message ↦ ?_, ?_⟩
  · constructor
    · rintro ⟨e, failed, rfl⟩
      exact ⟨e.shown, parse_eq_error_iff.1 failed, rfl⟩
    · rintro ⟨shown, shows, rfl⟩
      exact ⟨⟨shown⟩, parse_eq_error_iff.2 shows, rfl⟩
  · rw [exists_eq_ok_iff, exists_parse_eq_error_iff]
    push Not
    rfl

/-- An escaped backslash begins no escape, digits may be spread over two lines, and a separator ends
the key. -/
example : parse "a=\\\\u\nb=\\u00\\\n41\nc\\u004 1".toList = .error ⟨"\\u004".toList⟩ := by
  rfl

end AwsCredentials.Properties
