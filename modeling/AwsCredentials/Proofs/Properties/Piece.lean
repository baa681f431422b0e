import AwsCredentials.Properties.Document
import Mathlib.Data.List.Induction

/-!
# Pieces of a line

Read from left to right, a line falls into pieces: a backslash with the character after it, or a
single character that is no backslash. What may be left over is one backslash at the end
(`exists_spell`).

Whether a line goes on with the next one is told from its end, by the parity of a run of
backslashes. In pieces it is told from the beginning: a line that is spelled by pieces is over
(`joinLines_spell`), and a line with a backslash left over goes on (`joinLines_spell_concat`). These
are all that can become of a line that counts (`joinLines_cons_cases`).
-/

namespace AwsCredentials.Properties

/-- A piece of a line: one character, or a backslash with the character that it makes active. -/
inductive Piece
  /-- A character that is no backslash. -/
  | plain (c : Char) (h : c ≠ '\\')
  /-- A backslash and the character after it. -/
  | escape (c : Char)

namespace Piece

/-- The characters of a piece, one or two of them. -/
def chars : Piece → List Char
  | plain c _ => [c]
  | escape c => ['\\', c]

@[simp]
theorem chars_plain {c : Char} (h : c ≠ '\\') : (plain c h).chars = [c] :=
  rfl

@[simp]
theorem chars_escape (c : Char) : (escape c).chars = ['\\', c] :=
  rfl

end Piece

/-- The text that pieces spell, read from left to right. -/
def spell (ps : List Piece) : List Char :=
  ps.flatMap Piece.chars

@[simp]
theorem spell_nil : spell [] = [] :=
  rfl

@[simp]
theorem spell_cons (p : Piece) (ps : List Piece) : spell (p :: ps) = p.chars ++ spell ps :=
  rfl

@[simp]
theorem spell_append (ps qs : List Piece) : spell (ps ++ qs) = spell ps ++ spell qs :=
  List.flatMap_append

/-- **A line is spelled by pieces, or by pieces and a backslash that is left over.** The pieces are
found from the left, and only the last character can be without a partner. -/
theorem exists_spell : ∀ l : List Char, ∃ ps, l = spell ps ∨ l = spell ps ++ ['\\']
  | [] => ⟨[], .inl rfl⟩
  | [c] => by
    by_cases hc : c = '\\'
    · exact ⟨[], .inr (by simp [hc])⟩
    · exact ⟨[.plain c hc], .inl rfl⟩
  | c :: d :: r => by
    by_cases hc : c = '\\'
    · obtain ⟨ps, h⟩ := exists_spell r
      refine ⟨.escape d :: ps, h.imp (fun h ↦ ?_) fun h ↦ ?_⟩ <;> simp [hc, h]
    · obtain ⟨ps, h⟩ := exists_spell (d :: r)
      refine ⟨.plain c hc :: ps, h.imp (fun h ↦ ?_) fun h ↦ ?_⟩ <;> simp [h]

/-- A text is spelled by pieces, with no backslash left over, so that nothing at its end waits for
more. -/
def IsSpelled (s : List Char) : Prop :=
  ∃ ps, spell ps = s

theorem Piece.isSpelled_chars (p : Piece) : IsSpelled p.chars :=
  ⟨[p], List.append_nil _⟩

theorem isSpelled_append {s t : List Char} (hs : IsSpelled s) (ht : IsSpelled t) :
    IsSpelled (s ++ t) := by
  obtain ⟨ps, rfl⟩ := hs
  obtain ⟨qs, rfl⟩ := ht
  exact ⟨ps ++ qs, spell_append ps qs⟩

/-- A text without backslashes is spelled by its characters, each of which is a piece. -/
theorem isSpelled_of_not_mem {s : List Char} (h : '\\' ∉ s) : IsSpelled s := by
  induction s with
  | nil => exact ⟨[], rfl⟩
  | cons c s ih =>
    rw [List.mem_cons, not_or] at h
    exact isSpelled_append (Piece.plain c (Ne.symm h.1)).isSpelled_chars (ih h.2)

/-! ### Lines that go on -/

theorem trailingBackslashes_concat (l : List Char) (c : Char) :
    trailingBackslashes (l ++ [c]) = if c = '\\' then trailingBackslashes l + 1 else 0 := by
  by_cases hc : c = '\\' <;> simp [trailingBackslashes, hc]

/-- The backslashes at the end of pieces come in pairs, since an unpaired one would be left over. -/
theorem trailingBackslashes_spell (ps : List Piece) : trailingBackslashes (spell ps) % 2 = 0 := by
  induction ps using List.reverseRecOn with
  | nil => rfl
  | append_singleton ps p ih =>
    cases p with
    | plain c hc => simp [trailingBackslashes_concat, hc]
    | escape c =>
      have pair : spell ps ++ ['\\', c] = (spell ps ++ ['\\']) ++ [c] := by simp
      rw [spell_append, spell_cons, spell_nil, List.append_nil, Piece.chars_escape, pair,
        trailingBackslashes_concat, trailingBackslashes_concat]
      split <;> simp [Nat.add_assoc, ih]

/-- A line that is spelled by pieces does not go on with the next, which the parity of its
backslashes tells. -/
@[simp]
theorem continues_spell (ps : List Piece) : continues (spell ps) = false := by
  simp [continues, trailingBackslashes_spell]

/-- A line with a backslash left over does. -/
@[simp]
theorem continues_spell_concat (ps : List Piece) : continues (spell ps ++ ['\\']) = true := by
  have even := trailingBackslashes_spell ps
  simp only [continues, trailingBackslashes_concat, if_true, decide_eq_true_eq]
  omega

section

variable {begun : Option (List Char)} {natural : List Char} {ps : List Piece}

/-- A line that is spelled by pieces ends the logical line, whether it began it or not. -/
theorem joinLines_spell (h : (begun.isNone && isIgnorable (natural.dropWhile isSpace)) = false)
    (hs : natural.dropWhile isSpace = spell ps) (rest : List (List Char)) :
    joinLines begun (natural :: rest) = (begun.getD [] ++ spell ps) :: joinLines none rest := by
  rw [hs] at h
  rw [joinLines, hs, h, continues_spell]
  rfl

/-- A line with a backslash left over goes on with the next, without the backslash. -/
theorem joinLines_spell_concat
    (h : (begun.isNone && isIgnorable (natural.dropWhile isSpace)) = false)
    (hs : natural.dropWhile isSpace = spell ps ++ ['\\']) (rest : List (List Char)) :
    joinLines begun (natural :: rest) = joinLines (some (begun.getD [] ++ spell ps)) rest := by
  rw [hs] at h
  rw [joinLines, hs, h, continues_spell_concat, List.dropLast_concat]
  rfl

/-- **What becomes of a natural line**: it leaves no trace, or it is taken into a logical line,
which is over or goes on. -/
theorem joinLines_cons_cases (begun : Option (List Char)) (natural : List Char)
    (rest : List (List Char)) :
    (begun = none ∧ isIgnorable (natural.dropWhile isSpace) = true ∧
        joinLines begun (natural :: rest) = joinLines none rest) ∨
      ((begun.isNone && isIgnorable (natural.dropWhile isSpace)) = false ∧ ∃ ps,
        (natural.dropWhile isSpace = spell ps ∧
            joinLines begun (natural :: rest) =
              (begun.getD [] ++ spell ps) :: joinLines none rest) ∨
          (natural.dropWhile isSpace = spell ps ++ ['\\'] ∧
            joinLines begun (natural :: rest) =
              joinLines (some (begun.getD [] ++ spell ps)) rest)) := by
  cases counts : begun.isNone && isIgnorable (natural.dropWhile isSpace) with
  | true =>
    obtain ⟨none_begun, ignorable⟩ := Bool.and_eq_true_iff.1 counts
    obtain rfl := Option.isNone_iff_eq_none.1 none_begun
    exact .inl ⟨rfl, ignorable, joinLines_ignorable ignorable rest⟩
  | false =>
    obtain ⟨ps, hs⟩ := exists_spell (natural.dropWhile isSpace)
    exact .inr ⟨rfl, ps, hs.imp (fun hs ↦ ⟨hs, joinLines_spell counts hs rest⟩)
      fun hs ↦ ⟨hs, joinLines_spell_concat counts hs rest⟩⟩

end

end AwsCredentials.Properties
