import AwsCredentials.Parameters.Value
import AwsCredentials.Proofs.Text.Numeral
import Mathlib.Data.List.DropRight

/-!
# Trimmed texts

A text is trimmed when there is something to it and no white space around it. This is the form in
which a field holds a text: what a field holds after it is given a text is trimmed
(`isTrimmed_of_nonBlank`), and a trimmed text is held as it is (`nonBlank_eq_some`).

The two rest on `trim_trim`: what is trimmed once is not trimmed further. A text that holds no white
space at all is not trimmed either (`trim_eq_self`), and so the decimal text of a number is a
trimmed text (`isTrimmed_decimal`).
-/

namespace AwsCredentials

namespace Text

variable {α : Type} {p : α → Bool}

/-- An unselected first element shields itself, and only itself, from what goes at the end. -/
theorem dropTrailing_cons_of_not {x : α} (h : p x = false) (l : List α) :
    dropTrailing p (x :: l) = x :: dropTrailing p l := by
  rw [dropTrailing, List.reverse_cons, List.dropWhile_append]
  split
  · next gone =>
    have all_gone : l.reverse.dropWhile p = [] := List.isEmpty_iff.1 gone
    simp [dropTrailing, all_gone, h]
  · simp [dropTrailing]

/-- What goes at the end is a run of one element, as long as it can be. -/
theorem dropTrailing_eq_iff [DecidableEq α] {c : α} {s u : List α} :
    dropTrailing (· = c) s = u ↔
      (∃ k, s = u ++ List.replicate k c) ∧ u.getLast? ≠ some c := by
  constructor
  · rintro rfl
    refine ⟨⟨(s.rtakeWhile (· = c)).length, ?_⟩, fun last ↦ ?_⟩
    · have run : s.rtakeWhile (· = c) = List.replicate (s.rtakeWhile (· = c)).length c :=
        List.eq_replicate_length.2 fun x hx ↦ by simpa using List.mem_rtakeWhile_imp hx
      rw [← run]
      exact List.rdropWhile_append_rtakeWhile.symm
    · have hne : dropTrailing (· = c) s ≠ [] := by
        intro hs
        simp [hs] at last
      have kept : (dropTrailing (· = c) s).getLast hne = c :=
        Option.some.inj ((List.getLast?_eq_some_getLast hne).symm.trans last)
      exact List.rdropWhile_last_not _ s hne (decide_eq_true kept)
  · rintro ⟨⟨k, rfl⟩, last⟩
    induction k with
    | zero =>
      rw [List.replicate_zero, List.append_nil]
      refine List.rdropWhile_eq_self_iff.2 fun hne hc ↦ last ?_
      rw [List.getLast?_eq_some_getLast hne, of_decide_eq_true hc]
    | succ k ih =>
      rw [List.replicate_succ', ← List.append_assoc, dropTrailing_concat (by simp), ih]

/-- **Trimming twice is trimming once**, since what is left has no selected element at either
end. -/
@[simp]
theorem trim_trim (p : α → Bool) (l : List α) : trim p (trim p l) = trim p l := by
  unfold trim
  cases hl : l.dropWhile p with
  | nil => rfl
  | cons x r =>
    have hx : p x = false := by
      have := List.head_dropWhile_not p (l := l) (by simp [hl])
      simpa [hl] using this
    rw [dropTrailing_cons_of_not hx, List.dropWhile_cons_of_neg (by simp [hx]),
      dropTrailing_cons_of_not hx]
    exact congrArg _ (List.rdropWhile_idempotent p r)

/-- Nothing is trimmed from a list without selected elements, which is how texts without white space
are dealt with. -/
theorem trim_eq_self {l : List α} (h : ∀ x ∈ l, p x = false) : trim p l = l := by
  unfold trim
  have start : l.dropWhile p = l := by
    cases l with
    | nil => rfl
    | cons x r => exact List.dropWhile_cons_of_neg (by simp [h x List.mem_cons_self])
  rw [start]
  refine List.rdropWhile_eq_self_iff.2 fun hl ↦ ?_
  simp [h _ (List.getLast_mem hl)]

/-- What is selected at both ends does not show after trimming, so padding a text makes no
difference. -/
theorem trim_padded {l r : List α} (hl : ∀ x ∈ l, p x = true) (hr : ∀ x ∈ r, p x = true)
    (s : List α) : trim p (l ++ s ++ r) = trim p s := by
  have start : (l ++ s ++ r).dropWhile p = (s ++ r).dropWhile p := by
    rw [List.append_assoc, List.dropWhile_append_of_pos hl]
  have gone : r.dropWhile p = [] := List.dropWhile_eq_nil_iff.2 hr
  rw [trim, trim, start, List.dropWhile_append]
  split
  · next blank => rw [gone, List.isEmpty_iff.1 blank]
  · rw [dropTrailing, List.reverse_append, List.dropWhile_append_of_pos (by simpa using hr)]
    rfl

/-- A text with something to it and no white space around it: trimming leaves it as it is, and it is
not empty. -/
def IsTrimmed (s : String) : Prop :=
  s ≠ "" ∧ stripped s = s

instance (s : String) : Decidable (IsTrimmed s) :=
  inferInstanceAs (Decidable (_ ∧ _))

@[simp]
theorem stripped_stripped (s : String) : stripped (stripped s) = stripped s := by
  simp [stripped, strip]

/-- A text without white space is trimmed as soon as there is something to it. -/
theorem isTrimmed_of_forall_not_isBlank {cs : List Char} (hne : cs ≠ [])
    (h : ∀ c ∈ cs, isBlank c = false) : IsTrimmed (String.ofList cs) := by
  refine ⟨fun e ↦ hne (by simpa using congrArg String.toList e), ?_⟩
  simp [stripped, strip, trim_eq_self h]

/-- An ASCII digit is no white space, so numerals are trimmed as they are written. -/
theorem isBlank_eq_false_of_digit {c : Char} (h : '0' ≤ c ∧ c ≤ '9') : isBlank c = false := by
  have range : 48 ≤ c.toNat ∧ c.toNat ≤ 57 := h
  simp only [isBlank, blankRanges, List.any_eq_false, List.forall_mem_cons, Bool.and_eq_true,
    decide_eq_true_eq]
  refine ⟨?_, ?_, ?_, ?_, ?_, ?_, ?_, ?_, ?_, ?_, by simp⟩ <;> omega

/-- **The decimal text of a number is trimmed**, since it is made of digits and a sign. -/
theorem isTrimmed_decimal (n : Int) : IsTrimmed (decimal n) := by
  have no_blank (k : Nat) : ∀ c ∈ Nat.toDigits 10 k, isBlank c = false :=
    fun c hc ↦ isBlank_eq_false_of_digit ((isDigits_toDigits k).2 c hc)
  cases n with
  | ofNat k => exact isTrimmed_of_forall_not_isBlank Nat.toDigits_ne_nil (no_blank k)
  | negSucc k =>
    refine isTrimmed_of_forall_not_isBlank (List.cons_ne_nil _ _) ?_
    exact List.forall_mem_cons.2 ⟨by decide, no_blank (k + 1)⟩

end Text

namespace Value

/-- What a field holds after it is given a text is trimmed, if it holds anything then. -/
theorem isTrimmed_of_nonBlank {s t : String} (h : nonBlank s = some t) : Text.IsTrimmed t := by
  unfold nonBlank at h
  split at h
  · exact absurd h (by simp)
  · next hs =>
    obtain rfl := Option.some.inj h
    refine ⟨fun e ↦ hs (by simpa [Text.stripped] using congrArg String.toList e), ?_⟩
    exact Text.stripped_stripped s

/-- A trimmed text is held as it is, so that it can be given to a field again. -/
theorem nonBlank_eq_some {s : String} (h : Text.IsTrimmed s) : nonBlank s = some s := by
  have something : Text.strip s.toList ≠ [] := by
    intro e
    apply h.1
    rw [← h.2, Text.stripped, e]
  rw [nonBlank, if_neg something, h.2]

end Value

end AwsCredentials
