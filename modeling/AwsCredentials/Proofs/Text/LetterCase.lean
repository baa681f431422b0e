import AwsCredentials.Validation.Reading
import Mathlib.Data.List.Forall2

/-!
# Words in any letter case

A text is a casing of a word in small letters when each of its characters is the letter that the
word has there, or the capital of that letter. For the two words of a flag this is what comparing
lower-case forms amounts to (`isVariantOf_iff`): the one further character whose lower-case form is
an ASCII letter stands for a `k`, and neither word has one.

`readFlag_eq_true_iff` and its companions say what a flag is read as in these terms.
-/

namespace AwsCredentials

namespace Text

/-- A text is a word in small letters, but for capitals in the place of some of them. -/
def IsCasingOf (s word : String) : Prop :=
  List.Forall₂ (fun c w ↦ c = w ∨ c = w.toUpper) s.toList word.toList

instance (s word : String) : Decidable (IsCasingOf s word) :=
  inferInstanceAs (Decidable (List.Forall₂ _ _ _))

theorem toNat_toLower (c : Char) :
    c.toLower.toNat = if 65 ≤ c.toNat ∧ c.toNat ≤ 90 then c.toNat + 32 else c.toNat := by
  have range_iff : (c.val ≥ 'A'.val ∧ c.val ≤ 'Z'.val) ↔ 65 ≤ c.toNat ∧ c.toNat ≤ 90 := Iff.rfl
  unfold Char.toLower
  split
  · next h =>
    have sum : (c.val + ('a'.val - 'A'.val)).toNat = (c.toNat + 32) % 2 ^ 32 :=
      UInt32.toNat_add ..
    rw [if_pos (range_iff.1 h), Char.toNat, sum]
    have := (range_iff.1 h).2
    omega
  · next h => rw [if_neg fun h' ↦ h (range_iff.2 h')]

theorem toNat_toUpper (c : Char) :
    c.toUpper.toNat = if 97 ≤ c.toNat ∧ c.toNat ≤ 122 then c.toNat - 32 else c.toNat := by
  have range_iff : ('a'.val ≤ c.val ∧ c.val ≤ 'z'.val) ↔ 97 ≤ c.toNat ∧ c.toNat ≤ 122 := Iff.rfl
  unfold Char.toUpper
  split
  · next h =>
    -- The difference is negative, so it is added as its complement to the size of a word.
    have sum : (c.val + ('A'.val - 'a'.val)).toNat = (c.toNat + (2 ^ 32 - 32)) % 2 ^ 32 :=
      UInt32.toNat_add ..
    rw [if_pos (range_iff.1 h), Char.toNat, sum]
    have := range_iff.1 h
    omega
  · next h => rw [if_neg fun h' ↦ h (range_iff.2 h')]

/-- A character has a small letter as its lower-case form when it is that letter or its capital. -/
theorem lowerChar_eq_iff {c w : Char} (hw : w.isLower = true) (hk : w ≠ 'k') :
    lowerChar c = w ↔ c = w ∨ c = w.toUpper := by
  have small : 97 ≤ w.toNat ∧ w.toNat ≤ 122 := by
    obtain ⟨least, greatest⟩ := Bool.and_eq_true_iff.1 hw
    exact ⟨of_decide_eq_true least, of_decide_eq_true greatest⟩
  unfold lowerChar
  split
  · next h =>
    have kelvin : c.toNat = 0x212A := by rw [h]; rfl
    refine iff_of_false (fun e ↦ hk e.symm) ?_
    rw [← Char.toNat_inj, ← Char.toNat_inj, toNat_toUpper, if_pos small]
    omega
  · rw [← Char.toNat_inj, ← Char.toNat_inj, ← Char.toNat_inj, toNat_toUpper, toNat_toLower,
      if_pos small]
    split <;> omega

/-- **A text is a variant of a word exactly when it is a casing of it**, for words without a `k`. -/
theorem isVariantOf_iff {s word : String}
    (hw : ∀ w ∈ word.toList, w.isLower = true ∧ w ≠ 'k') :
    IsVariantOf s word ↔ IsCasingOf s word := by
  unfold IsVariantOf IsCasingOf
  generalize s.toList = cs at *
  generalize word.toList = ws at *
  induction ws generalizing cs with
  | nil => cases cs <;> simp
  | cons w ws ih =>
    obtain ⟨first, others⟩ := List.forall_mem_cons.1 hw
    cases cs with
    | nil => simp
    | cons c cs =>
      rw [lower_cons, List.cons.injEq, List.forall₂_cons, lowerChar_eq_iff first.1 first.2,
        ih cs others]

theorem isVariantOf_true_iff {s : String} : IsVariantOf s "true" ↔ IsCasingOf s "true" :=
  isVariantOf_iff (by simp)

theorem isVariantOf_false_iff {s : String} : IsVariantOf s "false" ↔ IsCasingOf s "false" :=
  isVariantOf_iff (by simp)

end Text

/-- A flag is read as true when it is a casing of the word, letter by letter. -/
theorem readFlag_eq_true_iff {s : String} :
    readFlag s = some true ↔ Text.IsCasingOf s "true" := by
  simp only [readFlag, Text.isVariantOf_true_iff, Text.isVariantOf_false_iff]
  split
  · next h => simp [h]
  · next h => split <;> simp [h]

/-- A flag is read as false when it is a casing of that word, which no casing of the other is. -/
theorem readFlag_eq_false_iff {s : String} :
    readFlag s = some false ↔ Text.IsCasingOf s "false" := by
  have exclusive (ht : Text.IsCasingOf s "true") : ¬Text.IsCasingOf s "false" := by
    intro hf
    exact absurd (ht.length_eq.symm.trans hf.length_eq) (by decide)
  simp only [readFlag, Text.isVariantOf_true_iff, Text.isVariantOf_false_iff]
  split
  · next h => simp [exclusive h]
  · next h => split <;> next h' => simp [h']

/-- A flag cannot be read when it is a casing of neither word. -/
theorem readFlag_eq_none_iff {s : String} :
    readFlag s = none ↔ ¬Text.IsCasingOf s "true" ∧ ¬Text.IsCasingOf s "false" := by
  simp only [readFlag, Text.isVariantOf_true_iff, Text.isVariantOf_false_iff]
  split
  · next h => simp [h]
  · next h => split <;> next h' => simp [h, h']

end AwsCredentials
