import AwsCredentials.Text.WholeNumber

/-!
# The grammar of whole numbers

A whole number is written as digits, alone or after one sign. `Numeral.WrittenAs` is that grammar,
and this module compares it with the two functions that go between texts and numbers.

* Reading (`ofText?_eq_some_iff`, `readWhole_eq_number_iff` and its companions): a text is read as a
  numeral exactly when the grammar has it, and what becomes of the numeral is decided by the count
  of its digits alone.
* Writing (`writtenAs_decimal`, `readWhole_decimal`): the shortest decimal text of a number is
  written in the grammar and is read back as the same number, unless it is too long to convert.

The grammar is unambiguous (`Numeral.WrittenAs.eq`), which is not assumed but read off the first
comparison: the reader is a function.
-/

namespace AwsCredentials.Text

namespace Numeral

/-- At least one character, and every one an ASCII digit. Digits of other scripts do not count. -/
def IsDigits (ds : List Char) : Prop :=
  ds ≠ [] ∧ ∀ c ∈ ds, '0' ≤ c ∧ c ≤ '9'

instance : DecidablePred IsDigits := fun ds ↦
  @instDecidableAnd _ _ inferInstance (List.decidableBAll (fun c ↦ '0' ≤ c ∧ c ≤ '9') ds)

/-- The texts of a numeral: its digits, alone or after one sign. White space around it is no part of
them. -/
inductive WrittenAs : Numeral → List Char → Prop
  /-- Without a sign. -/
  | unsigned {ds : List Char} (h : IsDigits ds) : WrittenAs ⟨false, ds⟩ ds
  /-- After a plus sign. -/
  | plus {ds : List Char} (h : IsDigits ds) : WrittenAs ⟨false, ds⟩ ('+' :: ds)
  /-- After a minus sign. -/
  | minus {ds : List Char} (h : IsDigits ds) : WrittenAs ⟨true, ds⟩ ('-' :: ds)

/-! ### Reading -/

theorem isDigit_iff {c : Char} : c.isDigit = true ↔ '0' ≤ c ∧ c ≤ '9' := by
  simp [Char.isDigit, Char.le_def]

theorem digits?_eq_some_iff {s ds : List Char} : digits? s = some ds ↔ s = ds ∧ IsDigits ds := by
  have guard_iff : (s ≠ [] ∧ s.all Char.isDigit) ↔ IsDigits s := by
    simp only [IsDigits, List.all_eq_true, isDigit_iff]
  unfold digits?
  split
  · next h =>
    simp only [Option.some.injEq]
    exact ⟨fun e ↦ ⟨e, e ▸ guard_iff.1 h⟩, fun e ↦ e.1⟩
  · next h =>
    simp only [reduceCtorEq, false_iff, not_and]
    exact fun e h' ↦ h (guard_iff.2 (e ▸ h'))

/-- A text is read as a numeral exactly when the numeral is written so, digit by digit. -/
theorem ofText?_eq_some_iff {s : List Char} {m : Numeral} : ofText? s = some m ↔ m.WrittenAs s := by
  constructor
  · intro h
    unfold ofText? at h
    split at h <;>
      obtain ⟨ds, hds, rfl⟩ := Option.map_eq_some_iff.1 h <;>
      obtain ⟨rfl, hds⟩ := digits?_eq_some_iff.1 hds
    · exact .minus hds
    · exact .plus hds
    · exact .unsigned hds
  · intro h
    cases h with
    | @unsigned ds h =>
      unfold ofText?
      -- Digits alone fall through the two cases of a sign, since neither sign is a digit.
      split
      · exact absurd (h.2 '-' List.mem_cons_self) (by decide)
      · exact absurd (h.2 '+' List.mem_cons_self) (by decide)
      · rw [digits?_eq_some_iff.2 ⟨rfl, h⟩]; rfl
    | plus h => simp [ofText?, digits?_eq_some_iff.2 ⟨rfl, h⟩]
    | minus h => simp [ofText?, digits?_eq_some_iff.2 ⟨rfl, h⟩]

/-- A text is written for one numeral at most, since a sign is no digit. -/
theorem WrittenAs.eq {s : List Char} {m m' : Numeral} (h : m.WrittenAs s) (h' : m'.WrittenAs s) :
    m = m' :=
  Option.some.inj ((ofText?_eq_some_iff.2 h).symm.trans (ofText?_eq_some_iff.2 h'))

theorem ofText?_eq_none_iff {s : List Char} : ofText? s = none ↔ ∀ m, ¬WrittenAs m s := by
  rw [Option.eq_none_iff_forall_ne_some]
  exact forall_congr' fun m ↦ not_congr ofText?_eq_some_iff

end Numeral

open Numeral

/-- Nothing is read from a text that no numeral is written as, however long it is. -/
theorem readWhole_eq_malformed_iff {s : List Char} :
    readWhole s = .malformed ↔ ∀ m, ¬WrittenAs m s := by
  rw [← ofText?_eq_none_iff]
  unfold readWhole
  split
  · simp_all
  · next h => split <;> simp [h]

/-- A numeral is too long to convert when it has more than `maxDigits` digits. -/
theorem readWhole_eq_overlong_iff {s : List Char} {o : Overlong} :
    readWhole s = .overlong o ↔
      ∃ m, WrittenAs m s ∧ maxDigits < m.digits.length ∧ m.digits.length = o.count := by
  simp only [← ofText?_eq_some_iff]
  unfold readWhole
  split
  · next h => simp [h]
  · next m h =>
    split
    · next short => simp [h, Nat.not_lt.2 short]
    · next long =>
      cases o
      simp [h, Nat.lt_of_not_le long]

/-- A numeral of at most `maxDigits` digits is converted to its value. -/
theorem readWhole_eq_number_iff {s : List Char} {n : Int} :
    readWhole s = .number n ↔
      ∃ m, WrittenAs m s ∧ m.digits.length ≤ maxDigits ∧ m.value = n := by
  simp only [← ofText?_eq_some_iff]
  unfold readWhole
  split
  · next h => simp [h]
  · next m h =>
    split
    · next short => simp [h, short]
    · next long => simp [h, long]

/-! ### Writing -/

/-- The digits of a number in base ten are digits of a numeral, and there is at least one. -/
theorem isDigits_toDigits (k : Nat) : IsDigits (Nat.toDigits 10 k) :=
  ⟨Nat.toDigits_ne_nil, fun _ hc ↦
    isDigit_iff.1 (Nat.isDigit_of_mem_toDigits (by decide) (by decide) hc)⟩

/-- The numeral that a number is written with. -/
def Numeral.ofInt (n : Int) : Numeral :=
  ⟨decide (n < 0), Nat.toDigits 10 n.natAbs⟩

/-- A number is written in the grammar by its decimal text, with a sign only if it is negative. -/
theorem writtenAs_decimal (n : Int) : (Numeral.ofInt n).WrittenAs (decimal n).toList := by
  cases n with
  | ofNat k =>
    have nonneg : ¬(k : Int) < 0 := Int.not_lt.2 (Int.natCast_nonneg k)
    simpa [decimal, Numeral.ofInt, nonneg] using WrittenAs.unsigned (isDigits_toDigits k)
  | negSucc k =>
    simpa [decimal, Numeral.ofInt, Int.negSucc_lt_zero] using
      WrittenAs.minus (isDigits_toDigits (k + 1))

@[simp]
theorem value_ofInt (n : Int) : (Numeral.ofInt n).value = n := by
  simp only [Numeral.ofInt, value, magnitude, Nat.ofDigitChars_ten_toDigits, decide_eq_true_eq]
  split <;> omega

/-- **A number is read back from its decimal text** unless the text is too long to convert. -/
theorem readWhole_decimal {n : Int} (h : (Numeral.ofInt n).digits.length ≤ maxDigits) :
    readWhole (decimal n).toList = .number n :=
  readWhole_eq_number_iff.2 ⟨_, writtenAs_decimal n, h, value_ofInt n⟩

/-- The numbers that take more than so many digits begin with that power of ten. -/
theorem lt_digitCount_iff {n : Int} {k : Nat} (hk : 0 < k) :
    k < digitCount n ↔ Nat.pow 10 k ≤ n.natAbs := by
  have base : 1 < 10 := by decide
  have short : digitCount n ≤ k ↔ n.natAbs < Nat.pow 10 k := Nat.length_toDigits_le_iff base hk
  rw [← Nat.not_le, short, Nat.not_lt]

end AwsCredentials.Text
