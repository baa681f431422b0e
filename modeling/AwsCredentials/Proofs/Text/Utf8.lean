import AwsCredentials.Proofs.Basic
import AwsCredentials.Text.Utf8
import Mathlib.Data.List.Basic

/-!
# Decoding is exact

`Utf8.decode` reads one byte at a time and reports faults; `Utf8.encode` writes characters. The
bytes that are decoded are exactly those that some text is encoded as, and they are decoded to that
text (`decode_eq_ok_iff`). So the decoder refuses what is no text, and nothing else, and no two
texts are encoded alike.

Both directions go character by character. The bytes of one character are read to the character and
nothing of what follows (`decodeFrom_bytesOf`), and what is read to a text begins with the bytes
of its first character (`exists_of_decodeFrom`).
-/

namespace AwsCredentials.Text.Utf8

/-! ### Characters by their numbers -/

variable {v position : Nat} {b : UInt8} {c : Char} {s : List Char} {r : List UInt8} {p : Pending}

/-- The number of a character is no surrogate and at most U+10FFFF. -/
theorem toNat_range (c : Char) : c.toNat < 0xD800 ∨ 0xDFFF < c.toNat ∧ c.toNat < 0x110000 :=
  c.valid

theorem toNat_ofNat (h : v < 0xD800 ∨ 0xDFFF < v ∧ v < 0x110000) : (Char.ofNat v).toNat = v := by
  rw [Char.ofNat, dif_pos h]
  rfl

/-- The bytes of a character with the given number, from one to four as the number grows. -/
def bytesOf (v : Nat) : List UInt8 :=
  if v ≤ 0x7F then [.ofNat v]
  else if v ≤ 0x7FF then [.ofNat (v / 64 % 32 + 192), .ofNat (v % 64 + 128)]
  else if v ≤ 0xFFFF then
    [.ofNat (v / 4096 % 16 + 224), .ofNat (v / 64 % 64 + 128), .ofNat (v % 64 + 128)]
  else
    [.ofNat (v / 262144 % 8 + 240), .ofNat (v / 4096 % 64 + 128), .ofNat (v / 64 % 64 + 128),
      .ofNat (v % 64 + 128)]

/-! ### Single bytes -/

/-- What the first byte of a character says, told from the number of the byte instead of its
bits. -/
theorem lead_eq (b : UInt8) :
    lead b =
      if b.toNat < 0x80 then .whole (Char.ofNat b.toNat)
      else if b.toNat < 0xC2 then .invalid
      else if b.toNat < 0xE0 then .opens 1 0x80 0xBF (b.toNat - 0xC0)
      else if b.toNat < 0xF0 then
        .opens 2 (if b.toNat = 0xE0 then 0xA0 else 0x80) (if b.toNat = 0xED then 0x9F else 0xBF)
          (b.toNat - 0xE0)
      else if b.toNat < 0xF5 then
        .opens 3 (if b.toNat = 0xF0 then 0x90 else 0x80) (if b.toNat = 0xF4 then 0x8F else 0xBF)
          (b.toNat - 0xF0)
      else .invalid := by
  simp only [lead, UInt8.lt_iff_toNat_lt, ← UInt8.toNat_inj]
  rfl

/-- A byte that is the whole of a character is read to it, and the rest is read from the next
position. -/
theorem decodeFrom_whole (h : lead b = .whole c) :
    decodeFrom position none (b :: r) = (c :: ·) <$> decodeFrom (position + 1) none r := by
  rw [decodeFrom, h]

/-- A byte that begins a character. -/
theorem decodeFrom_opens {owed bits : Nat} {low high : UInt8}
    (h : lead b = .opens owed low high bits) :
    decodeFrom position none (b :: r) =
      decodeFrom (position + 1) (some ⟨b, position, owed - 1, low, high, bits⟩) r := by
  rw [decodeFrom, h]

theorem toNat_byte {n : Nat} (h : n < 256) : (UInt8.ofNat n).toNat = n := by
  rw [UInt8.toNat_ofNat']
  exact Nat.mod_eq_of_lt h

/-! ### The later bytes -/

/-- The later byte of a character that holds six bits of its number. -/
def laterByte (d : Nat) : UInt8 :=
  .ofNat (d + 0x80)

theorem toNat_laterByte {d : Nat} (h : d < 64) : (laterByte d).toNat = d + 0x80 :=
  toNat_byte (by omega)

/-- The number with six more bits, which come from one later byte. -/
def addSix (bits d : Nat) : Nat :=
  bits * 64 + d

/-- A byte that a pending character admits takes it further by six bits. -/
theorem decodeFrom_laterByte {d : Nat} (hd : d < 64)
    (h : p.low ≤ laterByte d ∧ laterByte d ≤ p.high) :
    decodeFrom position (some p) (laterByte d :: r) =
      match p.later with
      | 0 => (Char.ofNat (addSix p.bits d) :: ·) <$> decodeFrom (position + 1) none r
      | later + 1 => decodeFrom (position + 1)
          (some ⟨p.byte, p.start, later, 0x80, 0xBF, addSix p.bits d⟩) r := by
  rw [decodeFrom, if_pos h, toNat_laterByte hd, Nat.add_sub_cancel]
  rfl

/-- Behind the second byte of a character every later byte is admitted, whatever its six bits
are. -/
theorem laterByte_range {d : Nat} (h : d < 64) : 0x80 ≤ laterByte d ∧ laterByte d ≤ 0xBF := by
  rw [UInt8.le_iff_toNat_le, UInt8.le_iff_toNat_le, toNat_laterByte h]
  exact ⟨Nat.le_add_left _ _, Nat.add_le_add_right (Nat.le_of_lt_succ h) _⟩

/-- **As many later bytes as are owed end a character.** -/
theorem decodeFrom_laterBytes {d : Nat} {ds : List Nat} (hl : ds.length = p.later)
    (h : p.low ≤ laterByte d ∧ laterByte d ≤ p.high) (hd : ∀ x ∈ d :: ds, x < 64) :
    decodeFrom position (some p) ((d :: ds).map laterByte ++ r) =
      (Char.ofNat (ds.foldl addSix (addSix p.bits d)) :: ·) <$>
        decodeFrom (position + ds.length + 1) none r := by
  induction ds generalizing p d position with
  | nil =>
    rw [List.map_singleton, List.singleton_append, decodeFrom_laterByte (hd d (by simp)) h, ← hl]
    rfl
  | cons e ds ih =>
    obtain ⟨this, rest⟩ := List.forall_mem_cons.1 hd
    rw [List.map_cons, List.cons_append, decodeFrom_laterByte this h, ← hl]
    refine (ih rfl (laterByte_range (rest e List.mem_cons_self)) rest).trans ?_
    rw [List.length_cons, List.foldl_cons, Nat.add_right_comm position, Nat.add_assoc position]

/-- A byte in the range of later bytes holds six bits, and there is no other such byte for them. -/
theorem exists_laterByte (least : 0x80 ≤ b) (greatest : b ≤ 0xBF) :
    ∃ d < 64, b = laterByte d := by
  have least : 0x80 ≤ b.toNat := least
  have greatest : b.toNat ≤ 0xBF := greatest
  refine ⟨b.toNat - 0x80, by omega, UInt8.toNat_inj.1 ?_⟩
  rw [toNat_laterByte (by omega)]
  omega

/-- After a pending character has begun, a later byte in its range is needed, or nothing is
decoded. -/
theorem exists_cons_of_decodeFrom (hp : 0x80 ≤ p.low ∧ p.high ≤ 0xBF)
    (h : decodeFrom position (some p) r = .ok s) :
    ∃ d r', r = laterByte d :: r' ∧ d < 64 ∧ p.low ≤ laterByte d ∧ laterByte d ≤ p.high := by
  cases r with
  | nil => simp [decodeFrom] at h
  | cons b r =>
    by_cases range : p.low ≤ b ∧ b ≤ p.high
    · obtain ⟨d, hd, rfl⟩ :=
        exists_laterByte (UInt8.le_trans hp.1 range.1) (UInt8.le_trans range.2 hp.2)
      exact ⟨d, r, rfl, hd, range⟩
    · rw [decodeFrom, if_neg range] at h
      simp at h

/-- **What is read after a pending character has begun ends it first.** The induction is on how many
bytes are still to come, and all but the next are in the full range. -/
theorem exists_laterBytes (hp : 0x80 ≤ p.low ∧ p.high ≤ 0xBF)
    (h : decodeFrom position (some p) r = .ok s) :
    ∃ d ds r' s' position', r = (d :: ds).map laterByte ++ r' ∧ ds.length = p.later ∧
      (p.low ≤ laterByte d ∧ laterByte d ≤ p.high) ∧ (∀ x ∈ d :: ds, x < 64) ∧
      s = Char.ofNat (ds.foldl addSix (addSix p.bits d)) :: s' ∧
      decodeFrom position' none r' = .ok s' := by
  generalize hl : p.later = later
  -- Only the next byte has the range of `p`; the ones after it may be any continuation byte.
  induction later generalizing p r position with
  | zero =>
    obtain ⟨d, r, rfl, hd, range⟩ := exists_cons_of_decodeFrom hp h
    rw [decodeFrom_laterByte hd range, hl] at h
    obtain ⟨s', read, rfl⟩ := map_eq_ok_iff.1 h
    exact ⟨d, [], r, s', _, rfl, rfl, range, by simpa using hd, rfl, read⟩
  | succ later ih =>
    obtain ⟨d, r, rfl, hd, range⟩ := exists_cons_of_decodeFrom hp h
    rw [decodeFrom_laterByte hd range, hl] at h
    obtain ⟨e, ds, r', s', position', rfl, length, -, small, rfl, read⟩ :=
      ih ⟨UInt8.le_refl _, UInt8.le_refl _⟩ h rfl
    exact ⟨d, e :: ds, r', s', position', rfl, by rw [List.length_cons, length], range,
      List.forall_mem_cons.2 ⟨hd, small⟩, rfl, read⟩

/-! ### The bytes of a character -/

theorem bytesOf_one (h : v < 0x80) : bytesOf v = [.ofNat v] :=
  if_pos (Nat.le_of_lt_succ h)

theorem bytesOf_two {a d : Nat} (ha : 2 ≤ a ∧ a < 32) (hd : d < 64) :
    bytesOf (addSix a d) = .ofNat (a + 0xC0) :: [d].map laterByte := by
  unfold addSix bytesOf laterByte
  rw [if_neg (by omega), if_pos (by omega)]
  have h1 : (a * 64 + d) / 64 % 32 = a := by omega
  have h2 : (a * 64 + d) % 64 = d := by omega
  rw [h1, h2]
  rfl

theorem bytesOf_three {a d e : Nat} (ha : a < 16) (hd : d < 64) (he : e < 64)
    (h : a = 0 → 32 ≤ d) :
    bytesOf (addSix (addSix a d) e) = .ofNat (a + 0xE0) :: [d, e].map laterByte := by
  unfold addSix bytesOf laterByte
  rw [if_neg (by omega), if_neg (by omega), if_pos (by omega)]
  have h1 : ((a * 64 + d) * 64 + e) / 4096 % 16 = a := by omega
  have h2 : ((a * 64 + d) * 64 + e) / 64 % 64 = d := by omega
  have h3 : ((a * 64 + d) * 64 + e) % 64 = e := by omega
  rw [h1, h2, h3]
  rfl

theorem bytesOf_four {a d e f : Nat} (ha : a < 8) (hd : d < 64) (he : e < 64) (hf : f < 64)
    (h : a = 0 → 16 ≤ d) :
    bytesOf (addSix (addSix (addSix a d) e) f) = .ofNat (a + 0xF0) :: [d, e, f].map laterByte := by
  unfold addSix bytesOf laterByte
  rw [if_neg (by omega), if_neg (by omega), if_neg (by omega)]
  have h1 : (((a * 64 + d) * 64 + e) * 64 + f) / 262144 % 8 = a := by omega
  have h2 : (((a * 64 + d) * 64 + e) * 64 + f) / 4096 % 64 = d := by omega
  have h3 : (((a * 64 + d) * 64 + e) * 64 + f) / 64 % 64 = e := by omega
  have h4 : (((a * 64 + d) * 64 + e) * 64 + f) % 64 = f := by omega
  rw [h1, h2, h3, h4]
  rfl

/-! ### The first byte of a character -/

theorem lead_one (h : v < 0x80) : lead (.ofNat v) = .whole (Char.ofNat v) := by
  rw [lead_eq, toNat_byte (by omega), if_pos h]

theorem lead_two {a : Nat} (ha : 2 ≤ a ∧ a < 32) :
    lead (.ofNat (a + 0xC0)) = .opens 1 0x80 0xBF a := by
  rw [lead_eq, toNat_byte (by omega), if_neg (by omega), if_neg (by omega), if_pos (by omega),
    Nat.add_sub_cancel]

theorem lead_three {a : Nat} (ha : a < 16) :
    lead (.ofNat (a + 0xE0)) =
      .opens 2 (if a = 0 then 0xA0 else 0x80) (if a = 13 then 0x9F else 0xBF) a := by
  have least : a + 0xE0 = 0xE0 ↔ a = 0 := by omega
  have greatest : a + 0xE0 = 0xED ↔ a = 13 := by omega
  rw [lead_eq, toNat_byte (by omega), if_neg (by omega), if_neg (by omega), if_neg (by omega),
    if_pos (by omega), Nat.add_sub_cancel]
  simp only [least, greatest]

theorem lead_four {a : Nat} (ha : a < 5) :
    lead (.ofNat (a + 0xF0)) =
      .opens 3 (if a = 0 then 0x90 else 0x80) (if a = 4 then 0x8F else 0xBF) a := by
  have least : a + 0xF0 = 0xF0 ↔ a = 0 := by omega
  have greatest : a + 0xF0 = 0xF4 ↔ a = 4 := by omega
  rw [lead_eq, toNat_byte (by omega), if_neg (by omega), if_neg (by omega), if_neg (by omega),
    if_neg (by omega), if_pos (by omega), Nat.add_sub_cancel]
  simp only [least, greatest]

/-- A byte begins a character of one, two, three or four bytes, or it begins none. -/
theorem lead_cases (b : UInt8) :
    (∃ v < 0x80, b = .ofNat v) ∨ (∃ a, (2 ≤ a ∧ a < 32) ∧ b = .ofNat (a + 0xC0)) ∨
      (∃ a < 16, b = .ofNat (a + 0xE0)) ∨ (∃ a < 5, b = .ofNat (a + 0xF0)) ∨
      lead b = .invalid := by
  have is_byte {n : Nat} (h : b.toNat = n) : b = .ofNat n := by rw [← h, UInt8.ofNat_toNat]
  by_cases h1 : b.toNat < 0x80
  · exact .inl ⟨_, h1, is_byte rfl⟩
  by_cases h2 : b.toNat < 0xC2
  · exact .inr (.inr (.inr (.inr (by rw [lead_eq, if_neg h1, if_pos h2]))))
  by_cases h3 : b.toNat < 0xE0
  · exact .inr (.inl ⟨b.toNat - 0xC0, by omega, is_byte (by omega)⟩)
  by_cases h4 : b.toNat < 0xF0
  · exact .inr (.inr (.inl ⟨b.toNat - 0xE0, by omega, is_byte (by omega)⟩))
  by_cases h5 : b.toNat < 0xF5
  · exact .inr (.inr (.inr (.inl ⟨b.toNat - 0xF0, by omega, is_byte (by omega)⟩)))
  · exact .inr (.inr (.inr (.inr (by
      rw [lead_eq, if_neg h1, if_neg h2, if_neg h3, if_neg h4, if_neg h5]))))

/-- A range that is tighter at either end for one leading byte only, in terms of the six bits of the
later byte. -/
theorem laterByte_mem_iff {a d t l h : Nat} {low high : UInt8} (hd : d < 64)
    (hl : low.toNat = l + 0x80) (hh : high.toNat = h + 0x80) :
    ((if a = 0 then low else 0x80) ≤ laterByte d ∧ laterByte d ≤ (if a = t then high else 0xBF)) ↔
      (a = 0 → l ≤ d) ∧ (a = t → d ≤ h) := by
  rw [UInt8.le_iff_toNat_le, UInt8.le_iff_toNat_le, toNat_laterByte hd, apply_ite UInt8.toNat,
    apply_ite UInt8.toNat, hl, hh]
  have least : (0x80 : UInt8).toNat = 0x80 := rfl
  have greatest : (0xBF : UInt8).toNat = 0xBF := rfl
  rw [least, greatest]
  split <;> split <;> simp_all <;> omega

/-- A range that is tightened at its ends is still a range of later bytes. -/
theorem tightened_range {low high : UInt8} (hl : 0x80 ≤ low) (hh : high ≤ 0xBF) (P Q : Prop)
    [Decidable P] [Decidable Q] :
    0x80 ≤ (if P then low else 0x80) ∧ (if Q then high else 0xBF) ≤ 0xBF := by
  constructor
  · split
    · exact hl
    · exact UInt8.le_refl _
  · split
    · exact hh
    · exact UInt8.le_refl _

/-- The second of three bytes begins no overlong form and no surrogate. -/
theorem second_of_three_iff {a d : Nat} (hd : d < 64) :
    ((if a = 0 then 0xA0 else 0x80) ≤ laterByte d ∧
        laterByte d ≤ (if a = 13 then 0x9F else 0xBF)) ↔
      (a = 0 → 32 ≤ d) ∧ (a = 13 → d ≤ 31) :=
  laterByte_mem_iff hd rfl rfl

/-- The second of four bytes begins no overlong form and nothing above U+10FFFF. -/
theorem second_of_four_iff {a d : Nat} (hd : d < 64) :
    ((if a = 0 then 0x90 else 0x80) ≤ laterByte d ∧
        laterByte d ≤ (if a = 4 then 0x8F else 0xBF)) ↔
      (a = 0 → 16 ≤ d) ∧ (a = 4 → d ≤ 15) :=
  laterByte_mem_iff hd rfl rfl

/-! ### Whole characters -/

/-- **The bytes of a character are read to it**, and nothing of what follows. The cases are those of
the length, with a table of leading bytes for each. -/
theorem decodeFrom_bytesOf (h : v < 0xD800 ∨ 0xDFFF < v ∧ v < 0x110000) (position : Nat)
    (r : List UInt8) :
    ∃ position', decodeFrom position none (bytesOf v ++ r) =
      (Char.ofNat v :: ·) <$> decodeFrom position' none r := by
  -- The value is cut into groups of six bits, and the bounds on it are those on the second byte.
  by_cases one : v < 0x80
  · rw [bytesOf_one one]
    exact ⟨_, decodeFrom_whole (lead_one one)⟩
  by_cases two : v < 0x800
  · obtain ⟨a, d, ha, hd, rfl⟩ : ∃ a d, (2 ≤ a ∧ a < 32) ∧ d < 64 ∧ v = addSix a d :=
      ⟨v / 64, v % 64, by omega, by omega, by unfold addSix; omega⟩
    rw [bytesOf_two ha hd, List.cons_append, decodeFrom_opens (lead_two ha)]
    exact ⟨_, decodeFrom_laterBytes rfl (laterByte_range hd) (by simpa using hd)⟩
  by_cases three : v < 0x10000
  · obtain ⟨a, d, e, ha, hd, he, rfl⟩ :
        ∃ a d e, a < 16 ∧ d < 64 ∧ e < 64 ∧ v = addSix (addSix a d) e :=
      ⟨v / 4096, v / 64 % 64, v % 64, by omega, by omega, by omega, by unfold addSix; omega⟩
    unfold addSix at h two
    have second : (a = 0 → 32 ≤ d) ∧ (a = 13 → d ≤ 31) := by omega
    rw [bytesOf_three ha hd he second.1, List.cons_append, decodeFrom_opens (lead_three ha)]
    exact ⟨_, decodeFrom_laterBytes rfl ((second_of_three_iff hd).2 second) (by simp [hd, he])⟩
  · obtain ⟨a, d, e, f, ha, hd, he, hf, rfl⟩ : ∃ a d e f, a < 5 ∧ d < 64 ∧ e < 64 ∧ f < 64 ∧
        v = addSix (addSix (addSix a d) e) f :=
      ⟨v / 262144, v / 4096 % 64, v / 64 % 64, v % 64, by omega, by omega, by omega, by omega,
        by unfold addSix; omega⟩
    unfold addSix at h three
    have second : (a = 0 → 16 ≤ d) ∧ (a = 4 → d ≤ 15) := by omega
    rw [bytesOf_four (by omega) hd he hf second.1, List.cons_append,
      decodeFrom_opens (lead_four ha)]
    exact ⟨_, decodeFrom_laterBytes rfl ((second_of_four_iff hd).2 second) (by simp [hd, he, hf])⟩

/-- **What is read begins with the bytes of its first character.** -/
theorem exists_of_decodeFrom (h : decodeFrom position none (b :: r) = .ok s) :
    ∃ v r' s' position', (v < 0xD800 ∨ 0xDFFF < v ∧ v < 0x110000) ∧ b :: r = bytesOf v ++ r' ∧
      s = Char.ofNat v :: s' ∧ decodeFrom position' none r' = .ok s' := by
  -- The first byte says how many follow; the range it sets for the second keeps out the overlong
  -- forms and the surrogates, so the value read is spelled by these bytes and no shorter ones.
  obtain ⟨v, one, rfl⟩ | ⟨a, ha, rfl⟩ | ⟨a, ha, rfl⟩ | ⟨a, ha, rfl⟩ | none := lead_cases b
  · rw [decodeFrom_whole (lead_one one)] at h
    obtain ⟨s', read, rfl⟩ := map_eq_ok_iff.1 h
    exact ⟨v, r, s', _, by omega, by rw [bytesOf_one one]; rfl, rfl, read⟩
  · rw [decodeFrom_opens (lead_two ha)] at h
    obtain ⟨d, ds, r', s', position', rfl, length, -, small, rfl, read⟩ :=
      exists_laterBytes ⟨UInt8.le_refl _, UInt8.le_refl _⟩ h
    obtain rfl : ds = [] := List.length_eq_zero_iff.1 length
    have hd : d < 64 := small d (by simp)
    refine ⟨addSix a d, r', s', position', ?_, by rw [bytesOf_two ha hd]; rfl, rfl, read⟩
    unfold addSix
    omega
  · rw [decodeFrom_opens (lead_three ha)] at h
    obtain ⟨d, ds, r', s', position', rfl, length, range, small, rfl, read⟩ :=
      exists_laterBytes (tightened_range (by decide) (by decide) _ _) h
    obtain ⟨e, rfl⟩ : ∃ e, ds = [e] := List.length_eq_one_iff.1 length
    have hd : d < 64 := small d (by simp)
    have he : e < 64 := small e (by simp)
    have second := (second_of_three_iff hd).1 range
    refine ⟨addSix (addSix a d) e, r', s', position', ?_,
      by rw [bytesOf_three ha hd he second.1]; rfl, rfl, read⟩
    unfold addSix
    omega
  · rw [decodeFrom_opens (lead_four ha)] at h
    obtain ⟨d, ds, r', s', position', rfl, length, range, small, rfl, read⟩ :=
      exists_laterBytes (tightened_range (by decide) (by decide) _ _) h
    obtain ⟨e, f, rfl⟩ : ∃ e f, ds = [e, f] := List.length_eq_two.1 length
    have hd : d < 64 := small d (by simp)
    have he : e < 64 := small e (by simp)
    have hf : f < 64 := small f (by simp)
    have second := (second_of_four_iff hd).1 range
    refine ⟨addSix (addSix (addSix a d) e) f, r', s', position', ?_,
      by rw [bytesOf_four (by omega) hd he hf second.1]; rfl, rfl, read⟩
    unfold addSix
    omega
  · rw [decodeFrom, none] at h
    simp at h

/-! ### Whole texts -/

/-- A text is encoded character by character, so induction on the text is induction on its bytes. -/
theorem encode_cons (c : Char) (s : List Char) : encode (c :: s) = bytesOf c.toNat ++ encode s :=
  rfl

/-- What is encoded is decoded. -/
theorem decodeFrom_encode (s : List Char) (position : Nat) :
    decodeFrom position none (encode s) = .ok s := by
  induction s generalizing position with
  | nil => rfl
  | cons c s ih =>
    obtain ⟨position', read⟩ := decodeFrom_bytesOf (toNat_range c) position (encode s)
    rw [encode_cons, read, ih, Char.ofNat_toNat]
    rfl

/-- What is decoded was encoded: the bytes are the form of the text that is read from them. -/
theorem encode_of_decodeFrom (h : decodeFrom position none r = .ok s) : encode s = r := by
  induction s generalizing position r with
  | nil =>
    cases r with
    | nil => rfl
    | cons b r =>
      obtain ⟨v, r', s', position', -, -, more, -⟩ := exists_of_decodeFrom h
      simp at more
  | cons c s ih =>
    cases r with
    | nil => simp [decodeFrom] at h
    | cons b r =>
      obtain ⟨v, r', s', position', valid, bytes, more, read⟩ := exists_of_decodeFrom h
      obtain ⟨rfl, rfl⟩ := List.cons.inj more
      rw [encode_cons, toNat_ofNat valid, ih read, bytes]

/-- **Bytes are decoded to a text exactly when the text is encoded as them.** So decoding accepts no
second form of any text. -/
theorem decode_eq_ok_iff : decode r = .ok s ↔ encode s = r :=
  ⟨encode_of_decodeFrom, fun h ↦ h ▸ decodeFrom_encode s 0⟩

/-- Bytes are refused exactly when no text is encoded as them. -/
theorem exists_decode_eq_error_iff : (∃ e, decode r = .error e) ↔ ∀ s, encode s ≠ r := by
  simp only [ne_eq, ← decode_eq_ok_iff]
  cases decode r <;> simp

end AwsCredentials.Text.Utf8
