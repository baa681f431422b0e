import AwsCredentials.Dictionary
import Mathlib.Data.List.Induction
import Mathlib.Data.List.Nodup

/-!
# The order of a dictionary

A dictionary of a list has each key where it first came and the value that came last under it
(`get?_ofList_eq_some_iff`). A search among selected keys shows both at once: what it finds first is
the selected key that comes first in the list, with the value that comes last under that key
(`find?_entries_ofList`).

Which pair of a list is the first or the last under selected keys is told by its place in the list
(`FirstUnder`, `LastUnder`), and a search from either end finds it.

The induction is on the end of the list, where the last pair either replaces a value or is new
(`find?_put`).

`update` sets all entries of another dictionary. They do there what the pairs of a list do that the
other one is a dictionary of (`update_ofList`), since of two values set under one key only the place
of the first and the second value remain.

Which of two keys comes last is told by `EndsOn`. A key that is moved to the end comes after every
other one (`endsOn_moveToEnd`), so does a key that is added after the other was
(`endsOn_insertMany`), and neither order is disturbed when a third key is moved. Under two keys, the
value that counts is the one under the key that comes last (`EndsOn.exists_lastUnder`).
-/

namespace AwsCredentials.Dictionary

variable {α β : Type}

/-! ### First and last values -/

section

variable {P : α → Prop} {l : List (α × β)} {v : β}

/-- The first pair whose key is selected has this value: no pair before it has a selected key. -/
def FirstUnder (P : α → Prop) (l : List (α × β)) (v : β) : Prop :=
  ∃ before k after, l = before ++ (k, v) :: after ∧ P k ∧ ∀ e ∈ before, ¬P e.1

/-- The last pair whose key is selected has this value: no pair after it has a selected key. -/
def LastUnder (P : α → Prop) (l : List (α × β)) (v : β) : Prop :=
  ∃ before k after, l = before ++ (k, v) :: after ∧ P k ∧ ∀ e ∈ after, ¬P e.1

theorem firstUnder_reverse : FirstUnder P l.reverse v ↔ LastUnder P l v := by
  constructor
  · rintro ⟨before, k, after, cut, selected, unselected⟩
    refine ⟨after.reverse, k, before.reverse, ?_, selected, by simpa using unselected⟩
    simpa using congrArg List.reverse cut
  · rintro ⟨before, k, after, rfl, selected, unselected⟩
    exact ⟨after.reverse, k, before.reverse, by simp, selected, by simpa using unselected⟩

variable [DecidablePred P]

/-- A search from the front finds the first value, so there is at most one such value. -/
theorem find?_eq_some_iff :
    (l.find? fun e ↦ decide (P e.1)).map Prod.snd = some v ↔ FirstUnder P l v := by
  rw [Option.map_eq_some_iff]
  constructor
  · rintro ⟨e, found, rfl⟩
    obtain ⟨selected, before, after, cut, unselected⟩ := List.find?_eq_some_iff_append.1 found
    exact ⟨before, e.1, after, cut, of_decide_eq_true selected, by simpa using unselected⟩
  · rintro ⟨before, k, after, cut, selected, unselected⟩
    refine ⟨(k, v), List.find?_eq_some_iff_append.2 ⟨decide_eq_true selected, ?_⟩, rfl⟩
    exact ⟨before, after, cut, by simpa using unselected⟩

/-- A search from the end finds the last value. It is a search of the reversed list from the
front. -/
theorem findRev?_eq_some_iff :
    (l.findRev? fun e ↦ decide (P e.1)).map Prod.snd = some v ↔ LastUnder P l v := by
  rw [List.findRev?_eq_find?_reverse, find?_eq_some_iff, firstUnder_reverse]

end

/-! ### Look-ups -/

variable [DecidableEq α]

/-- The last pair under a key in a list of pairs, which is the one that counts in the dictionary of
the list. -/
def last? (k : α) (l : List (α × β)) : Option (α × β) :=
  l.findRev? fun e ↦ e.1 = k

theorem last?_append (k : α) (l r : List (α × β)) :
    last? k (l ++ r) = (last? k r).or (last? k l) := by
  simp [last?, List.findRev?_eq_find?_reverse]

theorem last?_singleton (k : α) (e : α × β) :
    last? k [e] = if e.1 = k then some e else none := by
  by_cases h : e.1 = k <;> simp [last?, List.findRev?_eq_find?_reverse, h]

/-- The last pair under a key is a pair of the list, under this key. -/
theorem mem_of_last? {k : α} {l : List (α × β)} {e : α × β} (h : last? k l = some e) :
    e ∈ l ∧ e.1 = k := by
  rw [last?, List.findRev?_eq_find?_reverse] at h
  exact ⟨List.mem_reverse.1 (List.mem_of_find?_eq_some h),
    of_decide_eq_true (List.find?_some (p := fun e : α × β ↦ decide (e.1 = k)) h)⟩

/-- Without a pair under a key there is no last one, and otherwise there is. -/
theorem last?_eq_none_iff {k : α} {l : List (α × β)} :
    last? k l = none ↔ k ∉ l.map Prod.fst := by
  rw [last?, List.findRev?_eq_find?_reverse, List.find?_eq_none]
  simp only [List.mem_reverse, decide_eq_true_eq, List.mem_map, not_exists, not_and]

/-- Under the key of a pair there is a last pair, be it this one or a later one. -/
theorem exists_last?_of_mem {e : α × β} {l : List (α × β)} (h : e ∈ l) :
    ∃ v, last? e.1 l = some (e.1, v) := by
  induction l using List.reverseRecOn with
  | nil => simp at h
  | append_singleton l x ih =>
    rw [last?_append, last?_singleton]
    by_cases hx : x.1 = e.1
    · exact ⟨x.2, by rw [if_pos hx, ← hx]; rfl⟩
    · have he : e ∈ l := by
        rcases List.mem_append.1 h with he | he
        · exact he
        · exact absurd (congrArg Prod.fst (List.mem_singleton.1 he)).symm hx
      simpa [hx] using ih he

/-- Setting a value changes what a search among selected keys finds only if it finds that key, or
finds nothing else. -/
theorem find?_put (P : α → Bool) (k : α) (v : β) (l : List (α × β)) :
    (put k v l).find? (fun e ↦ P e.1) =
      match l.find? (fun e ↦ P e.1) with
      | none => if P k then some (k, v) else none
      | some e => if e.1 = k then some (k, v) else some e := by
  induction l with
  | nil => cases h : P k <;> simp [put, h]
  | cons x r ih =>
    by_cases hk : x.1 = k
    · subst hk
      -- The entry written over is the first to satisfy `P`, or else any later one has another key.
      cases hx : P x.1 with
      | true => simp [put, hx]
      | false =>
        simp only [put, if_pos, List.find?_cons, hx]
        cases hr : r.find? (fun e ↦ P e.1) with
        | none => simp
        | some e =>
          have he : P e.1 = true := by simpa using List.find?_some hr
          have other : e.1 ≠ x.1 := fun same ↦ by simp [same, hx] at he
          simp [other]
    · cases hx : P x.1 <;> simp [put, hk, hx, ih]

theorem entries_ofList_concat (l : List (α × β)) (e : α × β) :
    (ofList (l ++ [e])).entries = put e.1 e.2 (ofList l).entries := by
  rw [ofList, insertMany_append]
  rfl

/-- A look-up after insertions finds the value that was inserted last under the key, or else the one
that was there before. -/
theorem get?_insertMany (d : Dictionary α β) (k : α) (l : List (α × β)) :
    (d.insertMany l).get? k = ((last? k l).map Prod.snd).or (d.get? k) := by
  induction l using List.reverseRecOn with
  | nil => rfl
  | append_singleton l x ih =>
    have inserted : d.insertMany (l ++ [x]) = (d.insertMany l).insert x.1 x.2 :=
      insertMany_append d l [x]
    rw [inserted, get?_insert, ih, last?_append, last?_singleton]
    split <;> rfl

/-- **A look-up finds the value that came last under its key**, since nothing is there before the
first insertion. -/
theorem get?_ofList (k : α) (l : List (α × β)) :
    (ofList l).get? k = (last? k l).map Prod.snd := by
  rw [ofList, get?_insertMany, get?_empty, Option.or_none]

theorem get?_ofList_eq_some_iff {k : α} {l : List (α × β)} {v : β} :
    (ofList l).get? k = some v ↔ LastUnder (· = k) l v := by
  rw [get?_ofList, last?]
  exact findRev?_eq_some_iff (P := (· = k))

/-- **A search among selected keys finds the one that came first, with its last value.** The two
ends of the list meet here: places are those of first occurrences, values those of last ones. -/
theorem find?_entries_ofList (P : α → Bool) (l : List (α × β)) :
    (ofList l).entries.find? (fun e ↦ P e.1) =
      (l.find? fun e ↦ P e.1).bind fun e ↦ last? e.1 l := by
  induction l using List.reverseRecOn with
  | nil => rfl
  | append_singleton l x ih =>
    rw [entries_ofList_concat, find?_put, ih, List.find?_append]
    cases h : l.find? (fun e ↦ P e.1) with
    | none => cases hx : P x.1 <;> simp [hx, last?_append, last?_singleton]
    | some e =>
      obtain ⟨v, hv⟩ := exists_last?_of_mem (List.mem_of_find?_eq_some h)
      by_cases hx : x.1 = e.1
      · rw [← hx] at hv
        simp [hv, ← hx, last?_append, last?_singleton]
      · simp [hv, hx, Ne.symm hx, last?_append, last?_singleton]

/-! ### The order of keys -/

/-- There is a value under the keys of a dictionary, and under no others, so keys can be spoken of
by look-ups. -/
theorem isSome_get?_iff {d : Dictionary α β} {k : α} : (d.get? k).isSome ↔ k ∈ d.keys := by
  have key (l : List (α × β)) : (find? k l).isSome ↔ k ∈ l.map Prod.fst := by
    induction l with
    | nil => simp [find?]
    | cons e r ih =>
      obtain ⟨a, b⟩ := e
      by_cases h : a = k
      · simp [find?, h]
      · simp [find?, h, Ne.symm h, ih]
  exact key d.entries

/-- Insertions leave the keys in their places and add new ones after them, all of which are keys of
inserted pairs. -/
theorem keys_insertMany (d : Dictionary α β) (l : List (α × β)) :
    ∃ new, (d.insertMany l).keys = d.keys ++ new ∧ new ⊆ l.map Prod.fst := by
  induction l generalizing d with
  | nil => exact ⟨[], (List.append_nil _).symm, List.Subset.refl _⟩
  | cons e l ih =>
    obtain ⟨new, keys, listed⟩ := ih (d.insert e.1 e.2)
    rw [insertMany_cons, keys, keys_insert]
    split
    · exact ⟨new, rfl, List.subset_cons_of_subset _ listed⟩
    · exact ⟨e.1 :: new, List.append_assoc .., List.cons_subset_cons _ listed⟩

theorem keys_erase (d : Dictionary α β) (k : α) :
    (d.erase k).keys = d.keys.filter fun a ↦ decide (a ≠ k) := by
  rw [keys, erase, keys, List.filter_map]
  rfl

theorem get?_erase_of_ne {k j : α} (other : j ≠ k) (d : Dictionary α β) :
    (d.erase k).get? j = d.get? j := by
  have key (l : List (α × β)) : find? j (l.filter fun e ↦ decide (e.1 ≠ k)) = find? j l := by
    induction l with
    | nil => rfl
    | cons e r ih =>
      obtain ⟨a, b⟩ := e
      by_cases h : a = k
      · have not_found : a ≠ j := fun same ↦ other (same.symm.trans h)
        rw [List.filter_cons_of_neg (by simp [h]), ih, find?, if_neg not_found]
      · rw [List.filter_cons_of_pos (by simp [h]), find?, find?, ih]
  exact key d.entries

/-- A key that is there goes to the end of the keys, and the others close the gap in their order. -/
theorem keys_moveToEnd {d : Dictionary α β} {k : α} (present : k ∈ d.keys) :
    (d.moveToEnd k).keys = (d.keys.filter fun a ↦ decide (a ≠ k)) ++ [k] := by
  obtain ⟨v, found⟩ := Option.isSome_iff_exists.1 (isSome_get?_iff.2 present)
  have erased : k ∉ (d.erase k).keys := by simp [keys_erase]
  rw [moveToEnd, found, keys_insert, if_neg erased, keys_erase]

/-- To move an entry changes no value: look-ups do not depend on the order of entries. -/
theorem get?_moveToEnd (d : Dictionary α β) (k j : α) : (d.moveToEnd k).get? j = d.get? j := by
  rw [moveToEnd]
  cases found : d.get? k with
  | none => rfl
  | some v =>
    rw [get?_insert]
    split
    · next same => rw [← same, found]
    · next other => exact get?_erase_of_ne (Ne.symm other) d

/-- Of two keys the first is there, and the second does not come after it. The second may be
missing. -/
def EndsOn (d : Dictionary α β) (k j : α) : Prop :=
  ∃ before after, d.keys = before ++ k :: after ∧ j ∉ after

section

variable {d : Dictionary α β} {k j a : α}

omit [DecidableEq α] in
theorem EndsOn.mem (h : d.EndsOn k j) : k ∈ d.keys := by
  obtain ⟨before, after, cut, -⟩ := h
  simp [cut]

omit [DecidableEq α] in
theorem endsOn_of_not_mem (present : k ∈ d.keys) (absent : j ∉ d.keys) : d.EndsOn k j := by
  obtain ⟨before, after, cut⟩ := List.append_of_mem present
  exact ⟨before, after, cut, fun later ↦ absent (by simp [cut, later])⟩

/-- A key that was moved to the end has no other after it, whichever the other is. -/
theorem endsOn_moveToEnd (present : k ∈ d.keys) : (d.moveToEnd k).EndsOn k j :=
  ⟨_, [], keys_moveToEnd present, List.not_mem_nil⟩

/-- The order of two keys does not change when a third is moved, whether the third is there or
not. -/
theorem EndsOn.moveToEnd (h : d.EndsOn k j) (hk : a ≠ k) (hj : a ≠ j) :
    (d.moveToEnd a).EndsOn k j := by
  by_cases present : a ∈ d.keys
  · obtain ⟨before, after, cut, last⟩ := h
    refine ⟨before.filter fun b ↦ decide (b ≠ a), (after.filter fun b ↦ decide (b ≠ a)) ++ [a],
      ?_, ?_⟩
    · rw [keys_moveToEnd present, cut, List.filter_append, List.filter_cons_of_pos,
        List.append_assoc, List.cons_append]
      exact decide_eq_true (Ne.symm hk)
    · simp [last, Ne.symm hj]
  · have unmoved : d.moveToEnd a = d := by
      rw [Dictionary.moveToEnd, Option.not_isSome_iff_eq_none.1 (mt isSome_get?_iff.1 present)]
    rwa [unmoved]

/-- A key that is added has no key after it that is not added with it. -/
theorem endsOn_insertMany {l : List (α × β)} (listed : k ∈ l.map Prod.fst) (fresh : k ∉ d.keys)
    (unlisted : j ∉ l.map Prod.fst) : (d.insertMany l).EndsOn k j := by
  obtain ⟨new, keys, of_list⟩ := d.keys_insertMany l
  have added : k ∈ (d.insertMany l).keys := by
    rw [← isSome_get?_iff, get?_insertMany, Option.isSome_or]
    obtain ⟨e, he, rfl⟩ := List.mem_map.1 listed
    obtain ⟨v, last⟩ := exists_last?_of_mem he
    simp [last]
  rw [keys, List.mem_append] at added
  obtain ⟨before, after, rfl⟩ := List.append_of_mem (added.resolve_left fresh)
  refine ⟨d.keys ++ before, after, by rw [keys, List.append_assoc], fun later ↦ unlisted ?_⟩
  exact of_list (by simp [later])

/-- Of the entries under two keys the last is that of the key that comes last, since each key has
one entry only. -/
theorem EndsOn.exists_lastUnder (h : d.EndsOn k j) :
    ∃ v, d.get? k = some v ∧ LastUnder (fun n ↦ n = k ∨ n = j) d.entries v := by
  obtain ⟨before, after, cut, last⟩ := h
  have once : k ∉ before ++ after := by
    have distinct := d.nodup_keys
    rw [← keys, cut, List.nodup_middle, List.nodup_cons] at distinct
    exact distinct.1
  obtain ⟨l, r, entries, -, rest⟩ := List.map_eq_append_iff.1 cut
  obtain ⟨⟨x, v⟩, r, rfl, same, rfl⟩ := List.map_eq_cons_iff.1 rest
  obtain rfl : x = k := same
  have later {e : α × β} (he : e ∈ r) : e.1 ∈ r.map Prod.fst := List.mem_map_of_mem he
  -- Keys are distinct, so the last entry under `k` or `j` is the only one under `k`.
  have found : d.get? x = some v := by
    have itself : ofList d.entries = d := ext_entries (entries_ofList d.nodup_keys)
    rw [← itself, get?_ofList_eq_some_iff]
    exact ⟨l, x, r, entries, rfl, fun e he same ↦
      once (List.mem_append_right _ (same ▸ later he))⟩
  refine ⟨v, found, l, x, r, entries, .inl rfl, fun e he ↦ not_or.2 ⟨fun same ↦ ?_, fun same ↦ ?_⟩⟩
  · exact once (List.mem_append_right _ (same ▸ later he))
  · exact last (same ▸ later he)

end

/-! ### Updates -/

/-- Of two values that are set under one key the second stays, in the place of the first. -/
theorem put_put (k : α) (v w : β) (l : List (α × β)) : put k w (put k v l) = put k w l := by
  induction l with
  | nil => simp [put]
  | cons e r ih => by_cases h : e.1 = k <;> simp [put, h, ih]

/-- A value under a key that is there can be set before or after one under another key. -/
theorem put_comm {k a : α} {l : List (α × β)} (present : k ∈ l.map Prod.fst) (other : a ≠ k)
    (v b : β) : put k v (put a b l) = put a b (put k v l) := by
  induction l with
  | nil => simp at present
  | cons e r ih =>
    by_cases hk : e.1 = k
    · have ha : e.1 ≠ a := fun same ↦ other (same.symm.trans hk)
      simp [put, hk, Ne.symm other]
    · have later : k ∈ r.map Prod.fst := by
        rw [List.map_cons, List.mem_cons] at present
        exact present.resolve_left fun same ↦ hk same.symm
      by_cases ha : e.1 = a
      · simp [put, ha, other]
      · simp [put, ha, hk, ih later]

/-- The dictionary with all entries of another one set, in their order. Where both have a key, the
place is that of the first and the value that of the second. -/
def update (d e : Dictionary α β) : Dictionary α β :=
  d.insertMany e.entries

theorem insert_insert (d : Dictionary α β) (k : α) (v w : β) :
    (d.insert k v).insert k w = d.insert k w :=
  ext_entries (put_put k v w d.entries)

/-- Under a key that is there, a value can be set before or after pairs with other keys. -/
theorem insert_insertMany {d : Dictionary α β} {k : α} {pairs : List (α × β)}
    (present : k ∈ d.keys) (others : k ∉ pairs.map Prod.fst) (v : β) :
    (d.insertMany pairs).insert k v = (d.insert k v).insertMany pairs := by
  induction pairs generalizing d with
  | nil => rfl
  | cons p pairs ih =>
    rw [List.map_cons, List.mem_cons, not_or] at others
    have still_present : k ∈ (d.insert p.1 p.2).keys := by
      rw [keys_insert]
      split <;> simp [present]
    have swapped : (d.insert p.1 p.2).insert k v = (d.insert k v).insert p.1 p.2 :=
      ext_entries (put_comm present (Ne.symm others.1) v p.2)
    rw [insertMany_cons, insertMany_cons, ih still_present others.2, swapped]

/-- Setting a value in a list of entries shows as setting it after them. If the key is in the list,
its old value is set first and then replaced, with other keys in between. -/
theorem insertMany_put (d : Dictionary α β) {l : List (α × β)} (distinct : (l.map Prod.fst).Nodup)
    (k : α) (v : β) : d.insertMany (put k v l) = (d.insertMany l).insert k v := by
  induction l generalizing d with
  | nil => rfl
  | cons e r ih =>
    rw [List.map_cons, List.nodup_cons] at distinct
    by_cases h : e.1 = k
    · have present : k ∈ (d.insert k e.2).keys := by
        rw [keys_insert]
        split <;> simp [*]
      rw [put, if_pos h, insertMany_cons, insertMany_cons, h,
        insert_insertMany present (h ▸ distinct.1), insert_insert]
    · rw [put, if_neg h, insertMany_cons, insertMany_cons, ih _ distinct.2]

/-- Earlier values and the order in which values were replaced leave no trace: the entries of a
dictionary do the same as the pairs that it is made of. -/
theorem update_ofList (d : Dictionary α β) (pairs : List (α × β)) :
    d.update (ofList pairs) = d.insertMany pairs := by
  induction pairs using List.reverseRecOn with
  | nil => rfl
  | append_singleton pairs p ih =>
    rw [update] at ih ⊢
    rw [entries_ofList_concat, insertMany_put d (ofList pairs).nodup_keys, ih, insertMany_append]
    rfl

/-- **A dictionary of two lists is that of the first, updated with that of the second.** -/
theorem ofList_append (p q : List (α × β)) : ofList (p ++ q) = (ofList p).update (ofList q) := by
  rw [update_ofList]
  exact insertMany_append empty p q

end AwsCredentials.Dictionary
