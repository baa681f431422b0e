/-!
# Dictionaries

A dictionary keeps its entries in the order in which their keys first came. Inserting under a key
that is there already replaces the value and leaves the key in its place, so the keys are always
distinct.

* `Dictionary.insert` is the only way to add; `Dictionary.ofList` inserts the pairs of a list in
  order.
* `get?_insert` says what a look-up finds after an insertion, and `keys_insert` what happens to the
  order.
* `entries_ofList` says that nothing is lost or moved when the keys of a list are distinct.
-/

namespace AwsCredentials

/-- Entries with distinct keys, in the order in which the keys first came. -/
structure Dictionary (α β : Type) where
  /-- The entries, oldest key first. -/
  entries : List (α × β)
  /-- No key has two entries. -/
  nodup_keys : (entries.map Prod.fst).Nodup

namespace Dictionary

variable {α β : Type}

/-- Dictionaries with the same entries are equal, since that their keys are distinct is no further
data. -/
@[ext]
theorem ext_entries {d e : Dictionary α β} (h : d.entries = e.entries) : d = e := by
  cases d
  cases e
  congr

/-- The dictionary without entries, from which all others are made by insertions. -/
def empty : Dictionary α β :=
  ⟨[], List.nodup_nil⟩

/-- The keys, oldest first: a key stays at the place where it first came. -/
def keys (d : Dictionary α β) : List α :=
  d.entries.map Prod.fst

variable [DecidableEq α]

/-- The first value under a key in a list of entries. In a dictionary it is the only one. -/
def find? (k : α) : List (α × β) → Option β
  | [] => none
  | (a, b) :: r => if a = k then some b else find? k r

/-- The entries after the value under a key is set: in the key's place, or at the end. -/
def put (k : α) (v : β) : List (α × β) → List (α × β)
  | [] => [(k, v)]
  | (a, b) :: r => if a = k then (a, v) :: r else (a, b) :: put k v r

/-- Setting a value leaves the keys as they are, or adds the key at the end. -/
theorem map_fst_put (k : α) (v : β) (l : List (α × β)) :
    (put k v l).map Prod.fst =
      if k ∈ l.map Prod.fst then l.map Prod.fst else l.map Prod.fst ++ [k] := by
  induction l with
  | nil => rfl
  | cons e r ih =>
    by_cases h : e.1 = k
    · simp [put, h]
    · have h' : ¬k = e.1 := fun hk ↦ h hk.symm
      by_cases hr : k ∈ r.map Prod.fst <;> simp_all [put]

/-- The value under a key, or none if the key is not there. -/
def get? (d : Dictionary α β) (k : α) : Option β :=
  find? k d.entries

/-- The dictionary with a value set under a key, in the place of the old value if there is one, or
else at the end. -/
def insert (d : Dictionary α β) (k : α) (v : β) : Dictionary α β where
  entries := put k v d.entries
  nodup_keys := by
    rw [map_fst_put]
    split
    · exact d.nodup_keys
    · next h =>
      refine List.nodup_append.2 ⟨d.nodup_keys, by simp, ?_⟩
      rintro a ha b hb rfl
      exact h (List.mem_singleton.1 hb ▸ ha)

/-- The dictionary without the entry under a key. The other entries stay in their order. -/
def erase (d : Dictionary α β) (k : α) : Dictionary α β where
  entries := d.entries.filter fun e ↦ decide (e.1 ≠ k)
  nodup_keys := d.nodup_keys.sublist (List.filter_sublist.map _)

/-- The dictionary with the entry under a key, if there is one, in the last place. -/
def moveToEnd (d : Dictionary α β) (k : α) : Dictionary α β :=
  match d.get? k with
  | some v => (d.erase k).insert k v
  | none => d

/-- The dictionary after the pairs of a list are inserted in order, so that the last value under a
key stays. -/
def insertMany (d : Dictionary α β) (pairs : List (α × β)) : Dictionary α β :=
  pairs.foldl (fun d p ↦ d.insert p.1 p.2) d

/-- The dictionary of the pairs of a list, a later pair replacing an earlier one. -/
def ofList (pairs : List (α × β)) : Dictionary α β :=
  empty.insertMany pairs

/-! ### What an insertion does -/

@[simp]
theorem get?_empty (k : α) : (empty : Dictionary α β).get? k = none :=
  rfl

/-- A look-up after an insertion finds the new value under its key and all else as before. -/
theorem get?_insert (d : Dictionary α β) (k j : α) (v : β) :
    (d.insert k v).get? j = if k = j then some v else d.get? j := by
  have key (l : List (α × β)) : find? j (put k v l) = if k = j then some v else find? j l := by
    induction l with
    | nil => rfl
    | cons e r ih =>
      by_cases h : e.1 = k
      · by_cases hj : k = j <;> simp_all [put, find?]
      · by_cases hj : k = j <;> by_cases he : e.1 = j <;> simp_all [put, find?]
  exact key d.entries

/-- An insertion leaves the keys as they are, or adds its key at the end. -/
theorem keys_insert (d : Dictionary α β) (k : α) (v : β) :
    (d.insert k v).keys = if k ∈ d.keys then d.keys else d.keys ++ [k] :=
  map_fst_put k v d.entries

@[simp]
theorem insertMany_nil (d : Dictionary α β) : d.insertMany [] = d :=
  rfl

@[simp]
theorem insertMany_cons (d : Dictionary α β) (p : α × β) (pairs : List (α × β)) :
    d.insertMany (p :: pairs) = (d.insert p.1 p.2).insertMany pairs :=
  rfl

/-- Inserting two lists one after the other is inserting their concatenation, since pairs are
inserted one by one. -/
theorem insertMany_append (d : Dictionary α β) (p q : List (α × β)) :
    d.insertMany (p ++ q) = (d.insertMany p).insertMany q := by
  simp [insertMany]

/-! ### The entries of a list -/

/-- Setting a value adds the one entry and no other: every entry that is there afterwards is the new
one or was there before. -/
theorem mem_put {k : α} {v : β} {l : List (α × β)} {e : α × β} (h : e ∈ put k v l) :
    e = (k, v) ∨ e ∈ l := by
  induction l with
  | nil => exact .inl (List.mem_singleton.1 h)
  | cons x r ih =>
    by_cases hk : x.1 = k
    · rcases List.mem_cons.1 (by simpa [put, hk] using h) with he | he
      · exact .inl he
      · exact .inr (List.mem_cons_of_mem _ he)
    · rcases List.mem_cons.1 (by simpa [put, hk] using h) with rfl | he
      · exact .inr List.mem_cons_self
      · exact (ih he).imp_right (List.mem_cons_of_mem _)

/-- Inserting the pairs of a list adds no entry but these pairs. -/
theorem mem_entries_insertMany {d : Dictionary α β} {pairs : List (α × β)} {e : α × β}
    (h : e ∈ (d.insertMany pairs).entries) : e ∈ pairs ∨ e ∈ d.entries := by
  induction pairs generalizing d with
  | nil => exact .inr h
  | cons p pairs ih =>
    rcases ih h with he | he
    · exact .inl (List.mem_cons_of_mem _ he)
    · exact (mem_put he).imp_left fun new ↦ List.mem_cons.2 (.inl new)

/-- The entries of a dictionary of pairs are pairs of the list. -/
theorem mem_of_mem_ofList {pairs : List (α × β)} {e : α × β} (h : e ∈ (ofList pairs).entries) :
    e ∈ pairs :=
  (mem_entries_insertMany h).resolve_right List.not_mem_nil

/-- A value under a new key goes to the end. -/
theorem put_of_not_mem {k : α} {v : β} {l : List (α × β)} (h : k ∉ l.map Prod.fst) :
    put k v l = l ++ [(k, v)] := by
  induction l with
  | nil => rfl
  | cons x r ih =>
    rw [List.map_cons, List.mem_cons, not_or] at h
    simp [put, Ne.symm h.1, ih h.2]

/-- Pairs with new and distinct keys are added as they are. -/
theorem entries_insertMany {d : Dictionary α β} {pairs : List (α × β)}
    (h : (d.keys ++ pairs.map Prod.fst).Nodup) :
    (d.insertMany pairs).entries = d.entries ++ pairs := by
  induction pairs generalizing d with
  | nil => simp
  | cons p pairs ih =>
    have fresh : p.1 ∉ d.keys := fun hp ↦
      (List.nodup_append.1 h).2.2 _ hp _ List.mem_cons_self rfl
    have added : (d.insert p.1 p.2).entries = d.entries ++ [p] := put_of_not_mem fresh
    have distinct : ((d.insert p.1 p.2).keys ++ pairs.map Prod.fst).Nodup := by
      simpa [keys, added] using h
    rw [insertMany_cons, ih distinct, added, List.append_assoc]
    rfl

/-- **The entries of a list of pairs with distinct keys are the pairs themselves.** -/
theorem entries_ofList {pairs : List (α × β)} (h : (pairs.map Prod.fst).Nodup) :
    (ofList pairs).entries = pairs :=
  entries_insertMany h

end Dictionary

end AwsCredentials
