import AwsCredentials.Parameters.Source
import AwsCredentials.Proofs.Dictionary

/-!
# What counts among the values that are gathered

When values are gathered from a mapping and the environment, all that decides on a field is in which
order the entries for it end up: keys are replaced by names at the very end, and then the last entry
for the field counts (`Mapping.valueBeside_eq_some_iff`). What that order is follows from the steps
before.

* A field that is given under its exact name has the entry for its name behind the one for its key,
  since it is put last (`Mapping.endsOn_restore_name`).
* A field that is given under its key, but not under its exact name, has the entry for its key
  behind the one for its name. The entry for its name is arranged before all keys, or it is from the
  environment, which comes before the mapping (`Mapping.endsOn_mergeWith_key`).

So the order of precedence is this (`Mapping.valueBeside_eq`): the entries of the mapping come
before the environment, and among them those under the name come first if one of them is under the
exact name, and the one under the key comes first otherwise.
-/

namespace AwsCredentials

open Dictionary (LastUnder EndsOn last?)

/-! ### Names and keys -/

namespace Field

/-- The name of one field is a variant of the name of another only if the fields are the same, since
all names are in small letters. -/
theorem isVariantOf_name_iff {f g : Field} : Text.IsVariantOf g.name f.name ↔ g = f := by
  have small : Text.lower g.name.toList = g.name.toList := by cases g <;> decide
  rw [Text.IsVariantOf, small, String.toList_inj]
  exact ⟨Field.eq_of_name_eq, congrArg _⟩

/-- No key is a name in any letter case, since it has a hyphen. -/
theorem not_isVariantOf_key (g f : Field) : ¬Text.IsVariantOf g.key f.name := by
  have hyphen : '-' ∈ Text.lower g.key.toList := by
    have written : '-' ∈ g.key.toList := by cases g <;> simp [Field.key]
    exact List.mem_map.2 ⟨'-', written, rfl⟩
  have no_hyphen : '-' ∉ f.name.toList := by cases f <;> simp [Field.name]
  intro variant
  rw [variant] at hyphen
  exact no_hyphen hyphen

theorem key_ne_name (g f : Field) : g.key ≠ f.name := by
  intro same
  refine g.not_isVariantOf_key f ?_
  rw [same]
  exact isVariantOf_name_iff.2 rfl

end Field

namespace Mapping

variable {m : Mapping} {e : Environment} {d : Dictionary String Value} {f : Field} {v : Value}
  {s : String}

theorem nameOf_eq_name_iff : nameOf s = f.name ↔ s = f.name ∨ s = f.key := by
  constructor
  · intro h
    unfold nameOf at h
    split at h
    · next g hg =>
      obtain rfl := Field.eq_of_name_eq h
      have key : decide (g.key = s) = true := by simpa using List.find?_some hg
      exact .inr (of_decide_eq_true key).symm
    · exact .inl h
  · rintro (rfl | rfl)
    · exact nameOf_name f
    · exact nameOf_key f

/-- A name is given to a field as it is declared: exactly, or as the key. -/
def Gives (n : String) (f : Field) : Prop :=
  n = f.name ∨ n = f.key

instance (n : String) (f : Field) : Decidable (Gives n f) :=
  inferInstanceAs (Decidable (_ ∨ _))

/-- Where keys are replaced by names, the last entry under the name or the key of a field counts. -/
theorem find?_byName_eq_some_iff :
    Dictionary.find? f.name m.byName = some v ↔ LastUnder (fun n ↦ Gives n f) m v := by
  have renamed := Dictionary.get?_ofList_eq_some_iff (k := f.name) (v := v)
    (l := m.map fun e ↦ (nameOf e.1, e.2))
  refine renamed.trans ?_
  constructor
  · rintro ⟨before, n, after, cut, rfl, last⟩
    obtain ⟨l, r, rfl, -, rest⟩ := List.map_eq_append_iff.1 cut
    obtain ⟨⟨n, v⟩, r, rfl, same, rfl⟩ := List.map_eq_cons_iff.1 rest
    obtain ⟨name, rfl⟩ := Prod.mk.inj same
    refine ⟨l, n, r, rfl, nameOf_eq_name_iff.1 name, fun e he given ↦ ?_⟩
    exact last _ (List.mem_map_of_mem he) (nameOf_eq_name_iff.2 given)
  · rintro ⟨before, n, after, rfl, given, last⟩
    refine ⟨_, _, _, List.map_append .., nameOf_eq_name_iff.2 given, fun x hx name ↦ ?_⟩
    obtain ⟨y, hy, rfl⟩ := List.mem_map.1 hx
    exact last y hy (nameOf_eq_name_iff.1 name)

/-! ### Entries that are given field by field -/

/-- An entry is under the name of a field, and has its value. -/
theorem mem_ofFields_iff {value : Field → Option Value} {x : String × Value} :
    x ∈ ofFields value ↔ ∃ g v, value g = some v ∧ (g.name, v) = x := by
  simp only [ofFields, List.mem_filterMap, Option.map_eq_some_iff]
  exact exists_congr fun g ↦ and_iff_right (Field.mem_all g)

/-- What is given field by field is found under the names of the fields. -/
theorem last?_ofFields_name (value : Field → Option Value) (f : Field) :
    (last? f.name (ofFields value)).map Prod.snd = value f := by
  cases found : last? f.name (ofFields value) with
  | none =>
    cases given : value f with
    | none => rfl
    | some v =>
      have listed : (f.name, v) ∈ ofFields value := mem_ofFields_iff.2 ⟨f, v, given, rfl⟩
      exact absurd (List.mem_map_of_mem listed) (Dictionary.last?_eq_none_iff.1 found)
  | some x =>
    obtain ⟨listed, name⟩ := Dictionary.mem_of_last? found
    obtain ⟨g, v, given, rfl⟩ := mem_ofFields_iff.1 listed
    obtain rfl := Field.eq_of_name_eq name
    exact given.symm

/-- No key is among the names of the fields, so nothing that is given field by field is found under
one. -/
theorem last?_ofFields_key (value : Field → Option Value) (f : Field) :
    last? f.key (ofFields value) = none := by
  refine Dictionary.last?_eq_none_iff.2 fun listed ↦ ?_
  obtain ⟨x, hx, same⟩ := List.mem_map.1 listed
  obtain ⟨g, v, -, rfl⟩ := mem_ofFields_iff.1 hx
  exact f.key_ne_name g same.symm

/-! ### Arranged entries -/

/-- The last value under the key of a field. Keys are written exactly, so all entries under one
replace each other. -/
def keyed? (m : Mapping) (f : Field) : Option Value :=
  (last? f.key m).map Prod.snd

@[simp]
theorem isNamed_name (f : Field) : isNamed f.name = true :=
  List.any_eq_true.2 ⟨f, Field.mem_all f, decide_eq_true (Field.isVariantOf_name_iff.2 rfl)⟩

@[simp]
theorem isNamed_key (f : Field) : isNamed f.key = false :=
  List.any_eq_false.2 fun g _ variant ↦ f.not_isVariantOf_key g (of_decide_eq_true variant)

theorem name_not_mem_others (m : Mapping) (f : Field) : f.name ∉ m.others.map Prod.fst := by
  intro listed
  obtain ⟨x, hx, same⟩ := List.mem_map.1 listed
  have unnamed := (List.mem_filter.1 hx).2
  rw [same, isNamed_name] at unnamed
  exact absurd unnamed (by decide)

theorem last?_others_key (m : Mapping) (f : Field) : last? f.key m.others = last? f.key m := by
  rw [last?, last?, List.findRev?_eq_find?_reverse, List.findRev?_eq_find?_reverse, others,
    ← List.filter_reverse, List.find?_filter]
  congr
  funext x
  by_cases key : x.1 = f.key <;> simp [key]

/-! ### Merged entries -/

/-- Under the name of a field is the value that the mapping has under it, or else that of the
environment. -/
theorem get?_mergeWith_name (m : Mapping) (e : Environment) (f : Field) :
    (m.mergeWith e).get? f.name = (m.named? f).or ((e.value? f).map .text) := by
  have not_other := Dictionary.last?_eq_none_iff.2 (m.name_not_mem_others f)
  rw [mergeWith, arguments, Dictionary.get?_insertMany, Dictionary.get?_ofList,
    Dictionary.last?_append, not_other, Option.none_or, last?_ofFields_name, Environment.entries,
    last?_ofFields_name]

/-- Under the key of a field is the value that the mapping has under it. The environment knows no
keys. -/
theorem get?_mergeWith_key (m : Mapping) (e : Environment) (f : Field) :
    (m.mergeWith e).get? f.key = m.keyed? f := by
  rw [mergeWith, arguments, Dictionary.get?_insertMany, Dictionary.get?_ofList,
    Dictionary.last?_append, Environment.entries, last?_ofFields_key, last?_ofFields_key,
    Option.or_none, Option.map_none, Option.or_none, last?_others_key, keyed?]

/-- **A key comes behind the name of its field**, whether the name is from the mapping or from the
environment. -/
theorem endsOn_mergeWith_key (e : Environment) (given : (m.keyed? f).isSome) :
    (m.mergeWith e).EndsOn f.key f.name := by
  have listed : f.key ∈ m.others.map Prod.fst := by
    rw [keyed?, ← last?_others_key, Option.isSome_map] at given
    by_contra unlisted
    rw [Dictionary.last?_eq_none_iff.2 unlisted] at given
    exact absurd given (by decide)
  have fresh : f.key ∉ ((Dictionary.ofList e.entries).insertMany (ofFields m.named?)).keys := by
    rw [← Dictionary.isSome_get?_iff, Dictionary.get?_insertMany, Dictionary.get?_ofList,
      Environment.entries, last?_ofFields_key, last?_ofFields_key]
    simp
  rw [mergeWith, arguments, Dictionary.insertMany_append]
  exact Dictionary.endsOn_insertMany listed fresh (m.name_not_mem_others f)

/-! ### Entries that are put last -/

theorem get?_foldl_restoreField (m : Mapping) (fs : List Field) (d : Dictionary String Value)
    (n : String) : (fs.foldl m.restoreField d).get? n = d.get? n := by
  induction fs generalizing d with
  | nil => rfl
  | cons g fs ih =>
    rw [List.foldl_cons, ih, restoreField]
    split
    · exact d.get?_moveToEnd g.name n
    · rfl

theorem get?_restore (m : Mapping) (d : Dictionary String Value) (n : String) :
    (m.restore d).get? n = d.get? n :=
  get?_foldl_restoreField m Field.all d n

/-- The order of two keys stays as it is if no single field that is put last disturbs it. -/
theorem endsOn_foldl_restoreField {k j : String}
    (kept : ∀ (g : Field) (d : Dictionary String Value), m.hasName g = true → d.EndsOn k j →
      (d.moveToEnd g.name).EndsOn k j)
    (fs : List Field) (h : d.EndsOn k j) : (fs.foldl m.restoreField d).EndsOn k j := by
  induction fs generalizing d with
  | nil => exact h
  | cons g fs ih =>
    refine ih ?_
    unfold restoreField
    split
    · next given => exact kept g d given h
    · exact h

/-- **A field that is given under its exact name has its name behind its key.** -/
theorem endsOn_restore_name (given : m.hasName f = true) (present : f.name ∈ d.keys) :
    (m.restore d).EndsOn f.name f.key := by
  obtain ⟨before, after, cut⟩ := List.append_of_mem (Field.mem_all f)
  have still_present : f.name ∈ (before.foldl m.restoreField d).keys := by
    rw [← Dictionary.isSome_get?_iff, get?_foldl_restoreField, Dictionary.isSome_get?_iff]
    exact present
  have put_last : (m.restoreField (before.foldl m.restoreField d) f).EndsOn f.name f.key := by
    rw [restoreField, if_pos given]
    exact Dictionary.endsOn_moveToEnd still_present
  rw [restore, cut, List.foldl_append, List.foldl_cons]
  refine endsOn_foldl_restoreField (fun g d _ behind ↦ ?_) after put_last
  -- What is put last is a name and never a key.
  by_cases same : g = f
  · subst same
    exact Dictionary.endsOn_moveToEnd behind.mem
  · exact behind.moveToEnd (fun name ↦ same (Field.eq_of_name_eq name)) (f.key_ne_name g).symm

/-- A field that is not given under its exact name keeps its key behind its name. -/
theorem endsOn_restore_key (unnamed : m.hasName f = false) (h : d.EndsOn f.key f.name) :
    (m.restore d).EndsOn f.key f.name := by
  refine endsOn_foldl_restoreField (fun g d given behind ↦ ?_) Field.all h
  have other : g ≠ f := by
    rintro rfl
    simp [unnamed] at given
  exact behind.moveToEnd (f.key_ne_name g).symm fun name ↦ other (Field.eq_of_name_eq name)

/-! ### The order of precedence -/

/-- **What counts is the last entry under the name or the key of a field**, once all entries are
gathered. -/
theorem valueBeside_eq_some_iff :
    m.valueBeside e f = some v ↔
      LastUnder (fun n ↦ Gives n f) (m.restore (m.mergeWith e)).entries v :=
  find?_byName_eq_some_iff

/-- Where the name of a field has its key before it, the value under the name counts. -/
theorem valueBeside_of_name (last : (m.restore (m.mergeWith e)).EndsOn f.name f.key) :
    m.valueBeside e f = (m.named? f).or ((e.value? f).map .text) := by
  obtain ⟨v, found, last⟩ := last.exists_lastUnder
  rw [get?_restore, get?_mergeWith_name] at found
  rw [valueBeside_eq_some_iff.2 last, found]

/-- Where the key of a field has its name before it, the value under the key counts. -/
theorem valueBeside_of_key (last : (m.restore (m.mergeWith e)).EndsOn f.key f.name) :
    m.valueBeside e f = m.keyed? f := by
  obtain ⟨v, found, before, n, after, cut, given, last⟩ := last.exists_lastUnder
  rw [get?_restore, get?_mergeWith_key] at found
  rw [found]
  exact valueBeside_eq_some_iff.2
    ⟨before, n, after, cut, given.symm, fun x hx either ↦ last x hx either.symm⟩

/-- Without a value under the key, the value under the name counts, if there is one. -/
theorem valueBeside_of_keyed?_eq_none (no_key : m.keyed? f = none) :
    m.valueBeside e f = (m.named? f).or ((e.value? f).map .text) := by
  have key_absent : f.key ∉ (m.restore (m.mergeWith e)).keys := by
    rw [← Dictionary.isSome_get?_iff, get?_restore, get?_mergeWith_key, no_key]
    exact Bool.false_ne_true
  -- Without a key, the name alone can be found among the merged keys; if it is not there either,
  -- neither source says anything.
  by_cases present : f.name ∈ (m.restore (m.mergeWith e)).keys
  · exact valueBeside_of_name (Dictionary.endsOn_of_not_mem present key_absent)
  · have nothing : (m.named? f).or ((e.value? f).map .text) = none := by
      rw [← get?_mergeWith_name, ← m.get?_restore]
      exact Option.not_isSome_iff_eq_none.1 (mt Dictionary.isSome_get?_iff.1 present)
    rw [nothing]
    refine Option.eq_none_iff_forall_not_mem.2 fun v found ↦ ?_
    obtain ⟨before, n, after, cut, given, -⟩ := valueBeside_eq_some_iff.1 found
    have listed : n ∈ (m.restore (m.mergeWith e)).keys := by simp [Dictionary.keys, cut]
    rcases given with rfl | rfl
    · exact present listed
    · exact key_absent listed

/-- A field that is given under its exact name is given under its name, the exact one being among
the variants. -/
theorem isSome_named?_of_hasName (given : m.hasName f = true) : (m.named? f).isSome := by
  obtain ⟨x, hx, name⟩ := List.any_eq_true.1 given
  rw [named?, Option.isSome_map, List.find?_isSome]
  refine ⟨x, hx, decide_eq_true ?_⟩
  rw [of_decide_eq_true name]
  exact Field.isVariantOf_name_iff.2 rfl

/-- The value that a mapping gives to a field beside any environment: the one under the name, if the
exact name occurs, or else the one under the key, or else again the one under the name. -/
def explicitValue? (m : Mapping) (f : Field) : Option Value :=
  if m.hasName f then m.named? f else (m.keyed? f).or (m.named? f)

/-- **The order of precedence**: the mapping comes before the environment, and its entries under the
name of a field come before the one under the key only where the exact name occurs. -/
theorem valueBeside_eq (m : Mapping) (e : Environment) (f : Field) :
    m.valueBeside e f = (m.explicitValue? f).or ((e.value? f).map .text) := by
  rw [explicitValue?]
  -- Which of the two keys is translated last depends on whether the name was given: if it was, it
  -- was moved behind the key, and if not, the key of the mapping stands behind the name.
  cases given : m.hasName f with
  | true =>
    have merged : f.name ∈ (m.mergeWith e).keys := by
      rw [← Dictionary.isSome_get?_iff, get?_mergeWith_name, Option.isSome_or,
        isSome_named?_of_hasName given, Bool.true_or]
    exact valueBeside_of_name (endsOn_restore_name given merged)
  | false =>
    cases under_key : m.keyed? f with
    | some v =>
      have behind := endsOn_mergeWith_key e (Option.isSome_of_eq_some under_key)
      rw [valueBeside_of_key (endsOn_restore_key given behind), under_key]
      rfl
    | none => exact valueBeside_of_keyed?_eq_none under_key

/-! ### Mappings that are read alone -/

/-- A field that is not given under its key goes by its name, whether the exact one occurs or
not. -/
theorem explicitValue?_of_keyed?_eq_none (h : m.keyed? f = none) :
    m.explicitValue? f = m.named? f := by
  simp [explicitValue?, h]

/-- A field that is given under its exact name does not go by its key, even if this comes later in
the mapping. -/
theorem explicitValue?_of_hasName (h : m.hasName f = true) : m.explicitValue? f = m.named? f :=
  if_pos h

/-- No key is left where keys were replaced by names, since no name is a key. -/
theorem keyed?_byName (m : Mapping) (f : Field) : m.byName.keyed? f = none := by
  rw [keyed?, Dictionary.last?_eq_none_iff.2, Option.map_none]
  intro listed
  obtain ⟨x, hx, key⟩ := List.mem_map.1 listed
  obtain ⟨y, -, rfl⟩ := List.mem_map.1 (Dictionary.mem_of_mem_ofList hx)
  have replaced : nameOf y.1 = f.key := key
  unfold nameOf at replaced
  split at replaced
  · exact f.key_ne_name _ replaced.symm
  · next unknown =>
    rw [replaced, Field.ofKey?_key] at unknown
    exact Option.some_ne_none f unknown

/-- **A mapping that is read alone goes by names**, once its keys are replaced by these. -/
theorem value?_eq_named? (m : Mapping) (f : Field) : m.value? f = m.byName.named? f := by
  have no_environment : (Environment.value? [] f).map Value.text = none := rfl
  rw [value?, valueBeside_eq, explicitValue?_of_keyed?_eq_none (m.keyed?_byName f), no_environment,
    Option.or_none]

end Mapping

end AwsCredentials
