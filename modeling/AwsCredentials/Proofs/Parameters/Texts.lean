import AwsCredentials.Proofs.Parameters.Merge
import AwsCredentials.Proofs.Text.Blank
import Mathlib.Data.List.Nodup

/-!
# Mappings of texts

Configuration files give texts and nothing else. A mapping of texts always makes a parameter set,
and one whose texts are trimmed (`ofMapping_of_ofTexts`). In return every parameter set with trimmed
texts can be written down: `ParameterSet.mapping` has an entry under the key of each field that is
set, and `ofMapping_mapping` reads the set back from it.

The texts of a set go under labels of the reader's choice in `ParameterSet.entries`, since a mapping
that is read has the names in the place of the keys.
-/

namespace AwsCredentials

/-! ### Texts under any names -/

namespace Mapping

/-- All values of a mapping are texts, as they are where it comes from a file of configurations. -/
def OfTexts (m : Mapping) : Prop :=
  ∀ e ∈ m, ∃ s, e.2 = .text s

/-- A mapping under keys: every entry is under the key of a field, and no two are under the same. -/
structure IsKeyed (m : Mapping) : Prop where
  /-- Every entry is under a key. -/
  exists_key : ∀ e ∈ m, ∃ f : Field, e.1 = f.key
  /-- No two entries are under the same key. -/
  nodup : (m.map Prod.fst).Nodup

variable {m : Mapping}

/-- A value that is found was given, if perhaps under a key: nothing is made up where keys are
replaced by names. -/
theorem exists_mem_of_value? {f : Field} {v : Value} (h : m.value? f = some v) :
    ∃ e ∈ m, e.2 = v := by
  rw [value?_eq_named?] at h
  obtain ⟨e, he, rfl⟩ := Option.map_eq_some_iff.1 h
  have given := Dictionary.mem_of_mem_ofList (List.mem_of_find?_eq_some he)
  obtain ⟨e', he', rfl⟩ := List.mem_map.1 given
  exact ⟨e', he', rfl⟩

/-- A value that a mapping gives beside the environment was given in it, under the name or under the
key. -/
theorem exists_mem_of_explicitValue? {f : Field} {v : Value} (h : m.explicitValue? f = some v) :
    ∃ e ∈ m, e.2 = v := by
  have under_name (named : m.named? f = some v) : ∃ e ∈ m, e.2 = v := by
    obtain ⟨e, he, rfl⟩ := Option.map_eq_some_iff.1 named
    exact ⟨e, List.mem_of_find?_eq_some he, rfl⟩
  unfold explicitValue? at h
  split at h
  · exact under_name h
  · rcases Option.or_eq_some_iff.1 h with under_key | ⟨-, named⟩
    · obtain ⟨e, last, rfl⟩ := Option.map_eq_some_iff.1 under_key
      exact ⟨e, (Dictionary.mem_of_last? last).1, rfl⟩
    · exact under_name named

end Mapping

namespace ParameterSet

/-- All texts of a parameter set are trimmed, so that none of them is empty. -/
def IsTrimmed (p : ParameterSet) : Prop :=
  ∀ f s, p.text f = some s → Text.IsTrimmed s

/-- A field has no value, or one of the mapping. What holds of the values of a mapping thus holds of
those of the fields. -/
theorem mappingValue_cases (m : Mapping) (f : Field) :
    mappingValue m f = .absent ∨ ∃ v ∈ m, v.2 = mappingValue m f := by
  unfold mappingValue
  cases h : m.value? f with
  | none => exact .inl rfl
  | some v => exact .inr (Mapping.exists_mem_of_value? h)

/-- A field has no value, or a text of the environment, or a value of the mapping. There is no
fourth source. -/
theorem layeredValue_cases (m : Mapping) (e : Environment) (f : Field) :
    layeredValue m e f = .absent ∨ (∃ s, layeredValue m e f = .text s) ∨
      ∃ v ∈ m, v.2 = layeredValue m e f := by
  rw [layeredValue, Mapping.valueBeside_eq]
  cases h : m.explicitValue? f with
  | some v => exact .inr (.inr (Mapping.exists_mem_of_explicitValue? h))
  | none =>
    cases e.value? f with
    | none => exact .inl rfl
    | some s => exact .inr (.inl ⟨s, rfl⟩)

/-- A mapping of texts gives each field a text or nothing, and never a value that could be at
fault. -/
theorem mappingValue_of_ofTexts {m : Mapping} (h : m.OfTexts) (f : Field) :
    mappingValue m f = .absent ∨ ∃ s, mappingValue m f = .text s :=
  (mappingValue_cases m f).imp_right fun ⟨v, hv, same⟩ ↦ same ▸ h v hv

/-- Beside an environment too, a mapping of texts gives every field a text or nothing. -/
theorem layeredValue_of_ofTexts {m : Mapping} (h : m.OfTexts) (e : Environment) (f : Field) :
    layeredValue m e f = .absent ∨ ∃ s, layeredValue m e f = .text s :=
  (layeredValue_cases m e f).imp_right fun given ↦
    given.elim id fun ⟨v, hv, same⟩ ↦ same ▸ h v hv

/-- Where every field is given a text or nothing, the set is built, and its texts are trimmed. -/
theorem ofValues_of_texts {value : Field → Value}
    (h : ∀ f, value f = .absent ∨ ∃ s, value f = .text s) :
    ofValues value = .ok ⟨textOf value⟩ ∧ IsTrimmed ⟨textOf value⟩ := by
  constructor
  · have sound : faults value = [] := by
      refine List.filterMap_eq_nil_iff.2 fun f _ ↦ ?_
      rcases h f with hv | ⟨s, hv⟩ <;> simp [hv, Value.normalise]
    rw [ofValues, sound]
  · intro f s hs
    rcases h f with hv | ⟨t, hv⟩
    · simp [textOf, hv, Value.normalise] at hs
    · exact Value.isTrimmed_of_nonBlank (by simpa [textOf, hv, Value.normalise] using hs)

/-- **A mapping of texts makes a parameter set, and one with trimmed texts**, whatever the names and
the texts are. -/
theorem ofMapping_of_ofTexts {m : Mapping} (h : m.OfTexts) :
    ∃ p, ofMapping m = .ok p ∧ p.IsTrimmed :=
  ⟨_, ofValues_of_texts (mappingValue_of_ofTexts h)⟩

/-- **A mapping of texts makes a parameter set beside any environment too**, since the environment
holds texts only. -/
theorem ofLayers_of_ofTexts {m : Mapping} (h : m.OfTexts) (e : Environment) :
    ∃ p, ofLayers m e = .ok p ∧ p.IsTrimmed :=
  ⟨_, ofValues_of_texts (layeredValue_of_ofTexts h e)⟩

/-! ### The mapping of a parameter set -/

variable (p : ParameterSet)

/-- The texts of a parameter set, each under the label of its field. -/
def entries (label : Field → String) : Mapping :=
  Field.all.filterMap fun f ↦ (p.text f).map fun s ↦ (label f, .text s)

/-- The texts of a parameter set under the keys of the fields. -/
def mapping : Mapping :=
  p.entries Field.key

variable {p} {label : Field → String}

theorem mem_entries_iff {e : String × Value} :
    e ∈ p.entries label ↔ ∃ f s, p.text f = some s ∧ (label f, .text s) = e := by
  simp only [entries, List.mem_filterMap, Option.map_eq_some_iff]
  exact exists_congr fun f ↦ and_iff_right (Field.mem_all f)

/-- Different labels make different entries, so that none of them replaces another. -/
theorem nodup_entries (h : ∀ f g, label f = label g → f = g) :
    ((p.entries label).map Prod.fst).Nodup := by
  rw [entries, List.map_filterMap]
  refine List.Nodup.filterMap (fun f g k hf hg ↦ h f g ?_) (by decide)
  simp only [Option.map_map, Option.mem_def, Option.map_eq_some_iff] at hf hg
  obtain ⟨_, -, rfl⟩ := hf
  obtain ⟨_, -, hg⟩ := hg
  exact hg.symm

theorem ofTexts_mapping (p : ParameterSet) : p.mapping.OfTexts := by
  intro e he
  obtain ⟨f, s, -, rfl⟩ := mem_entries_iff.1 he
  exact ⟨s, rfl⟩

theorem isKeyed_mapping (p : ParameterSet) : p.mapping.IsKeyed where
  exists_key e he := by
    obtain ⟨f, s, -, rfl⟩ := mem_entries_iff.1 he
    exact ⟨f, rfl⟩
  nodup := nodup_entries fun _ _ ↦ Field.eq_of_key_eq

/-- Texts under names or keys are read as texts under names, in the same order. -/
theorem byName_entries (hl : ∀ f, Mapping.nameOf (label f) = f.name) :
    (p.entries label).byName = p.entries Field.name := by
  have renamed :
      (p.entries label).map (fun e ↦ (Mapping.nameOf e.1, e.2)) = p.entries Field.name := by
    simp only [entries, List.map_filterMap, Option.map_map, Function.comp_def, hl]
  rw [Mapping.byName, renamed]
  exact Dictionary.entries_ofList (nodup_entries fun _ _ ↦ Field.eq_of_name_eq)

/-- The texts under the names give each field its text. The name of a field is no variant of that of
another. -/
theorem named?_entries (p : ParameterSet) (f : Field) :
    (p.entries Field.name).named? f = (p.text f).map .text := by
  rw [Mapping.named?]
  -- The entries are listed under exact names, and a name is a variant of itself alone.
  cases found : (p.entries Field.name).find? fun e ↦ decide (Text.IsVariantOf e.1 f.name) with
  | some e =>
    obtain ⟨g, s, hs, rfl⟩ := mem_entries_iff.1 (List.mem_of_find?_eq_some found)
    have variant : Text.IsVariantOf g.name f.name := by simpa using List.find?_some found
    obtain rfl := Field.isVariantOf_name_iff.1 variant
    rw [hs]
    rfl
  | none =>
    cases hs : p.text f with
    | none => rfl
    | some s =>
      have given : (f.name, Value.text s) ∈ p.entries Field.name :=
        mem_entries_iff.2 ⟨f, s, hs, rfl⟩
      have passed := List.find?_eq_none.1 found _ given
      exact absurd (decide_eq_true (Field.isVariantOf_name_iff.2 rfl)) passed

/-- The texts under names or keys give each field its text, since keys are replaced by names
first. -/
theorem value?_entries (hl : ∀ f, Mapping.nameOf (label f) = f.name) (f : Field) :
    (p.entries label).value? f = (p.text f).map .text := by
  rw [Mapping.value?_eq_named?, byName_entries hl, named?_entries]

/-- A trimmed text is held as it is, and no text makes none. -/
theorem IsTrimmed.normalise (h : p.IsTrimmed) (f : Field) :
    (((p.text f).map Value.text).getD .absent).normalise f = .ok (p.text f) := by
  cases hs : p.text f with
  | none => rfl
  | some s => simp [Value.normalise, Value.nonBlank_eq_some (h f s hs)]

/-- **A parameter set with trimmed texts is read back from its texts**, under names or keys. -/
theorem ofMapping_entries (h : p.IsTrimmed) (hl : ∀ f, Mapping.nameOf (label f) = f.name) :
    ofMapping (p.entries label) = .ok p := by
  refine ofValues_eq_ok_iff.2 fun f ↦ ?_
  rw [mappingValue, value?_entries hl]
  exact h.normalise f

/-- A trimmed set is read back from its mapping, where its texts stand under the keys. -/
theorem ofMapping_mapping (h : p.IsTrimmed) : ofMapping p.mapping = .ok p :=
  ofMapping_entries h Mapping.nameOf_key

end ParameterSet

end AwsCredentials
