import AwsCredentials.Configuration
import AwsCredentials.Proofs.Dictionary
import AwsCredentials.Proofs.Parameters.Texts
import Mathlib.Logic.Relation

/-!
# Canonical mappings

A mapping that is read alone says the same as one with a single entry for each field
(`Mapping.canonical`). An entry is for a field when it goes by the name of the field, in any letter
case, or by its key. Entries under different spellings of one name do not replace each other: the
spelling that comes first counts, and of the entries under it the last decides
(`Mapping.value?_eq_deciding?`). Where every field goes by its exact name or its key only, there is
one spelling, and the last entry decides.

What a mapping says is thus not changed by edits that leave the deciding entries alone, or put a
value in their place that is normalised alike (`Mapping.Edit`). **The main statement**,
`agree_canonical`, has it for any number of edits.
-/

namespace AwsCredentials

/-! ### Values that are normalised alike -/

namespace Value

/-- A value and another that says the same, although the two may be of different types. -/
inductive Restates : Value → Value → Prop
  /-- A truth value and its text. -/
  | flag (b : Bool) : Restates (flag b) (text (if b then "true" else "false"))
  /-- A whole number, unless it is too long, and its decimal text. -/
  | whole {n : Int} (h : Text.digitCount n ≤ Text.maxDigits) :
      Restates (whole n) (text (Text.decimal n))
  /-- A secret and its text. -/
  | secret (s : String) : Restates (secret s) (text s)
  /-- A text and the same with white space around it. -/
  | padded (s : String) {l r : List Char} (hl : ∀ c ∈ l, Text.isBlank c = true)
      (hr : ∀ c ∈ r, Text.isBlank c = true) :
      Restates (text s) (text (String.ofList (l ++ s.toList ++ r)))
  /-- A blank text and no value. -/
  | blank {s : String} (h : Text.strip s.toList = []) : Restates (text s) absent

/-- **What says the same is normalised alike**, for every field. -/
theorem Restates.normalise_eq {v w : Value} (h : v.Restates w) (f : Field) :
    v.normalise f = w.normalise f := by
  cases h with
  | flag b =>
    have trimmed : Text.IsTrimmed (if b then "true" else "false") := by cases b <;> decide
    simp only [normalise, nonBlank_eq_some trimmed]
  | @whole n short =>
    simp only [normalise, if_neg (Nat.not_lt.2 short), nonBlank_eq_some (Text.isTrimmed_decimal n)]
  | secret s => rfl
  | padded s hl hr =>
    simp only [normalise, nonBlank, Text.stripped, String.toList_ofList]
    rw [Text.strip, Text.strip, Text.trim_padded hl hr]
  | blank blank => simp only [normalise, nonBlank, if_pos blank]

end Value

/-! ### The deciding entries -/

namespace Mapping

/-- An entry under this name or key is for a field: the key counts as the exact name, and a name in
any letter case. -/
def IsFor (s : String) (f : Field) : Prop :=
  Text.IsVariantOf (nameOf s) f.name

instance (s : String) (f : Field) : Decidable (IsFor s f) :=
  inferInstanceAs (Decidable (Text.IsVariantOf _ _))

/-- The entries for a field, in their order. A field depends on no other entries. -/
def entriesFor (m : Mapping) (f : Field) : Mapping :=
  m.filter fun e ↦ decide (IsFor e.1 f)

/-- The spelling of a field's name that counts: the first there is, a key being the exact name. -/
def spelling? (m : Mapping) (f : Field) : Option String :=
  (m.entriesFor f).head?.map fun e ↦ nameOf e.1

/-- The entry that decides on a field: the last under the spelling that counts. -/
def deciding? (m : Mapping) (f : Field) : Option (String × Value) :=
  (m.spelling? f).bind fun n ↦ (m.entriesFor f).findRev? fun e ↦ nameOf e.1 = n

/-- The value of the deciding entry, or none if there is no entry for the field. -/
def decidingValue (m : Mapping) (f : Field) : Value :=
  ((m.deciding? f).map Prod.snd).getD .absent

/-- The mapping with the deciding entries alone, at most one for each field and none for no
field. -/
def canonical (m : Mapping) : Mapping :=
  Field.all.filterMap m.deciding?

/-- The last entry under the exact name or the key of a field. -/
def lastGiven? (m : Mapping) (f : Field) : Option (String × Value) :=
  m.findRev? fun e ↦ e.1 = f.name ∨ e.1 = f.key

/-- The mapping with the last entry alone for each field, under its exact name or its key. -/
def lastEntries (m : Mapping) : Mapping :=
  Field.all.filterMap m.lastGiven?

/-- Every field goes by its exact name or its key. -/
def IsPlain (m : Mapping) : Prop :=
  ∀ e ∈ m, ∀ f, IsFor e.1 f → e.1 = f.name ∨ e.1 = f.key

variable {m : Mapping} {f g : Field} {s : String}

/-- An entry is for one field only, since names in small letters that are variants of each other are
the same. -/
theorem IsFor.eq (hf : IsFor s f) (hg : IsFor s g) : f = g :=
  Field.eq_of_name_eq (String.toList_inj.1 (Eq.trans (Eq.symm hf) hg))

theorem head?_entriesFor (m : Mapping) (f : Field) :
    (m.entriesFor f).head? = m.find? fun e ↦ decide (IsFor e.1 f) :=
  List.head?_filter

/-- Under a spelling of a field's name, the last entry is one for the field. -/
theorem findRev?_entriesFor {n : String} (h : Text.IsVariantOf n f.name) (m : Mapping) :
    (m.entriesFor f).findRev? (fun e ↦ nameOf e.1 = n) = m.findRev? fun e ↦ nameOf e.1 = n := by
  rw [List.findRev?_eq_find?_reverse, List.findRev?_eq_find?_reverse, entriesFor,
    ← List.filter_reverse, List.find?_filter]
  congr
  funext e
  by_cases hn : nameOf e.1 = n <;> simp [hn, IsFor, h]

/-- **The deciding entry has the value of the field.** Two searches meet in it: one from the front
for the spelling, and one from the end for the value. -/
theorem value?_eq_deciding? (m : Mapping) (f : Field) :
    m.value? f = (m.deciding? f).map Prod.snd := by
  rw [value?_eq_named?, named?, byName,
    Dictionary.find?_entries_ofList fun n ↦ decide (Text.IsVariantOf n f.name), List.find?_map,
    deciding?, spelling?, head?_entriesFor]
  change (Option.bind (Option.map _ (m.find? fun e ↦ decide (IsFor e.1 f))) _).map _ = _
  cases first : m.find? fun e ↦ decide (IsFor e.1 f) with
  | none => rfl
  | some e =>
    have variant : IsFor e.1 f := by simpa using List.find?_some first
    simp only [Option.map_some, Option.bind_some]
    rw [findRev?_entriesFor variant, Dictionary.last?, List.findRev?_eq_find?_reverse,
      List.findRev?_eq_find?_reverse, ← List.map_reverse, List.find?_map, Option.map_map]
    rfl

theorem mappingValue_eq_decidingValue (m : Mapping) :
    ParameterSet.mappingValue m = m.decidingValue :=
  funext fun f ↦ by rw [ParameterSet.mappingValue, value?_eq_deciding?, decidingValue]

/-- The value of a field depends on the entries for the field only, and on their order. -/
theorem value?_congr {m m' : Mapping} (h : m.entriesFor f = m'.entriesFor f) :
    m.value? f = m'.value? f := by
  rw [value?_eq_deciding?, value?_eq_deciding?, deciding?, deciding?, spelling?, spelling?, h]

theorem mem_of_deciding? {e : String × Value} (h : m.deciding? f = some e) :
    e ∈ m.entriesFor f := by
  obtain ⟨n, -, last⟩ := Option.bind_eq_some_iff.1 h
  rw [List.findRev?_eq_find?_reverse] at last
  exact List.mem_reverse.1 (List.mem_of_find?_eq_some last)

/-- In the canonical mapping, a deciding entry is the only one for its field, because the others are
for other fields. -/
theorem entriesFor_canonical (m : Mapping) (f : Field) :
    m.canonical.entriesFor f = (m.deciding? f).toList := by
  -- What decides one field is not an entry for any other, hence the walk over all fields adds one.
  have only (g : Field) : (m.deciding? g).filter (fun e ↦ decide (IsFor e.1 f)) =
      if g = f then m.deciding? f else none := by
    cases hg : m.deciding? g with
    | none => split <;> simp_all
    | some e =>
      have own : IsFor e.1 g := of_decide_eq_true (List.mem_filter.1 (mem_of_deciding? hg)).2
      by_cases same : g = f
      · subst same
        simp [hg, own]
      · have other : ¬IsFor e.1 f := fun h ↦ same (own.eq h)
        simp [same, other]
  rw [entriesFor, canonical, List.filter_filterMap]
  simp only [only]
  cases m.deciding? f <;> cases f <;> rfl

/-- An entry that is the only one for a field decides on it, whatever its spelling. -/
theorem deciding?_of_entriesFor {o : Option (String × Value)} (h : m.entriesFor f = o.toList) :
    m.deciding? f = o := by
  rw [deciding?, spelling?, h]
  cases o with
  | none => rfl
  | some e => simp [List.findRev?_eq_find?_reverse]

theorem deciding?_canonical (m : Mapping) (f : Field) :
    m.canonical.deciding? f = m.deciding? f :=
  deciding?_of_entriesFor (entriesFor_canonical m f)

/-- **Where fields go by their exact names and their keys, the last entry for a field decides.** -/
theorem IsPlain.deciding?_eq (h : m.IsPlain) (f : Field) : m.deciding? f = m.lastGiven? f := by
  -- In a plain mapping there is a single spelling per field, hence no first one to look for.
  have given (e : String × Value) (he : e ∈ m) : IsFor e.1 f ↔ nameOf e.1 = f.name := by
    constructor
    · exact fun variant ↦ nameOf_eq_name_iff.2 (h e he f variant)
    · intro name
      rw [IsFor, name]
      exact Field.isVariantOf_name_iff.2 rfl
  have same : m.lastGiven? f = m.findRev? fun e ↦ nameOf e.1 = f.name := by
    simp only [lastGiven?, nameOf_eq_name_iff]
  rw [same, deciding?, spelling?, head?_entriesFor]
  cases first : m.find? fun e ↦ decide (IsFor e.1 f) with
  | none =>
    rw [List.findRev?_eq_find?_reverse]
    refine (List.find?_eq_none.2 fun e he name ↦ ?_).symm
    have he := List.mem_reverse.1 he
    exact List.find?_eq_none.1 first e he (decide_eq_true ((given e he).2 (of_decide_eq_true name)))
  | some e =>
    have variant : IsFor e.1 f := by simpa using List.find?_some first
    have name := (given e (List.mem_of_find?_eq_some first)).1 variant
    rw [Option.map_some, Option.bind_some, name]
    exact findRev?_entriesFor (Field.isVariantOf_name_iff.2 rfl) m

/-! ### A change to one value -/

theorem spelling?_eq (m : Mapping) (f : Field) :
    m.spelling? f =
      (m.map fun e ↦ nameOf e.1).find? fun n ↦ decide (Text.IsVariantOf n f.name) := by
  rw [spelling?, head?_entriesFor, List.find?_map]
  rfl

theorem deciding?_eq_of_spelling? {n : String} (h : m.spelling? f = some n) :
    m.deciding? f = m.findRev? fun e ↦ nameOf e.1 = n := by
  have variant : Text.IsVariantOf n f.name := by
    rw [spelling?_eq] at h
    simpa using List.find?_some h
  rw [deciding?, h, Option.bind_some, findRev?_entriesFor variant]

/-- An entry decides on a field whatever its value, and then no entry of its name comes later, or it
does not, whatever its value. -/
theorem value?_change (l r : Mapping) (n : String) (f : Field) :
    (∃ o, ∀ v, (l ++ (n, v) :: r).value? f = o) ∨
      (∀ e ∈ r, nameOf e.1 ≠ nameOf n) ∧ ∀ v, (l ++ (n, v) :: r).value? f = some v := by
  -- Which spelling decides does not depend on the values, so it is found for any `v` at once.
  have spelled (v : Value) :
      (l ++ (n, v) :: r).spelling? f = (l ++ (n, .absent) :: r).spelling? f := by
    rw [spelling?_eq, spelling?_eq]
    simp
  cases spelling : (l ++ (n, .absent) :: r).spelling? f with
  | none =>
    refine .inl ⟨none, fun v ↦ ?_⟩
    rw [value?_eq_deciding?, deciding?, spelled, spelling]
    rfl
  | some k =>
    have found (v : Value) : (l ++ (n, v) :: r).value? f =
        ((r.findRev? fun e ↦ nameOf e.1 = k).or
          (if nameOf n = k then some (n, v) else l.findRev? fun e ↦ nameOf e.1 = k)).map
            Prod.snd := by
      rw [value?_eq_deciding?, deciding?_eq_of_spelling? ((spelled v).trans spelling)]
      simp only [List.findRev?_eq_find?_reverse, List.reverse_append, List.reverse_cons,
        List.append_assoc, List.find?_append, List.singleton_append, List.find?_cons]
      split <;> simp_all
    cases later : r.findRev? fun e ↦ nameOf e.1 = k with
    | some e => exact .inl ⟨some e.2, fun v ↦ by rw [found, later]; rfl⟩
    | none =>
      by_cases own : nameOf n = k
      · refine .inr ⟨fun e he same ↦ ?_, fun v ↦ by rw [found, later, if_pos own]; rfl⟩
        rw [List.findRev?_eq_find?_reverse] at later
        exact List.find?_eq_none.1 later e (List.mem_reverse.2 he) (decide_eq_true (same.trans own))
      · exact .inl ⟨_, fun v ↦ by rw [found, later, if_neg own]⟩

/-! ### Mappings that agree -/

/-- Two mappings make the same parameter set, or their values have the same faults. What is done
with a mapping later goes by this set alone. -/
structure Agree (m m' : Mapping) : Prop where
  /-- The two mappings make the same parameter set, or have the same faults. -/
  parameters : ParameterSet.ofMapping m = ParameterSet.ofMapping m'
  /-- The sets that they make are validated with the same outcome. -/
  validate : (ParameterSet.ofMapping m).map ParameterSet.validate =
    (ParameterSet.ofMapping m').map ParameterSet.validate
  /-- Both resolve to the same descriptor, or are refused for the same reason. -/
  resolve : (Configuration.mapping m).resolve = (Configuration.mapping m').resolve

variable {m' : Mapping}

theorem agree_of_parameters (h : ParameterSet.ofMapping m = ParameterSet.ofMapping m') :
    m.Agree m' :=
  ⟨h, by rw [h], by rw [Configuration.resolve, Configuration.resolve, Configuration.parameterSet,
    Configuration.parameterSet, h]⟩

/-- Mappings agree when the values that they give to the fields are normalised alike. -/
theorem agree_of_normalise
    (h : ∀ f, (ParameterSet.mappingValue m f).normalise f =
      (ParameterSet.mappingValue m' f).normalise f) : m.Agree m' :=
  agree_of_parameters (ParameterSet.ofValues_congr h)

/-- Mappings that give the same values to all fields agree. -/
theorem agree_of_value? (h : ∀ f, m.value? f = m'.value? f) : m.Agree m' :=
  agree_of_normalise fun f ↦ by rw [ParameterSet.mappingValue, ParameterSet.mappingValue, h]

/-- Mappings with the same entries for each field agree, however these are mixed with one
another. -/
theorem agree_of_entriesFor (h : ∀ f, m.entriesFor f = m'.entriesFor f) : m.Agree m' :=
  agree_of_value? fun f ↦ value?_congr (h f)

/-! ### Edits -/

/-- The mapping without the entries for a field, in which the field is not named at all. -/
def without (m : Mapping) (f : Field) : Mapping :=
  m.filter fun e ↦ decide ¬IsFor e.1 f

theorem entriesFor_without (m : Mapping) (f : Field) : (m.without f).entriesFor f = [] := by
  simp [entriesFor, without, List.filter_filter]

theorem entriesFor_without_of_ne (h : f ≠ g) : (m.without f).entriesFor g = m.entriesFor g := by
  rw [entriesFor, entriesFor, without, List.filter_filter]
  refine List.filter_congr fun e _ ↦ ?_
  by_cases hg : IsFor e.1 g
  · have other : ¬IsFor e.1 f := fun hf ↦ h (hf.eq hg)
    simp [hg, other]
  · simp [hg]

/-- An edit of a mapping that changes nothing in what it says. Each constructor but the last is
about one place of the mapping. -/
inductive Edit : Mapping → Mapping → Prop
  /-- Two neighbours that are not for the same field change places. -/
  | swap {a b : String × Value} (l r : Mapping) (h : ∀ f, IsFor a.1 f → ¬IsFor b.1 f) :
      Edit (l ++ a :: b :: r) (l ++ b :: a :: r)
  /-- An exact name is replaced by the key of its field. -/
  | respell (f : Field) (v : Value) (l r : Mapping) :
      Edit (l ++ (f.name, v) :: r) (l ++ (f.key, v) :: r)
  /-- An entry that is for no field is left out, whatever its value. -/
  | ignore {n : String} (v : Value) (l r : Mapping) (h : ∀ f, ¬IsFor n f) :
      Edit (l ++ (n, v) :: r) (l ++ r)
  /-- A value gives way to any other where an entry of the same name comes later. -/
  | shadow {n : String} (v v' : Value) (l r : Mapping) (h : ∃ e ∈ r, nameOf e.1 = nameOf n) :
      Edit (l ++ (n, v) :: r) (l ++ (n, v') :: r)
  /-- A value is restated. -/
  | restate {v v' : Value} (n : String) (l r : Mapping) (h : v.Restates v') :
      Edit (l ++ (n, v) :: r) (l ++ (n, v') :: r)
  /-- All entries for a field are left out when the deciding one has no value. -/
  | erase {m : Mapping} {f : Field} (h : m.value? f = some .absent) :
      Edit m (m.without f)

/-- **An edit changes nothing in what a mapping says**, since for every field it leaves the deciding
entry alone, or restates its value. -/
theorem Edit.agree (h : Edit m m') : m.Agree m' := by
  -- An edit either leaves the entries for every field as they were, or keeps what decides it, or
  -- changes it to a value that is held alike.
  cases h with
  | @swap a b l r distinct =>
    refine agree_of_entriesFor fun f ↦ ?_
    have distinct := distinct f
    by_cases ha : IsFor a.1 f
    · simp [entriesFor, ha, distinct ha]
    · simp [entriesFor, List.filter_cons, ha]
  | respell f v l r =>
    refine agree_of_value? fun g ↦ ?_
    have renamed : (l ++ (f.name, v) :: r).byName = (l ++ (f.key, v) :: r).byName := by
      simp [byName]
    rw [value?_eq_named?, value?_eq_named?, renamed]
  | ignore v l r other => exact agree_of_entriesFor fun f ↦ by simp [entriesFor, other f]
  | @shadow n v v' l r later =>
    refine agree_of_value? fun f ↦ ?_
    rcases value?_change l r n f with ⟨o, same⟩ | ⟨last, -⟩
    · rw [same, same]
    · obtain ⟨e, he, name⟩ := later
      exact absurd name (last e he)
  | restate n l r restates =>
    refine agree_of_normalise fun f ↦ ?_
    rw [ParameterSet.mappingValue, ParameterSet.mappingValue]
    rcases value?_change l r n f with ⟨o, same⟩ | ⟨-, decides⟩
    · rw [same, same]
    · rw [decides, decides]
      exact restates.normalise_eq f
  | @erase _ f absent =>
    refine agree_of_normalise fun g ↦ ?_
    rw [ParameterSet.mappingValue, ParameterSet.mappingValue]
    by_cases same : f = g
    · subst same
      rw [absent, value?_eq_deciding?, deciding?_of_entriesFor (o := none) (entriesFor_without m f)]
      rfl
    · rw [value?_congr (entriesFor_without_of_ne same)]

/-- **Any number of edits change nothing in what a mapping says**, taken back or not, by induction
on the closure. -/
theorem agree_of_eqvGen (h : Relation.EqvGen Edit m m') : m.Agree m' := by
  refine agree_of_parameters ?_
  induction h with
  | rel _ _ edit => exact edit.agree.parameters
  | refl _ => rfl
  | symm _ _ _ ih => exact ih.symm
  | trans _ _ _ _ _ first second => exact first.trans second

/-- **A mapping says what its deciding entries say**: it makes the parameter set of their values, it
agrees with its canonical mapping, and with every mapping that it can be edited to. Where fields go
by their exact names and their keys only, the canonical mapping has the last entry for each
field. -/
theorem agree_canonical (m : Mapping) :
    (∀ p, ParameterSet.ofMapping m = .ok p ↔
        ∀ f, (m.decidingValue f).normalise f = .ok (p.text f)) ∧
      m.Agree m.canonical ∧ (m.IsPlain → m.canonical = m.lastEntries) ∧
      ∀ m', Relation.EqvGen Edit m m' → m.Agree m' := by
  refine ⟨fun p ↦ ?_, agree_of_value? fun f ↦ ?_, fun plain ↦ ?_, fun m' ↦ agree_of_eqvGen⟩
  · rw [← mappingValue_eq_decidingValue]
    exact ParameterSet.ofValues_eq_ok_iff
  · rw [value?_eq_deciding?, value?_eq_deciding?, deciding?_canonical]
  · rw [canonical, lastEntries, funext plain.deciding?_eq]

/-- A key, a truth value, and a name that is no field's: three edits lead from one mapping to the
other. -/
theorem agree_canonical_flag :
    Agree [("x", .unsuitable), ("use-default-credentials", .flag true)]
        [("use_default_credentials", .text "true")] ∧
      canonical [("use-default-credentials", .flag true)] =
        lastEntries [("use-default-credentials", .flag true)] := by
  refine ⟨(agree_canonical _).2.2.2 _ ?_, (agree_canonical _).2.2.1 ?_⟩
  · have ignored : Edit [("x", .unsuitable), ("use-default-credentials", .flag true)]
        [("use-default-credentials", .flag true)] :=
      .ignore .unsuitable [] _ fun f ↦ by cases f <;> decide
    have named : Edit [("use_default_credentials", .flag true)]
        [("use-default-credentials", .flag true)] :=
      .respell .useDefault (.flag true) [] []
    have restated : Edit [("use_default_credentials", .flag true)]
        [("use_default_credentials", .text "true")] :=
      .restate "use_default_credentials" [] [] (.flag true)
    exact ((Relation.EqvGen.rel _ _ ignored).trans _ _ _ (.symm _ _ (.rel _ _ named))).trans _ _ _
      (.rel _ _ restated)
  · rintro e he f variant
    obtain rfl := List.mem_singleton.1 he
    have own : IsFor "use-default-credentials" .useDefault := by decide
    exact variant.eq own ▸ .inr rfl

/-- A name in capitals before the exact name, which therefore does not count. -/
def twoSpellings : Mapping :=
  [("PROFILE_NAME", .text "a"), ("profile_name", .text "b")]

/-- The least number with too many digits to be written down. -/
def longNumber : Int :=
  Nat.pow 10 Text.maxDigits

/-- The last entry does not decide where a name is spelled in two ways, and a number that is too
long does not say the same as its decimal text. -/
theorem not_agree_lastEntries :
    ¬twoSpellings.Agree twoSpellings.lastEntries ∧
      ¬Agree [("access_key", .whole longNumber)]
        [("access_key", .text (Text.decimal longNumber))] := by
  constructor
  · intro agree
    have texts : twoSpellings.OfTexts := by simp [OfTexts, twoSpellings]
    obtain ⟨p, built, -⟩ := ParameterSet.ofMapping_of_ofTexts texts
    have first : Value.normalise .profileName (.text "a") = .ok (p.text .profileName) :=
      ParameterSet.ofValues_eq_ok_iff.1 built .profileName
    have last : Value.normalise .profileName (.text "b") = .ok (p.text .profileName) :=
      ParameterSet.ofValues_eq_ok_iff.1 (agree.parameters ▸ built) .profileName
    exact absurd (first.trans last.symm) (by decide)
  · intro agree
    obtain ⟨p, built, -⟩ := ParameterSet.ofMapping_of_ofTexts
      (m := [("access_key", .text (Text.decimal longNumber))]) (by simp [OfTexts])
    have written : (Value.whole longNumber).normalise .accessKey = .ok (p.text .accessKey) :=
      ParameterSet.ofValues_eq_ok_iff.1 (agree.parameters.trans built) .accessKey
    have long : Text.maxDigits < Text.digitCount longNumber :=
      (Text.lt_digitCount_iff (by decide)).2 (Nat.le_of_eq (Int.natAbs_natCast _).symm)
    simp [Value.normalise, long] at written

end Mapping

end AwsCredentials
