import AwsCredentials.Proofs.Parameters.Canonical

/-!
# Explicit values before those of the environment

Beside the environment, a mapping has the first word. A field that it names, by the name of the
field in any letter case or by its key, has the value of an entry for the field, also if that value
is blank, and what the environment holds is not looked at. That it is so is read off the order of
the entries once all are gathered (`Mapping.valueBeside_eq`).

Of several entries for a field one decides (`Mapping.Decides`): the first under the name, unless the
field goes by its key and never by its exact name; then the one under the key. In the environment it
is always the last variable.

It would be simpler if the last entry for a field decided here, as it does where a mapping is read
alone, and for most mappings it does. But keys are replaced by names after the entries were put in
order, so a key that comes after the exact name of its field is passed over. **The main statement**,
`explicit_over_ambient`, tells what a field yields in any case, that this is what the last entry
asks for unless such a key asks for something else, and how little the environment can do: it
changes no field that the mapping names, it makes no value faulty, and only variables that begin
with the stem count.
-/

namespace AwsCredentials

open Dictionary (FirstUnder LastUnder)

namespace Mapping

variable {m : Mapping} {f : Field} {a b v : Value} {n : String}

/-- An entry is for a field when it goes by a variant of the name or by the key. -/
theorem isFor_iff : IsFor n f ↔ Text.IsVariantOf n f.name ∨ n = f.key := by
  cases h : Field.ofKey? n with
  | none =>
    have itself : nameOf n = n := by rw [nameOf, h]
    have no_key : n ≠ f.key := by
      rintro rfl
      simp at h
    simp [IsFor, itself, no_key]
  | some g =>
    obtain rfl : g.key = n := by simpa using List.find?_some h
    have same_key : g.key = f.key ↔ g = f := ⟨Field.eq_of_key_eq, congrArg Field.key⟩
    rw [IsFor, nameOf_key, Field.isVariantOf_name_iff, same_key]
    simp [g.not_isVariantOf_key f]

/-! ### The entry that decides -/

/-- The mapping names the field, and the entry that decides on it has this value. -/
inductive Decides (m : Mapping) (f : Field) : Value → Prop
  /-- The first entry under the name in any letter case decides, if the exact name occurs, or else
  the key does not. -/
  | name {v : Value} (first : FirstUnder (fun n ↦ Text.IsVariantOf n f.name) m v)
      (prior : f.name ∈ m.map Prod.fst ∨ f.key ∉ m.map Prod.fst) : Decides m f v
  /-- The last entry under the key decides, if the exact name does not occur. -/
  | key {v : Value} (last : LastUnder (fun n ↦ n = f.key) m v)
      (prior : f.name ∉ m.map Prod.fst) : Decides m f v

theorem named?_eq_some_iff :
    m.named? f = some v ↔ FirstUnder (fun n ↦ Text.IsVariantOf n f.name) m v :=
  Dictionary.find?_eq_some_iff (P := fun n ↦ Text.IsVariantOf n f.name)

theorem keyed?_eq_some_iff : m.keyed? f = some v ↔ LastUnder (fun n ↦ n = f.key) m v :=
  Dictionary.findRev?_eq_some_iff (P := fun n ↦ n = f.key)

theorem named?_eq_none_iff :
    m.named? f = none ↔ ∀ e ∈ m, ¬Text.IsVariantOf e.1 f.name := by
  simp [named?]

theorem keyed?_eq_none_iff : m.keyed? f = none ↔ f.key ∉ m.map Prod.fst := by
  rw [keyed?, Option.map_eq_none_iff, Dictionary.last?_eq_none_iff]

/-- Names of entries that all differ from one are without it. -/
theorem not_mem_names_iff : n ∉ m.map Prod.fst ↔ ∀ e ∈ m, e.1 ≠ n := by
  simp only [List.mem_map, not_exists, not_and, ne_eq]

theorem hasName_eq_true_iff : m.hasName f = true ↔ f.name ∈ m.map Prod.fst := by
  simp [hasName]

/-- How a field is given decides whether it goes by its name or by its key. -/
theorem explicitValue?_eq (m : Mapping) (f : Field) :
    m.explicitValue? f = if f.name ∈ m.map Prod.fst ∨ f.key ∉ m.map Prod.fst then m.named? f
      else m.keyed? f := by
  by_cases exact_name : f.name ∈ m.map Prod.fst
  · rw [explicitValue?_of_hasName (hasName_eq_true_iff.2 exact_name), if_pos (.inl exact_name)]
  · rw [explicitValue?, if_neg (mt hasName_eq_true_iff.1 exact_name)]
    cases under_key : m.keyed? f with
    | none => rw [if_pos (.inr (keyed?_eq_none_iff.1 under_key)), Option.none_or]
    | some v =>
      have occurs : ¬f.key ∉ m.map Prod.fst := fun none ↦ by
        simp [keyed?_eq_none_iff.2 none] at under_key
      rw [if_neg (not_or.2 ⟨exact_name, occurs⟩), Option.some_or]

/-- **The value that a mapping gives to a field is that of the entry that decides.** -/
theorem explicitValue?_eq_some_iff : m.explicitValue? f = some v ↔ m.Decides f v := by
  rw [explicitValue?_eq]
  split
  · next prior =>
    rw [named?_eq_some_iff]
    constructor
    · exact fun first ↦ .name first prior
    · rintro (⟨first, -⟩ | ⟨⟨before, k, after, rfl, rfl, -⟩, unnamed⟩)
      · exact first
      · have occurs : f.key ∈ (before ++ (f.key, v) :: after).map Prod.fst := by simp
        exact absurd occurs (prior.resolve_left unnamed)
  · next prior =>
    rw [keyed?_eq_some_iff]
    constructor
    · exact fun last ↦ .key last (not_or.1 prior).1
    · rintro (⟨-, prior'⟩ | ⟨last, -⟩)
      · exact absurd prior' prior
      · exact last

/-- One value only can decide on a field. -/
theorem Decides.eq (ha : m.Decides f a) (hb : m.Decides f b) : a = b :=
  Option.some.inj ((explicitValue?_eq_some_iff.2 ha).symm.trans (explicitValue?_eq_some_iff.2 hb))

/-- A mapping gives no value to a field that it does not name. -/
theorem explicitValue?_eq_none_iff :
    m.explicitValue? f = none ↔ ∀ e ∈ m, ¬IsFor e.1 f := by
  have unnamed : (∀ e ∈ m, ¬IsFor e.1 f) ↔ m.named? f = none ∧ m.keyed? f = none := by
    simp only [isFor_iff, not_or, named?_eq_none_iff, keyed?_eq_none_iff, not_mem_names_iff,
      ← forall_and, ne_eq]
  rw [unnamed, explicitValue?]
  split
  · next given =>
    have named := isSome_named?_of_hasName given
    exact ⟨fun none ↦ by simp [none] at named, And.left⟩
  · rw [Option.or_eq_none_iff, and_comm]

/-! ### The last entry for a field -/

/-- A field is given as it is declared: every entry for it goes by its exact name or its key, and no
name occurs twice. -/
structure IsPlainFor (m : Mapping) (f : Field) : Prop where
  /-- Entries for the field go by its name or its key. -/
  gives : ∀ e ∈ m, IsFor e.1 f → Gives e.1 f
  /-- No name occurs twice. -/
  distinct : (m.map Prod.fst).Nodup

/-- The exact name of a field stands before its key, the first with the value `a` and the second
with the value `b`. -/
def NameBeforeKey (m : Mapping) (f : Field) (a b : Value) : Prop :=
  [(f.name, a), (f.key, b)].Sublist m

/-- A name that a field is given by as it is declared is for the field. -/
theorem Gives.isFor (h : Gives n f) : IsFor n f := by
  rw [IsFor, nameOf_eq_name_iff.2 h]
  exact Field.isVariantOf_name_iff.2 rfl

/-- A mapping has one last value for a field at most. -/
theorem lastUnder_gives_unique (ha : LastUnder (fun n ↦ Gives n f) m a)
    (hb : LastUnder (fun n ↦ Gives n f) m b) : a = b :=
  Option.some.inj ((Dictionary.findRev?_eq_some_iff.2 ha).symm.trans
    (Dictionary.findRev?_eq_some_iff.2 hb))

/-- Where no name occurs twice, an entry is the only one under its name. -/
theorem others_ne_of_nodup {before after : Mapping}
    (h : ((before ++ (n, v) :: after).map Prod.fst).Nodup) :
    (∀ e ∈ before, e.1 ≠ n) ∧ ∀ e ∈ after, e.1 ≠ n := by
  rw [List.map_append, List.map_cons, List.nodup_middle, List.nodup_cons, ← List.map_append] at h
  have others := not_mem_names_iff.1 h.1
  exact ⟨fun e he ↦ others e (List.mem_append_left _ he),
    fun e he ↦ others e (List.mem_append_right _ he)⟩

/-- Two entries, one before a place and one after it, stand in this order. -/
theorem pair_sublist {l r : Mapping} {d e : String × Value} (hd : d ∈ l) (he : e ∈ r) :
    [d, e].Sublist (l ++ r) :=
  (List.singleton_sublist.2 hd).append (List.singleton_sublist.2 he)

namespace IsPlainFor

/-- Where a field is given as declared, the only variant of its name that occurs is the exact one,
since no key is a variant of a name. -/
theorem eq_name_of_isVariantOf (h : m.IsPlainFor f) {e : String × Value} (he : e ∈ m)
    (variant : Text.IsVariantOf e.1 f.name) : e.1 = f.name := by
  rcases h.gives e he (isFor_iff.2 (.inl variant)) with exact_name | key
  · exact exact_name
  · exact absurd (key ▸ variant) (f.not_isVariantOf_key f)

/-- The entry under the exact name decides, wherever it stands. -/
theorem decides_of_mem (h : m.IsPlainFor f) (ha : (f.name, a) ∈ m) : m.Decides f a := by
  obtain ⟨before, after, rfl⟩ := List.append_of_mem ha
  refine .name ⟨before, f.name, after, rfl, Field.isVariantOf_name_iff.2 rfl, ?_⟩ (.inl (by simp))
  intro e he variant
  have exact_name := h.eq_name_of_isVariantOf (List.mem_append_left _ he) variant
  exact (others_ne_of_nodup h.distinct).1 e he exact_name

/-- **A key after the exact name is passed over**: the value under the name decides, but the one
under the key is the last. -/
theorem of_nameBeforeKey (h : m.IsPlainFor f) (order : m.NameBeforeKey f a b) :
    m.Decides f a ∧ LastUnder (fun n ↦ Gives n f) m b := by
  obtain ⟨l, r, rfl, name, key⟩ := List.cons_sublist_iff.1 order
  obtain ⟨before, after, rfl⟩ := List.append_of_mem (List.singleton_sublist.1 key)
  refine ⟨h.decides_of_mem (List.mem_append_left _ name), l ++ before, f.key, after,
    (List.append_assoc ..).symm, .inr rfl, ?_⟩
  have distinct := h.distinct
  rw [← List.append_assoc] at distinct
  -- Behind the key there is neither a second key nor a second exact name.
  rintro e he (exact_name | again)
  · obtain ⟨front, back, rfl⟩ := List.append_of_mem name
    have once : ∀ x ∈ back ++ (before ++ (f.key, b) :: after), x.1 ≠ f.name :=
      (others_ne_of_nodup (v := a) (by simpa using h.distinct)).2
    exact once e (by simp [he]) exact_name
  · exact (others_ne_of_nodup distinct).2 e he again

/-- **Otherwise the last entry decides**: no key stands behind the exact name, so what decides is
the last entry under either of them. -/
theorem decides_iff (h : m.IsPlainFor f) (settled : ∀ a b, ¬m.NameBeforeKey f a b) :
    m.Decides f v ↔ LastUnder (fun n ↦ Gives n f) m v := by
  constructor
  · rintro (⟨⟨before, n, after, rfl, variant, -⟩, -⟩ | ⟨⟨before, n, after, rfl, rfl, last⟩, prior⟩)
    · -- The exact name decides, and a key behind it would make the order an unsettled one.
      obtain rfl : n = f.name := h.eq_name_of_isVariantOf List.mem_append_cons_self variant
      refine ⟨before, f.name, after, rfl, .inl rfl, ?_⟩
      rintro ⟨k, w⟩ he (exact_name | key)
      · exact (others_ne_of_nodup h.distinct).2 _ he exact_name
      · obtain rfl : k = f.key := key
        have order := pair_sublist (l := before ++ [(f.name, v)]) List.mem_concat_self he
        rw [List.append_assoc] at order
        exact settled v w order
    · -- The key decides since there is no exact name at all.
      refine ⟨before, f.key, after, rfl, .inr rfl, ?_⟩
      rintro e he (exact_name | key)
      · exact not_mem_names_iff.1 prior e (by simp [he]) exact_name
      · exact last e he key
  · rintro ⟨before, n, after, rfl, rfl | rfl, last⟩
    · exact h.decides_of_mem List.mem_append_cons_self
    · -- An exact name would stand before this key, or else after it.
      refine .key ⟨before, f.key, after, rfl, rfl, (others_ne_of_nodup h.distinct).2⟩ ?_
      refine not_mem_names_iff.2 fun ⟨k, w⟩ he name ↦ ?_
      obtain rfl : k = f.name := name
      rcases List.mem_append.1 he with earlier | later
      · exact settled w v (pair_sublist earlier List.mem_cons_self)
      · rcases List.mem_cons.1 later with same | later
        · exact f.key_ne_name f (congrArg Prod.fst same).symm
        · exact last _ later (.inl rfl)

end IsPlainFor

end Mapping

/-! ### The environment -/

namespace Environment

/-- A variable begins with the stem, in any letter case. -/
def IsPrefixed (v : String) : Prop :=
  Text.lower variableStem.toList <+: Text.lower v.toList

instance (v : String) : Decidable (IsPrefixed v) :=
  inferInstanceAs (Decidable (_ <+: _))

/-- The environment without the variables that do not begin with the stem. -/
def prefixed (e : Environment) : Environment :=
  e.filter fun v ↦ decide (IsPrefixed v.1)

variable {e : Environment} {f : Field}

/-- The variable of a field begins with the stem. -/
theorem Names.isPrefixed {v : String} (h : Names v f) : IsPrefixed v := by
  rw [IsPrefixed, h, String.toList_append, Text.lower, Text.lower, List.map_append]
  exact List.prefix_append _ _

/-- **The value that the environment gives to a field is that of its last variable.** -/
theorem value?_eq_some_iff {s : String} :
    e.value? f = some s ↔ LastUnder (fun n ↦ Names n f) e s := by
  rw [value?, ← List.findRev?_eq_find?_reverse]
  exact Dictionary.findRev?_eq_some_iff (P := fun n ↦ Names n f)

/-- The environment gives no value to a field without a variable. -/
theorem value?_eq_none_iff : e.value? f = none ↔ ∀ x ∈ e, ¬Names x.1 f := by
  simp [value?]

/-- Variables that do not begin with the stem give no value. -/
theorem value?_prefixed (e : Environment) (f : Field) : e.prefixed.value? f = e.value? f := by
  have stemmed (x : String × String) : IsPrefixed x.1 ∧ Names x.1 f ↔ Names x.1 f :=
    and_iff_right_of_imp Names.isPrefixed
  rw [value?, value?, prefixed, ← List.filter_reverse, List.find?_filter]
  simp only [decide_eq_true_eq, stemmed]

end Environment

/-! ### The layers -/

namespace ParameterSet

variable {m : Mapping} {e : Environment} {f : Field} {v : Value}
  {r : Except ValueFault (Option String)}

/-- What the environment has for a field. -/
inductive Ambient (e : Environment) (f : Field) : Value → Prop
  /-- The last variable of the field has this text. -/
  | variable {s : String} (last : LastUnder (fun n ↦ Environment.Names n f) e s) :
      Ambient e f (.text s)
  /-- There is no variable for the field. -/
  | absent (unset : ∀ x ∈ e, ¬Environment.Names x.1 f) : Ambient e f .absent

/-- A field has this value in a mapping beside the environment. -/
inductive Layered (m : Mapping) (e : Environment) (f : Field) : Value → Prop
  /-- The mapping names the field, and the deciding entry has the value. -/
  | explicit {v : Value} (decides : m.Decides f v) : Layered m e f v
  /-- The mapping does not name the field, and the environment has the value. -/
  | ambient {v : Value} (unnamed : ∀ x ∈ m, ¬Mapping.IsFor x.1 f) (ambient : Ambient e f v) :
      Layered m e f v

/-- What the field yields: the value that it has, normalised, or the fault of this value. -/
def Yields (m : Mapping) (e : Environment) (f : Field)
    (r : Except ValueFault (Option String)) : Prop :=
  ∃ v, Layered m e f v ∧ v.normalise f = r

/-- A field is asked to have this value by a mapping beside the environment: by the last entry under
its exact name or its key, or else by the environment. -/
inductive Asked (m : Mapping) (e : Environment) (f : Field) : Value → Prop
  /-- The last entry for the field has the value. -/
  | explicit {v : Value} (last : LastUnder (fun n ↦ Mapping.Gives n f) m v) : Asked m e f v
  /-- There is no entry for the field, and the environment has the value. -/
  | ambient {v : Value} (unnamed : ∀ x ∈ m, ¬Mapping.Gives x.1 f) (ambient : Ambient e f v) :
      Asked m e f v

/-- What the field is asked to yield: the value that it is asked to have, normalised, or the fault
of this value. -/
def AskedToYield (m : Mapping) (e : Environment) (f : Field)
    (r : Except ValueFault (Option String)) : Prop :=
  ∃ v, Asked m e f v ∧ v.normalise f = r

theorem ambient_iff : Ambient e f v ↔ ((e.value? f).map Value.text).getD .absent = v := by
  constructor
  · rintro (last | unset)
    · rw [Environment.value?_eq_some_iff.2 last, Option.map_some, Option.getD_some]
    · rw [Environment.value?_eq_none_iff.2 unset, Option.map_none, Option.getD_none]
  · rintro rfl
    cases ambient : e.value? f with
    | some s => exact .variable (Environment.value?_eq_some_iff.1 ambient)
    | none => exact .absent (Environment.value?_eq_none_iff.1 ambient)

/-- The value of a field is that of the mapping, or else that of the environment. -/
theorem layeredValue_eq (m : Mapping) (e : Environment) (f : Field) :
    layeredValue m e f =
      (m.explicitValue? f).getD (((e.value? f).map Value.text).getD .absent) := by
  rw [layeredValue, Mapping.valueBeside_eq, Option.getD_or]

/-- A field has exactly the value that is looked up. -/
theorem layered_iff : Layered m e f v ↔ layeredValue m e f = v := by
  rw [layeredValue_eq]
  constructor
  · rintro (decides | ⟨unnamed, ambient⟩)
    · rw [Mapping.explicitValue?_eq_some_iff.2 decides, Option.getD_some]
    · rw [Mapping.explicitValue?_eq_none_iff.2 unnamed, Option.getD_none, ambient_iff.1 ambient]
  · rintro rfl
    cases given : m.explicitValue? f with
    | some v => exact .explicit (Mapping.explicitValue?_eq_some_iff.1 given)
    | none => exact .ambient (Mapping.explicitValue?_eq_none_iff.1 given) (ambient_iff.2 rfl)

theorem yields_iff : Yields m e f r ↔ (layeredValue m e f).normalise f = r := by
  simp only [Yields, layered_iff, exists_eq_left']

/-- Where no key is passed over, a field is asked to have the value that it has. -/
theorem asked_iff_layered (plain : m.IsPlainFor f) (settled : ∀ a b, ¬m.NameBeforeKey f a b) :
    Asked m e f v ↔ Layered m e f v := by
  have unnamed_iff : (∀ x ∈ m, ¬Mapping.Gives x.1 f) ↔ ∀ x ∈ m, ¬Mapping.IsFor x.1 f :=
    forall₂_congr fun x hx ↦ not_congr ⟨Mapping.Gives.isFor, plain.gives x hx⟩
  constructor
  · rintro (last | ⟨unnamed, ambient⟩)
    · exact .explicit ((plain.decides_iff settled).2 last)
    · exact .ambient (unnamed_iff.1 unnamed) ambient
  · rintro (decides | ⟨unnamed, ambient⟩)
    · exact .explicit ((plain.decides_iff settled).1 decides)
    · exact .ambient (unnamed_iff.2 unnamed) ambient

/-- Where a mapping has a last value for a field, no other value is asked for. -/
theorem asked_iff_of_lastUnder {b : Value} (last : LastUnder (fun n ↦ Mapping.Gives n f) m b) :
    Asked m e f v ↔ b = v := by
  constructor
  · rintro (last' | ⟨unnamed, -⟩)
    · exact Mapping.lastUnder_gives_unique last last'
    · obtain ⟨before, n, after, rfl, given, -⟩ := last
      exact absurd given (unnamed (n, b) List.mem_append_cons_self)
  · rintro rfl
    exact .explicit last

/-- **A field that is given as declared yields what it is asked to yield, unless a key is passed
over** that asks for something else than the exact name before it. -/
theorem askedToYield_iff (plain : m.IsPlainFor f) (yields : Yields m e f r) :
    AskedToYield m e f r ↔
      ∀ a b, m.NameBeforeKey f a b → a.normalise f = b.normalise f := by
  by_cases settled : ∀ a b, ¬m.NameBeforeKey f a b
  · refine iff_of_true ?_ fun a b order ↦ absurd order (settled a b)
    obtain ⟨v, layered, normalised⟩ := yields
    exact ⟨v, (asked_iff_layered plain settled).2 layered, normalised⟩
  · obtain ⟨a, b, order⟩ : ∃ a b, m.NameBeforeKey f a b := by simpa using settled
    -- The name decides and the key is last, so there is one `a` and one `b` to speak of.
    obtain ⟨decides, last⟩ := plain.of_nameBeforeKey order
    have yields_a : a.normalise f = r := by
      rw [← yields_iff.1 yields, layered_iff.1 (.explicit decides)]
    have asked_b : AskedToYield m e f r ↔ b.normalise f = r := by
      simp only [AskedToYield, asked_iff_of_lastUnder last, exists_eq_left']
    rw [asked_b]
    constructor
    · intro same a' b' order'
      obtain ⟨decides', last'⟩ := plain.of_nameBeforeKey order'
      rw [decides'.eq decides, Mapping.lastUnder_gives_unique last' last, yields_a, same]
    · exact fun same ↦ (same a b order).symm.trans yields_a

/-- A field that the mapping names has the same value in every environment. -/
theorem layeredValue_eq_of_isFor {x : String × Value} (hx : x ∈ m) (named : Mapping.IsFor x.1 f)
    (e e' : Environment) : layeredValue m e f = layeredValue m e' f := by
  rw [layeredValue_eq, layeredValue_eq]
  cases given : m.explicitValue? f with
  | some v => rfl
  | none => exact absurd named (Mapping.explicitValue?_eq_none_iff.1 given x hx)

/-- The environment holds texts, and a text is never at fault: a value is at fault only if the
mapping gives it. -/
theorem normalise_layeredValue_eq_error_iff {r : ValueFault} :
    (layeredValue m e f).normalise f = .error r ↔
      ((m.explicitValue? f).getD .absent).normalise f = .error r := by
  rw [layeredValue_eq]
  cases m.explicitValue? f with
  | some v => rfl
  | none => cases e.value? f <;> simp [Value.normalise]

/-- Values with the same faults are reported alike. -/
theorem faults_congr {value value' : Field → Value}
    (h : ∀ f r, (value f).normalise f = .error r ↔ (value' f).normalise f = .error r) :
    faults value = faults value' := by
  refine List.filterMap_congr fun f _ ↦ ?_
  cases reported : (value f).normalise f with
  | error r => rw [(h f r).1 reported]
  | ok t =>
    cases reported' : (value' f).normalise f with
    | error r => simp [(h f r).2 reported'] at reported
    | ok t' => rfl

/-- Values are refused for their faults. -/
theorem ofValues_eq_error_iff {value : Field → Value} {es : List FieldFault} :
    ofValues value = .error es ↔ faults value = es ∧ es ≠ [] := by
  rw [ofValues]
  cases faults value with
  | nil => simp
  | cons r rs =>
    rw [Except.error.injEq]
    constructor
    · rintro rfl
      exact ⟨rfl, List.cons_ne_nil _ _⟩
    · exact And.left

/-- **The environment makes no value faulty, and mends none.** -/
theorem ofLayers_eq_error_iff (m : Mapping) (e e' : Environment) {es : List FieldFault} :
    ofLayers m e = .error es ↔ ofLayers m e' = .error es := by
  have same_faults : faults (layeredValue m e) = faults (layeredValue m e') :=
    faults_congr fun f r ↦
      normalise_layeredValue_eq_error_iff.trans normalise_layeredValue_eq_error_iff.symm
  rw [ofLayers, ofLayers, ofValues_eq_error_iff, ofValues_eq_error_iff, same_faults]

/-- **Explicit values come before those of the environment.** A set is built exactly of what the
fields yield: the normalised value of the entry that decides, or of the last variable where the
mapping does not name the field. This is what the last entry for the field asks for, if the field is
given as declared, except where a key after the exact name asks for something else. A field that the
mapping names does not depend on the environment. Nor do the faults, and no variable counts that
does not begin with the stem. -/
theorem explicit_over_ambient (m : Mapping) (e : Environment) :
    (∀ p, ofLayers m e = .ok p ↔ ∀ f, Yields m e f (.ok (p.text f))) ∧
      (∀ f r, m.IsPlainFor f → Yields m e f r →
        (AskedToYield m e f r ↔
          ∀ a b, m.NameBeforeKey f a b → a.normalise f = b.normalise f)) ∧
      (∀ e' p p' f, (∃ x ∈ m, Mapping.IsFor x.1 f) → ofLayers m e = .ok p →
        ofLayers m e' = .ok p' → p.text f = p'.text f) ∧
      (∀ e' es, ofLayers m e = .error es ↔ ofLayers m e' = .error es) ∧
      ofLayers m e.prefixed = ofLayers m e := by
  refine ⟨fun p ↦ ?_, fun f r ↦ askedToYield_iff, ?_, ?_, ?_⟩
  · rw [ofLayers, ofValues_eq_ok_iff]
    exact forall_congr' fun f ↦ yields_iff.symm
  · rintro e' p p' f ⟨x, hx, named⟩ built built'
    have text := ofValues_eq_ok_iff.1 built f
    have text' := ofValues_eq_ok_iff.1 built' f
    rw [layeredValue_eq_of_isFor hx named e e', text'] at text
    exact (Except.ok.inj text).symm
  · exact fun e' es ↦ ofLayers_eq_error_iff m e e'
  · have same_values : layeredValue m e.prefixed = layeredValue m e := by
      funext f
      rw [layeredValue_eq, layeredValue_eq, e.value?_prefixed]
    rw [ofLayers, ofLayers, same_values]

/-- A key, and then the name of the same field with a blank value. -/
def blankNamed : Mapping :=
  [("profile-name", .text "a"), ("profile_name", .text " ")]

/-- A variable for the same field. -/
def ambientProfile : Environment :=
  [("AWS_AUTH_PROFILE_NAME", "x")]

/-- The blank value is the last, and the profile is taken neither from the key before it nor from
the environment. -/
theorem explicit_over_ambient_blank :
    AskedToYield blankNamed ambientProfile .profileName (.ok none) ∧
      ∃ p p', ofLayers blankNamed ambientProfile = .ok p ∧ ofLayers blankNamed [] = .ok p' ∧
        p.text .profileName = none ∧ p.text .profileName = p'.text .profileName := by
  have named : ∃ x ∈ blankNamed, Mapping.IsFor x.1 .profileName := by decide
  have plain : blankNamed.IsPlainFor .profileName := ⟨by decide, by decide⟩
  have settled (a b : Value) : ¬blankNamed.NameBeforeKey .profileName a b := by
    intro order
    have names : ["profile_name", "profile-name"].Sublist ["profile-name", "profile_name"] :=
      order.map Prod.fst
    exact absurd names (by decide)
  have texts : blankNamed.OfTexts := by simp [Mapping.OfTexts, blankNamed]
  obtain ⟨p, built, -⟩ := ofLayers_of_ofTexts texts ambientProfile
  obtain ⟨p', built', -⟩ := ofLayers_of_ofTexts texts []
  obtain ⟨built_iff, asked_iff, same_text, -⟩ := explicit_over_ambient blankNamed ambientProfile
  have decides : blankNamed.Decides .profileName (.text " ") := plain.decides_of_mem (by decide)
  have yields : Yields blankNamed ambientProfile .profileName (.ok none) :=
    ⟨.text " ", .explicit decides, rfl⟩
  have blank : p.text .profileName = none := by
    have text := yields_iff.1 ((built_iff p).1 built .profileName)
    exact Except.ok.inj (text.symm.trans (yields_iff.1 yields))
  exact ⟨(asked_iff .profileName _ plain yields).2 fun a b order ↦ absurd order (settled a b),
    p, p', built, built', blank, same_text [] p p' _ named built built'⟩

/-- A name, and then the key of the same field. -/
def passedOver : Mapping :=
  [("profile_name", .text "a"), ("profile-name", .text "b")]

/-- A key after the exact name is passed over beside the environment, though it is the last entry
for the field, and decides where the same mapping is read alone. -/
theorem not_askedToYield_passedOver :
    AskedToYield passedOver [] .profileName (.ok (some "b")) ∧
      (∃ p, ofLayers passedOver [] = .ok p ∧ p.text .profileName = some "a" ∧
        ¬AskedToYield passedOver [] .profileName (.ok (p.text .profileName))) ∧
      ∃ p, ofMapping passedOver = .ok p ∧ p.text .profileName = some "b" := by
  have last : LastUnder (fun n ↦ Mapping.Gives n .profileName) passedOver (.text "b") :=
    ⟨[_], _, [], rfl, .inr rfl, List.forall_mem_nil _⟩
  have asked {r : Except ValueFault (Option String)} :
      AskedToYield passedOver [] .profileName r ↔ .ok (some "b") = r := by
    simp only [AskedToYield, asked_iff_of_lastUnder last, exists_eq_left']
    exact Iff.rfl
  have texts : passedOver.OfTexts := by simp [Mapping.OfTexts, passedOver]
  have plain : passedOver.IsPlainFor .profileName := ⟨by decide, by decide⟩
  obtain ⟨p, built, -⟩ := ofLayers_of_ofTexts texts []
  have decides : passedOver.Decides .profileName (.text "a") := plain.decides_of_mem (by decide)
  have text : p.text .profileName = some "a" := by
    have held := ofValues_eq_ok_iff.1 built .profileName
    rw [layered_iff.1 (.explicit decides)] at held
    exact (Except.ok.inj held).symm
  obtain ⟨q, alone, -⟩ := ofMapping_of_ofTexts texts
  have text_alone : q.text .profileName = some "b" := by
    have held := ofValues_eq_ok_iff.1 alone .profileName
    rw [mappingValue, Mapping.value?_eq_named?] at held
    exact (Except.ok.inj held).symm
  refine ⟨asked.2 rfl, ⟨p, built, text, ?_⟩, q, alone, text_alone⟩
  rw [text, asked]
  decide

end ParameterSet

end AwsCredentials
