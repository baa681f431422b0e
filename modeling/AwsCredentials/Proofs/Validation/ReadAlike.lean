import AwsCredentials.Validation.Report
import Mathlib.Data.List.Basic

/-!
# What the rules look at

The rules of validation ask little of a parameter set: of a flag, whether it is true and whether it
can be read; of a whole number, which number it is and whether it can be read; of any field that is
no flag, whether it is set. Two parameter sets that agree in all of this are *read alike*
(`ReadAlike`), and the same is wrong with both (`ReadAlike.problems_eq`).

Each function on the way from the fields to the problems is shown to keep to what is read, in the
order in which they call each other. What is selected is another matter, since a descriptor holds
texts; if the same is selected as well, validation answers the same (`ReadAlike.validate_eq`).

That a flag is set is not among the things that are read: no rule asks for it.
-/

namespace AwsCredentials.ParameterSet

/-- The rules of validation read the same in two parameter sets: these five things are all that they
read. -/
structure ReadAlike (p q : ParameterSet) : Prop where
  /-- Flags apart, the same fields are set. -/
  isSet_eq : ∀ f ∉ Field.flags, p.isSet f = q.isSet f
  /-- A flag is true in both sets or in neither. -/
  flag_iff : ∀ f ∈ Field.flags, p.flag f = some true ↔ q.flag f = some true
  /-- What is wrong with a flag is the same in both sets. -/
  flagFault_eq : ∀ f ∈ Field.flags, p.flagFault f = q.flagFault f
  /-- The whole numbers are the same. -/
  number_eq : ∀ f ∈ Field.wholeNumbers, p.number f = q.number f
  /-- What is wrong with a whole number is the same in both sets. -/
  numberFault_eq : ∀ f ∈ Field.wholeNumbers, p.numberFault f = q.numberFault f

namespace ReadAlike

variable {p q : ParameterSet} (h : p.ReadAlike q)

include h

/-! ### Bases and roles -/

theorem indicates_eq (f : Field) : p.indicates f = q.indicates f := by
  rw [indicates, indicates]
  split
  · next hf => exact decide_eq_decide.2 (h.flag_iff f hf)
  · next hf => exact h.isSet_eq f hf

/-- The same fields indicate a base in two sets that are read alike. -/
theorem indicating_eq : p.indicating = q.indicating := by
  funext b
  rw [indicating, indicating, funext h.indicates_eq]

theorem indicated_eq : p.indicated = q.indicated := by
  rw [indicated, indicated, h.indicating_eq]

theorem indicatingFields_eq : p.indicatingFields = q.indicatingFields := by
  rw [indicatingFields, indicatingFields, h.indicated_eq, h.indicating_eq]

theorem roleRequested_eq : p.roleRequested = q.roleRequested := by
  rw [roleRequested, roleRequested, h.isSet_eq .roleArn (by decide),
    h.isSet_eq .roleSessionName (by decide)]

/-! ### What the rules find -/

theorem conflicts_eq : p.conflicts = q.conflicts := by
  have unsigned := propext (h.flag_iff .useAnonymous (by decide))
  simp only [conflicts, h.indicated_eq, h.indicatingFields_eq, unsigned, h.roleRequested_eq,
    h.isSet_eq .tokenFile (by decide)]

theorem incompletePairs_eq : p.incompletePairs = q.incompletePairs := by
  have no_flag : ∀ c ∈ Field.pairs, c.1 ∉ Field.flags ∧ c.2 ∉ Field.flags := by decide
  refine List.filterMap_congr fun c hc ↦ ?_
  rw [pairFault, pairFault, h.isSet_eq c.1 (no_flag c hc).1, h.isSet_eq c.2 (no_flag c hc).2]

theorem malformedValues_eq : p.malformedValues = q.malformedValues := by
  rw [malformedValues, malformedValues, List.filterMap_congr h.flagFault_eq,
    List.filterMap_congr h.numberFault_eq]

theorem rangeFaults_eq : p.rangeFaults = q.rangeFaults := by
  rw [rangeFaults, rangeFaults, secondsFault, secondsFault, portFault, portFault,
    h.number_eq .maxSeconds (by decide), h.number_eq .proxyPort (by decide), h.roleRequested_eq]

theorem danglingFields_eq : p.danglingFields = q.danglingFields := by
  have set_alike (fs : List Field) (no_flag : ∀ f ∈ fs, f ∉ Field.flags) :
      fs.filter p.isSet = fs.filter q.isSet :=
    List.filter_congr fun f hf ↦ h.isSet_eq f (no_flag f hf)
  rw [danglingFields, danglingFields, h.roleRequested_eq,
    set_alike Field.roleDependents (by decide), set_alike Field.proxy (by decide)]

/-- **The same is wrong with two sets that are read alike**, for the same causes and in the same
order. -/
theorem problems_eq : p.problems = q.problems := by
  rw [problems, problems, h.conflicts_eq, h.incompletePairs_eq, h.malformedValues_eq,
    h.rangeFaults_eq, h.danglingFields_eq]

/-! ### What validation answers -/

/-- The same is noted of a descriptor for two sets that are read alike. -/
theorem ignoredNotices_eq (d : Descriptor) : p.ignoredNotices d = q.ignoredNotices d := by
  cases d with
  | webIdentity role tokenFile =>
    rw [ignoredNotices, ignoredNotices, h.indicatingFields_eq, h.isSet_eq .externalId (by decide)]
  | default | anonymous | staticKeyPair | credentialsFile | namedProfile | assumeRole => rfl

theorem validationNotices_eq (v : Validation) : p.validationNotices v = q.validationNotices v := by
  cases v with
  | accepted d => rw [validationNotices, validationNotices, h.ignoredNotices_eq]
  | rejected problems => rfl

/-- **Validation answers the same** for parameter sets that are read alike and select the same. -/
theorem validate_eq (hp : p.overlong? = none) (hq : q.overlong? = none) (hs : p.select = q.select) :
    p.validate = q.validate := by
  have same : p.validation hp = q.validation hq := by
    by_cases sound : p.problems = []
    · have valid : p.Valid := ⟨hp, sound⟩
      have valid' : q.Valid := ⟨hq, h.problems_eq ▸ sound⟩
      have selected : valid.selected = valid'.selected :=
        Except.ok.inj ((valid.select_eq.symm.trans hs).trans valid'.select_eq)
      rw [valid.validation_eq, valid'.validation_eq, selected]
    · have sound' : q.problems ≠ [] := h.problems_eq ▸ sound
      rw [validation_eq_rejected hp sound, validation_eq_rejected hq sound', h.problems_eq]
  rw [validate_eq_ok hp, validate_eq_ok hq, same, h.validationNotices_eq]

end ReadAlike

end AwsCredentials.ParameterSet
