import AwsCredentials.Validation.Problem
import AwsCredentials.Validation.Reading

/-!
# The rules of validation

Five groups of rules look at a parameter set, each on its own, and `problems` is all that they find,
in this order:

* `conflicts`: at most one base is indicated, and a role is not requested with a base that does not
  sign, unless there is a token;
* `incompletePairs`: fields that belong together are set together;
* `malformedValues`: flags and whole numbers can be read, flags first;
* `rangeFaults`: the time of a requested role and the port of a proxy lie in their ranges;
* `danglingFields`: what means something only for a requested role is not set without one.

A parameter set is `Valid` when no rule finds anything and no number is too long to convert. The law
kept here, `Valid.exists_number`, is the one that selection rests on: in a valid parameter set every
whole number that is set can be read.
-/

namespace AwsCredentials.ParameterSet

variable (p : ParameterSet)

/-- The bases that exclude each other, and the base that excludes the requested role. -/
def conflicts : List Problem :=
  (if 2 ≤ p.indicated.length then [.conflictingBases p.indicated p.indicatingFields] else [])
    ++ if p.flag .useAnonymous = some true ∧ p.roleRequested ∧ ¬p.isSet .tokenFile
      then [.anonymousRole] else []

/-- What is wrong with two fields that belong together: one is set and the other is not. -/
def pairFault (first second : Field) : Option Problem :=
  match p.isSet first, p.isSet second with
  | true, false => some (.secondMissing first second)
  | false, true => some (.firstMissing first second)
  | _, _ => none

/-- The pairs of which one field is set, each reported under the fields that it is about. -/
def incompletePairs : List Problem :=
  Field.pairs.filterMap fun q ↦ p.pairFault q.1 q.2

/-- What is wrong with the text of a flag: that it is neither of the two words. -/
def flagFault (f : Field) : Option Problem :=
  match p.text f with
  | none => none
  | some s => if readFlag s = none then some (.notAFlag f s) else none

/-- What is wrong with the text of a whole number: that it is none. One that is too long is not
looked at here. -/
def numberFault (f : Field) : Option Problem :=
  match p.text f with
  | none => none
  | some s => if Text.readWhole s.toList = .malformed then some (.notAWholeNumber f s) else none

/-- The flags and whole numbers that cannot be read, flags first. -/
def malformedValues : List Problem :=
  Field.flags.filterMap p.flagFault ++ Field.wholeNumbers.filterMap p.numberFault

/-- What is wrong with the time that a role is requested for. -/
def secondsFault : Option Problem :=
  match p.number .maxSeconds with
  | none => none
  | some n =>
    if p.roleRequested ∧ ¬(leastMaxSeconds ≤ n ∧ n ≤ greatestMaxSeconds)
    then some (.secondsOutOfRange n) else none

/-- What is wrong with the port of the proxy, if it was read: that it lies outside the range of
ports. -/
def portFault : Option Problem :=
  match p.number .proxyPort with
  | none => none
  | some n => if ¬(0 < n ∧ n ≤ greatestPort) then some (.portOutOfRange n) else none

/-- The numbers outside their ranges. A number that cannot be read is malformed and has no range. -/
def rangeFaults : List Problem :=
  p.secondsFault.toList ++ p.portFault.toList

/-- The fields that mean nothing because no role is requested. -/
def danglingFields : List Problem :=
  if p.roleRequested then []
  else
    (Field.roleDependents.filter p.isSet).map .dangling
      ++ match Field.proxy.filter p.isSet with
        | [] => []
        | fields => [.danglingProxy fields]

/-- All that is wrong with a parameter set, one group of rules after the other. No rule waits for
another to be kept. -/
def problems : List Problem :=
  p.conflicts ++ p.incompletePairs ++ p.malformedValues ++ p.rangeFaults ++ p.danglingFields

/-! ### Valid parameter sets -/

/-- A parameter set is valid when its numbers can be converted and nothing is wrong with it. -/
structure Valid : Prop where
  /-- No number is too long to convert. -/
  convertible : p.overlong? = none
  /-- No rule finds a problem. -/
  sound : p.problems = []

instance : Decidable p.Valid :=
  decidable_of_iff (p.overlong? = none ∧ p.problems = [])
    ⟨fun h ↦ ⟨h.1, h.2⟩, fun h ↦ ⟨h.convertible, h.sound⟩⟩

variable {p}

theorem problems_eq_nil_iff :
    p.problems = [] ↔ p.conflicts = [] ∧ p.incompletePairs = [] ∧ p.malformedValues = [] ∧
      p.rangeFaults = [] ∧ p.danglingFields = [] := by
  simp only [problems, List.append_eq_nil_iff, and_assoc]

/-- No pair is incomplete exactly when the fields of each pair are set together. -/
theorem incompletePairs_eq_nil_iff :
    p.incompletePairs = [] ↔ ∀ q ∈ Field.pairs, p.isSet q.1 = p.isSet q.2 := by
  simp only [incompletePairs, List.filterMap_eq_nil_iff, pairFault]
  refine forall_congr' fun q ↦ imp_congr_right fun _ ↦ ?_
  cases p.isSet q.1 <;> cases p.isSet q.2 <;> simp

theorem numberFault_eq_none_iff {f : Field} :
    p.numberFault f = none ↔
      ∀ s, p.text f = some s → Text.readWhole s.toList ≠ .malformed := by
  unfold numberFault
  cases p.text f <;> simp

/-- In a valid parameter set, the fields of a pair are set together. This is what selection relies
on. -/
theorem Valid.isSet_eq (h : p.Valid) {q : Field × Field} (hq : q ∈ Field.pairs) :
    p.isSet q.1 = p.isSet q.2 :=
  incompletePairs_eq_nil_iff.1 (problems_eq_nil_iff.1 h.sound).2.1 q hq

/-- In a valid parameter set, a whole number that is set says a number: it is neither malformed nor
too long. -/
theorem Valid.exists_number (h : p.Valid) {f : Field} (hf : f ∈ Field.wholeNumbers)
    (hs : p.isSet f = true) : ∃ n, p.number f = some n := by
  obtain ⟨s, hs⟩ := isSet_eq_true_iff.1 hs
  have sound : p.numberFault f = none := by
    have malformed := (problems_eq_nil_iff.1 h.sound).2.2.1
    exact List.filterMap_eq_nil_iff.1 (List.append_eq_nil_iff.1 malformed).2 f hf
  cases hr : Text.readWhole s.toList with
  | malformed => exact absurd hr (numberFault_eq_none_iff.1 sound s hs)
  | overlong o => exact absurd hr (overlong?_eq_none_iff.1 h.convertible f hf s hs o)
  | number n => exact ⟨n, number_eq_some_iff.2 ⟨s, hs, hr⟩⟩

end AwsCredentials.ParameterSet
