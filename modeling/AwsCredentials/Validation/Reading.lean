import AwsCredentials.Parameters.Basic
import AwsCredentials.Strategy
import AwsCredentials.Text.LetterCase

/-!
# What the fields of a parameter set say

Four fields are read: two flags and two whole numbers. This module defines what each of them says
and the notions that the rules of validation are stated in.

* `flag` and `number` are what a field says when it is read; they are absent both when the field is
  not set and when it cannot be read.
* `overlong?` is the first number that is too long to convert; no parameter set that has one is
  validated.
* A base is *indicated* when one of its fields is; a flag indicates its base only when it is true,
  any other field when it is set.
* A role is *requested* when both the role and the name of the session are set.
-/

namespace AwsCredentials

/-- What a text says when it is read as a flag: the words are `true` and `false`, in any letter
case. -/
def readFlag (s : String) : Option Bool :=
  if Text.IsVariantOf s "true" then some true
  else if Text.IsVariantOf s "false" then some false
  else none

namespace ParameterSet

/-- A field is set when it holds a text, which is the one that rules and selection look at. -/
theorem isSet_eq_true_iff {p : ParameterSet} {f : Field} :
    p.isSet f = true ↔ ∃ s, p.text f = some s :=
  Option.isSome_iff_exists

/-- What a field says as a flag, if it holds a text and the text is one of the two words. -/
def flag (p : ParameterSet) (f : Field) : Option Bool :=
  (p.text f).bind readFlag

/-- What a field says as a whole number, if it holds a text and the text spells one. -/
def number (p : ParameterSet) (f : Field) : Option Int :=
  match (p.text f).map fun s ↦ Text.readWhole s.toList with
  | some (.number n) => some n
  | _ => none

/-- The first of the fields read as whole numbers that is too long to convert. -/
def overlong? (p : ParameterSet) : Option Text.Overlong :=
  Field.wholeNumbers.findSome? fun f ↦
    match (p.text f).map fun s ↦ Text.readWhole s.toList with
    | some (.overlong o) => some o
    | _ => none

theorem flag_eq_some_iff {p : ParameterSet} {f : Field} {b : Bool} :
    p.flag f = some b ↔ ∃ s, p.text f = some s ∧ readFlag s = some b :=
  Option.bind_eq_some_iff

theorem number_eq_some_iff {p : ParameterSet} {f : Field} {n : Int} :
    p.number f = some n ↔ ∃ s, p.text f = some s ∧ Text.readWhole s.toList = .number n := by
  unfold number
  cases p.text f with
  | none => simp
  | some s => cases h : Text.readWhole s.toList <;> simp [h]

/-- No number is too long exactly when none of the texts read as whole numbers is. -/
theorem overlong?_eq_none_iff {p : ParameterSet} :
    p.overlong? = none ↔ ∀ f ∈ Field.wholeNumbers, ∀ s, p.text f = some s →
      ∀ o, Text.readWhole s.toList ≠ .overlong o := by
  simp only [overlong?, List.findSome?_eq_none_iff]
  refine forall_congr' fun f ↦ imp_congr_right fun _ ↦ ?_
  cases p.text f with
  | none => simp
  | some s => cases h : Text.readWhole s.toList <;> simp [h]

/-! ### Bases and roles -/

/-- A field indicates its base: a flag when it is true, any other field when it is set. -/
def indicates (p : ParameterSet) (f : Field) : Bool :=
  if f ∈ Field.flags then p.flag f = some true else p.isSet f

/-- The fields that indicate a base, of those that belong to it. -/
def indicating (p : ParameterSet) (b : Base) : List Field :=
  b.fields.filter p.indicates

/-- The bases that are indicated, in the order in which they are declared. More than one is a
conflict. -/
def indicated (p : ParameterSet) : List Base :=
  Base.all.filter fun b ↦ p.indicating b ≠ []

/-- The fields that indicate any base, in the order of the bases. Messages name them. -/
def indicatingFields (p : ParameterSet) : List Field :=
  p.indicated.flatMap p.indicating

/-- A role is requested: both fields that request a role are set. One of them alone is an incomplete
pair and requests nothing. -/
def roleRequested (p : ParameterSet) : Bool :=
  p.isSet .roleArn && p.isSet .roleSessionName

end ParameterSet

end AwsCredentials
