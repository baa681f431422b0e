import AwsCredentials.Dictionary
import AwsCredentials.Parameters.Basic
import AwsCredentials.Text.LetterCase

/-!
# Where parameter sets come from

Values for the fields come from a mapping, and on request from the environment as well. In a mapping
a field goes by its name, in any letter case, or by its key, written exactly; entries under other
names are ignored. In the environment a field goes by `variableStem` and its name, in any letter
case, and the last such variable counts.

What is given is gathered in steps, and what counts in the end is decided by the order of entries
alone (`Mapping.valueBeside`).

* The entries of the mapping are arranged (`Mapping.arguments`). Those under the names of fields
  come first, in the order of the fields and under the exact names; for each field it is the first
  that is given under its name in any letter case. Those under keys, and under names of no field,
  follow.
* They are merged with the values of the environment (`Mapping.mergeWith`), which come before them,
  and which they replace under the same name.
* The fields that the mapping gives under their exact names are put last (`Mapping.restore`).
* Only then the keys are replaced by the names (`Mapping.byName`), and of two entries for one field
  the later one counts.

A mapping that is read alone is gathered in the same steps, without an environment. But its keys are
replaced by the names before the first step as well (`Mapping.value?`), and for this reason the two
ways to read a mapping need not agree on a field that goes by its name and by its key.
-/

namespace AwsCredentials

/-! ### Mappings -/

/-- Values under names and keys, in the order in which they are given. Names may be any texts, and
nothing keeps two of them from meaning one field. -/
abbrev Mapping := List (String × Value)

namespace Mapping

/-- The name that an entry goes by: a key stands for the name of its field. -/
def nameOf (s : String) : String :=
  match Field.ofKey? s with
  | some f => f.name
  | none => s

/-- The mapping with the name in the place of each key. Where this makes two names the same, the
later value takes the place of the earlier one. -/
def byName (m : Mapping) : Mapping :=
  (Dictionary.ofList (m.map fun e ↦ (nameOf e.1, e.2))).entries

/-- The first value under the name of a field, in any letter case. -/
def named? (m : Mapping) (f : Field) : Option Value :=
  (m.find? fun e ↦ decide (Text.IsVariantOf e.1 f.name)).map Prod.snd

/-- The entries of values that are given field by field, in the order of the fields. -/
def ofFields (value : Field → Option Value) : Mapping :=
  Field.all.filterMap fun f ↦ (value f).map fun v ↦ (f.name, v)

/-- A name is the name of some field, in any letter case. -/
def isNamed (s : String) : Bool :=
  Field.all.any fun f ↦ decide (Text.IsVariantOf s f.name)

/-- The entries under keys and under names of no field. A key is no name of a field yet, so it is
among them. -/
def others (m : Mapping) : Mapping :=
  m.filter fun e ↦ !isNamed e.1

/-- The entries of a mapping, those under the names of fields first and under the exact names. -/
def arguments (m : Mapping) : Mapping :=
  ofFields m.named? ++ m.others

@[simp]
theorem nameOf_key (f : Field) : nameOf f.key = f.name := by
  simp [nameOf]

@[simp]
theorem nameOf_name (f : Field) : nameOf f.name = f.name := by
  simp [nameOf]

end Mapping

/-! ### The environment -/

/-- The variables of the environment and their values, in order. Most of them concern other
programs. -/
abbrev Environment := List (String × String)

namespace Environment

/-- What the variable of a field begins with. Variables of other programs are kept apart by it. -/
def variableStem : String := "AWS_AUTH_"

/-- A variable belongs to a field when it is, but for letter case, the stem and the field's name. -/
def Names (v : String) (f : Field) : Prop :=
  Text.lower v.toList = Text.lower (variableStem ++ f.name).toList

instance (v : String) (f : Field) : Decidable (Names v f) :=
  inferInstanceAs (Decidable (_ = _))

/-- The value that the environment gives to a field: that of its last variable, since variables that
differ in letter case are one to it. -/
def value? (e : Environment) (f : Field) : Option String :=
  (e.reverse.find? fun v ↦ decide (Names v.1 f)).map Prod.snd

/-- The values that the environment gives to the fields, under the names of the fields. -/
def entries (e : Environment) : Mapping :=
  Mapping.ofFields fun f ↦ (e.value? f).map .text

end Environment

/-! ### Gathering -/

namespace Mapping

/-- The entries of the environment and of a mapping, where those of the mapping replace those of the
environment under the same name. -/
def mergeWith (m : Mapping) (e : Environment) : Dictionary String Value :=
  (Dictionary.ofList e.entries).insertMany m.arguments

/-- The exact name of a field is among the names of a mapping. Other spellings of the name and the
key do not count here. -/
def hasName (m : Mapping) (f : Field) : Bool :=
  m.any fun e ↦ e.1 = f.name

/-- Entries with that of a field in the last place, if its exact name is among the names of a
mapping. -/
def restoreField (m : Mapping) (d : Dictionary String Value) (f : Field) :
    Dictionary String Value :=
  if m.hasName f then d.moveToEnd f.name else d

/-- Entries with those in the last places, in the order of the fields, whose exact names are among
the names of a mapping. -/
def restore (m : Mapping) (d : Dictionary String Value) : Dictionary String Value :=
  Field.all.foldl m.restoreField d

/-- The value that a mapping gives to a field when it is read beside an environment. -/
def valueBeside (m : Mapping) (e : Environment) (f : Field) : Option Value :=
  Dictionary.find? f.name (byName (m.restore (m.mergeWith e)).entries)

/-- The value that a mapping gives to a field when it is read alone. -/
def value? (m : Mapping) (f : Field) : Option Value :=
  m.byName.valueBeside [] f

end Mapping

/-! ### Parameter sets -/

/-- What is offered as the values of a parameter set: a mapping, as it should be, or anything
else. -/
inductive Offer
  /-- A mapping. -/
  | mapping (m : Mapping)
  /-- Something that is no mapping. -/
  | other
deriving DecidableEq

/-- Why an offer does not make a parameter set: because of what it is, or because of the values in
it. -/
inductive OfferFault
  /-- What is offered is no mapping. -/
  | notAMapping
  /-- Some values cannot be held by their fields. -/
  | values (faults : List FieldFault)
deriving DecidableEq

/-- What is said of an offer that is no mapping. It names what was expected and nothing of the
offer. -/
def notAMappingMessage : String :=
  "Input should be a valid dictionary or instance of AuthParameters"

namespace ParameterSet

/-- The value of a field in a mapping that is read alone, where a field without an entry is given no
value. -/
def mappingValue (m : Mapping) (f : Field) : Value :=
  (m.value? f).getD .absent

/-- The value of a field in a mapping that is read beside an environment. A field is without a value
only if neither has an entry for it. -/
def layeredValue (m : Mapping) (e : Environment) (f : Field) : Value :=
  (m.valueBeside e f).getD .absent

/-- The parameter set of a mapping alone, whatever the environment holds. -/
def ofMapping (m : Mapping) : Except (List FieldFault) ParameterSet :=
  ofValues (mappingValue m)

/-- The parameter set of a mapping and the environment. With an empty mapping it is that of the
environment. -/
def ofLayers (m : Mapping) (e : Environment) : Except (List FieldFault) ParameterSet :=
  ofValues (layeredValue m e)

/-- The parameter set of an offer and the environment. What is no mapping is refused before the
environment is looked at. -/
def ofOffer (o : Offer) (e : Environment) : Except OfferFault ParameterSet :=
  match o with
  | .mapping m => (ofLayers m e).mapError .values
  | .other => .error .notAMapping

end ParameterSet

end AwsCredentials
