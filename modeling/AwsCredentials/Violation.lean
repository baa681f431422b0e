import AwsCredentials.Field
import AwsCredentials.Text.Quoted

/-!
# Violations

A violation is a problem of a configuration in the form in which users see it: its kind, the names
of the fields at fault, and a message. `Violation.line` writes it on one line with the keys of the
fields, and `configurationMessage` is the text of the error that carries a list of them.

A violation can be made of any names; a name that is no field's stands for itself.
-/

namespace AwsCredentials

/-- What a problem of a configuration is about. A report lists the kinds in this order. -/
inductive ViolationKind
  /-- Strategies that exclude each other. -/
  | conflictingStrategy
  /-- One field without its partner. -/
  | incompletePair
  /-- A text that cannot be read. -/
  | malformedValue
  /-- A number outside its range. -/
  | outOfRange
  /-- A field without the fields that give it a meaning. -/
  | danglingDependency
deriving DecidableEq

namespace ViolationKind

/-- The kinds in the order in which they are declared and reported. -/
def all : List ViolationKind :=
  [conflictingStrategy, incompletePair, malformedValue, outOfRange, danglingDependency]

/-- The name of a kind, by which reports know it. -/
def name : ViolationKind → String
  | conflictingStrategy => "conflicting_strategy"
  | incompletePair => "incomplete_pair"
  | malformedValue => "malformed_value"
  | outOfRange => "out_of_range"
  | danglingDependency => "dangling_dependency"

/-- The kind of a name, if it is the name of one. -/
def ofName? (s : String) : Option ViolationKind :=
  all.find? (·.name = s)

/-- A name leads back to its kind, so no two kinds share a name. -/
@[simp]
theorem ofName?_name (k : ViolationKind) : ofName? k.name = some k := by
  cases k <;> decide

/-- What is said of a name that no kind has, with the name quoted. -/
def unknownMessage (s : String) : String :=
  Text.quote s ++ " is not a valid ViolationKind"

end ViolationKind

/-- A problem of a configuration, as users see it. It can be made of any names, those of fields or
others. -/
structure Violation where
  /-- What it is about. -/
  kind : ViolationKind
  /-- The names of the fields at fault. -/
  names : List String
  /-- What is wrong. -/
  message : String
deriving DecidableEq

namespace Violation

/-- The key that stands for a name: the key of its field, or the name itself. -/
def keyOf (s : String) : String :=
  match Field.ofName? s with
  | some f => f.key
  | none => s

@[simp]
theorem keyOf_name (f : Field) : keyOf f.name = f.key := by
  simp [keyOf]

/-- The keys of the fields at fault, in the order of the names. Users know a field by its key. -/
def keys (v : Violation) : List String :=
  v.names.map keyOf

/-- A violation on one line: its kind, the keys of the fields at fault, and the message. -/
def line (v : Violation) : String :=
  "[" ++ v.kind.name ++ "] " ++ ", ".intercalate v.keys ++ ": " ++ v.message

end Violation

/-- The text of the error that carries violations: a head line, then a line for each of them. -/
def configurationMessage (vs : List Violation) : String :=
  "Invalid AWS credential configuration (" ++ toString vs.length ++ " problem(s)):\n"
    ++ "\n".intercalate (vs.map fun v ↦ "  - " ++ v.line)

end AwsCredentials
