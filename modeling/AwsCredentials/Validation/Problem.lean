import AwsCredentials.Descriptor
import AwsCredentials.Text.WholeNumber
import AwsCredentials.Violation

/-!
# Problems

A `Problem` is what validation finds wrong with a parameter set, by cause. Each cause determines the
kind, the fields and the message of the violation that reports it (`Problem.violation`), so the
wording of a report is stated in this module alone.

The only texts of a user that enter a message are those of flags and whole numbers that cannot be
read, and they enter it quoted.
-/

namespace AwsCredentials

/-- Something that is wrong with a parameter set. A problem holds what its message says and no
more. -/
inductive Problem
  /-- More than one base is indicated, by these fields. -/
  | conflictingBases (bases : List Base) (fields : List Field)
  /-- A role is requested without a token, and the base is not to sign. -/
  | anonymousRole
  /-- Of a pair only the first field is set. -/
  | secondMissing (first second : Field)
  /-- Of a pair only the second field is set. -/
  | firstMissing (first second : Field)
  /-- A flag that is neither true nor false. -/
  | notAFlag (field : Field) (text : String)
  /-- A text that is no whole number. -/
  | notAWholeNumber (field : Field) (text : String)
  /-- A role is requested for a time that is too short or too long. -/
  | secondsOutOfRange (seconds : Int)
  /-- A port that no proxy has. -/
  | portOutOfRange (port : Int)
  /-- A field that means something only when a role is requested, and none is. -/
  | dangling (field : Field)
  /-- A proxy, given by these fields, when no role is requested. -/
  | danglingProxy (fields : List Field)
deriving DecidableEq

namespace Problem

/-- What a problem is about. Problems of one kind are looked for together and reported one after the
other. -/
def kind : Problem → ViolationKind
  | conflictingBases _ _ => .conflictingStrategy
  | anonymousRole => .conflictingStrategy
  | secondMissing _ _ => .incompletePair
  | firstMissing _ _ => .incompletePair
  | notAFlag _ _ => .malformedValue
  | notAWholeNumber _ _ => .malformedValue
  | secondsOutOfRange _ => .outOfRange
  | portOutOfRange _ => .outOfRange
  | dangling _ => .danglingDependency
  | danglingProxy _ => .danglingDependency

/-- The fields at fault, in the order in which the report names them. -/
def fields : Problem → List Field
  | conflictingBases _ fields => fields
  | anonymousRole => [.useAnonymous, .roleArn, .roleSessionName]
  | secondMissing first second => [first, second]
  | firstMissing first second => [first, second]
  | notAFlag field _ => [field]
  | notAWholeNumber field _ => [field]
  | secondsOutOfRange _ => [.maxSeconds]
  | portOutOfRange _ => [.proxyPort]
  | dangling field => [field]
  | danglingProxy fields => fields

/-- The two fields that request a role, as messages name them: by their keys, since users know
fields by these. -/
def roleKeys : String :=
  Field.roleArn.key ++ " and " ++ Field.roleSessionName.key

/-- The message that only one field of a pair is set. -/
def pairMessage (present missing : Field) : String :=
  present.key ++ " is set but " ++ missing.key ++ " is missing"

/-- The message of a problem. Texts of users are quoted in it, and only those of flags and whole
numbers that cannot be read. -/
def message : Problem → String
  | conflictingBases bases _ =>
    "mutually exclusive credential strategies configured: "
      ++ ", ".intercalate (bases.map fun b ↦ b.strategy.name)
  | anonymousRole => "anonymous credentials cannot be used to assume a role"
  | secondMissing first second => pairMessage first second
  | firstMissing first second => pairMessage second first
  | notAFlag _ text => "expected 'true' or 'false', got " ++ Text.quote text
  | notAWholeNumber _ text => "expected a whole number, got " ++ Text.quote text
  | secondsOutOfRange seconds =>
    "must be between " ++ Text.decimal leastMaxSeconds ++ " and "
      ++ Text.decimal greatestMaxSeconds ++ " seconds, got " ++ Text.decimal seconds
  | portOutOfRange port =>
    "must be between 1 and " ++ Text.decimal greatestPort ++ ", got " ++ Text.decimal port
  | dangling _ => "only applies when " ++ roleKeys ++ " are both set"
  | danglingProxy _ => "proxy settings apply only to STS calls and require " ++ roleKeys

/-- The violation that reports a problem: its kind, the names of its fields, and its message. -/
def violation (p : Problem) : Violation :=
  ⟨p.kind, p.fields.map Field.name, p.message⟩

@[simp]
theorem kind_violation (p : Problem) : p.violation.kind = p.kind :=
  rfl

/-- A report shows the keys of the fields at fault, although a violation holds their names. -/
@[simp]
theorem keys_violation (p : Problem) : p.violation.keys = p.fields.map Field.key := by
  simp [violation, Violation.keys, Function.comp_def]

end Problem

end AwsCredentials
