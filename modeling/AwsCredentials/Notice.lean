import AwsCredentials.Strategy

/-!
# Notices

A notice is a record for a log: it says what the library decided or is about to do. Notices name
fields and strategies but hold no text of a user.
-/

namespace AwsCredentials

/-- How much a notice matters. Only two of the usual levels occur. -/
inductive Level
  /-- A detail, for those who search for a fault. -/
  | debug
  /-- An event of normal use. -/
  | info
deriving DecidableEq

/-- A record for a log. What it can hold shows that no text of a user is ever written there: counts,
fields and strategies. -/
inductive Notice
  /-- A parameter set was rejected with so many violations. -/
  | rejected (count : Nat)
  /-- A token was given, so these fields of bases do not matter. -/
  | ignoredBases (fields : List Field)
  /-- A token was given, so the external id does not matter. -/
  | ignoredExternalId
  /-- A parameter set selects this strategy. -/
  | selected (s : Strategy)
  /-- A session for this strategy is about to be built. -/
  | building (s : Strategy)
deriving DecidableEq

namespace Level

/-- The name of a level, as logs write it. -/
def name : Level → String
  | debug => "DEBUG"
  | info => "INFO"

end Level

namespace Notice

/-- The name of the log that a notice goes to: one for what is decided and one for what is built. -/
def logger : Notice → String
  | rejected _ => "awstoolbox.auth.resolver"
  | ignoredBases _ => "awstoolbox.auth.resolver"
  | ignoredExternalId => "awstoolbox.auth.resolver"
  | selected _ => "awstoolbox.auth.resolver"
  | building _ => "awstoolbox.auth.factory"

/-- How much a notice matters. What is decided in detail is for those who search for a fault; a
rejection and a session that is built are events of normal use. -/
def level : Notice → Level
  | rejected _ => .info
  | ignoredBases _ => .debug
  | ignoredExternalId => .debug
  | selected _ => .debug
  | building _ => .info

/-- The text of a notice, in the wording of the log. -/
def message : Notice → String
  | rejected count =>
    "AWS credential configuration rejected with " ++ toString count ++ " violation(s)"
  | ignoredBases fields =>
    "Web identity selected; ignoring base strategy fields: "
      ++ ", ".intercalate (fields.map Field.key)
  | ignoredExternalId =>
    Field.externalId.key ++ " is not used by web identity role assumption"
  | selected s => "Selected AWS credential strategy: " ++ s.name
  | building s => "Building AWS session for strategy " ++ s.name

end Notice

end AwsCredentials
