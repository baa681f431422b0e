import AwsCredentials.Field

/-!
# Strategies

A strategy is a way to come by credentials. Five of them stand on their own and are called *bases*;
the other two assume a role, one with the credentials of a base and one with a web identity token.
A base is indicated by the fields that belong to it.
-/

namespace AwsCredentials

/-- A way to come by credentials, without the values that it needs. -/
inductive Strategy
  /-- The credentials that the surroundings offer. -/
  | default
  /-- No credentials: requests are not signed. -/
  | anonymous
  /-- A key pair that is given. -/
  | staticKeyPair
  /-- A key pair that a file holds. -/
  | credentialsFile
  /-- The credentials of a profile. -/
  | namedProfile
  /-- A role, assumed with the credentials of a base. -/
  | assumeRole
  /-- A role, assumed with a web identity token. -/
  | webIdentity
deriving DecidableEq

namespace Strategy

/-- The strategies in the order in which they are declared, the five bases first. -/
def all : List Strategy :=
  [default, anonymous, staticKeyPair, credentialsFile, namedProfile, assumeRole, webIdentity]

/-- The name of a strategy, by which notices and reports know it. -/
def name : Strategy → String
  | default => "default"
  | anonymous => "anonymous"
  | staticKeyPair => "static_key_pair"
  | credentialsFile => "credentials_file"
  | namedProfile => "named_profile"
  | assumeRole => "assume_role"
  | webIdentity => "assume_role_with_web_identity"

/-- Every strategy is listed, so that what holds of the list holds of all strategies. -/
theorem mem_all (s : Strategy) : s ∈ all := by
  cases s <;> decide

end Strategy

/-- A strategy that stands on its own: it needs no other credentials, and a role can be assumed with
it. -/
inductive Base
  /-- The credentials that the surroundings offer. -/
  | default
  /-- No credentials. -/
  | anonymous
  /-- A key pair that is given. -/
  | staticKeyPair
  /-- A key pair that a file holds. -/
  | credentialsFile
  /-- The credentials of a profile. -/
  | namedProfile
deriving DecidableEq

namespace Base

/-- The bases in the order in which they are declared, which is the order in which those that
are indicated are listed. -/
def all : List Base :=
  [default, anonymous, staticKeyPair, credentialsFile, namedProfile]

/-- A base as a strategy: what is selected if no role is requested. -/
def strategy : Base → Strategy
  | default => .default
  | anonymous => .anonymous
  | staticKeyPair => .staticKeyPair
  | credentialsFile => .credentialsFile
  | namedProfile => .namedProfile

/-- The fields that belong to a base. No field belongs to two of them. -/
def fields : Base → List Field
  | default => [.useDefault]
  | anonymous => [.useAnonymous]
  | staticKeyPair => [.accessKey, .secretKey]
  | credentialsFile => [.credentialsFile]
  | namedProfile => [.profileName]

/-- Every base is listed, so that a search among the listed ones finds any. -/
theorem mem_all (b : Base) : b ∈ all := by
  cases b <;> decide

end Base

end AwsCredentials
