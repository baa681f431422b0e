import AwsCredentials.Configuration
import AwsCredentials.Endpoint.Url
import AwsCredentials.Session.KeyFile
import AwsCredentials.Session.World

/-!
# Faults

Why no session is built. A fault that lies with a provider of credentials (a file, a profile, an
endpoint, the token service) is a `ProviderProblem`; it has a wording of its own and is raised from
the failure that caused it (`ProviderProblem.cause?`), if anything failed at all. All other faults
are passed on as they are.
-/

namespace AwsCredentials.Session

/-- A failure of the SDK: an error of one of its operations, or a profile that is not there. -/
inductive SdkFailure
  /-- There is no such profile. -/
  | profileNotFound (profile : String)
  /-- An operation raised an error. -/
  | raised (o : Operation) (e : SdkError)
deriving DecidableEq

/-- What a fault can be raised from. It is kept with the fault, so that nothing of what happened is
lost. -/
inductive Cause
  /-- A failure of the system to open a file. -/
  | system (f : Files.OpenFailure)
  /-- A malformed escape. -/
  | escape (e : Properties.MalformedEscape)
  /-- An endpoint that is not accepted. -/
  | endpoint (f : Endpoint.Fault)
  /-- A failure of the SDK. -/
  | sdk (x : SdkFailure)
deriving DecidableEq

/-- A fault of a provider of credentials. These are the faults that a caller is told to expect from
building a session. -/
inductive ProviderProblem
  /-- The file with the key pair cannot be opened. -/
  | keyFileNotOpened (path : String) (f : Files.OpenFailure)
  /-- The file with the key pair holds a malformed escape. -/
  | keyFileMalformed (path : String) (e : Properties.MalformedEscape)
  /-- The file with the key pair lacks one of its halves. -/
  | keyFileIncomplete (path : String)
  /-- The file with the token cannot be opened. -/
  | tokenFileNotOpened (path : String) (f : Files.OpenFailure)
  /-- There is no such profile. -/
  | profileNotFound (profile : String)
  /-- The endpoint of the token service is not accepted. -/
  | badEndpoint (f : Endpoint.Fault)
  /-- The token service refuses a role. -/
  | roleRefused (arn : String) (e : SdkError)
  /-- The token service refuses a role that is asked for with a token. -/
  | tokenRefused (arn : String) (e : SdkError)
deriving DecidableEq

namespace ProviderProblem

/-- What the SDK says of a profile that is not there. The profile is put in as it is. -/
def profileCause (profile : String) : String :=
  "The config profile (" ++ profile ++ ") could not be found"

/-- The wording of a provider's fault: what was tried, and what was said of the failure. -/
def message : ProviderProblem → String
  | keyFileNotOpened path f => "Could not read credentials file " ++ path ++ ": " ++ f.message
  | keyFileMalformed path e => "Could not parse credentials file " ++ path ++ ": " ++ e.message
  | keyFileIncomplete path =>
    "Credentials file " ++ path ++ " must define " ++ accessKeyProperty ++ " and "
      ++ secretKeyProperty ++ "."
  | tokenFileNotOpened path f =>
    "Could not read web identity token file " ++ path ++ ": " ++ f.message
  | profileNotFound profile =>
    "AWS profile '" ++ profile ++ "' could not be loaded: " ++ profileCause profile
  | badEndpoint f => f.message
  | roleRefused arn e => "Failed to assume role " ++ arn ++ ": " ++ e.message .assumeRole
  | tokenRefused arn e =>
    "Failed to assume role " ++ arn ++ " with web identity: "
      ++ e.message .assumeRoleWithWebIdentity

/-- What a provider's fault is raised from, if anything failed. A key pair that is incomplete is a
fault without a failure behind it. -/
def cause? : ProviderProblem → Option Cause
  | keyFileNotOpened _ f => some (.system f)
  | keyFileMalformed _ e => some (.escape e)
  | keyFileIncomplete _ => none
  | tokenFileNotOpened _ f => some (.system f)
  | profileNotFound profile => some (.sdk (.profileNotFound profile))
  | badEndpoint f => some (.endpoint f)
  | roleRefused _ e => some (.sdk (.raised .assumeRole e))
  | tokenRefused _ e => some (.sdk (.raised .assumeRoleWithWebIdentity e))

end ProviderProblem

/-- Why no session is built. Beside the faults of providers there are those that leave a build as
they are. -/
inductive Fault
  /-- The configuration does not resolve. -/
  | refused (r : Configuration.Refusal)
  /-- A provider of credentials is at fault. -/
  | provider (p : ProviderProblem)
  /-- The path of a file holds a NUL. -/
  | embeddedNull
  /-- A file is not the form of a text. -/
  | undecodable (f : Text.Utf8Fault)
  /-- An operation raised an error that is not the library's to explain. -/
  | operation (o : Operation) (e : SdkError)
  /-- The token service answered with data of a wrong shape. -/
  | response (f : MemberFault)
deriving DecidableEq

namespace Fault

/-- The fault of a file with a key pair. Of what can go wrong with reading, only a failure of the
system is made a provider's fault. -/
def ofKeyFile (path : String) : KeyFileFault → Fault
  | .unreadable .embeddedNull => embeddedNull
  | .unreadable (.notOpened f) => provider (.keyFileNotOpened path f)
  | .unreadable (.undecodable f) => undecodable f
  | .malformed e => provider (.keyFileMalformed path e)
  | .incomplete => provider (.keyFileIncomplete path)

/-- The fault of a file with a token. Of what can go wrong with reading, only a failure of the
system is made a provider's fault. -/
def ofTokenFile (path : String) : Files.ReadFault → Fault
  | .embeddedNull => embeddedNull
  | .notOpened f => provider (.tokenFileNotOpened path f)
  | .undecodable f => undecodable f

end Fault

end AwsCredentials.Session
