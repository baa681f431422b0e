import AwsCredentials.Files.Tree
import AwsCredentials.Session.Datum

/-!
# The world that sessions are built in

What the outcome of building a session depends on, apart from the descriptor: the files, the
profiles that there are, whether clients can be had, and how the token service answers.

The answers of the token service are a script: the `n`-th call, counted from 0, gets the `n`-th
answer, and calls beyond the script are answered with credentials that tell the calls apart
(`issuedCredentials`).
-/

namespace AwsCredentials.Session

/-- An operation that can fail with an error of the service. Opening a session is not among them. -/
inductive Operation
  /-- A client is requested. -/
  | createClient
  /-- A role is assumed with the credentials of a session. -/
  | assumeRole
  /-- A role is assumed with a web identity token. -/
  | assumeRoleWithWebIdentity
deriving DecidableEq

namespace Operation

/-- The name of an operation, as the messages of the SDK quote it. -/
def name : Operation → String
  | createClient => "CreateClient"
  | assumeRole => "AssumeRole"
  | assumeRoleWithWebIdentity => "AssumeRoleWithWebIdentity"

end Operation

/-- An error that an operation can raise. All but the last are errors of the SDK. -/
inductive SdkError
  /-- The service refuses the operation. -/
  | service (code message : String)
  /-- There are no credentials to sign with. -/
  | noCredentials
  /-- There is no region. -/
  | noRegion
  /-- The endpoint cannot be reached. -/
  | unreachable (url : String)
  /-- The endpoint does not answer in time. -/
  | timeout (url : String)
  /-- Something went wrong outside the SDK. -/
  | foreign (message : String)
deriving DecidableEq

namespace SdkError

/-- The wording of an error of an operation. Only a refusal of the service tells which operation it
was. -/
def message (operation : Operation) : SdkError → String
  | service code message =>
    "An error occurred (" ++ code ++ ") when calling the " ++ operation.name ++ " operation: "
      ++ message
  | noCredentials => "Unable to locate credentials"
  | noRegion => "You must specify a region."
  | unreachable url => "Could not connect to the endpoint URL: \"" ++ url ++ "\""
  | timeout url => "Connect timeout on endpoint URL: \"" ++ url ++ "\""
  | foreign message => message

/-- An error that comes from outside the SDK. Nothing translates it. -/
def isForeign : SdkError → Bool
  | foreign _ => true
  | _ => false

end SdkError

/-- How the token service answers a call: with a response, which may have any shape, or with an
error. -/
inductive Answer
  /-- With credentials of its own making. -/
  | issue
  /-- With this response. -/
  | respond (d : Datum)
  /-- With an error. -/
  | refuse (e : SdkError)

/-- The response with credentials that tell a call from others by its number. -/
def issuedCredentials (n : Nat) : Datum :=
  .object [("Credentials", .object [
    ("AccessKeyId", .text ("ASIA" ++ toString n)),
    ("SecretAccessKey", .text ("temp-secret-" ++ toString n)),
    ("SessionToken", .text ("temp-token-" ++ toString n))])]

/-- What building a session depends on. None of it changes while a session is built. -/
structure World where
  /-- The files. -/
  files : Files.FileTree
  /-- The profiles that there are; if nothing is known of them, any profile is there. -/
  profiles : Option (List String)
  /-- The error that requesting a client raises, if it raises one. -/
  clientError : Option SdkError
  /-- The answers of the token service. -/
  answers : List Answer

namespace World

/-- The answer to a call by its number. Beyond the script every call is answered with
credentials. -/
def answer (w : World) (n : Nat) : Answer :=
  w.answers[n]?.getD .issue

/-- A profile is there: it is listed, or there is no list. -/
def hasProfile (w : World) (profile : String) : Bool :=
  match w.profiles with
  | none => true
  | some profiles => profiles.contains profile

end World

end AwsCredentials.Session
