import AwsCredentials.Session.Trace

/-!
# Building sessions

`build` opens a session for a descriptor. The descriptor of a role takes four steps: a session to
ask with, which for a role without a token is built from the base; a client of the token service on
that session; the call; and a session with the credentials of the response. Each step is taken only
after the one before it succeeded, and nothing happens after a fault.

`getSession` builds a session for what a configuration resolves to.
-/

namespace AwsCredentials.Session

variable (w : World)

/-! ### Single steps -/

/-- Opens a session and answers with its number. Nothing is checked at this point, so it always
succeeds. -/
def openSession (arguments : SessionArguments) : Run Nat := do
  let t ← get
  Run.record (.session t.nextSession arguments)
  return t.nextSession

/-- Opening a session always succeeds and is one event, whose number is that of the next session. -/
@[simp]
theorem startedAt_openSession (arguments : SessionArguments) (t : Trace) :
    (openSession arguments).startedAt t =
      (.ok t.nextSession, t.record (.session t.nextSession arguments)) :=
  rfl

/-- Opens a session for a profile, which has to be there. That the session was asked for is an event
also where the profile is missing. -/
def openProfile (profile : String) : Run Nat := do
  let session ← openSession (.profile profile)
  if w.hasProfile profile then return session
  else throw (.provider (.profileNotFound profile))

/-- The URL of the endpoint of a request, if it names one; an empty endpoint counts as none. -/
def endpointUrl (role : RoleRequest) : Run (Option String) :=
  match role.endpoint with
  | none => return none
  | some endpoint =>
    if endpoint = "" then return none
    else do
      let url ← Run.ofExcept (fun f ↦ .provider (.badEndpoint f)) (Endpoint.url endpoint)
      return some url

/-- Requests a client of the token service on a session. The endpoint is looked at before the
request is made, so a bad one is no event. -/
def requestClient (role : RoleRequest) (unsigned : Bool) (session : Nat) : Run Unit := do
  let url ← endpointUrl role
  Run.record (.client session {
    region := role.region
    proxyUrl := role.proxy.map fun p ↦ Endpoint.proxyUrl p.host p.port
    unsigned := unsigned
    endpointUrl := url })
  match w.clientError with
  | none => return ()
  | some e => throw (.operation .createClient e)

/-- The fault of a call that raised an error: an error from outside the SDK is passed on, any other
is explained. -/
def callFault : Call → SdkError → Fault
  | c, .foreign message => .operation c.operation (.foreign message)
  | .assumeRole arn _ _ _, e => .provider (.roleRefused arn e)
  | .assumeRoleWithWebIdentity arn _ _ _, e => .provider (.tokenRefused arn e)

/-- Calls the token service and answers with its response. The call is an event whether it is
answered or refused. -/
def callService (c : Call) : Run Datum := do
  let t ← get
  Run.record (.call c)
  match w.answer t.nextCall with
  | .issue => return issuedCredentials t.nextCall
  | .respond d => return d
  | .refuse e => throw (callFault c e)

/-- What a session is opened with after a response: the three members of its credentials, which are
looked up in this order. -/
def temporaryArguments (response : Datum) : Except MemberFault SessionArguments := do
  let credentials ← response.member "Credentials"
  let accessKeyId ← credentials.member "AccessKeyId"
  let secretAccessKey ← credentials.member "SecretAccessKey"
  let sessionToken ← credentials.member "SessionToken"
  return .temporary accessKeyId secretAccessKey sessionToken

/-- Opens a session with the credentials of a response, if the response has them; if it lacks one,
no session is opened. -/
def openTemporary (response : Datum) : Run Nat := do
  openSession (← Run.ofExcept .response (temporaryArguments response))

/-- The last three steps for a role: a client on a session, the call, the session for its
response. -/
def enterRole (role : RoleRequest) (unsigned : Bool) (c : Call) (session : Nat) : Run Nat := do
  requestClient w role unsigned session
  let response ← callService w c
  openTemporary response

/-- The token in the file at a path, without the white space around it. A blank file is not refused
here: its token is empty. -/
def readToken (path : String) : Run String := do
  let s ← Run.ofExcept (.ofTokenFile path) (w.files.readText path)
  return String.ofList (Text.strip s)

/-! ### Whole sessions -/

/-- Builds a session for a descriptor and answers with its number. The recursion is on the base of a
role, which is built first. -/
def build : Descriptor → Run Nat
  | .default => do
    Run.notify [.building .default]
    openSession .none
  | .anonymous => do
    Run.notify [.building .anonymous]
    openSession .unsigned
  | .staticKeyPair accessKey secretKey => do
    Run.notify [.building .staticKeyPair]
    openSession (.keyPair ⟨.ofString accessKey, .ofString secretKey⟩)
  | .credentialsFile path => do
    Run.notify [.building .credentialsFile]
    let pair ← Run.ofExcept (.ofKeyFile path) (readKeyPair w.files path)
    openSession (.keyPair pair)
  | .namedProfile profile => do
    Run.notify [.building .namedProfile]
    openProfile w profile
  | .assumeRole role externalId base => do
    Run.notify [.building .assumeRole]
    let session ← build base
    enterRole w role false
      (.assumeRole role.arn role.sessionName role.maxSeconds externalId) session
  | .webIdentity role tokenFile => do
    Run.notify [.building .webIdentity]
    let token ← readToken w tokenFile
    let session ← openSession .none
    enterRole w role true
      (.assumeRoleWithWebIdentity role.arn role.sessionName token role.maxSeconds) session

/-- Resolves a configuration and builds a session for the descriptor. The notices of the resolution
come first, also where it is refused. -/
def getSession (c : Configuration) : Run Nat := do
  let p ← Run.ofExcept (fun faults ↦ .refused (.values faults)) c.parameterSet
  Run.notify p.notices
  let d ← Run.ofExcept (fun r ↦ .refused (.parameters r)) p.resolve
  build w d

end AwsCredentials.Session
