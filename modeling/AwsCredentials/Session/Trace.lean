import AwsCredentials.Notice
import AwsCredentials.Session.Fault

/-!
# What happens while a session is built

Three kinds of event can be seen from outside: a session is opened, a client of the token service is
requested on a session, and the token service is called. A `Trace` records the events and the
notices so far, in order.

Building is a computation in `Run`: it extends a trace and ends with a result or a fault. A trace is
only ever extended, and sessions and calls are numbered by their place in it, from 0.

`Run.startedAt` is the view through which computations are compared; each way to make one has an
equation for it.
-/

namespace AwsCredentials.Session

open Text (CodeText)

/-- What a session is opened with. A session is opened once and never changed, so this is all that
it knows. -/
inductive SessionArguments
  /-- Nothing. -/
  | none
  /-- The wish not to sign. -/
  | unsigned
  /-- A key pair. -/
  | keyPair (pair : KeyPair)
  /-- A profile. -/
  | profile (profile : String)
  /-- Temporary credentials, as the token service gave them. -/
  | temporary (accessKeyId secretAccessKey sessionToken : Datum)

/-- What a client of the token service is requested with. The proxy is part of it, since it is for
these requests only. -/
structure ClientRequest where
  /-- The region. -/
  region : String
  /-- The URL of the proxy, the same for both protocols. -/
  proxyUrl : Option String
  /-- The client does not sign. -/
  unsigned : Bool
  /-- The URL of the endpoint. -/
  endpointUrl : Option String
deriving DecidableEq

/-- A call of the token service, by one of the two operations that assume a role. -/
inductive Call
  /-- Assume a role with the credentials of the session. -/
  | assumeRole (arn sessionName : String) (seconds : Int) (externalId : Option String)
  /-- Assume a role with a token. -/
  | assumeRoleWithWebIdentity (arn sessionName token : String) (seconds : Int)
deriving DecidableEq

namespace Call

/-- The operation of a call, which errors are worded with. -/
def operation : Call → Operation
  | assumeRole _ _ _ _ => .assumeRole
  | assumeRoleWithWebIdentity _ _ _ _ => .assumeRoleWithWebIdentity

end Call

/-- What can be seen from outside, by whoever stands in for the SDK. Reading a file is not among
it. -/
inductive Event
  /-- A session is opened and gets this number. -/
  | session (index : Nat) (arguments : SessionArguments)
  /-- A client is requested on a session. -/
  | client (session : Nat) (request : ClientRequest)
  /-- The token service is called. -/
  | call (c : Call)

namespace Event

/-- An event is the opening of a session, from a given pair, a profile, or a response. -/
def isSession : Event → Bool
  | session _ _ => true
  | _ => false

/-- An event is a call of the token service. -/
def isCall : Event → Bool
  | call _ => true
  | _ => false

end Event

/-- The notices and events so far, each in order. How they are interleaved is not kept. -/
structure Trace where
  /-- The notices, in order. -/
  notices : List Notice
  /-- The events, in order. -/
  events : List Event

namespace Trace

/-- The trace of nothing, in which sessions and calls are numbered from 0. -/
def empty : Trace :=
  ⟨[], []⟩

/-- The number of the next session, which is how many there were. -/
def nextSession (t : Trace) : Nat :=
  t.events.countP Event.isSession

/-- The number of the next call, which is how many there were. It decides which answer the call
gets. -/
def nextCall (t : Trace) : Nat :=
  t.events.countP Event.isCall

/-- The trace after more notices, which are added at the end; no event is touched. -/
def notify (t : Trace) (notices : List Notice) : Trace :=
  { t with notices := t.notices ++ notices }

/-- The trace after one more event, which is added at the end; no notice is touched. -/
def record (t : Trace) (e : Event) : Trace :=
  { t with events := t.events ++ [e] }

@[simp]
theorem events_notify (t : Trace) (notices : List Notice) : (t.notify notices).events = t.events :=
  rfl

@[simp]
theorem events_record (t : Trace) (e : Event) : (t.record e).events = t.events ++ [e] :=
  rfl

@[simp]
theorem notices_record (t : Trace) (e : Event) : (t.record e).notices = t.notices :=
  rfl

@[simp]
theorem nextSession_notify (t : Trace) (notices : List Notice) :
    (t.notify notices).nextSession = t.nextSession :=
  rfl

end Trace

/-- A computation that extends a trace and ends with a result or a fault. What happened before a
fault stays in the trace. -/
abbrev Run (α : Type) := ExceptT Fault (StateM Trace) α

namespace Run

/-- The outcome of a computation that begins with a trace, and the trace that it ends with. -/
def startedAt {α : Type} (x : Run α) (t : Trace) : Except Fault α × Trace :=
  (ExceptT.run x).run t

/-- Adds notices to the trace. Nothing can be seen of it from outside. -/
def notify (notices : List Notice) : Run Unit :=
  modify fun t ↦ t.notify notices

/-- Adds an event to the trace, at the end. -/
def record (e : Event) : Run Unit :=
  modify fun t ↦ t.record e

/-- Goes on with the value of a step that was taken apart from the trace, or ends with the fault
that its error is made into. -/
def ofExcept {ε α : Type} (fault : ε → Fault) : Except ε α → Run α
  | .ok a => pure a
  | .error e => throw (fault e)

/-! ### The view of a computation -/

variable {α β ε : Type} (t : Trace)

@[simp]
theorem startedAt_pure (a : α) : (pure a : Run α).startedAt t = (.ok a, t) :=
  rfl

@[simp]
theorem startedAt_throw (e : Fault) : (throw e : Run α).startedAt t = (.error e, t) :=
  rfl

@[simp]
theorem startedAt_get : (get : Run Trace).startedAt t = (.ok t, t) :=
  rfl

@[simp]
theorem startedAt_notify (notices : List Notice) :
    (notify notices).startedAt t = (.ok (), t.notify notices) :=
  rfl

@[simp]
theorem startedAt_record (e : Event) : (record e).startedAt t = (.ok (), t.record e) :=
  rfl

/-- A step taken apart from the trace leaves the trace as it is, whether it succeeds or not. -/
@[simp]
theorem startedAt_ofExcept (fault : ε → Fault) (x : Except ε α) :
    (ofExcept fault x).startedAt t = (x.mapError fault, t) := by
  cases x <;> rfl

/-- Of two computations the second is begun only after the first succeeded, and with its trace. -/
theorem startedAt_bind (x : Run α) (f : α → Run β) :
    (x >>= f).startedAt t =
      match x.startedAt t with
      | (.ok a, u) => (f a).startedAt u
      | (.error e, u) => (.error e, u) := by
  change (ExceptT.run (x >>= f)).run t = _
  rw [ExceptT.run_bind, StateT.run_bind]
  change (match (ExceptT.run x).run t with | (r, u) => _) = _
  rcases h : x.startedAt t with ⟨_ | a, u⟩
  all_goals
    have h' : (ExceptT.run x).run t = _ := h
    rw [h']
    rfl

end Run

end AwsCredentials.Session
