import AwsCredentials.Proofs.Session.Chaining

/-!
# Building carries out the plan

**The main statement**, `build_carries_out_plan`: from any trace and in any world, building a
session for a descriptor of any depth takes the steps of the plan in order. If none fails, the
events are exactly those of the plan, and the session is the last one opened. If one fails, they end
before that step or with it, and its fault is the outcome. The credentials that a session is opened
with after a call are those of the response to this call.

A computation carries out steps (`CarriesOut`) when this is so whatever comes of the steps. The
relation is closed under going on (`CarriesOut.bind`), so each part of a build is compared with its
own steps only. The one thing to keep track of in between is how sessions and calls are numbered,
and a plan that does not fail tells how many there are (`exists_shows_plan`).
-/

namespace AwsCredentials

/-- The notices of building for a descriptor, the outermost first, since each is made before the
base is built. -/
def Descriptor.notices : Descriptor → List Notice
  | .assumeRole _ _ base => .building .assumeRole :: base.notices
  | d => [.building d.strategy]

namespace Session

variable {α β : Type} {t : Trace} {ns : List Notice} {p q : List Step}

/-- The trace after more notices and events, those that were there staying at the front. -/
def Trace.extend (t : Trace) (ns : List Notice) (es : List Event) : Trace :=
  ⟨t.notices ++ ns, t.events ++ es⟩

theorem Trace.nextSession_extend (t : Trace) (ns : List Notice) (es : List Event) :
    (t.extend ns es).nextSession = t.nextSession + es.countP Event.isSession :=
  List.countP_append

theorem Trace.nextCall_extend (t : Trace) (ns : List Notice) (es : List Event) :
    (t.extend ns es).nextCall = t.nextCall + es.countP Event.isCall :=
  List.countP_append

/-- From a trace, a computation makes these notices, takes these steps up to the first that fails,
and yields this value if none fails. -/
def CarriesOut (x : Run α) (t : Trace) (ns : List Notice) (p : List Step) (a : α) : Prop :=
  x.startedAt t = ((carryOut p).1.map fun _ ↦ a, t.extend ns (carryOut p).2)

/-! ### Going on -/

/-- **A computation that goes on takes its steps after those that were taken.** If one of the first
steps fails, the others are not taken, and nothing is asked of what they would have gone on from. -/
theorem CarriesOut.bind {x : Run α} {f : α → Run β} {a : α} {b : β} (hx : CarriesOut x t ns p a)
    (hf : ∀ es, carryOut p = (.ok (), es) → CarriesOut (f a) (t.extend ns es) [] q b) :
    CarriesOut (x >>= f) t ns (p ++ q) b := by
  rw [CarriesOut] at hx
  rw [CarriesOut, Run.startedAt_bind, hx]
  rcases h : carryOut p with ⟨_ | _, es⟩
  · rw [carryOut_append_of_error h]
    rfl
  · rw [carryOut_append_of_ok h]
    refine (hf es h).trans ?_
    simp [Trace.extend]

/-- Notices that come first are no steps, so the plan is the same with and without them. -/
theorem CarriesOut.notify {x : Run α} {a : α} {ms : List Notice}
    (hx : CarriesOut x (t.notify ms) ns p a) :
    CarriesOut (do Run.notify ms; x) t (ms ++ ns) p a := by
  rw [CarriesOut] at hx
  rw [CarriesOut, Run.startedAt_bind, Run.startedAt_notify]
  refine hx.trans ?_
  simp [Trace.extend, Trace.notify]

/-- Without what it goes on with, a computation is blocked, and nothing of it is seen. -/
theorem carriesOut_blocked {ε : Type} (fault : ε → Fault) (e : ε) (f : α → Run β) (b : β) :
    CarriesOut (do f (← Run.ofExcept fault (.error e))) t [] [.blocked (fault e)] b := by
  simp [CarriesOut, Run.startedAt_bind, carryOut, Trace.extend, Except.map]

/-! ### The parts of a build -/

theorem carriesOut_openSession (arguments : SessionArguments) :
    CarriesOut (openSession arguments) t [] [.done (.session t.nextSession arguments)]
      t.nextSession := by
  simp [CarriesOut, carryOut, Trace.extend, Trace.record, Except.map]

/-- A session that is opened with something that has to be there: it is opened, or the lack of it is
the fault. -/
theorem carriesOut_openSession_with {ε : Type} (fault : ε → Fault) (x : Except ε α)
    (arguments : α → SessionArguments) :
    CarriesOut (do openSession (arguments (← Run.ofExcept fault x))) t []
      [.takenWith (fun a ↦ .session t.nextSession (arguments a)) (x.mapError fault)]
      t.nextSession := by
  cases x with
  | error e => exact carriesOut_blocked fault e _ _
  | ok a => exact carriesOut_openSession (arguments a)

variable (w : World)

theorem carriesOut_openProfile (profile : String) :
    CarriesOut (openProfile w profile) t []
      [.taken (.session t.nextSession (.profile profile))
        (if w.hasProfile profile then none else some (.provider (.profileNotFound profile)))]
      t.nextSession := by
  cases h : w.hasProfile profile <;>
    simp [CarriesOut, openProfile, Run.startedAt_bind, h, Step.taken, carryOut, Trace.extend,
      Trace.record, Except.map]

theorem endpointUrl_eq (role : RoleRequest) :
    endpointUrl role = Run.ofExcept (fun f ↦ .provider (.badEndpoint f)) (namedEndpoint role) := by
  unfold endpointUrl namedEndpoint
  cases role.endpoint with
  | none => rfl
  | some endpoint =>
    by_cases h : endpoint = ""
    · simp only [h, if_true]
      rfl
    · simp only [h, if_false]
      cases Endpoint.url endpoint <;> rfl

theorem carriesOut_requestClient (role : RoleRequest) (unsigned : Bool) (session : Nat) :
    CarriesOut (requestClient w role unsigned session) t [] [clientStep w role unsigned session]
      () := by
  rw [requestClient, endpointUrl_eq, clientStep]
  cases namedEndpoint role with
  | error f => exact carriesOut_blocked _ f _ ()
  | ok url =>
    cases h : w.clientError <;>
      simp [CarriesOut, Run.startedAt_bind, Step.taken, carryOut, Trace.extend,
        Trace.record, Except.map, clientRequest]

theorem callService_eq (c : Call) :
    callService w c = (do
      let t ← get
      Run.record (.call c)
      Run.ofExcept (callFault c) (w.response t.nextCall)) := by
  unfold callService
  congr
  funext t
  unfold World.response
  cases w.answer t.nextCall <;> rfl

/-- A call that is refused is seen nevertheless, and its fault is that of the error. -/
theorem carriesOut_callService_of_error {e : SdkError} (h : w.response t.nextCall = .error e)
    (c : Call) (d : Datum) :
    CarriesOut (callService w c) t [] [.failed (.call c) (callFault c e)] d := by
  simp [CarriesOut, callService_eq, Run.startedAt_bind, h, carryOut, Trace.extend,
    Trace.record, Except.map]

/-- A call that is answered is one step, and the response is what the computation goes on with. -/
theorem carriesOut_callService_of_ok {d : Datum} (h : w.response t.nextCall = .ok d) (c : Call) :
    CarriesOut (callService w c) t [] [.done (.call c)] d := by
  simp [CarriesOut, callService_eq, Run.startedAt_bind, h, carryOut, Trace.extend,
    Trace.record, Except.map]

/-- The steps of a call and of the session after it, for which three outcomes of the call are told
apart. -/
theorem carriesOut_callSteps (c : Call) {session : Nat} (hs : t.nextSession = session) :
    CarriesOut (do let response ← callService w c; openTemporary response) t []
      (callSteps w c session t.nextCall) session := by
  unfold callSteps
  cases h : w.response t.nextCall with
  | error e =>
    refine (carriesOut_callService_of_error w h c .null).bind (q := []) fun es failed ↦ ?_
    simp [carryOut] at failed
  | ok response =>
    refine (carriesOut_callService_of_ok w h c).bind (p := [_]) fun es called ↦ ?_
    obtain rfl := (shows_done _).eq_of_carryOut called
    have next : (t.extend [] [.call c]).nextSession = session :=
      (t.nextSession_extend [] [.call c]).trans hs
    exact next ▸ carriesOut_openSession_with .response (temporaryArguments response) id

/-- **The steps for a role**, on the session opened last: a client, a call, and the session that is
opened with the response. -/
theorem carriesOut_enterRole (role : RoleRequest) (unsigned : Bool) (c : Call) {session : Nat}
    (hs : t.nextSession = session + 1) :
    CarriesOut (enterRole w role unsigned c session) t []
      (roleSteps w role unsigned c session t.nextCall) (session + 1) := by
  refine (carriesOut_requestClient w role unsigned session).bind (p := [_]) fun es client ↦ ?_
  obtain ⟨url, shown⟩ := exists_shows_clientStep (w := w) role unsigned session
  obtain rfl := shown.eq_of_carryOut client
  -- A client is neither a session nor a call, so the numbers are still the same.
  have called := carriesOut_callSteps w c ((t.nextSession_extend [] [.client session
    (clientRequest role unsigned url)]).trans hs)
  rw [Trace.nextCall_extend] at called
  exact called

theorem readToken_eq (path : String) : readToken w path = Run.ofExcept id (w.token path) := by
  unfold readToken World.token
  cases w.files.readText path <;> rfl

/-- The session and the role after the token was read. By then the token is a part of the call. -/
theorem carriesOut_webIdentity (role : RoleRequest) (c : Call) :
    CarriesOut (do let session ← openSession .none; enterRole w role true c session) t []
      (.done (.session t.nextSession .none) :: roleSteps w role true c t.nextSession t.nextCall)
      (t.nextSession + 1) := by
  refine (carriesOut_openSession .none).bind (p := [_]) fun es opened ↦ ?_
  obtain rfl := (shows_done _).eq_of_carryOut opened
  have entered := carriesOut_enterRole w role true c
    (t.nextSession_extend [] [.session t.nextSession .none])
  rw [Trace.nextCall_extend] at entered
  exact entered

/-! ### The build -/

/-- **Building carries out the plan.** The induction is on the descriptor, from any trace: the base
of a role is built from the trace that the notices left. -/
theorem carriesOut_build (d : Descriptor) (t : Trace) :
    CarriesOut (build w d) t d.notices (plan w d t.nextSession t.nextCall)
      (t.nextSession + d.roles) := by
  induction d generalizing t with
  | default => exact (carriesOut_openSession .none).notify
  | anonymous => exact (carriesOut_openSession .unsigned).notify
  | staticKeyPair accessKey secretKey => exact (carriesOut_openSession _).notify
  | credentialsFile path =>
    exact (carriesOut_openSession_with (.ofKeyFile path) (readKeyPair w.files path) _).notify
  | namedProfile profile => exact (carriesOut_openProfile w profile).notify
  | assumeRole role externalId base ih =>
    refine CarriesOut.notify ((ih _).bind fun es built ↦ ?_)
    -- The base was built to its end, so it is known how many sessions and calls there were.
    obtain ⟨front, arguments, shown, sessions, calls⟩ :=
      exists_shows_plan (w := w) base t.nextSession t.nextCall
    obtain rfl := shown.eq_of_carryOut built
    have next := (t.notify [.building .assumeRole]).nextSession_extend base.notices
      (front ++ [.session (t.nextSession + base.roles) arguments])
    rw [List.countP_append, sessions] at next
    have entered := carriesOut_enterRole w role false
      (.assumeRole role.arn role.sessionName role.maxSeconds externalId) next
    rw [Trace.nextCall_extend, List.countP_append, calls] at entered
    exact entered
  | webIdentity role tokenFile =>
    refine CarriesOut.notify ?_
    rw [readToken_eq]
    unfold plan
    cases w.token tokenFile with
    | error f => exact carriesOut_blocked id f _ _
    | ok token => exact carriesOut_webIdentity w role _

/-- What comes of a build that nothing precedes, where sessions and calls are numbered from 0. -/
theorem startedAt_build_empty (d : Descriptor) :
    (build w d).startedAt .empty = ((carryOut (plan w d 0 0)).1.map fun _ ↦ 0 + d.roles,
      Trace.empty.extend d.notices (carryOut (plan w d 0 0)).2) :=
  carriesOut_build w d .empty

/-- **Building carries out the plan, and stops at the first step that fails.** If no step fails, the
events are those of the plan, and the session is the last of them. If a step fails, they are those
of the steps before it, and its own if anything is seen of it.

Either way, what follows a call is a session with the credentials that the response to that call
gives. A build that fails for what a response holds ends with the call, and the response gives no
credentials. -/
theorem build_carries_out_plan (w : World) (d : Descriptor) (t : Trace) :
    (∃ es arguments, plan w d t.nextSession t.nextCall = es.map .done ∧
      (build w d).startedAt t = (.ok (t.nextSession + d.roles), t.extend d.notices es) ∧
      es.getLast? = some (.session (t.nextSession + d.roles) arguments) ∧
      Chained w t.nextSession t.nextCall es) ∨
    ∃ es s rest f, plan w d t.nextSession t.nextCall = es.map .done ++ s :: rest ∧
      s.fault? = some f ∧
      (build w d).startedAt t = (.error f, t.extend d.notices (es ++ s.event?.toList)) ∧
      Chained w t.nextSession t.nextCall (es ++ s.event?.toList) ∧
      ∀ r, f = .response r → EndsLacking w t.nextCall (es ++ s.event?.toList) := by
  have carried := carriesOut_build w d t
  have follows := follows_plan (w := w) d t.nextSession t.nextCall
  rw [CarriesOut] at carried
  -- The run is the plan carried out, so how far it gets is read off the steps alone.
  rcases carryOut_cases (plan w d t.nextSession t.nextCall) with
    ⟨es, steps, out⟩ | ⟨es, s, rest, f, steps, fault, out⟩
  · obtain ⟨front, arguments, shown, -⟩ :=
      exists_shows_plan (w := w) d t.nextSession t.nextCall
    have last : es.getLast? = some (.session (t.nextSession + d.roles) arguments) := by
      rw [← shown.eq_of_carryOut out, List.getLast?_concat]
    rw [out] at carried follows
    exact .inl ⟨es, arguments, steps, carried, last, follows.chained⟩
  · rw [out] at carried follows
    refine .inr ⟨es, s, rest, f, steps, fault, carried, follows.chained, ?_⟩
    rintro r rfl
    exact follows.lacking r rfl

/-- For an endpoint without a host, no more than the session of the base is seen. -/
example (t : Files.FileTree) : ((build ⟨t, none, none, []⟩ (.assumeRole
    { arn := "arn", sessionName := "name", endpoint := some "https://" } none .default)).startedAt
      .empty).2.events = [.session 0 .none] := by
  rfl

end Session

end AwsCredentials
