import AwsCredentials.Proofs.Session.Credentials

/-!
# The plan of a session

A descriptor and a world determine beforehand which steps it takes to build a session, and which of
them fail. `plan` lists the steps; those for a role come after those for its base, whose session
they go on with.

A plan is carried out step by step up to the first that fails (`carryOut`). A step can fail in two
ways: it cannot be taken, and nothing is seen of it, or it is taken and then found to fail. So what
is seen of a plan is a prefix of it that ends before the step that fails, or with it
(`carryOut_cases`).

Where something is needed that is not there, for want of a token or of a response, the plan has no
steps beyond the one that fails.
-/

namespace AwsCredentials

/-- How many roles are entered for a descriptor, one after the other. -/
def Descriptor.roles : Descriptor → Nat
  | .assumeRole _ _ base => base.roles + 1
  | .webIdentity _ _ => 1
  | _ => 0

namespace Session

/-! ### Steps -/

/-- A step, and what comes of it: whether it is seen, and whether it fails. -/
inductive Step
  /-- The step is taken. -/
  | done (e : Event)
  /-- The step is taken and then found to fail. -/
  | failed (e : Event) (f : Fault)
  /-- The step cannot be taken. -/
  | blocked (f : Fault)

namespace Step

/-- What is seen of a step. -/
def event? : Step → Option Event
  | done e => some e
  | failed e _ => some e
  | blocked _ => none

/-- The fault of a step that fails, and none for one that is taken. -/
def fault? : Step → Option Fault
  | done _ => none
  | failed _ f => some f
  | blocked f => some f

/-- A step that is taken, and fails if there is a fault. -/
def taken (e : Event) : Option Fault → Step
  | none => done e
  | some f => failed e f

/-- A step that can be taken with this datum, if it is there. -/
def takenWith {α : Type} (event : α → Event) : Except Fault α → Step
  | .ok a => done (event a)
  | .error f => blocked f

end Step

/-- Carries out steps up to the first that fails: its fault if there is one, and the events. -/
def carryOut : List Step → Except Fault Unit × List Event
  | [] => (.ok (), [])
  | .done e :: more => ((carryOut more).1, e :: (carryOut more).2)
  | .failed e f :: _ => (.error f, [e])
  | .blocked f :: _ => (.error f, [])

/-- **Steps are carried out in order, up to the first that fails.** The events are those of the
steps before it, and its own if it is seen. -/
theorem carryOut_cases (steps : List Step) :
    (∃ es : List Event, steps = es.map .done ∧ carryOut steps = (.ok (), es)) ∨
      ∃ (es : List Event) (s : Step) (more : List Step) (f : Fault),
        steps = es.map .done ++ s :: more ∧ s.fault? = some f ∧
          carryOut steps = (.error f, es ++ s.event?.toList) := by
  induction steps with
  | nil => exact .inl ⟨[], rfl, rfl⟩
  | cons s steps ih =>
    cases s with
    | done e =>
      rcases ih with ⟨es, h, out⟩ | ⟨es, s, more, f, h, hf, out⟩
      · exact .inl ⟨e :: es, by rw [h]; rfl, by rw [carryOut, out]⟩
      · exact .inr ⟨e :: es, s, more, f, by rw [h]; rfl, hf, by rw [carryOut, out]; rfl⟩
    | failed e f => exact .inr ⟨[], .failed e f, steps, f, rfl, rfl, rfl⟩
    | blocked f => exact .inr ⟨[], .blocked f, steps, f, rfl, rfl, rfl⟩

/-- After steps that are all taken, more steps are carried out. -/
theorem carryOut_append_of_ok {steps : List Step} {es : List Event}
    (h : carryOut steps = (.ok (), es)) (more : List Step) :
    carryOut (steps ++ more) = ((carryOut more).1, es ++ (carryOut more).2) := by
  rcases carryOut_cases steps with ⟨es', rfl, out⟩ | ⟨_, _, _, _, -, -, out⟩
  · obtain rfl : es' = es := (Prod.mk.inj (out.symm.trans h)).2
    clear out h
    induction es' with
    | nil => rfl
    | cons e es ih => rw [List.map_cons, List.cons_append, carryOut, ih]; rfl
  · simp [out] at h

/-- After a step that fails no more steps are carried out, whatever they would be. -/
theorem carryOut_append_of_error {steps : List Step} {f : Fault} {es : List Event}
    (h : carryOut steps = (.error f, es)) (more : List Step) :
    carryOut (steps ++ more) = (.error f, es) := by
  induction steps generalizing es with
  | nil => simp [carryOut] at h
  | cons s steps ih =>
    cases s with
    | done e =>
      obtain ⟨failed, rfl⟩ := Prod.mk.inj h
      rw [List.cons_append, carryOut, ih (Prod.ext failed rfl)]
    | failed e f' | blocked f' => exact h

/-! ### What is seen -/

/-- What is seen of steps: these events as far as it goes, and all of them if no step fails. -/
structure Shows (steps : List Step) (es : List Event) : Prop where
  /-- What is seen is a beginning of the events. -/
  isPrefix : (carryOut steps).2 <+: es
  /-- If no step fails, all are seen. -/
  eq_of_ok : (carryOut steps).1 = .ok () → (carryOut steps).2 = es

theorem Shows.eq_of_carryOut {steps : List Step} {es seen : List Event} (h : Shows steps es)
    (out : carryOut steps = (.ok (), seen)) : es = seen := by
  have all_seen := h.eq_of_ok
  rw [out] at all_seen
  exact (all_seen rfl).symm

theorem Shows.append {steps more : List Step} {es fs : List Event} (h : Shows steps es)
    (h' : Shows more fs) : Shows (steps ++ more) (es ++ fs) := by
  rcases out : carryOut steps with ⟨_ | _, seen⟩
  · have seen_prefix := h.isPrefix
    rw [out] at seen_prefix
    have whole := carryOut_append_of_error out more
    exact ⟨by rw [whole]; exact seen_prefix.trans (List.prefix_append es fs), by simp [whole]⟩
  · obtain rfl := h.eq_of_carryOut out
    have whole := carryOut_append_of_ok out more
    refine ⟨?_, fun ok ↦ ?_⟩
    · rw [whole]
      exact (List.prefix_append_right_inj es).2 h'.isPrefix
    · rw [whole] at ok ⊢
      rw [h'.eq_of_ok ok]

theorem shows_done (e : Event) : Shows [.done e] [e] :=
  ⟨List.prefix_rfl, fun _ ↦ rfl⟩

/-- After a step that fails anything might have been seen: its own event is the last that is. -/
theorem shows_failed (e : Event) (f : Fault) (es : List Event) : Shows [.failed e f] (e :: es) :=
  ⟨⟨es, rfl⟩, fun ok ↦ by simp [carryOut] at ok⟩

theorem shows_blocked (f : Fault) (es : List Event) : Shows [.blocked f] es :=
  ⟨List.nil_prefix, fun ok ↦ by simp [carryOut] at ok⟩

theorem shows_taken (e : Event) (f : Option Fault) : Shows [.taken e f] [e] := by
  cases f with
  | none => exact shows_done e
  | some f => exact shows_failed e f []

theorem exists_shows_takenWith {α : Type} [Inhabited α] (event : α → Event) (x : Except Fault α) :
    ∃ a, Shows [.takenWith event x] [event a] := by
  cases x with
  | ok a => exact ⟨a, shows_done (event a)⟩
  | error f => exact ⟨default, shows_blocked f _⟩

/-! ### The plan -/

/-- The URL of the endpoint that a role is requested from, if one is named. The empty endpoint names
none. -/
def namedEndpoint (role : RoleRequest) : Except Endpoint.Fault (Option String) :=
  match role.endpoint with
  | none => .ok none
  | some endpoint => if endpoint = "" then .ok none else some <$> Endpoint.url endpoint

/-- What a client of the token service is requested with for a role. -/
def clientRequest (role : RoleRequest) (unsigned : Bool) (url : Option String) : ClientRequest where
  region := role.region
  proxyUrl := role.proxy.map fun p ↦ Endpoint.proxyUrl p.host p.port
  unsigned := unsigned
  endpointUrl := url

variable (w : World)

/-- The request of a client on a session: not before the endpoint is known. -/
def clientStep (role : RoleRequest) (unsigned : Bool) (session : Nat) : Step :=
  match namedEndpoint role with
  | .error f => .blocked (.provider (.badEndpoint f))
  | .ok url =>
    .taken (.client session (clientRequest role unsigned url))
      (w.clientError.map (.operation .createClient))

/-- The steps of a call: the call, and a session with the credentials of the response. -/
def callSteps (c : Call) (session k : Nat) : List Step :=
  match w.response k with
  | .error e => [.failed (.call c) (callFault c e)]
  | .ok response =>
    [.done (.call c), .takenWith (.session session)
      ((temporaryArguments response).mapError .response)]

/-- The steps for a role: a client on the session that is there, the call, and the next session. -/
def roleSteps (role : RoleRequest) (unsigned : Bool) (c : Call) (session k : Nat) : List Step :=
  clientStep w role unsigned session :: callSteps w c (session + 1) k

/-- The token in a file. -/
def World.token (w : World) (path : String) : Except Fault String :=
  match w.files.readText path with
  | .error f => .error (.ofTokenFile path f)
  | .ok s => .ok (String.ofList (Text.strip s))

/-- Without a token, the file cannot be read, and the fault is the one that this is made into. -/
theorem World.exists_of_token_eq_error {w : World} {path : String} {f : Fault}
    (h : w.token path = .error f) :
    ∃ e, w.files.readText path = .error e ∧ Fault.ofTokenFile path e = f := by
  unfold World.token at h
  split at h
  · next e read => exact ⟨e, read, Except.error.inj h⟩
  · simp at h

/-- The steps for a descriptor, where sessions are numbered from `n` and calls from `k`. -/
def plan : Descriptor → Nat → Nat → List Step
  | .default, n, _ => [.done (.session n .none)]
  | .anonymous, n, _ => [.done (.session n .unsigned)]
  | .staticKeyPair accessKey secretKey, n, _ =>
    [.done (.session n (.keyPair ⟨.ofString accessKey, .ofString secretKey⟩))]
  | .credentialsFile path, n, _ =>
    [.takenWith (fun pair ↦ .session n (.keyPair pair))
      ((readKeyPair w.files path).mapError (.ofKeyFile path))]
  | .namedProfile profile, n, _ =>
    [.taken (.session n (.profile profile))
      (if w.hasProfile profile then none else some (.provider (.profileNotFound profile)))]
  -- The base takes as many sessions as it has roles, and one to begin with.
  | .assumeRole role externalId base, n, k =>
    plan base n k ++ roleSteps w role false
      (.assumeRole role.arn role.sessionName role.maxSeconds externalId)
      (n + base.roles) (k + base.roles)
  | .webIdentity role tokenFile, n, k =>
    match w.token tokenFile with
    | .error f => [.blocked f]
    | .ok token =>
      .done (.session n .none) :: roleSteps w role true
        (.assumeRoleWithWebIdentity role.arn role.sessionName token role.maxSeconds) n k

/-! ### What is seen of the plan -/

variable {w}

theorem exists_shows_clientStep (role : RoleRequest) (unsigned : Bool) (session : Nat) :
    ∃ url, Shows [clientStep w role unsigned session]
      [.client session (clientRequest role unsigned url)] := by
  unfold clientStep
  cases namedEndpoint role with
  | error f => exact ⟨none, shows_blocked _ _⟩
  | ok url => exact ⟨url, shows_taken _ _⟩

theorem exists_shows_callSteps (c : Call) (session k : Nat) :
    ∃ arguments, Shows (callSteps w c session k) [.call c, .session session arguments] := by
  unfold callSteps
  cases w.response k with
  | error e => exact ⟨.none, shows_failed _ _ _⟩
  | ok response =>
    have : Inhabited SessionArguments := ⟨.none⟩
    obtain ⟨arguments, opened⟩ := exists_shows_takenWith (.session session)
      ((temporaryArguments response).mapError .response)
    exact ⟨arguments, (shows_done _).append opened⟩

/-- **For a role, a client, a call and a session are seen**, in this order. -/
theorem exists_shows_roleSteps (role : RoleRequest) (unsigned : Bool) (c : Call)
    (session k : Nat) :
    ∃ url arguments, Shows (roleSteps w role unsigned c session k)
      [.client session (clientRequest role unsigned url), .call c,
        .session (session + 1) arguments] := by
  obtain ⟨url, client⟩ := exists_shows_clientStep (w := w) role unsigned session
  obtain ⟨arguments, called⟩ := exists_shows_callSteps (w := w) c (session + 1) k
  exact ⟨url, arguments, client.append called⟩

/-- **For a base, one session is seen**, and it is unsigned for the anonymous base only. -/
theorem exists_shows_plan_base {d : Descriptor} (h : d.roles = 0) (n k : Nat) :
    ∃ arguments, Shows (plan w d n k) [.session n arguments] ∧
      (arguments = .unsigned → d = .anonymous) := by
  cases d with
  | default => exact ⟨.none, shows_done _, by simp⟩
  | anonymous => exact ⟨.unsigned, shows_done _, by simp⟩
  | staticKeyPair a s => exact ⟨_, shows_done _, by simp⟩
  | credentialsFile path =>
    have : Inhabited KeyPair := ⟨[], []⟩
    obtain ⟨pair, opened⟩ := exists_shows_takenWith (fun pair ↦ .session n (.keyPair pair))
      ((readKeyPair w.files path).mapError (.ofKeyFile path))
    exact ⟨.keyPair pair, opened, by simp⟩
  | namedProfile profile => exact ⟨.profile profile, shows_taken _ _, by simp⟩
  | assumeRole role externalId base | webIdentity role tokenFile => simp [Descriptor.roles] at h

/-- For a role over a base, the session of the base is seen before, and the client is requested on
this session. -/
theorem exists_shows_plan_assumeRole (role : RoleRequest) (externalId : Option String)
    {base : Descriptor} (h : base.roles = 0) (n k : Nat) :
    ∃ first url last, Shows (plan w (.assumeRole role externalId base) n k)
      [.session n first, .client n (clientRequest role false url),
        .call (.assumeRole role.arn role.sessionName role.maxSeconds externalId),
        .session (n + 1) last] ∧ (first = .unsigned → base = .anonymous) := by
  obtain ⟨first, opened, only_anonymous⟩ := exists_shows_plan_base (w := w) h n k
  obtain ⟨url, last, entered⟩ := exists_shows_roleSteps (w := w) role false
    (.assumeRole role.arn role.sessionName role.maxSeconds externalId) (n + base.roles)
    (k + base.roles)
  have whole : Shows (plan w (.assumeRole role externalId base) n k) _ := opened.append entered
  rw [h] at whole
  exact ⟨first, url, last, whole, only_anonymous⟩

/-- For a role by a token, a session without arguments is seen before. The client on it does not
sign. -/
theorem exists_shows_plan_webIdentity (role : RoleRequest) (tokenFile : String) (n k : Nat) :
    ∃ token url arguments, Shows (plan w (.webIdentity role tokenFile) n k)
      [.session n .none, .client n (clientRequest role true url),
        .call (.assumeRoleWithWebIdentity role.arn role.sessionName token role.maxSeconds),
        .session (n + 1) arguments] := by
  unfold plan
  cases w.token tokenFile with
  | error f => exact ⟨"", none, .none, shows_blocked f _⟩
  | ok token =>
    obtain ⟨url, arguments, entered⟩ := exists_shows_roleSteps (w := w) role true
      (.assumeRoleWithWebIdentity role.arn role.sessionName token role.maxSeconds) n k
    exact ⟨token, url, arguments, (shows_done _).append entered⟩

/-- **For any descriptor, the last that is seen is a session**, and before it a session and a call
are seen for each role. -/
theorem exists_shows_plan (d : Descriptor) (n k : Nat) :
    ∃ es arguments, Shows (plan w d n k) (es ++ [.session (n + d.roles) arguments]) ∧
      es.countP Event.isSession = d.roles ∧ es.countP Event.isCall = d.roles := by
  have base {d : Descriptor} (h : d.roles = 0) : ∃ es arguments,
      Shows (plan w d n k) (es ++ [.session (n + d.roles) arguments]) ∧
        es.countP Event.isSession = d.roles ∧ es.countP Event.isCall = d.roles := by
    obtain ⟨arguments, opened, -⟩ := exists_shows_plan_base (w := w) h n k
    rw [h]
    exact ⟨[], arguments, opened, rfl, rfl⟩
  -- A role is entered from the session its source opened last, which is why the induction keeps the
  -- number of that session rather than the events alone.
  induction d with
  | default | anonymous | staticKeyPair | credentialsFile | namedProfile => exact base rfl
  | assumeRole role externalId source ih =>
    obtain ⟨es, first, built, sessions, calls⟩ := ih
    obtain ⟨url, arguments, entered⟩ := exists_shows_roleSteps (w := w) role false
      (.assumeRole role.arn role.sessionName role.maxSeconds externalId) (n + source.roles)
      (k + source.roles)
    refine ⟨es ++ [.session (n + source.roles) first,
      .client (n + source.roles) (clientRequest role false url),
      .call (.assumeRole role.arn role.sessionName role.maxSeconds externalId)], arguments,
      ?_, ?_, ?_⟩
    · have whole := built.append entered
      rw [List.append_assoc] at whole ⊢
      exact whole
    · rw [List.countP_append, sessions]
      rfl
    · rw [List.countP_append, calls]
      rfl
  | webIdentity role tokenFile =>
    obtain ⟨token, url, arguments, shown⟩ := exists_shows_plan_webIdentity role tokenFile n k
    exact ⟨[_, _, _], arguments, shown, rfl, rfl⟩

end Session

end AwsCredentials
