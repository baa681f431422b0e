import AwsCredentials.Proofs.Session.Safety

/-!
# Failures of the SDK

The SDK can fail in three kinds of event: a session that is opened for a profile, a client that is
requested, and a call. `World.failure?` says what fails in an event; it is a fact about the world,
whatever is made of it.

A failure of the SDK is meant to become a fault of the provider that is raised from it, and an error
from outside the SDK is meant to be passed on as it is (`Translated`). **The main statement**,
`translated_iff`, is that a failure ends the build at its event, and its error is translated on
every level of a descriptor, but for one kind of event: the request of a client is guarded on no
level, so what it raises is passed on in any case.

A plan is followed step by step. Its steps are *faithful* when each of them fails as the world has
it (`Faithful`), and then so does the plan when it is carried out (`Faithful.endsAtFailure`). That
the plan of a descriptor is faithful is an induction over its levels, and the count of the calls is
what one level has to know of the one below (`faithful_plan`).
-/

namespace AwsCredentials.Session

/-! ### Failures and faults -/

/-- A failure comes from outside the SDK, as an operation may raise any error. -/
def SdkFailure.isForeign : SdkFailure → Bool
  | profileNotFound _ => false
  | raised _ e => e.isForeign

namespace Fault

/-- A fault passes a failure on as it is, with the operation that raised it. -/
inductive PassesOn : Fault → SdkFailure → Prop
  /-- What an operation raised. -/
  | operation (o : Operation) (e : SdkError) : PassesOn (.operation o e) (.raised o e)

/-- A fault explains a failure: a provider is at fault, and that is raised from the failure. -/
inductive Explains : Fault → SdkFailure → Prop
  /-- A fault of a provider. -/
  | provider {p : ProviderProblem} {x : SdkFailure} (h : p.cause? = some (.sdk x)) :
      Explains (.provider p) x

/-- A fault comes of some failure of the SDK. -/
def IsOfSdk (f : Fault) : Prop :=
  ∃ x, f.PassesOn x ∨ f.Explains x

/-- A fault comes of a failure in an event. What the request of a client raises is passed on, and so
is what comes from outside the SDK; anything else is explained. -/
def ComesOf (f : Fault) (e : Event) (x : SdkFailure) : Prop :=
  if e.isClient || x.isForeign then f.PassesOn x else f.Explains x

variable {f : Fault} {x : SdkFailure}

/-- No failure is explained and passed on at once, so the two ways to end can be told apart. -/
theorem PassesOn.not_explains (h : f.PassesOn x) : ¬f.Explains x := by
  cases h
  rintro ⟨⟩

/-- A fault of a provider that is raised from anything else does not come of the SDK. -/
theorem not_isOfSdk_provider {p : ProviderProblem} (h : ∀ x, p.cause? ≠ some (.sdk x)) :
    ¬(provider p).IsOfSdk := by
  rintro ⟨x, passes | explains⟩
  · cases passes
  · cases explains with
    | provider h' => exact h x h'

theorem not_isOfSdk_embeddedNull : ¬embeddedNull.IsOfSdk := by
  rintro ⟨x, h | h⟩ <;> cases h

theorem not_isOfSdk_undecodable (e : Text.Utf8Fault) : ¬(undecodable e).IsOfSdk := by
  rintro ⟨x, h | h⟩ <;> cases h

theorem not_isOfSdk_response (e : MemberFault) : ¬(response e).IsOfSdk := by
  rintro ⟨x, h | h⟩ <;> cases h

theorem not_isOfSdk_ofTokenFile (path : String) (e : Files.ReadFault) :
    ¬(ofTokenFile path e).IsOfSdk := by
  cases e with
  | embeddedNull => exact not_isOfSdk_embeddedNull
  | notOpened e => exact not_isOfSdk_provider fun x ↦ by simp [ProviderProblem.cause?]
  | undecodable e => exact not_isOfSdk_undecodable e

theorem not_isOfSdk_ofKeyFile (path : String) (e : KeyFileFault) : ¬(ofKeyFile path e).IsOfSdk := by
  cases e with
  | unreadable e =>
    cases e with
    | embeddedNull => exact not_isOfSdk_embeddedNull
    | notOpened e => exact not_isOfSdk_provider fun x ↦ by simp [ProviderProblem.cause?]
    | undecodable e => exact not_isOfSdk_undecodable e
  | malformed | incomplete => exact not_isOfSdk_provider fun x ↦ by simp [ProviderProblem.cause?]

/-- The fault of a call comes of what the call raised: it explains errors of the SDK and passes on
any other. -/
theorem comesOf_callFault (c : Call) (e : SdkError) :
    (callFault c e).ComesOf (.call c) (.raised c.operation e) := by
  cases e with
  | foreign message => cases c <;> exact .operation _ _
  | service | noCredentials | noRegion | unreachable | timeout => cases c <;> exact .provider rfl

end Fault

/-! ### What fails in an event -/

/-- What fails in an event that comes after others, which count for the number of a call. -/
def World.failure? (w : World) (before : List Event) : Event → Option SdkFailure
  | .session _ (.profile profile) =>
    if w.hasProfile profile then none else some (.profileNotFound profile)
  | .session _ _ => none
  | .client _ _ => w.clientError.map (.raised .createClient)
  | .call c =>
    match w.answer (before.countP Event.isCall) with
    | .refuse e => some (.raised c.operation e)
    | _ => none

/-- The first event that fails, and what fails in it, of events that come after others. -/
def World.firstFailure? (w : World) (before : List Event) : List Event → Option (Event × SdkFailure)
  | [] => none
  | e :: es =>
    match w.failure? before e with
    | some x => some (e, x)
    | none => w.firstFailure? (before ++ [e]) es

/-- A run ends at the first event that fails, with a fault that comes of the failure; if no event
fails, no fault comes of a failure. -/
def EndsAtFailure {α : Type} (w : World) (before : List Event) (outcome : Except Fault α)
    (es : List Event) : Prop :=
  match w.firstFailure? before es with
  | some (e, x) => es.getLast? = some e ∧ ∃ f, outcome = .error f ∧ f.ComesOf e x
  | none => ∀ f, outcome = .error f → ¬f.IsOfSdk

/-! ### Faithful steps -/

/-- After some events, steps fail as the world has it: for what fails in their own event, or for
nothing of the SDK. -/
inductive Faithful (w : World) : List Event → List Step → Prop
  /-- There are no steps. -/
  | nil (before : List Event) : Faithful w before []
  /-- A step that is taken does not fail in the world. -/
  | done {before : List Event} {e : Event} {more : List Step} (h : w.failure? before e = none)
      (rest : Faithful w (before ++ [e]) more) : Faithful w before (.done e :: more)
  /-- A step that is found to fail does so by what fails in the world. -/
  | failed {before : List Event} {e : Event} {x : SdkFailure} {f : Fault} {more : List Step}
      (h : w.failure? before e = some x) (comes : f.ComesOf e x) :
      Faithful w before (.failed e f :: more)
  /-- A step that cannot be taken is not for the SDK to fail. -/
  | blocked {before : List Event} {f : Fault} {more : List Step} (h : ¬f.IsOfSdk) :
      Faithful w before (.blocked f :: more)

variable {w : World} {before : List Event} {p q : List Step}

/-- **Faithful steps end at the first failure** when they are carried out, by induction on how they
are faithful. -/
theorem Faithful.endsAtFailure (h : Faithful w before p) :
    EndsAtFailure w before (carryOut p).1 (carryOut p).2 := by
  -- The induction carries what was done before, since the answer to a request depends on it.
  induction h with
  | nil => exact fun f hf ↦ by simp [carryOut] at hf
  | @done before e more sound rest ih =>
    rw [EndsAtFailure] at ih
    rw [EndsAtFailure, carryOut, World.firstFailure?, sound]
    dsimp only
    split at ih
    · next found =>
      refine ⟨?_, ih.2⟩
      rw [List.getLast?_cons, ih.1, Option.getD_some]
    · exact ih
  | @failed before e x f more fails comes =>
    rw [EndsAtFailure, carryOut, World.firstFailure?, fails]
    exact ⟨rfl, f, rfl, comes⟩
  | blocked other =>
    rintro _ ⟨⟩
    exact other

/-- More steps are faithful if they are so after the events of the steps before them. -/
theorem Faithful.append (h : Faithful w before p)
    (h' : ∀ es, carryOut p = (.ok (), es) → Faithful w (before ++ es) q) :
    Faithful w before (p ++ q) := by
  induction h with
  | nil => simpa using h' [] rfl
  | @done before e more sound rest ih =>
    refine .done sound (ih fun es out ↦ ?_)
    have later := h' (e :: es) (by rw [carryOut, out])
    rwa [List.append_cons] at later
  | failed fails comes => exact .failed fails comes
  | blocked other => exact .blocked other

theorem faithful_done {e : Event} (h : w.failure? before e = none) : Faithful w before [.done e] :=
  .done h (.nil _)

theorem faithful_takenWith {α : Type} {event : α → Event} {x : Except Fault α}
    (hok : ∀ a, x = .ok a → w.failure? before (event a) = none)
    (herr : ∀ f, x = .error f → ¬f.IsOfSdk) : Faithful w before [.takenWith event x] := by
  cases x with
  | ok a => exact faithful_done (hok a rfl)
  | error f => exact .blocked (herr f rfl)

/-! ### The plan is faithful -/

/-- The request of a client fails as the world has it, and what it raises is passed on. -/
theorem faithful_clientStep (role : RoleRequest) (unsigned : Bool) (session : Nat) :
    Faithful w before [clientStep w role unsigned session] := by
  unfold clientStep
  cases namedEndpoint role with
  | error f => exact .blocked (Fault.not_isOfSdk_provider fun x ↦ by simp [ProviderProblem.cause?])
  | ok url =>
    cases h : w.clientError with
    | none => exact faithful_done (by simp [World.failure?, h])
    | some e =>
      have fails (request : ClientRequest) :
          w.failure? before (.client session request) = some (.raised .createClient e) := by
        simp [World.failure?, h]
      exact .failed (fails _) (.operation _ _)

/-- A call fails when the world has no response to it, and by the error that is in the place of
one. -/
theorem failure?_call (c : Call) {k : Nat} (hk : before.countP Event.isCall = k) :
    w.failure? before (.call c) =
      match w.response k with
      | .error e => some (.raised c.operation e)
      | .ok _ => none := by
  rw [World.failure?, hk, World.response]
  cases w.answer k <;> rfl

/-- A session with the credentials of a response does not fail, and nothing of the SDK fails where
the response lacks them. -/
theorem faithful_openTemporary (response : Datum) (session : Nat) :
    Faithful w before [.takenWith (.session session)
      ((temporaryArguments response).mapError .response)] := by
  cases h : temporaryArguments response with
  | error f => exact .blocked (Fault.not_isOfSdk_response f)
  | ok arguments =>
    cases temporaryArguments_eq_ok_iff.1 h
    exact faithful_done rfl

/-- A call fails as the world has it, and so does the session after it, which fails for nothing of
the SDK. -/
theorem faithful_callSteps (c : Call) (session : Nat) {k : Nat}
    (hk : before.countP Event.isCall = k) : Faithful w before (callSteps w c session k) := by
  have called := failure?_call (w := w) c hk
  unfold callSteps
  cases h : w.response k with
  | error e =>
    rw [h] at called
    exact .failed called (Fault.comesOf_callFault c e)
  | ok response =>
    rw [h] at called
    exact .done called (faithful_openTemporary response session)

theorem faithful_roleSteps (role : RoleRequest) (unsigned : Bool) (c : Call) (session : Nat)
    {k : Nat} (hk : before.countP Event.isCall = k) :
    Faithful w before (roleSteps w role unsigned c session k) := by
  refine (faithful_clientStep role unsigned session).append (p := [_]) fun es client ↦ ?_
  obtain ⟨url, shown⟩ := exists_shows_clientStep (w := w) role unsigned session
  obtain rfl := shown.eq_of_carryOut client
  exact faithful_callSteps c (session + 1) (by simpa [Event.isCall] using hk)

/-- **The plan of a descriptor is faithful**, on every level, by induction on the descriptor. -/
theorem faithful_plan (d : Descriptor) (n : Nat) {k : Nat}
    (hk : before.countP Event.isCall = k) : Faithful w before (plan w d n k) := by
  induction d with
  | default | anonymous | staticKeyPair => exact faithful_done rfl
  | credentialsFile path =>
    refine faithful_takenWith (fun _ _ ↦ rfl) fun f hf ↦ ?_
    obtain ⟨e, -, rfl⟩ := mapError_eq_error_iff.1 hf
    exact Fault.not_isOfSdk_ofKeyFile path e
  | namedProfile profile =>
    unfold plan
    cases h : w.hasProfile profile with
    | true => exact faithful_done (by simp [World.failure?, h])
    | false =>
      have fails : w.failure? before (.session n (.profile profile)) =
          some (.profileNotFound profile) := by simp [World.failure?, h]
      exact .failed fails (.provider rfl)
  | assumeRole role externalId base ih =>
    refine ih.append fun es built ↦ faithful_roleSteps _ _ _ _ ?_
    -- The base was built to its end, so it is known how many calls there were.
    obtain ⟨front, arguments, shown, -, calls⟩ := exists_shows_plan (w := w) base n k
    obtain rfl := shown.eq_of_carryOut built
    simp [hk, calls, Event.isCall]
  | webIdentity role tokenFile =>
    unfold plan
    cases h : w.token tokenFile with
    | error f =>
      obtain ⟨e, -, rfl⟩ := World.exists_of_token_eq_error h
      exact .blocked (Fault.not_isOfSdk_ofTokenFile tokenFile e)
    | ok token => exact .done rfl (faithful_roleSteps _ _ _ _ (by simpa [Event.isCall] using hk))

/-! ### Builds -/

/-- Mapping the value of a run changes nothing in how it ends, since only its fault is looked at. -/
theorem EndsAtFailure.map {α β : Type} {outcome : Except Fault α} {es : List Event}
    (h : EndsAtFailure w before outcome es) (g : α → β) :
    EndsAtFailure w before (outcome.map g) es := by
  have same (f : Fault) : outcome.map g = .error f ↔ outcome = .error f := by
    cases outcome <;> simp [Except.map]
  simp only [EndsAtFailure, same]
  exact h

/-- **A build ends at the first event that fails**, because it carries out a plan that is
faithful. -/
theorem endsAtFailure_build (w : World) (d : Descriptor) :
    EndsAtFailure w [] ((build w d).startedAt .empty).1
      ((build w d).startedAt .empty).2.events := by
  rw [startedAt_build_empty]
  exact (faithful_plan d 0 rfl).endsAtFailure.map _

/-- A build translates a failure of the SDK: what the SDK raises is explained, and what comes from
outside the SDK is passed on. -/
def Translated (w : World) (d : Descriptor) : Prop :=
  ∀ e x, w.firstFailure? [] ((build w d).startedAt .empty).2.events = some (e, x) →
    ∃ f, ((build w d).startedAt .empty).1 = .error f ∧
      if x.isForeign then f.PassesOn x else f.Explains x

/-- **A build ends at the first event that fails, and translates the failure**, unless it is the
request of a client that fails, and by an error of the SDK. -/
theorem translated_iff (w : World) (d : Descriptor) :
    EndsAtFailure w [] ((build w d).startedAt .empty).1
        ((build w d).startedAt .empty).2.events ∧
      (Translated w d ↔
        ∀ e x, w.firstFailure? [] ((build w d).startedAt .empty).2.events = some (e, x) →
          e.isClient = true → x.isForeign = true) := by
  have ends := endsAtFailure_build w d
  -- Whether a first failure is translated is decided by where it happened and what was raised, and
  -- the run ends with just that failure.
  refine ⟨ends, forall_congr' fun e ↦ forall_congr' fun x ↦ forall_congr' fun found ↦ ?_⟩
  rw [EndsAtFailure, found] at ends
  obtain ⟨-, f, failed, comes⟩ := ends
  rw [failed]
  constructor
  · rintro ⟨f', same, translated⟩ client
    obtain rfl := Except.error.inj same
    rw [Fault.ComesOf, client, Bool.true_or, if_pos rfl] at comes
    by_contra native
    rw [if_neg native] at translated
    exact comes.not_explains translated
  · intro foreign
    refine ⟨f, rfl, ?_⟩
    have same : (e.isClient || x.isForeign) = x.isForeign := by
      cases client : e.isClient with
      | true => rw [foreign client, Bool.or_true]
      | false => exact Bool.false_or _
    rwa [Fault.ComesOf, same] at comes

/-- A client that cannot be had for want of a region is not explained: the error leaves the build as
it is. -/
theorem not_translated_noRegion :
    ¬Translated ⟨.empty, none, some .noRegion, []⟩
      (.assumeRole { arn := "arn", sessionName := "name" } none .default) := by
  intro h
  obtain ⟨f, failed, explained⟩ := h _ _ rfl
  obtain rfl : .operation .createClient .noRegion = f := Except.error.inj failed
  cases explained

end AwsCredentials.Session
