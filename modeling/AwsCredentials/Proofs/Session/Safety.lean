import AwsCredentials.Proofs.Session.Execution
import AwsCredentials.Proofs.Validation.WellFormed

/-!
# Safety of a session that is asked for

**The main statement**, `getSession_safe`: whatever a session is asked for with, and in whatever
world, either the configuration does not resolve, and then this is the fault and nothing was seen
from outside; or what was seen is safe (`Safe`), whether a session came of it or not.

Building checks none of the bounds that `Safe` speaks of. They are the rules of validation, seen
from the far end: a valid parameter set describes a time and a port in their ranges and a role over
a base that signs.

`Safe` speaks of no more than what comes before an event, so it passes to every beginning of a safe
list (`Safe.of_prefix`). It is enough to know it of all the events that a plan can show.
-/

namespace AwsCredentials.Session

/-! ### What is safe -/

/-- An event is the request of a client of the token service. -/
def Event.isClient : Event → Bool
  | client _ _ => true
  | _ => false

namespace Call

/-- The role that a call is for. -/
def arn : Call → String
  | assumeRole arn _ _ _ => arn
  | assumeRoleWithWebIdentity arn _ _ _ => arn

/-- The name of the session that a call is for. -/
def sessionName : Call → String
  | assumeRole _ name _ _ => name
  | assumeRoleWithWebIdentity _ name _ _ => name

/-- How long a call is for, in seconds, which is part of its request. -/
def seconds : Call → Int
  | assumeRole _ _ seconds _ => seconds
  | assumeRoleWithWebIdentity _ _ _ seconds => seconds

end Call

/-- The last event is a client that signs or does not, on a session that was opened once and with
such arguments. -/
def EndsInClient (es : List Event) (unsigned : Bool) (P : SessionArguments → Prop) : Prop :=
  ∃ front session request arguments, es = front ++ [.client session request] ∧
    request.unsigned = unsigned ∧ P arguments ∧
    ∀ a, Event.session session a ∈ front ↔ a = arguments

theorem endsInClient_pair {P : SessionArguments → Prop} {arguments : SessionArguments} (n : Nat)
    (request : ClientRequest) (h : P arguments) :
    EndsInClient [.session n arguments, .client n request] request.unsigned P :=
  ⟨[.session n arguments], n, request, arguments, rfl, rfl, h, by simp⟩

/-- The last event before a call is the request of a client that suits it. A role is assumed through
a client that signs, on a session that signs; by a token, through a client that does not sign, on a
session without arguments. -/
def Call.Suits (es : List Event) : Call → Prop
  | assumeRole _ _ _ _ => EndsInClient es false (· ≠ .unsigned)
  | assumeRoleWithWebIdentity _ _ _ _ => EndsInClient es true (· = .none)

/-- Events that are safe for a parameter set. -/
structure Safe (p : ParameterSet) (es : List Event) : Prop where
  /-- At most two sessions are opened. -/
  sessions : es.countP Event.isSession ≤ 2
  /-- At most one client is requested. -/
  clients : es.countP Event.isClient ≤ 1
  /-- At most one call is made. -/
  calls : es.countP Event.isCall ≤ 1
  /-- A call is for the given role and the given name of the session. -/
  names : ∀ c, .call c ∈ es →
    p.text .roleArn = some c.arn ∧ p.text .roleSessionName = some c.sessionName
  /-- A call is for a time in the range of such times. -/
  seconds : ∀ c, .call c ∈ es → 900 ≤ c.seconds ∧ c.seconds ≤ 3600
  /-- The URL of a proxy ends in a port in its range. -/
  proxyPort : ∀ session request url, .client session request ∈ es → request.proxyUrl = some url →
    ∃ front port, url = front ++ ":" ++ Text.decimal port ∧ 1 ≤ port ∧ port ≤ 65535
  /-- A call is made through the client that suits it. -/
  suited : ∀ front c rest, es = front ++ .call c :: rest → c.Suits front
  /-- After a session that does not sign, there is no client and no call. -/
  anonymous : ∀ front session rest, es = front ++ .session session .unsigned :: rest →
    ∀ e ∈ rest, e.isClient = false ∧ e.isCall = false

variable {p : ParameterSet} {es fs : List Event}

/-- **Every beginning of safe events is safe**, so nothing more is to be shown of builds that
fail. -/
theorem Safe.of_prefix (h : Safe p fs) (hes : es <+: fs) : Safe p es := by
  have later {front rest : List Event} {e : Event} (cut : es = front ++ e :: rest) :
      ∃ more, fs = front ++ e :: (rest ++ more) := by
    obtain ⟨more, rfl⟩ := hes
    exact ⟨more, by simp [cut]⟩
  have sub := hes.sublist
  exact {
    sessions := (sub.countP_le).trans h.sessions
    clients := (sub.countP_le).trans h.clients
    calls := (sub.countP_le).trans h.calls
    names := fun c hc ↦ h.names c (hes.mem hc)
    seconds := fun c hc ↦ h.seconds c (hes.mem hc)
    proxyPort := fun session request url hc ↦ h.proxyPort session request url (hes.mem hc)
    suited := fun front c _ cut ↦ h.suited front c _ (later cut).choose_spec
    anonymous := fun front _ _ cut e he ↦
      h.anonymous front _ _ (later cut).choose_spec e (List.mem_append_left _ he) }

/-! ### The events of a plan -/

/-- One session is safe, whatever it is opened with, since nothing is asked of the service. -/
theorem safe_session (p : ParameterSet) (n : Nat) (arguments : SessionArguments) :
    Safe p [.session n arguments] where
  sessions := Nat.le_succ 1
  clients := Nat.zero_le 1
  calls := Nat.zero_le 1
  names c hc := by simp at hc
  seconds c hc := by simp at hc
  proxyPort session request url hc := by simp at hc
  suited front c rest cut := by
    have call : Event.call c ∈ [Event.session n arguments] := by simp [cut]
    simp at call
  anonymous front session rest cut := by
    obtain ⟨-, -, rfl⟩ : front = [] ∧ _ ∧ rest = [] := by
      simpa [List.singleton_eq_append_iff] using cut
    simp

/-- How a role is entered: over a session that signs by a client that signs, or by a token. -/
inductive IsEntry (role : RoleRequest) : SessionArguments → Bool → Call → Prop
  /-- With the credentials of the session. -/
  | signed {arguments : SessionArguments} (h : arguments ≠ .unsigned)
      (externalId : Option String) :
      IsEntry role arguments false
        (.assumeRole role.arn role.sessionName role.maxSeconds externalId)
  /-- With a token. -/
  | unsigned (token : String) :
      IsEntry role .none true
        (.assumeRoleWithWebIdentity role.arn role.sessionName token role.maxSeconds)

section

variable {role : RoleRequest} {unsigned : Bool} {c : Call} {first last : SessionArguments}

theorem IsEntry.first_ne (h : IsEntry role first unsigned c) : first ≠ .unsigned := by
  cases h with
  | signed h => exact h
  | unsigned => simp

theorem IsEntry.eq_role (h : IsEntry role first unsigned c) :
    c.arn = role.arn ∧ c.sessionName = role.sessionName ∧ c.seconds = role.maxSeconds := by
  cases h <;> exact ⟨rfl, rfl, rfl⟩

/-- The events of a role, cut at its call: there is one call only, so this is the only cut. -/
theorem cut_at_call {n m : Nat} {request : ClientRequest} {c' : Call} {front rest : List Event}
    (cut : [.session n first, .client n request, .call c, .session m last] =
      front ++ Event.call c' :: rest) :
    front = [.session n first, .client n request] ∧ c = c' := by
  rcases front with _ | ⟨x, _ | ⟨y, _ | ⟨z, _ | ⟨u, front⟩⟩⟩⟩ <;> simp_all

/-- The events of a role, cut at a session that does not sign. It can only be the last one. -/
theorem cut_at_unsigned {n m k : Nat} {request : ClientRequest} {front rest : List Event}
    (hf : first ≠ .unsigned)
    (cut : [.session n first, .client n request, .call c, .session m last] =
      front ++ Event.session k .unsigned :: rest) :
    rest = [] := by
  rcases front with _ | ⟨x, _ | ⟨y, _ | ⟨z, _ | ⟨u, front⟩⟩⟩⟩ <;> simp_all

/-- **The events of a described role are safe.** That they are is told of these four events by
looking at each. -/
theorem safe_role (h : p.Valid) (hr : p.DescribesRole role) (he : IsEntry role first unsigned c)
    (url : Option String) (n m : Nat) :
    Safe p [.session n first, .client n (clientRequest role unsigned url), .call c,
      .session m last] where
  sessions := Nat.le_refl 2
  clients := Nat.le_refl 1
  calls := Nat.le_refl 1
  names c' hc := by
    obtain rfl : c' = c := by simpa using hc
    rw [he.eq_role.1, he.eq_role.2.1]
    exact ⟨hr.arn, hr.sessionName⟩
  seconds c' hc := by
    obtain rfl : c' = c := by simpa using hc
    rw [he.eq_role.2.2]
    exact hr.maxSeconds_mem h
  proxyPort session request url' hc hu := by
    obtain ⟨-, rfl⟩ : session = n ∧ request = clientRequest role unsigned url := by simpa using hc
    obtain ⟨x, hx, rfl⟩ := Option.map_eq_some_iff.1 hu
    exact ⟨_, x.port, rfl, hr.port_mem h hx⟩
  suited front c' rest cut := by
    obtain ⟨rfl, rfl⟩ := cut_at_call cut
    cases he with
    | signed hf => exact endsInClient_pair n (clientRequest role false url) hf
    | unsigned => exact endsInClient_pair n (clientRequest role true url) rfl
  anonymous front session rest cut := by
    obtain rfl := cut_at_unsigned he.first_ne cut
    simp

end

/-! ### What a valid parameter set describes -/

theorem roles_of_describesBase {b : Base} {d : Descriptor} (h : p.DescribesBase b d) :
    d.roles = 0 := by
  cases h <;> rfl

/-- **What is seen of the plan for a described descriptor is safe**, by cases on what the descriptor
is described as. -/
theorem exists_safe_plan (w : World) {d : Descriptor} (h : p.Valid) (hd : p.Describes d) :
    ∃ es, Shows (plan w d 0 0) es ∧ Safe p es := by
  cases hd with
  | base _ _ hd =>
    obtain ⟨arguments, opened, -⟩ :=
      exists_shows_plan_base (w := w) (roles_of_describesBase hd) 0 0
    exact ⟨_, opened, safe_session p 0 arguments⟩
  | assumeRole hr ht hb hd =>
    obtain ⟨first, url, last, shown, only_anonymous⟩ :=
      exists_shows_plan_assumeRole (w := w) _ (p.text .externalId) (roles_of_describesBase hd) 0 0
    -- A session that does not sign comes of the anonymous base only, which no valid role is over.
    have signs : first ≠ .unsigned := by
      intro unsigned
      obtain rfl := only_anonymous unsigned
      cases hd
      exact h.base_ne_anonymous hr.requestsRole ht hb rfl
    exact ⟨_, shown, safe_role h hr (.signed signs _) url 0 1⟩
  | webIdentity hr ht =>
    obtain ⟨token, url, arguments, shown⟩ := exists_shows_plan_webIdentity (w := w) _ _ 0 0
    exact ⟨_, shown, safe_role h hr (.unsigned token) url 0 1⟩

/-! ### Sessions that are asked for -/

/-- A configuration that does not resolve is refused for the same reason, and nothing is seen. -/
theorem startedAt_getSession_of_error (w : World) {c : Configuration} {r : Configuration.Refusal}
    (h : c.resolve = .error r) (t : Trace) :
    ∃ ns, (getSession w c).startedAt t = (.error (.refused r), t.notify ns) := by
  cases hp : c.parameterSet with
  | error faults =>
    obtain rfl := Except.error.inj ((Configuration.resolve_eq_values hp).symm.trans h)
    exact ⟨[], by simp [getSession, hp, Run.startedAt_bind, Trace.notify]⟩
  | ok p =>
    rw [Configuration.resolve_eq_of_parameterSet hp] at h
    cases hr : p.resolve with
    | error reason =>
      obtain rfl : .parameters reason = r := by simpa [hr] using h
      exact ⟨p.notices, by simp [getSession, hp, hr, Run.startedAt_bind]⟩
    | ok d => simp [hr] at h

/-- For a configuration that resolves, a session is built for the descriptor that its parameter set
resolves to. -/
theorem startedAt_getSession_of_ok (w : World) {c : Configuration} {d : Descriptor}
    (h : c.resolve = .ok d) (t : Trace) :
    ∃ p, c.parameterSet = .ok p ∧ p.resolve = .ok d ∧
      (getSession w c).startedAt t = (build w d).startedAt (t.notify p.notices) := by
  cases hp : c.parameterSet with
  | error faults => simp [Configuration.resolve_eq_values hp] at h
  | ok p =>
    rw [Configuration.resolve_eq_of_parameterSet hp] at h
    have hd : p.resolve = .ok d := by
      cases hr : p.resolve <;> simp_all
    exact ⟨p, rfl, hd, by simp [getSession, hp, hd, Run.startedAt_bind]⟩

/-- What comes of asking for a session with a parameter set: its notices first, and then a refusal
or a build. -/
theorem startedAt_getSession_parameters (w : World) (p : ParameterSet) (t : Trace) :
    (getSession w (.parameters p)).startedAt t =
      match p.resolve with
      | .error r => (.error (.refused (.parameters r)), t.notify p.notices)
      | .ok d => (build w d).startedAt (t.notify p.notices) := by
  cases h : p.resolve <;> simp [getSession, Configuration.parameterSet, h, Run.startedAt_bind]

/-- **A session that is asked for is safe**: if the configuration does not resolve, this is the
fault and nothing is seen; otherwise what is seen is safe, whatever comes of it. -/
theorem getSession_safe (w : World) (c : Configuration) :
    match c.resolve with
    | .error r =>
      ((getSession w c).startedAt .empty).1 = .error (.refused r) ∧
        ((getSession w c).startedAt .empty).2.events = []
    | .ok _ =>
      ∃ p, c.parameterSet = .ok p ∧ Safe p ((getSession w c).startedAt .empty).2.events := by
  cases h : c.resolve with
  | error r =>
    obtain ⟨ns, refused⟩ := startedAt_getSession_of_error w h .empty
    rw [refused]
    exact ⟨rfl, rfl⟩
  | ok d =>
    obtain ⟨p, hp, hd, run⟩ := startedAt_getSession_of_ok w h .empty
    obtain ⟨valid, selected⟩ := ParameterSet.resolve_eq_ok_iff.1 hd
    obtain ⟨es, shown, safe⟩ := exists_safe_plan w valid (valid.describes_of_select selected)
    -- A run that fails shows a prefix of the plan, and safety passes to prefixes.
    have built : (build w d).startedAt (Trace.empty.notify p.notices) = _ :=
      carriesOut_build w d (Trace.empty.notify p.notices)
    refine ⟨p, hp, safe.of_prefix ?_⟩
    rw [run, built]
    exact shown.isPrefix

end AwsCredentials.Session
