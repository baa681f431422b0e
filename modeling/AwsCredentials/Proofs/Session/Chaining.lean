import AwsCredentials.Proofs.Session.Plan

/-!
# What follows a call

The point of a call is the session after it. In the events of a plan, each call is followed at once
by a session, and the session is opened with the credentials that the response to this very call
gives (`Chained`). Calls and responses are matched by their numbers: the call that has `i` calls
before it gets the response of the `i`-th answer.

A plan that fails may end with a call. If it fails for what the response holds, then the last event
is the call, and its response gives no credentials (`EndsLacking`).

Both are told of what comes of the steps (`Follows`), and they hold of every plan (`follows_plan`).
Steps are put one after the other (`Follows.append`) only where those before them did not end with
a call, since otherwise the first event of the later steps would be what follows it.
-/

namespace AwsCredentials.Session

variable {w : World} {n k : Nat} {es fs : List Event}

/-- Where sessions are numbered from `n` and calls from `k`, whatever follows a call is the next
session, and it has the credentials that the response to the call gives. -/
def Chained (w : World) (n k : Nat) (es : List Event) : Prop :=
  ∀ front c e rest, es = front ++ .call c :: e :: rest →
    ∃ response arguments, w.Responds (k + front.countP Event.isCall) response ∧
      response.GivesCredentials arguments ∧
      e = .session (n + front.countP Event.isSession) arguments

/-- Where calls are numbered from `k`, the last event is a call, and the response to it gives no
credentials. -/
def EndsLacking (w : World) (k : Nat) (es : List Event) : Prop :=
  ∃ front c response, es = front ++ [.call c] ∧
    w.Responds (k + front.countP Event.isCall) response ∧
    ∀ arguments, ¬response.GivesCredentials arguments

/-- What comes of steps: each call is followed by a session with the credentials of its response,
and steps that fail for what a response holds end with the call. -/
structure Follows (w : World) (n k : Nat) (out : Except Fault Unit × List Event) : Prop where
  /-- What follows a call is a session with the credentials of the response. -/
  chained : Chained w n k out.2
  /-- Without credentials in the response, the call is the last event. -/
  lacking : ∀ f, out.1 = .error (.response f) → EndsLacking w k out.2

/-! ### Events one after the other -/

/-- One event is followed by nothing, so nothing is asked of what follows a call. -/
theorem chained_of_length_le_one (h : es.length ≤ 1) : Chained w n k es := by
  rintro front c e rest rfl
  simp at h
  omega

theorem chained_call {response : Datum} {arguments : SessionArguments}
    (answered : w.Responds k response) (gives : response.GivesCredentials arguments) (c : Call) :
    Chained w n k [.call c, .session n arguments] := by
  intro front c' e rest cut
  cases front with
  | nil =>
    obtain rfl := (List.cons.inj (List.cons.inj cut).2).1
    exact ⟨response, arguments, answered, gives, rfl⟩
  | cons x front =>
    have few := congrArg List.length cut
    simp at few
    omega

/-- **Chained events can follow others that do not end with a call**, and they are numbered on. -/
theorem Chained.append (h : Chained w n k es) (last : ∀ c, es.getLast? ≠ some (.call c))
    (h' : Chained w (n + es.countP Event.isSession) (k + es.countP Event.isCall) fs) :
    Chained w n k (es ++ fs) := by
  -- A call among the later events has all the earlier ones before it.
  have later (front : List Event) {rest : List Event} {c : Call} {e : Event}
      (cut : fs = front ++ .call c :: e :: rest) :
      ∃ response arguments, w.Responds (k + (es ++ front).countP Event.isCall) response ∧
        response.GivesCredentials arguments ∧
        e = .session (n + (es ++ front).countP Event.isSession) arguments := by
    rw [List.countP_append, List.countP_append, ← Nat.add_assoc, ← Nat.add_assoc]
    exact h' front c e rest cut
  intro front c e rest cut
  rcases List.append_eq_append_iff.1 cut with ⟨mid, rfl, behind⟩ | ⟨mid, rfl, behind⟩
  · exact later mid behind
  · -- The call is among the earlier events, unless nothing of them comes after its place.
    rcases mid with _ | ⟨x, _ | ⟨y, mid⟩⟩
    · have among_later := later [] behind.symm
      rwa [List.append_nil, List.append_nil] at among_later
    · obtain ⟨rfl, -⟩ := List.cons.inj behind
      exact absurd List.getLast?_concat (last c)
    · obtain ⟨rfl, next⟩ := List.cons.inj behind
      obtain rfl := (List.cons.inj next).1
      exact h front c e mid rfl

theorem EndsLacking.append (h : EndsLacking w (k + es.countP Event.isCall) fs) :
    EndsLacking w k (es ++ fs) := by
  obtain ⟨front, c, response, rfl, answered, gives_none⟩ := h
  refine ⟨es ++ front, c, response, (List.append_assoc ..).symm, ?_, gives_none⟩
  rwa [List.countP_append, ← Nat.add_assoc]

/-! ### Steps one after the other -/

/-- **Steps are followed by more steps**, if no call is left without what follows it. -/
theorem Follows.append {p q : List Step} (hp : Follows w n k (carryOut p))
    (hq : ∀ es, carryOut p = (.ok (), es) → (∀ c, es.getLast? ≠ some (.call c)) ∧
      Follows w (n + es.countP Event.isSession) (k + es.countP Event.isCall) (carryOut q)) :
    Follows w n k (carryOut (p ++ q)) := by
  rcases out : carryOut p with ⟨_ | _, es⟩
  · rw [carryOut_append_of_error out, ← out]
    exact hp
  · obtain ⟨last, more⟩ := hq es out
    rw [out] at hp
    rw [carryOut_append_of_ok out]
    exact ⟨hp.chained.append last more.chained, fun f failed ↦ (more.lacking f failed).append⟩

/-- What shows one event at most and does not fail for a response follows as it should. -/
theorem follows_of_length_le_one {out : Except Fault Unit × List Event}
    (few : out.2.length ≤ 1) (other : ∀ f, out.1 ≠ .error (.response f)) : Follows w n k out :=
  ⟨chained_of_length_le_one few, fun f failed ↦ absurd failed (other f)⟩

theorem follows_done (e : Event) : Follows w n k (carryOut [.done e]) :=
  follows_of_length_le_one (Nat.le_refl 1) fun f ↦ by simp [carryOut]

theorem follows_blocked {f : Fault} (other : ∀ r, f ≠ .response r) :
    Follows w n k (carryOut [.blocked f]) :=
  follows_of_length_le_one (Nat.zero_le 1) fun r ↦ by simpa [carryOut] using other r

theorem follows_taken (e : Event) {f : Option Fault} (other : ∀ r, f ≠ some (.response r)) :
    Follows w n k (carryOut [.taken e f]) := by
  cases f with
  | none => exact follows_done e
  | some f =>
    refine follows_of_length_le_one (Nat.le_refl 1) fun r failed ↦ other r ?_
    exact congrArg some (Except.error.inj failed)

/-! ### Faults that lie elsewhere -/

theorem Fault.ofKeyFile_ne_response (path : String) (x : KeyFileFault) (r : MemberFault) :
    ofKeyFile path x ≠ .response r := by
  rcases x with (_ | _ | _) | _ | _ <;> simp [ofKeyFile]

theorem Fault.ofTokenFile_ne_response (path : String) (x : Files.ReadFault) (r : MemberFault) :
    ofTokenFile path x ≠ .response r := by
  cases x <;> simp [ofTokenFile]

theorem callFault_ne_response (c : Call) (e : SdkError) (r : MemberFault) :
    callFault c e ≠ .response r := by
  cases c <;> cases e <;> simp [callFault]

/-! ### Plans -/

/-- **A call is followed by a session with the credentials of its response**, or by nothing. -/
theorem follows_callSteps (c : Call) (n k : Nat) :
    Follows w n k (carryOut (callSteps w c n k)) := by
  rw [callSteps]
  -- A refusal, a response that lacks a credential, or a session opened with the three it gives.
  cases answered : w.response k with
  | error e => exact follows_taken (f := some _) _ (by simp [callFault_ne_response])
  | ok response =>
    have responds := World.response_eq_ok_iff.1 answered
    cases looked_up : temporaryArguments response with
    | error f =>
      simp only [looked_up]
      exact ⟨chained_of_length_le_one (Nat.le_refl 1), fun _ _ ↦
        ⟨[], c, response, rfl, responds, not_givesCredentials_of_eq_error looked_up⟩⟩
    | ok arguments =>
      simp only [looked_up]
      exact ⟨chained_call responds (temporaryArguments_eq_ok_iff.1 looked_up) c,
        fun _ failed ↦ nomatch failed⟩

theorem follows_clientStep (role : RoleRequest) (unsigned : Bool) (session : Nat) :
    Follows w n k (carryOut [clientStep w role unsigned session]) := by
  unfold clientStep
  cases namedEndpoint role with
  | error f => exact follows_blocked (by simp)
  | ok url => exact follows_taken _ (by cases w.clientError <;> simp)

theorem follows_roleSteps (role : RoleRequest) (unsigned : Bool) (c : Call) (session k : Nat) :
    Follows w (session + 1) k (carryOut (roleSteps w role unsigned c session k)) := by
  refine (follows_clientStep role unsigned session).append (p := [_]) fun es client ↦ ?_
  obtain ⟨url, shown⟩ := exists_shows_clientStep (w := w) role unsigned session
  obtain rfl := shown.eq_of_carryOut client
  exact ⟨fun c ↦ by simp, follows_callSteps c (session + 1) k⟩

/-- **In every plan, calls are followed by sessions with the credentials of their responses.** The
induction is on the descriptor, and the base of a role is the only part with calls of its own. -/
theorem follows_plan (d : Descriptor) (n k : Nat) : Follows w n k (carryOut (plan w d n k)) := by
  induction d with
  | default | anonymous | staticKeyPair => exact follows_done _
  | credentialsFile path =>
    unfold plan
    cases readKeyPair w.files path with
    | error x => exact follows_blocked (Fault.ofKeyFile_ne_response path x)
    | ok pair => exact follows_done _
  | namedProfile profile => exact follows_taken _ (by cases w.hasProfile profile <;> simp)
  | assumeRole role externalId base ih =>
    refine ih.append fun es built ↦ ?_
    -- The base was built to its end: its last event is a session, and all before it is counted.
    obtain ⟨front, arguments, shown, sessions, calls⟩ := exists_shows_plan (w := w) base n k
    obtain rfl := shown.eq_of_carryOut built
    refine ⟨fun c ↦ by simp, ?_⟩
    rw [List.countP_append, List.countP_append, sessions, calls, ← Nat.add_assoc]
    exact follows_roleSteps role false _ (n + base.roles) (k + base.roles)
  | webIdentity role tokenFile =>
    unfold plan
    cases read : w.token tokenFile with
    | error f =>
      obtain ⟨x, -, rfl⟩ := World.exists_of_token_eq_error read
      exact follows_blocked (Fault.ofTokenFile_ne_response tokenFile x)
    | ok token =>
      refine (follows_done _).append (p := [_]) fun es opened ↦ ?_
      obtain rfl := (shows_done _).eq_of_carryOut opened
      exact ⟨fun c ↦ by simp, follows_roleSteps role true _ n k⟩

end AwsCredentials.Session
