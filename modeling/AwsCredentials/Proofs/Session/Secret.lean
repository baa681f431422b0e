import AwsCredentials.Proofs.Session.Safety
import AwsCredentials.Proofs.Validation.Outline
import AwsCredentials.Proofs.Validation.WebIdentity

/-!
# The secret key does not show

A secret key is meant to go into the session that is opened with it, and nowhere else. **The main
statement**, `secret_unseen`, compares two parameter sets that differ in their secret keys only, in
the same world: validation says the same of both, and what comes of asking for a session is the same
session or the same fault, with the same notices and the same events but for the secret half of a
static key pair (`SameButSecret`).

Nothing in validation reads the secret, which is a field like any other
(`DifferInSecret.sameOutline`). Selection puts it into a descriptor, in one place, and
`Descriptor.withSecret` is the descriptor with another secret there (`DifferInSecret.select_eq`).
In the plan of such a descriptor it is the first step that differs, and it is a step that cannot
fail; so nothing that comes later can tell which secret it was (`plan_withSecret_cases`).
-/

namespace AwsCredentials

/-! ### Secrets of descriptors -/

namespace Descriptor

/-- The static key pair at the bottom of a descriptor, if there is one. No other part of a
descriptor holds a secret. -/
def keyPair? : Descriptor → Option (String × String)
  | .staticKeyPair accessKey secretKey => some (accessKey, secretKey)
  | .assumeRole _ _ base => base.keyPair?
  | _ => none

/-- The descriptor with another secret in the static key pair at its bottom. -/
def withSecret (s : String) : Descriptor → Descriptor
  | .staticKeyPair accessKey _ => .staticKeyPair accessKey s
  | .assumeRole role externalId base => .assumeRole role externalId (base.withSecret s)
  | d => d

variable {d : Descriptor} {a s : String}

/-- With its own secret in the place of its secret, a descriptor is itself. -/
theorem withSecret_self (h : d.keyPair? = some (a, s)) : d.withSecret s = d := by
  induction d with
  | staticKeyPair accessKey secretKey =>
    obtain ⟨rfl, rfl⟩ : accessKey = a ∧ secretKey = s := by simpa [keyPair?] using h
    rfl
  | assumeRole role externalId base ih => rw [withSecret, ih h]
  | default | anonymous | credentialsFile | namedProfile | webIdentity => rfl

/-- Without a static key pair there is no place for a secret, and the descriptor stays as it is. -/
theorem withSecret_of_none (h : d.keyPair? = none) (s : String) : d.withSecret s = d := by
  induction d with
  | staticKeyPair accessKey secretKey => simp [keyPair?] at h
  | assumeRole role externalId base ih => rw [withSecret, ih h]
  | default | anonymous | credentialsFile | namedProfile | webIdentity => rfl

@[simp]
theorem roles_withSecret (s : String) (d : Descriptor) : (d.withSecret s).roles = d.roles := by
  induction d with
  | assumeRole role externalId base ih => rw [withSecret, roles, roles, ih]
  | default | anonymous | staticKeyPair | credentialsFile | namedProfile | webIdentity => rfl

@[simp]
theorem notices_withSecret (s : String) (d : Descriptor) :
    (d.withSecret s).notices = d.notices := by
  induction d with
  | assumeRole role externalId base ih => rw [withSecret, notices, notices, ih]
  | default | anonymous | staticKeyPair | credentialsFile | namedProfile | webIdentity => rfl

end Descriptor

/-! ### Secrets of parameter sets -/

namespace ParameterSet

/-- Two parameter sets hold a secret key each and differ in nothing but its text. -/
structure DifferInSecret (p q : ParameterSet) : Prop where
  /-- The first holds a secret key. -/
  isSet_left : p.isSet .secretKey = true
  /-- The second parameter set is validated with the same report. -/
  isSet_right : q.isSet .secretKey = true
  /-- All other fields hold the same texts. -/
  text_eq : ∀ f, f ≠ .secretKey → p.text f = q.text f

/-- The secret as it goes into a static key pair. -/
def pairSecret (p : ParameterSet) : String :=
  p.secretValue.getD ""

variable {p q : ParameterSet}

namespace DifferInSecret

variable (h : p.DifferInSecret q)

include h

/-- Which secret it is does not belong to the outline, which tells of it only that it is set. -/
theorem sameOutline : p.SameOutline q where
  isSet_eq f := by
    by_cases hf : f = .secretKey
    · rw [hf, h.isSet_left, h.isSet_right]
    · rw [isSet, isSet, h.text_eq f hf]
  text_eq f hf := h.text_eq f fun secret ↦ absurd (secret ▸ hf) (by decide)

theorem selectBase_eq : q.selectBase = p.selectBase.withSecret q.pairSecret := by
  rw [selectBase, selectBase, h.sameOutline.flag_eq (by decide),
    h.text_eq .accessKey (by decide), h.text_eq .credentialsFile (by decide),
    h.text_eq .profileName (by decide)]
  split
  · rfl
  · cases q.text .accessKey <;> cases q.text .credentialsFile <;> cases q.text .profileName <;> rfl

/-- The secret says nothing of a role: the fields of a role hold the same texts in both sets. -/
theorem sameRole : p.SameRole q where
  text_eq f hf := h.text_eq f fun secret ↦ absurd (secret ▸ hf) (by decide)
  number_eq _ hf := h.sameOutline.number_eq hf

/-- **The same is selected but for the secret**, since selection takes it over without looking at
it. -/
theorem select_eq : q.select = p.select.map (Descriptor.withSecret q.pairSecret) := by
  rw [select, select, h.text_eq .roleArn (by decide), h.text_eq .roleSessionName (by decide),
    h.text_eq .tokenFile (by decide), h.text_eq .externalId (by decide), h.sameRole.proxy_eq,
    h.sameRole.roleRequest_eq, h.selectBase_eq]
  split
  · cases q.proxy with
    | error e => rfl
    | ok proxy => cases q.text .tokenFile <;> rfl
  · rfl

end DifferInSecret

/-- The static key pair that is selected is that of the fields, its secret as it is handed out. -/
theorem keyPair?_selectBase {a s : String} (h : p.selectBase.keyPair? = some (a, s)) :
    p.text .accessKey = some a ∧ s = p.pairSecret := by
  rw [selectBase] at h
  split at h
  · simp [Descriptor.keyPair?] at h
  · cases ha : p.text .accessKey with
    | some accessKey =>
      obtain ⟨rfl, rfl⟩ : accessKey = a ∧ p.pairSecret = s := by
        simpa [ha, Descriptor.keyPair?, pairSecret] using h
      exact ⟨rfl, rfl⟩
    | none =>
      cases hc : p.text .credentialsFile <;> cases hn : p.text .profileName <;>
        simp [ha, hc, hn, Descriptor.keyPair?] at h

theorem keyPair?_select {d : Descriptor} {a s : String} (hd : p.select = .ok d)
    (h : d.keyPair? = some (a, s)) : p.text .accessKey = some a ∧ s = p.pairSecret := by
  rw [select] at hd
  split at hd
  · cases hp : p.proxy with
    | error e => simp [hp, Except.map] at hd
    | ok proxy =>
      rw [hp] at hd
      cases ht : p.text .tokenFile with
      | some tokenFile =>
        obtain rfl : Descriptor.webIdentity _ tokenFile = d := by simpa [ht, Except.map] using hd
        simp [Descriptor.keyPair?] at h
      | none =>
        obtain rfl : Descriptor.assumeRole _ _ p.selectBase = d := by
          simpa [ht, Except.map] using hd
        exact keyPair?_selectBase h
  · obtain rfl := Except.ok.inj hd
    exact keyPair?_selectBase h

end ParameterSet

/-! ### Sessions -/

namespace Session

variable (w : World)

/-- **Another secret changes the first step of a plan only**, and the step is taken in any case. -/
theorem plan_withSecret_cases (d : Descriptor) (n k : Nat) :
    d.keyPair? = none ∨ ∃ a s more, d.keyPair? = some (a, s) ∧ ∀ s',
      plan w (d.withSecret s') n k =
        .done (.session n (.keyPair ⟨.ofString a, .ofString s'⟩)) :: more := by
  -- A key pair is opened first of all, whatever stands above it, so the secret is seen in one step.
  induction d with
  | staticKeyPair accessKey secretKey =>
    exact .inr ⟨accessKey, secretKey, [], rfl, fun _ ↦ rfl⟩
  | assumeRole role externalId base ih =>
    obtain none | ⟨a, s, more, pair, first⟩ := ih
    · exact .inl none
    · refine .inr ⟨a, s, more ++ roleSteps w role false
        (.assumeRole role.arn role.sessionName role.maxSeconds externalId) (n + base.roles)
        (k + base.roles), pair, fun s' ↦ ?_⟩
      rw [Descriptor.withSecret, plan, first, base.roles_withSecret s']
      rfl
  | default | anonymous | credentialsFile | namedProfile | webIdentity => exact .inl rfl

/-- A build with another secret has the same outcome and makes the same notices, and what is seen is
the same but for the first session. -/
theorem startedAt_build_withSecret (d : Descriptor) (t : Trace) :
    d.keyPair? = none ∨ ∃ a s outcome ns es, d.keyPair? = some (a, s) ∧ ∀ s',
      (build w (d.withSecret s')).startedAt t =
        (outcome, t.extend ns
          (.session t.nextSession (.keyPair ⟨.ofString a, .ofString s'⟩) :: es)) := by
  obtain none | ⟨a, s, more, pair, first⟩ := plan_withSecret_cases w d t.nextSession t.nextCall
  · exact .inl none
  · refine .inr ⟨a, s, (carryOut more).1.map fun _ ↦ t.nextSession + d.roles, d.notices,
      (carryOut more).2, pair, fun s' ↦ ?_⟩
    have carried : (build w (d.withSecret s')).startedAt t = _ := carriesOut_build w _ t
    rw [carried, first, d.roles_withSecret, d.notices_withSecret, carryOut]

/-- Events with the parameter sets that a session was asked for with: they are the same, or the
first of them is the session of the static key pair, and the same but for the secret. -/
inductive SameButSecret (p q : ParameterSet) : List Event → List Event → Prop
  /-- The events are the same. -/
  | same (es : List Event) : SameButSecret p q es es
  /-- The session of the static key pair takes the secret of the parameter set. -/
  | keyPair {accessKey : String} (h : p.text .accessKey = some accessKey) (es : List Event) :
      SameButSecret p q
        (.session 0 (.keyPair ⟨.ofString accessKey, .ofString p.pairSecret⟩) :: es)
        (.session 0 (.keyPair ⟨.ofString accessKey, .ofString q.pairSecret⟩) :: es)

/-- Two runs end alike, with the same notices, and the same is seen but for the secret. -/
structure EndAlike (p q : ParameterSet) (x y : Except Fault Nat × Trace) : Prop where
  /-- The outcome is the same session or the same fault. -/
  outcome : x.1 = y.1
  /-- The notices are the same. -/
  notices : x.2.notices = y.2.notices
  /-- The events are the same but for the secret. -/
  events : SameButSecret p q x.2.events y.2.events

variable {p q : ParameterSet}

theorem endAlike_self (x : Except Fault Nat × Trace) : EndAlike p q x x :=
  ⟨rfl, rfl, .same _⟩

/-- Where one parameter set resolves, the other does, and the builds end alike, as plans that differ
in the first step only. -/
theorem endAlike_of_ok (h : p.DifferInSecret q) {d : Descriptor} (hd : p.resolve = .ok d)
    (ns : List Notice) :
    ∃ e, q.resolve = .ok e ∧ EndAlike p q ((build w d).startedAt (Trace.empty.notify ns))
      ((build w e).startedAt (Trace.empty.notify ns)) := by
  obtain ⟨valid, selected⟩ := ParameterSet.resolve_eq_ok_iff.1 hd
  have selected' : q.select = .ok (d.withSecret q.pairSecret) := by
    rw [h.select_eq, selected]
    rfl
  refine ⟨_, ParameterSet.resolve_eq_ok_iff.2 ⟨h.sameOutline.valid valid, selected'⟩, ?_⟩
  -- Without a key pair the descriptors are equal; with one, both runs are given by the same law.
  obtain none | ⟨a, s, outcome, ms, es, pair, built⟩ :=
    startedAt_build_withSecret w d (Trace.empty.notify ns)
  · rw [Descriptor.withSecret_of_none none]
    exact endAlike_self _
  · obtain ⟨accessKey, rfl⟩ := ParameterSet.keyPair?_select selected pair
    have own := built p.pairSecret
    rw [Descriptor.withSecret_self pair] at own
    rw [own, built]
    exact ⟨rfl, rfl, .keyPair accessKey es⟩

/-- **The secret key does not show**: whether parameter sets hold this secret or that, validation
says the same of them, and asking for a session ends in the same session or the same fault, with the
same notices. The same is seen from outside, but for the secret of the session that is opened with
the static key pair. -/
theorem secret_unseen (h : p.DifferInSecret q) (w : World) :
    p.ValidatedAlike q ∧
      EndAlike p q ((getSession w (.parameters p)).startedAt .empty)
        ((getSession w (.parameters q)).startedAt .empty) := by
  have alike : p.ValidatedAlike q := h.sameOutline.validatedAlike
  refine ⟨alike, ?_⟩
  rw [startedAt_getSession_parameters, startedAt_getSession_parameters, ← alike.notices_eq]
  cases resolved : p.resolve with
  | error r =>
    rw [h.sameOutline.resolve_eq_error resolved]
    exact endAlike_self _
  | ok d =>
    obtain ⟨e, resolved', ends⟩ := endAlike_of_ok w h resolved p.notices
    rw [resolved']
    exact ends

/-- A role over a static key pair with this secret, which has to be valid for the law to say
anything of sessions. -/
def keyedRole (secret : String) : ParameterSet where
  text
    | .accessKey => some "AKIA"
    | .secretKey => some secret
    | .roleArn => some "arn"
    | .roleSessionName => some "name"
    | _ => none

theorem secret_unseen_keyedRole :
    (keyedRole "one").DifferInSecret (keyedRole "two") ∧
      (keyedRole "one").ValidatedAlike (keyedRole "two") ∧
      EndAlike (keyedRole "one") (keyedRole "two")
        ((getSession ⟨.empty, none, none, []⟩ (.parameters (keyedRole "one"))).startedAt .empty)
        ((getSession ⟨.empty, none, none, []⟩ (.parameters (keyedRole "two"))).startedAt .empty) :=
  have differ : (keyedRole "one").DifferInSecret (keyedRole "two") :=
    ⟨rfl, rfl, fun f hf ↦ by
      cases f with
      | secretKey => exact absurd rfl hf
      | _ => rfl⟩
  ⟨differ, secret_unseen differ _⟩

end Session

end AwsCredentials
