import AwsCredentials.Proofs.Session.Safety
import AwsCredentials.Proofs.Validation.Outline
import AwsCredentials.Proofs.Validation.WebIdentity

/-!
# A role by a token needs no base

**The main statement**, `webIdentity_ignores_base`, compares two valid parameter sets that request
the same role by the same token. They come to the same descriptor (`ComesTo`), whatever they say of
a base and of an external id; and they still do when all of that is taken out of them.

Coming to a descriptor is more than resolving to it: a session that is asked for ends as the build
for the descriptor does, and the same is seen. The notices are left out, since they do tell which
fields were ignored. A build does not depend on the notices before it
(`exists_startedAt_build_notify`).
-/

namespace AwsCredentials.Session

variable {p q : ParameterSet}

/-! ### Notices before a build -/

/-- A build after more notices has the same outcome and makes the same notices and events, because
notices count for nothing in it. -/
theorem exists_startedAt_build_notify (w : World) (d : Descriptor) (t : Trace) (ns : List Notice) :
    ∃ outcome es, (build w d).startedAt t = (outcome, t.extend d.notices es) ∧
      (build w d).startedAt (t.notify ns) = (outcome, (t.notify ns).extend d.notices es) :=
  ⟨_, _, carriesOut_build w d t, carriesOut_build w d (t.notify ns)⟩

/-! ### Descriptors that parameter sets come to -/

/-- A parameter set comes to a descriptor: it resolves to it, and asking for a session has the
outcome and the events of a build. -/
structure ComesTo (p : ParameterSet) (d : Descriptor) : Prop where
  /-- The parameter set is valid. -/
  valid : p.Valid
  /-- The parameter set resolves to the descriptor. -/
  resolve_eq : p.resolve = .ok d
  /-- A session that is asked for is opened or fails as the one that is built. -/
  outcome_eq : ∀ w t,
    ((getSession w (.parameters p)).startedAt t).1 = ((build w d).startedAt t).1
  /-- The same events are seen of the session that is asked for and of the one that is built. -/
  events_eq : ∀ w t,
    ((getSession w (.parameters p)).startedAt t).2.events = ((build w d).startedAt t).2.events

/-- A valid parameter set comes to the descriptor that it selects, as its own notices change neither
outcome nor events. -/
theorem comesTo_of_select (h : p.Valid) {d : Descriptor} (hd : p.select = .ok d) :
    ComesTo p d := by
  have resolved : p.resolve = .ok d := ParameterSet.resolve_eq_ok_iff.2 ⟨h, hd⟩
  have asked (w : World) (t : Trace) :
      (getSession w (.parameters p)).startedAt t = (build w d).startedAt (t.notify p.notices) := by
    rw [startedAt_getSession_parameters, resolved]
  refine ⟨h, resolved, fun w t ↦ ?_, fun w t ↦ ?_⟩
  · obtain ⟨outcome, es, before, after⟩ := exists_startedAt_build_notify w d t p.notices
    rw [asked, before, after]
  · obtain ⟨outcome, es, before, after⟩ := exists_startedAt_build_notify w d t p.notices
    rw [asked, before, after]
    rfl

/-- Without its base and its external id, a parameter set that requests a role by a token comes to
what it selects with them. -/
theorem comesTo_stripped (h : p.Valid) (hr : p.RequestsRole) (ht : p.isSet .tokenFile = true)
    {d : Descriptor} (hd : p.select = .ok d) : ComesTo p.stripped d :=
  comesTo_of_select h.stripped ((p.sameRole_stripped.select_eq hr ht).symm.trans hd)

/-- **A role by a token does not depend on the base**: valid parameter sets that request the same
role by the same token come to the same descriptor, as they are and without their bases and external
ids. -/
theorem webIdentity_ignores_base (hp : p.Valid) (hq : q.Valid) (hr : p.RequestsRole)
    (ht : p.isSet .tokenFile = true) (same : p.SameRole q) :
    ∃ d : Descriptor, d.strategy = .webIdentity ∧ ComesTo p d ∧ ComesTo q d ∧
      ComesTo p.stripped d ∧ ComesTo q.stripped d := by
  obtain ⟨d, selected⟩ := hp.exists_select
  have by_token : d.strategy = .webIdentity := by
    rw [ParameterSet.strategy_of_select selected,
      if_pos (ParameterSet.roleRequested_eq_true_iff.2 hr), if_pos ht]
  have selected' : q.select = .ok d := (same.select_eq hr ht).symm.trans selected
  have token_set : q.isSet .tokenFile = true := same.isSet_eq (f := .tokenFile) (by decide) ▸ ht
  exact ⟨d, by_token, comesTo_of_select hp selected, comesTo_of_select hq selected',
    comesTo_stripped hp hr ht selected,
    comesTo_stripped hq (same.requestsRole hr) token_set selected'⟩

/-- A role by a token, in two configurations: one that is not to sign, and one with a profile and an
external id, where the time is written with a sign. -/
def byToken (signing : Bool) : ParameterSet where
  text
    | .useDefault => if signing then some "False" else none
    | .useAnonymous => if signing then none else some "TRUE"
    | .profileName => if signing then some "work" else none
    | .externalId => if signing then some "id" else none
    | .roleArn => some "arn"
    | .roleSessionName => some "name"
    | .tokenFile => some "token"
    | .stsRegion => some ""
    | .maxSeconds => if signing then some "+900" else some "900"
    | .proxyHost => some "proxy"
    | .proxyPort => some "8080"
    | _ => none

theorem webIdentity_ignores_base_byToken :
    (byToken false).Valid ∧ (byToken true).Valid ∧ (byToken false).SameRole (byToken true) ∧
      ∃ d : Descriptor, d.strategy = .webIdentity ∧ ComesTo (byToken false) d ∧
        ComesTo (byToken true) d ∧ ComesTo (byToken false).stripped d ∧
        ComesTo (byToken true).stripped d :=
  have unsigned : (byToken false).Valid := by decide
  have signing : (byToken true).Valid := by decide
  have same : (byToken false).SameRole (byToken true) := ⟨by decide, by decide⟩
  ⟨unsigned, signing, same, webIdentity_ignores_base unsigned signing (by decide) (by decide) same⟩

end AwsCredentials.Session
