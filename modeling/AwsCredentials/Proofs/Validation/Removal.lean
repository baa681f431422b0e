import AwsCredentials.Proofs.Validation.Exactness

/-!
# What a removal can break

A field is removed from a parameter set by leaving it without a text (`ParameterSet.without`). What
is wrong with the rest was mostly wrong before: all that fields say is said by fewer of them, so a
rule against something that is said is not broken by saying less. Some rules ask for a field to be
there, however, and those a removal can break. `Loses` lists the ways, and `breaks_or_loses` says
that there are no others:

* of a pair, one field is removed and the other is left;
* a role without a base that signs loses the token it went by;
* a role is no longer requested, and a field is left that means nothing without it.

So a valid parameter set stays valid if what is removed keeps pairs together and leaves the role and
the token as they are (`Valid.without`).
-/

namespace AwsCredentials.ParameterSet

variable {p : ParameterSet} {fs : List Field} {f : Field} {r : Rule}

/-- The parameter set without the texts of these fields. All others stay as they are. -/
def without (p : ParameterSet) (fs : List Field) : ParameterSet :=
  ⟨fun f ↦ if f ∈ fs then none else p.text f⟩

/-! ### What is left -/

theorem text_without_of_mem (h : f ∈ fs) : (p.without fs).text f = none :=
  if_pos h

theorem text_without_of_not_mem (h : f ∉ fs) : (p.without fs).text f = p.text f :=
  if_neg h

/-- The texts that are left after a removal are those of the other fields. -/
theorem text_without_eq_some_iff {s : String} :
    (p.without fs).text f = some s ↔ p.text f = some s ∧ f ∉ fs := by
  by_cases h : f ∈ fs
  · simp [text_without_of_mem h, h]
  · simp [text_without_of_not_mem h, h]

theorem isSet_without_iff : (p.without fs).isSet f = true ↔ p.isSet f = true ∧ f ∉ fs := by
  simp only [isSet_eq_true_iff, text_without_eq_some_iff, exists_and_right]

theorem isSet_without_of_not_mem (h : f ∉ fs) : (p.without fs).isSet f = p.isSet f := by
  rw [isSet, isSet, text_without_of_not_mem h]

theorem denotes_of_without {n : Int} (h : (p.without fs).Denotes f n) : p.Denotes f n := by
  obtain ⟨s, m, hs, hm, hn⟩ := h
  exact ⟨s, m, (text_without_eq_some_iff.1 hs).1, hm, hn⟩

/-- The fields that still indicate a base did so before, and were not removed. -/
theorem indicates_without_iff : (p.without fs).Indicates f ↔ p.Indicates f ∧ f ∉ fs := by
  constructor
  · rintro (⟨hf, hs, ht⟩ | ⟨hf, hs⟩)
    · exact ⟨.flag hf (text_without_eq_some_iff.1 hs).1 ht, (text_without_eq_some_iff.1 hs).2⟩
    · exact ⟨.value hf (isSet_without_iff.1 hs).1, (isSet_without_iff.1 hs).2⟩
  · rintro ⟨⟨hf, hs, ht⟩ | ⟨hf, hs⟩, kept⟩
    · exact .flag hf (text_without_eq_some_iff.2 ⟨hs, kept⟩) ht
    · exact .value hf (isSet_without_iff.2 ⟨hs, kept⟩)

theorem indicatesBase_of_without {b : Base} (h : (p.without fs).IndicatesBase b) :
    p.IndicatesBase b := by
  obtain ⟨f, hf, hi⟩ := h
  exact ⟨f, hf, (indicates_without_iff.1 hi).1⟩

theorem requestsRole_of_without (h : (p.without fs).RequestsRole) : p.RequestsRole :=
  ⟨(isSet_without_iff.1 h.1).1, (isSet_without_iff.1 h.2).1⟩

/-- A requested role is still requested when its two fields are left, whatever else is removed. -/
theorem RequestsRole.without (h : p.RequestsRole) (arn : .roleArn ∉ fs)
    (name : .roleSessionName ∉ fs) : (p.without fs).RequestsRole :=
  ⟨isSet_without_iff.2 ⟨h.1, arn⟩, isSet_without_iff.2 ⟨h.2, name⟩⟩

/-- What is left of convertible numbers is convertible. -/
theorem Convertible.without (h : p.Convertible) (fs : List Field) : (p.without fs).Convertible :=
  fun f hf s hs ↦ h f hf s (text_without_eq_some_iff.1 hs).1

/-! ### Broken rules -/

/-- A parameter set breaks a rule when there is a violation to report, whichever it is. -/
def Breaks (p : ParameterSet) (r : Rule) : Prop :=
  ∃ v, r.Reports p v

theorem valid_iff_not_breaks : p.Valid ↔ p.Convertible ∧ ∀ r ∈ Rule.all, ¬p.Breaks r := by
  simp only [valid_iff, Breaks, not_exists]

/-- By a removal, a parameter set loses what a rule asks for: the partner of a field, the role for
one, or the token. -/
inductive Loses (p : ParameterSet) (fs : List Field) : Rule → Prop
  /-- One field of a pair is removed, and the other is left. -/
  | partner {f g : Field} (hf : p.isSet f = true) (hg : p.isSet g = true) (h : f ∈ fs ↔ g ∉ fs) :
      Loses p fs (.pair f g)
  /-- The token of a requested role is removed. -/
  | token (ht : .tokenFile ∈ fs) (hr : p.RequestsRole) : Loses p fs .signingBase
  /-- A role is no longer requested for a field. -/
  | role {f : Field} (hr : p.RequestsRole) (lost : ¬(p.without fs).RequestsRole) :
      Loses p fs (.dependent f)
  /-- A role is no longer requested for a proxy. -/
  | roleOfProxy (hr : p.RequestsRole) (lost : ¬(p.without fs).RequestsRole) : Loses p fs .proxy

/-- **A rule that is broken after a removal was broken before, or loses what it asks for.** Each
cause of a violation is about what a set holds, which it then held before, or about what it lacks,
which may be by the removal. -/
theorem breaks_or_loses (h : (p.without fs).Breaks r) : p.Breaks r ∨ p.Loses fs r := by
  -- A rule is broken afresh only where its premise is that something is missing: the side condition
  -- of such a case decides between the old fault and the loss.
  obtain ⟨v, h⟩ := h
  cases h with
  | oneBase hb hc hne =>
    exact .inl ⟨_, .oneBase (indicatesBase_of_without hb) (indicatesBase_of_without hc) hne⟩
  | signingBase ha hr ht =>
    have hr := requestsRole_of_without hr
    by_cases removed : .tokenFile ∈ fs
    · exact .inr (.token removed hr)
    · rw [isSet_without_of_not_mem removed] at ht
      exact .inl ⟨_, .signingBase (indicates_without_iff.1 ha).1 hr ht⟩
  -- A half that is missing now was missing before, or is what the removal took.
  | @secondMissing f g hf hg =>
    obtain ⟨hf, kept⟩ := isSet_without_iff.1 hf
    by_cases removed : g ∈ fs
    · cases hg' : p.isSet g with
      | true => exact .inr (.partner hf hg' (by simp [kept, removed]))
      | false => exact .inl ⟨_, .secondMissing hf hg'⟩
    · rw [isSet_without_of_not_mem removed] at hg
      exact .inl ⟨_, .secondMissing hf hg⟩
  | @firstMissing f g hf hg =>
    obtain ⟨hg, kept⟩ := isSet_without_iff.1 hg
    by_cases removed : f ∈ fs
    · cases hf' : p.isSet f with
      | true => exact .inr (.partner hf' hg (by simp [kept, removed]))
      | false => exact .inl ⟨_, .firstMissing hf' hg⟩
    · rw [isSet_without_of_not_mem removed] at hf
      exact .inl ⟨_, .firstMissing hf hg⟩
  | flag hs ht hf => exact .inl ⟨_, .flag (text_without_eq_some_iff.1 hs).1 ht hf⟩
  | wholeNumber hs hn => exact .inl ⟨_, .wholeNumber (text_without_eq_some_iff.1 hs).1 hn⟩
  | seconds hn hr out =>
    exact .inl ⟨_, .seconds (denotes_of_without hn) (requestsRole_of_without hr) out⟩
  | port hn out => exact .inl ⟨_, .port (denotes_of_without hn) out⟩
  | dependent hf lost =>
    by_cases hr : p.RequestsRole
    · exact .inr (.role hr lost)
    · exact .inl ⟨_, .dependent (isSet_without_iff.1 hf).1 hr⟩
  | proxy hp lost =>
    by_cases hr : p.RequestsRole
    · exact .inr (.roleOfProxy hr lost)
    · exact .inl ⟨_, .proxy (hp.imp (fun h ↦ (isSet_without_iff.1 h).1)
        fun h ↦ (isSet_without_iff.1 h).1) hr⟩

/-- **A valid parameter set stays valid** without fields that are of no consequence for others: of
each pair both fields are removed or none, and the role and the token are left. -/
theorem Valid.without (h : p.Valid) (pairs : ∀ q ∈ Field.pairs, (q.1 ∈ fs ↔ q.2 ∈ fs))
    (arn : .roleArn ∉ fs) (token : .tokenFile ∉ fs) : (p.without fs).Valid := by
  obtain ⟨convertible, unbroken⟩ := valid_iff_not_breaks.1 h
  refine valid_iff_not_breaks.2 ⟨convertible.without fs, fun r listed broken ↦ ?_⟩
  have name : .roleSessionName ∉ fs :=
    fun removed ↦ arn ((pairs (.roleArn, .roleSessionName) (by decide)).2 removed)
  rcases breaks_or_loses broken with before | loses
  · exact unbroken r listed before
  · cases loses with
    | partner _ _ split =>
      have together := pairs _ (Rule.pair_mem_all_iff.1 listed)
      tauto
    | token removed => exact token removed
    | role hr lost => exact lost (hr.without arn name)
    | roleOfProxy hr lost => exact lost (hr.without arn name)

end AwsCredentials.ParameterSet
