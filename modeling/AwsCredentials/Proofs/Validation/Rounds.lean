import AwsCredentials.Proofs.Validation.Description
import AwsCredentials.Proofs.Validation.Removal
import AwsCredentials.Proofs.Validation.Totality

/-!
# Acting on a report

A report names the fields at fault. To act on it is to remove every field that any of its violations
names (`ParameterSet.heeding`). That can put one fault in the place of another: without its port,
the host of a proxy is half of a pair; without its role, a region means nothing. **The main
statement**, `valid_after_two_rounds`, is that this goes no further: what is left after the second
round is valid. Each round makes progress, since a violation names at least one field that is set.

## What a round leaves

A rule that was broken is not broken after the round, since all that it found is gone
(`not_breaks_without`). So a rule that is broken then has lost something by the removal, and which
fields go together decides what:

* the token of a requested role is never named (`not_blames_tokenFile`);
* the fields of a pair that are both set are named together or not at all, but for the port of a
  proxy, which two rules name alone (`blames_together`).

Hence the only rules that the first round can break are those about the proxy and about fields for
requested roles, the *follow-ups*. In the second round no other rule is broken, so neither the role
nor the port alone is removed, and nothing is lost.
-/

namespace AwsCredentials

/-! ### The fields that are named -/

/-- A violation names a field when the name of the field is among its names. -/
def Violation.Names (v : Violation) (f : Field) : Prop :=
  f.name ∈ v.names

instance (v : Violation) : DecidablePred v.Names := fun _ ↦
  inferInstanceAs (Decidable (_ ∈ _))

/-- The fields that any of the violations names. -/
def namedFields (vs : List Violation) : List Field :=
  Field.all.filter fun f ↦ ∃ v ∈ vs, v.Names f

theorem mem_namedFields_iff {vs : List Violation} {f : Field} :
    f ∈ namedFields vs ↔ ∃ v ∈ vs, v.Names f := by
  rw [namedFields, List.mem_filter, decide_eq_true_iff]
  exact and_iff_right (Field.mem_all f)

/-- The parameter set without the fields that a report names. -/
def ParameterSet.heeding (p : ParameterSet) (report : Report) : ParameterSet :=
  p.without (namedFields report.validation.violations)

namespace Rule

variable {p : ParameterSet} {fs : List Field} {f : Field} {r : Rule} {v : Violation}

/-- The fields that a rule is about, whether they are set or not. -/
def scope : Rule → List Field
  | oneBase => baseFields
  | signingBase => [.useAnonymous, .roleArn, .roleSessionName]
  | pair f g => [f, g]
  | flag f => [f]
  | wholeNumber f => [f]
  | seconds => [.maxSeconds]
  | port => [.proxyPort]
  | dependent f => [f]
  | proxy => [.proxyHost, .proxyPort]

/-- The fields that are named when a rule is broken. For two rules this depends on which fields are
set. -/
def named (p : ParameterSet) : Rule → List Field
  | oneBase => baseFields.filter p.Indicates
  | proxy => [Field.proxyHost, .proxyPort].filter p.isSet
  | r => r.scope

theorem Reports.names_iff (h : r.Reports p v) : v.Names f ↔ f ∈ r.named p := by
  have names : v.names = (r.named p).map Field.name := by
    cases h <;> rfl
  rw [Violation.Names, names, List.mem_map]
  constructor
  · rintro ⟨g, hg, same⟩
    exact Field.eq_of_name_eq same ▸ hg
  · intro hf
    exact ⟨f, hf, rfl⟩

theorem mem_scope_of_mem_named (h : f ∈ r.named p) : f ∈ r.scope := by
  cases r with
  | oneBase => exact (List.mem_filter.1 h).1
  | proxy => exact (List.mem_filter.1 h).1
  | _ => exact h

/-- Flags apart, a field that is set is named by every broken rule that is about it. -/
theorem mem_named_of_mem_scope (hf : f ∉ Field.flags) (hs : p.isSet f = true) (h : f ∈ r.scope) :
    f ∈ r.named p := by
  cases r with
  | oneBase => exact List.mem_filter.2 ⟨h, decide_eq_true (.value hf hs)⟩
  | proxy => exact List.mem_filter.2 ⟨h, hs⟩
  | _ => exact h

/-- After a removal no more fields are named by a rule than before. -/
theorem mem_named_of_without (h : f ∈ r.named (p.without fs)) : f ∈ r.named p := by
  cases r with
  | oneBase =>
    obtain ⟨hf, hi⟩ := List.mem_filter.1 h
    have before := (ParameterSet.indicates_without_iff.1 (of_decide_eq_true hi)).1
    exact List.mem_filter.2 ⟨hf, decide_eq_true before⟩
  | proxy =>
    obtain ⟨hf, hs⟩ := List.mem_filter.1 h
    exact List.mem_filter.2 ⟨hf, (ParameterSet.isSet_without_iff.1 hs).1⟩
  | _ => exact h

/-- **A broken rule names a field that is set**, so acting on it removes a text. -/
theorem Reports.exists_isSet (h : r.Reports p v) : ∃ f ∈ r.named p, p.isSet f = true := by
  have indicates_isSet {f : Field} (hi : p.Indicates f) : p.isSet f = true := by
    cases hi with
    | flag _ hs _ => exact ParameterSet.isSet_eq_true_iff.2 ⟨_, hs⟩
    | value _ hs => exact hs
  cases h with
  | @oneBase b _ hb =>
    obtain ⟨f, hf, hi⟩ := hb
    have listed : ∀ b : Base, ∀ f ∈ b.fields, f ∈ baseFields := by
      intro b
      cases b <;> decide
    exact ⟨f, List.mem_filter.2 ⟨listed b f hf, decide_eq_true hi⟩, indicates_isSet hi⟩
  | signingBase ha => exact ⟨_, List.mem_cons_self, indicates_isSet ha⟩
  | secondMissing hf => exact ⟨_, List.mem_cons_self, hf⟩
  | firstMissing _ hg => exact ⟨_, List.mem_cons_of_mem _ List.mem_cons_self, hg⟩
  | flag hs => exact ⟨_, List.mem_cons_self, ParameterSet.isSet_eq_true_iff.2 ⟨_, hs⟩⟩
  | wholeNumber hs => exact ⟨_, List.mem_cons_self, ParameterSet.isSet_eq_true_iff.2 ⟨_, hs⟩⟩
  | seconds hn => exact ⟨_, List.mem_cons_self, hn.isSet⟩
  | port hn => exact ⟨_, List.mem_cons_self, hn.isSet⟩
  | dependent hf => exact ⟨_, List.mem_cons_self, hf⟩
  | proxy hp =>
    rcases hp with hp | hp
    · exact ⟨_, List.mem_filter.2 ⟨List.mem_cons_self, hp⟩, hp⟩
    · exact ⟨_, List.mem_filter.2 ⟨List.mem_cons_of_mem _ List.mem_cons_self, hp⟩, hp⟩

/-- The rules that a removal of named fields can break, though they were kept before. -/
def followUps : List Rule :=
  .pair .proxyHost .proxyPort :: (Field.roleDependents.map .dependent ++ [.proxy])

/-- The two fields of a pair are in the scope of the same rules, but for two rules about the port of
the proxy alone. -/
theorem mem_scope_iff : ∀ r ∈ all, ∀ q ∈ Field.pairs,
    (r.scope = [.proxyPort] → q.2 ≠ .proxyPort) → (q.1 ∈ r.scope ↔ q.2 ∈ r.scope) := by
  decide

end Rule

namespace ParameterSet

variable {p : ParameterSet} {fs : List Field} {f : Field} {r : Rule}

/-- A field is to blame when a broken rule names it. These are the fields that a round removes. -/
def Blames (p : ParameterSet) (f : Field) : Prop :=
  ∃ r ∈ Rule.all, p.Breaks r ∧ f ∈ r.named p

/-- An exact report names the fields that are to blame. -/
theorem mem_namedFields_iff_blames {vs : List Violation} (h : ExactReport p vs) :
    f ∈ namedFields vs ↔ p.Blames f := by
  simp only [mem_namedFields_iff, h.mem_iff, Blames]
  constructor
  · rintro ⟨v, ⟨r, listed, reports⟩, names⟩
    exact ⟨r, listed, ⟨v, reports⟩, reports.names_iff.1 names⟩
  · rintro ⟨r, listed, ⟨v, reports⟩, named⟩
    exact ⟨v, ⟨r, listed, reports⟩, reports.names_iff.2 named⟩

/-! ### What a round leaves broken -/

/-- A broken rule is not broken without the fields that it names, as far as these are set. -/
theorem not_breaks_without (removed : ∀ f ∈ r.named p, f ∈ fs) : ¬(p.without fs).Breaks r := by
  rintro ⟨v, reports⟩
  obtain ⟨f, named, set⟩ := reports.exists_isSet
  exact (isSet_without_iff.1 set).2 (removed f (Rule.mem_named_of_without named))

/-- The token of a requested role is not to blame: it is named only where it means nothing. -/
theorem not_blames_tokenFile (hr : p.RequestsRole) : ¬p.Blames .tokenFile := by
  rintro ⟨r, listed, ⟨v, reports⟩, named⟩
  have only : ∀ r ∈ Rule.all, .tokenFile ∈ r.scope → r = .dependent .tokenFile := by decide
  obtain rfl := only r listed (Rule.mem_scope_of_mem_named named)
  cases reports with
  | dependent _ hr' => exact hr' hr

/-- The fields of a pair that are both set are to blame together, unless a broken rule is about the
second alone. -/
theorem blames_together {q : Field × Field} (hq : q ∈ Field.pairs) (hf : p.isSet q.1 = true)
    (hg : p.isSet q.2 = true)
    (alone : ∀ r ∈ Rule.all, p.Breaks r → r.scope = [.proxyPort] → q.2 ≠ .proxyPort) :
    p.Blames q.1 ↔ p.Blames q.2 := by
  have no_flag : ∀ q ∈ Field.pairs, q.1 ∉ Field.flags ∧ q.2 ∉ Field.flags := by decide
  have same (r : Rule) (listed : r ∈ Rule.all) (broken : p.Breaks r) :=
    Rule.mem_scope_iff r listed q hq (alone r listed broken)
  constructor
  · rintro ⟨r, listed, broken, named⟩
    have second := (same r listed broken).1 (Rule.mem_scope_of_mem_named named)
    exact ⟨r, listed, broken, Rule.mem_named_of_mem_scope (no_flag q hq).2 hg second⟩
  · rintro ⟨r, listed, broken, named⟩
    have first := (same r listed broken).2 (Rule.mem_scope_of_mem_named named)
    exact ⟨r, listed, broken, Rule.mem_named_of_mem_scope (no_flag q hq).1 hf first⟩

/-- A rule that is broken without the fields to blame has lost something by their removal. -/
theorem loses_of_breaks (blamed : ∀ f, f ∈ fs ↔ p.Blames f) (listed : r ∈ Rule.all)
    (broken : (p.without fs).Breaks r) : p.Loses fs r := by
  rcases breaks_or_loses broken with before | loses
  · have gone : ¬(p.without fs).Breaks r :=
      not_breaks_without fun f named ↦ (blamed f).2 ⟨r, listed, before, named⟩
    exact absurd broken gone
  · exact loses

/-- **The first round** breaks follow-ups only: what a rule loses by it is a partner or a role, and
not the token. -/
theorem mem_followUps_of_breaks (blamed : ∀ f, f ∈ fs ↔ p.Blames f) (listed : r ∈ Rule.all)
    (broken : (p.without fs).Breaks r) : r ∈ Rule.followUps := by
  -- What is broken after the removal is broken because of it, so the losses are what to look at.
  cases loses_of_breaks blamed listed broken with
  -- A pair loses one half only if a rule blames that half alone, as the rule on ports does.
  | @partner f g hf hg split =>
    have pair_mem := Rule.pair_mem_all_iff.1 listed
    by_cases proxy : g = .proxyPort
    · have only : ∀ q ∈ Field.pairs, q.2 = .proxyPort → q.1 = .proxyHost := by decide
      obtain rfl := only _ pair_mem proxy
      exact proxy ▸ List.mem_cons_self
    · have together := blames_together pair_mem hf hg fun _ _ _ _ ↦ proxy
      rw [blamed, blamed] at split
      tauto
  | token removed hr => exact absurd ((blamed _).1 removed) (not_blames_tokenFile hr)
  | @role f =>
    have dependent : Rule.dependent f ∈ Field.roleDependents.map .dependent :=
      List.mem_map_of_mem (Rule.dependent_mem_all_iff.1 listed)
    exact List.mem_cons_of_mem _ (List.mem_append_left _ dependent)
  | roleOfProxy => decide

/-- **The second round** breaks nothing: no follow-up is about a field that requests a role, and
none is about one field of a pair alone. -/
theorem not_breaks_of_followUps (follow : ∀ r ∈ Rule.all, p.Breaks r → r ∈ Rule.followUps)
    (blamed : ∀ f, f ∈ fs ↔ p.Blames f) (listed : r ∈ Rule.all) : ¬(p.without fs).Breaks r := by
  -- No follow-up names what requests a role, so the role stays and with it all that depends on it.
  have role_left (f : Field) (hf : f ∈ [Field.roleArn, .roleSessionName]) : f ∉ fs := by
    have other : ∀ f ∈ [Field.roleArn, .roleSessionName], ∀ r ∈ Rule.followUps, f ∉ r.scope := by
      decide
    intro removed
    obtain ⟨r, listed, broken, named⟩ := (blamed f).1 removed
    exact other f hf r (follow r listed broken) (Rule.mem_scope_of_mem_named named)
  have not_alone : ∀ r ∈ Rule.followUps, r.scope ≠ [.proxyPort] := by decide
  intro broken
  cases loses_of_breaks blamed listed broken with
  | @partner f g hf hg split =>
    have together := blames_together (Rule.pair_mem_all_iff.1 listed) hf hg
      fun r listed broken only ↦ absurd only (not_alone r (follow r listed broken))
    rw [blamed, blamed] at split
    tauto
  | token removed hr => exact not_blames_tokenFile hr ((blamed _).1 removed)
  | role hr lost => exact lost (hr.without (role_left _ (by decide)) (role_left _ (by decide)))
  | roleOfProxy hr lost =>
    exact lost (hr.without (role_left _ (by decide)) (role_left _ (by decide)))

/-! ### Rounds -/

/-- A round leaves fewer fields set when one that is set is removed. -/
theorem length_setFields_without_lt (removed : f ∈ fs) (set : p.isSet f = true) :
    (p.without fs).setFields.length < p.setFields.length := by
  have left : (p.without fs).setFields = p.setFields.filter (· ∉ fs) := by
    rw [setFields, setFields, List.filter_filter]
    refine List.filter_congr fun g _ ↦ ?_
    rw [Bool.eq_iff_iff, isSet_without_iff]
    simp [and_comm]
  rw [left, List.length_filter_lt_length_iff_exists]
  exact ⟨f, List.mem_filter.2 ⟨Field.mem_all f, set⟩, by simpa using removed⟩

/-- **Acting on the report twice makes a parameter set valid**, whatever is wrong with it. Every
violation names a field that is set, so fewer fields are set after a round. -/
theorem valid_after_two_rounds (h : p.Convertible) :
    ∃ r₀ r₁ r₂ : Report, p.validate = .ok r₀ ∧ (p.heeding r₀).validate = .ok r₁ ∧
      ((p.heeding r₀).heeding r₁).validate = .ok r₂ ∧ r₂.validation.isValid = true ∧
      (∀ v ∈ r₀.validation.violations, ∃ f, v.Names f ∧ p.isSet f = true) ∧
      (r₀.validation.isValid = false → (p.heeding r₀).setFields.length < p.setFields.length) := by
  obtain ⟨r₀, answered₀, exact₀⟩ := h.answered.report
  have convertible : (p.heeding r₀).Convertible := h.without _
  obtain ⟨r₁, answered₁, exact₁⟩ := convertible.answered.report
  -- The first round can only leave follow-ups, and removing what those name breaks nothing more.
  have follow : ∀ r ∈ Rule.all, (p.heeding r₀).Breaks r → r ∈ Rule.followUps :=
    fun r listed broken ↦
      mem_followUps_of_breaks (fun _ ↦ mem_namedFields_iff_blames exact₀) listed broken
  have valid : ((p.heeding r₀).heeding r₁).Valid :=
    valid_iff_not_breaks.2 ⟨convertible.without _, fun r listed ↦
      not_breaks_of_followUps follow (fun _ ↦ mem_namedFields_iff_blames exact₁) listed⟩
  have names_set : ∀ v ∈ r₀.validation.violations, ∃ f, v.Names f ∧ p.isSet f = true := by
    intro v hv
    obtain ⟨r, -, reports⟩ := (exact₀.mem_iff v).1 hv
    obtain ⟨f, named, set⟩ := reports.exists_isSet
    exact ⟨f, reports.names_iff.2 named, set⟩
  refine ⟨r₀, r₁, _, answered₀, answered₁, validate_eq_ok valid.convertible, ?_, names_set,
    fun invalid ↦ ?_⟩
  · show (((p.heeding r₀).heeding r₁).validation valid.convertible).isValid = true
    rw [valid.validation_eq]
    rfl
  · have some_violation : r₀.validation.violations ≠ [] := by
      intro none
      simp [Validation.isValid, none] at invalid
    obtain ⟨v, hv⟩ := List.exists_mem_of_ne_nil _ some_violation
    obtain ⟨f, names, set⟩ := names_set v hv
    exact length_setFields_without_lt (mem_namedFields_iff.2 ⟨v, hv, names⟩) set

/-- A role that is not to be signed for, in a region, by a proxy whose port is out of range. -/
def unsignedRole : ParameterSet where
  text
    | .useAnonymous => some "true"
    | .roleArn => some "arn"
    | .roleSessionName => some "name"
    | .stsRegion => some "eu-west-1"
    | .proxyHost => some "proxy"
    | .proxyPort => some "0"
    | _ => none

theorem valid_after_two_rounds_unsignedRole :
    unsignedRole.Convertible ∧
      ∃ r₀ r₁ r₂ : Report, unsignedRole.validate = .ok r₀ ∧
        (unsignedRole.heeding r₀).validate = .ok r₁ ∧
        ((unsignedRole.heeding r₀).heeding r₁).validate = .ok r₂ ∧ r₂.validation.isValid = true ∧
        (∀ v ∈ r₀.validation.violations, ∃ f, v.Names f ∧ unsignedRole.isSet f = true) ∧
        (r₀.validation.isValid = false →
          (unsignedRole.heeding r₀).setFields.length < unsignedRole.setFields.length) :=
  have convertible : unsignedRole.Convertible := overlong?_eq_none_iff_convertible.1 (by decide)
  ⟨convertible, valid_after_two_rounds convertible⟩

/-- One round is not enough for `unsignedRole`: the region and the host of the proxy are left. -/
example : ¬(unsignedRole.heeding ⟨unsignedRole.validation (by decide), []⟩).Valid := by
  decide

end ParameterSet

end AwsCredentials
