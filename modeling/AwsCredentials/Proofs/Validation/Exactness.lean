import AwsCredentials.Proofs.Basic
import AwsCredentials.Proofs.Validation.Finding

/-!
# Reports are exact

**The main statement**, `validate_exact`: for a parameter set with convertible numbers, validation
gives an answer, and its violations are the exact report of the set. An exact report has an entry
for every broken rule of `Rule.all` and no other entry, in the order of the rules and none twice.

The order and the entries come from `Rule.problems_eq_filterMap` and `Rule.finding_iff`, rule by
rule. That no two entries are equal rests on something else: a violation tells by its kind and its
names which rule it reports (`Rule.ofViolation_of_reports`), and no rule is listed twice.
-/

namespace AwsCredentials

/-- A list of violations reports what is wrong with a parameter set, exactly: nothing is missing,
and nothing is there without a cause. -/
structure ExactReport (p : ParameterSet) (vs : List Violation) : Prop where
  /-- Nothing is left out and nothing is added. -/
  mem_iff : ∀ v, v ∈ vs ↔ ∃ r ∈ Rule.all, r.Reports p v
  /-- There is one entry for each broken rule, and the entries stand in the order of the rules. -/
  in_order : ∃ rs, rs.Sublist Rule.all ∧ List.Forall₂ (fun r v ↦ r.Reports p v) rs vs
  /-- No entry is there twice. -/
  nodup : vs.Nodup

namespace Rule

variable {p : ParameterSet}

/-- The rule that a violation reports, as its kind and its names tell. -/
def ofViolation (v : Violation) : Option Rule :=
  match v.kind, v.names.filterMap Field.ofName? with
  | .conflictingStrategy, fs => some (if .roleArn ∈ fs then signingBase else oneBase)
  | .incompletePair, [f, g] => some (pair f g)
  | .malformedValue, [f] => some (if f ∈ Field.flags then flag f else wholeNumber f)
  | .outOfRange, fs => some (if .maxSeconds ∈ fs then seconds else port)
  | .danglingDependency, f :: _ => some (if f ∈ Field.proxy then proxy else dependent f)
  | _, _ => none

@[simp]
theorem filterMap_names (fs : List Field) : (fs.map Field.name).filterMap Field.ofName? = fs := by
  rw [List.filterMap_map]
  exact (List.filterMap_congr fun f _ ↦ Field.ofName?_name f).trans List.filterMap_some

/-- **A violation tells which rule it reports**, so two different rules are never reported alike. -/
theorem ofViolation_of_reports {r : Rule} {v : Violation} (hr : r ∈ all) (h : r.Reports p v) :
    ofViolation v = some r := by
  have not_flag : ∀ f ∈ Field.wholeNumbers, f ∉ Field.flags := by decide
  have not_proxy : ∀ f ∈ Field.roleDependents, f ∉ Field.proxy := by decide
  cases h with
  | oneBase =>
    have no_role : Field.roleArn ∉ baseFields.filter p.Indicates :=
      fun h ↦ absurd (List.mem_of_mem_filter h) (by decide)
    simp [ofViolation, report, no_role]
  | signingBase => rfl
  | secondMissing => simp [ofViolation, report]
  | firstMissing => simp [ofViolation, report]
  | flag => simp [ofViolation, report, flag_mem_all_iff.1 hr]
  | wholeNumber => simp [ofViolation, report, not_flag _ (wholeNumber_mem_all_iff.1 hr)]
  | seconds => rfl
  | port => rfl
  | dependent => simp [ofViolation, report, not_proxy _ (dependent_mem_all_iff.1 hr)]
  | proxy hp =>
    -- The violation names the part that is given, or both; either tells the proxy.
    cases hh : p.isSet .proxyHost with
    | true => simp [ofViolation, report, hh, Field.proxy]
    | false => simp [ofViolation, report, hh, hp.resolve_left (by simp [hh]), Field.proxy]

/-- Violations that report listed rules in turn are different if the rules are. -/
theorem nodup_of_forall₂ {rs : List Rule} {vs : List Violation} (hrs : rs.Sublist all)
    (h : List.Forall₂ (fun r v ↦ r.Reports p v) rs vs) : vs.Nodup := by
  have told : vs.map ofViolation = rs.map some := by
    induction h with
    | nil => rfl
    | cons hv _ ih =>
      have listed := hrs.subset List.mem_cons_self
      rw [List.map_cons, List.map_cons, ofViolation_of_reports listed hv,
        ih ((List.sublist_cons_self _ _).trans hrs)]
  refine List.Nodup.of_map ofViolation ?_
  rw [told]
  exact (nodup_all.sublist hrs).map fun _ _ ↦ Option.some.inj

end Rule

/-! ### The findings as a report -/

namespace ParameterSet

variable {p : ParameterSet}

/-- The violations of the problems are what the rules report, rule by rule. -/
theorem violations_eq_filterMap (p : ParameterSet) :
    p.problems.map Problem.violation =
      Rule.all.filterMap fun r ↦ (r.finding p).map Problem.violation := by
  rw [Rule.problems_eq_filterMap, List.map_filterMap]

theorem finding_map_eq_some_iff (hc : p.Convertible) {r : Rule} {v : Violation} :
    (r.finding p).map Problem.violation = some v ↔ r.Reports p v := by
  rw [Option.map_eq_some_iff]
  exact Rule.finding_iff hc

/-- With convertible numbers, the violations of the problems are an exact report, since a rule finds
a problem exactly when it is broken. -/
theorem exactReport_problems (hc : p.Convertible) :
    ExactReport p (p.problems.map Problem.violation) := by
  obtain ⟨rs, hrs, found⟩ :=
    forall₂_filterMap (fun r ↦ (r.finding p).map Problem.violation) Rule.all
  rw [← violations_eq_filterMap] at found
  have reported : List.Forall₂ (fun r v ↦ r.Reports p v) rs (p.problems.map Problem.violation) :=
    found.imp fun _ _ h ↦ (finding_map_eq_some_iff hc).1 h
  refine ⟨fun v ↦ ?_, ⟨rs, hrs, reported⟩, Rule.nodup_of_forall₂ hrs reported⟩
  rw [violations_eq_filterMap, List.mem_filterMap]
  exact exists_congr fun r ↦ and_congr_right fun _ ↦ finding_map_eq_some_iff hc

/-- With convertible numbers, what validation says is an exact report, be it of acceptance or of
rejection. -/
theorem exactReport_validation (hc : p.Convertible) (h : p.overlong? = none) :
    ExactReport p (p.validation h).violations := by
  rw [violations_validation h]
  exact exactReport_problems hc

/-- A parameter set is valid exactly when its numbers are convertible and it breaks no rule. -/
theorem valid_iff :
    p.Valid ↔ p.Convertible ∧ ∀ r ∈ Rule.all, ∀ v, ¬Rule.Reports p r v := by
  constructor
  · intro h
    have hc := overlong?_eq_none_iff_convertible.1 h.convertible
    refine ⟨hc, fun r hr v hv ↦ ?_⟩
    have listed := ((exactReport_problems hc).mem_iff v).2 ⟨r, hr, hv⟩
    simp [h.sound] at listed
  · rintro ⟨hc, unbroken⟩
    refine ⟨overlong?_eq_none_iff_convertible.2 hc, ?_⟩
    have nothing : ∀ v, v ∉ p.problems.map Problem.violation := by
      intro v hv
      obtain ⟨r, hr, broken⟩ := ((exactReport_problems hc).mem_iff v).1 hv
      exact unbroken r hr v broken
    exact List.map_eq_nil_iff.1 (List.eq_nil_iff_forall_not_mem.2 nothing)

/-- **Validation reports what is wrong, exactly**: it gives an answer for every parameter set with
convertible numbers, and the violations of the answer are the broken rules, in order. -/
theorem validate_exact {p : ParameterSet} (h : p.Convertible) :
    ∃ report, p.validate = .ok report ∧ ExactReport p report.validation.violations := by
  have convertible := overlong?_eq_none_iff_convertible.2 h
  exact ⟨_, validate_eq_ok convertible, exactReport_validation h convertible⟩

/-- A parameter set with an unreadable flag, half of a pair next to the default, a time for no role
and a port out of range. -/
def troubled : ParameterSet where
  text
    | .useDefault => some "TRUE"
    | .useAnonymous => some "maybe"
    | .accessKey => some "AKIA"
    | .maxSeconds => some "-5"
    | .proxyPort => some "0"
    | _ => none

theorem validate_troubled :
    troubled.Convertible ∧ ∃ report, troubled.validate = .ok report ∧
      ExactReport troubled report.validation.violations :=
  have convertible : troubled.Convertible := overlong?_eq_none_iff_convertible.1 (by decide)
  ⟨convertible, validate_exact convertible⟩

end ParameterSet

end AwsCredentials
