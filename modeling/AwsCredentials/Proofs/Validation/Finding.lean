import AwsCredentials.Proofs.Validation.Rule
import Mathlib.Data.List.Nodup

/-!
# What each rule finds

Validation looks for problems group by group. Here its findings are taken apart rule by rule:
`Rule.finding` is the problem that a single rule finds, `problems_eq_filterMap` says that all
problems together are the findings of the rules in their order, and `finding_iff` compares each
finding with what the rule reports.

**Only the two ranges need convertible numbers.** A number that is too long to convert is not in any
range as far as validation can see, so a range is compared with its rule for convertible numbers
only; no other rule looks at the value of a number.
-/

namespace AwsCredentials

open Text

namespace ParameterSet

variable {p : ParameterSet}

/-! ### Indicated bases -/

theorem mem_indicating_iff {b : Base} {f : Field} :
    f ∈ p.indicating b ↔ f ∈ b.fields ∧ p.Indicates f := by
  rw [indicating, List.mem_filter, indicates_eq_true_iff]

theorem indicating_ne_nil_iff {b : Base} : p.indicating b ≠ [] ↔ p.IndicatesBase b := by
  constructor
  · intro h
    obtain ⟨f, hf⟩ := List.exists_mem_of_ne_nil _ h
    exact ⟨f, mem_indicating_iff.1 hf⟩
  · rintro ⟨f, hf⟩
    exact List.ne_nil_of_mem (mem_indicating_iff.2 hf)

theorem indicated_eq (p : ParameterSet) : p.indicated = Base.all.filter p.IndicatesBase :=
  List.filter_congr fun _ _ ↦ decide_eq_decide.2 indicating_ne_nil_iff

theorem mem_indicated_iff {b : Base} : b ∈ p.indicated ↔ p.IndicatesBase b := by
  rw [indicated_eq, List.mem_filter, decide_eq_true_iff]
  exact and_iff_right (Base.mem_all b)

theorem nodup_indicated (p : ParameterSet) : p.indicated.Nodup :=
  List.Nodup.filter _ (by decide)

/-- The fields that indicate a base, in their order: a base without such fields adds nothing. -/
theorem indicatingFields_eq (p : ParameterSet) :
    p.indicatingFields = Rule.baseFields.filter p.Indicates := by
  have skip (bs : List Base) :
      (bs.filter fun b ↦ p.indicating b ≠ []).flatMap p.indicating = bs.flatMap p.indicating := by
    induction bs with
    | nil => rfl
    | cons b bs ih => by_cases h : p.indicating b = [] <;> simp [h] at ih ⊢ <;> exact ih
  have all_fields : Rule.baseFields = Base.all.flatMap Base.fields := rfl
  rw [indicatingFields, indicated, skip, all_fields, List.filter_flatMap]
  refine List.flatMap_congr fun b _ ↦ List.filter_congr fun f _ ↦ ?_
  rw [Bool.eq_iff_iff, indicates_eq_true_iff, decide_eq_true_iff]

/-- More than one base is indicated exactly when two different ones are. -/
theorem two_le_length_indicated_iff :
    2 ≤ p.indicated.length ↔ ∃ b c, p.IndicatesBase b ∧ p.IndicatesBase c ∧ b ≠ c := by
  -- The list counts each indicated base once, hence two entries are two different bases.
  simp only [← mem_indicated_iff]
  have distinct := p.nodup_indicated
  constructor
  · intro h
    match hi : p.indicated, h with
    | b :: c :: _, _ =>
      rw [hi, List.nodup_cons] at distinct
      exact ⟨b, c, by simp, by simp, fun e ↦ distinct.1 (e ▸ List.mem_cons_self)⟩
  · rintro ⟨b, c, hb, hc, hne⟩
    match hi : p.indicated with
    | [] => simp [hi] at hb
    | [d] =>
      rw [hi, List.mem_singleton] at hb hc
      exact absurd (hb.trans hc.symm) hne
    | _ :: _ :: _ => simp

/-! ### Convertible numbers -/

/-- With convertible numbers, what a field says as a number is what its text denotes. -/
theorem number_eq_some_iff_denotes (hc : p.Convertible) {f : Field} (hf : f ∈ Field.wholeNumbers)
    {n : Int} : p.number f = some n ↔ p.Denotes f n := by
  simp only [number_eq_some_iff, readWhole_eq_number_iff]
  constructor
  · rintro ⟨s, hs, m, hm, -, hn⟩
    exact ⟨s, m, hs, hm, hn⟩
  · rintro ⟨s, m, hs, hm, hn⟩
    exact ⟨s, hs, m, hm, hc f hf s hs m hm, hn⟩

end ParameterSet

namespace Rule

variable {p : ParameterSet}

/-- The problem that a rule finds in a parameter set, if it finds one. No rule finds two. -/
def finding (p : ParameterSet) : Rule → Option Problem
  | oneBase =>
    if 2 ≤ p.indicated.length then some (.conflictingBases p.indicated p.indicatingFields) else none
  | signingBase =>
    if p.flag .useAnonymous = some true ∧ p.roleRequested ∧ ¬p.isSet .tokenFile
    then some .anonymousRole else none
  | pair f g => p.pairFault f g
  | flag f => p.flagFault f
  | wholeNumber f => p.numberFault f
  | seconds => p.secondsFault
  | port => p.portFault
  | dependent f => if ¬p.roleRequested ∧ p.isSet f then some (.dangling f) else none
  | proxy =>
    if ¬p.roleRequested ∧ Field.proxy.filter p.isSet ≠ []
    then some (.danglingProxy (Field.proxy.filter p.isSet)) else none

theorem filterMap_pair {α β : Type} (f : α → Option β) (a b : α) :
    [a, b].filterMap f = (f a).toList ++ (f b).toList := by
  cases ha : f a <;> cases hb : f b <;> simp [ha, hb]

/-- What the rules for requested roles find: nothing when a role is requested. -/
theorem filterMap_dangling (p : ParameterSet) :
    (Field.roleDependents.map dependent ++ [proxy]).filterMap (finding p) = p.danglingFields := by
  have select (fs : List Field) : (fs.filter p.isSet).map .dangling =
      fs.filterMap fun f ↦ if p.isSet f then some (Problem.dangling f) else none := by
    induction fs with
    | nil => rfl
    | cons f fs ih => by_cases h : p.isSet f <;> simp [h, ih]
  rw [List.filterMap_append, List.filterMap_map, ParameterSet.danglingFields, select]
  by_cases hr : p.roleRequested = true
  · simp [finding, hr, Function.comp_def]
  · rw [if_neg hr]
    congr 1
    · exact List.filterMap_congr fun f _ ↦ by simp [finding, hr]
    · simp only [List.filterMap_cons, List.filterMap_nil, finding]
      cases Field.proxy.filter p.isSet <;> simp [hr]

/-- **All problems are the findings of the rules**, rule by rule in the order of the list. -/
theorem problems_eq_filterMap (p : ParameterSet) : p.problems = all.filterMap (finding p) := by
  have conflicts : [oneBase, signingBase].filterMap (finding p) = p.conflicts := by
    have toList_ite (c : Prop) [Decidable c] (x : Problem) :
        (if c then some x else none).toList = if c then [x] else [] := by
      split <;> rfl
    rw [filterMap_pair]
    exact congrArg₂ (· ++ ·) (toList_ite _ _) (toList_ite _ _)
  have pairs : (Field.pairs.map fun q ↦ pair q.1 q.2).filterMap (finding p) = p.incompletePairs :=
    List.filterMap_map
  have malformed : (Field.flags.map flag ++ Field.wholeNumbers.map wholeNumber).filterMap
      (finding p) = p.malformedValues := by
    rw [List.filterMap_append, List.filterMap_map, List.filterMap_map]
    rfl
  have ranges : [seconds, port].filterMap (finding p) = p.rangeFaults :=
    filterMap_pair (finding p) seconds port
  have groups : all = [oneBase, signingBase] ++ (Field.pairs.map fun q ↦ pair q.1 q.2)
      ++ (Field.flags.map flag ++ Field.wholeNumbers.map wholeNumber) ++ [seconds, port]
      ++ (Field.roleDependents.map dependent ++ [proxy]) :=
    rfl
  rw [groups]
  simp only [List.filterMap_append] at malformed ⊢
  rw [conflicts, pairs, malformed, ranges, ← List.filterMap_append, filterMap_dangling]
  rfl

/-! ### Findings and reports

A rule reports a violation exactly when it finds a problem that this violation reports. One lemma
for each rule says so, and each follows the two ways in which the rule can be stated.
-/

theorem ite_some_iff {c : Prop} [Decidable c] {x : Problem} {v : Violation} :
    (∃ y, (if c then some x else none) = some y ∧ y.violation = v) ↔ c ∧ x.violation = v := by
  split <;> next h => simp [h]

/-- A rule about what a field says finds a problem where the field says something objectionable. -/
theorem bind_ite_some_iff {α : Type} {o : Option α} {c : α → Prop} [DecidablePred c]
    {x : α → Problem} {v : Violation} :
    (∃ y, (o.bind fun a ↦ if c a then some (x a) else none) = some y ∧ y.violation = v) ↔
      ∃ a, o = some a ∧ c a ∧ (x a).violation = v := by
  cases o <;> simp

theorem finding_oneBase_iff {v : Violation} :
    (∃ x, finding p .oneBase = some x ∧ x.violation = v) ↔ Reports p .oneBase v := by
  simp only [finding, ite_some_iff, ParameterSet.two_le_length_indicated_iff]
  have wording : (Problem.conflictingBases p.indicated p.indicatingFields).violation =
      report .conflictingStrategy (baseFields.filter p.Indicates)
        ("mutually exclusive credential strategies configured: "
          ++ ", ".intercalate ((Base.all.filter p.IndicatesBase).map fun b ↦ b.strategy.name)) := by
    rw [p.indicated_eq, p.indicatingFields_eq]
    rfl
  rw [wording]
  constructor
  · rintro ⟨⟨b, c, hb, hc, hne⟩, rfl⟩
    exact .oneBase hb hc hne
  · intro h
    cases h with
    | oneBase hb hc hne => exact ⟨⟨_, _, hb, hc, hne⟩, rfl⟩

theorem finding_signingBase_iff {v : Violation} :
    (∃ x, finding p .signingBase = some x ∧ x.violation = v) ↔ Reports p .signingBase v := by
  simp only [finding, ite_some_iff, ParameterSet.roleRequested_eq_true_iff, Bool.not_eq_true,
    ParameterSet.flag_eq_true_iff (f := .useAnonymous) (by decide)]
  constructor
  · rintro ⟨⟨ha, hr, ht⟩, rfl⟩
    exact .signingBase ha hr ht
  · intro h
    cases h with
    | signingBase ha hr ht => exact ⟨⟨ha, hr, ht⟩, rfl⟩

theorem finding_pair_iff {f g : Field} {v : Violation} :
    (∃ x, finding p (.pair f g) = some x ∧ x.violation = v) ↔ Reports p (.pair f g) v := by
  simp only [finding, ParameterSet.pairFault]
  constructor
  · rintro ⟨x, hx, rfl⟩
    split at hx
    · next hf hg =>
      obtain rfl := Option.some.inj hx
      exact .secondMissing hf hg
    · next hf hg =>
      obtain rfl := Option.some.inj hx
      exact .firstMissing hf hg
    · exact absurd hx (by simp)
  · intro h
    cases h with
    | secondMissing hf hg => exact ⟨_, by rw [hf, hg], rfl⟩
    | firstMissing hf hg => exact ⟨_, by rw [hf, hg], rfl⟩

theorem finding_flag_iff {f : Field} {v : Violation} :
    (∃ x, finding p (.flag f) = some x ∧ x.violation = v) ↔ Reports p (.flag f) v := by
  have asked : finding p (.flag f) =
      (p.text f).bind fun s ↦ if readFlag s = none then some (.notAFlag f s) else none := by
    show p.flagFault f = _
    rw [ParameterSet.flagFault]
    cases p.text f <;> rfl
  rw [asked, bind_ite_some_iff]
  simp only [readFlag_eq_none_iff]
  constructor
  · rintro ⟨s, hs, ⟨ht, hf⟩, rfl⟩
    exact .flag hs ht hf
  · intro h
    cases h with
    | flag hs ht hf => exact ⟨_, hs, ⟨ht, hf⟩, rfl⟩

theorem finding_wholeNumber_iff {f : Field} {v : Violation} :
    (∃ x, finding p (.wholeNumber f) = some x ∧ x.violation = v) ↔
      Reports p (.wholeNumber f) v := by
  have asked : finding p (.wholeNumber f) = (p.text f).bind fun s ↦
      if readWhole s.toList = .malformed then some (.notAWholeNumber f s) else none := by
    show p.numberFault f = _
    rw [ParameterSet.numberFault]
    cases p.text f <;> rfl
  rw [asked, bind_ite_some_iff]
  simp only [readWhole_eq_malformed_iff]
  constructor
  · rintro ⟨s, hs, hn, rfl⟩
    exact .wholeNumber hs hn
  · intro h
    cases h with
    | wholeNumber hs hn => exact ⟨_, hs, hn, rfl⟩

theorem finding_seconds_iff (hc : p.Convertible) {v : Violation} :
    (∃ x, finding p .seconds = some x ∧ x.violation = v) ↔ Reports p .seconds v := by
  have asked : finding p .seconds = (p.number .maxSeconds).bind fun n ↦
      if p.roleRequested ∧ ¬(leastMaxSeconds ≤ n ∧ n ≤ greatestMaxSeconds)
      then some (.secondsOutOfRange n) else none := by
    show p.secondsFault = _
    rw [ParameterSet.secondsFault]
    cases p.number .maxSeconds <;> rfl
  have out_iff {n : Int} :
      ¬(leastMaxSeconds ≤ n ∧ n ≤ greatestMaxSeconds) ↔ n < 900 ∨ 3600 < n := by
    unfold leastMaxSeconds greatestMaxSeconds
    omega
  rw [asked, bind_ite_some_iff]
  simp only [ParameterSet.number_eq_some_iff_denotes hc (f := .maxSeconds) (by decide),
    ParameterSet.roleRequested_eq_true_iff, out_iff]
  constructor
  · rintro ⟨n, hn, ⟨hr, out⟩, rfl⟩
    exact .seconds hn hr out
  · intro h
    cases h with
    | seconds hn hr out => exact ⟨_, hn, ⟨hr, out⟩, rfl⟩

theorem finding_port_iff (hc : p.Convertible) {v : Violation} :
    (∃ x, finding p .port = some x ∧ x.violation = v) ↔ Reports p .port v := by
  have asked : finding p .port = (p.number .proxyPort).bind fun n ↦
      if ¬(0 < n ∧ n ≤ greatestPort) then some (.portOutOfRange n) else none := by
    show p.portFault = _
    rw [ParameterSet.portFault]
    cases p.number .proxyPort <;> rfl
  have out_iff {n : Int} : ¬(0 < n ∧ n ≤ greatestPort) ↔ n < 1 ∨ 65535 < n := by
    unfold greatestPort
    omega
  rw [asked, bind_ite_some_iff]
  simp only [ParameterSet.number_eq_some_iff_denotes hc (f := .proxyPort) (by decide), out_iff]
  constructor
  · rintro ⟨n, hn, out, rfl⟩
    exact .port hn out
  · intro h
    cases h with
    | port hn out => exact ⟨_, hn, out, rfl⟩

theorem finding_dependent_iff {f : Field} {v : Violation} :
    (∃ x, finding p (.dependent f) = some x ∧ x.violation = v) ↔ Reports p (.dependent f) v := by
  simp only [finding, ite_some_iff, ParameterSet.roleRequested_eq_true_iff]
  constructor
  · rintro ⟨⟨hr, hf⟩, rfl⟩
    exact .dependent hf hr
  · intro h
    cases h with
    | dependent hf hr => exact ⟨⟨hr, hf⟩, rfl⟩

theorem finding_proxy_iff {v : Violation} :
    (∃ x, finding p .proxy = some x ∧ x.violation = v) ↔ Reports p .proxy v := by
  have given_iff : Field.proxy.filter p.isSet ≠ [] ↔
      p.isSet .proxyHost = true ∨ p.isSet .proxyPort = true := by
    cases hh : p.isSet .proxyHost <;> cases hp : p.isSet .proxyPort <;> simp [Field.proxy, hh, hp]
  simp only [finding, ite_some_iff, ParameterSet.roleRequested_eq_true_iff, given_iff]
  constructor
  · rintro ⟨⟨hr, hp⟩, rfl⟩
    exact .proxy hp hr
  · intro h
    cases h with
    | proxy hp hr => exact ⟨⟨hr, hp⟩, rfl⟩

/-- **A rule finds a problem exactly when it is broken**, and the problem is shown as the violation
that reports the rule. -/
theorem finding_iff (hc : p.Convertible) {r : Rule} {v : Violation} :
    (∃ x, finding p r = some x ∧ x.violation = v) ↔ Reports p r v := by
  cases r with
  | oneBase => exact finding_oneBase_iff
  | signingBase => exact finding_signingBase_iff
  | pair f g => exact finding_pair_iff
  | flag f => exact finding_flag_iff
  | wholeNumber f => exact finding_wholeNumber_iff
  | seconds => exact finding_seconds_iff hc
  | port => exact finding_port_iff hc
  | dependent f => exact finding_dependent_iff
  | proxy => exact finding_proxy_iff

end Rule

end AwsCredentials
