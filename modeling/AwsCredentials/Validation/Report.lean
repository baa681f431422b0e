import AwsCredentials.Notice
import AwsCredentials.Validation.Rules
import AwsCredentials.Validation.Selection

/-!
# Validating and resolving

`validate` says of a parameter set what it selects, or all that is wrong with it, together with the
notices for the log. `resolve` is for callers who have no use for the second outcome. Both refuse a
parameter set with a number that is too long to convert, before anything is noted.
-/

namespace AwsCredentials

/-- What validation says of a parameter set: that it is accepted, with what it selects, or that it
is rejected, with all that is wrong. -/
inductive Validation
  /-- Nothing is wrong, and this is selected. -/
  | accepted (d : Descriptor)
  /-- These problems were found. -/
  | rejected (problems : List Problem)
deriving DecidableEq

namespace Validation

/-- The selected descriptor. A rejected parameter set has none. -/
def descriptor? : Validation → Option Descriptor
  | accepted d => some d
  | rejected _ => none

/-- The violations, in order. An accepted parameter set has none. -/
def violations : Validation → List Violation
  | accepted _ => []
  | rejected problems => problems.map Problem.violation

/-- A validation is valid when it reports no violation, and then there is a descriptor. -/
def isValid (v : Validation) : Bool :=
  v.violations.isEmpty

/-- A line for each violation, as it is printed to users. -/
def diagnostics (v : Validation) : List String :=
  v.violations.map Violation.line

end Validation

/-- What validation says, with the notices for the log, which say less than that. -/
structure Report where
  /-- What validation says. -/
  validation : Validation
  /-- The notices, in order. -/
  notices : List Notice
deriving DecidableEq

namespace ParameterSet

variable (p : ParameterSet)

/-- What validation says of a parameter set all whose numbers can be converted. Where nothing is
wrong the set is valid, and this is what makes the selection succeed. -/
def validation (h : p.overlong? = none) : Validation :=
  match h' : p.problems with
  | [] => .accepted (Valid.selected ⟨h, h'⟩)
  | problem :: more => .rejected (problem :: more)

/-- The notices of what a selected descriptor leaves out of account. Only one that goes by a token
leaves anything out. -/
def ignoredNotices : Descriptor → List Notice
  | .webIdentity _ _ =>
    (match p.indicatingFields with
      | [] => []
      | fields => [.ignoredBases fields])
      ++ if p.isSet .externalId then [.ignoredExternalId] else []
  | _ => []

/-- The notices of a validation: how many violations there are, or what is selected and what it
leaves out of account. -/
def validationNotices : Validation → List Notice
  | .accepted d => p.ignoredNotices d ++ [.selected d.strategy]
  | .rejected problems => [.rejected problems.length]

/-- Validates a parameter set: reads its numbers, applies all rules, and selects if there is no
problem. -/
def validate : Except Text.Overlong Report :=
  match h : p.overlong? with
  | some o => .error o
  | none => .ok ⟨p.validation h, p.validationNotices (p.validation h)⟩

/-- Why a parameter set does not resolve: for its problems, or because a number is too long to be
converted. -/
inductive Refusal
  /-- A number is too long to convert. -/
  | overlong (o : Text.Overlong)
  /-- These problems were found. -/
  | invalid (problems : List Problem)
deriving DecidableEq

/-- The descriptor that a parameter set selects, if it is valid. -/
def resolve : Except Refusal Descriptor :=
  match h : p.overlong? with
  | some o => .error (.overlong o)
  | none =>
    match p.validation h with
    | .accepted d => .ok d
    | .rejected problems => .error (.invalid problems)

/-- The notices of validating a parameter set, none when it is refused unread. -/
def notices : List Notice :=
  match p.validate with
  | .ok report => report.notices
  | .error _ => []

/-! ### The outcomes -/

variable {p}

/-- A valid parameter set is accepted, and what is accepted is what it selects. -/
theorem Valid.validation_eq (h : p.Valid) : p.validation h.convertible = .accepted h.selected := by
  unfold validation
  split
  · rfl
  · next h' => exact absurd h.sound (by simp [h'])

/-- A parameter set with problems is rejected, and all of them are reported, in the order in which
they are found. -/
theorem validation_eq_rejected (h : p.overlong? = none) (h' : p.problems ≠ []) :
    p.validation h = .rejected p.problems := by
  unfold validation
  split
  · next hn => exact absurd hn h'
  · next hc => rw [hc]

/-- The violations are those of the problems, one for each and in their order. -/
theorem violations_validation (h : p.overlong? = none) :
    (p.validation h).violations = p.problems.map Problem.violation := by
  by_cases h' : p.problems = []
  · have valid : p.Valid := ⟨h, h'⟩
    rw [valid.validation_eq, h']
    rfl
  · rw [validation_eq_rejected h h']
    rfl

/-- Validation gives an answer when all numbers can be converted, be the answer good or bad. -/
theorem validate_eq_ok (h : p.overlong? = none) :
    p.validate = .ok ⟨p.validation h, p.validationNotices (p.validation h)⟩ := by
  unfold validate
  split
  · next ho => exact absurd (h.symm.trans ho) (by simp)
  · rfl

/-- Validation gives no answer when a number is too long, and says which length was too much. -/
theorem validate_eq_error {o : Text.Overlong} (h : p.overlong? = some o) :
    p.validate = .error o := by
  unfold validate
  split
  · next ho => rw [Option.some.inj (ho.symm.trans h)]
  · next hn => exact absurd (hn.symm.trans h) (by simp)

/-- Where validation gives an answer, all numbers can be converted, and the answer is the one that
there is. -/
theorem eq_of_validate_eq_ok {report : Report} (h : p.validate = .ok report) :
    ∃ convertible : p.overlong? = none,
      report = ⟨p.validation convertible, p.validationNotices (p.validation convertible)⟩ := by
  have convertible : p.overlong? = none := by
    cases ho : p.overlong? with
    | none => rfl
    | some o => exact absurd ((validate_eq_error ho).symm.trans h) (by simp)
  exact ⟨convertible, Except.ok.inj (h.symm.trans (validate_eq_ok convertible))⟩

/-- A valid parameter set resolves to what it selects, which is what validation shows of it. -/
theorem Valid.resolve_eq (h : p.Valid) : p.resolve = .ok h.selected := by
  unfold resolve
  split
  · next ho => exact absurd (h.convertible.symm.trans ho) (by simp)
  · rw [h.validation_eq]

/-- A parameter set with problems does not resolve, and all of them are the reason. -/
theorem resolve_eq_invalid (h : p.overlong? = none) (h' : p.problems ≠ []) :
    p.resolve = .error (.invalid p.problems) := by
  unfold resolve
  split
  · next ho => exact absurd (h.symm.trans ho) (by simp)
  · rw [validation_eq_rejected h h']

/-- A parameter set with a number that is too long does not resolve, whatever else is wrong. -/
theorem resolve_eq_overlong {o : Text.Overlong} (h : p.overlong? = some o) :
    p.resolve = .error (.overlong o) := by
  unfold resolve
  split
  · next ho => rw [Option.some.inj (ho.symm.trans h)]
  · next hn => exact absurd (hn.symm.trans h) (by simp)

/-- A parameter set resolves to a descriptor when it is valid and selects the descriptor. -/
theorem resolve_eq_ok_iff {d : Descriptor} : p.resolve = .ok d ↔ p.Valid ∧ p.select = .ok d := by
  constructor
  · intro h
    cases ho : p.overlong? with
    | some o => simp [resolve_eq_overlong ho] at h
    | none =>
      by_cases h' : p.problems = []
      · have valid : p.Valid := ⟨ho, h'⟩
        obtain rfl := Except.ok.inj (valid.resolve_eq.symm.trans h)
        exact ⟨valid, valid.select_eq⟩
      · simp [resolve_eq_invalid ho h'] at h
  · rintro ⟨h, hd⟩
    rw [h.resolve_eq, Except.ok.inj (h.select_eq.symm.trans hd)]

end ParameterSet

end AwsCredentials
