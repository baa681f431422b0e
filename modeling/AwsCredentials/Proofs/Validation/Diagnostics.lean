import AwsCredentials.Proofs.Text.OneLine
import AwsCredentials.Validation.Report

/-!
# Diagnostics

A diagnostic is shown to a user, or written to a log, as a line of its own. If a text of the
configuration could end that line, it could also write the next one. No text can: the kinds, the
keys of the fields and the names of the strategies are words of the program, numbers are digits with
at most a sign, and the texts of flags and numbers that cannot be read are quoted. Hence every
problem is reported on one line (`isOneLine_line`), whatever the fields hold.

The error that carries the violations is a head line and a line for each violation, joined by line
feeds (`configurationMessage_eq_intercalate`). **It is shown as just these lines**
(`diagnostics_isOneLine`).
-/

namespace AwsCredentials

open Text

/-! ### The words of the program -/

@[simp]
theorem Field.isOneLine_key (f : Field) : IsOneLine f.key := by
  cases f <;> decide +kernel

@[simp]
theorem Strategy.isOneLine_name (s : Strategy) : IsOneLine s.name := by
  cases s <;> decide +kernel

@[simp]
theorem ViolationKind.isOneLine_name (k : ViolationKind) : IsOneLine k.name := by
  cases k <;> decide +kernel

/-! ### Problems -/

namespace Problem

theorem isOneLine_pairMessage (present missing : Field) :
    IsOneLine (pairMessage present missing) := by
  have is_set : IsOneLine " is set but " := by decide
  have is_missing : IsOneLine " is missing" := by decide
  simp [pairMessage, is_set, is_missing]

theorem isOneLine_roleKeys : IsOneLine roleKeys := by
  decide +kernel

/-- The message of a problem takes one line, whatever the texts that it quotes. -/
theorem isOneLine_message (problem : Problem) : IsOneLine problem.message := by
  -- The fixed words of a message are looked through; texts of a user are among what is put between.
  cases problem with
  | conflictingBases bases fields =>
    exact isOneLine_append.2 ⟨by decide +kernel,
      isOneLine_intercalate_map (by decide) (fun b ↦ b.strategy.isOneLine_name) bases⟩
  | secondMissing first second => exact isOneLine_pairMessage first second
  | firstMissing first second => exact isOneLine_pairMessage second first
  | notAFlag field text => exact isOneLine_append.2 ⟨by decide +kernel, isOneLine_quote text⟩
  | notAWholeNumber field text =>
    exact isOneLine_append.2 ⟨by decide +kernel, isOneLine_quote text⟩
  | secondsOutOfRange seconds =>
    exact isOneLine_append.2 ⟨by decide +kernel, isOneLine_decimal seconds⟩
  | portOutOfRange port => exact isOneLine_append.2 ⟨by decide +kernel, isOneLine_decimal port⟩
  | anonymousRole => decide +kernel
  | dangling field =>
    have applied : IsOneLine ("only applies when " ++ roleKeys) :=
      isOneLine_append.2 ⟨by decide +kernel, isOneLine_roleKeys⟩
    exact isOneLine_append.2 ⟨applied, by decide +kernel⟩
  | danglingProxy fields => exact isOneLine_append.2 ⟨by decide +kernel, isOneLine_roleKeys⟩

/-- **A problem is reported on one line**: kind, keys and message take one each, and nothing between
them ends a line. -/
theorem isOneLine_line (problem : Problem) : IsOneLine problem.violation.line := by
  have keys : IsOneLine (", ".intercalate problem.violation.keys) := by
    rw [keys_violation]
    exact isOneLine_intercalate_map (by decide) Field.isOneLine_key problem.fields
  have opened : IsOneLine "[" := by decide
  have closed : IsOneLine "] " := by decide
  have colon : IsOneLine ": " := by decide
  simp only [Violation.line, isOneLine_append]
  exact ⟨⟨⟨⟨⟨opened, problem.kind.isOneLine_name⟩, closed⟩, keys⟩, colon⟩,
    problem.isOneLine_message⟩

end Problem

/-! ### The error that carries the violations -/

/-- The head line of the error that carries so many violations, without the line feed after it. -/
def headLine (count : Nat) : String :=
  "Invalid AWS credential configuration (" ++ toString count ++ " problem(s)):"

theorem isOneLine_headLine (count : Nat) : IsOneLine (headLine count) := by
  have before : IsOneLine "Invalid AWS credential configuration (" := by decide +kernel
  have after : IsOneLine " problem(s)):" := by decide
  exact isOneLine_append.2 ⟨isOneLine_append.2 ⟨before, isOneLine_toString count⟩, after⟩

theorem headLine_ne_empty (count : Nat) : headLine count ≠ "" := by
  intro h
  have tail : " problem(s)):" = "" := (String.append_eq_empty_iff.1 h).2
  exact absurd tail (by decide)

/-- The text of the error is its head line and the lines of the violations, joined by line feeds. -/
theorem configurationMessage_eq_intercalate {vs : List Violation} (h : vs ≠ []) :
    configurationMessage vs =
      "\n".intercalate (headLine vs.length :: vs.map fun v ↦ "  - " ++ v.line) := by
  have lines : vs.map (fun v ↦ "  - " ++ v.line) ≠ [] := mt List.map_eq_nil_iff.1 h
  have feed : " problem(s)):\n" = " problem(s)):" ++ "\n" := by decide
  rw [String.intercalate_cons_of_ne_nil lines]
  unfold configurationMessage headLine
  simp only [feed, String.append_assoc]

/-- The error is shown as its head line and a line for each problem, in their order. -/
theorem linesOf_configurationMessage {problems : List Problem} (h : problems ≠ []) :
    linesOf (configurationMessage (problems.map Problem.violation)) =
      headLine problems.length :: problems.map fun p ↦ "  - " ++ p.violation.line := by
  have dash : IsOneLine "  - " := by decide
  rw [configurationMessage_eq_intercalate (by simpa using h), List.length_map, List.map_map]
  refine linesOf_intercalate (List.forall_mem_cons.2 ⟨headLine_ne_empty _, fun s hs ↦ ?_⟩)
    (List.forall_mem_cons.2 ⟨isOneLine_headLine _, fun s hs ↦ ?_⟩)
  all_goals obtain ⟨problem, -, rfl⟩ := List.mem_map.1 hs
  · intro he
    exact absurd (String.append_eq_empty_iff.1 he).1 (by decide)
  · exact isOneLine_append.2 ⟨dash, problem.isOneLine_line⟩

namespace ParameterSet

variable {p : ParameterSet} {report : Report}

/-- **Every diagnostic takes one line**, whatever texts the fields hold. When there are any, the
parameter set is refused by an error that carries the violations, and that error is shown as a head
line with their number and one line for each diagnostic, in their order. -/
theorem diagnostics_isOneLine (h : p.validate = .ok report) :
    (∀ line ∈ report.validation.diagnostics, IsOneLine line) ∧
      (report.validation.isValid = false →
        ∃ problems, p.resolve = .error (.invalid problems) ∧
          problems.map Problem.violation = report.validation.violations ∧
          linesOf (configurationMessage (problems.map Problem.violation)) =
            headLine report.validation.violations.length ::
              report.validation.diagnostics.map ("  - " ++ ·)) := by
  obtain ⟨convertible, rfl⟩ := eq_of_validate_eq_ok h
  have violations := violations_validation convertible
  refine ⟨fun line hl ↦ ?_, fun invalid ↦ ?_⟩
  · rw [Validation.diagnostics, violations, List.map_map] at hl
    obtain ⟨problem, -, rfl⟩ := List.mem_map.1 hl
    exact problem.isOneLine_line
  · -- The message is made of head line and diagnostics; as none holds a line end, it splits there.
    have problems : p.problems ≠ [] := by
      intro hp
      rw [Validation.isValid, violations, hp] at invalid
      exact absurd invalid (by decide)
    refine ⟨p.problems, resolve_eq_invalid convertible problems, violations.symm, ?_⟩
    rw [linesOf_configurationMessage problems, Validation.diagnostics, violations,
      List.length_map, List.map_map, List.map_map]
    rfl

/-- Texts that try to write a line of their own: by a line feed, by two other ends of
lines, and with both quotation marks. -/
def forging : ParameterSet where
  text
    | .useDefault => some "\\\u0085"
    | .useAnonymous => some "no\n  - [forged]"
    | .maxSeconds => some "'1\u2028\""
    | _ => none

/-- What validation says of `forging`: each of its texts is malformed, and the time means nothing
without a role. -/
def forgingReport : Report :=
  ⟨.rejected [.notAFlag .useDefault "\\\u0085", .notAFlag .useAnonymous "no\n  - [forged]",
      .notAWholeNumber .maxSeconds "'1\u2028\"", .dangling .maxSeconds], [.rejected 4]⟩

theorem diagnostics_isOneLine_forging :
    forging.validate = .ok forgingReport ∧
      (∀ line ∈ forgingReport.validation.diagnostics, IsOneLine line) ∧
      (forgingReport.validation.isValid = false →
        ∃ problems, forging.resolve = .error (.invalid problems) ∧
          problems.map Problem.violation = forgingReport.validation.violations ∧
          linesOf (configurationMessage (problems.map Problem.violation)) =
            headLine forgingReport.validation.violations.length ::
              forgingReport.validation.diagnostics.map ("  - " ++ ·)) :=
  have answered : forging.validate = .ok forgingReport :=
    (validate_eq_ok (by decide)).trans (congrArg Except.ok (by decide))
  ⟨answered, diagnostics_isOneLine answered⟩

end ParameterSet

end AwsCredentials
