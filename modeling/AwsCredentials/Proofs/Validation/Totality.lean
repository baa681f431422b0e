import AwsCredentials.Proofs.Parameters.Texts
import AwsCredentials.Proofs.Validation.Exactness

/-!
# Which parameter sets are answered for

Validation is meant to answer for every parameter set. It does so when the numbers of the set are
convertible; then both the report and the refusal to resolve are exact (`Answered`). A number of
more than 4300 digits is neither reported nor read. Instead its conversion fails, and with it the
validation and the resolution of the whole set (`Unanswered`), so that nothing else that is wrong
with the set is reported either.

**The two cases exclude each other and there is no third** (`answered_iff_convertible`). That is as
much for mappings of texts, since each of them makes a parameter set. A role by a proxy whose port
is written with 4301 digits is without an answer (`unanswered_roleByPort`).
-/

namespace AwsCredentials

open Text

namespace ParameterSet

variable {p : ParameterSet}

/-- A parameter set is answered for by an exact report, and it is refused for exact reasons only. -/
structure Answered (p : ParameterSet) : Prop where
  /-- Validation reports what is wrong, exactly. -/
  report : ∃ report, p.validate = .ok report ∧ ExactReport p report.validation.violations
  /-- Resolution fails for what is reported, if it fails. -/
  refusal : ∀ e, p.resolve = .error e →
    ∃ problems, e = .invalid problems ∧ ExactReport p (problems.map Problem.violation)

/-- A parameter set is not answered for, because the conversion of a number fails. -/
structure Unanswered (p : ParameterSet) (o : Overlong) : Prop where
  /-- Validation fails. -/
  validate : p.validate = .error o
  /-- Resolution fails in the same way. -/
  resolve : p.resolve = .error (.overlong o)
  /-- The failure tells the digits of a number that has more than 4300 of them. -/
  long : ∃ f ∈ Field.wholeNumbers, ∃ s m, p.text f = some s ∧ Numeral.WrittenAs m s.toList ∧
    4300 < m.digits.length ∧ m.digits.length = o.count

/-- With convertible numbers, a parameter set is answered for. -/
theorem Convertible.answered (h : p.Convertible) : p.Answered where
  report := by
    have convertible := overlong?_eq_none_iff_convertible.2 h
    exact ⟨_, validate_eq_ok convertible, exactReport_validation h convertible⟩
  refusal e he := by
    have convertible := overlong?_eq_none_iff_convertible.2 h
    by_cases hp : p.problems = []
    · have valid : p.Valid := ⟨convertible, hp⟩
      simp [valid.resolve_eq] at he
    · obtain rfl := Except.error.inj ((resolve_eq_invalid convertible hp).symm.trans he)
      exact ⟨_, rfl, exactReport_problems h⟩

/-- With a number that is too long, a parameter set is not answered for. -/
theorem unanswered_of_overlong {o : Overlong} (h : p.overlong? = some o) : p.Unanswered o := by
  refine ⟨validate_eq_error h, resolve_eq_overlong h, ?_⟩
  obtain ⟨f, hf, hr⟩ := List.exists_of_findSome?_eq_some h
  cases hs : p.text f with
  | none => simp [hs] at hr
  | some s =>
    cases hw : readWhole s.toList with
    | malformed => simp [hs, hw] at hr
    | number n => simp [hs, hw] at hr
    | overlong o' =>
      obtain rfl : o' = o := by simpa [hs, hw] using hr
      obtain ⟨m, hm, long, count⟩ := readWhole_eq_overlong_iff.1 hw
      exact ⟨f, hf, s, m, hs, hm, long, count⟩

theorem exists_unanswered (h : ¬p.Convertible) : ∃ o, p.Unanswered o := by
  obtain ⟨o, ho⟩ := Option.ne_none_iff_exists'.1 (mt overlong?_eq_none_iff_convertible.1 h)
  exact ⟨o, unanswered_of_overlong ho⟩

/-- No parameter set is answered for and not answered for at once. -/
theorem Answered.not_unanswered (h : p.Answered) (o : Overlong) : ¬p.Unanswered o := by
  intro h'
  obtain ⟨report, answered, -⟩ := h.report
  exact absurd (answered.symm.trans h'.validate) (by simp)

/-- **A parameter set is answered for exactly when its numbers are convertible**, and no mapping of
texts fails to make one. -/
theorem answered_iff_convertible (p : ParameterSet) :
    (p.Answered ↔ p.Convertible) ∧ ((∃ o, p.Unanswered o) ↔ ¬p.Convertible) ∧
      ∀ m : Mapping, m.OfTexts → ∃ q, ofMapping m = .ok q := by
  refine ⟨⟨fun h ↦ ?_, Convertible.answered⟩, ⟨?_, exists_unanswered⟩, fun m hm ↦ ?_⟩
  · by_contra hc
    obtain ⟨o, ho⟩ := exists_unanswered hc
    exact h.not_unanswered o ho
  · rintro ⟨o, ho⟩ hc
    exact hc.answered.not_unanswered o ho
  · obtain ⟨q, hq, -⟩ := ofMapping_of_ofTexts hm
    exact ⟨q, hq⟩

/-! ### A port with many digits -/

/-- A text of that many ones, which is a numeral if there is at least one. -/
def ones (k : Nat) : String :=
  String.ofList (List.replicate k '1')

/-- A role by a proxy whose port is written with that many digits. -/
def roleByPort (k : Nat) : ParameterSet where
  text
    | .roleArn => some "arn:aws:iam::1:role/r"
    | .roleSessionName => some "session"
    | .proxyHost => some "proxy"
    | .proxyPort => some (ones k)
    | _ => none

theorem isDigits_ones {k : Nat} (h : k ≠ 0) : Numeral.IsDigits (ones k).toList := by
  simp only [ones, String.toList_ofList]
  exact ⟨by simpa using h, fun c hc ↦ by rw [List.eq_of_mem_replicate hc]; decide⟩

theorem isTrimmed_roleByPort {k : Nat} (h : k ≠ 0) : (roleByPort k).IsTrimmed := by
  have port : Text.IsTrimmed (ones k) := by
    obtain ⟨hne, digits⟩ := isDigits_ones h
    have trimmed := isTrimmed_of_forall_not_isBlank hne fun c hc ↦
      isBlank_eq_false_of_digit (digits c hc)
    rwa [String.ofList_toList] at trimmed
  intro f s hs
  cases f with
  | roleArn | roleSessionName | proxyHost =>
    obtain rfl := Option.some.inj hs
    decide
  | proxyPort => exact Option.some.inj hs ▸ port
  | _ => simp [roleByPort] at hs

theorem overlong?_roleByPort {k : Nat} (h : 4300 < k) :
    (roleByPort k).overlong? = some ⟨k⟩ := by
  have reads : readWhole (ones k).toList = .overlong ⟨k⟩ :=
    readWhole_eq_overlong_iff.2 ⟨_, .unsigned (isDigits_ones (by omega)),
      by simpa [ones, maxDigits] using h, by simp [ones]⟩
  simp [overlong?, Field.wholeNumbers, roleByPort, reads]

/-- A port of 4301 digits is one too many: there is no report, although the rest of the set is
sound. -/
theorem unanswered_roleByPort :
    ofMapping [("assume-role-arn", .text "arn:aws:iam::1:role/r"),
        ("assume-role-session-name", .text "session"), ("assume-role-proxy-host", .text "proxy"),
        ("assume-role-proxy-port", .text (ones 4301))] = .ok (roleByPort 4301) ∧
      (roleByPort 4301).Unanswered ⟨4301⟩ ∧ ¬(roleByPort 4301).Answered := by
  have made : ofMapping (roleByPort 4301).mapping = .ok (roleByPort 4301) :=
    ofMapping_mapping (isTrimmed_roleByPort (by decide))
  have unanswered := unanswered_of_overlong (overlong?_roleByPort (k := 4301) (by decide))
  exact ⟨made, unanswered, fun h ↦ h.not_unanswered _ unanswered⟩

end ParameterSet

end AwsCredentials
