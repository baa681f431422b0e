import AwsCredentials.Proofs.Validation.ReadAlike

/-!
# What validation sees of a parameter set

Validation reads the texts of four fields, the flags and the whole numbers. Of the other fields it
sees no more than whether they are set. This much of a parameter set is its outline
(`SameOutline`), and **the main statement**, `said_of_outline`, is that validation says the same of
two parameter sets with the same outline, word by word, and leaves the same notices in the log. So
no text that a user keeps in one of the other fields comes back in a report.

The outline is all that the rules look at (`SameOutline.readAlike`). What does not keep to it is
selection, which takes the texts into a descriptor; of the descriptor a report shows the strategy,
and that can be told from the outline (`strategy_selectBase`, `strategy_of_select`).
-/

namespace AwsCredentials

/-- Two reports show the same, apart from what a selected descriptor holds. -/
structure Report.LooksLike (r s : Report) : Prop where
  /-- The violations are the same. -/
  violations : r.validation.violations = s.validation.violations
  /-- Both reports have the same lines of diagnostics. -/
  diagnostics : r.validation.diagnostics = s.validation.diagnostics
  /-- Both reports come to the same verdict. -/
  isValid : r.validation.isValid = s.validation.isValid
  /-- Both reports have the same selected strategy, if there is one. -/
  strategy : r.validation.descriptor?.map Descriptor.strategy =
    s.validation.descriptor?.map Descriptor.strategy
  /-- Both reports come with the same notices for the log. -/
  notices : r.notices = s.notices

namespace ParameterSet

/-- Two parameter sets have the same outline: the same fields are set, and the fields that are read
hold the same texts. -/
structure SameOutline (p q : ParameterSet) : Prop where
  /-- The same fields are set. -/
  isSet_eq : ∀ f, p.isSet f = q.isSet f
  /-- The flags and the whole numbers hold the same texts. -/
  text_eq : ∀ f ∈ Field.flags ++ Field.wholeNumbers, p.text f = q.text f

/-- Validation refuses both parameter sets for the same number, or answers with reports that show
the same. -/
def ValidatedAlike (p q : ParameterSet) : Prop :=
  (∃ o, p.validate = .error o ∧ q.validate = .error o) ∨
    ∃ r s, p.validate = .ok r ∧ q.validate = .ok s ∧ r.LooksLike s

variable {p q : ParameterSet}

theorem SameOutline.symm (h : p.SameOutline q) : q.SameOutline p :=
  ⟨fun f ↦ (h.isSet_eq f).symm, fun f hf ↦ (h.text_eq f hf).symm⟩

/-! ### The strategy of what is selected -/

/-- The strategy of the selected base, told from flags and from what is set. -/
theorem strategy_selectBase (p : ParameterSet) :
    p.selectBase.strategy =
      if p.flag .useAnonymous = some true then .anonymous
      else if p.isSet .accessKey then .staticKeyPair
      else if p.isSet .credentialsFile then .credentialsFile
      else if p.isSet .profileName then .namedProfile
      else .default := by
  rw [selectBase, isSet, isSet, isSet]
  split
  · rfl
  · cases p.text .accessKey <;> cases p.text .credentialsFile <;> cases p.text .profileName <;> rfl

/-- The strategy of the selected descriptor, told from whether a role is requested, a token is set,
and what the base is. -/
theorem strategy_of_select {d : Descriptor} (h : p.select = .ok d) :
    d.strategy =
      if p.roleRequested then if p.isSet .tokenFile then .webIdentity else .assumeRole
      else p.selectBase.strategy := by
  rw [roleRequested, isSet, isSet, isSet]
  rw [select] at h
  split at h
  · next arn name ha hn =>
    cases hp : p.proxy with
    | error e => simp [hp, Except.map] at h
    | ok proxy =>
      rw [hp] at h
      obtain rfl := Except.ok.inj h
      cases p.text .tokenFile <;> simp [ha, hn, Descriptor.strategy]
  · -- One of the two texts is missing, so no role is requested and the base is all there is.
    next unrequested =>
    obtain rfl := Except.ok.inj h
    cases ha : p.text .roleArn with
    | none => rfl
    | some arn =>
      cases hn : p.text .roleSessionName with
      | none => rfl
      | some name => exact absurd hn (unrequested arn name ha)

/-- What is noted of a descriptor depends on its strategy, and else on what is set. -/
theorem ignoredNotices_eq (p : ParameterSet) (d : Descriptor) :
    p.ignoredNotices d =
      if d.strategy = .webIdentity then
        (if p.indicatingFields = [] then [] else [.ignoredBases p.indicatingFields]) ++
          if p.isSet .externalId then [.ignoredExternalId] else []
      else [] := by
  cases d with
  | webIdentity role tokenFile =>
    rw [ignoredNotices, Descriptor.strategy, if_pos rfl]
    cases p.indicatingFields <;> rfl
  | default | anonymous | staticKeyPair | credentialsFile | namedProfile | assumeRole => rfl

namespace SameOutline

variable (h : p.SameOutline q)

include h

/-! ### What fields say -/

theorem flag_eq {f : Field} (hf : f ∈ Field.flags) : p.flag f = q.flag f := by
  rw [flag, flag, h.text_eq f (List.mem_append_left _ hf)]

theorem number_eq {f : Field} (hf : f ∈ Field.wholeNumbers) : p.number f = q.number f := by
  rw [number, number, h.text_eq f (List.mem_append_right _ hf)]

/-- The same number is too long to convert in both sets, if any is. -/
theorem overlong?_eq : p.overlong? = q.overlong? := by
  have seconds := h.text_eq .maxSeconds (by decide)
  have port := h.text_eq .proxyPort (by decide)
  simp only [overlong?, Field.wholeNumbers, List.findSome?_cons, List.findSome?_nil, seconds,
    port]

/-- The rules read the same in two sets of the same outline. -/
theorem readAlike : p.ReadAlike q where
  isSet_eq f _ := h.isSet_eq f
  flag_iff f hf := by rw [h.flag_eq hf]
  flagFault_eq f hf := by rw [flagFault, flagFault, h.text_eq f (List.mem_append_left _ hf)]
  number_eq _ hf := h.number_eq hf
  numberFault_eq f hf := by
    rw [numberFault, numberFault, h.text_eq f (List.mem_append_right _ hf)]

/-- **The same is wrong with two sets of the same outline**, for the same causes. -/
theorem problems_eq : p.problems = q.problems :=
  h.readAlike.problems_eq

theorem valid (hp : p.Valid) : q.Valid :=
  ⟨h.overlong?_eq ▸ hp.convertible, h.problems_eq ▸ hp.sound⟩

/-! ### What is selected -/

/-- Descriptors that are selected from two sets of the same outline are of the same strategy. -/
theorem strategy_eq {d e : Descriptor} (hd : p.select = .ok d) (he : q.select = .ok e) :
    d.strategy = e.strategy := by
  rw [strategy_of_select hd, strategy_of_select he, strategy_selectBase, strategy_selectBase,
    h.flag_eq (by decide), h.readAlike.roleRequested_eq, h.isSet_eq, h.isSet_eq, h.isSet_eq,
    h.isSet_eq]

theorem ignoredNotices_eq {d e : Descriptor} (hs : d.strategy = e.strategy) :
    p.ignoredNotices d = q.ignoredNotices e := by
  rw [ParameterSet.ignoredNotices_eq, ParameterSet.ignoredNotices_eq, hs,
    h.readAlike.indicatingFields_eq, h.isSet_eq]

/-- Two sets of the same outline that are accepted have reports that show the same. -/
theorem looksLike_of_valid (hp : p.Valid) (hq : q.Valid) :
    (⟨p.validation hp.convertible, p.validationNotices (p.validation hp.convertible)⟩ :
        Report).LooksLike
      ⟨q.validation hq.convertible, q.validationNotices (q.validation hq.convertible)⟩ := by
  have same : hp.selected.strategy = hq.selected.strategy :=
    h.strategy_eq hp.select_eq hq.select_eq
  rw [hp.validation_eq, hq.validation_eq]
  exact {
    violations := rfl
    diagnostics := rfl
    isValid := rfl
    strategy := congrArg some same
    notices := by rw [validationNotices, validationNotices, h.ignoredNotices_eq same, same] }

/-! ### What validation says -/

/-- **Validation says the same of parameter sets with the same outline**, whether it accepts them,
rejects them, or gives no answer. -/
theorem validatedAlike : p.ValidatedAlike q := by
  cases overlong : p.overlong? with
  | some o =>
    exact .inl ⟨o, validate_eq_error overlong, validate_eq_error (h.overlong?_eq ▸ overlong)⟩
  | none =>
    have overlong' : q.overlong? = none := h.overlong?_eq ▸ overlong
    refine .inr ⟨_, _, validate_eq_ok overlong, validate_eq_ok overlong', ?_⟩
    by_cases sound : p.problems = []
    · exact h.looksLike_of_valid ⟨overlong, sound⟩ ⟨overlong', h.problems_eq ▸ sound⟩
    · have sound' : q.problems ≠ [] := h.problems_eq ▸ sound
      rw [validation_eq_rejected overlong sound, validation_eq_rejected overlong' sound',
        h.problems_eq]
      exact ⟨rfl, rfl, rfl, rfl, rfl⟩

/-- What keeps one of two sets of the same outline from resolving keeps the other from resolving. -/
theorem resolve_eq_error {r : Refusal} (hr : p.resolve = .error r) : q.resolve = .error r := by
  cases overlong : p.overlong? with
  | some o =>
    rw [resolve_eq_overlong overlong] at hr
    rw [resolve_eq_overlong (h.overlong?_eq ▸ overlong), hr]
  | none =>
    by_cases sound : p.problems = []
    · have valid : p.Valid := ⟨overlong, sound⟩
      simp [valid.resolve_eq] at hr
    · have sound' : q.problems ≠ [] := h.problems_eq ▸ sound
      rw [resolve_eq_invalid overlong sound] at hr
      rw [resolve_eq_invalid (h.overlong?_eq ▸ overlong) sound', ← h.problems_eq, hr]

end SameOutline

/-- Where validation says the same, the notices of validating are the same. -/
theorem ValidatedAlike.notices_eq (h : p.ValidatedAlike q) : p.notices = q.notices := by
  obtain ⟨o, hp, hq⟩ | ⟨r, s, hp, hq, same⟩ := h
  · rw [notices, notices, hp, hq]
  · rw [notices, notices, hp, hq]
    exact same.notices

/-- **What is said of a parameter set is told from its outline**: of two sets with the same outline
validation says the same, word by word, and if one does not resolve, the other does not either and
for the same reasons. -/
theorem said_of_outline (h : p.SameOutline q) :
    p.ValidatedAlike q ∧ ∀ r, p.resolve = .error r ↔ q.resolve = .error r :=
  ⟨h.validatedAlike, fun _ ↦ ⟨h.resolve_eq_error, h.symm.resolve_eq_error⟩⟩

/-- A role by a token, over a profile that is ignored, where the same text is in all of them. -/
def tokenRole (s : String) : ParameterSet where
  text
    | .profileName => some s
    | .roleArn => some s
    | .roleSessionName => some s
    | .tokenFile => some s
    | .maxSeconds => some "900"
    | _ => none

theorem said_of_outline_tokenRole :
    (tokenRole "a").SameOutline (tokenRole "b") ∧
      (tokenRole "a").ValidatedAlike (tokenRole "b") ∧
      ∀ r, (tokenRole "a").resolve = .error r ↔ (tokenRole "b").resolve = .error r :=
  have same : (tokenRole "a").SameOutline (tokenRole "b") :=
    ⟨fun f ↦ by cases f <;> rfl, by decide⟩
  ⟨same, said_of_outline same⟩

end ParameterSet

end AwsCredentials
