import AwsCredentials.Proofs.Validation.ReadAlike
import AwsCredentials.Proofs.Validation.Totality
import AwsCredentials.Proofs.Validation.WebIdentity

/-!
# Spellings that say the same

A flag can be written in any letter case, a whole number with a plus sign or with leading zeros, and
a flag that is false need not be written at all. `Respells` lists these ways to change the text of a
field, and **the main statement**, `validate_respelled`, is that validation answers the same when
any number of fields are respelled at once: the same verdict, the same descriptor, the same messages
and the same notices. One more flag is without effect, though not on the notices: a valid parameter
set may as well leave it unsaid that it uses the default.

The rules read the same in both sets (`Respelled.readAlike`), and messages quote a text only if it
cannot be read, which then was not respelled. Selection takes over the texts of fields that are
neither flags nor numbers (`select_eq_of_text_eq`).

**The length of a text is part of its spelling.** A number of more than 4300 digits is not
converted, so the new text of a number must not be longer. Of the old text nothing is asked: if it
is longer, there is no answer to begin with.
-/

namespace AwsCredentials.ParameterSet

open Text

/-- The text of a field is given in another spelling, by which a reader takes it for the same. -/
inductive Respells (f : Field) : Option String → Option String → Prop
  /-- The text is kept. -/
  | refl (t : Option String) : Respells f t t
  /-- A flag is written in other letter case. -/
  | flag {word s s' : String} (hf : f ∈ Field.flags) (hw : word = "true" ∨ word = "false")
      (hs : IsCasingOf s word) (hs' : IsCasingOf s' word) : Respells f (some s) (some s')
  /-- A flag that was not set is written as false. -/
  | off {s : String} (hf : f ∈ Field.flags) (hs : IsCasingOf s "false") : Respells f none (some s)
  /-- A whole number is written with other signs and digits. -/
  | number {s s' : String} {m m' : Numeral} (hf : f ∈ Field.wholeNumbers)
      (hm : Numeral.WrittenAs m s.toList) (hm' : Numeral.WrittenAs m' s'.toList)
      (same : m.value = m'.value) (short : m'.digits.length ≤ 4300) :
      Respells f (some s) (some s')

/-- A parameter set holds the same in another spelling, field by field. -/
def Respelled (p q : ParameterSet) : Prop :=
  ∀ f, Respells f (p.text f) (q.text f)

variable {p q : ParameterSet} {f : Field}

theorem not_mem_flags_of_mem_wholeNumbers : ∀ f ∈ Field.wholeNumbers, f ∉ Field.flags := by
  decide

/-! ### Selection -/

/-- The selected base is what the texts make of it, but for the wish not to sign, which is a
flag. -/
theorem selectBase_eq_of_text_eq (texts : ∀ f, f ∉ Field.flags → f ∉ Field.wholeNumbers →
      p.text f = q.text f)
    (unsigned : p.flag .useAnonymous = some true ↔ q.flag .useAnonymous = some true) :
    p.selectBase = q.selectBase := by
  simp only [selectBase, secretValue, unsigned, texts .accessKey (by decide) (by decide),
    texts .secretKey (by decide) (by decide), texts .credentialsFile (by decide) (by decide),
    texts .profileName (by decide) (by decide)]

/-- **The same is selected** by the same texts and numbers, and the same wish not to sign. -/
theorem select_eq_of_text_eq
    (texts : ∀ f, f ∉ Field.flags → f ∉ Field.wholeNumbers → p.text f = q.text f)
    (unsigned : p.flag .useAnonymous = some true ↔ q.flag .useAnonymous = some true)
    (numbers : ∀ f ∈ Field.wholeNumbers, p.number f = q.number f) : p.select = q.select := by
  have no_flag : ∀ f ∈ requestTexts, f ∉ Field.flags ∧ f ∉ Field.wholeNumbers := by decide
  have same : p.SameRole q := ⟨fun f hf ↦ texts f (no_flag f hf).1 (no_flag f hf).2, numbers⟩
  rw [select, select, same.proxy_eq, same.roleRequest_eq, selectBase_eq_of_text_eq texts unsigned,
    same.text_eq .roleArn (by decide), same.text_eq .roleSessionName (by decide),
    same.text_eq .tokenFile (by decide), texts .externalId (by decide) (by decide)]

/-! ### What a spelling says -/

namespace Respells

variable {t t' : Option String}

/-- Flags apart, the same fields are set in both spellings. -/
theorem isSome_eq (h : Respells f t t') (hf : f ∉ Field.flags) : t.isSome = t'.isSome := by
  cases h with
  | refl => rfl
  | flag hf' => exact absurd hf' hf
  | off hf' => exact absurd hf' hf
  | number => rfl

/-- Flags and numbers apart, the texts are the same in both spellings. -/
theorem eq (h : Respells f t t') (hf : f ∉ Field.flags) (hn : f ∉ Field.wholeNumbers) :
    t = t' := by
  cases h with
  | refl => rfl
  | flag hf' => exact absurd hf' hf
  | off hf' => exact absurd hf' hf
  | number hn' => exact absurd hn' hn

/-- The texts of a flag are both read, and alike, unless it was not respelled. -/
theorem readFlag_eq {s s' : String} (h : Respells f (some s) (some s')) (hf : f ∈ Field.flags) :
    s = s' ∨ readFlag s = readFlag s' ∧ readFlag s ≠ none := by
  cases h with
  | refl => exact .inl rfl
  | flag _ hw hs hs' =>
    rcases hw with rfl | rfl
    · rw [readFlag_eq_true_iff.2 hs, readFlag_eq_true_iff.2 hs']
      exact .inr ⟨rfl, by simp⟩
    · rw [readFlag_eq_false_iff.2 hs, readFlag_eq_false_iff.2 hs']
      exact .inr ⟨rfl, by simp⟩
  | number hn => exact absurd hf (not_mem_flags_of_mem_wholeNumbers f hn)

/-- A text of a whole number that can be converted is read as the same number in its new spelling,
unless it was not respelled. -/
theorem readWhole_eq {s s' : String} (h : Respells f (some s) (some s'))
    (hf : f ∈ Field.wholeNumbers)
    (short : ∀ m, Numeral.WrittenAs m s.toList → m.digits.length ≤ 4300) :
    s = s' ∨ ∃ n, readWhole s.toList = .number n ∧ readWhole s'.toList = .number n := by
  cases h with
  | refl => exact .inl rfl
  | flag hf' => exact absurd hf' (not_mem_flags_of_mem_wholeNumbers f hf)
  | @number _ _ m m' _ hm hm' same short' =>
    exact .inr ⟨m.value, readWhole_eq_number_iff.2 ⟨m, hm, short m hm, rfl⟩,
      readWhole_eq_number_iff.2 ⟨m', hm', short', same.symm⟩⟩

end Respells

/-! ### What a respelled parameter set says -/

namespace Respelled

variable (h : p.Respelled q)

include h

theorem isSet_eq (hf : f ∉ Field.flags) : p.isSet f = q.isSet f :=
  (h f).isSome_eq hf

theorem text_eq (hf : f ∉ Field.flags) (hn : f ∉ Field.wholeNumbers) : p.text f = q.text f :=
  (h f).eq hf hn

/-- A flag is true in both spellings, and at fault in both or in neither. -/
theorem flag_iff_and_flagFault_eq (hf : f ∈ Field.flags) :
    (p.flag f = some true ↔ q.flag f = some true) ∧ p.flagFault f = q.flagFault f := by
  have spelling := h f
  rw [flag, flag, flagFault, flagFault]
  -- A text may be written differently on both sides, or be a written `false` on one side only.
  cases hp : p.text f with
  | none =>
    rw [hp] at spelling
    cases hq : q.text f with
    | none => simp
    | some s' =>
      rw [hq] at spelling
      cases spelling with
      | off _ hs => simp [readFlag_eq_false_iff.2 hs]
  | some s =>
    rw [hp] at spelling
    cases hq : q.text f with
    | none =>
      rw [hq] at spelling
      cases spelling
    | some s' =>
      rw [hq] at spelling
      rcases spelling.readFlag_eq hf with rfl | ⟨same, readable⟩
      · simp
      · have readable' : readFlag s' ≠ none := same ▸ readable
        simp [same, readable']

/-- A number that can be converted is the same in both spellings, and at fault in both or in
neither. -/
theorem number_eq_and_numberFault_eq (hc : p.Convertible) (hf : f ∈ Field.wholeNumbers) :
    p.number f = q.number f ∧ p.numberFault f = q.numberFault f := by
  have spelling := h f
  have no_flag := not_mem_flags_of_mem_wholeNumbers f hf
  rw [number, number, numberFault, numberFault]
  cases hp : p.text f with
  | none =>
    have unset : q.text f = none := by
      have same := (h f).isSome_eq no_flag
      rw [hp] at same
      exact Option.not_isSome_iff_eq_none.1 (by simp [← same])
    simp [unset]
  | some s =>
    rw [hp] at spelling
    cases hq : q.text f with
    | none =>
      rw [hq] at spelling
      cases spelling
    | some s' =>
      rw [hq] at spelling
      rcases spelling.readWhole_eq hf (hc f hf s hp) with rfl | ⟨n, reads, reads'⟩
      · simp
      · simp [reads, reads']

/-- Convertible numbers are convertible in their new spelling, which is not allowed to be too
long. -/
theorem convertible (hc : p.Convertible) : q.Convertible := by
  intro f hf s' hq m' hm'
  have spelling := h f
  rw [hq] at spelling
  generalize hp : p.text f = t at spelling
  cases spelling with
  | refl => exact hc f hf s' hp m' hm'
  | flag hf' => exact absurd hf' (not_mem_flags_of_mem_wholeNumbers f hf)
  | off hf' => exact absurd hf' (not_mem_flags_of_mem_wholeNumbers f hf)
  | number _ _ hm same short => exact hm'.eq hm ▸ short

/-- **The rules read the same in both spellings**, so that the same rules are broken for the same
causes. -/
theorem readAlike (hc : p.Convertible) : p.ReadAlike q where
  isSet_eq _ hf := h.isSet_eq hf
  flag_iff _ hf := (h.flag_iff_and_flagFault_eq hf).1
  flagFault_eq _ hf := (h.flag_iff_and_flagFault_eq hf).2
  number_eq _ hf := (h.number_eq_and_numberFault_eq hc hf).1
  numberFault_eq _ hf := (h.number_eq_and_numberFault_eq hc hf).2

/-- Where validation gives an answer, it gives the same answer for another spelling. -/
theorem validate_eq (hc : p.Convertible) : p.validate = q.validate := by
  have alike := h.readAlike hc
  have selected : p.select = q.select :=
    select_eq_of_text_eq (fun _ hf hn ↦ h.text_eq hf hn) (alike.flag_iff .useAnonymous (by decide))
      alike.number_eq
  exact alike.validate_eq (overlong?_eq_none_iff_convertible.2 hc)
    (overlong?_eq_none_iff_convertible.2 (h.convertible hc)) selected

end Respelled

/-! ### Saying nothing of the default -/

/-- A descriptor is what validation accepts when the parameter set is valid and selects it. -/
theorem exists_accepted_iff {d : Descriptor} :
    (∃ report, p.validate = .ok report ∧ report.validation = .accepted d) ↔
      p.Valid ∧ p.select = .ok d := by
  constructor
  · rintro ⟨report, answered, accepted⟩
    have valid := valid_of_violations_eq_nil answered (by rw [accepted]; rfl)
    obtain ⟨_, said⟩ := eq_of_validate_eq_ok answered
    rw [said] at accepted
    have same : valid.selected = d :=
      Validation.accepted.inj (valid.validation_eq.symm.trans accepted)
    exact ⟨valid, same ▸ valid.select_eq⟩
  · rintro ⟨valid, selected⟩
    have same : valid.selected = d := Except.ok.inj (valid.select_eq.symm.trans selected)
    exact ⟨_, validate_eq_ok valid.convertible, same ▸ valid.validation_eq⟩

/-- Nothing that is selected depends on whether the default is asked for, since the default is what
is left without any other base. -/
theorem select_without_useDefault (p : ParameterSet) :
    (p.without [.useDefault]).select = p.select := by
  have kept {f : Field} (hf : f ≠ .useDefault) : (p.without [.useDefault]).text f = p.text f :=
    text_without_of_not_mem (mt List.mem_singleton.1 hf)
  refine select_eq_of_text_eq (fun f hf _ ↦ kept ?_) ?_ fun f hf ↦ ?_
  · rintro rfl
    exact hf (by decide)
  · rw [flag, flag, kept (by decide)]
  · have hf : f ≠ .useDefault := by
      rintro rfl
      exact absurd hf (by decide)
    rw [number, number, kept hf]

/-- **Spelling does not matter**: for parameter sets that say the same in other spellings,
validation answers the same. Nor does it matter to what a valid parameter set selects whether it
asks for the default. -/
theorem validate_respelled {report : Report} (h : p.Respelled q)
    (answered : p.validate = .ok report) :
    q.validate = .ok report ∧
      ∀ d, report.validation = .accepted d →
        ∃ report', (p.without [.useDefault]).validate = .ok report' ∧
          report'.validation = .accepted d := by
  constructor
  · obtain ⟨convertible, -⟩ := eq_of_validate_eq_ok answered
    rw [← h.validate_eq (overlong?_eq_none_iff_convertible.1 convertible), answered]
  · intro d accepted
    obtain ⟨valid, selected⟩ := exists_accepted_iff.1 ⟨report, answered, accepted⟩
    refine exists_accepted_iff.2 ⟨?_, (select_without_useDefault p).trans selected⟩
    exact valid.without (by decide) (by decide) (by decide)

/-- A role over the default, by a proxy, in two spellings. -/
def defaultRole (plain : Bool) : ParameterSet where
  text
    | .useDefault => some (if plain then "true" else "TRUE")
    | .useAnonymous => if plain then none else some "False"
    | .roleArn => some "arn"
    | .roleSessionName => some "name"
    | .maxSeconds => some (if plain then "900" else "+0900")
    | .proxyHost => some "proxy"
    | .proxyPort => some (if plain then "8080" else "008080")
    | _ => none

/-- What validation says of both spellings of `defaultRole`. -/
def defaultRoleReport : Report where
  validation := .accepted (.assumeRole
    { arn := "arn", sessionName := "name", maxSeconds := 900, proxy := some ⟨"proxy", 8080⟩ }
    none .default)
  notices := [.selected .assumeRole]

/-- The texts of `defaultRole` are spellings of each other, field by field. -/
theorem respelled_defaultRole : (defaultRole true).Respelled (defaultRole false) := by
  intro f
  cases f with
  | useDefault => exact .flag (by decide) (.inl rfl) (by decide) (by decide)
  | useAnonymous => exact .off (by decide) (by decide)
  | maxSeconds =>
    have plain : Numeral.WrittenAs ⟨false, ['9', '0', '0']⟩ "900".toList := .unsigned (by decide)
    have signed : Numeral.WrittenAs ⟨false, ['0', '9', '0', '0']⟩ "+0900".toList :=
      .plus (by decide)
    exact .number (by decide) plain signed (by decide) (by decide)
  | proxyPort =>
    have plain : Numeral.WrittenAs ⟨false, ['8', '0', '8', '0']⟩ "8080".toList :=
      .unsigned (by decide)
    have padded : Numeral.WrittenAs ⟨false, ['0', '0', '8', '0', '8', '0']⟩ "008080".toList :=
      .unsigned (by decide)
    exact .number (by decide) plain padded (by decide) (by decide)
  | _ => exact .refl _

theorem validate_respelled_defaultRole :
    (defaultRole true).Respelled (defaultRole false) ∧
      (defaultRole true).validate = .ok defaultRoleReport ∧
      (defaultRole false).validate = .ok defaultRoleReport ∧
      ∀ d, defaultRoleReport.validation = .accepted d →
        ∃ report', ((defaultRole true).without [.useDefault]).validate = .ok report' ∧
          report'.validation = .accepted d :=
  have answered : (defaultRole true).validate = .ok defaultRoleReport := by decide
  ⟨respelled_defaultRole, answered, validate_respelled respelled_defaultRole answered⟩

end AwsCredentials.ParameterSet
