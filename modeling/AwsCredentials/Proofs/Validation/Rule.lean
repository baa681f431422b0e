import AwsCredentials.Proofs.Text.LetterCase
import AwsCredentials.Proofs.Text.Numeral
import AwsCredentials.Validation.Report

/-!
# Rules and the violations that report them

Validation is a fixed list of rules, and a report is read as the rules that are broken, in the order
of that list. `Rule.Reports` says of each rule when a parameter set breaks it and with which
violation that is reported: kind, names and message. It speaks of the texts of the fields and of
nothing that validation computes on the way, so it can stand on the other side of what is proved of
a report.

**Two notions are stated anew** for the same reason. A field *indicates* its base
(`ParameterSet.Indicates`) by a casing of the word for true if it is a flag and by being set if it
is not. A number is *convertible* (`ParameterSet.Convertible`) when the text that spells it has at
most 4300 digits; validation gives an answer for parameter sets with convertible numbers and for no
others (`overlong?_eq_none_iff_convertible`).

A violation tells which rule it reports (`Rule.ofViolation_of_reports`), which is why no two entries
of a report are equal.
-/

namespace AwsCredentials

open Text

/-! ### What the fields say -/

namespace ParameterSet

variable {p : ParameterSet}

/-- A field indicates the base that it belongs to: a flag when its text is a casing of `true`, any
other field when it is set. -/
inductive Indicates (p : ParameterSet) : Field → Prop
  /-- A flag does when it is true, in any letter case. -/
  | flag {f : Field} {s : String} (hf : f ∈ Field.flags) (hs : p.text f = some s)
      (h : IsCasingOf s "true") : Indicates p f
  /-- Any other field does when it is set. -/
  | value {f : Field} (hf : f ∉ Field.flags) (hs : p.isSet f = true) : Indicates p f

/-- A base is indicated by any of its fields, one being enough. -/
def IndicatesBase (p : ParameterSet) (b : Base) : Prop :=
  ∃ f ∈ b.fields, p.Indicates f

/-- A role is requested by its name and the name of the session together. -/
def RequestsRole (p : ParameterSet) : Prop :=
  p.isSet .roleArn = true ∧ p.isSet .roleSessionName = true

/-- The text of a field is written for a number, in the grammar of numerals. -/
def Denotes (p : ParameterSet) (f : Field) (n : Int) : Prop :=
  ∃ s m, p.text f = some s ∧ Numeral.WrittenAs m s.toList ∧ m.value = n

/-- No text that spells a whole number does so with more than 4300 digits. -/
def Convertible (p : ParameterSet) : Prop :=
  ∀ f ∈ Field.wholeNumbers, ∀ s, p.text f = some s →
    ∀ m, Numeral.WrittenAs m s.toList → m.digits.length ≤ 4300

/-- A flag indicates its base when it is read as true, and not when it is set to anything else. -/
theorem flag_eq_true_iff {f : Field} (hf : f ∈ Field.flags) :
    p.flag f = some true ↔ p.Indicates f := by
  simp only [flag_eq_some_iff, readFlag_eq_true_iff]
  constructor
  · rintro ⟨s, hs, h⟩
    exact .flag hf hs h
  · rintro (⟨-, hs, h⟩ | ⟨hf', -⟩)
    · exact ⟨_, hs, h⟩
    · exact absurd hf hf'

theorem indicates_eq_true_iff {f : Field} : p.indicates f = true ↔ p.Indicates f := by
  unfold indicates
  split
  · next hf => rw [decide_eq_true_iff, flag_eq_true_iff hf]
  · next hf =>
    constructor
    · exact .value hf
    · rintro (⟨hf', -, -⟩ | ⟨-, hs⟩)
      · exact absurd hf' hf
      · exact hs

instance (p : ParameterSet) : DecidablePred p.Indicates := fun _ ↦
  decidable_of_iff _ indicates_eq_true_iff

instance (p : ParameterSet) : DecidablePred p.IndicatesBase := fun b ↦
  inferInstanceAs (Decidable (∃ f ∈ b.fields, p.Indicates f))

theorem roleRequested_eq_true_iff : p.roleRequested = true ↔ p.RequestsRole :=
  Bool.and_eq_true_iff

instance (p : ParameterSet) : Decidable p.RequestsRole :=
  inferInstanceAs (Decidable (_ ∧ _))

/-- A field denotes one number at most, since it holds one text, and a text is written for one
number. -/
theorem Denotes.eq {f : Field} {n n' : Int} (h : p.Denotes f n) (h' : p.Denotes f n') :
    n = n' := by
  obtain ⟨s, m, hs, hm, rfl⟩ := h
  obtain ⟨s', m', hs', hm', rfl⟩ := h'
  obtain rfl := Option.some.inj (hs.symm.trans hs')
  rw [hm.eq hm']

theorem overlong?_eq_none_iff_convertible : p.overlong? = none ↔ p.Convertible := by
  rw [overlong?_eq_none_iff]
  refine forall₂_congr fun f _ ↦ forall₂_congr fun s _ ↦ ?_
  simp only [ne_eq, readWhole_eq_overlong_iff, not_exists, not_and]
  constructor
  · intro h m hm
    exact Nat.le_of_not_lt fun long ↦ h ⟨_⟩ m hm long rfl
  · intro h _ m hm long
    exact absurd (h m hm) (Nat.not_le.2 long)

end ParameterSet

/-! ### Rules -/

/-- A rule that a parameter set can break. A rule that is about several fields in turn is one rule
for each. -/
inductive Rule
  /-- At most one base is indicated. -/
  | oneBase
  /-- A role without a token is not requested with the base that does not sign. -/
  | signingBase
  /-- Two fields are set together. -/
  | pair (first second : Field)
  /-- A flag can be read. -/
  | flag (field : Field)
  /-- A whole number can be read. -/
  | wholeNumber (field : Field)
  /-- A role is requested for a time in its range. -/
  | seconds
  /-- The port of the proxy is in its range. -/
  | port
  /-- A field is set for a requested role only. -/
  | dependent (field : Field)
  /-- A proxy is given for a requested role only. -/
  | proxy
deriving DecidableEq

namespace Rule

/-- The rules in the order in which they are reported, group by group. -/
def all : List Rule :=
  [.oneBase, .signingBase, .pair .accessKey .secretKey, .pair .roleArn .roleSessionName,
    .pair .proxyHost .proxyPort, .flag .useDefault, .flag .useAnonymous, .wholeNumber .maxSeconds,
    .wholeNumber .proxyPort, .seconds, .port, .dependent .externalId, .dependent .stsEndpoint,
    .dependent .stsRegion, .dependent .maxSeconds, .dependent .tokenFile, .proxy]

/-- No rule is listed twice, so none is reported twice. -/
theorem nodup_all : all.Nodup := by
  decide

/-! Which rules of a kind are listed: those for the fields of one group each. -/

theorem pair_mem_all_iff {f g : Field} : pair f g ∈ all ↔ (f, g) ∈ Field.pairs := by
  simp [all, Field.pairs]

theorem flag_mem_all_iff {f : Field} : flag f ∈ all ↔ f ∈ Field.flags := by
  cases f <;> decide

theorem wholeNumber_mem_all_iff {f : Field} : wholeNumber f ∈ all ↔ f ∈ Field.wholeNumbers := by
  cases f <;> decide

theorem dependent_mem_all_iff {f : Field} : dependent f ∈ all ↔ f ∈ Field.roleDependents := by
  cases f <;> decide

/-- The fields that belong to a base, in the order in which messages name them. -/
def baseFields : List Field :=
  [.useDefault, .useAnonymous, .accessKey, .secretKey, .credentialsFile, .profileName]

/-- The violation of a kind that names these fields. -/
def report (kind : ViolationKind) (fields : List Field) (message : String) : Violation :=
  ⟨kind, fields.map Field.name, message⟩

/-- A rule is broken, and this violation reports it, with the fields and the message spelled out. -/
inductive Reports (p : ParameterSet) : Rule → Violation → Prop
  /-- Two bases are indicated: every field that indicates one is named, and every such base. -/
  | oneBase {b c : Base} (hb : p.IndicatesBase b) (hc : p.IndicatesBase c) (hne : b ≠ c) :
      Reports p .oneBase (report .conflictingStrategy (baseFields.filter p.Indicates)
        ("mutually exclusive credential strategies configured: "
          ++ ", ".intercalate ((Base.all.filter p.IndicatesBase).map fun b ↦ b.strategy.name)))
  /-- A role is requested without a token, and requests are not to be signed. -/
  | signingBase (ha : p.Indicates .useAnonymous) (hr : p.RequestsRole)
      (ht : p.isSet .tokenFile = false) :
      Reports p .signingBase
        (report .conflictingStrategy [.useAnonymous, .roleArn, .roleSessionName]
          "anonymous credentials cannot be used to assume a role")
  /-- The first field of a pair is set alone. -/
  | secondMissing {f g : Field} (hf : p.isSet f = true) (hg : p.isSet g = false) :
      Reports p (.pair f g)
        (report .incompletePair [f, g] (f.key ++ " is set but " ++ g.key ++ " is missing"))
  /-- The second field of a pair is set alone. -/
  | firstMissing {f g : Field} (hf : p.isSet f = false) (hg : p.isSet g = true) :
      Reports p (.pair f g)
        (report .incompletePair [f, g] (g.key ++ " is set but " ++ f.key ++ " is missing"))
  /-- A flag is a casing of neither word. -/
  | flag {f : Field} {s : String} (hs : p.text f = some s) (ht : ¬IsCasingOf s "true")
      (hf : ¬IsCasingOf s "false") :
      Reports p (.flag f)
        (report .malformedValue [f] ("expected 'true' or 'false', got " ++ quote s))
  /-- A text spells no whole number. -/
  | wholeNumber {f : Field} {s : String} (hs : p.text f = some s)
      (hn : ∀ m, ¬Numeral.WrittenAs m s.toList) :
      Reports p (.wholeNumber f)
        (report .malformedValue [f] ("expected a whole number, got " ++ quote s))
  /-- A role is requested for a time below 900 or above 3600 seconds. -/
  | seconds {n : Int} (hn : p.Denotes .maxSeconds n) (hr : p.RequestsRole)
      (out : n < 900 ∨ 3600 < n) :
      Reports p .seconds
        (report .outOfRange [.maxSeconds]
          ("must be between 900 and 3600 seconds, got " ++ decimal n))
  /-- The port of the proxy is below 1 or above 65535, whether or not a role is requested. -/
  | port {n : Int} (hn : p.Denotes .proxyPort n) (out : n < 1 ∨ 65535 < n) :
      Reports p .port
        (report .outOfRange [.proxyPort] ("must be between 1 and 65535, got " ++ decimal n))
  /-- A field for requested roles is set, and no role is requested. -/
  | dependent {f : Field} (hf : p.isSet f = true) (hr : ¬p.RequestsRole) :
      Reports p (.dependent f)
        (report .danglingDependency [f]
          "only applies when assume-role-arn and assume-role-session-name are both set")
  /-- A part of a proxy is given, and no role is requested: the parts that are given are named. -/
  | proxy (hp : p.isSet .proxyHost = true ∨ p.isSet .proxyPort = true) (hr : ¬p.RequestsRole) :
      Reports p .proxy
        (report .danglingDependency ([Field.proxyHost, .proxyPort].filter p.isSet)
          ("proxy settings apply only to STS calls and require assume-role-arn and " ++
            "assume-role-session-name"))

end Rule

end AwsCredentials
