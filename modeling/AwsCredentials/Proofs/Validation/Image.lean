import AwsCredentials.Proofs.Validation.WellFormed

/-!
# What mappings resolve to

**The main statement**, `exists_resolvesTo_iff`: the descriptors that some mapping of texts resolves
to are the well-formed ones, and for each of them there is such a mapping under keys.

One direction is `ParameterSet.Describes.wellFormed`. For the other, `Descriptor.parameters` spells
a descriptor out: its texts go to the fields as they are, its numbers in decimal. Of a well-formed
descriptor this set describes the descriptor (`WellFormed.describes_parameters`) and breaks no rule
(`WellFormed.valid_parameters`), so by the uniqueness of descriptions it resolves to the descriptor.
-/

namespace AwsCredentials

open Text

/-! ### Spelling a descriptor out -/

namespace Descriptor

/-- The requested role, which only two strategies have. -/
def role? : Descriptor → Option RoleRequest
  | assumeRole role _ _ => some role
  | webIdentity role _ => some role
  | _ => none

/-- The external id that a role is assumed with. A role by a token has none. -/
def externalId? : Descriptor → Option String
  | assumeRole _ externalId _ => externalId
  | _ => none

/-- The file of the token that a role is assumed with. -/
def tokenFile? : Descriptor → Option String
  | webIdentity _ tokenFile => some tokenFile
  | _ => none

/-- The base that a role is assumed with; without a role, the descriptor itself. -/
def base : Descriptor → Descriptor
  | assumeRole _ _ base => base
  | webIdentity _ _ => default
  | d => d

/-- The text that a base has for a field, and none for fields that do not belong to it. -/
def baseText : Descriptor → Field → Option String
  | anonymous, .useAnonymous => some "true"
  | staticKeyPair accessKey _, .accessKey => some accessKey
  | staticKeyPair _ secretKey, .secretKey => some secretKey
  | credentialsFile path, .credentialsFile => some path
  | namedProfile profile, .profileName => some profile
  | _, _ => none

/-- The parameter set that spells a descriptor out: every value of it is a text of its field. -/
def parameters (d : Descriptor) : ParameterSet where
  text
    | .roleArn => d.role?.map RoleRequest.arn
    | .roleSessionName => d.role?.map RoleRequest.sessionName
    | .externalId => d.externalId?
    | .stsEndpoint => d.role?.bind RoleRequest.endpoint
    | .stsRegion => d.role?.map RoleRequest.region
    | .maxSeconds => d.role?.map fun role ↦ decimal role.maxSeconds
    | .proxyHost => (d.role?.bind RoleRequest.proxy).map Proxy.host
    | .proxyPort => (d.role?.bind RoleRequest.proxy).map fun x ↦ decimal x.port
    | .tokenFile => d.tokenFile?
    | f => d.base.baseText f

end Descriptor

/-! ### The set describes the descriptor -/

namespace ParameterSet

variable {p : ParameterSet}

/-- The base is known once the list of indicated bases is, if this has one element at most. -/
theorem hasBase_of_indicated {b : Base} (h : p.indicated = [b] ∨ p.indicated = [] ∧ b = .default) :
    p.HasBase b := by
  rcases h with h | ⟨h, rfl⟩
  · exact .inl fun c ↦ by rw [← mem_indicated_iff, h, List.mem_singleton]
  · exact .inr ⟨fun c hc ↦ by simp [← mem_indicated_iff, h] at hc, rfl⟩

/-- A field with the decimal text of a number denotes the number, since the text is written in the
grammar. -/
theorem denotes_of_text_eq {f : Field} {n : Int} (h : p.text f = some (decimal n)) :
    p.Denotes f n :=
  ⟨_, _, h, writtenAs_decimal n, value_ofInt n⟩

end ParameterSet

namespace Descriptor

variable {d : Descriptor}

theorem requestsRole_parameters_iff : d.parameters.RequestsRole ↔ ∃ role, d.role? = some role := by
  simp [ParameterSet.RequestsRole, ParameterSet.isSet, parameters, Option.isSome_iff_exists]

/-- The bases that the texts of a base indicate: the base itself, or none for the default. -/
def indications : Descriptor → List Base
  | anonymous => [.anonymous]
  | staticKeyPair _ _ => [.staticKeyPair]
  | credentialsFile _ => [.credentialsFile]
  | namedProfile _ => [.namedProfile]
  | _ => []

theorem indicated_parameters (d : Descriptor) : d.parameters.indicated = d.base.indications := by
  have reads_true : readFlag "true" = some true := by decide
  cases hb : d.base <;>
    simp [ParameterSet.indicated, ParameterSet.indicating, ParameterSet.indicates,
      ParameterSet.flag, ParameterSet.isSet, Base.all, Base.fields, Field.flags, parameters, hb,
      baseText, indications, reads_true]

/-- The texts of a base are trimmed if those of the descriptor are. -/
theorem isTrimmed_baseText (h : d = .anonymous ∨ d.IsSigningBase) {f : Field} {s : String}
    (hs : d.baseText f = some s) : IsTrimmed s := by
  rcases h with rfl | h
  · cases f with
    | useAnonymous =>
      obtain rfl := Option.some.inj hs
      decide
    | _ => simp [baseText] at hs
  · cases h <;> cases f <;> simp_all [baseText]

/-- The base that is spelled out is the base of the descriptor, by cases on what base it is. -/
theorem describesBase_parameters (h : d.base = .anonymous ∨ d.base.IsSigningBase) :
    ∃ b, d.parameters.HasBase b ∧ d.parameters.DescribesBase b d.base := by
  have indicated := indicated_parameters d
  generalize hb : d.base = base at *
  rcases h with rfl | h
  · exact ⟨_, ParameterSet.hasBase_of_indicated (.inl indicated), .anonymous⟩
  · cases h with
    | default => exact ⟨_, ParameterSet.hasBase_of_indicated (.inr ⟨indicated, rfl⟩), .default⟩
    | staticKeyPair =>
      exact ⟨_, ParameterSet.hasBase_of_indicated (.inl indicated),
        .staticKeyPair (by simp [parameters, hb, baseText]) (by simp [parameters, hb, baseText])⟩
    | credentialsFile =>
      exact ⟨_, ParameterSet.hasBase_of_indicated (.inl indicated),
        .credentialsFile (by simp [parameters, hb, baseText])⟩
    | namedProfile =>
      exact ⟨_, ParameterSet.hasBase_of_indicated (.inl indicated),
        .namedProfile (by simp [parameters, hb, baseText])⟩

/-- The role that is spelled out is the role of the descriptor, with all its values, defaults
included. -/
theorem describesRole_parameters {role : RoleRequest} (h : d.role? = some role)
    (hr : role.WellFormed) : d.parameters.DescribesRole role where
  arn := by simp [parameters, h]
  sessionName := by simp [parameters, h]
  maxSeconds := .inl (ParameterSet.denotes_of_text_eq (by simp [parameters, h]))
  endpoint := by simp [parameters, h]
  region := .inl ⟨by simp [parameters, h], hr.region.1⟩
  proxy_isSome := by simp [ParameterSet.isSet, parameters, h]
  proxyHost x hx := by simp [parameters, h, hx]
  proxyPort x hx := ParameterSet.denotes_of_text_eq (by simp [parameters, h, hx])

/-- A base that signs spells itself out without a role, and without anything that belongs to one. -/
theorem IsSigningBase.parts (h : d.IsSigningBase) :
    d.role? = none ∧ d.externalId? = none ∧ d.tokenFile? = none ∧ d.base = d := by
  cases h <;> simp [role?, externalId?, tokenFile?, base]

namespace WellFormed

variable (h : d.WellFormed)

include h

theorem role {role : RoleRequest} (hr : d.role? = some role) : role.WellFormed := by
  cases h with
  | anonymous => simp [role?] at hr
  | base hd => simp [hd.parts] at hr
  | assumeRole hr' => exact Option.some.inj hr ▸ hr'
  | webIdentity hr' => exact Option.some.inj hr ▸ hr'

theorem base_eq_or : d.base = .anonymous ∨ d.base.IsSigningBase := by
  cases h with
  | anonymous => exact .inl rfl
  | base hd => exact .inr (by rwa [hd.parts.2.2.2])
  | assumeRole _ _ hb => exact .inr hb
  | webIdentity => exact .inr .default

/-- **The set that spells a well-formed descriptor out describes it**, part by part: its base, its
role, and its token. -/
theorem describes_parameters : d.parameters.Describes d := by
  obtain ⟨b, hb, hd⟩ := describesBase_parameters h.base_eq_or
  have unrequested (hn : d.role? = none) : ¬d.parameters.RequestsRole := by
    simp [requestsRole_parameters_iff, hn]
  cases h with
  | anonymous => exact .base (unrequested rfl) hb hd
  | base signs =>
    obtain ⟨no_role, -, -, itself⟩ := signs.parts
    rw [itself] at hd
    exact .base (unrequested no_role) hb hd
  | assumeRole hr => exact .assumeRole (describesRole_parameters rfl hr) rfl hb hd
  | webIdentity hr => exact .webIdentity (describesRole_parameters rfl hr) rfl

end WellFormed

/-! ### The set breaks no rule -/

theorem text_flag_parameters {f : Field} {s : String} (hf : f ∈ Field.flags)
    (hs : d.parameters.text f = some s) : s = "true" := by
  rcases List.mem_pair.1 hf with rfl | rfl <;> cases hb : d.base <;>
    simp_all [parameters, baseText]

theorem isSet_parameters_pair {q : Field × Field} (hq : q ∈ Field.pairs) :
    d.parameters.isSet q.1 = d.parameters.isSet q.2 := by
  simp only [Field.pairs, List.mem_cons, List.not_mem_nil, or_false] at hq
  rcases hq with rfl | rfl | rfl
  · cases hb : d.base <;> simp [ParameterSet.isSet, parameters, hb, baseText]
  · simp [ParameterSet.isSet, parameters]
  · exact Option.isSome_map.trans Option.isSome_map.symm

/-- What means something only for a requested role is spelled out for a role only. -/
theorem requestsRole_of_isSet {f : Field} (hf : f ∈ Field.roleDependents ++ Field.proxy)
    (hs : d.parameters.isSet f = true) : d.parameters.RequestsRole := by
  rw [requestsRole_parameters_iff]
  obtain ⟨s, hs⟩ := ParameterSet.isSet_eq_true_iff.1 hs
  simp only [Field.roleDependents, Field.proxy, List.cons_append, List.nil_append, List.mem_cons,
    List.not_mem_nil, or_false] at hf
  cases d <;> rcases hf with rfl | rfl | rfl | rfl | rfl | rfl | rfl <;>
    simp_all [parameters, role?, externalId?, tokenFile?]

namespace WellFormed

variable (h : d.WellFormed)

include h

theorem text_maxSeconds {s : String} (hs : d.parameters.text .maxSeconds = some s) :
    ∃ n, s = decimal n ∧ 900 ≤ n ∧ n ≤ 3600 := by
  obtain ⟨role, hr, rfl⟩ := Option.map_eq_some_iff.1 hs
  exact ⟨_, rfl, (h.role hr).maxSeconds⟩

theorem text_proxyPort {s : String} (hs : d.parameters.text .proxyPort = some s) :
    ∃ n, s = decimal n ∧ 1 ≤ n ∧ n ≤ 65535 := by
  obtain ⟨x, hx, rfl⟩ := Option.map_eq_some_iff.1 hs
  obtain ⟨role, hr, hx⟩ := Option.bind_eq_some_iff.1 hx
  exact ⟨_, rfl, ((h.role hr).proxy x hx).port⟩

/-- Both numbers are spelled out in decimal, and neither is large, so both can be converted. -/
theorem text_wholeNumber {f : Field} {s : String} (hf : f ∈ Field.wholeNumbers)
    (hs : d.parameters.text f = some s) : ∃ n, s = decimal n ∧ 1 ≤ n ∧ n ≤ 65535 := by
  rcases List.mem_pair.1 hf with rfl | rfl
  · obtain ⟨n, hn, range⟩ := h.text_maxSeconds hs
    exact ⟨n, hn, by omega⟩
  · exact h.text_proxyPort hs

theorem overlong?_parameters : d.parameters.overlong? = none := by
  refine ParameterSet.overlong?_eq_none_iff.2 fun f hf s hs o ↦ ?_
  obtain ⟨n, rfl, range⟩ := h.text_wholeNumber hf hs
  have short : (Numeral.ofInt n).digits.length ≤ maxDigits :=
    calc (Nat.toDigits 10 n.natAbs).length
        ≤ 5 := (Nat.length_toDigits_le_iff (by decide) (by decide)).2 (by omega)
      _ ≤ maxDigits := by decide
  simp [readWhole_decimal short]

/-- Only what is assumed with a token has a base that does not sign, among what requests a role. -/
theorem base_ne_anonymous (hr : d.parameters.RequestsRole)
    (ht : d.parameters.isSet .tokenFile = false) : d.base ≠ .anonymous := by
  obtain ⟨role, hr⟩ := requestsRole_parameters_iff.1 hr
  cases h with
  | anonymous => simp [role?] at hr
  | base hd => simp [hd.parts] at hr
  | assumeRole _ _ hb => cases hb <;> simp [Descriptor.base]
  | webIdentity => simp [ParameterSet.isSet, parameters, tokenFile?] at ht

/-- The set that spells a well-formed descriptor out breaks no rule, by cases on the rule. -/
theorem not_reports_parameters {r : Rule} (hr : r ∈ Rule.all) {v : Violation} :
    ¬r.Reports d.parameters v := by
  obtain ⟨b, hb, hd⟩ := describesBase_parameters h.base_eq_or
  have together {f g : Field} (hp : .pair f g ∈ Rule.all) :
      d.parameters.isSet f = d.parameters.isSet g :=
    isSet_parameters_pair (Rule.pair_mem_all_iff.1 hp)
  have indicated {c : Base} (hc : d.parameters.IndicatesBase c) : c = b :=
    hb.eq_of_indicatesBase hc
  -- The fields of one base alone are set, pairs are set together, and every text was written from a
  -- value within its bounds: each premise of a rule contradicts one of these.
  intro broken
  cases broken with
  | oneBase hc hc' hne => exact hne ((indicated hc).trans (indicated hc').symm)
  | signingBase ha hq ht =>
    obtain rfl := indicated (c := .anonymous) ⟨_, List.mem_singleton.2 rfl, ha⟩
    generalize hbase : d.base = base at hd
    cases hd
    exact h.base_ne_anonymous hq ht hbase
  | secondMissing hf hg => simp [together hr, hg] at hf
  | firstMissing hf hg => simp [together hr, hg] at hf
  | flag hs ht =>
    obtain rfl := text_flag_parameters (Rule.flag_mem_all_iff.1 hr) hs
    exact ht (by decide)
  | wholeNumber hs hn =>
    obtain ⟨n, rfl, -⟩ := h.text_wholeNumber (Rule.wholeNumber_mem_all_iff.1 hr) hs
    exact hn _ (writtenAs_decimal n)
  | seconds hn _ out =>
    obtain ⟨s, -, hs, -⟩ := id hn
    obtain ⟨n, rfl, range⟩ := h.text_maxSeconds hs
    obtain rfl := hn.eq (ParameterSet.denotes_of_text_eq hs)
    omega
  | port hn out =>
    obtain ⟨s, -, hs, -⟩ := id hn
    obtain ⟨n, rfl, range⟩ := h.text_proxyPort hs
    obtain rfl := hn.eq (ParameterSet.denotes_of_text_eq hs)
    omega
  | dependent hf hq =>
    exact hq (requestsRole_of_isSet (List.mem_append_left _ (Rule.dependent_mem_all_iff.1 hr)) hf)
  | proxy hp hq =>
    rcases hp with hp | hp <;> exact hq (requestsRole_of_isSet (by decide) hp)

theorem valid_parameters : d.parameters.Valid :=
  ParameterSet.valid_iff.2
    ⟨ParameterSet.overlong?_eq_none_iff_convertible.1 h.overlong?_parameters,
      fun _ hr _ ↦ h.not_reports_parameters hr⟩

/-- The set that spells a well-formed descriptor out holds trimmed texts, so nothing is lost when
they are given to fields. -/
theorem isTrimmed_parameters : d.parameters.IsTrimmed := by
  have of_role {text : RoleRequest → String} {s : String} (hs : d.role?.map text = some s)
      (trimmed : ∀ role : RoleRequest, role.WellFormed → IsTrimmed (text role)) : IsTrimmed s := by
    obtain ⟨role, hr, rfl⟩ := Option.map_eq_some_iff.1 hs
    exact trimmed role (h.role hr)
  -- A text of the base, of the role, of an identifier, or a numeral, which has no blank at all.
  intro f s hs
  cases f with
  | useDefault | useAnonymous | accessKey | secretKey | credentialsFile | profileName =>
    exact isTrimmed_baseText h.base_eq_or hs
  | roleArn => exact of_role hs fun _ hr ↦ hr.arn
  | roleSessionName => exact of_role hs fun _ hr ↦ hr.sessionName
  | externalId =>
    cases h with
    | anonymous => simp [parameters, externalId?] at hs
    | base hd => simp [parameters, hd.parts] at hs
    | assumeRole _ hx => exact hx s hs
    | webIdentity => simp [parameters, externalId?] at hs
  | stsEndpoint =>
    obtain ⟨role, hr, hs⟩ := Option.bind_eq_some_iff.1 hs
    exact (h.role hr).endpoint s hs
  | stsRegion => exact of_role hs fun _ hr ↦ hr.region
  | maxSeconds => exact of_role hs fun _ _ ↦ isTrimmed_decimal _
  | proxyHost =>
    obtain ⟨x, hx, rfl⟩ := Option.map_eq_some_iff.1 hs
    obtain ⟨role, hr, hx⟩ := Option.bind_eq_some_iff.1 hx
    exact ((h.role hr).proxy x hx).host
  | proxyPort =>
    obtain ⟨x, -, rfl⟩ := Option.map_eq_some_iff.1 hs
    exact isTrimmed_decimal _
  | tokenFile =>
    cases h with
    | anonymous => simp [parameters, tokenFile?] at hs
    | base hd => simp [parameters, hd.parts] at hs
    | assumeRole => simp [parameters, tokenFile?] at hs
    | webIdentity _ ht => exact Option.some.inj hs ▸ ht

/-- **The set that spells a well-formed descriptor out resolves to it**: it is valid, and what it
selects is what it describes. -/
theorem resolve_parameters : d.parameters.resolve = .ok d := by
  have valid := h.valid_parameters
  have itself := h.describes_parameters.eq (valid.describes_of_select valid.select_eq)
  exact ParameterSet.resolve_eq_ok_iff.2 ⟨valid, valid.select_eq.trans (congrArg _ itself.symm)⟩

end WellFormed

end Descriptor

/-! ### The image -/

/-- A mapping makes a parameter set that resolves to a descriptor, so that a session can be had for
it. -/
def Mapping.ResolvesTo (m : Mapping) (d : Descriptor) : Prop :=
  ∃ p, ParameterSet.ofMapping m = .ok p ∧ p.resolve = .ok d

/-- What a mapping of texts resolves to is well-formed. -/
theorem Mapping.ResolvesTo.wellFormed {m : Mapping} {d : Descriptor} (hm : m.OfTexts)
    (h : m.ResolvesTo d) : d.WellFormed := by
  obtain ⟨p, hp, hd⟩ := h
  obtain ⟨p', hp', trimmed⟩ := ParameterSet.ofMapping_of_ofTexts hm
  obtain rfl := Except.ok.inj (hp'.symm.trans hp)
  obtain ⟨valid, selected⟩ := ParameterSet.resolve_eq_ok_iff.1 hd
  exact (valid.describes_of_select selected).wellFormed valid trimmed

/-- **Mappings of texts resolve to the well-formed descriptors**: to each of them some mapping under
keys does, and to no other descriptor any mapping, whatever its entries are under. -/
theorem exists_resolvesTo_iff (d : Descriptor) :
    ((∃ m : Mapping, m.IsKeyed ∧ m.OfTexts ∧ m.ResolvesTo d) ↔ d.WellFormed) ∧
      ∀ m : Mapping, m.OfTexts → m.ResolvesTo d → d.WellFormed := by
  refine ⟨⟨?_, fun h ↦ ?_⟩, fun m hm h ↦ h.wellFormed hm⟩
  · rintro ⟨m, -, hm, h⟩
    exact h.wellFormed hm
  · have read := ParameterSet.ofMapping_mapping h.isTrimmed_parameters
    exact ⟨d.parameters.mapping, ParameterSet.isKeyed_mapping _, ParameterSet.ofTexts_mapping _,
      _, read, h.resolve_parameters⟩

end AwsCredentials
