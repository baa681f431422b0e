import AwsCredentials.Proofs.Validation.Exactness

/-!
# What a valid parameter set describes

Selection asks for the fields in an order of its own and takes a number for granted.
`ParameterSet.Describes` says without any order which descriptor the fields of a parameter set
describe, and `select_of_no_violation` compares the two: where validation finds no violation,
selection goes through and selects the described descriptor, which is the only one.

* The base is the one that is indicated, or the default when none is (`HasBase`); that the order of
  selection does not matter is `Valid.describesBase_selectBase`.
* A role takes its companion fields as they are given, and three values for want of a field: 3600
  seconds, the region `us-west-2`, and nothing (`DescribesRole`).

A description is unique also without validity (`Describes.eq`). What validity adds is that there is
one.
-/

namespace AwsCredentials.ParameterSet

variable {p : ParameterSet}

/-! ### Descriptions -/

/-- The base of a parameter set: the one base that is indicated, or the default when none is. -/
def HasBase (p : ParameterSet) (b : Base) : Prop :=
  (∀ c, p.IndicatesBase c ↔ c = b) ∨ (∀ c, ¬p.IndicatesBase c) ∧ b = .default

/-- The descriptor of a base, with the texts that the fields hold for it. -/
inductive DescribesBase (p : ParameterSet) : Base → Descriptor → Prop
  /-- The default needs no text. -/
  | default : DescribesBase p .default .default
  /-- Not to sign needs no text. -/
  | anonymous : DescribesBase p .anonymous .anonymous
  /-- A key pair needs both halves. -/
  | staticKeyPair {a s : String} (ha : p.text .accessKey = some a)
      (hs : p.text .secretKey = some s) : DescribesBase p .staticKeyPair (.staticKeyPair a s)
  /-- A file needs its path. -/
  | credentialsFile {path : String} (h : p.text .credentialsFile = some path) :
      DescribesBase p .credentialsFile (.credentialsFile path)
  /-- A profile needs its name. -/
  | namedProfile {profile : String} (h : p.text .profileName = some profile) :
      DescribesBase p .namedProfile (.namedProfile profile)

/-- The request for a role that the fields describe, value by value. Where a field is not set, the
value is the default one. -/
structure DescribesRole (p : ParameterSet) (role : RoleRequest) : Prop where
  /-- The role is the given one. -/
  arn : p.text .roleArn = some role.arn
  /-- The name of the session is the text of its field. -/
  sessionName : p.text .roleSessionName = some role.sessionName
  /-- The time is the number that is given, or 3600. -/
  maxSeconds : p.Denotes .maxSeconds role.maxSeconds ∨
    p.isSet .maxSeconds = false ∧ role.maxSeconds = 3600
  /-- The endpoint is the given one, if any. -/
  endpoint : role.endpoint = p.text .stsEndpoint
  /-- The region is the given one, or `us-west-2` when none is given or an empty one. -/
  region : p.text .stsRegion = some role.region ∧ role.region ≠ "" ∨
    (p.text .stsRegion = none ∨ p.text .stsRegion = some "") ∧ role.region = "us-west-2"
  /-- There is a proxy when its host and its port are both set. -/
  proxy_isSome : role.proxy.isSome = true ↔ p.isSet .proxyHost = true ∧ p.isSet .proxyPort = true
  /-- Its host is the given one. -/
  proxyHost : ∀ x, role.proxy = some x → p.text .proxyHost = some x.host
  /-- Its port is the number that is given. -/
  proxyPort : ∀ x, role.proxy = some x → p.Denotes .proxyPort x.port

/-- The descriptor that the fields of a parameter set describe, stated without the order in which
selection asks for them. -/
inductive Describes (p : ParameterSet) : Descriptor → Prop
  /-- Without a requested role, the base. -/
  | base {b : Base} {d : Descriptor} (hr : ¬p.RequestsRole) (hb : p.HasBase b)
      (hd : p.DescribesBase b d) : Describes p d
  /-- With a requested role and no token, the role over the base. -/
  | assumeRole {role : RoleRequest} {b : Base} {d : Descriptor} (hr : p.DescribesRole role)
      (ht : p.text .tokenFile = none) (hb : p.HasBase b) (hd : p.DescribesBase b d) :
      Describes p (.assumeRole role (p.text .externalId) d)
  /-- With a requested role and a token, the role by the token, whatever the base. -/
  | webIdentity {role : RoleRequest} {token : String} (hr : p.DescribesRole role)
      (ht : p.text .tokenFile = some token) : Describes p (.webIdentity role token)

/-! ### Descriptions are unique -/

theorem HasBase.eq_of_indicatesBase {b c : Base} (h : p.HasBase b) (hc : p.IndicatesBase c) :
    c = b := by
  rcases h with h | ⟨h, -⟩
  · exact (h c).1 hc
  · exact absurd hc (h c)

theorem HasBase.eq {b c : Base} (hb : p.HasBase b) (hc : p.HasBase c) : b = c := by
  rcases hb with hb | ⟨hb, rfl⟩ <;> rcases hc with hc | ⟨hc, rfl⟩
  · exact (hc b).1 ((hb b).2 rfl)
  · exact absurd ((hb b).2 rfl) (hc b)
  · exact absurd ((hc c).2 rfl) (hb c)
  · rfl

theorem DescribesBase.eq {b : Base} {d d' : Descriptor} (h : p.DescribesBase b d)
    (h' : p.DescribesBase b d') : d = d' := by
  cases h <;> cases h' <;> simp_all

theorem DescribesRole.requestsRole {role : RoleRequest} (h : p.DescribesRole role) :
    p.RequestsRole :=
  ⟨isSet_eq_true_iff.2 ⟨_, h.arn⟩, isSet_eq_true_iff.2 ⟨_, h.sessionName⟩⟩

theorem Denotes.isSet {f : Field} {n : Int} (h : p.Denotes f n) : p.isSet f = true := by
  obtain ⟨s, -, hs, -⟩ := h
  exact isSet_eq_true_iff.2 ⟨s, hs⟩

theorem DescribesRole.eq {role role' : RoleRequest} (h : p.DescribesRole role)
    (h' : p.DescribesRole role') : role = role' := by
  -- Each member is a function of the texts; the two with a default need the case that is left out.
  have seconds : role.maxSeconds = role'.maxSeconds := by
    rcases h.maxSeconds with hn | ⟨unset, hn⟩ <;> rcases h'.maxSeconds with hn' | ⟨unset', hn'⟩
    · exact hn.eq hn'
    · simp [hn.isSet] at unset'
    · simp [hn'.isSet] at unset
    · rw [hn, hn']
  have region : role.region = role'.region := by
    rcases h.region with ⟨hs, hne⟩ | ⟨hs, hd⟩ <;> rcases h'.region with ⟨hs', hne'⟩ | ⟨hs', hd'⟩
    · exact Option.some.inj (hs.symm.trans hs')
    · rcases hs' with hs' | hs' <;> simp_all
    · rcases hs with hs | hs <;> simp_all
    · rw [hd, hd']
  have proxy : role.proxy = role'.proxy := by
    have same : role.proxy.isSome = role'.proxy.isSome := by
      rw [Bool.eq_iff_iff, h.proxy_isSome, h'.proxy_isSome]
    cases hx : role.proxy with
    | none => cases hy : role'.proxy <;> simp_all
    | some x =>
      cases hy : role'.proxy with
      | none => simp [hx, hy] at same
      | some y =>
        have host := Option.some.inj ((h.proxyHost x hx).symm.trans (h'.proxyHost y hy))
        have port := (h.proxyPort x hx).eq (h'.proxyPort y hy)
        cases x
        cases y
        simp_all
  have arn := Option.some.inj (h.arn.symm.trans h'.arn)
  have name := Option.some.inj (h.sessionName.symm.trans h'.sessionName)
  have endpoint := h.endpoint.trans h'.endpoint.symm
  cases role
  cases role'
  simp_all

/-- **The fields describe one descriptor at most**, since a base is described only where it is the
one that is indicated. -/
theorem Describes.eq {d d' : Descriptor} (h : p.Describes d) (h' : p.Describes d') : d = d' := by
  cases h with
  | base hr hb hd =>
    cases h' with
    | base _ hb' hd' =>
      obtain rfl := hb.eq hb'
      exact hd.eq hd'
    | assumeRole hr' => exact absurd hr'.requestsRole hr
    | webIdentity hr' => exact absurd hr'.requestsRole hr
  | assumeRole hr ht hb hd =>
    cases h' with
    | base hr' => exact absurd hr.requestsRole hr'
    | assumeRole hr' _ hb' hd' =>
      obtain rfl := hb.eq hb'
      rw [hr.eq hr', hd.eq hd']
    | webIdentity _ ht' => simp [ht] at ht'
  | webIdentity hr ht =>
    cases h' with
    | base hr' => exact absurd hr.requestsRole hr'
    | assumeRole _ ht' => simp [ht] at ht'
    | webIdentity hr' ht' => rw [hr.eq hr', Option.some.inj (ht.symm.trans ht')]

/-! ### What validity gives -/

/-- A valid parameter set breaks no rule, so every rule can be counted on in what it selects. -/
theorem Valid.not_reports (h : p.Valid) {r : Rule} (hr : r ∈ Rule.all) {v : Violation} :
    ¬r.Reports p v :=
  (valid_iff.1 h).2 r hr v

theorem Valid.isConvertible (h : p.Valid) : p.Convertible :=
  (valid_iff.1 h).1

/-- In a valid parameter set one base is indicated at most, which is why the order of asking does
not matter. -/
theorem Valid.indicatesBase_eq (h : p.Valid) {b c : Base} (hb : p.IndicatesBase b)
    (hc : p.IndicatesBase c) : b = c := by
  by_contra hne
  exact h.not_reports (r := .oneBase) (by decide) (.oneBase hb hc hne)

theorem Valid.hasBase (h : p.Valid) {b : Base} (hb : p.IndicatesBase b) : p.HasBase b :=
  .inl fun _ ↦ ⟨fun hc ↦ h.indicatesBase_eq hc hb, fun e ↦ e ▸ hb⟩

/-- In a valid parameter set, the number that is read is the number denoted. Valid sets are
convertible. -/
theorem Valid.number_eq_some_iff (h : p.Valid) {f : Field} (hf : f ∈ Field.wholeNumbers) {n : Int} :
    p.number f = some n ↔ p.Denotes f n :=
  number_eq_some_iff_denotes h.isConvertible hf

/-- In a valid parameter set, a number that is not read is not set. -/
theorem Valid.isSet_eq_false (h : p.Valid) {f : Field} (hf : f ∈ Field.wholeNumbers)
    (hn : p.number f = none) : p.isSet f = false := by
  by_contra hs
  obtain ⟨n, hn'⟩ := h.exists_number hf (by simpa using hs)
  exact absurd (hn.symm.trans hn') (by simp)

/-! ### Selection follows the description -/

/-- A text in a field of a base makes it the base of a valid parameter set, flags apart. -/
theorem Valid.hasBase_of_text (h : p.Valid) {b : Base} {f : Field} {s : String}
    (hf : f ∈ b.fields) (hf' : f ∉ Field.flags) (hs : p.text f = some s) : p.HasBase b :=
  h.hasBase ⟨f, hf, .value hf' (isSet_eq_true_iff.2 ⟨s, hs⟩)⟩

/-- Nothing but the default is indicated when no field is that selection asks for. -/
theorem Valid.hasBase_default (h : p.Valid) (ha : ¬p.Indicates .useAnonymous)
    (hk : p.text .accessKey = none) (hf : p.text .credentialsFile = none)
    (hp : p.text .profileName = none) : p.HasBase .default := by
  have unset {f : Field} (hf : p.text f = none) : p.isSet f = false := by simp [isSet, hf]
  have secret : p.isSet .secretKey = false := by
    rw [← unset hk]
    exact (h.isSet_eq (q := (.accessKey, .secretKey)) (by decide)).symm
  have silent {f : Field} (hs : p.isSet f = false) (hf : f ∉ Field.flags) : ¬p.Indicates f := by
    rintro (⟨hf', -, -⟩ | ⟨-, hs'⟩)
    · exact hf hf'
    · exact absurd (hs.symm.trans hs') (by simp)
  -- Nothing that would indicate another base is set, the secret key by its pairing with the id.
  have only : ∀ c, p.IndicatesBase c → c = .default := by
    rintro c ⟨f, hc, hi⟩
    cases c with
    | default => rfl
    | anonymous => exact absurd (List.mem_singleton.1 hc ▸ hi) ha
    | staticKeyPair =>
      rcases List.mem_pair.1 hc with rfl | rfl
      · exact absurd hi (silent (unset hk) (by decide))
      · exact absurd hi (silent secret (by decide))
    | credentialsFile => exact absurd (List.mem_singleton.1 hc ▸ hi) (silent (unset hf) (by decide))
    | namedProfile => exact absurd (List.mem_singleton.1 hc ▸ hi) (silent (unset hp) (by decide))
  by_cases hd : p.IndicatesBase .default
  · exact h.hasBase hd
  · exact .inr ⟨fun c hc ↦ hd (only c hc ▸ hc), rfl⟩

/-- The secret half of a pair is the text that its field holds, also when it is empty. -/
theorem getD_secretValue {s : String} (h : p.text .secretKey = some s) :
    p.secretValue.getD "" = s := by
  unfold secretValue
  rw [h]
  by_cases hs : s = "" <;> simp [Option.filter, hs]

/-- **The selected base is the one that is indicated**, whatever the order in which selection asks
for the bases. -/
theorem Valid.describesBase_selectBase (h : p.Valid) :
    ∃ b, p.HasBase b ∧ p.DescribesBase b p.selectBase := by
  -- Whatever branch is taken, its own text indicates the base; the order of the branches plays no
  -- part since a valid set indicates one base only.
  unfold selectBase
  split
  · next ha =>
    have indicated := (flag_eq_true_iff (by decide)).1 ha
    exact ⟨_, h.hasBase ⟨_, List.mem_singleton.2 rfl, indicated⟩, .anonymous⟩
  · next ha =>
    split
    · next accessKey hk =>
      have together := h.isSet_eq (q := (.accessKey, .secretKey)) (by decide)
      obtain ⟨s, hs⟩ := isSet_eq_true_iff.1 (together.symm.trans (isSet_eq_true_iff.2 ⟨_, hk⟩))
      rw [getD_secretValue hs]
      exact ⟨_, h.hasBase_of_text (by decide) (by decide) hk, .staticKeyPair hk hs⟩
    · next hk =>
      split
      · next path hf =>
        exact ⟨_, h.hasBase_of_text (by decide) (by decide) hf, .credentialsFile hf⟩
      · next hf =>
        split
        · next profile hp =>
          exact ⟨_, h.hasBase_of_text (by decide) (by decide) hp, .namedProfile hp⟩
        · next hp =>
          have unsigned := mt (flag_eq_true_iff (by decide)).2 ha
          exact ⟨_, h.hasBase_default unsigned hk hf hp, .default⟩

/-- The proxy of a valid parameter set is there when both its parts are, and has them. -/
theorem Valid.proxy_spec (h : p.Valid) {proxy : Option Proxy} (hp : p.proxy = .ok proxy) :
    (proxy.isSome = true ↔ p.isSet .proxyHost = true ∧ p.isSet .proxyPort = true) ∧
      (∀ x, proxy = some x → p.text .proxyHost = some x.host) ∧
      ∀ x, proxy = some x → p.Denotes .proxyPort x.port := by
  have together := h.isSet_eq (q := (.proxyHost, .proxyPort)) (by decide)
  -- The host alone is looked at by the selection, and the pairing rule says the port is there too.
  unfold ParameterSet.proxy at hp
  split at hp
  · next hh =>
    obtain rfl := Except.ok.inj hp
    simp [isSet, hh]
  · next host hh =>
    have host_isSet : p.isSet .proxyHost = true := isSet_eq_true_iff.2 ⟨_, hh⟩
    have port_isSet := together.symm.trans host_isSet
    obtain ⟨n, hn⟩ := h.exists_port host_isSet
    have denoted := (h.number_eq_some_iff (by decide)).1 (expectNumber_eq_ok_iff.1 hn)
    rw [hn] at hp
    obtain rfl := Except.ok.inj hp
    refine ⟨by simp [host_isSet, port_isSet], ?_, ?_⟩
    · rintro x ⟨rfl⟩
      exact hh
    · rintro x ⟨rfl⟩
      exact denoted

/-- The request for a role that a valid parameter set selects is the described one, by the proxy
that was looked up. -/
theorem Valid.describesRole (h : p.Valid) {arn name : String} {proxy : Option Proxy}
    (ha : p.text .roleArn = some arn) (hn : p.text .roleSessionName = some name)
    (hp : p.proxy = .ok proxy) : p.DescribesRole (p.roleRequest arn name proxy) where
  arn := ha
  sessionName := hn
  maxSeconds := by
    cases hs : p.number .maxSeconds with
    | none =>
      exact .inr ⟨h.isSet_eq_false (by decide) hs, by simp [roleRequest, hs, defaultMaxSeconds]⟩
    | some n =>
      have denoted := (h.number_eq_some_iff (by decide)).1 hs
      exact .inl (by simpa [roleRequest, hs] using denoted)
  endpoint := rfl
  region := by
    show p.text .stsRegion = some p.region ∧ p.region ≠ "" ∨ _ ∧ p.region = _
    unfold region
    cases p.text .stsRegion with
    | none => simp [defaultRegion]
    | some s => by_cases hs : s = "" <;> simp [hs, defaultRegion]
  proxy_isSome := (h.proxy_spec hp).1
  proxyHost := (h.proxy_spec hp).2.1
  proxyPort := (h.proxy_spec hp).2.2

/-- **Selection from a valid parameter set goes by its description**, with a role or without, and by
a token or by a base. -/
theorem Valid.describes_of_select (h : p.Valid) {d : Descriptor} (hd : p.select = .ok d) :
    p.Describes d := by
  obtain ⟨proxy, hp⟩ := h.exists_proxy
  obtain ⟨b, hb, hbase⟩ := h.describesBase_selectBase
  unfold select at hd
  split at hd
  · next arn name ha hn =>
    have described := h.describesRole ha hn hp
    rw [hp] at hd
    obtain rfl := Except.ok.inj hd
    split
    · next token ht => exact .webIdentity described ht
    · next ht => exact .assumeRole described ht hb hbase
  · next incomplete =>
    obtain rfl := Except.ok.inj hd
    refine .base (fun hr ↦ ?_) hb hbase
    obtain ⟨arn, ha⟩ := isSet_eq_true_iff.1 hr.1
    obtain ⟨name, hn⟩ := isSet_eq_true_iff.1 hr.2
    exact incomplete arn name ha hn

/-! ### Sets without a violation -/

/-- A parameter set is valid when validation answers for it and finds no violation. -/
theorem valid_of_violations_eq_nil {report : Report} (h : p.validate = .ok report)
    (hv : report.validation.violations = []) : p.Valid := by
  obtain ⟨convertible, rfl⟩ := eq_of_validate_eq_ok h
  rw [violations_validation, List.map_eq_nil_iff] at hv
  exact ⟨convertible, hv⟩

/-- **Selection is total where validation finds nothing, and selects what the fields describe.**
In particular the port of a given host is there to be looked up. -/
theorem select_of_no_violation {p : ParameterSet} {report : Report} (h : p.validate = .ok report)
    (hv : report.validation.violations = []) :
    (p.isSet .proxyHost = true → ∃ n, p.expectNumber .proxyPort = .ok n) ∧
      ∃ d, p.select = .ok d ∧ report.validation = .accepted d ∧ ∀ d', p.Describes d' ↔ d' = d := by
  have valid := valid_of_violations_eq_nil h hv
  have described := valid.describes_of_select valid.select_eq
  refine ⟨valid.exists_port, valid.selected, valid.select_eq, ?_, fun d' ↦ ⟨fun h' ↦ ?_, ?_⟩⟩
  · obtain ⟨-, rfl⟩ := eq_of_validate_eq_ok h
    exact valid.validation_eq
  · exact h'.eq described
  · rintro rfl
    exact described

/-- A role over a key pair, by a proxy, with signs and leading zeros where they are allowed. -/
def proxiedRole : ParameterSet where
  text
    | .useDefault => some "FALSE"
    | .accessKey => some "AKIA"
    | .secretKey => some "secret"
    | .roleArn => some "arn:aws:iam::1:role/r"
    | .roleSessionName => some "session"
    | .maxSeconds => some "+0900"
    | .proxyHost => some "proxy"
    | .proxyPort => some "8080"
    | _ => none

/-- What validation says of `proxiedRole`: nothing is wrong with it. -/
def proxiedRoleReport : Report where
  validation := .accepted (.assumeRole
    { arn := "arn:aws:iam::1:role/r", sessionName := "session", maxSeconds := 900,
      proxy := some ⟨"proxy", 8080⟩ }
    none (.staticKeyPair "AKIA" "secret"))
  notices := [.selected .assumeRole]

theorem select_proxiedRole :
    proxiedRole.validate = .ok proxiedRoleReport ∧
      (proxiedRole.isSet .proxyHost = true → ∃ n, proxiedRole.expectNumber .proxyPort = .ok n) ∧
      ∃ d, proxiedRole.select = .ok d ∧ proxiedRoleReport.validation = .accepted d ∧
        ∀ d', proxiedRole.Describes d' ↔ d' = d :=
  have answered : proxiedRole.validate = .ok proxiedRoleReport := by decide
  ⟨answered, select_of_no_violation answered rfl⟩

end AwsCredentials.ParameterSet
