import AwsCredentials.Proofs.Parameters.Texts
import AwsCredentials.Proofs.Validation.Description

/-!
# Well-formed descriptors

A descriptor is well-formed when all its texts are trimmed, its times and ports lie in their ranges
and its roles are assumed with a base that signs (`Descriptor.WellFormed`). Such a base is one of
four and no role (`Descriptor.IsSigningBase`), so a well-formed descriptor is not nested any deeper.

**What trimmed texts describe is well-formed** if they make a valid set (`Describes.wellFormed`).
Trimmed texts pass into the descriptor as they are, the ranges are what the rules for them leave,
and that the base of a role signs is the rule `Rule.signingBase`.
-/

namespace AwsCredentials

/-! ### The definition -/

/-- A proxy with a trimmed host and a port in its range, as a valid set of trimmed texts has it. -/
structure Proxy.WellFormed (x : Proxy) : Prop where
  /-- The host is trimmed. -/
  host : Text.IsTrimmed x.host
  /-- The port is in its range. -/
  port : 1 ≤ x.port ∧ x.port ≤ 65535

/-- A request for a role with trimmed texts and a time in its range. -/
structure RoleRequest.WellFormed (role : RoleRequest) : Prop where
  /-- The role is trimmed. -/
  arn : Text.IsTrimmed role.arn
  /-- The name of the session is a trimmed text. -/
  sessionName : Text.IsTrimmed role.sessionName
  /-- The time is in its range. -/
  maxSeconds : 900 ≤ role.maxSeconds ∧ role.maxSeconds ≤ 3600
  /-- The endpoint is trimmed, if there is one. -/
  endpoint : ∀ s, role.endpoint = some s → Text.IsTrimmed s
  /-- The region is trimmed. -/
  region : Text.IsTrimmed role.region
  /-- The proxy is well-formed, if there is one. -/
  proxy : ∀ x, role.proxy = some x → x.WellFormed

namespace Descriptor

/-- A base with trimmed texts that signs its requests. -/
inductive IsSigningBase : Descriptor → Prop
  /-- The default. -/
  | default : IsSigningBase .default
  /-- A key pair with trimmed halves. -/
  | staticKeyPair {a s : String} (ha : Text.IsTrimmed a) (hs : Text.IsTrimmed s) :
      IsSigningBase (.staticKeyPair a s)
  /-- A file with a trimmed path. -/
  | credentialsFile {path : String} (h : Text.IsTrimmed path) :
      IsSigningBase (.credentialsFile path)
  /-- A profile with a trimmed name. -/
  | namedProfile {profile : String} (h : Text.IsTrimmed profile) :
      IsSigningBase (.namedProfile profile)

/-- A descriptor with trimmed texts, times and ports in range, and roles over signing bases. -/
inductive WellFormed : Descriptor → Prop
  /-- No credentials. -/
  | anonymous : WellFormed .anonymous
  /-- A base that signs. -/
  | base {d : Descriptor} (h : d.IsSigningBase) : WellFormed d
  /-- A role over a base that signs. -/
  | assumeRole {role : RoleRequest} {externalId : Option String} {base : Descriptor}
      (hr : role.WellFormed) (hx : ∀ s, externalId = some s → Text.IsTrimmed s)
      (hb : base.IsSigningBase) : WellFormed (.assumeRole role externalId base)
  /-- A role by a token. -/
  | webIdentity {role : RoleRequest} {tokenFile : String} (hr : role.WellFormed)
      (ht : Text.IsTrimmed tokenFile) : WellFormed (.webIdentity role tokenFile)

end Descriptor

/-! ### Trimmed texts describe well-formed descriptors -/

namespace ParameterSet

variable {p : ParameterSet}

theorem DescribesBase.isSigningBase {b : Base} {d : Descriptor} (hp : p.IsTrimmed)
    (h : p.DescribesBase b d) (hb : b ≠ .anonymous) : d.IsSigningBase := by
  cases h with
  | default => exact .default
  | anonymous => exact absurd rfl hb
  | staticKeyPair ha hs => exact .staticKeyPair (hp _ _ ha) (hp _ _ hs)
  | credentialsFile h => exact .credentialsFile (hp _ _ h)
  | namedProfile h => exact .namedProfile (hp _ _ h)

theorem DescribesBase.wellFormed {b : Base} {d : Descriptor} (hp : p.IsTrimmed)
    (h : p.DescribesBase b d) : d.WellFormed := by
  by_cases hb : b = .anonymous
  · subst hb
    cases h
    exact .anonymous
  · exact .base (h.isSigningBase hp hb)

/-- The base that does not sign is not the default, so it is indicated by its flag. -/
theorem HasBase.indicates_useAnonymous (h : p.HasBase .anonymous) : p.Indicates .useAnonymous := by
  rcases h with h | ⟨-, h⟩
  · obtain ⟨f, hf, indicated⟩ := (h .anonymous).2 rfl
    exact List.mem_singleton.1 hf ▸ indicated
  · exact absurd h (by decide)

/-- In a valid parameter set, a role without a token has a base that signs. -/
theorem Valid.base_ne_anonymous (h : p.Valid) (hr : p.RequestsRole) (ht : p.text .tokenFile = none)
    {b : Base} (hb : p.HasBase b) : b ≠ .anonymous := by
  rintro rfl
  have no_token : p.isSet .tokenFile = false := by simp [isSet, ht]
  exact h.not_reports (r := .signingBase) (by decide)
    (.signingBase hb.indicates_useAnonymous hr no_token)

/-- In a valid parameter set, a role is assumed for a time in its range. -/
theorem DescribesRole.maxSeconds_mem {role : RoleRequest} (h : p.Valid)
    (hr : p.DescribesRole role) : 900 ≤ role.maxSeconds ∧ role.maxSeconds ≤ 3600 := by
  rcases hr.maxSeconds with denoted | ⟨-, hd⟩
  · have in_range : ¬(role.maxSeconds < 900 ∨ 3600 < role.maxSeconds) := fun out ↦
      h.not_reports (r := .seconds) (by decide) (.seconds denoted hr.requestsRole out)
    omega
  · omega

/-- In a valid parameter set, the port of a proxy is in its range. -/
theorem DescribesRole.port_mem {role : RoleRequest} (h : p.Valid) (hr : p.DescribesRole role)
    {x : Proxy} (hx : role.proxy = some x) : 1 ≤ x.port ∧ x.port ≤ 65535 := by
  have in_range : ¬(x.port < 1 ∨ 65535 < x.port) := fun out ↦
    h.not_reports (r := .port) (by decide) (.port (hr.proxyPort x hx) out)
  omega

theorem DescribesRole.wellFormed {role : RoleRequest} (h : p.Valid) (hp : p.IsTrimmed)
    (hr : p.DescribesRole role) : role.WellFormed where
  arn := hp _ _ hr.arn
  sessionName := hp _ _ hr.sessionName
  maxSeconds := hr.maxSeconds_mem h
  endpoint s hs := hp .stsEndpoint s (hr.endpoint ▸ hs)
  region := by
    rcases hr.region with ⟨hs, -⟩ | ⟨-, hd⟩
    · exact hp _ _ hs
    · rw [hd]
      decide
  proxy x hx := ⟨hp _ _ (hr.proxyHost x hx), hr.port_mem h hx⟩

/-- **What a valid set of trimmed texts describes is well-formed**, so nothing else can be selected
from mappings of texts. -/
theorem Describes.wellFormed {d : Descriptor} (h : p.Valid) (hp : p.IsTrimmed)
    (hd : p.Describes d) : d.WellFormed := by
  cases hd with
  | base _ _ hd => exact hd.wellFormed hp
  | assumeRole hr ht hb hd =>
    have signs := h.base_ne_anonymous hr.requestsRole ht hb
    exact .assumeRole (hr.wellFormed h hp) (hp _) (hd.isSigningBase hp signs)
  | webIdentity hr ht => exact .webIdentity (hr.wellFormed h hp) (hp _ _ ht)

end ParameterSet

end AwsCredentials
