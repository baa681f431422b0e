import AwsCredentials.Descriptor
import AwsCredentials.Validation.Rules

/-!
# Selection

The descriptor that a parameter set selects. A requested role goes by its token when there is one
and else by the selected base; without a requested role the base is selected itself.

Selection reads the fields on its own and not the outcome of the rules.

* It asks for the bases in a fixed order; since the rules let at most one base through, the order
  makes no difference for a valid parameter set.
* It takes for granted that the port of a given host was read, and fails if it was not (`Unread`).
  For a valid parameter set it does not fail (`Valid.exists_select`), so such a set has a selected
  descriptor (`Valid.selected`).
-/

namespace AwsCredentials.ParameterSet

variable (p : ParameterSet)

/-- The failure to look up a number that was not read. That it cannot happen in a valid parameter
set is a theorem (`Valid.exists_select`). -/
structure Unread where
  /-- The field whose number was looked up. -/
  field : Field
deriving DecidableEq

/-- The selected base. Bases are tried in a fixed order, and the default one is left for a set that
indicates none. -/
def selectBase : Descriptor :=
  if p.flag .useAnonymous = some true then .anonymous
  else
    match p.text .accessKey with
    | some accessKey => .staticKeyPair accessKey (p.secretValue.getD "")
    | none =>
      match p.text .credentialsFile with
      | some path => .credentialsFile path
      | none =>
        match p.text .profileName with
        | some profile => .namedProfile profile
        | none => .default

/-- The number that a field says, for a reader who counts on it: there is a failure where the field
says none. -/
def expectNumber (f : Field) : Except Unread Int :=
  match p.number f with
  | some n => .ok n
  | none => .error ⟨f⟩

/-- The proxy that the fields give; its port is looked up only when its host is set. -/
def proxy : Except Unread (Option Proxy) :=
  match p.text .proxyHost with
  | none => .ok none
  | some host => (p.expectNumber .proxyPort).map fun port ↦ some ⟨host, port⟩

/-- The region that the fields give, an empty one counting as none. -/
def region : String :=
  match p.text .stsRegion with
  | some s => if s = "" then defaultRegion else s
  | none => defaultRegion

/-- The request for a role of the given name, for a session of the given name, by the given
proxy. -/
def roleRequest (arn sessionName : String) (proxy : Option Proxy) : RoleRequest where
  arn := arn
  sessionName := sessionName
  maxSeconds := (p.number .maxSeconds).getD defaultMaxSeconds
  endpoint := p.text .stsEndpoint
  region := p.region
  proxy := proxy

/-- The selected descriptor: a role if one is requested in full, with a token if there is one, or
else the selected base. -/
def select : Except Unread Descriptor :=
  match p.text .roleArn, p.text .roleSessionName with
  | some arn, some sessionName =>
    p.proxy.map fun proxy ↦
      match p.text .tokenFile with
      | some tokenFile => .webIdentity (p.roleRequest arn sessionName proxy) tokenFile
      -- Only a role that is assumed with a base has a use for the external id.
      | none =>
        .assumeRole (p.roleRequest arn sessionName proxy) (p.text .externalId) p.selectBase
  | _, _ => .ok p.selectBase

/-! ### Selection from a valid parameter set -/

variable {p}

theorem expectNumber_eq_ok_iff {f : Field} {n : Int} :
    p.expectNumber f = .ok n ↔ p.number f = some n := by
  unfold expectNumber
  cases p.number f <;> simp

/-- In a valid parameter set the port of a given host was read: the two are set together, and a port
that cannot be read is malformed. -/
theorem Valid.exists_port (h : p.Valid) (hh : p.isSet .proxyHost = true) :
    ∃ n, p.expectNumber .proxyPort = .ok n := by
  have together := h.isSet_eq (q := (.proxyHost, .proxyPort)) (by decide)
  obtain ⟨n, hn⟩ := h.exists_number (f := .proxyPort) (by decide) (together ▸ hh)
  exact ⟨n, expectNumber_eq_ok_iff.2 hn⟩

/-- Looking for the proxy of a valid parameter set does not fail, since the only look-up that could
is that of the port. -/
theorem Valid.exists_proxy (h : p.Valid) : ∃ proxy, p.proxy = .ok proxy := by
  unfold proxy
  cases hh : p.text .proxyHost with
  | none => exact ⟨none, rfl⟩
  | some host =>
    obtain ⟨n, hn⟩ := h.exists_port (isSet_eq_true_iff.2 ⟨host, hh⟩)
    exact ⟨some ⟨host, n⟩, by simp [hn, Except.map]⟩

/-- **Selection from a valid parameter set succeeds.** Only the proxy is looked up in a way that can
fail. -/
theorem Valid.exists_select (h : p.Valid) : ∃ d, p.select = .ok d := by
  obtain ⟨proxy, hp⟩ := h.exists_proxy
  unfold select
  split
  · exact ⟨_, by rw [hp]; rfl⟩
  · exact ⟨_, rfl⟩

/-- The descriptor that a valid parameter set selects, taken from the proof that there is one. -/
def Valid.selected (h : p.Valid) : Descriptor :=
  match hd : p.select with
  | .ok d => d
  | .error _ => absurd h.exists_select (by simp [hd])

theorem Valid.select_eq (h : p.Valid) : p.select = .ok h.selected := by
  unfold selected
  split
  · assumption
  · next hd => exact absurd h.exists_select (by simp [hd])

end AwsCredentials.ParameterSet
