import AwsCredentials.Proofs.Validation.Description
import AwsCredentials.Proofs.Validation.Removal

/-!
# What a role by a token goes by

A role that is requested with a web identity token needs no base, and the base may nevertheless be
configured. Which fields it goes by is told in two ways: two parameter sets that say the same of a
role (`SameRole`) select the same, whatever their other fields hold (`SameRole.select_eq`); and if
the other fields are emptied (`stripped`), a valid parameter set stays valid (`Valid.stripped`).

The first is a matter of selection. The second is one of the rules, each of which could ask for a
base or for a field that is emptied. None does: what is emptied keeps pairs together and is neither
the role nor the token, and that is enough (`Valid.without`).
-/

namespace AwsCredentials.ParameterSet

/-- The fields that a role by a token ignores: those of the bases, and the external id. -/
def ignoredFields : List Field :=
  .externalId :: Rule.baseFields

/-- The fields that it takes the texts of. -/
def requestTexts : List Field :=
  [.roleArn, .roleSessionName, .tokenFile, .stsEndpoint, .stsRegion, .proxyHost]

/-- The fields that are neither ignored nor texts of the request are whole numbers. -/
theorem mem_ignoredFields_iff {f : Field} :
    f ∈ ignoredFields ↔ f ∉ requestTexts ∧ f ∉ Field.wholeNumbers := by
  cases f <;> decide

/-! ### Selection -/

variable {p q : ParameterSet} {arn name token : String}

/-- With a token, the base is not looked at: what is selected is the request, the proxy and the
token. -/
theorem select_of_token (ha : p.text .roleArn = some arn) (hn : p.text .roleSessionName = some name)
    (ht : p.text .tokenFile = some token) :
    p.select = p.proxy.map fun proxy ↦ .webIdentity (p.roleRequest arn name proxy) token := by
  rw [select, ha, hn, ht]

theorem exists_text_of_requestsRole (hr : p.RequestsRole) (ht : p.isSet .tokenFile = true) :
    ∃ arn name token, p.text .roleArn = some arn ∧ p.text .roleSessionName = some name ∧
      p.text .tokenFile = some token := by
  obtain ⟨arn, ha⟩ := isSet_eq_true_iff.1 hr.1
  obtain ⟨name, hn⟩ := isSet_eq_true_iff.1 hr.2
  obtain ⟨token, ht⟩ := isSet_eq_true_iff.1 ht
  exact ⟨arn, name, token, ha, hn, ht⟩

/-! ### The same role -/

/-- Two parameter sets say the same of a role, although the numbers may be written differently. -/
structure SameRole (p q : ParameterSet) : Prop where
  /-- The names, the endpoint, the region and the host are the same. -/
  text_eq : ∀ f ∈ requestTexts, p.text f = q.text f
  /-- The time and the port are the same. -/
  number_eq : ∀ f ∈ Field.wholeNumbers, p.number f = q.number f

namespace SameRole

variable (h : p.SameRole q)

include h

theorem isSet_eq {f : Field} (hf : f ∈ requestTexts) : p.isSet f = q.isSet f := by
  rw [isSet, isSet, h.text_eq f hf]

theorem requestsRole (hr : p.RequestsRole) : q.RequestsRole := by
  rwa [RequestsRole, ← h.isSet_eq (by decide), ← h.isSet_eq (by decide)]

theorem proxy_eq : p.proxy = q.proxy := by
  rw [proxy, proxy, expectNumber, expectNumber, h.text_eq .proxyHost (by decide),
    h.number_eq .proxyPort (by decide)]

theorem roleRequest_eq : p.roleRequest = q.roleRequest := by
  funext arn sessionName proxy
  rw [roleRequest, roleRequest, region, region, h.number_eq .maxSeconds (by decide),
    h.text_eq .stsEndpoint (by decide), h.text_eq .stsRegion (by decide)]

/-- **With a token, the same is selected** from two sets that say the same of a role. -/
theorem select_eq (hr : p.RequestsRole) (ht : p.isSet .tokenFile = true) : p.select = q.select := by
  obtain ⟨arn, name, token, ha, hn, ht⟩ := exists_text_of_requestsRole hr ht
  rw [select_of_token ha hn ht, h.proxy_eq, h.roleRequest_eq]
  rw [h.text_eq .roleArn (by decide)] at ha
  rw [h.text_eq .roleSessionName (by decide)] at hn
  rw [h.text_eq .tokenFile (by decide)] at ht
  rw [select_of_token ha hn ht]

end SameRole

/-! ### Without the ignored fields -/

/-- The parameter set in which the fields are emptied that a role by a token ignores. -/
def stripped (p : ParameterSet) : ParameterSet :=
  ⟨fun f ↦ if f ∈ ignoredFields then none else p.text f⟩

theorem stripped_eq (p : ParameterSet) : p.stripped = p.without ignoredFields :=
  rfl

/-- A stripped set says the same of the role, since none of the fields of a role is emptied. -/
theorem sameRole_stripped (p : ParameterSet) : p.SameRole p.stripped where
  text_eq f hf := (text_without_of_not_mem fun h ↦ (mem_ignoredFields_iff.1 h).1 hf).symm
  number_eq f hf := by
    have kept : f ∉ ignoredFields := fun h ↦ (mem_ignoredFields_iff.1 h).2 hf
    rw [stripped_eq, number, number, text_without_of_not_mem kept]

/-- **A valid parameter set stays valid** without its base and its external id, since no rule asks
for them. -/
theorem Valid.stripped (h : p.Valid) : p.stripped.Valid := by
  rw [stripped_eq]
  exact h.without (by decide) (by decide) (by decide)

end AwsCredentials.ParameterSet
