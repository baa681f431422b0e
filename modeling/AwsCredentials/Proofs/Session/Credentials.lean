import AwsCredentials.Proofs.Basic
import AwsCredentials.Proofs.Dictionary
import AwsCredentials.Session.Build

/-!
# The credentials of a response

Which responses give temporary credentials, and which ones, said over the members of the response
itself (`Datum.GivesCredentials`): the response is an object with credentials, and the credentials
are an object with an access key id, a secret access key and a session token. Of several members of
one name the first counts (`Datum.HasMember`), and what a member holds is not looked at.

Which response a call gets is said over the script of answers (`World.Responds`).

The look-ups that a session is opened after are laid on these two: they find what the response gives
(`temporaryArguments_eq_ok_iff`), and fail where it gives nothing.
-/

namespace AwsCredentials.Session

open Dictionary (FirstUnder)

/-! ### Members -/

namespace Datum

/-- The data is an object, and its first member of this name holds this. -/
def HasMember (d : Datum) (name : String) (v : Datum) : Prop :=
  ∃ members, d = .object members ∧ FirstUnder (· = name) members v

variable {d v : Datum} {name : String}

/-- **A look-up finds the first member of a name, and only in an object.** -/
theorem member_eq_ok_iff : d.member name = .ok v ↔ d.HasMember name v := by
  cases d with
  | object members =>
    have first : FirstUnder (· = name) members v ↔ _ :=
      (Dictionary.find?_eq_some_iff (P := (· = name))).symm
    simp only [HasMember, object.injEq, exists_eq_left', first, member]
    cases members.find? fun m ↦ m.1 = name <;> simp
  | null | bool | whole | fraction | text | list => simp [HasMember, member]

/-- A response gives the arguments of a session: it holds credentials, and these hold the three
parts of the arguments. -/
inductive GivesCredentials (response : Datum) : SessionArguments → Prop
  /-- The arguments are temporary credentials. -/
  | temporary {credentials accessKeyId secretAccessKey sessionToken : Datum}
      (given : response.HasMember "Credentials" credentials)
      (keyId : credentials.HasMember "AccessKeyId" accessKeyId)
      (secret : credentials.HasMember "SecretAccessKey" secretAccessKey)
      (token : credentials.HasMember "SessionToken" sessionToken) :
      GivesCredentials response (.temporary accessKeyId secretAccessKey sessionToken)

end Datum

/-- **A session is opened with the credentials that the response gives**, and with no others. -/
theorem temporaryArguments_eq_ok_iff {response : Datum} {arguments : SessionArguments} :
    temporaryArguments response = .ok arguments ↔ response.GivesCredentials arguments := by
  simp only [temporaryArguments, bind_eq_ok_iff, Datum.member_eq_ok_iff]
  constructor
  · rintro ⟨credentials, given, i, keyId, s, secret, t, token, built⟩
    obtain rfl := Except.ok.inj built
    exact .temporary given keyId secret token
  · rintro ⟨given, keyId, secret, token⟩
    exact ⟨_, given, _, keyId, _, secret, _, token, rfl⟩

/-- Without credentials to open it with, no session is opened: a response that is at fault gives
none at all. -/
theorem not_givesCredentials_of_eq_error {response : Datum} {f : MemberFault}
    (h : temporaryArguments response = .error f) (arguments : SessionArguments) :
    ¬response.GivesCredentials arguments := by
  intro gives
  rw [temporaryArguments_eq_ok_iff.2 gives] at h
  simp at h

/-! ### Responses -/

namespace World

/-- The response to a call, or the error that it is refused with, by the number of the call. -/
def response (w : World) (k : Nat) : Except SdkError Datum :=
  match w.answer k with
  | .issue => .ok (issuedCredentials k)
  | .respond d => .ok d
  | .refuse e => .error e

/-- The `k`-th call gets this response, from the script or from beyond it. -/
inductive Responds (w : World) (k : Nat) : Datum → Prop
  /-- The script has the response. -/
  | scripted {d : Datum} (answer : w.answers[k]? = some (.respond d)) : Responds w k d
  /-- The script leaves the response to the service. -/
  | issued (answer : w.answers[k]? = some .issue) : Responds w k (issuedCredentials k)
  /-- The call is beyond the script. -/
  | beyond (answer : w.answers[k]? = none) : Responds w k (issuedCredentials k)

/-- **A call is answered as the script says.** -/
theorem response_eq_ok_iff {w : World} {k : Nat} {d : Datum} :
    w.response k = .ok d ↔ w.Responds k d := by
  rw [response, answer]
  constructor
  · intro h
    cases scripted : w.answers[k]? with
    | none =>
      rw [scripted] at h
      obtain rfl := Except.ok.inj h
      exact .beyond scripted
    | some answer =>
      rw [scripted] at h
      cases answer with
      | issue =>
        obtain rfl := Except.ok.inj h
        exact .issued scripted
      | respond d' =>
        obtain rfl := Except.ok.inj h
        exact .scripted scripted
      | refuse e => simp at h
  · rintro (scripted | scripted | scripted) <;> rw [scripted] <;> rfl

end World

end AwsCredentials.Session
