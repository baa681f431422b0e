import AwsCredentials.Proofs.Endpoint.Host
import AwsCredentials.Proofs.Session.Execution

/-!
# Endpoints of clients

What becomes of an endpoint when a client of the token service is requested. Either it has a URL,
and that keeps the host of the endpoint (`Endpoint.KeepsHost`), or it has none. Then the request is
a fault of the provider and nothing is seen of it (`RefusedBeforeClient`).

**The empty endpoint is the exception** (`not_refusedBeforeClient_empty`): it has no URL either, but
it counts as no endpoint at all, so a client is requested, and for the endpoint that the SDK chooses
(`RequestsWithoutUrl`).
-/

namespace AwsCredentials.Session

open Endpoint (url KeepsHost)

/-- An endpoint without a URL comes to a fault of the provider, in the words of what is wrong with
the endpoint and raised from it, and no client is requested. -/
def RefusedBeforeClient (endpoint : String) : Prop :=
  ∀ f, url endpoint = .error f →
    ∀ (w : World) (role : RoleRequest) (unsigned : Bool) (session : Nat) (t : Trace),
      role.endpoint = some endpoint →
        ∃ problem : ProviderProblem,
          (requestClient w role unsigned session).startedAt t = (.error (.provider problem), t) ∧
            problem.message = f.message ∧ problem.cause? = some (.endpoint f)

/-- A client is requested in spite of an endpoint, and with no URL for one. -/
def RequestsWithoutUrl (endpoint : String) : Prop :=
  ∀ (w : World) (role : RoleRequest) (unsigned : Bool) (session : Nat) (t : Trace),
    role.endpoint = some endpoint →
      ((requestClient w role unsigned session).startedAt t).2 =
        t.record (.client session (clientRequest role unsigned none))

/-! ### Requesting a client -/

variable {w : World} {role : RoleRequest} {unsigned : Bool} {session : Nat} {t : Trace}

/-- Without the URL of an endpoint that is named, nothing is seen of the request. -/
theorem startedAt_requestClient_of_error {f : Endpoint.Fault} (h : namedEndpoint role = .error f) :
    (requestClient w role unsigned session).startedAt t =
      (.error (.provider (.badEndpoint f)), t) := by
  have carried := carriesOut_requestClient w role unsigned session (t := t)
  rw [CarriesOut, clientStep, h] at carried
  simpa [carryOut, Trace.extend, Except.map] using carried

/-- With the URL of an endpoint, or without an endpoint, the request is seen, whatever comes of
it. -/
theorem startedAt_requestClient_of_ok {u : Option String} (h : namedEndpoint role = .ok u) :
    ((requestClient w role unsigned session).startedAt t).2 =
      t.record (.client session (clientRequest role unsigned u)) := by
  have carried := carriesOut_requestClient w role unsigned session (t := t)
  rw [CarriesOut, clientStep, h] at carried
  rw [carried]
  cases w.clientError <;> simp [Step.taken, carryOut, Trace.extend, Trace.record]

/-! ### Endpoints with a URL, without one, and empty ones -/

theorem refusedBeforeClient {endpoint : String} (hne : endpoint ≠ "") :
    RefusedBeforeClient endpoint := by
  intro f hf w role unsigned session t named
  have refused : namedEndpoint role = .error f := by
    rw [namedEndpoint, named]
    simp only [if_neg hne, hf]
    rfl
  exact ⟨.badEndpoint f, startedAt_requestClient_of_error refused, rfl, rfl⟩

theorem requestsWithoutUrl_empty : RequestsWithoutUrl "" := by
  intro w role unsigned session t named
  have unnamed : namedEndpoint role = .ok none := by
    rw [namedEndpoint, named]
    exact if_pos rfl
  exact startedAt_requestClient_of_ok unnamed

/-- A role that is asked for at an endpoint, with all else left as it is when nothing is said. -/
def roleAt (endpoint : String) : RoleRequest :=
  { arn := "arn", sessionName := "s", endpoint := some endpoint }

/-- **The empty endpoint has no URL, and a client is requested all the same.** -/
theorem not_refusedBeforeClient_empty :
    url "" = .error (.noHost "") ∧ ¬RefusedBeforeClient "" := by
  have refused : url "" = .error (.noHost "") := by rfl
  refine ⟨refused, fun h ↦ ?_⟩
  obtain ⟨problem, unseen, -⟩ :=
    h _ refused ⟨.empty, none, none, []⟩ (roleAt "") false 0 .empty rfl
  have seen := requestsWithoutUrl_empty ⟨.empty, none, none, []⟩ (roleAt "") false 0 .empty rfl
  rw [unseen] at seen
  have none_is_one : 0 = 1 := congrArg (fun t ↦ t.events.length) seen
  exact absurd none_is_one (by decide)

/-- **The URL of an endpoint keeps its host**: the URLs are exactly the texts that do. An endpoint
without one is refused before a client is requested, unless it is empty. -/
theorem url_keepsHost (endpoint : String) :
    (∀ u, url endpoint = .ok u ↔
        ∃ scheme authority, KeepsHost endpoint.toList u.toList scheme authority) ∧
      (endpoint ≠ "" → RefusedBeforeClient endpoint) ∧
      (endpoint = "" → RequestsWithoutUrl endpoint) := by
  refine ⟨fun u ↦ Endpoint.url_eq_ok_iff, refusedBeforeClient, ?_⟩
  rintro rfl
  exact requestsWithoutUrl_empty

/-- A URL that begins with a blank and names a user and a port, an endpoint without a host, and the
empty one. -/
theorem url_keepsHost_user :
    (∃ scheme authority,
      KeepsHost " http://u@h:1/p//".toList " http://u@h:1/p".toList scheme authority) ∧
    ("https://" ≠ "" ∧ RefusedBeforeClient "https://") ∧ RequestsWithoutUrl "" := by
  have accepted : url " http://u@h:1/p//" = .ok " http://u@h:1/p" := by rfl
  exact ⟨((url_keepsHost " http://u@h:1/p//").1 _).1 accepted,
    ⟨by decide, (url_keepsHost "https://").2.1 (by decide)⟩, (url_keepsHost "").2.2 rfl⟩

end AwsCredentials.Session
