import Onboarding.Proofs.Client.Requests
import Onboarding.Proofs.Url.Parameters

/-! # What a lookup asks for

The name of a repository goes into the query of a lookup as two parameters. They are written so that
no character of a name can be taken for a part of the query, and they stand at its end: whatever the
query of the base address holds, what is read from the query ends with the two names as they were
given (`Onboarding.Client.lookup_parameters_read_back`). So lookups for two repositories never have
one address.
-/

namespace Onboarding

/-- What a server is asked for tells the query. -/
theorem HttpRequest.query_eq_of_target_eq {left right : HttpRequest} (ofLeft : left.url.IsSettled)
    (ofRight : right.url.IsSettled) (same : left.target = right.target) :
    left.url.query = right.url.query := by
  have noMark {url : Url} (settled : url.IsSettled) : '?' ∉ url.target.path := fun member =>
    absurd (settled.target.unbroken_path '?' member).1 (by decide)
  have splits := congrArg (Url.splitFirst '?') same
  rw [HttpRequest.target, HttpRequest.target, Url.splitFirst_writePart (noMark ofLeft),
    Url.splitFirst_writePart (noMark ofRight)] at splits
  exact congrArg Prod.snd splits

namespace Client

variable {client : Client}

/-- The request of a lookup is read as the two names behind what the base brings into the query. -/
theorem exists_lookup_request (settled : client.base.IsSettled) :
    ∃ earlier, (client.base.query = none → earlier = []) ∧ ∀ org repo, ∃ request,
      client.request (.lookup org repo) = .ok request ∧ request.url.IsSettled ∧
        request.url.query.map Form.parse = some (earlier ++ [("org", org), ("repo", repo)]) := by
  -- the address does not depend on the names, so one lookup stands for all
  obtain ⟨address, isRead, leads⟩ := exists_address settled (isResource_resource (.lookup "" ""))
  have isSettled := Url.isSettled_of_ofChars isRead
  refine ⟨(address.query.map Form.parse).getD [], fun noQuery => ?_, fun org repo => ?_⟩
  · rw [leads.own_query noQuery]
    rfl
  · exact ⟨_, request_eq isRead, isSettled.appendParameters _,
      Url.parse_appendParameters address _⟩

/-- Parameters that end in an organization and a repository are the same only if these are. -/
theorem eq_of_ends_eq {earlier otherEarlier : List (String × String)}
    {org repo otherOrg otherRepo : String}
    (same : earlier ++ [("org", org), ("repo", repo)] =
      otherEarlier ++ [("org", otherOrg), ("repo", otherRepo)]) :
    org = otherOrg ∧ repo = otherRepo := by
  have ends := (List.append_inj' same rfl).2
  simpa using ends

/-- For every address of the service that was accepted, a lookup has a request, and what is read
from its query ends with the two names of the repository as they were given. They are all that is
read where the address has no query. So lookups that have one address, or ask a server for the same,
are for one repository, also where they go to services at different addresses. -/
theorem lookup_parameters_read_back {address : String} {client : Client}
    (accepted : ofText address = .ok client) :
    (∃ earlier, (client.base.query = none → earlier = []) ∧ ∀ org repo, ∃ request,
      client.request (.lookup org repo) = .ok request ∧
        request.url.query.map Form.parse = some (earlier ++ [("org", org), ("repo", repo)])) ∧
    ∀ otherAddress other, ofText otherAddress = .ok other →
      ∀ org repo otherOrg otherRepo request otherRequest,
        client.request (.lookup org repo) = .ok request →
        other.request (.lookup otherOrg otherRepo) = .ok otherRequest →
        request.url.text = otherRequest.url.text ∨ request.target = otherRequest.target →
        org = otherOrg ∧ repo = otherRepo := by
  obtain ⟨earlier, ownQuery, requests⟩ := exists_lookup_request (isSettled_of_ofText accepted)
  refine ⟨⟨earlier, ownQuery, fun org repo => ?_⟩, ?_⟩
  · obtain ⟨request, isRequest, _, isRead⟩ := requests org repo
    exact ⟨request, isRequest, isRead⟩
  · intro otherAddress other otherAccepted org repo otherOrg otherRepo request otherRequest
      isRequest isOther same
    obtain ⟨otherEarlier, _, otherRequests⟩ :=
      exists_lookup_request (isSettled_of_ofText otherAccepted)
    obtain ⟨_, isFirst, settled, isRead⟩ := requests org repo
    obtain ⟨_, isSecond, otherSettled, otherRead⟩ := otherRequests otherOrg otherRepo
    cases Except.ok.inj (isFirst.symm.trans isRequest)
    cases Except.ok.inj (isSecond.symm.trans isOther)
    have sameQuery : request.url.query = otherRequest.url.query := by
      rcases same with sameText | sameTarget
      · rw [settled.text_inj otherSettled sameText]
      · exact HttpRequest.query_eq_of_target_eq settled otherSettled sameTarget
    rw [sameQuery, otherRead] at isRead
    exact (eq_of_ends_eq (Option.some.inj isRead)).imp Eq.symm Eq.symm

/-- Marks in the names of repositories do not make two of them one. -/
theorem lookup_parameters_read_back_local :
    let client : Client := ⟨localBase none⟩
    ofText "http://localhost:8080/api" = .ok client ∧
    ofText " http://localhost:8080/api " = .ok client ∧
    ∃ request other, client.request (.lookup "a&b" "=c +%#?/é") = .ok request ∧
      client.request (.lookup "a" "b&repo==c +%#?/é") = .ok other ∧
      request.url.query.map Form.parse = some [("org", "a&b"), ("repo", "=c +%#?/é")] ∧
      request.url.text ≠ other.url.text ∧ request.target ≠ other.target ∧
      ∀ org repo, client.request (.lookup org repo) = .ok request →
        org = "a&b" ∧ repo = "=c +%#?/é" := by
  intro client
  have noQuery : ∀ text ∈ (none : Option (List Char)),
      Percent.IsDone Percent.inSpecialQuery text := fun text isNone =>
    absurd isNone (Option.not_mem_none text)
  have accepted : ofText "http://localhost:8080/api" = .ok client :=
    ofText_localBase noQuery (by decide +kernel)
  have padded : ofText " http://localhost:8080/api " = .ok client :=
    ofText_localBase noQuery (by decide +kernel)
  obtain ⟨⟨earlier, ownQuery, requests⟩, toldApart⟩ := lookup_parameters_read_back accepted
  obtain ⟨request, isRequest, isRead⟩ := requests "a&b" "=c +%#?/é"
  obtain ⟨other, isOther, _⟩ := requests "a" "b&repo==c +%#?/é"
  have different : "a&b" ≠ "a" := by decide
  have apart := toldApart _ client padded _ _ _ _ request other isRequest isOther
  rw [ownQuery rfl] at isRead
  exact ⟨accepted, padded, request, other, isRequest, isOther, isRead,
    fun same => different (apart (.inl same)).1, fun same => different (apart (.inr same)).1,
    fun _ _ isLookup => toldApart _ client padded _ _ _ _ _ _ isLookup isRequest (.inl rfl)⟩

end Client

end Onboarding
