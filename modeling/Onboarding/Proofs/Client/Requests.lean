import Mathlib.Data.Bool.AllAny
import Onboarding.Proofs.Client.Resource
import Onboarding.Proofs.Url.Reading

/-! # Where requests go

The address of a request is made by putting a resource behind the text of the base address and
reading what that gives. For a base without a query and a fragment this is the resource under the
path of the base, at its host and port, whatever the base looks like otherwise. But the text of the
base ends with its query or its fragment, so the resource becomes a part of these where the base has
them, and the request goes to the base itself (`Onboarding.Client.requests_stay_at_base`).
-/

namespace Onboarding.Client

/-! ## A resource behind the text of a URL -/

section

variable {base : Url} {resource : List Char}

/-- The scheme of a base keeps its colon, so that slashes are dropped from what follows
only. -/
theorem trimSlashes_url (base : Url) :
    trimSlashes base.write =
      base.scheme ++ ':' :: trimSlashes (base.target.write ++ Url.writePart '?' base.query ++
        Url.writePart '#' base.fragment) := by
  rw [← trimSlashes_append_mark (by decide)]
  simp [Url.write]

/-- Nothing is dropped from the text of a settled URL with a resource behind it. -/
theorem significant_under (settled : base.IsSettled) (isResource : IsResource resource) :
    Url.significant (trimSlashes base.write ++ '/' :: resource) =
      trimSlashes base.write ++ '/' :: resource := by
  have done := (isResource.isSegment .general).done
  have inResource : ∀ c ∈ resource, Url.isMargin c = false := fun c member =>
    Text.char_cases_of_ascii (motive := fun c => Percent.inPath c = false →
      Url.isMargin c = false) (by decide +kernel) (done c member).2 (done c member).1
  refine Url.significant_eq_self (fun c begins => ?_) (fun c ends => ?_) ?_
  · obtain ⟨first, isFirst, isAlpha⟩ := settled.scheme.begins
    have isHead : c = first := by
      rw [trimSlashes_url, List.append_assoc, List.head?_append,
        Option.mem_def.mp isFirst] at begins
      exact (Option.some.inj begins).symm
    subst isHead
    refine Text.char_cases_of_ascii (motive := fun c => c.isAlpha = true →
      Url.isMargin c = false) (by decide +kernel) ?_ isAlpha
    exact toNat_lt_of_isAlphanum (by rw [Char.isAlphanum, isAlpha, Bool.true_or])
  · refine inResource c (List.mem_of_getLast? ?_)
    rwa [List.append_cons, List.getLast?_append_of_ne_nil _ isResource.ne_nil] at ends
  · refine List.forall_mem_append.mpr ⟨fun c member => ?_, List.forall_mem_cons.mpr ⟨by decide, ?_⟩⟩
    · exact settled.not_isDropped c ((trimSlashes_isPrefix _).subset member)
    · exact Url.not_isDropped_of_done done (by decide)

/-- Behind a base without a query and a fragment stands a resource of it. -/
theorem ofChars_under (settled : base.IsSettled) (isResource : IsResource resource)
    (noQuery : base.query = none) (noFragment : base.fragment = none) :
    ∃ reached, Url.ofChars (trimSlashes base.write ++ '/' :: resource) =
      .ok ⟨base.scheme, reached, none, none⟩ ∧ IsUnder base.target resource reached := by
  obtain ⟨reached, isRead, isUnder⟩ := exists_isUnder settled.target isResource
  have text : trimSlashes base.write ++ '/' :: resource =
      base.scheme ++ ':' :: (trimSlashes base.target.write ++ '/' :: resource) := by
    rw [trimSlashes_url, noQuery, noFragment]
    simp [Url.writePart]
  have unbroken : Url.IsUnbroken (trimSlashes base.target.write ++ '/' :: resource) :=
    Percent.IsDone.append (fun c member =>
      settled.target.unbroken c ((trimSlashes_isPrefix _).subset member)) isResource.unbroken
  have noHash : '#' ∉ trimSlashes base.target.write ++ '/' :: resource := fun member =>
    absurd (unbroken '#' member).1 (by decide)
  have noQuestion : '?' ∉ trimSlashes base.target.write ++ '/' :: resource := fun member =>
    absurd (unbroken '?' member).1 (by decide)
  have target : Url.readTarget (.ofScheme base.scheme)
      (trimSlashes base.target.write ++ '/' :: resource) = .ok reached := isRead
  refine ⟨reached, ?_, isUnder⟩
  rw [text, Url.ofChars_eq (settled.scheme.readScheme?_append _),
    Url.splitFirst_of_not_mem noHash, Url.splitFirst_of_not_mem noQuestion, target]
  rfl

/-- What stands behind a part of a URL is encoded like the part. -/
theorem isDone_under {encoded : Char → Bool} {part : List Char} (done : Percent.IsDone encoded part)
    (slash : encoded '/' = false) (ofResource : ∀ c ∈ resource, encoded c = false)
    (isResource : IsResource resource) :
    Percent.IsDone encoded (trimSlashes part ++ '/' :: resource) := by
  refine Percent.IsDone.append (fun c member => done c ((trimSlashes_isPrefix _).subset member)) ?_
  exact List.forall_mem_cons.mpr ⟨⟨slash, by decide⟩, fun c member =>
    ⟨ofResource c member, (isResource.inQuery c member).2⟩⟩

/-- The query of a base takes what stands behind it. -/
theorem ofChars_inQuery (settled : base.IsSettled) (isResource : IsResource resource)
    {query : List Char} (given : base.query = some query) (noFragment : base.fragment = none) :
    Url.ofChars (trimSlashes base.write ++ '/' :: resource) =
      .ok { base with query := some (trimSlashes query ++ '/' :: resource) } := by
  have done : Percent.IsDone (Url.inQueryOf base.kind) (trimSlashes query ++ '/' :: resource) :=
    isDone_under (settled.query query given) (Url.inQueryOf_eq_false (by decide))
      (fun c member => Url.inQueryOf_eq_false (isResource.inQuery c member).1) isResource
  have after : Url.IsSettled { base with query := some (trimSlashes query ++ '/' :: resource) } :=
    ⟨settled.scheme, settled.target, fun part isPart => Option.some.inj isPart ▸ done,
      settled.fragment⟩
  have text : trimSlashes base.write ++ '/' :: resource =
      Url.write { base with query := some (trimSlashes query ++ '/' :: resource) } := by
    have written : base.write = base.scheme ++ ':' :: base.target.write ++ '?' :: query := by
      simp [Url.write, given, noFragment, Url.writePart]
    rw [written, trimSlashes_append_mark (by decide)]
    simp [Url.write, noFragment, Url.writePart]
  rw [text, after.ofChars_write]

/-- The fragment of a base takes what stands behind it. -/
theorem ofChars_inFragment (settled : base.IsSettled) (isResource : IsResource resource)
    {fragment : List Char} (given : base.fragment = some fragment) :
    Url.ofChars (trimSlashes base.write ++ '/' :: resource) =
      .ok { base with fragment := some (trimSlashes fragment ++ '/' :: resource) } := by
  have done : Percent.IsDone Percent.inFragment (trimSlashes fragment ++ '/' :: resource) := by
    refine isDone_under (settled.fragment fragment given) (by decide) (fun c member => ?_)
      isResource
    exact (Bool.or_eq_false_iff.mp ((isResource.isSegment .general).done c member).1).1
  have after :
      Url.IsSettled { base with fragment := some (trimSlashes fragment ++ '/' :: resource) } :=
    ⟨settled.scheme, settled.target, settled.query, fun part isPart =>
      Option.some.inj isPart ▸ done⟩
  have text : trimSlashes base.write ++ '/' :: resource =
      Url.write { base with fragment := some (trimSlashes fragment ++ '/' :: resource) } := by
    have written : base.write = base.scheme ++ ':' :: base.target.write ++
        Url.writePart '?' base.query ++ '#' :: fragment := by
      simp [Url.write, given, Url.writePart]
    rw [written, trimSlashes_append_mark (by decide)]
    simp [Url.write, Url.writePart]
  rw [text, after.ofChars_write]

/-- Where the text of a base with a resource behind it leads. -/
structure LeadsTo (base : Url) (resource : List Char) (address : Url) : Prop where
  scheme : address.scheme = base.scheme
  host : address.target.host? = base.target.host?
  port : address.target.port? = base.target.port?
  under : base.query = none → base.fragment = none →
    address.target.path = trimSlashes base.target.path ++ '/' :: resource ∧
      address.fragment = none
  own_query : base.query = none → address.query = none
  in_query : ∀ query, base.query = some query → base.fragment = none →
    address.target = base.target ∧ address.query = some (trimSlashes query ++ '/' :: resource)
  in_fragment : ∀ fragment, base.fragment = some fragment →
    address.target = base.target ∧
      address.fragment = some (trimSlashes fragment ++ '/' :: resource)

/-- The text of a settled base with a resource behind it leads somewhere. -/
theorem exists_address (settled : base.IsSettled) (isResource : IsResource resource) :
    ∃ address, Url.ofChars (Url.significant (trimSlashes base.write ++ '/' :: resource)) =
      .ok address ∧ LeadsTo base resource address := by
  rw [significant_under settled isResource]
  cases givenFragment : base.fragment with
  | some fragment =>
      refine ⟨_, ofChars_inFragment settled isResource givenFragment, {
        scheme := rfl, host := rfl, port := rfl
        under := fun _ noFragment => nomatch givenFragment.symm.trans noFragment
        own_query := id
        in_query := fun _ _ noFragment => nomatch givenFragment.symm.trans noFragment
        in_fragment := fun other given => ?_ }⟩
      cases Option.some.inj (givenFragment.symm.trans given)
      exact ⟨rfl, rfl⟩
  | none =>
      cases givenQuery : base.query with
      | some query =>
          refine ⟨_, ofChars_inQuery settled isResource givenQuery givenFragment, {
            scheme := rfl, host := rfl, port := rfl
            under := fun noQuery => nomatch givenQuery.symm.trans noQuery
            own_query := fun noQuery => nomatch givenQuery.symm.trans noQuery
            in_query := fun other given _ => ?_
            in_fragment := fun _ given => nomatch givenFragment.symm.trans given }⟩
          cases Option.some.inj (givenQuery.symm.trans given)
          exact ⟨rfl, rfl⟩
      | none =>
          obtain ⟨reached, isRead, isUnder⟩ :=
            ofChars_under settled isResource givenQuery givenFragment
          exact ⟨_, isRead, {
            scheme := rfl
            host := isUnder.host
            port := isUnder.port
            under := fun _ _ => ⟨isUnder.path, rfl⟩
            own_query := fun _ => rfl
            in_query := fun _ given => nomatch givenQuery.symm.trans given
            in_fragment := fun _ given => nomatch givenFragment.symm.trans given }⟩

end

/-! ## Requests -/

/-- The parameters of a call behind a query that is there already. -/
def further (call : Call) : List Char :=
  if (parameters call).isEmpty then [] else '&' :: Form.write (parameters call)

/-- Where the request of a call goes. It stays at the base, but the resource is a part of the query
or the fragment where the base has one. -/
structure Reaches (base : Url) (call : Call) (url : Url) : Prop where
  scheme : url.scheme = base.scheme
  host : url.target.host? = base.target.host?
  port : url.target.port? = base.target.port?
  under : base.query = none → base.fragment = none →
    url.target.path = trimSlashes base.target.path ++ '/' :: resource call ∧ url.fragment = none
  own_query : base.query = none →
    url.query.map Form.parse = if (parameters call).isEmpty then none else some (parameters call)
  in_query : ∀ query, base.query = some query → base.fragment = none →
    url.target = base.target ∧
      url.query = some (trimSlashes query ++ '/' :: resource call ++ further call)
  in_fragment : ∀ fragment, base.fragment = some fragment →
    url.target = base.target ∧ url.fragment = some (trimSlashes fragment ++ '/' :: resource call)

/-- A text is a resource if it needs no encoding, has no slash, is no dots and is longer
than a drive letter. -/
theorem isResource_of_plain {resource : List Char}
    (plain : ∀ c ∈ resource, (Percent.inPath c = false ∧ Percent.inSpecialQuery c = false) ∧
      c.toNat < 0x80 ∧ c ≠ '/' ∧ c ≠ '\\')
    (notDots : Path.isSingleDot resource = false ∧ Path.isDoubleDot resource = false)
    (long : 2 < resource.length) : IsResource resource where
  isSegment kind :=
    { done := fun c member => ⟨(plain c member).1.1, (plain c member).2.1⟩
      no_slash := fun c member => by
        simp [SchemeKind.isSlash, (plain c member).2.2.1, (plain c member).2.2.2]
      not_singleDot := notDots.1
      not_doubleDot := notDots.2 }
  inQuery c member := ⟨(plain c member).1.2, (plain c member).2.1⟩
  long := long

/-- The resources of all calls are such texts. -/
theorem isResource_resource (call : Call) : IsResource (resource call) := by
  have ofValidations : IsResource validations :=
    isResource_of_plain (List.all_iff_forall_prop.mp (by decide +kernel)) (by decide +kernel)
      (by decide)
  have ofConfigurations : IsResource configurations :=
    isResource_of_plain (List.all_iff_forall_prop.mp (by decide +kernel)) (by decide +kernel)
      (by decide)
  cases call <;> assumption

/-- The URL of a request: parameters stand behind the query of what was read. -/
def withParameters (url : Url) (call : Call) : Url :=
  if (parameters call).isEmpty then url else url.appendParameters (Form.write (parameters call))

/-- The request of a call goes where the base and the resource are read together. -/
theorem request_eq {client : Client} {call : Call} {url : Url}
    (isRead : Url.ofChars (Url.significant
      (trimSlashes client.base.write ++ '/' :: resource call)) = .ok url) :
    client.request call = .ok {
      method := if (body call).isSome then .post else .get
      url := withParameters url call
      headers := headers call
      body := body call } := by
  rw [request, endpoint, isRead]
  rfl

/-- Parameters change nothing but the query. -/
theorem withParameters_parts (url : Url) (call : Call) :
    (withParameters url call).scheme = url.scheme ∧
      (withParameters url call).target = url.target ∧
      (withParameters url call).fragment = url.fragment := by
  unfold withParameters
  split <;> exact ⟨rfl, rfl, rfl⟩

/-- Where there was no query, the parameters are read back from it. -/
theorem query_withParameters_none (url : Url) (call : Call) (noQuery : url.query = none) :
    (withParameters url call).query.map Form.parse =
      if (parameters call).isEmpty then none else some (parameters call) := by
  unfold withParameters
  split
  · rw [noQuery, Option.map_none]
  · simp [Url.appendParameters, noQuery, Form.parse_write]

/-- Where there was a query, the parameters stand behind it. -/
theorem query_withParameters_some {url : Url} {query : List Char} (given : url.query = some query)
    (present : query ≠ []) (call : Call) :
    (withParameters url call).query = some (query ++ further call) := by
  unfold withParameters further
  split
  · rw [given, List.append_nil]
  · cases query with
    | nil => exact absurd rfl present
    | cons first others => simp [Url.appendParameters, given]

/-- Every call has a request, and it goes to the address that its resource leads to. -/
theorem exists_request {client : Client} (settled : client.base.IsSettled) (call : Call) :
    ∃ request, client.request call = .ok request ∧ Reaches client.base call request.url := by
  obtain ⟨address, isRead, leads⟩ := exists_address settled (isResource_resource call)
  obtain ⟨scheme, target, fragment⟩ := withParameters_parts address call
  refine ⟨_, request_eq isRead, {
    scheme := scheme.trans leads.scheme
    host := (congrArg UrlTarget.host? target).trans leads.host
    port := (congrArg UrlTarget.port? target).trans leads.port
    under := fun noQuery noFragment => ?_
    own_query := fun noQuery => query_withParameters_none address call (leads.own_query noQuery)
    in_query := fun query given noFragment => ?_
    in_fragment := fun part given => ?_ }⟩
  · obtain ⟨path, noMore⟩ := leads.under noQuery noFragment
    exact ⟨(congrArg UrlTarget.path target).trans path, fragment.trans noMore⟩
  · obtain ⟨sameTarget, inQuery⟩ := leads.in_query query given noFragment
    have present : trimSlashes query ++ '/' :: resource call ≠ [] :=
      List.append_ne_nil_of_right_ne_nil _ (List.cons_ne_nil _ _)
    exact ⟨target.trans sameTarget, query_withParameters_some inQuery present call⟩
  · obtain ⟨sameTarget, inFragment⟩ := leads.in_fragment part given
    exact ⟨target.trans sameTarget, fragment.trans inFragment⟩

/-- The base of a client has been read, and is settled therefore. -/
theorem isSettled_of_ofText {address : String} {client : Client}
    (accepted : ofText address = .ok client) : client.base.IsSettled := by
  obtain ⟨base, isBase, rfl⟩ := map_eq_ok_iff.mp accepted
  cases isRead : Url.parse address with
  | error reason =>
      rw [isRead] at isBase
      cases isBase
  | ok url =>
      rw [isRead] at isBase
      cases Except.ok.inj isBase
      exact Url.isSettled_of_ofChars isRead

/-- Every call to a service at an address that was accepted has a request. It goes to the scheme,
the host and the port of the address. Where the address has no query and no fragment it goes to the
resource under the path of the address, and its query is made of the parameters of the call. A query
or a fragment of the address takes the resource instead, and the path stays as it is. -/
theorem requests_stay_at_base {address : String} {client : Client}
    (accepted : ofText address = .ok client) (call : Call) :
    ∃ request, client.request call = .ok request ∧ Reaches client.base call request.url :=
  exists_request (isSettled_of_ofText accepted) call

/-- A base on the own machine, as `http://localhost:8080/api`. -/
def localBase (query : Option (List Char)) : Url where
  scheme := "http".toList
  target := .hosted ⟨none, .domain "localhost".toList, some 8080⟩ ["api".toList]
  query
  fragment := none

/-- A base with a query of its own is settled. -/
theorem isSettled_localBase {query : Option (List Char)}
    (done : ∀ text ∈ query, Percent.IsDone Percent.inSpecialQuery text) :
    (localBase query).IsSettled := by
  have isName := Domain.read?_joinWith (List.cons_ne_nil "localhost".toList [])
    (Domain.areLabels_of_plain (List.forall_mem_singleton.mpr (List.all_eq_true.mp rfl))
      (List.forall_mem_singleton.mpr rfl))
  have settled : Domain.read? "localhost".toList = some "localhost".toList := by
    rwa [Text.joinWith] at isName
  have host : (Host.domain "localhost".toList).IsNamed := .domain (by decide) settled (by decide)
  have isPath : Path.IsPath (.service 80) ["api".toList] :=
    Path.isPath_singleton
      { done := List.all_iff_forall_prop.mp (by decide +kernel)
        no_slash := List.all_iff_forall_prop.mp (by decide +kernel)
        not_singleDot := by decide +kernel
        not_doubleDot := by decide +kernel } fun isFile => SchemeKind.noConfusion isFile
  have scheme : IsScheme "http".toList :=
    ⟨⟨'h', rfl, rfl⟩, List.all_iff_forall_prop.mp (by decide +kernel)⟩
  refine ⟨scheme, .service ⟨?_, .service host, ?_, ?_⟩ isPath ?_, ?_, ?_⟩
  · exact fun user isNone => absurd isNone (Option.not_mem_none user)
  · decide
  · exact fun isEmpty => Host.noConfusion isEmpty
  · exact List.cons_ne_nil _ _
  · exact done
  · exact fun fragment isNone => absurd isNone (Option.not_mem_none fragment)

/-- A client is accepted with a base that is settled. -/
theorem ofText_localBase {address : String} {query : Option (List Char)}
    (done : ∀ text ∈ query, Percent.IsDone Percent.inSpecialQuery text)
    (written : Url.significant address.toList = (localBase query).write) :
    ofText address = .ok ⟨localBase query⟩ := by
  rw [ofText, Url.parse, written, (isSettled_localBase done).ofChars_write]
  rfl

/-- The base that is meant when none is given. -/
theorem requests_stay_at_base_local :
    let client : Client := ⟨localBase none⟩
    ofText "http://localhost:8080/api" = .ok client ∧
    ∃ request, client.request (.lookup "openshift" "my repo") = .ok request ∧
      request.url.target.path = "/api/configs".toList ∧
      request.url.query.map Form.parse = some [("org", "openshift"), ("repo", "my repo")] := by
  intro client
  have accepted : ofText "http://localhost:8080/api" = .ok client :=
    ofText_localBase (fun text isNone => absurd isNone (Option.not_mem_none text))
      (by decide +kernel)
  obtain ⟨request, isRequest, reaches⟩ :=
    requests_stay_at_base accepted (.lookup "openshift" "my repo")
  have under : request.url.target.path =
      trimSlashes client.base.target.path ++ '/' :: configurations := (reaches.under rfl rfl).1
  exact ⟨accepted, request, isRequest, under.trans (by decide), reaches.own_query rfl⟩

/-- The resource becomes a part of the query of a base. -/
theorem resource_is_lost_in_query :
    let call : Call := .lookup "openshift" "my repo"
    ∃ client request, ofText "http://localhost:8080/api?x=1" = .ok client ∧
      client.request call = .ok request ∧
      request.url.target.path ≠ trimSlashes client.base.target.path ++ '/' :: resource call ∧
      request.url.query = some "x=1/configs&org=openshift&repo=my+repo".toList := by
  intro call
  have done : ∀ text ∈ some "x=1".toList, Percent.IsDone Percent.inSpecialQuery text := by
    rintro text ⟨rfl⟩
    exact List.all_iff_forall_prop.mp (by decide +kernel)
  have settled := isSettled_localBase done
  have isResource := isResource_resource call
  have isRead := ofChars_inQuery settled isResource rfl rfl
  rw [← significant_under settled isResource] at isRead
  refine ⟨⟨localBase (some "x=1".toList)⟩, _, ofText_localBase done (by decide +kernel),
    request_eq isRead, ?_, ?_⟩
  · decide +kernel
  · decide +kernel

end Onboarding.Client
