import Onboarding.Client
import Onboarding.Proofs.Record
import Onboarding.Proofs.Session.Operation

/-! # What comes back for a call, and what the user is told

Over the web a call is answered by a response, or there is none. For each kind of call one
kind of response lets things go on (`Onboarding.Reply.Affirms`): a lookup has to find
nothing, the body of a validation has to show a positive verdict, and a generation has to
come about. To everything else belongs one complaint (`Onboarding.Reply.Complains`).

Sessions fail closed: whatever is done, and whatever comes back, a stage is complete behind a
call only if the response is the one that lets things go on, and otherwise the record holds
the complaint and nothing else (`Onboarding.Session.calls_fail_closed`).
-/

namespace Onboarding

/-- What comes of sending a call: a response, or the reason why there is none. -/
abbrev Reply := Except ServiceError HttpResponse

/-- The body of a response is the text of a verdict. Neither the status matters nor the encoding
that is declared. -/
def HttpResponse.Shows (response : HttpResponse) (verdict : Verdict) : Prop :=
  ∃ bytes, response.body = some bytes ∧
    Json.readBytes? (Verdict.read Json.Draft.source) bytes = .ok verdict

namespace Reply

/-- A reply lets things go on after a call. -/
def Affirms (reply : Reply) : Call → Prop
  | .validate _ _ _ =>
    ∃ response verdict, reply = .ok response ∧ response.Shows verdict ∧ verdict.valid = true
  | .convert _ =>
    ∃ response text, reply = .ok response ∧ response.isSuccess = true ∧
      response.text? = some text
  | .generate _ _ _ =>
    ∃ response text, reply = .ok response ∧ response.status = HttpResponse.okStatus ∧
      response.text? = some text
  | .lookup _ _ =>
    ∃ response, reply = .ok response ∧ response.status = HttpResponse.notFoundStatus

/-- What the user is told about a call after a reply that does not let things go on. -/
inductive Complains (reply : Reply) : Call → List String → Prop
  | exists {response : HttpResponse} {org repo : String} (replied : reply = .ok response)
      (status : response.status = HttpResponse.okStatus) :
      Complains reply (.lookup org repo) [Notice.configurationExists.text]
  | lookupFailed {org repo : String}
      (otherwise : ∀ response, reply = .ok response → response.status ≠ HttpResponse.okStatus) :
      Complains reply (.lookup org repo) [Notice.lookupFailed.text]
  | findings {response : HttpResponse} {verdict : Verdict} {findings : List Finding}
      {scope : Scope} {document : Document} {extra : Extra} (replied : reply = .ok response)
      (shown : response.Shows verdict) (found : verdict.findings = some findings)
      (some : findings ≠ []) :
      Complains reply (.validate scope document extra) (findings.map (·.message))
  | summary {response : HttpResponse} {verdict : Verdict} {scope : Scope} {document : Document}
      {extra : Extra} (replied : reply = .ok response) (shown : response.Shows verdict)
      (noFindings : verdict.findings.getD [] = []) :
      Complains reply (.validate scope document extra) [verdict.summary.getD ""]
  | noVerdict {scope : Scope} {document : Document} {extra : Extra}
      (unreadable : ∀ response verdict, reply = .ok response → ¬response.Shows verdict) :
      Complains reply (.validate scope document extra) [Notice.serviceUnavailable.text]
  | notRendered {document : Document} :
      Complains reply (.convert document) [Notice.serviceUnavailable.text]
  | notGenerated {document : Document} {caller : Caller} {pullRequest : Bool} :
      Complains reply (.generate document caller pullRequest) [Notice.serviceUnavailable.text]

end Reply

/-- A member that names no field of a record is passed over wherever it stands, if it is well
formed. -/
theorem Json.Draft.readRecord_passedOver {ρ : Type} {shape : Record Draft Fault ρ} {key : String}
    {content : Draft} (isNone : shape.field? key = none) (isKeyed : content.keyed = .ok ())
    (wellFormed : content.wellFormed = true) (before after : List (String × Draft))
    (stray : Option Draft) :
    readRecord shape (.object (before ++ (key, content) :: after) stray) =
      readRecord shape (.object (before ++ after) stray) := by
  have skips : content.skip = .ok () := if_pos wellFormed
  have visited (filling : Filling ρ) :
      shape.visit (.misfit <| .duplicateField ·) skip filling key content = .ok filling :=
    Record.visit_skipped isNone skips
  unfold readRecord
  simp only [List.foldlM_append, List.foldlM_cons, isKeyed, visited]
  rfl

namespace Client

/-- Another reason for a failure does not change what succeeds. -/
theorem mapError_eq_ok_iff {ε δ α : Type} {reason : ε → δ} {result : Except ε α} {value : α} :
    result.mapError reason = .ok value ↔ result = .ok value := by
  cases result with
  | error error => exact ⟨nofun, nofun⟩
  | ok found =>
      change Except.ok found = Except.ok value ↔ _
      rw [Except.ok.injEq, Except.ok.injEq]

/-- A client comes to the verdict that a response shows, and to no other. -/
theorem verdict_eq_ok_iff {response : HttpResponse} {shown : Verdict} :
    verdict response = .ok shown ↔ response.Shows shown := by
  unfold verdict HttpResponse.Shows
  cases response.body with
  | none => simp
  | some bytes => simp only [Option.some.injEq, exists_eq_left', mapError_eq_ok_iff]

/-- Of what is said besides a verdict, nothing needs to be a text. -/
example :
    let body := "\x7b\"valid\":true,\"x\":\"".toUTF8.data.toList ++ [0xFF] ++
      "\"\x7d".toUTF8.data.toList
    (verdict { status := 500, body := some body }).toOption = some Verdict.accepted := by
  decide +kernel

/-- A client comes to a text if the response is one it expects and holds a text. -/
theorem text_isOk_iff {isExpected : HttpResponse → Bool} {response : HttpResponse} :
    (text isExpected response).isOk = true ↔
      isExpected response = true ∧ ∃ shown, response.text? = some shown := by
  unfold text
  cases isExpected response with
  | false => simp [Except.isOk, Except.toBool]
  | true =>
      cases response.text? with
      | none => simp [Except.isOk, Except.toBool]
      | some shown => simp [Except.isOk, Except.toBool]

variable {client : Client} {transport : List Call → Transport} {asked : List Call} {call : Call}

/-- What the service over the web makes of a call is what its reply says. -/
theorem affirms_service_iff :
    (client.service transport).affirms asked call = true ↔
      Reply.Affirms (client.exchange (transport asked) call) call := by
  cases call with
  | validate scope document extra =>
      simp only [Service.affirms, service, Reply.Affirms]
      cases client.exchange (transport asked) (.validate scope document extra) with
      | error _ => simp [bind, Except.bind]
      | ok response =>
          simp only [bind, Except.bind, ← verdict_eq_ok_iff]
          cases isVerdict : verdict response with
          | error _ => simp [isVerdict]
          | ok shown => simp [isVerdict]
  | convert document =>
      simp only [Service.affirms, service, Reply.Affirms]
      cases client.exchange (transport asked) (.convert document) with
      | error _ => simp [bind, Except.bind, Except.isOk, Except.toBool]
      | ok response => simp [bind, Except.bind, text_isOk_iff]
  | generate document caller pullRequest =>
      simp only [Service.affirms, service, Reply.Affirms]
      cases client.exchange (transport asked) (.generate document caller pullRequest) with
      | error _ => simp [bind, Except.bind, Except.isOk, Except.toBool]
      | ok response => simp [bind, Except.bind, text_isOk_iff]
  | lookup org repo =>
      simp only [Service.affirms, service, Reply.Affirms]
      cases client.exchange (transport asked) (.lookup org repo) with
      | error _ => simp [bind, Except.bind]
      | ok response =>
          simp only [bind, Except.bind, existence]
          by_cases absent : response.status = HttpResponse.notFoundStatus
          · simp [absent]
          · by_cases present : response.status = HttpResponse.okStatus
            · simp [present, HttpResponse.okStatus, HttpResponse.notFoundStatus]
            · simp [absent, present]

/-- A verdict that is shown explains itself by its findings, or else by its summary. -/
theorem complains_of_shown {response : HttpResponse} {verdict : Verdict}
    (shown : response.Shows verdict) (scope : Scope) (document : Document) (extra : Extra)
    (messages : List String) :
    Reply.Complains (.ok response) (.validate scope document extra) messages ↔
      messages = verdict.messages := by
  have unique {other : HttpResponse} {shownToo : Verdict}
      (replied : (Except.ok response : Reply) = .ok other) (isShown : other.Shows shownToo) :
      shownToo = verdict := by
    cases replied
    exact Except.ok.inj ((verdict_eq_ok_iff.mpr isShown).symm.trans (verdict_eq_ok_iff.mpr shown))
  constructor
  · intro complaint
    cases complaint with
    | findings replied isShown found nonempty =>
        cases unique replied isShown
        obtain ⟨finding, others, rfl⟩ := List.exists_cons_of_ne_nil nonempty
        rw [Verdict.messages, found]
    | summary replied isShown noFindings =>
        cases unique replied isShown
        unfold Verdict.messages
        cases found : verdict.findings with
        | none => rfl
        | some findings =>
            rw [found, Option.getD_some] at noFindings
            rw [noFindings]
            rfl
    | noVerdict unreadable => exact absurd shown (unreadable response verdict rfl)
  · rintro rfl
    unfold Verdict.messages
    split
    · rename_i finding others found
      exact .findings rfl shown found (List.cons_ne_nil finding others)
    · rename_i found
      exact .summary rfl shown (by rw [found, Option.getD_some])
    · rename_i found
      exact .summary rfl shown (by rw [found, Option.getD_none])

/-- Without a verdict the service counts as unavailable. -/
theorem complains_of_unreadable {reply : Reply}
    (unreadable : ∀ response verdict, reply = .ok response → ¬response.Shows verdict)
    (scope : Scope) (document : Document) (extra : Extra) (messages : List String) :
    Reply.Complains reply (.validate scope document extra) messages ↔
      messages = [Notice.serviceUnavailable.text] := by
  constructor
  · intro complaint
    cases complaint with
    | findings replied shown => exact absurd shown (unreadable _ _ replied)
    | summary replied shown => exact absurd shown (unreadable _ _ replied)
    | noVerdict => rfl
  · rintro rfl
    exact .noVerdict unreadable

/-- A configuration that is there is complained of as such. -/
theorem complains_of_existing {response : HttpResponse}
    (status : response.status = HttpResponse.okStatus) (org repo : String)
    (messages : List String) :
    Reply.Complains (.ok response) (.lookup org repo) messages ↔
      messages = [Notice.configurationExists.text] := by
  constructor
  · intro complaint
    cases complaint with
    | «exists» => rfl
    | lookupFailed otherwise => exact absurd status (otherwise response rfl)
  · rintro rfl
    exact .exists rfl status

/-- Whatever else a lookup comes to is complained of as a failure. -/
theorem complains_of_lookupFailed {reply : Reply}
    (otherwise : ∀ response, reply = .ok response → response.status ≠ HttpResponse.okStatus)
    (org repo : String) (messages : List String) :
    Reply.Complains reply (.lookup org repo) messages ↔
      messages = [Notice.lookupFailed.text] := by
  constructor
  · intro complaint
    cases complaint with
    | «exists» replied status => exact absurd status (otherwise _ replied)
    | lookupFailed => rfl
  · rintro rfl
    exact .lookupFailed otherwise

/-- The user is told what the reply calls for. -/
theorem complains_service_iff
    (refused : ¬Reply.Affirms (client.exchange (transport asked) call) call)
    (messages : List String) :
    Reply.Complains (client.exchange (transport asked) call) call messages ↔
      messages = (client.service transport).complaint asked call := by
  cases call with
  | validate scope document extra =>
      simp only [Service.complaint, service]
      cases client.exchange (transport asked) (.validate scope document extra) with
      | error _ =>
          refine complains_of_unreadable ?_ scope document extra messages
          rintro _ _ ⟨⟩
      | ok response =>
          simp only [bind, Except.bind]
          cases isVerdict : verdict response with
          | error _ =>
              refine complains_of_unreadable ?_ scope document extra messages
              rintro _ shown ⟨⟩ isShown
              rw [verdict_eq_ok_iff.mpr isShown] at isVerdict
              cases isVerdict
          | ok shown =>
              have isShown := verdict_eq_ok_iff.mp isVerdict
              exact complains_of_shown isShown scope document extra messages
  | convert document =>
      constructor
      · rintro ⟨⟩
        rfl
      · rintro rfl
        exact .notRendered
  | generate document caller pullRequest =>
      constructor
      · rintro ⟨⟩
        rfl
      · rintro rfl
        exact .notGenerated
  | lookup org repo =>
      simp only [Service.complaint, service]
      simp only [Reply.Affirms] at refused
      cases replied : client.exchange (transport asked) (.lookup org repo) with
      | error _ =>
          refine complains_of_lookupFailed ?_ org repo messages
          rintro _ ⟨⟩
      | ok response =>
          have notAbsent : response.status ≠ HttpResponse.notFoundStatus :=
            fun absent => refused ⟨response, replied, absent⟩
          simp only [bind, Except.bind, existence, if_neg notAbsent]
          by_cases present : response.status = HttpResponse.okStatus
          · rw [if_pos present]
            exact complains_of_existing present org repo messages
          · rw [if_neg present]
            refine complains_of_lookupFailed ?_ org repo messages
            rintro _ ⟨⟩
            exact present

end Client

namespace Session

/-! ## Failing closed -/

/-- After something was done in a session that had made some calls: at most one call was
made, and if the service did not answer it in the way that lets things go on, the stage is
incomplete and the record holds the complaint. -/
def Answered (service : Service) (asked : List Call) (after : Session) : Prop :=
  after.asked = asked ∨ ∃ call, after.asked = asked ++ [call] ∧
    (service.affirms asked call = false →
      after.record.complete = false ∧ after.record.messages = service.complaint asked call)

variable {service : Service} {session : Session}

/-- A stage that is settled by a call goes by what the service says. -/
theorem answered_settle (session : Session) (call : Call) :
    Answered service session.asked ((session.asking call).settle
      (service.affirms session.asked call) (service.complaint session.asked call)) := by
  refine .inr ⟨call, by rw [settle_asked, asking], fun refused => ?_⟩
  rw [refused]
  exact ⟨rfl, rfl⟩

/-- A check goes by what the service says, if it asks. -/
theorem answered_check (session : Session) :
    Answered service session.asked (session.check service) := by
  unfold check
  split
  · rcases session.checkRepository_answered service with ⟨_, checked⟩ | ⟨_, checked⟩
    · rw [checked]
      exact .inl rfl
    · rw [checked]
      exact answered_settle { session with answers := session.answers.withBranch } _
  · rw [checkBuild_eq]
    exact .inl (settle_asked ..)
  · rw [checkTests_eq]
    exact .inl (settle_asked ..)
  · rcases session.checkVerify_answered service with ⟨_, _, checked⟩ | ⟨_, checked⟩
    · rw [checked]
      exact .inl rfl
    · rw [checked]
      exact answered_settle session _

theorem answered_enter (session : Session) (stage : Stage) :
    Answered service session.asked (session.enter service stage) :=
  answered_check { session with stage, record := .fresh stage }

theorem answered_dispatch {edit : Edit} {after : Session}
    (dispatched : session.dispatch service edit = .ok after) :
    Answered service session.asked after := by
  rw [dispatch_eq] at dispatched
  obtain ⟨answers, _, rfl⟩ := map_eq_ok_iff.mp dispatched
  exact answered_check { session with answers }

theorem answered_set {path : String} {text : Option String} {after : Session}
    (assigned : session.set service path text = .ok after) :
    Answered service session.asked after := by
  rw [set_eq_of_assignment] at assigned
  split at assigned
  · cases assigned
  · cases assigned
    exact .inl rfl
  · exact answered_dispatch assigned

theorem answered_next {after : Session} (advanced : session.next service = .ok after) :
    Answered service session.asked after := by
  rw [next_eq] at advanced
  split at advanced
  · split at advanced
    · cases advanced
      exact answered_enter session _
    · cases advanced
      exact .inl rfl
  · cases advanced

theorem answered_back : Answered service session.asked (session.back service) := by
  unfold back
  split
  · exact answered_enter session _
  · exact .inl rfl

/-- An addition that is made makes no further call in the check that follows it. -/
theorem answered_addition (addition : Addition) :
    Answered service session.asked (session.attemptAddition service addition).1 := by
  unfold attemptAddition
  rcases session.commit_answered service addition.edit addition.scope addition.extra with
    ⟨error, _, committed⟩ | ⟨candidate, _, ⟨affirmed, committed⟩ | ⟨refused, committed⟩⟩
  · rw [committed]
    exact .inl rfl
  · rw [committed, followedBy]
    refine .inr ⟨.validate addition.scope (Document.ofAnswers candidate) addition.extra, ?_,
      fun refused => ?_⟩
    · unfold Addition.check
      split
      · rw [checkTests_eq, settle_asked]
        rfl
      · rw [checkBuild_eq, settle_asked]
        rfl
    · rw [affirmed] at refused
      cases refused
  · rw [committed, followedBy]
    exact .inr ⟨_, rfl, fun _ => ⟨rfl, rfl⟩⟩

theorem answered_generate (pullRequest : Bool) :
    Answered service session.asked (session.generate service pullRequest).1 := by
  rcases session.generate_cases service pullRequest with
    ⟨_, _, generated⟩ | ⟨_, ⟨affirmed, _, generated⟩ | ⟨_, generated⟩⟩
  · rw [generated]
    exact .inl rfl
  · rw [generated]
    refine .inr ⟨_, rfl, fun refused => ?_⟩
    rw [affirmed] at refused
    cases refused
  · rw [generated]
    exact .inr ⟨_, rfl, fun _ => ⟨rfl, rfl⟩⟩

/-- A preview leaves the stage as complete as it was; every other operation fails closed. -/
theorem answered_perform {operation : Operation} (notPreview : operation ≠ .preview) :
    Answered service session.asked (session.perform service operation).1 := by
  cases operation with
  | dispatch edit =>
      exact attempt_keeps (isAtomic_dispatch service edit) (.inl rfl) fun _ => answered_dispatch
  | set path text =>
      exact attempt_keeps (isAtomic_set service path text) (.inl rfl) fun _ => answered_set
  | next => exact attempt_keeps (isAtomic_next service) (.inl rfl) fun _ => answered_next
  | back => exact answered_back
  | check => exact answered_check session
  | addImage image => exact answered_addition (.ofImage image)
  | addSubstitution substitution => exact answered_addition (.ofSubstitution substitution)
  | addTest test => exact answered_addition (.ofTest test)
  | updateTest name test =>
      change Answered service session.asked (session.updateTest service name test).1
      cases found : session.answers.findTest? name with
      | none =>
          rw [updateTest_of_absent found]
          exact .inl rfl
      | some index =>
          rw [updateTest_of_found found]
          exact answered_addition (.ofReplacement index test)
  | preview => exact absurd rfl notPreview
  | generate pullRequest => exact answered_generate pullRequest

/-- After something was done in a session over the web that had made some calls: at most one
call was made. If one was made, the stage is complete only if the reply to it is the one that
lets things go on, and otherwise the record holds what the reply calls for. -/
def FailsClosed (client : Client) (transport : List Call → Transport) (asked : List Call)
    (after : Session) : Prop :=
  after.asked = asked ∨ ∃ call, after.asked = asked ++ [call] ∧
    let reply : Reply := client.exchange (transport asked) call
    (after.record.complete = true → reply.Affirms call) ∧
    (¬reply.Affirms call → after.record.complete = false ∧
      ∀ messages, reply.Complains call messages ↔ messages = after.record.messages)

/-- What goes by the service of a client fails closed. -/
theorem Answered.failsClosed {client : Client} {transport : List Call → Transport}
    {asked : List Call} {after : Session}
    (answered : Answered (client.service transport) asked after) :
    FailsClosed client transport asked after := by
  rcases answered with quiet | ⟨call, isAsked, closed⟩
  · exact .inl quiet
  · refine .inr ⟨call, isAsked, ?_⟩
    cases affirmed : (client.service transport).affirms asked call with
    | true =>
        have affirms := Client.affirms_service_iff.mp affirmed
        exact ⟨fun _ => affirms, fun refused => absurd affirms refused⟩
    | false =>
        obtain ⟨incomplete, isComplaint⟩ := closed affirmed
        refine ⟨fun complete => ?_, fun refused => ⟨incomplete, fun messages => ?_⟩⟩
        · rw [incomplete] at complete
          cases complete
        · rw [isComplaint]
          exact Client.complains_service_iff refused messages

/-- Sessions over the web fail closed, when they are started and in every operation but a
preview, whatever comes back for the call that is made. -/
theorem calls_fail_closed (client : Client) (transport : List Call → Transport) :
    (∀ answers caller,
      FailsClosed client transport [] (start (client.service transport) answers caller)) ∧
    ∀ (session : Session) (operation : Operation), operation ≠ .preview →
      FailsClosed client transport session.asked
        (session.perform (client.service transport) operation).1 := by
  refine ⟨fun answers caller => ?_, fun session operation notPreview => ?_⟩
  · have entered : Answered (client.service transport) [] (start _ answers caller) :=
      answered_enter ⟨answers, .repository, .fresh .repository, caller, []⟩ .repository
    exact entered.failsClosed
  · exact (answered_perform notPreview).failsClosed

/-- A negative verdict fails a stage that was complete, though it comes with a status of
success. -/
theorem rejection_fails_closed :
    let host := Host.ipv6 ⟨[0, 0, 0, 0, 0, 0, 0, 1], rfl⟩
    let client : Client := ⟨⟨"http".toList, .hosted ⟨none, host, none⟩ [], none, none⟩⟩
    let body := "\x7b\"valid\":false,\"message\":\"no\",\"errors\":[]\x7d".toUTF8.toList
    let transport : List Call → Transport := fun _ _ => some { status := 200, body := some body }
    let session : Session := ⟨.sample, .build, ⟨.build, true, []⟩, .unknown, []⟩
    let operation := Operation.addImage ⟨"j", "n", "t"⟩
    let after := (session.perform (client.service transport) operation).1
    operation ≠ .preview ∧ FailsClosed client transport session.asked after ∧
      after.asked.length = 1 ∧ after.record = ⟨.build, false, ["no"]⟩ := by
  intro host client body transport session operation after
  have notPreview : operation ≠ .preview := by decide
  refine ⟨notPreview, ?_, ?_, ?_⟩
  · exact (calls_fail_closed client transport).2 session operation notPreview
  · decide +kernel
  · decide +kernel

end Session

end Onboarding
