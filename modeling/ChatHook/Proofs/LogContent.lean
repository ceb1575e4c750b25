import ChatHook.Proofs.Fidelity
import ChatHook.Proofs.Independence

/-!
# What the log tells

A step leaves few lines in the log (`Step.Logs`): that a message was read and how long it is, that
it is sent and how long it is, and the status if there is one. A message is not sent where no client
can be built to send it with. Both lengths are the number of bytes of the message that the requests
carry, and the status is the one of the response to the last request, however many came before.
Nothing else goes in. Two sends therefore leave the same log exactly if their messages are of the
same length and they end in the same status or both fail (`LookAlike`), whatever they say and
wherever they go; and two dispatches, if besides the client can be built for both, or if it can be
built for neither (`LookAlikeAsNew`).

## Main results

* `logs_iff`: the lines of each step.
* `exists_reply_of_result_send`: which response a logged status comes from.
* `log_send_eq_iff`: when two sends leave the same log.
* `log_tells_length_and_status`: all of it, for every step of every session.
-/

namespace ChatHook

open Http

/-! ### The lines of a step -/

/-- The line about a message that was read. -/
def readLine (size : Nat) : String :=
  "DEBUG send_discord_message::cli: Read " ++ toString size ++ " bytes from input"

/-- The lines about a message that is sent, and about the status if it comes to one. -/
def sendLines (size : Nat) (status? : Option Status) : List String :=
  "INFO send_discord_message::webhook: Sending message to webhook" ::
    ("DEBUG send_discord_message::webhook: Message is " ++ toString size ++ " bytes") ::
    (status?.map fun status ↦
      "DEBUG send_discord_message::webhook: Webhook responded with " ++ status.text).toList

/-- The log of the step that was answered, one line for each record. -/
def StepAnswer.lines : StepAnswer → List String
  | .sent o => o.log.map LogEvent.summary
  | .dispatched o => o.log.map LogEvent.summary
  | .ran r => r.outcome.log.map LogEvent.summary
  | _ => []

/-- What each step leaves in the log, with the webhooks that were made before it. -/
inductive Step.Logs (network : Network) (webhooks : List Webhook) : Step → List String → Prop
  | make {url options} : Logs network webhooks (.make url options) []
  /-- Without a webhook there is nothing to send through. -/
  | noWebhook {index message answers} (hwebhook : webhooks[index]? = none) :
      Logs network webhooks (.send index message answers) []
  | send {index webhook message answers} (hwebhook : webhooks[index]? = some webhook) :
      Logs network webhooks (.send index message answers)
        (sendLines (Utf8.encode message).length
          (webhook.send network message answers).result.toOption)
  /-- Without a client there is nothing to send with. -/
  | undispatched {url message answers e} (hnew : Webhook.new network url = .error e) :
      Logs network webhooks (.dispatch url message answers) []
  | dispatch {url webhook message answers} (hnew : Webhook.new network url = .ok webhook) :
      Logs network webhooks (.dispatch url message answers)
        (sendLines (Utf8.encode message).length
          (webhook.send network message answers).result.toOption)
  /-- Without a message there is nothing to send. -/
  | unread {destination source answers failure}
      (hread : (readMessage source).result = .error failure) :
      Logs network webhooks (.run destination source answers) []
  /-- What was read is not sent without a client. -/
  | unsent {destination source answers message e}
      (hread : (readMessage source).result = .ok message)
      (hnew : Webhook.new network destination = .error e) :
      Logs network webhooks (.run destination source answers)
        [readLine (Utf8.encode message).length]
  | run {destination source answers message webhook}
      (hread : (readMessage source).result = .ok message)
      (hnew : Webhook.new network destination = .ok webhook) :
      Logs network webhooks (.run destination source answers)
        (readLine (Utf8.encode message).length :: sendLines (Utf8.encode message).length
          (webhook.send network message answers).result.toOption)
  | unknown : Logs network webhooks .unknown []

/-- The records of a message that is sent, and of the status if it comes to one. -/
def sendEvents (size : Nat) (status? : Option Status) : List LogEvent :=
  .sending :: .messageSize size :: (status?.map .responded).toList

theorem map_summary_sendEvents (size : Nat) (status? : Option Status) :
    (sendEvents size status?).map LogEvent.summary = sendLines size status? := by
  cases status? <;> rfl

theorem sendEvents_eq_iff {size size' : Nat} {status? status?' : Option Status} :
    sendEvents size status? = sendEvents size' status?' ↔
      size = size' ∧ status? = status?' := by
  cases status? <;> cases status?' <;> simp [sendEvents]

section Step

variable {network : Network} {webhooks : List Webhook}

/-- The records of a send depend on the length of the message and the status. -/
theorem log_send (webhook : Webhook) (message : String) (answers : List Answer) :
    (webhook.send network message answers).log =
      sendEvents (Utf8.encode message).length
        (webhook.send network message answers).result.toOption := by
  simp only [Webhook.send, ← Utf8.size_eq_length_encode]
  cases (deliver network webhook.client webhook.url (Payload.mk message).json answers).result <;>
    rfl

theorem log_dispatch_of_new {destination : String} {webhook : Webhook}
    (hnew : Webhook.new network destination = .ok webhook) (message : String)
    (answers : List Answer) :
    (dispatch network destination message answers).log =
      sendEvents (Utf8.encode message).length
        (webhook.send network message answers).result.toOption := by
  rw [dispatch_of_new network answers hnew]
  exact log_send webhook message answers

theorem log_run {source : List Chunk} {message : String}
    (hread : (readMessage source).result = .ok message) (destination : String)
    (answers : List Answer) :
    (run network destination source answers).outcome.log =
      .messageRead (Utf8.encode message).length ::
        (dispatch network destination message answers).log := by
  rw [outcome_run_of_read network answers hread, Outcome.logFirst, Utf8.size_eq_length_encode]

/-- What a step leaves in the log is what is listed for it. -/
theorem logs_take (step : Step) :
    step.Logs network webhooks (step.take network webhooks).1.lines := by
  cases step with
  | make url options =>
    rw [Step.take]
    cases Webhook.make? network url options <;> exact .make
  | send index message answers =>
    rw [Step.take]
    cases hwebhook : webhooks[index]? with
    | none => exact .noWebhook hwebhook
    | some webhook =>
      simp only [StepAnswer.lines, log_send, map_summary_sendEvents]
      exact .send hwebhook
  | dispatch url message answers =>
    rw [Step.take]
    cases hnew : Webhook.new network url with
    | error e =>
      simp only [StepAnswer.lines, dispatch_of_new_error network answers hnew, List.map_nil]
      exact .undispatched hnew
    | ok webhook =>
      simp only [StepAnswer.lines, log_dispatch_of_new hnew, map_summary_sendEvents]
      exact .dispatch hnew
  | run destination source answers =>
    rw [Step.take]
    cases hread : (readMessage source).result with
    | error failure =>
      simp only [StepAnswer.lines, outcome_run_of_unread network answers hread, List.map_nil]
      exact .unread hread
    | ok message =>
      simp only [StepAnswer.lines, log_run hread, List.map_cons]
      cases hnew : Webhook.new network destination with
      | error e =>
        simp only [dispatch_of_new_error network answers hnew, List.map_nil]
        exact .unsent hread hnew
      | ok webhook =>
        simp only [log_dispatch_of_new hnew, map_summary_sendEvents]
        exact .run hread hnew
  | unknown => exact .unknown

/-- The list has one entry for each step. -/
theorem Step.Logs.unique {step : Step} {lines lines' : List String}
    (h : step.Logs network webhooks lines) (h' : step.Logs network webhooks lines') :
    lines = lines' := by
  cases h with
  | send hwebhook => cases h' <;> simp_all
  | noWebhook hwebhook => cases h' <;> simp_all
  | undispatched hnew => cases h' <;> simp_all
  | dispatch hnew => cases h' <;> simp_all
  | unread hread => cases h' <;> simp_all
  | unsent hread hnew => cases h' <;> simp_all
  | run hread hnew => cases h' <;> simp_all
  | _ => cases h'; rfl

/-- **The lines of each step.** -/
theorem logs_iff {step : Step} {lines : List String} :
    step.Logs network webhooks lines ↔ (step.take network webhooks).1.lines = lines :=
  ⟨fun h ↦ (logs_take step).unique h, fun h ↦ h ▸ logs_take step⟩

end Step

/-! ### The response behind a status -/

namespace Http

variable {client : Client} {origin : Url} {budget : Option Nat} {first : Request}
  {answers : List Answer} {network : Network} {destination : String} {body : Bytes}
  {status : Status}

/-- The status of a chain is that of the answer to its last request. -/
theorem exists_reply_of_result_follow
    (h : (follow client origin budget first answers).result = .ok status) :
    ∃ k reply, (follow client origin budget first answers).requests.length = k + 1 ∧
      (answerTo answers k).reply = .ok reply ∧ reply.status = status := by
  obtain ⟨k, r, hlength, hr⟩ := @exists_last_request client origin budget first answers
  have htakes := takes_turn client origin (budget.map (· - k)) r (answerTo answers k)
  rw [turn_last hlength hr, h] at htakes
  generalize budget.map (· - k) = left at htakes
  cases htakes with
  | answered hreply hstays => exact ⟨k, _, hlength, hreply, rfl⟩

/-- A delivery that comes to a status has made a request. -/
theorem requests_ne_nil_of_result_deliver
    (h : (deliver network client destination body answers).result = .ok status) :
    (deliver network client destination body answers).requests ≠ [] := by
  cases hstart : departure? destination with
  | none =>
    obtain ⟨failure, hstop, -⟩ := deliver_of_no_departure client network hstart body answers
    simp [hstop, Delivery.stop] at h
  | some start =>
    cases hbarrier : network.barrier? client with
    | some error => simp [deliver_of_barrier hstart hbarrier, Delivery.stop] at h
    | none =>
      rw [deliver_of_departure hstart hbarrier]
      exact requests_follow_ne_nil

end Http

/-- The status of a send is that of the response to its last request. -/
theorem exists_reply_of_result_send {network : Network} {webhook : Webhook} {message : String}
    {answers : List Answer} {status : Status}
    (h : (webhook.send network message answers).result = .ok status) :
    ∃ k reply, (webhook.send network message answers).requests.length = k + 1 ∧
      (answerTo answers k).reply = .ok reply ∧ reply.status = status := by
  have hresult : (deliver network webhook.client webhook.url (Payload.mk message).json
      answers).result = .ok status := mapError_eq_ok_iff.1 h
  obtain ⟨start, -, hfollow⟩ :=
    exists_follow_of_requests_deliver (requests_ne_nil_of_result_deliver hresult)
  simp only [Webhook.send]
  rw [hfollow] at hresult ⊢
  exact exists_reply_of_result_follow hresult

/-! ### Two sends -/

/-- Two sends look alike: their messages have the same length, and they end in the same status or
both fail. -/
structure LookAlike (message message' : String) (o o' : Outcome Status) : Prop where
  length : (Utf8.encode message).length = (Utf8.encode message').length
  status : o.result.toOption = o'.result.toOption

variable {network network' : Network} {message message' : String} {answers answers' : List Answer}

theorem log_send_eq_iff {webhook webhook' : Webhook} :
    (webhook.send network message answers).log = (webhook'.send network' message' answers').log ↔
      LookAlike message message' (webhook.send network message answers)
        (webhook'.send network' message' answers') := by
  rw [log_send, log_send, sendEvents_eq_iff]
  exact ⟨fun ⟨hlength, hstatus⟩ ↦ ⟨hlength, hstatus⟩, fun h ↦ ⟨h.length, h.status⟩⟩

/-- Two sends by new webhooks look alike: the client can be built for both of them, and they look
alike, or it can be built for neither. -/
structure LookAlikeAsNew (network network' : Network) (message message' : String)
    (o o' : Outcome Status) : Prop where
  built_iff : network.buildFault = none ↔ network'.buildFault = none
  alike : network.buildFault = none → LookAlike message message' o o'

theorem log_dispatch_eq_iff {destination destination' : String} :
    (dispatch network destination message answers).log =
        (dispatch network' destination' message' answers').log ↔
      LookAlikeAsNew network network' message message'
        ((Webhook.standard destination).send network message answers)
        ((Webhook.standard destination').send network' message' answers') := by
  cases hbuild : network.buildFault with
  | none =>
    rw [log_dispatch_of_new (new_of_built hbuild destination)]
    cases hbuild' : network'.buildFault with
    | none =>
      rw [log_dispatch_of_new (new_of_built hbuild' destination'), ← log_send, ← log_send,
        log_send_eq_iff]
      exact ⟨fun h ↦ ⟨by simp [hbuild, hbuild'], fun _ ↦ h⟩, fun h ↦ h.alike hbuild⟩
    | some fault =>
      rw [dispatch_of_fault network' answers' hbuild']
      refine iff_of_false (by simp [sendEvents]) fun h ↦ ?_
      simpa [hbuild'] using h.built_iff.1 hbuild
  | some fault =>
    rw [dispatch_of_fault network answers hbuild]
    cases hbuild' : network'.buildFault with
    | none =>
      rw [log_dispatch_of_new (new_of_built hbuild' destination')]
      refine iff_of_false (by simp [sendEvents]) fun h ↦ ?_
      simpa [hbuild] using h.built_iff.2 hbuild'
    | some fault' =>
      rw [dispatch_of_fault network' answers' hbuild']
      exact iff_of_true rfl ⟨by simp [hbuild, hbuild'], by simp [hbuild]⟩

theorem log_run_eq_iff {source source' : List Chunk}
    (hread : (readMessage source).result = .ok message)
    (hread' : (readMessage source').result = .ok message') {destination destination' : String} :
    (run network destination source answers).outcome.log =
        (run network' destination' source' answers').outcome.log ↔
      (Utf8.encode message).length = (Utf8.encode message').length ∧
        LookAlikeAsNew network network' message message'
          ((Webhook.standard destination).send network message answers)
          ((Webhook.standard destination').send network' message' answers') := by
  rw [log_run hread, log_run hread', List.cons.injEq, LogEvent.messageRead.injEq,
    log_dispatch_eq_iff]

/-- **The log tells the length of a message and the final status.** Every step of every session
leaves the lines that are listed for it. The lengths in them are that of the message that is in the
bodies of a send, and the status is that of the response to its last request. Two sends leave the
same log exactly if their messages have the same length and they end in the same status or both
fail; two dispatches, if the client can be built for both and they look alike as sends, or if it can
be built for neither; and two runs that have read a message, if the same holds and the messages have
the same length. -/
theorem log_tells_length_and_status (network network' : Network) (answers answers' : List Answer) :
    (∀ (steps : List Step) (n : Nat) step, steps[n]? = some step →
      ∃ answer, (session network steps)[n]? = some answer ∧
        ∀ lines, step.Logs network (webhooksOf network (steps.take n)) lines ↔
          answer.lines = lines) ∧
    (∀ (webhook : Webhook) message,
      (∀ r ∈ (webhook.send network message answers).requests, r.bodyBytes ≠ [] →
        ∀ captured : Captured, captured.body = r.bodyBytes →
          captured.json = .ok (.object [("content", .string message)])) ∧
      ∀ status, (webhook.send network message answers).result = .ok status →
        ∃ k reply, (webhook.send network message answers).requests.length = k + 1 ∧
          (answerTo answers k).reply = .ok reply ∧ reply.status = status) ∧
    (∀ (webhook webhook' : Webhook) message message',
      (webhook.send network message answers).log = (webhook'.send network' message' answers').log ↔
        LookAlike message message' (webhook.send network message answers)
          (webhook'.send network' message' answers')) ∧
    (∀ destination destination' message message',
      (dispatch network destination message answers).log =
          (dispatch network' destination' message' answers').log ↔
        LookAlikeAsNew network network' message message'
          ((Webhook.standard destination).send network message answers)
          ((Webhook.standard destination').send network' message' answers')) ∧
    ∀ destination destination' source source' message message',
      (readMessage source).result = .ok message → (readMessage source').result = .ok message' →
      ((run network destination source answers).outcome.log =
          (run network' destination' source' answers').outcome.log ↔
        (Utf8.encode message).length = (Utf8.encode message').length ∧
          LookAlikeAsNew network network' message message'
            ((Webhook.standard destination).send network message answers)
            ((Webhook.standard destination').send network' message' answers')) := by
  refine ⟨fun steps n step h ↦ ⟨_, getElem?_session h, fun lines ↦ logs_iff⟩,
    fun webhook message ↦ ⟨fun r hr hbody ↦ ?_, fun status ↦ exists_reply_of_result_send⟩,
    fun webhook webhook' message message' ↦ log_send_eq_iff,
    fun destination destination' message message' ↦ log_dispatch_eq_iff,
    fun destination destination' source source' message message' hread hread' ↦
      log_run_eq_iff hread hread'⟩
  exact (carriesMessage_requests_send (List.ne_nil_of_mem hr)).reads r hr hbody

/-- A script that has a post repeated at another host before it is answered. -/
private def roundabout : List Answer :=
  [.ofParts "307 Temporary Redirect" [(Utf8.encode "Location", Utf8.encode "http://[::2]/b")] "",
    .ofParts "204 No Content" [] ""]

/-- A script that answers at once. -/
private def straight : List Answer :=
  [.ofParts "204 Gone Fishing" [] "no body"]

/-- Two runs with one accented letter and two plain ones, to destinations that differ in all. -/
private def twoRuns : List Step :=
  [.run "http://u:token@[::1]/a" [.bytes [0xC3], .bytes [0xA9]] roundabout,
    .run "http://[::2]:81/b?c" [.bytes [0x6E, 0x6F]] roundabout]

theorem different_runs_look_alike :
    (readMessage [.bytes [0xC3], .bytes [0xA9]]).result = .ok "é" ∧
      (readMessage [.bytes [0x6E, 0x6F]]).result = .ok "no" ∧
      (run .scripted "http://u:token@[::1]/a" [.bytes [0xC3], .bytes [0xA9]]
          roundabout).outcome.log =
        (run .scripted "http://[::2]:81/b?c" [.bytes [0x6E, 0x6F]] straight).outcome.log ∧
      (∃ answer, (session .scripted twoRuns)[0]? = some answer ∧ answer.lines =
        ["DEBUG send_discord_message::cli: Read 2 bytes from input",
          "INFO send_discord_message::webhook: Sending message to webhook",
          "DEBUG send_discord_message::webhook: Message is 2 bytes",
          "DEBUG send_discord_message::webhook: Webhook responded with 204 No Content"]) ∧
      ∃ answer, (session .exhausted twoRuns)[0]? = some answer ∧ answer.lines =
        ["DEBUG send_discord_message::cli: Read 2 bytes from input"] := by
  obtain ⟨hlines, -, -, -, hruns⟩ :=
    log_tells_length_and_status .scripted .scripted roundabout straight
  have hread : (readMessage [.bytes [0xC3], .bytes [0xA9]]).result = .ok "é" := rfl
  have hread' : (readMessage [.bytes [0x6E, 0x6F]]).result = .ok "no" := rfl
  have hstatus : ((Webhook.standard "http://u:token@[::1]/a").send .scripted "é"
      roundabout).result.toOption = some ⟨204⟩ := by
    decide +kernel
  have hstatus' : ((Webhook.standard "http://[::2]:81/b?c").send .scripted "no"
      straight).result.toOption = some ⟨204⟩ := by
    decide +kernel
  refine ⟨hread, hread', ?_, ?_, ?_⟩
  · exact (hruns _ _ _ _ _ _ hread hread').2
      ⟨rfl, Iff.rfl, fun _ ↦ ⟨rfl, hstatus.trans hstatus'.symm⟩⟩
  · obtain ⟨answer, hanswer, hlogs⟩ := hlines twoRuns 0 _ rfl
    refine ⟨answer, hanswer, (hlogs _).1 ?_⟩
    have hlisted : Step.Logs .scripted (webhooksOf .scripted (twoRuns.take 0))
        (.run "http://u:token@[::1]/a" [.bytes [0xC3], .bytes [0xA9]] roundabout) _ :=
      .run hread (new_of_built rfl _)
    rwa [hstatus] at hlisted
  · obtain ⟨hunsent, -⟩ := log_tells_length_and_status .exhausted .exhausted [] []
    obtain ⟨answer, hanswer, hlogs⟩ := hunsent twoRuns 0 _ rfl
    exact ⟨answer, hanswer, (hlogs _).1 (.unsent hread (new_of_fault rfl _))⟩

end ChatHook
