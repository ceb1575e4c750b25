import ChatHook.Proofs.Independence
import ChatHook.Proofs.Stages

/-!
# One way to send

There are three ways to get a message sent: to make a webhook and send through it, to dispatch, and
to run. They differ in what they are given and in what they keep, and in nothing else. Dispatching
is making a webhook and sending through it, with the status forgotten; where no webhook can be made,
it ends with the error of the making, and nothing is sent. Running is reading and then dispatching,
behind one more record; and a run that cannot read ends there, whatever its destination is. Since
steps keep out of each other's way (`getElem?_session`), this holds wherever such a step stands in a
session.

## Main results

* `answer_dispatch_of_new`, `answer_dispatch_of_new_error`, `answer_run_of_read`,
  `answer_run_of_unread`: the answer to each such step.
* `run_is_read_then_dispatch`: the three ways agree in all that can be observed.
-/

namespace ChatHook

open Http

/-! ### Sessions with one message -/

variable (network : Network) (answers : List Answer)

/-- A session that makes a new webhook and sends through it answers with the send. -/
theorem session_make_send {destination : String} {webhook : Webhook}
    (hnew : Webhook.new network destination = .ok webhook) (message : String) :
    session network [.make destination none, .send 0 message answers] =
      [.made 0, .sent (webhook.send network message answers)] := by
  have hmake : Webhook.make? network destination none = some webhook := by
    rw [Webhook.make?, hnew, Except.toOption]
  simp [session, sessionFrom, Step.take, hmake]

/-- Without a new webhook there is none to send through. -/
theorem session_make_send_of_error {destination : String} {e : SendError}
    (hnew : Webhook.new network destination = .error e) (message : String) :
    session network [.make destination none, .send 0 message answers] =
      [.notMade, .noWebhook] := by
  have hmake : Webhook.make? network destination none = none := by
    rw [Webhook.make?, hnew, Except.toOption]
  simp [session, sessionFrom, Step.take, hmake]

theorem session_dispatch (destination message : String) :
    session network [.dispatch destination message answers] =
      [.dispatched (dispatch network destination message answers)] := by
  rw [session, sessionFrom_cons]
  rfl

/-! ### Steps of a session -/

variable {network answers} {steps : List Step} {n : Nat} {destination : String}

/-- A dispatch answers as a send through a new webhook, with the status forgotten. -/
theorem answer_dispatch_of_new {message : String} {webhook : Webhook}
    (h : steps[n]? = some (.dispatch destination message answers))
    (hnew : Webhook.new network destination = .ok webhook) :
    ∃ o, session network [.make destination none, .send 0 message answers] =
        [.made 0, .sent o] ∧
      (session network steps)[n]? =
        some (.dispatched ⟨o.result.map fun _ ↦ (), o.requests, o.unused, o.log⟩) := by
  refine ⟨_, session_make_send network answers hnew message, ?_⟩
  rw [getElem?_session h, Step.take, dispatch_of_new network answers hnew, Outcome.map]

/-- A dispatch that cannot make a webhook answers with the error of the making. -/
theorem answer_dispatch_of_new_error {message : String} {e : SendError}
    (h : steps[n]? = some (.dispatch destination message answers))
    (hnew : Webhook.new network destination = .error e) :
    session network [.make destination none, .send 0 message answers] = [.notMade, .noWebhook] ∧
      (session network steps)[n]? = some (.dispatched ⟨.error e, [], answers, []⟩) := by
  refine ⟨session_make_send_of_error network answers hnew message, ?_⟩
  rw [getElem?_session h, Step.take, dispatch_of_new_error network answers hnew]

/-- A run that cannot read answers with the failure of the reading. -/
theorem answer_run_of_unread {source : List Chunk} {failure : ReadFailure}
    (h : steps[n]? = some (.run destination source answers))
    (hread : (readMessage source).result = .error failure) :
    (session network steps)[n]? = some
      (.ran ⟨⟨.error (.unread failure), [], answers, []⟩, (readMessage source).left⟩) := by
  have hrun : run network destination source answers =
      ⟨⟨.error (.unread failure), [], answers, []⟩, (readMessage source).left⟩ := by
    simp only [run, hread]
  rw [getElem?_session h, Step.take, hrun]

/-- A run that reads a message answers as a dispatch of it, behind the record of the reading. -/
theorem answer_run_of_read {source : List Chunk} {message : String}
    (h : steps[n]? = some (.run destination source answers))
    (hread : (readMessage source).result = .ok message) :
    ∃ o, session network [.dispatch destination message answers] = [.dispatched o] ∧
      (session network steps)[n]? = some
        (.ran ⟨⟨o.result, o.requests, o.unused, .messageRead (Utf8.encode message).length :: o.log⟩,
          (readMessage source).left⟩) := by
  refine ⟨_, session_dispatch network answers destination message, ?_⟩
  have hrun : run network destination source answers =
      ⟨(dispatch network destination message answers).logFirst (.messageRead (Utf8.size message)),
        (readMessage source).left⟩ := by
    simp only [run, hread]
  rw [getElem?_session h, Step.take, hrun, Outcome.logFirst, Utf8.size_eq_length_encode]

/-- **One way to send.** Wherever a run stands in a session: if its source cannot be read, it comes
to the failure of the reading and nothing else, whatever its destination is, and all answers are
left; and if a message is read, it comes to a dispatch of the message, behind one record of the
length. Wherever a dispatch stands: if a new webhook can be made, it comes to a send through that,
with the status forgotten; and if none can be made, it comes to the error of the making and nothing
else, and all answers are left. -/
theorem run_is_read_then_dispatch (network : Network) (steps : List Step) (n : Nat) :
    (∀ destination source answers, steps[n]? = some (.run destination source answers) →
      (∀ failure, (readMessage source).result = .error failure →
        (session network steps)[n]? = some
          (.ran ⟨⟨.error (.unread failure), [], answers, []⟩, (readMessage source).left⟩)) ∧
      ∀ message, (readMessage source).result = .ok message →
        ∃ o, session network [.dispatch destination message answers] = [.dispatched o] ∧
          (session network steps)[n]? = some
            (.ran ⟨⟨o.result, o.requests, o.unused,
              .messageRead (Utf8.encode message).length :: o.log⟩, (readMessage source).left⟩)) ∧
    ∀ destination message answers, steps[n]? = some (.dispatch destination message answers) →
      (∀ webhook, Webhook.new network destination = .ok webhook →
        ∃ o, session network [.make destination none, .send 0 message answers] =
            [.made 0, .sent o] ∧
          (session network steps)[n]? =
            some (.dispatched ⟨o.result.map fun _ ↦ (), o.requests, o.unused, o.log⟩)) ∧
      ∀ e, Webhook.new network destination = .error e →
        session network [.make destination none, .send 0 message answers] =
            [.notMade, .noWebhook] ∧
          (session network steps)[n]? = some (.dispatched ⟨.error e, [], answers, []⟩) :=
  ⟨fun _ _ _ h ↦ ⟨fun _ hread ↦ answer_run_of_unread h hread,
      fun _ hread ↦ answer_run_of_read h hread⟩,
    fun _ _ _ h ↦ ⟨fun _ hnew ↦ answer_dispatch_of_new h hnew,
      fun _ hnew ↦ answer_dispatch_of_new_error h hnew⟩⟩

/-- A source that breaks off inside a letter. -/
private def halfLetter : List Chunk :=
  [.bytes [0x6F, 0x6B, 0xC3], .failure (.ofFault .interrupted), .bytes [], .bytes [0xA9]]

/-- All three ways behind each other. The first run would fail at its destination too. -/
private def threeWays : List Step :=
  [.make "http://[::1]/a" none, .send 0 "hello" [.closed],
    .run "no address" halfLetter [.closed, .closed],
    .run "no address" [.bytes [0x6F, 0x6B]] [.closed], .dispatch "http://[::1]/b" "ok" [.closed]]

theorem three_ways_in_one_session :
    (session .scripted threeWays)[2]? = some
        (.ran ⟨⟨.error (.unread .notText), [], [.closed, .closed], []⟩, 1⟩) ∧
      (∃ o, session .scripted [.dispatch "no address" "ok" [.closed]] = [.dispatched o] ∧
        (session .scripted threeWays)[3]? = some
          (.ran ⟨⟨o.result, o.requests, o.unused, .messageRead 2 :: o.log⟩, 0⟩)) ∧
      (∃ o, session .scripted [.make "http://[::1]/b" none, .send 0 "ok" [.closed]] =
          [.made 0, .sent o] ∧
        (session .scripted threeWays)[4]? =
          some (.dispatched ⟨o.result.map fun _ ↦ (), o.requests, o.unused, o.log⟩)) ∧
      session .exhausted [.make "http://[::1]/b" none, .send 0 "ok" [.closed]] =
          [.notMade, .noWebhook] ∧
        (session .exhausted threeWays)[4]? = some (.dispatched
          ⟨.error (.unbuilt .tooManyFiles), [], [.closed], []⟩) := by
  have hunread : (readMessage halfLetter).result = .error .notText := rfl
  have hread : (readMessage [.bytes [0x6F, 0x6B]]).result = .ok "ok" := rfl
  refine ⟨?_, ?_, ?_, ?_⟩
  · exact ((run_is_read_then_dispatch .scripted threeWays 2).1 _ _ _ rfl).1 _ hunread
  · exact ((run_is_read_then_dispatch .scripted threeWays 3).1 _ _ _ rfl).2 _ hread
  · exact ((run_is_read_then_dispatch .scripted threeWays 4).2 _ _ _ rfl).1 _ rfl
  · exact ((run_is_read_then_dispatch .exhausted threeWays 4).2 _ _ _ rfl).2 _ rfl

end ChatHook
