import ChatHook.Proofs.Chain
import ChatHook.Proofs.Stages
import Mathlib.Logic.Basic

/-!
# What the first answer settles

A message is meant to be posted once and the status of the answer to be returned as it is. A
standard client follows redirects, though, so both hold exactly as long as the first answer is no
redirect. If it is one to a URL of plain connections, the endpoint is asked again
(`AsksAgain`), at any host that the redirect names, with the message once more unless the status
turns the request into a GET (`OnceUnlessAsked`). And if it is a redirect at all, its status is not
the result: what comes after it may be a failure or another status (`result_follow_of_stays`,
`exists_error_of_redirectsTo`). Dispatching, running and the program have a webhook to send through
only where its client can be built (`Http.Network.Serves`), and ask nothing otherwise.

## Main results

* `once_unless_asked`: how many requests are made, from a send up to the program.
* `first_answer_settles_iff`: where the first answer makes the result whatever follows.
-/

namespace ChatHook

open Http

/-! ### The number of requests -/

/-- A network serves new webhooks: their client can be built, and it reaches the endpoint. -/
def Http.Network.Serves (network : Network) : Prop :=
  network.buildFault = none ∧ network.proxied = none

/-- The endpoint asks again: it is reached, and the answer to the post redirects to a URL of plain
connections. -/
def AsksAgain (reached : Prop) (destination : String) (answers : List Answer) : Prop :=
  reached ∧ ∃ start url, departure? destination = some start ∧
    (answerTo answers 0).RedirectsTo start.1 url ∧ url.scheme = "http"

/-- Requests carry a message to a destination once, unless the endpoint asks again. -/
structure OnceUnlessAsked (reached : Prop) (destination message : String)
    (answers : List Answer) (requests : List Request) : Prop where
  /-- There is at most one request exactly if the endpoint does not ask again. -/
  le_one_iff : requests.length ≤ 1 ↔ ¬AsksAgain reached destination answers
  /-- At a destination that is reached, there is exactly one post exactly if the endpoint does not
  ask again. -/
  single_iff : ∀ start, departure? destination = some start → reached →
    ((∃ r, requests = [r] ∧ r.method = .post ∧ r.url = start.1 ∧
        r.body = some (Payload.mk message).json) ↔ ¬AsksAgain reached destination answers)
  /-- The message is repeated exactly if the endpoint asks again and does not turn to GET. -/
  repeated_iff : (∃ i r, requests[i + 1]? = some r ∧ r.body = some (Payload.mk message).json) ↔
    AsksAgain reached destination answers ∧ ¬(answerTo answers 0).TurnsToGet

variable {network : Network} {reached : Prop} {destination message : String}
  {answers : List Answer}

/-- Requests that are not made are not repeated. -/
theorem OnceUnlessAsked.of_nil (h : departure? destination = none ∨ ¬reached) :
    OnceUnlessAsked reached destination message answers [] := by
  have hnot : ¬AsksAgain reached destination answers := by
    rintro ⟨hreach, start, url, hstart, -⟩
    rcases h with hnone | hbarrier
    · simp [hnone] at hstart
    · exact hbarrier hreach
  refine ⟨by simpa using hnot, fun start hstart hreach ↦ ?_, by simp [hnot]⟩
  rcases h with hnone | hbarrier
  · simp [hnone] at hstart
  · exact absurd hreach hbarrier

/-- What a standard webhook that reaches the endpoint exchanges with it from a start on. -/
def postChain (start : Url × Option String) (message : String) (answers : List Answer) :
    Delivery :=
  follow .standard start.1 Client.standard.budget
    (firstRequest .standard start (Payload.mk message).json) answers

theorem deliver_eq_postChain {start : Url × Option String}
    (hstart : departure? destination = some start) (hreach : network.proxied = none) :
    deliver network .standard destination (Payload.mk message).json answers =
      postChain start message answers := by
  have hbarrier : network.barrier? .standard = none := hreach
  exact deliver_of_departure hstart hbarrier _ answers

section PostChain

variable {start : Url × Option String}

theorem requests_postChain_zero :
    (postChain start message answers).requests[0]? =
      some (firstRequest .standard start (Payload.mk message).json) :=
  requests_follow_zero _ _ answers

/-- The endpoint asks again exactly if there is a second request. -/
theorem asksAgain_iff (hstart : departure? destination = some start) (hreach : reached)
    (message : String) :
    AsksAgain reached destination answers ↔
      ∃ next, (postChain start message answers).requests[1]? = some next := by
  have hfirst := @requests_postChain_zero message answers start
  constructor
  · rintro ⟨-, start', url, hstart', hredirect, hscheme⟩
    obtain rfl := Option.some.inj (hstart.symm.trans hstart')
    obtain ⟨next, hnext, -⟩ := (exists_next_iff hfirst url).2
      ⟨hredirect, hscheme, _, rfl, by decide⟩
    exact ⟨next, hnext⟩
  · rintro ⟨next, hnext⟩
    obtain ⟨hredirect, hscheme, -⟩ := (exists_next_iff hfirst next.url).1 ⟨next, hnext, rfl⟩
    exact ⟨hreach, start, next.url, hstart, hredirect, hscheme⟩

theorem length_requests_postChain_le_one_iff (hstart : departure? destination = some start)
    (hreach : reached) :
    (postChain start message answers).requests.length ≤ 1 ↔
      ¬AsksAgain reached destination answers := by
  rw [asksAgain_iff hstart hreach message, ← Option.isSome_iff_exists,
    Option.not_isSome_iff_eq_none, List.getElem?_eq_none_iff]

/-- A chain without a second request is the post alone. -/
theorem requests_postChain_of_length_le_one
    (h : (postChain start message answers).requests.length ≤ 1) :
    (postChain start message answers).requests =
      [firstRequest .standard start (Payload.mk message).json] := by
  have hfirst := @requests_postChain_zero message answers start
  generalize (postChain start message answers).requests = requests at h hfirst
  cases requests with
  | nil => simp at hfirst
  | cons r rest =>
    obtain rfl : rest = [] := List.eq_nil_of_length_eq_zero (by simpa using h)
    simpa using hfirst

/-- The requests of a chain carry their message once, unless the endpoint asks again. -/
theorem onceUnlessAsked_postChain (hstart : departure? destination = some start)
    (hreach : reached) :
    OnceUnlessAsked reached destination message answers
      (postChain start message answers).requests := by
  have hle := @length_requests_postChain_le_one_iff reached destination message answers start
    hstart hreach
  refine ⟨hle, fun start' hstart' _ ↦ ?_, ?_⟩
  · obtain rfl := Option.some.inj (hstart.symm.trans hstart')
    rw [← hle]
    constructor
    · rintro ⟨r, hr, -⟩
      rw [hr]
      exact Nat.le_refl 1
    · intro hlength
      exact ⟨_, requests_postChain_of_length_le_one hlength, rfl, rfl, rfl⟩
  · rw [asksAgain_iff hstart hreach message]
    constructor
    · rintro ⟨i, r, hr, hbody⟩
      obtain ⟨hlt, -⟩ := List.getElem?_eq_some_iff.1 hr
      refine ⟨⟨_, List.getElem?_eq_getElem (by omega)⟩, fun hget ↦ ?_⟩
      rw [body_of_turnsToGet hr (Nat.succ_pos i) hget] at hbody
      simp at hbody
    · rintro ⟨⟨next, hnext⟩, hposts⟩
      refine ⟨0, next, hnext, body_of_not_turnsToGet hnext fun j hj ↦ ?_⟩
      obtain rfl : j = 0 := by omega
      exact hposts

end PostChain

/-- The requests of a send by a standard webhook carry its message once, unless the endpoint asks
again. -/
theorem onceUnlessAsked_send (network : Network) (destination message : String)
    (answers : List Answer) :
    OnceUnlessAsked (network.proxied = none) destination message answers
      ((Webhook.standard destination).send network message answers).requests := by
  change OnceUnlessAsked (network.proxied = none) destination message answers
    (deliver network .standard destination (Payload.mk message).json answers).requests
  cases hstart : departure? destination with
  | none =>
    obtain ⟨failure, hstop, -⟩ :=
      deliver_of_no_departure .standard network hstart (Payload.mk message).json answers
    rw [hstop]
    exact .of_nil (.inl hstart)
  | some start =>
    cases hreach : network.proxied with
    | none =>
      rw [deliver_eq_postChain hstart hreach]
      exact onceUnlessAsked_postChain hstart rfl
    | some error =>
      have hbarrier : network.barrier? .standard = some error := hreach
      rw [deliver_of_barrier hstart hbarrier]
      exact .of_nil (.inr (by simp))

/-- So do those of dispatching, which makes none where the client cannot be built. -/
theorem onceUnlessAsked_dispatch (network : Network) (destination message : String)
    (answers : List Answer) :
    OnceUnlessAsked network.Serves destination message answers
      (dispatch network destination message answers).requests := by
  cases hbuild : network.buildFault with
  | none =>
    have hserves : network.Serves = (network.proxied = none) := by
      simp [Network.Serves, hbuild]
    rw [dispatch_of_built network answers hbuild, hserves]
    exact onceUnlessAsked_send network destination message answers
  | some fault =>
    rw [dispatch_of_fault network answers hbuild]
    exact .of_nil (.inr (by simp [Network.Serves, hbuild]))

/-- **One request, unless the endpoint asks again.** A send by a standard webhook, a dispatch, a
run on a source that is read, and the program with a destination and a text as its input carry
their message once unless the endpoint asks again; a run and the program make no request
otherwise. -/
theorem once_unless_asked (network : Network) (answers : List Answer) :
    (∀ destination message, OnceUnlessAsked (network.proxied = none) destination message answers
      ((Webhook.standard destination).send network message answers).requests) ∧
    (∀ destination message, OnceUnlessAsked network.Serves destination message answers
      (dispatch network destination message answers).requests) ∧
    (∀ destination source,
      (∀ message, (readMessage source).result = .ok message →
        OnceUnlessAsked network.Serves destination message answers
          (run network destination source answers).outcome.requests) ∧
      ((∀ message, (readMessage source).result ≠ .ok message) →
        (run network destination source answers).outcome.requests = [])) ∧
    ∀ invocation,
      (∀ destination message, CommandLine.parse invocation.arguments = .ok destination →
        Utf8.encode message = invocation.input →
        OnceUnlessAsked network.Serves destination message answers
          (execute network invocation answers).requests) ∧
      ((∀ destination, CommandLine.parse invocation.arguments ≠ .ok destination) ∨
          (∀ message, Utf8.encode message ≠ invocation.input) →
        (execute network invocation answers).requests = []) := by
  have hrun : ∀ destination source message, (readMessage source).result = .ok message →
      OnceUnlessAsked network.Serves destination message answers
        (run network destination source answers).outcome.requests := by
    intro destination source message hread
    rw [outcome_run_of_read network answers hread]
    exact onceUnlessAsked_dispatch network destination message answers
  refine ⟨fun destination message ↦ onceUnlessAsked_send network destination message answers,
    fun destination message ↦ onceUnlessAsked_dispatch network destination message answers,
    fun destination source ↦ ⟨hrun destination source, fun hunread ↦ ?_⟩,
    fun invocation ↦ ⟨fun destination message hparse hmessage ↦ ?_, fun hnone ↦ ?_⟩⟩
  · cases hread : (readMessage source).result with
    | error failure => rw [outcome_run_of_unread network answers hread]
    | ok message => exact absurd hread (hunread message)
  · rw [requests_execute_of_destination network answers hparse]
    exact hrun destination _ message (readMessage_singleton_eq_ok_iff.2 hmessage)
  · cases hparse : CommandLine.parse invocation.arguments with
    | error notice => exact requests_execute_of_notice network answers hparse
    | ok destination =>
      rw [requests_execute_of_destination network answers hparse]
      cases hread : (readMessage [.bytes invocation.input]).result with
      | error failure => rw [outcome_run_of_unread network answers hread]
      | ok message =>
        rcases hnone with hunparsed | hundecoded
        · exact absurd hparse (hunparsed destination)
        · exact absurd (readMessage_singleton_eq_ok_iff.1 hread) (hundecoded message)

/-- An answer that has a post repeated at another host. -/
private def asksElsewhere : Answer :=
  .ofParts "307 Temporary Redirect" [(Utf8.encode "Location", Utf8.encode "http://[::2]/take")] ""

/-- A start of the program with a destination and `hello` as its input. -/
private def helloToPost : Invocation :=
  ⟨[Utf8.encode "post", Utf8.encode "http://[::1]/hook"], Utf8.encode "hello", none⟩

theorem hello_is_posted_twice :
    ((Webhook.standard "http://[::1]/hook").send .scripted "hello" [asksElsewhere]).requests.map
        (fun r ↦ (r.method, r.url.text, r.bodyBytes)) =
          [(.post, "http://[::1]/hook", (Payload.mk "hello").json),
            (.post, "http://[::2]/take", (Payload.mk "hello").json)] ∧
      (dispatch .scripted "http://[::1]/hook" "hello" [asksElsewhere]).requests.length = 2 ∧
      (run .scripted "http://[::1]/hook" [.bytes (Utf8.encode "hello")]
        [asksElsewhere]).outcome.requests.length = 2 ∧
      (execute .scripted helloToPost [asksElsewhere]).requests.length = 2 := by
  decide +kernel

/-! ### The result of the first answer -/

namespace Http

variable {client : Client} {origin : Url} {r : Request} {answer : Answer} {reply : Reply}

/-- A good reply that is no redirect is the result, whatever follows. -/
theorem result_follow_of_stays (hreply : answer.reply = .ok reply)
    (hstays : ∀ url, ¬answer.RedirectsTo r.url url) (budget : Option Nat) (rest : List Answer) :
    (follow client origin budget r (answer :: rest)).result = .ok reply.status := by
  have htakes := takes_turn client origin budget r answer
  rw [follow_cons]
  generalize r.turn client origin budget answer = t at htakes
  cases htakes with
  | unanswered hfault => simp [hreply] at hfault
  | answered hreply' _ =>
    obtain rfl := Except.ok.inj (hreply.symm.trans hreply')
    rfl
  | exhausted hredirect => exact absurd hredirect (hstays _)
  | astray hredirect _ => exact absurd hredirect (hstays _)
  | onward hredirect _ _ => exact absurd hredirect (hstays _)

/-- A redirect at the end of a script fails where redirects are looked at. -/
theorem exists_error_of_redirectsTo {url : Url} (hredirect : answer.RedirectsTo r.url url)
    (limit : Nat) :
    ∃ failure, (follow client origin (some limit) r [answer]).result = .error failure := by
  have htakes := takes_turn client origin (some limit) r answer
  rw [follow_cons]
  generalize r.turn client origin (some limit) answer = t at htakes
  cases htakes with
  | unanswered _ => exact ⟨_, rfl⟩
  | answered _ hstays =>
    rcases hstays with hnone | hstays
    · simp at hnone
    · exact absurd hredirect (hstays url)
  | exhausted _ => exact ⟨_, rfl⟩
  | astray _ _ => exact ⟨_, rfl⟩
  | onward _ _ _ =>
    simp only [result_after, follow_nil]
    exact ⟨_, rfl⟩

end Http

section FirstAnswer

variable {start : Url × Option String} {answer : Answer} {reply : Reply}

theorem result_send_standard (hreach : network.proxied = none)
    (hstart : departure? destination = some start) :
    ((Webhook.standard destination).send network message answers).result =
      (postChain start message answers).result.mapError (.unsent destination) := by
  rw [← deliver_eq_postChain hstart hreach]
  rfl

/-- A first answer that is no redirect makes the result of a send, whatever follows. -/
theorem result_send_of_stays (hreach : network.proxied = none)
    (hstart : departure? destination = some start) (hreply : answer.reply = .ok reply)
    (hstays : ∀ url, ¬answer.RedirectsTo start.1 url) (rest : List Answer) :
    ((Webhook.standard destination).send network message (answer :: rest)).result =
      .ok reply.status := by
  rw [result_send_standard hreach hstart, postChain, result_follow_of_stays hreply hstays]
  rfl

/-- A send fails where the first answer is a redirect and the last one. -/
theorem result_send_ne_ok_of_redirectsTo (hreach : network.proxied = none)
    (hstart : departure? destination = some start) {url : Url}
    (hredirect : answer.RedirectsTo start.1 url) (status : Status) :
    ((Webhook.standard destination).send network message [answer]).result ≠ .ok status := by
  obtain ⟨failure, hfailure⟩ :
      ∃ failure, (postChain start message [answer]).result = .error failure :=
    exists_error_of_redirectsTo hredirect _
  rw [result_send_standard hreach hstart, ne_eq, mapError_eq_ok_iff, hfailure]
  exact nofun

/-- Sends succeed whatever follows the first answer exactly if that is no redirect. -/
theorem forall_exists_result_send_iff (hreach : network.proxied = none)
    (hstart : departure? destination = some start) (hreply : answer.reply = .ok reply)
    (message : String) :
    (∀ rest, ∃ status, ((Webhook.standard destination).send network message
        (answer :: rest)).result = .ok status) ↔ ∀ url, ¬answer.RedirectsTo start.1 url := by
  constructor
  · intro h url hredirect
    obtain ⟨status, hstatus⟩ := h []
    exact result_send_ne_ok_of_redirectsTo hreach hstart hredirect status hstatus
  · intro hstays rest
    exact ⟨reply.status, result_send_of_stays hreach hstart hreply hstays rest⟩

/-- **The first answer settles the result exactly if it is no redirect.** Let a standard webhook
reach the endpoint, and let the first answer be a good reply. If and only if the answer is no
redirect, its status is the result of the send whatever follows; and the same condition decides
whether dispatching, a run on a source that is read, and the program on a text succeed whatever
follows, as long as their client can be built. -/
theorem first_answer_settles_iff (hreach : network.proxied = none)
    (hstart : departure? destination = some start) (hreply : answer.reply = .ok reply) :
    (∀ message,
      (∀ rest, ((Webhook.standard destination).send network message (answer :: rest)).result =
        .ok reply.status) ↔ ∀ url, ¬answer.RedirectsTo start.1 url) ∧
    (∀ message,
      (∀ rest, (dispatch network destination message (answer :: rest)).result = .ok ()) ↔
        network.buildFault = none ∧ ∀ url, ¬answer.RedirectsTo start.1 url) ∧
    (∀ source message, (readMessage source).result = .ok message →
      ((∀ rest, (run network destination source (answer :: rest)).outcome.result = .ok ()) ↔
        network.buildFault = none ∧ ∀ url, ¬answer.RedirectsTo start.1 url)) ∧
    ∀ invocation message, CommandLine.parse invocation.arguments = .ok destination →
      Utf8.encode message = invocation.input →
      ((∀ rest, (execute network invocation (answer :: rest)).exitCode = 0) ↔
        network.buildFault = none ∧ ∀ url, ¬answer.RedirectsTo start.1 url) := by
  refine ⟨fun message ↦ ?_, fun message ↦ ?_, fun source message hread ↦ ?_,
    fun invocation message hparse hmessage ↦ ?_⟩
  · constructor
    · intro h url hredirect
      exact result_send_ne_ok_of_redirectsTo hreach hstart hredirect _ (h [])
    · exact result_send_of_stays hreach hstart hreply
  · rw [← forall_exists_result_send_iff hreach hstart hreply message, ← forall_and_left]
    exact forall_congr' fun rest ↦ result_dispatch_eq_ok_iff network _
  · rw [← forall_exists_result_send_iff hreach hstart hreply message, ← forall_and_left]
    exact forall_congr' fun rest ↦ result_run_eq_ok_iff network _ hread
  · rw [← forall_exists_result_send_iff hreach hstart hreply message, ← forall_and_left]
    exact forall_congr' fun rest ↦ exitCode_execute_eq_zero_iff network _ hparse hmessage

end FirstAnswer

/-- An answer that is no redirect although its status is one of the redirecting ones. -/
private def movedNowhere : Answer :=
  .ofParts "302 Found" [(Utf8.encode "Retry-After", Utf8.encode "1")] "moved"

theorem moved_nowhere_is_returned :
    Network.scripted.proxied = none ∧
      ∃ reply, movedNowhere.reply = .ok reply ∧ reply.status.code = 302 ∧
        ∀ rest, ((Webhook.standard "http://[::1]/hook").send .scripted "hello"
          (movedNowhere :: rest)).result = .ok reply.status := by
  have hcode : movedNowhere.reply.toOption.map (fun reply ↦ (reply.status.code, reply.location)) =
      some (302, none) := by
    decide +kernel
  obtain ⟨start, hstart⟩ : ∃ start, departure? "http://[::1]/hook" = some start :=
    Option.isSome_iff_exists.1 (by decide +kernel)
  cases hreply : movedNowhere.reply with
  | error fault => simp [hreply, Except.toOption] at hcode
  | ok reply =>
    obtain ⟨hstatus, hlocation⟩ : reply.status.code = 302 ∧ reply.location = none := by
      simpa [hreply, Except.toOption] using hcode
    have hstays : ∀ url, ¬movedNowhere.RedirectsTo start.1 url := by
      rintro url ⟨reply', value, hreply', -, hvalue, -⟩
      obtain rfl := Except.ok.inj (hreply.symm.trans hreply')
      simp [hlocation] at hvalue
    have hsend := (@first_answer_settles_iff .scripted "http://[::1]/hook" start movedNowhere reply
      rfl hstart hreply).1 "hello"
    exact ⟨rfl, reply, rfl, hstatus, hsend.2 hstays⟩

theorem redirect_result_is_settled_behind_it :
    asksElsewhere.reply.toOption.map (fun reply ↦ reply.status.code) = some 307 ∧
      ((Webhook.standard "http://[::1]/hook").send .scripted "hello" [asksElsewhere]).result.isOk =
        false ∧
      (dispatch .scripted "http://[::1]/hook" "hello" [asksElsewhere]).result.isOk = false ∧
      (run .scripted "http://[::1]/hook" [.bytes (Utf8.encode "hello")]
        [asksElsewhere]).outcome.result.isOk = false ∧
      (execute .scripted helloToPost [asksElsewhere]).exitCode = 1 ∧
      ((Webhook.standard "http://[::1]/hook").send .scripted "hello"
        [asksElsewhere, movedNowhere]).result.toOption.map Status.code = some 302 := by
  decide +kernel

end ChatHook
