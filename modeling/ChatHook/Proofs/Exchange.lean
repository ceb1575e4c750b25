import ChatHook.Proofs.Chain
import ChatHook.Proofs.Resolution
import ChatHook.Proofs.Results
import ChatHook.Webhook

/-!
# What a webhook and an endpoint exchange

A send is settled by the webhook and the answers. This file says how, without reference to the
function that sends: which request stands at each index, what each request carries, and how the
send ends (`IsExchange`). The next request exists exactly where the answer at the index redirects
and the requests so far, the first one included, are fewer than the limit of the client
(`exists_budget_iff`). A body is posted unchanged until an answer turns the request into a GET, and
from there on no request has a body: a later redirect that keeps the body has none to keep.

Two things might be expected otherwise. A destination that asks for a secure connection is not
refused as one that is no destination for a message, but as one that cannot be connected to; and a
limit of `n` is one of `n` URLs, so that it allows one redirect less
(`secure_hook_and_limit_of_one`).

A redirect also fails where it leaves plain connections. The statements here are about scripts that
stay plain: every `Location` that names a scheme names `http` (`Answer.StaysPlain`), hence all
requests of a chain go to URLs of this scheme (`scheme_of_mem_requests_follow`).

## Main results

* `endsWith_follow`: how a chain ends.
* `send_is_exchange`: a send by a webhook that reaches the endpoint is an exchange.
-/

namespace ChatHook

namespace Http

/-! ### Scripts that stay plain -/

/-- An answer stays with plain connections, as far as it says where to go. -/
def Answer.StaysPlain (answer : Answer) : Prop :=
  match answer.reply with
  | .error _ => True
  | .ok reply => ∀ scheme ∈ reply.location.bind namedScheme?, scheme = "http"

instance (answer : Answer) : Decidable answer.StaysPlain :=
  match h : answer.reply with
  | .error _ => .isTrue (by simp [Answer.StaysPlain, h])
  | .ok reply =>
    decidable_of_iff (∀ scheme ∈ reply.location.bind namedScheme?, scheme = "http")
      (by simp [Answer.StaysPlain, h])

theorem Answer.staysPlain_closed : Answer.closed.StaysPlain := trivial

theorem Answer.RedirectsTo.scheme {answer : Answer} {current url : Url}
    (h : answer.RedirectsTo current url) (hplain : answer.StaysPlain)
    (hcurrent : current.scheme = "http") : url.scheme = "http" := by
  obtain ⟨reply, value, hreply, -, hvalue, hurl⟩ := h
  rcases scheme_location? hurl with hbase | hnamed
  · rw [hbase, hcurrent]
  · rw [Answer.StaysPlain, hreply] at hplain
    exact hplain url.scheme (by simp [hvalue, hnamed])

/-- In a plain script every answer is plain, also behind its end. -/
theorem staysPlain_answerTo {answers : List Answer} (h : ∀ answer ∈ answers, answer.StaysPlain)
    (i : Nat) : (answerTo answers i).StaysPlain := by
  rw [answerTo, List.getD_eq_getElem?_getD]
  cases hget : answers[i]? with
  | none => exact Answer.staysPlain_closed
  | some answer => exact h answer (List.mem_of_getElem? hget)

/-! ### Requests of a chain -/

variable {client : Client} {origin : Url} {budget : Option Nat} {first : Request}
  {answers : List Answer}

/-- A chain that starts with a plain connection keeps to them. -/
theorem scheme_of_mem_requests_follow (hfirst : first.url.scheme = "http") {r : Request}
    (h : r ∈ (follow client origin budget first answers).requests) : r.url.scheme = "http" := by
  refine forall_mem_requests_follow (P := fun q ↦ q.url.scheme = "http") ?_ hfirst answers r h
  intro budget q answer next _ hturn
  obtain ⟨_, url, _, _, _, hscheme, _, rfl⟩ := turn_eq_onward_iff.1 hturn
  exact hscheme

/-- In a plain script no redirect leaves plain connections. -/
theorem scheme_of_redirectsTo (hfirst : first.url.scheme = "http")
    (hplain : ∀ answer ∈ answers, answer.StaysPlain) {i : Nat} {r : Request}
    (hr : (follow client origin budget first answers).requests[i]? = some r) {url : Url}
    (h : (answerTo answers i).RedirectsTo r.url url) : url.scheme = "http" :=
  h.scheme (staysPlain_answerTo hplain i)
    (scheme_of_mem_requests_follow hfirst (List.mem_of_getElem? hr))

/-! ### Limits -/

/-- One more redirect is followed exactly if the URLs so far are fewer than the limit. -/
theorem exists_budget_iff {i : Nat} :
    (∃ budget, client.budget = some budget ∧ i < budget) ↔
      ∃ limit, client.redirects = some limit ∧ i + 1 < limit := by
  rw [Client.budget]
  cases client.redirects with
  | none => simp
  | some limit => simp [Nat.lt_sub_iff_add_lt]

/-! ### The end of a chain -/

/-- How a chain ends whose last request stands at an index, goes to a URL and gets an answer. A
redirect ends it only where the client is at its limit or looks at no redirects. -/
structure EndsWith (client : Client) (last : Nat) (current : Url) (answer : Answer)
    (result : Except Failure Status) : Prop where
  ok_iff : ∀ status, result = .ok status ↔ ∃ reply, answer.reply = .ok reply ∧
    reply.status = status ∧ (client.redirects = none ∨ ∀ url, ¬answer.RedirectsTo current url)
  redirect_iff : (∃ failure, result = .error failure ∧ failure.kind = .redirect) ↔
    (∃ limit, client.redirects = some limit ∧ limit ≤ last + 1) ∧
      ∃ url, answer.RedirectsTo current url
  request_iff : (∃ failure, result = .error failure ∧ failure.kind = .request) ↔
    ∃ fault, answer.reply = .error fault

/-- A plain redirect does not end a chain that may follow one more; every other final turn ends it
as its answer tells. -/
theorem endsWith_of_takes {r : Request} {answer : Answer} {k : Nat}
    {result : Except Failure Status}
    (h : r.Takes client origin answer (client.budget.map (· - k)) (.final result))
    (hscheme : ∀ url, answer.RedirectsTo r.url url → url.scheme = "http") :
    EndsWith client k r.url answer result := by
  generalize hleft : client.budget.map (· - k) = left at h
  cases h with
  | @unanswered _ fault hreply =>
    have hno : ∀ url, ¬answer.RedirectsTo r.url url := by
      rintro url ⟨reply, -, hreply', -⟩
      simp [hreply] at hreply'
    exact ⟨by simp [hreply], by simp [hno, Failure.kind], by simp [hreply, Failure.kind]⟩
  | @answered _ reply hreply hstays =>
    have hstays : client.redirects = none ∨ ∀ url, ¬answer.RedirectsTo r.url url := by
      rwa [← hleft, Client.budget, Option.map_eq_none_iff, Option.map_eq_none_iff] at hstays
    refine ⟨fun status ↦ ?_, ?_, by simp [hreply]⟩
    · simp [hreply, hstays]
    · simp only [reduceCtorEq, false_and, exists_false, false_iff, not_and, not_exists]
      rintro ⟨limit, hlimit, -⟩
      simpa [hlimit] using hstays
  | @exhausted url hredirect =>
    obtain ⟨limit, hlimit, hle⟩ :
        ∃ limit, client.redirects = some limit ∧ limit ≤ k + 1 := by
      simpa [Client.budget, Nat.sub_sub, Nat.sub_eq_zero_iff_le, Nat.add_comm] using hleft
    obtain ⟨reply, -, hreply, -⟩ := id hredirect
    refine ⟨fun status ↦ ?_, ?_, by simp [hreply, Failure.kind]⟩
    · simp only [reduceCtorEq, hlimit, false_or, false_iff]
      rintro ⟨_, -, -, hno⟩
      exact hno url hredirect
    · exact ⟨fun _ ↦ ⟨⟨limit, hlimit, hle⟩, url, hredirect⟩, fun _ ↦ ⟨_, rfl, rfl⟩⟩
  | astray hredirect hne => exact absurd (hscheme _ hredirect) hne

/-- How a plain chain ends that may use the whole budget of its client. -/
theorem endsWith_follow (hfirst : first.url.scheme = "http")
    (hplain : ∀ answer ∈ answers, answer.StaysPlain) {k : Nat} {r : Request}
    (hk : (follow client origin client.budget first answers).requests.length = k + 1)
    (hr : (follow client origin client.budget first answers).requests[k]? = some r) :
    EndsWith client k r.url (answerTo answers k)
      (follow client origin client.budget first answers).result := by
  have htakes := takes_turn client origin (client.budget.map (· - k)) r (answerTo answers k)
  rw [turn_last hk hr] at htakes
  refine endsWith_of_takes htakes fun url hredirect ↦ ?_
  exact scheme_of_redirectsTo hfirst hplain hr hredirect

end Http

/-! ### Sends -/

open Http

/-- An outcome is what a webhook exchanges when its first request goes to `start` and posts a
payload, told by the answers alone. Requests and answers count from 0. -/
structure IsExchange (webhook : Webhook) (start : Url) (payload : Bytes) (answers : List Answer)
    (o : Outcome Status) : Prop where
  /-- The first request posts the payload to the start. -/
  first : ∃ r, o.requests[0]? = some r ∧ r.url = start ∧ r.method = .post ∧ r.body = some payload
  /-- There is a next request where the answer redirects and the requests so far are fewer than the
  limit, and it goes where the redirect points. -/
  next_iff : ∀ i r, o.requests[i]? = some r → ∀ url,
    (∃ next, o.requests[i + 1]? = some next ∧ next.url = url) ↔
      (answerTo answers i).RedirectsTo r.url url ∧
        ∃ limit, webhook.client.redirects = some limit ∧ i + 1 < limit
  /-- The payload is posted until an answer turns to GET. -/
  posts : ∀ i r, o.requests[i]? = some r → (∀ j < i, ¬(answerTo answers j).TurnsToGet) →
    r.method = .post ∧ r.body = some payload
  /-- From there on there are no bodies. -/
  gets : ∀ i r, o.requests[i]? = some r → (∃ j < i, (answerTo answers j).TurnsToGet) →
    r.method = .get ∧ r.body = none
  /-- The answer to the last request makes the result. -/
  ends : ∃ last r result, o.requests.length = last + 1 ∧ o.requests[last]? = some r ∧
    EndsWith webhook.client last r.url (answerTo answers last) result ∧
    o.result = result.mapError (.unsent webhook.url)
  /-- Each request takes one answer. -/
  unused : o.unused = answers.drop o.requests.length

variable {network : Network} {webhook : Webhook} {message : String} {answers : List Answer}

theorem isExchange_send_of_departure {start : Url × Option String}
    (hstart : departure? webhook.url = some start)
    (hreach : network.barrier? webhook.client = none)
    (hplain : ∀ answer ∈ answers, answer.StaysPlain) :
    IsExchange webhook start.1 (Payload.mk message).json answers
      (webhook.send network message answers) := by
  obtain ⟨-, -, -, hscheme, -⟩ := eq_takeCredentials_of_departure hstart
  simp only [Webhook.send, deliver_of_departure hstart hreach]
  refine ⟨?_, fun i r hr url ↦ ?_, fun i r hr hposts ↦ ?_, fun i r hr hgets ↦ ?_, ?_, ?_⟩
  · exact ⟨_, requests_follow_zero _ _ answers, rfl, rfl, rfl⟩
  · rw [exists_next_iff hr url, exists_budget_iff]
    constructor
    · rintro ⟨hredirect, -, hlimit⟩
      exact ⟨hredirect, hlimit⟩
    · rintro ⟨hredirect, hlimit⟩
      exact ⟨hredirect, scheme_of_redirectsTo hscheme hplain hr hredirect, hlimit⟩
  · have hbody : r.body = some (Payload.mk message).json := body_of_not_turnsToGet hr hposts
    exact ⟨Request.method_of_body hbody, hbody⟩
  · obtain ⟨j, hj, hget⟩ := hgets
    have hbody : r.body = none := body_of_turnsToGet hr hj hget
    exact ⟨Request.method_of_no_body hbody, hbody⟩
  · obtain ⟨last, r, hlast, hr⟩ := exists_last_request
    exact ⟨last, r, _, hlast, hr, endsWith_follow hscheme hplain hlast hr, rfl⟩
  · exact unused_follow _ _ answers

/-- **The exchange of a send.** For a webhook whose client reaches the endpoint and a script whose
answers stay plain: if the destination gives no URL from which to start, nothing is sent, and the
failure is one of the destination, or one of the connection where the destination asks for a secure
one; and if it gives one, what is sent, to where, and what comes of it is the exchange that the
answers determine. The limit of a webhook that is made without options is 10. -/
theorem send_is_exchange (hreach : network.barrier? webhook.client = none)
    (hplain : ∀ answer ∈ answers, answer.StaysPlain) :
    (departure? webhook.url = none →
      (webhook.send network message answers).requests = [] ∧
        (webhook.send network message answers).unused = answers ∧
        ∃ failure, (webhook.send network message answers).result =
            .error (.unsent webhook.url failure) ∧
          (IsSecure webhook.url → failure.kind = .connect) ∧
          (¬IsSecure webhook.url → failure.kind = .builder)) ∧
      (∀ start, departure? webhook.url = some start →
        IsExchange webhook start.1 (Payload.mk message).json answers
          (webhook.send network message answers)) ∧
      ∀ destination, (Webhook.standard destination).client.redirects = some 10 := by
  refine ⟨fun hstart ↦ ?_, fun start hstart ↦ ?_, fun destination ↦ rfl⟩
  · obtain ⟨failure, hstop, hkind⟩ := deliver_of_no_departure webhook.client network hstart
      (Payload.mk message).json answers
    simp only [Webhook.send, hstop, Delivery.stop]
    exact ⟨trivial, trivial, failure, rfl, hkind⟩
  · exact isExchange_send_of_departure hstart hreach hplain

/-- A webhook that asks for a secure connection. -/
private def secureHook : Webhook :=
  .standard "https://[::1]/hook"

/-- A webhook with a limit of one redirect. -/
private def limitedHook : Webhook :=
  ⟨"http://[::1]/hook", { Client.standard with redirects := some 1 }⟩

/-- A script that has a post repeated at another host before it is answered. -/
private def onceMore : List Answer :=
  [.ofParts "307 Temporary Redirect" [(Utf8.encode "Location", Utf8.encode "http://[::2]/more")] "",
    .ofParts "204 No Content" [] ""]

theorem secure_hook_and_limit_of_one :
    departure? secureHook.url = none ∧
      (errorOf? (secureHook.send .scripted "hello" []).result).map SendError.kindName =
        some "Connect" ∧
      limitedHook.client.redirects = some 1 ∧
      (limitedHook.send .scripted "hello" onceMore).requests.length = 1 ∧
      (errorOf? (limitedHook.send .scripted "hello" onceMore).result).map SendError.kindName =
        some "Redirect" := by
  decide +kernel

/-- A script that repeats a post at another host, turns it into a GET and repeats that. -/
private def threeRedirects : List Answer :=
  [.ofParts "307 Temporary Redirect" [(Utf8.encode "Location", Utf8.encode "http://[::2]/a")] "",
    .ofParts "302 Found" [(Utf8.encode "Location", Utf8.encode "b?c")] "",
    .ofParts "308 Permanent Redirect" [(Utf8.encode "Location", Utf8.encode "/d")] "",
    .ofParts "404 Not Found" [] "", .closed]

theorem send_along_three_redirects :
    Network.scripted.barrier? (Webhook.standard "http://[::1]/hook").client = none ∧
      (∀ answer ∈ threeRedirects, answer.StaysPlain) ∧
      (∃ start, departure? "http://[::1]/hook" = some start ∧
        IsExchange (.standard "http://[::1]/hook") start.1 (Payload.mk "hello").json threeRedirects
          ((Webhook.standard "http://[::1]/hook").send .scripted "hello" threeRedirects)) ∧
      ((Webhook.standard "http://[::1]/hook").send .scripted "hello" threeRedirects).requests.map
        (fun r ↦ (r.method, r.url.text)) =
          [(.post, "http://[::1]/hook"), (.post, "http://[::2]/a"), (.get, "http://[::2]/b?c"),
            (.get, "http://[::2]/d")] := by
  have hplain : ∀ answer ∈ threeRedirects, answer.StaysPlain := by
    decide +kernel
  obtain ⟨start, hstart⟩ : ∃ start, departure? "http://[::1]/hook" = some start :=
    Option.isSome_iff_exists.1 (by decide +kernel)
  obtain ⟨-, hexchange, -⟩ :=
    @send_is_exchange .scripted (.standard "http://[::1]/hook") "hello" threeRedirects rfl hplain
  exact ⟨rfl, hplain, ⟨start, hstart, hexchange start hstart⟩, by decide +kernel⟩

end ChatHook
