import ChatHook.Proofs.Captured
import ChatHook.Proofs.Json.Recovery
import ChatHook.Proofs.LocalUrl
import ChatHook.Proofs.WrittenHead

/-!
# One-shot endpoints and their clients

What a client without a proxy sends to an endpoint is what the endpoint shows at the end. Whatever
the status of the endpoint, as long as it stays in its line, the answer has the two fields that the
endpoint writes and no others (`fields_of_readHead`). So it points nowhere else: the client makes
one request (`send_of_reply`), and this one is captured as it was written (`capture_wire`). With
another connection the endpoint is not content, whoever made it.

## Main results

* `location_of_readReply`: the answer of an endpoint has no `Location`.
* `endpoint_shows_what_is_sent`: what an endpoint shows and what a send to it returns.
-/

namespace ChatHook

namespace Http

/-! ### The status line -/

/-- A digit is read from what stands in front of a carriage return. -/
theorem exists_of_readDigit {front tail rest : Bytes} {d : Nat}
    (h : readDigit (front ++ cr :: tail) = .done d rest) :
    ∃ back, rest = back ++ cr :: tail ∧ back ⊆ front := by
  cases front with
  | nil =>
    have hcr : ¬(0x30 ≤ cr ∧ cr ≤ 0x39) := by decide
    rw [List.nil_append, readDigit, if_neg hcr] at h
    cases h
  | cons b front =>
    rw [List.cons_append, readDigit] at h
    split_ifs at h
    · cases h
      exact ⟨front, rfl, List.subset_cons_self b front⟩

/-- A code is read from what stands in front of a carriage return. -/
theorem exists_of_readCode {front tail rest : Bytes} {code : Nat}
    (h : readCode (front ++ cr :: tail) = .done code rest) :
    ∃ back, rest = back ++ cr :: tail ∧ back ⊆ front := by
  simp only [readCode, Scan.andThen_eq_done_iff] at h
  obtain ⟨a, rest₁, h₁, b, rest₂, h₂, c, rest₃, h₃, h₄⟩ := h
  obtain ⟨back₁, rfl, hback₁⟩ := exists_of_readDigit h₁
  obtain ⟨back₂, rfl, hback₂⟩ := exists_of_readDigit h₂
  obtain ⟨back₃, rfl, hback₃⟩ := exists_of_readDigit h₃
  cases h₄
  exact ⟨back₃, rfl, fun b hb ↦ hback₁ (hback₂ (hback₃ hb))⟩

/-- A reason ends with its line. -/
theorem rest_of_skipReason {front tail rest : Bytes} (hcr : cr ∉ front) (hlf : lf ∉ front)
    (h : skipReason (front ++ cr :: lf :: tail) = .done () rest) : rest = tail := by
  induction front with
  | nil =>
    cases h
    rfl
  | cons b front ih =>
    have hbcr : b ≠ cr := fun hb ↦ hcr (hb ▸ List.mem_cons_self)
    have hblf : b ≠ lf := fun hb ↦ hlf (hb ▸ List.mem_cons_self)
    rw [List.cons_append, skipReason, if_neg hbcr, if_neg hblf] at h
    split_ifs at h
    · exact ih (fun hmem ↦ hcr (List.mem_cons_of_mem b hmem))
        (fun hmem ↦ hlf (List.mem_cons_of_mem b hmem)) h

/-- A status line ends where it was ended. -/
theorem rest_of_endStatusLine {front tail rest : Bytes} (hcr : cr ∉ front) (hlf : lf ∉ front)
    (h : endStatusLine (front ++ cr :: lf :: tail) = .done () rest) : rest = tail := by
  cases front with
  | nil =>
    cases h
    rfl
  | cons b front =>
    have hbcr : b ≠ cr := fun hb ↦ hcr (hb ▸ List.mem_cons_self)
    have hblf : b ≠ lf := fun hb ↦ hlf (hb ▸ List.mem_cons_self)
    rw [List.cons_append, endStatusLine, if_neg hbcr, if_neg hblf] at h
    split_ifs at h
    · exact rest_of_skipReason (fun hmem ↦ hcr (List.mem_cons_of_mem b hmem))
        (fun hmem ↦ hlf (List.mem_cons_of_mem b hmem)) h

/-! ### The answer of an endpoint -/

/-- The field that announces no body. -/
private def emptyBody : WrittenField where
  name := Utf8.encode "Content-Length"
  value := Utf8.encode "0"

/-- The field that announces the end of the connection. -/
private def lastAnswer : WrittenField where
  name := Utf8.encode "Connection"
  value := Utf8.encode "close"

end Http

open Http

variable {e : Endpoint}

/-- What an endpoint answers, byte by byte around the status. -/
theorem reply_eq (e : Endpoint) :
    e.reply = Utf8.encode "HTTP/1." ++ digitByte 1 :: 0x20 :: (Utf8.encode e.status ++ cr :: lf ::
      ([emptyBody, lastAnswer].flatMap WrittenField.bytes ++ cr :: lf :: [])) := by
  have hstart : Utf8.encode "HTTP/1.1 " = Utf8.encode "HTTP/1." ++ [digitByte 1, 0x20] := by decide
  have hend : Utf8.encode "\r\nContent-Length: 0\r\nConnection: close\r\n\r\n" =
      cr :: lf :: ([emptyBody, lastAnswer].flatMap WrittenField.bytes ++ cr :: lf :: []) := by
    decide
  rw [Endpoint.reply, Utf8.encode_append, Utf8.encode_append, hstart, hend]
  simp only [List.append_assoc, List.cons_append, List.nil_append]

/-- The head of an answer is all of it, and has the two fields of the endpoint. -/
theorem fields_of_readHead (h : ∀ c ∈ e.status.toList, c ≠ '\r' ∧ c ≠ '\n') {head : Head}
    {rest : Bytes} (hread : readHead e.reply = .done head rest) :
    head.fields = [emptyBody.field, lastAnswer.field] ∧ rest = [] := by
  have hcr : cr ∉ Utf8.encode e.status := fun hmem ↦
    (h _ (Utf8.mem_of_mem_encode (by decide) (by decide) hmem)).1 rfl
  have hlf : lf ∉ Utf8.encode e.status := fun hmem ↦
    (h _ (Utf8.mem_of_mem_encode (by decide) (by decide) hmem)).2 rfl
  rw [reply_eq, readHead_version le_rfl, readBehindVersion, if_neg (not_not_intro rfl)] at hread
  simp only [Scan.andThen_eq_done_iff] at hread
  obtain ⟨code, rest₁, hcode, _, rest₂, hline, fields, rest₃, hfields, hdone⟩ := hread
  obtain ⟨back, rfl, hback⟩ := exists_of_readCode hcode
  obtain rfl := rest_of_endStatusLine (fun hmem ↦ hcr (hback hmem)) (fun hmem ↦ hlf (hback hmem))
    hline
  rw [readFields_bytes [emptyBody, lastAnswer] (by decide)] at hfields
  split_ifs at hdone
  · cases hfields
    cases hdone
    exact ⟨rfl, rfl⟩

/-- The answer of an endpoint has no `Location`. -/
theorem location_of_readReply (h : ∀ c ∈ e.status.toList, c ≠ '\r' ∧ c ≠ '\n') {reply : Reply}
    (hread : readReply e.reply = .ok reply) : reply.location = none := by
  rw [readReply] at hread
  split at hread
  · cases hread
  · cases hread
  · rename_i head rest hhead
    obtain ⟨hfields, rfl⟩ := fields_of_readHead h hhead
    split_ifs at hread
    · -- Behind an informational head the connection ends.
      rw [readReply] at hread
      cases hread
    · split at hread
      · cases hread
      · obtain rfl := Except.ok.inj hread
        simp only [Head.reply, Head.values, hfields]
        decide

/-! ### One request -/

namespace Http

/-- How a delivery ends at an answer that points nowhere else. -/
def Answer.outcome (answer : Answer) (origin : Url) : Except Failure Status :=
  match answer.reply with
  | .error fault => .error (.badReply origin fault)
  | .ok reply => .ok reply.status

/-- Without a `Location` there is no further request. -/
theorem follow_of_location_eq_none {answer : Answer}
    (h : ∀ reply, answer.reply = .ok reply → reply.location = none) (client : Client)
    (origin : Url) (budget : Option Nat) (r : Request) :
    follow client origin budget r [answer] = ⟨[r], [], answer.outcome origin⟩ := by
  cases hreply : answer.reply with
  | error fault => simp only [follow, Answer.outcome, hreply]
  | ok reply =>
    have hnext : r.next? client reply = none := by
      rw [Request.next?, h reply hreply]
      split <;> rfl
    simp only [follow, Answer.outcome, hreply, hnext]

end Http

/-- A send to an endpoint makes one request. -/
theorem send_of_reply (h : ∀ c ∈ e.status.toList, c ≠ '\r' ∧ c ≠ '\n') {network : Network}
    {webhook : Webhook} {start : Url × Option String} (hstart : departure? webhook.url = some start)
    (hreach : network.barrier? webhook.client = none) (message : String) :
    (webhook.send network message [.sends e.reply]).requests =
        [firstRequest webhook.client start (Payload.mk message).json] ∧
      (webhook.send network message [.sends e.reply]).result =
        ((Answer.sends e.reply).outcome start.1).mapError (.unsent webhook.url) := by
  have hlocation : ∀ reply, (Answer.sends e.reply).reply = .ok reply → reply.location = none :=
    fun reply hreply ↦ location_of_readReply h hreply
  have hfollow := follow_of_location_eq_none hlocation webhook.client start.1
    webhook.client.budget (firstRequest webhook.client start (Payload.mk message).json)
  simp only [Webhook.send, deliver_of_departure hstart hreach, hfollow]
  exact ⟨trivial, trivial⟩

/-- Where a send that ends at an answer comes from does not matter for its status or the kind of its
error. -/
theorem kindName_outcome (answer : Answer) (origin origin' : Url)
    (destination destination' : String) :
    ((answer.outcome origin).mapError (.unsent destination)).mapError SendError.kindName =
      ((answer.outcome origin').mapError (.unsent destination')).mapError SendError.kindName := by
  rw [Answer.outcome, Answer.outcome]
  cases answer.reply <;> rfl

/-- The answer of an endpoint is the one with its status and without a body. -/
theorem ofParts_status (e : Endpoint) : Answer.ofParts e.status [] "" = .sends e.reply := by
  have hend : "\r\nContent-Length: 0\r\nConnection: close\r\n\r\n" =
      "\r\n" ++ ("Content-Length: " ++ toString (Utf8.size "") ++
        "\r\nConnection: close\r\n\r\n" ++ "") := by
    decide
  rw [Answer.ofParts, Endpoint.reply, hend, List.flatMap_nil, List.append_nil,
    ← Utf8.encode_append, String.append_assoc]

/-! ### What an endpoint shows -/

/-- A captured request is the one that posts a message to an endpoint. -/
structure Captured.Shows (captured : Captured) (message : String) : Prop where
  method : captured.method = "POST"
  path : captured.path = "/api/webhooks/1/token"
  body : captured.body = (Payload.mk message).json
  contentType : ∀ name, sameName name "content-type" = true →
    captured.header? name = some "application/json"
  contentLength : ∀ name, sameName name "content-length" = true →
    captured.header? name = some (toString (Payload.mk message).json.length)
  json : captured.json = .ok (.object [("content", .string message)])

section Request

variable {client : Client} (port : Nat)

theorem originTarget_firstRequest (client : Client) (body : Bytes) :
    (firstRequest client (localUrl port, none) body).originTarget = Endpoint.path := by
  have hpath := pathText_localUrl port
  rw [Request.originTarget, firstRequest, hpath]
  exact String.append_empty

/-- The values of the headers of a request to an endpoint end no line. -/
theorem lf_notMem_of_mem_headers (hagent : ∀ agent ∈ client.userAgent, isHeaderValue agent = true)
    (body : Bytes) : ∀ header ∈ (firstRequest client (localUrl port, none) body).headers,
      '\n' ∉ header.2.toList := by
  have hlength : '\n' ∉ (toString body.length).toList := fun hmem ↦
    absurd (isDigit_of_mem_toString hmem) (by decide)
  have hhost : '\n' ∉ (localUrl port).authorityText.toList := fun hmem ↦
    absurd ((Url.bareAuthority_authorityText (isWeb_localUrl port)).2 _ hmem) (by decide)
  have hvalue : ∀ agent ∈ client.userAgent, '\n' ∉ agent.toList := fun agent hmem hlf ↦
    absurd (List.all_eq_true.1 (hagent agent hmem) _ hlf) (by decide)
  intro header hheader
  simp only [Request.headers, firstRequest, List.mem_append, List.mem_singleton,
    Option.mem_toList, Option.map_eq_some_iff, Option.map_some, Option.map_none,
    Option.toList_some, Option.toList_none, List.not_mem_nil, or_false] at hheader
  rcases hheader with (((rfl | rfl) | rfl) | rfl) | ⟨agent, hmem, rfl⟩
  · decide
  · exact hlength
  · decide
  · exact hhost
  · exact hvalue agent hmem

/-- The request that posts a message to an endpoint is captured. -/
theorem exists_shows (hagent : ∀ agent ∈ client.userAgent, isHeaderValue agent = true)
    {message : String} (hmemory : (Payload.mk message).json.length < Numeral.signedBound) :
    ∃ captured, capture ((firstRequest client (localUrl port, none)
      (Payload.mk message).json).wire Endpoint.path) = .ok captured ∧ captured.Shows message := by
  have hcapture := capture_wire (r := firstRequest client (localUrl port, none)
    (Payload.mk message).json) (by decide : Endpoint.path ≠ "")
    (List.all_iff_forall_prop.1 (by decide))
    (lf_notMem_of_mem_headers port hagent _) hmemory
  refine ⟨_, hcapture, rfl, rfl, rfl, fun name hname ↦ ?_, fun name hname ↦ ?_, ?_⟩
  · exact lookUp?_shown_contentType _ hname
  · exact lookUp?_shown_contentLength _ hname
  · exact congrArg (Except.mapError CaptureFault.badJson) (Json.parse_payload message)

end Request

/-- A client that is made has a user agent that can be a header. -/
theorem client_of_make? {network : Network} {url : String} {options : ClientOptions}
    {webhook : Webhook} (h : Webhook.make? network url (some options) = some webhook) :
    webhook.url = url ∧ webhook.client.usesProxy = options.usesProxy ∧
      ∀ agent ∈ webhook.client.userAgent, isHeaderValue agent = true := by
  obtain ⟨client, hclient, rfl⟩ := Option.map_eq_some_iff.1 h
  rw [ClientOptions.client?] at hclient
  split_ifs at hclient with hagent
  · cases hclient
    refine ⟨rfl, rfl, fun agent hmem ↦ ?_⟩
    have hsome : options.userAgent = some agent := hmem
    simpa [hsome] using hagent

/-- **An endpoint shows what is sent to it.** Let an endpoint be started on any port, with a status
that stays in its line, and let a webhook to its URL be made with a client that uses no proxy. A
send makes one request. If no other connection is made, the endpoint is content at the end and shows
the request with the message; if there is another one, it says so. The send ends as one along the
script with the single answer of the same status: with the same result at the same URL, and with the
same status or an error of the same kind wherever a request can be sent to.

The payload is what fits into memory: a longer one could not have been sent. -/
theorem endpoint_shows_what_is_sent {port : UInt16} {status message : String}
    {options : ClientOptions} {webhook : Webhook} {network : Network}
    (hstatus : ∀ c ∈ status.toList, c ≠ '\r' ∧ c ≠ '\n')
    (hmake : Webhook.make? network (Endpoint.start port status).url (some options) = some webhook)
    (hproxy : options.usesProxy = false) (hreach : network.direct = none)
    (hmemory : (Payload.mk message).json.length < Numeral.signedBound) :
    let o := webhook.send network message [.sends (Endpoint.start port status).reply]
    o.requests.length = 1 ∧
      (∃ captured, Endpoint.finish (Endpoint.firstWire o) 0 = .ok captured ∧
        captured.Shows message) ∧
      (∀ more, 0 < more → ∃ fault, Endpoint.finish (Endpoint.firstWire o) more = .error fault ∧
        fault.message = "More than one request was sent") ∧
      (∀ (scripted : Webhook) (network' : Network), network'.barrier? scripted.client = none →
        scripted.url = webhook.url →
        (scripted.send network' message [.ofParts status [] ""]).result = o.result) ∧
      ∀ (scripted : Webhook) (network' : Network) (start : Url × Option String) (message' : String),
        network'.barrier? scripted.client = none → departure? scripted.url = some start →
        (scripted.send network' message' [.ofParts status [] ""]).result.mapError
            SendError.kindName = o.result.mapError SendError.kindName := by
  intro o
  obtain ⟨hurl, husesProxy, hagent⟩ := client_of_make? hmake
  have hdirect : network.barrier? webhook.client = none := by
    rw [Network.barrier?, husesProxy, hproxy]
    exact hreach
  have hstart : departure? webhook.url = some (localUrl port.toNat, none) := by
    rw [hurl]
    exact departure?_url_start port status
  have hline : ∀ c ∈ (Endpoint.start port status).status.toList, c ≠ '\r' ∧ c ≠ '\n' := hstatus
  obtain ⟨hrequests, hresult⟩ := send_of_reply hline hstart hdirect message
  have hwire : Endpoint.firstWire o = (firstRequest webhook.client (localUrl port.toNat, none)
      (Payload.mk message).json).wire Endpoint.path := by
    simp only [Endpoint.firstWire, o, hrequests, originTarget_firstRequest]
  obtain ⟨captured, hcapture, hshows⟩ := exists_shows port.toNat hagent hmemory
  rw [← hwire] at hcapture
  have hscript : Answer.ofParts status [] "" = .sends (Endpoint.start port status).reply :=
    ofParts_status (Endpoint.start port status)
  have hone : o.requests.length = 1 := congrArg List.length hrequests
  refine ⟨hone, ⟨captured, ?_, hshows⟩, fun more hmore ↦ ⟨.secondRequest, ?_, rfl⟩,
    fun scripted network' hscripted hsame ↦ ?_,
    fun scripted network' start message' hscripted hdepart ↦ ?_⟩
  · simp only [Endpoint.finish, hcapture, if_true]
  · simp only [Endpoint.finish, hcapture, if_neg (Nat.pos_iff_ne_zero.1 hmore)]
  · obtain ⟨-, hresult'⟩ := send_of_reply hline (hsame ▸ hstart) hscripted message
    rw [hscript, hresult', hresult, hsame]
  · obtain ⟨-, hresult'⟩ := send_of_reply hline hdepart hscripted message'
    rw [hscript, hresult', hresult]
    exact kindName_outcome _ _ _ _ _

/-- A message with lines that look like the end of a head and another length, and with characters of
more than one byte. -/
private def headLike : String :=
  "one: two\r\n\r\nContent-Length: 0\r\n\r\nüñ😀"

theorem endpoint_shows_head_like_lines :
    (∃ captured, (Endpoint.start 8080 "500 Internal Server Error").finishSent headLike 0 =
        .ok captured ∧ captured.Shows headLike) ∧
      (∃ fault, (Endpoint.start 8080 "500 Internal Server Error").finishSent headLike 1 =
        .error fault ∧ fault.message = "More than one request was sent") ∧
      ((Endpoint.start 8080 "500 Internal Server Error").send headLike).result.mapError
        SendError.kindName = .ok ⟨500⟩ := by
  have hmake : Webhook.make? Endpoint.network
      (Endpoint.start 8080 "500 Internal Server Error").url (some ⟨none, none, true, false⟩) =
        some ⟨(Endpoint.start 8080 "500 Internal Server Error").url, Endpoint.client⟩ := rfl
  have hmemory : (Payload.mk headLike).json.length < Numeral.signedBound := by decide +kernel
  have hreach : Endpoint.network.direct = none := rfl
  obtain ⟨-, hshows, hmore, -, hscripted⟩ :=
    endpoint_shows_what_is_sent (List.all_iff_forall_prop.1 (by decide)) hmake rfl hreach hmemory
  obtain ⟨start, hstart⟩ := Option.isSome_iff_exists.1
    (by decide +kernel : (departure? "http://[::1]/hook").isSome = true)
  refine ⟨hshows, hmore 1 Nat.one_pos, ?_⟩
  have hresult := hscripted (.standard "http://[::1]/hook") .scripted start "" rfl hstart
  have hstatus : ((Webhook.standard "http://[::1]/hook").send .scripted ""
      [.ofParts "500 Internal Server Error" [] ""]).result.mapError SendError.kindName =
        .ok ⟨500⟩ := by
    decide +kernel
  exact hresult.symm.trans hstatus

end ChatHook
