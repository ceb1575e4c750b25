import ChatHook.Capture
import ChatHook.Proofs.Chain
import ChatHook.Proofs.Json.Recovery
import ChatHook.Proofs.Stages

/-!
# The message arrives as it was read

Between a source and an endpoint a message passes four layers: pieces and interruptions are joined
to bytes (`delivered`), the bytes are read as one text, the text is written as a payload, and the
payload is posted once and repeated along redirects. No layer changes the message. A redirected
request has the body of the one before or none (`body_of_onward`), so every body along a chain is
the payload that the first request posts (`body_of_mem_requests_deliver`), and a payload
is read back as the message in it (`Json.parse_payload`).

## Main results

* `carriesMessage_requests_send`: what a send transmits.
* `requests_carry_what_was_read`: what a run and the program transmit is the text of exactly the
  bytes that were delivered.
-/

namespace ChatHook

open Http

/-! ### Bodies along a chain -/

namespace Http

variable {network : Network} {client : Client} {destination : String} {body : Bytes}
  {answers : List Answer}

/-- Every request of a delivery has the body that is delivered, or none. -/
theorem body_of_mem_requests_deliver {r : Request}
    (h : r ∈ (deliver network client destination body answers).requests) :
    r.body = some body ∨ r.body = none := by
  obtain ⟨start, -, hfollow⟩ := exists_follow_of_requests_deliver (List.ne_nil_of_mem h)
  rw [hfollow] at h
  refine forall_mem_requests_follow (P := fun q ↦ q.body = some body ∨ q.body = none) ?_
    (.inl rfl) answers r h
  rintro budget q answer next hq hturn
  by_cases hget : answer.TurnsToGet
  · exact .inr ((body_of_onward hturn).1 hget)
  · rwa [(body_of_onward hturn).2 hget]

/-- The first request of a delivery has the body that is delivered. -/
theorem head?_requests_deliver
    (h : (deliver network client destination body answers).requests ≠ []) :
    ∃ r, (deliver network client destination body answers).requests.head? = some r ∧
      r.body = some body := by
  obtain ⟨start, -, hfollow⟩ := exists_follow_of_requests_deliver h
  refine ⟨firstRequest client start body, ?_, rfl⟩
  rw [hfollow, List.head?_eq_getElem?]
  exact requests_follow_zero _ _ _

end Http

/-! ### Messages -/

/-- Requests carry a message: the first one posts its payload, every body among them is posted and
is the payload, and captured bodies are read as the object with the only key `content` and the
message. -/
structure CarriesMessage (message : String) (requests : List Request) : Prop where
  first : ∃ r, requests.head? = some r ∧ r.method = .post ∧
    r.bodyBytes = (Payload.mk message).json
  bodies : ∀ r ∈ requests, r.bodyBytes ≠ [] →
    r.method = .post ∧ r.bodyBytes = (Payload.mk message).json
  reads : ∀ r ∈ requests, r.bodyBytes ≠ [] → ∀ captured : Captured,
    captured.body = r.bodyBytes → captured.json = .ok (.object [("content", .string message)])

/-- What a send transmits is its message. -/
theorem carriesMessage_requests_send {network : Network} {webhook : Webhook} {message : String}
    {answers : List Answer} (h : (webhook.send network message answers).requests ≠ []) :
    CarriesMessage message (webhook.send network message answers).requests := by
  have hbody : ∀ r ∈ (webhook.send network message answers).requests, r.bodyBytes ≠ [] →
      r.body = some (Payload.mk message).json := by
    intro r hr hne
    rcases body_of_mem_requests_deliver hr with hbody | hbody
    · exact hbody
    · exact absurd (by rw [Request.bodyBytes, hbody]; rfl) hne
  refine ⟨?_, fun r hr hne ↦ ?_, fun r hr hne captured hcaptured ↦ ?_⟩
  · obtain ⟨r, hhead, hr⟩ := head?_requests_deliver h
    exact ⟨r, hhead, Request.method_of_body hr, by rw [Request.bodyBytes, hr]; rfl⟩
  · have hr := hbody r hr hne
    exact ⟨Request.method_of_body hr, by rw [Request.bodyBytes, hr]; rfl⟩
  · have hpayload : captured.body = (Payload.mk message).json := by
      rw [hcaptured, Request.bodyBytes, hbody r hr hne]
      rfl
    rw [Captured.json, hpayload, Json.parse_payload]
    rfl

/-- **The message arrives as it was read.** If a run makes a request, it has read a message, the
text whose encoding is all that its source delivered, and its requests carry this message; and if
the program makes a request, it was given a destination, its input is the encoding of a
text, and its requests carry this text. -/
theorem requests_carry_what_was_read (network : Network) (answers : List Answer) :
    (∀ destination source, (run network destination source answers).outcome.requests ≠ [] →
      ∃ message, (readMessage source).result = .ok message ∧
        Utf8.encode message = delivered source ∧
        CarriesMessage message (run network destination source answers).outcome.requests) ∧
    ∀ invocation, (execute network invocation answers).requests ≠ [] →
      ∃ destination message, CommandLine.parse invocation.arguments = .ok destination ∧
        Utf8.encode message = invocation.input ∧
        CarriesMessage message (execute network invocation answers).requests := by
  have hrun : ∀ destination source,
      (run network destination source answers).outcome.requests ≠ [] →
      ∃ message, (readMessage source).result = .ok message ∧
        Utf8.encode message = delivered source ∧
        CarriesMessage message (run network destination source answers).outcome.requests := by
    intro destination source h
    obtain ⟨message, hread, hrequests⟩ := exists_read_of_requests_run network answers h
    rw [hrequests] at h ⊢
    exact ⟨message, hread, encode_of_readMessage hread, carriesMessage_requests_send h⟩
  refine ⟨hrun, fun invocation h ↦ ?_⟩
  obtain ⟨destination, hparse, hrequests⟩ :=
    exists_destination_of_requests_execute network answers h
  rw [hrequests] at h ⊢
  obtain ⟨message, -, hmessage, hcarries⟩ := hrun destination _ h
  exact ⟨destination, message, hparse, by rw [hmessage, delivered_singleton], hcarries⟩

/-- A script that has a posted message repeated at another host. -/
private def repeating : List Answer :=
  [.ofParts "307 Temporary Redirect" [(Utf8.encode "Location", Utf8.encode "http://[::2]/next")] "",
    .ofParts "204 No Content" [] ""]

/-- A source that delivers an accented letter and a quote in two pieces, cut inside the letter,
with an interruption between them. -/
private def cutLetter : List Chunk :=
  [.bytes [0xC3], .failure (.ofFault .interrupted), .bytes [0xA9, 0x22]]

/-- A start of the program with a destination and a line of text. -/
private def lineToPost : Invocation :=
  ⟨[Utf8.encode "post", Utf8.encode "http://[::1]/hook"], Utf8.encode "line\n", none⟩

theorem repeated_requests_carry_cut_letter :
    (run .scripted "http://[::1]/hook" cutLetter repeating).outcome.requests ≠ [] ∧
      (execute .scripted lineToPost repeating).requests ≠ [] ∧
      (∃ message, (readMessage cutLetter).result = .ok message ∧
        Utf8.encode message = delivered cutLetter ∧
        CarriesMessage message
          (run .scripted "http://[::1]/hook" cutLetter repeating).outcome.requests) ∧
      ∃ destination message, CommandLine.parse lineToPost.arguments = .ok destination ∧
        Utf8.encode message = lineToPost.input ∧
        CarriesMessage message (execute .scripted lineToPost repeating).requests := by
  have hrun : (run .scripted "http://[::1]/hook" cutLetter repeating).outcome.requests ≠ [] := by
    decide +kernel
  have hexecute : (execute .scripted lineToPost repeating).requests ≠ [] := by
    decide +kernel
  obtain ⟨hruns, hexecutes⟩ := requests_carry_what_was_read .scripted repeating
  exact ⟨hrun, hexecute, hruns _ _ hrun, hexecutes _ hexecute⟩

end ChatHook
