import ChatHook.Proofs.Captured
import ChatHook.Proofs.Fidelity
import ChatHook.Proofs.Unnoticed
import Mathlib.Data.List.Forall2

/-!
# Sends are blind to their message

A message is in the bodies of its requests and nowhere else. Putting another body in place of the
one that is posted commutes with a whole chain (`follow_mapRequests`), so two sends of different
messages make the same requests up to bodies (`deliver_carrying`): as many of them, with the same
methods and targets, and the same result. A body shows in the head of its request as one number, its
length, which stands in a field of its own. On a connection the two requests are therefore the same
text up to the digits of this number, and only then the bodies begin: what a message looks like has
no influence on where its request ends.

## Main results

* `deliver_carrying`: a delivery of another body.
* `differInPayload_carrying`: a request with another body.
* `send_is_blind_to_message`: sends of any two messages.
-/

namespace ChatHook

namespace Http

/-! ### Requests with another body -/

/-- A request with another body in place of the one that it has, if it has one. -/
def Request.carrying (body : Bytes) (r : Request) : Request :=
  { r with body := r.body.map fun _ ↦ body }

/-- The field for the length of a body. -/
def lengthField (body : Bytes) : String × String :=
  ("content-length", toString body.length)

/-- No client looks at the body of a request to redirect it. -/
theorem unnoticed_carrying (client : Client) (body : Bytes) :
    Unnoticed client (Request.carrying body) := by
  refine ⟨fun r ↦ rfl, fun r keepsBody url ↦ ?_⟩
  cases keepsBody <;> rfl

/-- The header of a request has one place for the length of its body, and all else in it is the same
for every body. -/
theorem exists_headers_carrying (r : Request) (body : Bytes) : ∃ front back,
    r.headers = front ++ (r.body.map lengthField).toList ++ back ∧
      (r.carrying body).headers =
        front ++ ((r.carrying body).body.map lengthField).toList ++ back := by
  refine ⟨("accept", "*/*") :: (r.authorization.map ("authorization", ·)).toList,
    (r.body.map fun _ ↦ ("content-type", "application/json")).toList ++
      [("host", r.url.authorityText)] ++ (r.referer.map ("referer", ·)).toList ++
      (r.userAgent.map ("user-agent", ·)).toList, ?_, ?_⟩
  · cases hbody : r.body <;> simp [Request.headers, lengthField, hbody]
  · cases hbody : r.body <;> simp [Request.headers, Request.carrying, lengthField, hbody]

/-- Two header fields are the same, but for the value of a `content-length`. -/
def SameButLength (field field' : String × String) : Prop :=
  field.1 = field'.1 ∧ (field.1 ≠ "content-length" → field.2 = field'.2)

/-- The length of the body of a request as it is written, if there is one. -/
def Request.lengthText (r : Request) : String :=
  r.body.elim "" fun body ↦ toString body.length

/-- Two requests are the same, but for a payload in the one where the other has another payload. -/
structure DifferInPayload (payload payload' : Bytes) (r r' : Request) : Prop where
  method : r.method = r'.method
  target : r.absoluteTarget = r'.absoluteTarget ∧ r.originTarget = r'.originTarget
  /-- The fields correspond one by one. -/
  headers : List.Forall₂ SameButLength r.headers r'.headers
  body : r.body = none ∧ r'.body = none ∨ r.body = some payload ∧ r'.body = some payload'
  /-- On a connection, whatever form their target is given in, they are the same up to the digits of
  the length, and the body follows behind the head. -/
  wire : ∀ target, ∃ front back,
    r.wire target = Utf8.encode (r.method.text ++ " " ++ target ++ " HTTP/1.1\r\n" ++ front ++
        r.lengthText ++ back) ++ r.bodyBytes ∧
      r'.wire target = Utf8.encode (r.method.text ++ " " ++ target ++ " HTTP/1.1\r\n" ++ front ++
        r'.lengthText ++ back) ++ r'.bodyBytes

/-- The lines of some header fields. -/
def headerText (headers : List (String × String)) : String :=
  String.join (headers.map headerLine)

theorem headerText_append (front back : List (String × String)) :
    headerText (front ++ back) = headerText front ++ headerText back := by
  rw [headerText, List.map_append, String.join_append]
  rfl

/-- A request is written with the length of its body between the lines before and behind it. -/
theorem wire_of_headers {r : Request} {front back : List (String × String)}
    (h : r.headers = front ++ (r.body.map lengthField).toList ++ back) (target : String) :
    r.wire target =
      Utf8.encode (r.method.text ++ " " ++ target ++ " HTTP/1.1\r\n" ++
        (headerText front ++ r.body.elim "" fun _ ↦ "content-length: ") ++ r.lengthText ++
        ((r.body.elim "" fun _ ↦ "\r\n") ++ headerText back ++ "\r\n")) ++ r.bodyBytes := by
  have hline : headerText (r.body.map lengthField).toList =
      (r.body.elim "" fun _ ↦ "content-length: ") ++ r.lengthText ++
        r.body.elim "" fun _ ↦ "\r\n" := by
    rw [Request.lengthText]
    cases r.body with
    | none => rfl
    | some body => simp [headerText, headerLine, lengthField, String.append_assoc]
  have hwire : r.wire target =
      Utf8.encode (r.method.text ++ " " ++ target ++ " HTTP/1.1\r\n" ++ headerText r.headers ++
        "\r\n") ++ r.bodyBytes := rfl
  rw [hwire, h, headerText_append, headerText_append, hline]
  simp only [String.append_assoc]

/-- A request with another body is the same but for the body. -/
theorem differInPayload_carrying {r : Request} {payload : Bytes}
    (h : r.body = some payload ∨ r.body = none) (payload' : Bytes) :
    DifferInPayload payload payload' r (r.carrying payload') := by
  have hmethod : r.method = (r.carrying payload').method := by
    simp [Request.method, Request.carrying]
  obtain ⟨front, back, hfields, hfields'⟩ := exists_headers_carrying r payload'
  refine ⟨hmethod, ⟨rfl, rfl⟩, ?_, ?_, fun target ↦ ?_⟩
  · have hsame : ∀ fields, List.Forall₂ SameButLength fields fields := fun fields ↦
      List.forall₂_same.2 fun _ _ ↦ ⟨rfl, fun _ ↦ rfl⟩
    rw [hfields, hfields']
    refine List.rel_append (List.rel_append (hsame front) ?_) (hsame back)
    rcases h with h | h
    · simp [Request.carrying, h, SameButLength, lengthField]
    · simp [Request.carrying, h]
  · rcases h with h | h
    · exact .inr ⟨h, by simp [Request.carrying, h]⟩
    · exact .inl ⟨h, by simp [Request.carrying, h]⟩
  · refine ⟨_, _, wire_of_headers hfields target, ?_⟩
    rw [wire_of_headers hfields' target, hmethod]
    cases hbody : r.body <;> simp [Request.carrying, hbody]

/-! ### Deliveries of another body -/

/-- A delivery of another body makes the same requests with the other body. -/
theorem deliver_carrying (network : Network) (client : Client) (destination : String)
    (body body' : Bytes) (answers : List Answer) :
    deliver network client destination body' answers =
      (deliver network client destination body answers).mapRequests (Request.carrying body') := by
  rw [deliver, deliver]
  cases Url.parse destination with
  | error fault => rfl
  | ok url =>
    simp only
    split_ifs
    · rfl
    · rfl
    · rfl
    · cases network.barrier? client with
      | some error => rfl
      | none =>
        exact follow_mapRequests (unnoticed_carrying client body') (takeCredentials url).1
          client.budget (firstRequest client (takeCredentials url) body) answers

end Http

/-! ### Sends -/

open Http

/-- Two sends are the same, but for the message in their requests and its length in their logs. -/
structure DifferInMessage (message message' : String) (o o' : Outcome Status) : Prop where
  requests : List.Forall₂
    (DifferInPayload (Payload.mk message).json (Payload.mk message').json) o.requests o'.requests
  result : o.result = o'.result
  unused : o.unused = o'.unused
  log : ∃ events, o.log = .sending :: .messageSize (Utf8.encode message).length :: events ∧
    o'.log = .sending :: .messageSize (Utf8.encode message').length :: events

/-- **Sends are blind to their message.** Two sends of any messages through a webhook, along the
same answers, are the same but for the message: they make as many requests, which go to the same
targets by the same methods with the same header fields up to the length of the body, they have the
same result, the failure and its causes included, and they leave the same answers. -/
theorem send_is_blind_to_message (network : Network) (webhook : Webhook) (answers : List Answer)
    (message message' : String) :
    DifferInMessage message message' (webhook.send network message answers)
      (webhook.send network message' answers) := by
  have hdeliver := deliver_carrying network webhook.client webhook.url (Payload.mk message).json
    (Payload.mk message').json answers
  simp only [Webhook.send, hdeliver]
  refine ⟨?_, rfl, rfl, _, rfl, rfl⟩
  rw [Delivery.mapRequests, List.forall₂_map_right_iff, List.forall₂_same]
  exact fun r hr ↦ differInPayload_carrying (body_of_mem_requests_deliver hr) _

end ChatHook
