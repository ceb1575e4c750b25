import ChatHook.Proofs.Chain
import ChatHook.Proofs.WrittenHead
import ChatHook.Webhook
import Mathlib.Data.List.Forall2

/-!
# What a send overlooks

Of a response a send takes the status and the first `Location`, and of the bytes of a connection
only those of the final head say what these are. Two scripts whose responses agree in this
(`Answer.Alike`) therefore lead to the same turns, hence to the same chain (`follow_alike`), and the
sends cannot be told apart: reasons, cookies, demands to retry, informational heads in front and
bodies behind, whole or broken off, have no part in them.

## Main results

* `follow_alike`: chains along responses that agree.
* `send_overlooks_all_but_status_and_location`: sends along such responses, and how much such
  responses may differ.
-/

namespace ChatHook

open Http

namespace Http

/-- Two answers agree as far as a send looks at them: both are closed connections, or both bring the
same status and the same first `Location`, if any. -/
inductive Answer.Alike : Answer → Answer → Prop
  | closed : Alike .closed .closed
  | replies {stream stream' : Bytes} {reply : Reply} (h : Brings stream reply)
      (h' : Brings stream' reply) : Alike (.sends stream) (.sends stream')

theorem Answer.Alike.reply_eq {answer answer' : Answer} (h : answer.Alike answer') :
    answer.reply = answer'.reply := by
  cases h with
  | closed => rfl
  | replies h h' =>
    simp only [Answer.reply, readReply_eq_ok_iff.2 h, readReply_eq_ok_iff.2 h']

/-- Two deliveries make the same requests with the same result, and leave answers that agree. -/
structure Delivery.Alike (d d' : Delivery) : Prop where
  requests : d.requests = d'.requests
  result : d.result = d'.result
  unused : List.Forall₂ Answer.Alike d.unused d'.unused

/-- A turn looks at nothing but the reply. -/
theorem turn_eq_of_alike {answer answer' : Answer} (h : answer.Alike answer') (client : Client)
    (origin : Url) (budget : Option Nat) (r : Request) :
    r.turn client origin budget answer = r.turn client origin budget answer' := by
  simp only [Request.turn, h.reply_eq]

/-- Chains along answers that agree. -/
theorem follow_alike {answers answers' : List Answer}
    (h : List.Forall₂ Answer.Alike answers answers') (client : Client) (origin : Url)
    (budget : Option Nat) (r : Request) :
    (follow client origin budget r answers).Alike (follow client origin budget r answers') := by
  induction h generalizing budget r with
  | nil => exact ⟨rfl, rfl, .nil⟩
  | @cons answer answer' answers answers' hanswer hanswers ih =>
    rw [follow_cons, follow_cons, turn_eq_of_alike hanswer]
    cases r.turn client origin budget answer' with
    | onward next =>
      obtain ⟨hrequests, hresult, hunused⟩ := ih (budget.map Nat.pred) next
      exact ⟨congrArg (r :: ·) hrequests, hresult, hunused⟩
    | final result => exact ⟨rfl, rfl, hanswers⟩

/-- Deliveries along answers that agree. -/
theorem deliver_alike {answers answers' : List Answer}
    (h : List.Forall₂ Answer.Alike answers answers') (network : Network) (client : Client)
    (destination : String) (body : Bytes) :
    (deliver network client destination body answers).Alike
      (deliver network client destination body answers') := by
  have hstop : ∀ failure, (Delivery.stop failure answers).Alike (.stop failure answers') :=
    fun failure ↦ ⟨rfl, rfl, h⟩
  rw [deliver, deliver]
  split
  · exact hstop _
  · simp only
    split_ifs
    · exact hstop _
    · exact hstop _
    · exact hstop _
    · split
      · exact hstop _
      · exact follow_alike h _ _ _ _

end Http

/-- **A send looks at nothing but status and `Location`.** Along two scripts whose answers agree one
by one, closed connections with closed connections and responses with responses of the same status
and the same first `Location`, a send makes the same requests, has the same result, leaves as many
answers and logs the same. Written responses agree as soon as their final heads have the same code
and the same first `Location`: their versions, reasons and other fields, the informational heads in
front of them and the bytes behind them may be any. -/
theorem send_overlooks_all_but_status_and_location (network : Network) (webhook : Webhook)
    (message : String) :
    (∀ answers answers', List.Forall₂ Answer.Alike answers answers' →
      (webhook.send network message answers).requests =
          (webhook.send network message answers').requests ∧
        (webhook.send network message answers).result =
          (webhook.send network message answers').result ∧
        (webhook.send network message answers).unused.length =
          (webhook.send network message answers').unused.length ∧
        (webhook.send network message answers).log =
          (webhook.send network message answers').log) ∧
    ∀ (interims interims' : List WrittenHead) (h h' : WrittenHead) (body body' : Bytes),
      (∀ i ∈ interims ++ interims', i.head.status.isInterim = true) →
      (∀ final ∈ [h, h'], final.head.status.isInterim = false ∧
        final.head.lengthFault? = none) →
      h.code = h'.code → h.location? = h'.location? →
      Answer.Alike (.sends (interims.flatMap WrittenHead.bytes ++ (h.bytes ++ body)))
        (.sends (interims'.flatMap WrittenHead.bytes ++ (h'.bytes ++ body'))) := by
  refine ⟨fun answers answers' h ↦ ?_,
    fun interims interims' h h' body body' hinterims hfinal hcode hlocation ↦ ?_⟩
  · obtain ⟨hrequests, hresult, hunused⟩ :=
      deliver_alike h network webhook.client webhook.url (Payload.mk message).json
    simp only [Webhook.send, hrequests, hresult, hunused.length_eq, and_self]
  · obtain ⟨hbefore, hbefore'⟩ := List.forall_mem_append.1 hinterims
    obtain ⟨⟨hend, hlength⟩, hend', hlength'⟩ :
        (h.head.status.isInterim = false ∧ h.head.lengthFault? = none) ∧
          h'.head.status.isInterim = false ∧ h'.head.lengthFault? = none := by
      simpa using hfinal
    have hbrings' := brings_written hbefore' hend' hlength' body'
    rw [← hcode, ← hlocation] at hbrings'
    exact .replies (brings_written hbefore hend hlength body) hbrings'

/-- A field that says where to go. -/
private def goesOn : WrittenField where
  name := Utf8.encode "Location"
  value := Utf8.encode "/next"

/-- A field that says to go elsewhere, in small letters. -/
private def goesAstray : WrittenField where
  name := Utf8.encode "location"
  value := Utf8.encode "http://[::2]/"

/-- A field that sets a cookie. -/
private def cookie : WrittenField where
  name := Utf8.encode "Set-Cookie"
  value := Utf8.encode "seen=yes"

/-- A field that promises a long body. -/
private def longBody : WrittenField where
  name := Utf8.encode "CONTENT-LENGTH"
  value := Utf8.encode "99"

/-- A redirect that says nothing else. -/
private def terse : WrittenHead where
  minor := 1
  code := 307
  reason := []
  fields := [goesOn]

/-- The same redirect with a reason, an older version, and fields around the one that counts. -/
private def verbose : WrittenHead where
  minor := 0
  code := 307
  reason := Utf8.encode "Busy, go on"
  fields := [cookie, goesOn, goesAstray, longBody]

/-- A hint in front of a response, with a field that would count in the response itself. -/
private def hint : WrittenHead where
  minor := 1
  code := 103
  reason := Utf8.encode "Early Hints"
  fields := [goesAstray]

/-- The shorter script of two that agree. -/
private def terseScript : List Answer :=
  [.sends terse.bytes, .closed]

/-- The longer script of two that agree: hints in front of the redirect, and a body that is broken
off behind it. -/
private def verboseScript : List Answer :=
  [.sends (hint.bytes ++ hint.bytes ++ verbose.bytes ++ Utf8.encode "<htm"), .closed]

theorem verbose_script_is_overlooked :
    terseScript ≠ verboseScript ∧ List.Forall₂ Answer.Alike terseScript verboseScript ∧
      ((Webhook.standard "http://[::1]/hook").send .scripted "hello" terseScript).result =
        ((Webhook.standard "http://[::1]/hook").send .scripted "hello" verboseScript).result ∧
      ((Webhook.standard "http://[::1]/hook").send .scripted "hello" verboseScript).requests.map
        (fun r ↦ (r.method, r.url.text)) =
          [(.post, "http://[::1]/hook"), (.post, "http://[::1]/next")] := by
  obtain ⟨hsends, hwritten⟩ :=
    send_overlooks_all_but_status_and_location .scripted (.standard "http://[::1]/hook") "hello"
  have hredirect : Answer.Alike (.sends terse.bytes)
      (.sends (hint.bytes ++ hint.bytes ++ verbose.bytes ++ Utf8.encode "<htm")) := by
    have h := hwritten [] [hint, hint] terse verbose [] (Utf8.encode "<htm") (by decide) (by decide)
      rfl (by decide)
    simpa using h
  have halike : List.Forall₂ Answer.Alike terseScript verboseScript :=
    .cons hredirect (.cons .closed .nil)
  obtain ⟨hrequests, hresult, -, -⟩ := hsends _ _ halike
  refine ⟨by decide, halike, hresult, ?_⟩
  rw [← hrequests]
  decide +kernel

end ChatHook
