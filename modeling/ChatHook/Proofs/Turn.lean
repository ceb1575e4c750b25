import ChatHook.Http.Delivery
import Mathlib.Tactic.SplitIfs

/-!
# Turns

What the answer to a request does is a *turn* (`Request.turn`): it leads on to another request, or
it ends the chain with a result. What a turn can be is listed once, in terms of the answer alone
(`Request.Takes`): a redirect (`Answer.RedirectsTo`) leads on as long as the client follows
redirects, its limit allows one more and the redirect stays with plain connections; whether the
body goes along depends on the status (`Answer.TurnsToGet`).

## Main results

* `takes_turn`: the five things that a turn can be.
* `turn_eq_onward_iff`: when a turn leads on, and to which request.
* `body_of_onward`: which body goes along.
-/

namespace ChatHook.Http

/-! ### Redirects -/

/-- An answer is a redirect from one URL to another: a good reply with a redirecting status, whose
`Location` gives the other URL relative to the one. -/
def Answer.RedirectsTo (answer : Answer) (current url : Url) : Prop :=
  ∃ reply value, answer.reply = .ok reply ∧ reply.status.code ∈ [301, 302, 303, 307, 308] ∧
    reply.location = some value ∧ location? current value = some url

/-- An answer has one of the statuses that make a redirected request a GET. -/
def Answer.TurnsToGet (answer : Answer) : Prop :=
  ∃ reply, answer.reply = .ok reply ∧ reply.status.code ∈ [301, 302, 303]

theorem Answer.RedirectsTo.unique {answer : Answer} {current url url' : Url}
    (h : answer.RedirectsTo current url) (h' : answer.RedirectsTo current url') : url = url' := by
  obtain ⟨reply, value, hreply, -, hvalue, hurl⟩ := h
  obtain ⟨reply', value', hreply', -, hvalue', hurl'⟩ := h'
  obtain rfl := Except.ok.inj (hreply.symm.trans hreply')
  obtain rfl := Option.some.inj (hvalue.symm.trans hvalue')
  exact Option.some.inj (hurl.symm.trans hurl')

theorem Status.redirect?_eq_some_iff {s : Status} {keepsBody : Bool} :
    s.redirect? = some keepsBody ↔
      s.code ∈ [301, 302, 303, 307, 308] ∧ (keepsBody = false ↔ s.code ∈ [301, 302, 303]) := by
  rw [Status.redirect?]
  split <;> cases keepsBody <;> simp_all

/-- A next request is the old one redirected by the answer. -/
theorem Request.redirectsTo_of_next? {client : Client} {r next : Request} {answer : Answer}
    {reply : Reply} (hreply : answer.reply = .ok reply) (h : r.next? client reply = some next) :
    ∃ keepsBody url, answer.RedirectsTo r.url url ∧ (keepsBody = false ↔ answer.TurnsToGet) ∧
      next = r.redirected client keepsBody url := by
  rw [Request.next?] at h
  split at h
  · simp at h
  · rename_i keepsBody hstatus
    obtain ⟨hcode, hkeeps⟩ := Status.redirect?_eq_some_iff.1 hstatus
    obtain ⟨url, hurl, rfl⟩ := Option.map_eq_some_iff.1 h
    obtain ⟨value, hvalue, hlocation⟩ := Option.bind_eq_some_iff.1 hurl
    refine ⟨keepsBody, url, ⟨reply, value, hreply, hcode, hvalue, hlocation⟩, ?_, rfl⟩
    rw [hkeeps]
    constructor
    · exact fun hget ↦ ⟨reply, hreply, hget⟩
    · rintro ⟨reply', hreply', hget⟩
      obtain rfl := Except.ok.inj (hreply.symm.trans hreply')
      exact hget

/-- Without a next request the answer is no redirect. -/
theorem Request.not_redirectsTo_of_next? {client : Client} {r : Request} {answer : Answer}
    {reply : Reply} (hreply : answer.reply = .ok reply) (h : r.next? client reply = none)
    (url : Url) : ¬answer.RedirectsTo r.url url := by
  rintro ⟨reply', value, hreply', hcode, hvalue, hlocation⟩
  obtain rfl := Except.ok.inj (hreply.symm.trans hreply')
  have hstatus : reply.status.redirect? =
      some (decide (reply.status.code ∉ [301, 302, 303])) :=
    Status.redirect?_eq_some_iff.2 ⟨hcode, by
      rw [decide_eq_false_iff_not, Decidable.not_not]⟩
  simp [Request.next?, hstatus, hvalue, hlocation] at h

/-! ### Methods -/

theorem Request.method_of_body {r : Request} {body : Bytes} (h : r.body = some body) :
    r.method = .post := by
  rw [Request.method, h]
  rfl

theorem Request.method_of_no_body {r : Request} (h : r.body = none) : r.method = .get := by
  rw [Request.method, h]
  rfl

/-! ### Turns -/

/-- What becomes of a chain at an answer: it leads on to another request, or it ends. -/
inductive Turn where
  | onward (next : Request)
  | final (result : Except Failure Status)

/-- What an answer to a request does, for a chain that started from `origin` and may still follow
`budget` redirects. -/
def Request.turn (client : Client) (origin : Url) (budget : Option Nat) (r : Request)
    (answer : Answer) : Turn :=
  match answer.reply with
  | .error fault => .final (.error (.badReply origin fault))
  | .ok reply =>
    match budget, r.next? client reply with
    | some 0, some _ => .final (.error (.tooManyRedirects origin))
    | some (_ + 1), some next =>
      if next.url.scheme = "http" then .onward next
      else .final (.error
        (if next.url.scheme = "https" then .notPlain origin else .badScheme origin))
    | _, _ => .final (.ok reply.status)

/-- Everything that a turn can be. -/
inductive Request.Takes (client : Client) (origin : Url) (r : Request) (answer : Answer) :
    Option Nat → Turn → Prop
  /-- There is no good reply. -/
  | unanswered {budget fault} (hreply : answer.reply = .error fault) :
      Takes client origin r answer budget (.final (.error (.badReply origin fault)))
  /-- The reply is no redirect, or redirects are not looked at. -/
  | answered {budget reply} (hreply : answer.reply = .ok reply)
      (hstays : budget = none ∨ ∀ url, ¬answer.RedirectsTo r.url url) :
      Takes client origin r answer budget (.final (.ok reply.status))
  /-- The redirect is one too many. -/
  | exhausted {url} (hredirect : answer.RedirectsTo r.url url) :
      Takes client origin r answer (some 0) (.final (.error (.tooManyRedirects origin)))
  /-- The redirect leaves plain connections. -/
  | astray {n url} (hredirect : answer.RedirectsTo r.url url) (hscheme : url.scheme ≠ "http") :
      Takes client origin r answer (some (n + 1)) (.final (.error
        (if url.scheme = "https" then .notPlain origin else .badScheme origin)))
  /-- The redirect is followed. -/
  | onward {n url keepsBody} (hredirect : answer.RedirectsTo r.url url)
      (hscheme : url.scheme = "http") (hbody : keepsBody = false ↔ answer.TurnsToGet) :
      Takes client origin r answer (some (n + 1)) (.onward (r.redirected client keepsBody url))

/-- Every turn is one of the five. -/
theorem takes_turn (client : Client) (origin : Url) (budget : Option Nat) (r : Request)
    (answer : Answer) :
    r.Takes client origin answer budget (r.turn client origin budget answer) := by
  cases hreply : answer.reply with
  | error fault =>
    simp only [Request.turn, hreply]
    exact .unanswered hreply
  | ok reply =>
    cases hnext : r.next? client reply with
    | none =>
      simp only [Request.turn, hreply, hnext]
      exact .answered hreply (.inr (Request.not_redirectsTo_of_next? hreply hnext))
    | some next =>
      obtain ⟨keepsBody, url, hredirect, hbody, rfl⟩ :=
        Request.redirectsTo_of_next? hreply hnext
      simp only [Request.turn, hreply, hnext]
      cases budget with
      | none => exact .answered hreply (.inl rfl)
      | some budget =>
        cases budget with
        | zero => exact .exhausted hredirect
        | succ n =>
          change r.Takes client origin answer (some (n + 1)) (if url.scheme = "http" then _ else _)
          by_cases hscheme : url.scheme = "http"
          · rw [if_pos hscheme]
            exact .onward hredirect hscheme hbody
          · rw [if_neg hscheme]
            exact .astray hredirect hscheme

/-- A turn leads on exactly at a redirect that stays with plain connections, as long as the client
may follow one more. -/
theorem turn_eq_onward_iff {client : Client} {origin : Url} {budget : Option Nat}
    {r next : Request} {answer : Answer} :
    r.turn client origin budget answer = .onward next ↔
      ∃ n url keepsBody, budget = some (n + 1) ∧ answer.RedirectsTo r.url url ∧
        url.scheme = "http" ∧ (keepsBody = false ↔ answer.TurnsToGet) ∧
        next = r.redirected client keepsBody url := by
  have htakes := takes_turn client origin budget r answer
  constructor
  · intro h
    rw [h] at htakes
    cases htakes with
    | onward hredirect hscheme hbody => exact ⟨_, _, _, rfl, hredirect, hscheme, hbody, rfl⟩
  · rintro ⟨n, url, keepsBody, rfl, hredirect, hscheme, hbody, rfl⟩
    generalize r.turn client origin (some (n + 1)) answer = t at htakes
    cases htakes with
    | unanswered hreply =>
      obtain ⟨reply, -, hreply', -⟩ := hredirect
      simp [hreply] at hreply'
    | answered hreply hstays =>
      rcases hstays with hnone | hstays
      · simp at hnone
      · exact absurd hredirect (hstays url)
    | astray hredirect' hscheme' => exact absurd (hredirect.unique hredirect' ▸ hscheme) hscheme'
    | onward hredirect' hscheme' hbody' =>
      obtain rfl := hredirect.unique hredirect'
      obtain rfl := Bool.eq_iff_iff.2 (by simpa using not_congr (hbody.trans hbody'.symm))
      rfl

/-- A redirect takes the body along unless it turns the request into a GET. -/
theorem body_of_onward {client : Client} {origin : Url} {budget : Option Nat} {r next : Request}
    {answer : Answer} (h : r.turn client origin budget answer = .onward next) :
    (answer.TurnsToGet → next.body = none) ∧ (¬answer.TurnsToGet → next.body = r.body) := by
  obtain ⟨n, url, keepsBody, -, -, -, hbody, rfl⟩ := turn_eq_onward_iff.1 h
  rw [← hbody]
  cases keepsBody <;> simp [Request.redirected]

end ChatHook.Http
