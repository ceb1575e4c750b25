import ChatHook.Proofs.Turn

/-!
# Chains of requests

A delivery asks one request after the other. A chain is nothing but its turns (`follow_cons`), so
what every turn does to a request holds along a whole chain (`forall_mem_requests_follow`), and the
request at an index together with the answer at the same index tells what stands at the next index
or how the chain ended (`describes_turn`). Behind the end of a script every answer is a closed
connection.

## Main results

* `follow_cons`: a chain is its first turn and the chain behind it.
* `getElem?_succ_eq_some_iff`, `turn_last`: the turn at each index, and the last one.
* `exists_next_iff`: when there is a next request, and where it goes.
* `body_of_turnsToGet`, `body_of_not_turnsToGet`: what a request carries.
* `unused_follow`: each request takes one answer.
-/

namespace ChatHook.Http

/-! ### A chain and its turns -/

/-- Without answers the first connection is closed. -/
theorem follow_nil (client : Client) (origin : Url) (budget : Option Nat) (r : Request) :
    follow client origin budget r [] = ⟨[r], [], .error (.badReply origin .incomplete)⟩ := by
  rw [follow]

/-- A chain is its first turn and the chain behind it. -/
theorem follow_cons (client : Client) (origin : Url) (budget : Option Nat) (r : Request)
    (answer : Answer) (answers : List Answer) :
    follow client origin budget r (answer :: answers) =
      match r.turn client origin budget answer with
      | .onward next => (follow client origin (budget.map Nat.pred) next answers).after r
      | .final result => ⟨[r], answers, result⟩ := by
  cases hreply : answer.reply with
  | error fault => simp only [follow, Request.turn, hreply]
  | ok reply =>
    cases hnext : r.next? client reply with
    | none => simp only [follow, Request.turn, hreply, hnext]
    | some next =>
      simp only [follow, Request.turn, hreply, hnext]
      cases budget with
      | none => rfl
      | some budget =>
        cases budget with
        | zero => rfl
        | succ n =>
          simp only
          split_ifs <;> rfl

@[simp] theorem requests_after (r : Request) (d : Delivery) :
    (d.after r).requests = r :: d.requests := rfl

@[simp] theorem unused_after (r : Request) (d : Delivery) : (d.after r).unused = d.unused := rfl

@[simp] theorem result_after (r : Request) (d : Delivery) : (d.after r).result = d.result := rfl

variable {client : Client} {origin : Url}

/-- A chain starts with the request that it is given. -/
theorem requests_follow_zero (budget : Option Nat) (r : Request) (answers : List Answer) :
    (follow client origin budget r answers).requests[0]? = some r := by
  cases answers with
  | nil => rw [follow_nil]; rfl
  | cons answer answers =>
    rw [follow_cons]
    cases r.turn client origin budget answer <;> rfl

/-- What holds of the first request, and of the next one whenever it holds of the one before, holds
of all requests of a chain. -/
theorem forall_mem_requests_follow {P : Request → Prop}
    (hstep : ∀ budget r answer next, P r → r.turn client origin budget answer = .onward next →
      P next) {budget : Option Nat} {r : Request} (hr : P r) (answers : List Answer) :
    ∀ q ∈ (follow client origin budget r answers).requests, P q := by
  induction answers generalizing budget r with
  | nil =>
    rw [follow_nil]
    simpa using hr
  | cons answer answers ih =>
    rw [follow_cons]
    cases hturn : r.turn client origin budget answer with
    | onward next =>
      simp only [requests_after, List.mem_cons, forall_eq_or_imp]
      exact ⟨hr, ih (hstep budget r answer next hr hturn)⟩
    | final result => simpa using hr

/-- Each request takes one answer of the script, as long as there are any. -/
theorem unused_follow (budget : Option Nat) (r : Request) (answers : List Answer) :
    (follow client origin budget r answers).unused =
      answers.drop (follow client origin budget r answers).requests.length := by
  induction answers generalizing budget r with
  | nil => rw [follow_nil, List.drop_nil]
  | cons answer answers ih =>
    rw [follow_cons]
    cases r.turn client origin budget answer with
    | onward next =>
      simp only [unused_after, requests_after, List.length_cons, List.drop_succ_cons]
      exact ih _ next
    | final result => rfl

/-! ### The turn at an index -/

/-- The answer that the request at an index gets. Behind the end of a script connections are
closed. -/
def answerTo (answers : List Answer) (i : Nat) : Answer :=
  answers.getD i .closed

/-- What a turn at an index of a delivery means: the request to which it leads stands at the next
index, or the delivery ended there with its result. -/
def Turn.Describes (d : Delivery) (i : Nat) : Turn → Prop
  | .onward next => d.requests[i + 1]? = some next
  | .final result => d.requests.length = i + 1 ∧ d.result = result

theorem Turn.Describes.after {d : Delivery} {i : Nat} {t : Turn} (h : t.Describes d i)
    (r : Request) : t.Describes (d.after r) (i + 1) := by
  cases t with
  | onward next => exact h
  | final result => exact ⟨congrArg Nat.succ h.1, h.2⟩

/-- **The turn at each index.** The request at an index and the answer that it gets tell how the
chain goes on. -/
theorem describes_turn {budget : Option Nat} {first r : Request} {answers : List Answer} {i : Nat}
    (h : (follow client origin budget first answers).requests[i]? = some r) :
    (r.turn client origin (budget.map (· - i)) (answerTo answers i)).Describes
      (follow client origin budget first answers) i := by
  induction answers generalizing budget first i with
  | nil =>
    rw [follow_nil] at h ⊢
    obtain ⟨rfl, rfl⟩ : i = 0 ∧ r = first := by
      cases i <;> simp_all
    exact ⟨rfl, rfl⟩
  | cons answer answers ih =>
    rw [follow_cons] at h ⊢
    cases hturn : first.turn client origin budget answer with
    | onward next =>
      simp only [hturn] at h ⊢
      cases i with
      | zero =>
        obtain rfl : first = r := by simpa using h
        have hbudget : budget.map (· - 0) = budget := by cases budget <;> rfl
        rw [hbudget, answerTo, List.getD_cons_zero, hturn]
        exact requests_follow_zero _ next answers
      | succ i =>
        have hbudget : (budget.map Nat.pred).map (· - i) = budget.map (· - (i + 1)) := by
          cases budget with
          | none => rfl
          | some n => simp only [Option.map_some, Option.some.injEq, Nat.pred_eq_sub_one]; omega
        rw [answerTo, List.getD_cons_succ, ← hbudget]
        exact (ih h).after first
    | final result =>
      simp only [hturn] at h ⊢
      obtain ⟨rfl, rfl⟩ : i = 0 ∧ r = first := by
        cases i <;> simp_all
      have hbudget : budget.map (· - 0) = budget := by cases budget <;> rfl
      rw [hbudget, answerTo, List.getD_cons_zero, hturn]
      exact ⟨rfl, rfl⟩

section Index

variable {budget : Option Nat} {first : Request} {answers : List Answer}

/-- A request that is not the first one is where the turn at the one before leads. -/
theorem exists_turn_onward {i : Nat} {next : Request}
    (h : (follow client origin budget first answers).requests[i + 1]? = some next) :
    ∃ r, (follow client origin budget first answers).requests[i]? = some r ∧
      r.turn client origin (budget.map (· - i)) (answerTo answers i) = .onward next := by
  obtain ⟨hlt, -⟩ := List.getElem?_eq_some_iff.1 h
  have hr := List.getElem?_eq_getElem (Nat.lt_of_succ_lt hlt)
  refine ⟨_, hr, ?_⟩
  have hdescribes := describes_turn hr
  generalize Request.turn _ _ _ _ _ = t at hdescribes ⊢
  cases t with
  | onward next' => rw [Option.some.inj (h.symm.trans hdescribes)]
  | final result => exact absurd hlt (by rw [hdescribes.1]; omega)

/-- The next request is the one to which the turn leads. -/
theorem getElem?_succ_eq_some_iff {i : Nat} {r next : Request}
    (hr : (follow client origin budget first answers).requests[i]? = some r) :
    (follow client origin budget first answers).requests[i + 1]? = some next ↔
      r.turn client origin (budget.map (· - i)) (answerTo answers i) = .onward next := by
  constructor
  · intro hnext
    obtain ⟨r', hr', hturn⟩ := exists_turn_onward hnext
    rwa [Option.some.inj (hr.symm.trans hr')]
  · intro hturn
    have hdescribes := describes_turn hr
    rwa [hturn] at hdescribes

/-- There is a next request exactly at a redirect that stays with plain connections, as long as the
limit allows one more; and it goes where the redirect points. -/
theorem exists_next_iff {i : Nat} {r : Request}
    (hr : (follow client origin budget first answers).requests[i]? = some r) (url : Url) :
    (∃ next, (follow client origin budget first answers).requests[i + 1]? = some next ∧
        next.url = url) ↔
      (answerTo answers i).RedirectsTo r.url url ∧ url.scheme = "http" ∧
        ∃ limit, budget = some limit ∧ i < limit := by
  constructor
  · rintro ⟨next, hnext, rfl⟩
    have hturn := (getElem?_succ_eq_some_iff hr).1 hnext
    obtain ⟨n, url, keepsBody, hbudget, hredirect, hscheme, -, rfl⟩ := turn_eq_onward_iff.1 hturn
    obtain ⟨limit, rfl, hlimit⟩ := Option.map_eq_some_iff.1 hbudget
    exact ⟨hredirect, hscheme, limit, rfl, by omega⟩
  · rintro ⟨hredirect, hscheme, limit, rfl, hlimit⟩
    obtain ⟨keepsBody, hbody⟩ :
        ∃ keepsBody : Bool, keepsBody = false ↔ (answerTo answers i).TurnsToGet := by
      by_cases hget : (answerTo answers i).TurnsToGet
      · exact ⟨false, by simpa using hget⟩
      · exact ⟨true, by simpa using hget⟩
    refine ⟨r.redirected client keepsBody url, (getElem?_succ_eq_some_iff hr).2 ?_, rfl⟩
    refine turn_eq_onward_iff.2 ⟨limit - i - 1, url, keepsBody, ?_, hredirect, hscheme, hbody, rfl⟩
    rw [Option.map_some, Option.some.injEq]
    omega

/-- Up to the first answer that turns to GET, requests have the body of the first one. -/
theorem body_of_not_turnsToGet {i : Nat} {r : Request}
    (hr : (follow client origin budget first answers).requests[i]? = some r)
    (h : ∀ j < i, ¬(answerTo answers j).TurnsToGet) : r.body = first.body := by
  induction i generalizing r with
  | zero => rw [Option.some.inj ((requests_follow_zero budget first answers).symm.trans hr)]
  | succ i ih =>
    obtain ⟨q, hq, hturn⟩ := exists_turn_onward hr
    rw [(body_of_onward hturn).2 (h i (by omega))]
    exact ih hq fun j hj ↦ h j (by omega)

/-- Behind an answer that turns to GET, no request has a body. -/
theorem body_of_turnsToGet {i : Nat} {r : Request}
    (hr : (follow client origin budget first answers).requests[i]? = some r)
    {j : Nat} (hj : j < i) (h : (answerTo answers j).TurnsToGet) : r.body = none := by
  induction i generalizing r with
  | zero => omega
  | succ i ih =>
    obtain ⟨q, hq, hturn⟩ := exists_turn_onward hr
    by_cases hget : (answerTo answers i).TurnsToGet
    · exact (body_of_onward hturn).1 hget
    · rw [(body_of_onward hturn).2 hget]
      refine ih hq (Nat.lt_of_le_of_ne (by omega) ?_)
      rintro rfl
      exact hget h

/-- A chain has a last request. -/
theorem exists_last_request :
    ∃ k r, (follow client origin budget first answers).requests.length = k + 1 ∧
      (follow client origin budget first answers).requests[k]? = some r := by
  have hzero := @requests_follow_zero client origin budget first answers
  obtain ⟨hpos, -⟩ := List.getElem?_eq_some_iff.1 hzero
  obtain ⟨k, hk⟩ := Nat.exists_eq_succ_of_ne_zero (Nat.pos_iff_ne_zero.1 hpos)
  exact ⟨k, _, hk, List.getElem?_eq_getElem (by omega)⟩

theorem requests_follow_ne_nil : (follow client origin budget first answers).requests ≠ [] := by
  obtain ⟨k, -, hlength, -⟩ := @exists_last_request client origin budget first answers
  exact List.ne_nil_of_length_eq_add_one hlength

/-- The turn at the last request ends the chain with its result. -/
theorem turn_last {k : Nat} {r : Request}
    (hk : (follow client origin budget first answers).requests.length = k + 1)
    (hr : (follow client origin budget first answers).requests[k]? = some r) :
    r.turn client origin (budget.map (· - k)) (answerTo answers k) =
      .final (follow client origin budget first answers).result := by
  have hdescribes := describes_turn hr
  generalize Request.turn _ _ _ _ _ = t at hdescribes ⊢
  cases t with
  | onward next =>
    obtain ⟨hlt, -⟩ := List.getElem?_eq_some_iff.1 hdescribes
    omega
  | final result => rw [hdescribes.2]

end Index

/-! ### Where a delivery starts -/

/-- The URL from which a message to a destination starts and the authorization that goes with it;
nothing where the destination is no plain URL of the web that fits into a request. -/
def departure? (destination : String) : Option (Url × Option String) :=
  match Url.parse destination with
  | .error _ => none
  | .ok url =>
    let start := takeCredentials url
    if start.1.scheme = "http" ∧ isTarget start.1.text then some start else none

/-- The request that posts a body. -/
def firstRequest (client : Client) (start : Url × Option String) (body : Bytes) : Request :=
  { url := start.1, body := some body, userAgent := client.userAgent, referer := none
    authorization := start.2 }

theorem takeCredentials_scheme (url : Url) : (takeCredentials url).1.scheme = url.scheme := by
  rw [takeCredentials]
  split <;> rfl

variable {network : Network} {destination : String} {start : Url × Option String}

/-- What a departure starts from is a plain URL that fits into a request. -/
theorem eq_takeCredentials_of_departure (hstart : departure? destination = some start) :
    ∃ url, Url.parse destination = .ok url ∧ start = takeCredentials url ∧
      start.1.scheme = "http" ∧ isTarget start.1.text := by
  rw [departure?] at hstart
  split at hstart
  · simp at hstart
  · rename_i url hparse
    obtain ⟨⟨hscheme, htarget⟩, hstart⟩ := Option.ite_none_right_eq_some.1 hstart
    obtain rfl := Option.some.inj hstart
    exact ⟨url, hparse, rfl, hscheme, htarget⟩

/-- Where the endpoint is reached, a delivery is the chain that its first request starts. -/
theorem deliver_of_departure (hstart : departure? destination = some start)
    (hreach : network.barrier? client = none) (body : Bytes) (answers : List Answer) :
    deliver network client destination body answers =
      follow client start.1 client.budget (firstRequest client start body) answers := by
  obtain ⟨url, hparse, rfl, hscheme, htarget⟩ := eq_takeCredentials_of_departure hstart
  simp only [deliver, hparse, hscheme, htarget, hreach]
  rfl

/-- Where the endpoint is not reached, nothing is sent. -/
theorem deliver_of_barrier (hstart : departure? destination = some start) {error : ConnectError}
    (hbarrier : network.barrier? client = some error) (body : Bytes) (answers : List Answer) :
    deliver network client destination body answers =
      .stop (.notConnected start.1 error) answers := by
  obtain ⟨url, hparse, rfl, hscheme, htarget⟩ := eq_takeCredentials_of_departure hstart
  simp only [deliver, hparse, hscheme, htarget, hbarrier]
  rfl

/-- A destination asks for a secure connection: it is a URL of the secure web that fits into a
request. -/
def IsSecure (destination : String) : Prop :=
  ∃ url, Url.parse destination = .ok url ∧ url.scheme = "https" ∧
    isTarget (takeCredentials url).1.text = true

theorem not_isSecure_of_error {fault : Url.Fault} (hparse : Url.parse destination = .error fault) :
    ¬IsSecure destination := by
  rintro ⟨url, hurl, -⟩
  simp [hparse] at hurl

theorem isSecure_iff_of_ok {url : Url} (hparse : Url.parse destination = .ok url) :
    IsSecure destination ↔ url.scheme = "https" ∧ isTarget (takeCredentials url).1.text = true := by
  simp [IsSecure, hparse]

instance (destination : String) : Decidable (IsSecure destination) :=
  match hparse : Url.parse destination with
  | .error _ => .isFalse (not_isSecure_of_error hparse)
  | .ok _ => decidable_of_iff _ (isSecure_iff_of_ok hparse).symm

variable (client network) in
/-- Where a delivery cannot start, nothing is sent: a secure connection cannot be made, and all else
is the fault of the destination. -/
theorem deliver_of_no_departure (hstart : departure? destination = none) (body : Bytes)
    (answers : List Answer) :
    ∃ failure, deliver network client destination body answers = .stop failure answers ∧
      (IsSecure destination → failure.kind = .connect) ∧
      (¬IsSecure destination → failure.kind = .builder) := by
  rw [departure?] at hstart
  rw [deliver]
  cases hparse : Url.parse destination with
  | error fault =>
    exact ⟨.badUrl fault, rfl, fun h ↦ absurd h (not_isSecure_of_error hparse), fun _ ↦ rfl⟩
  | ok url =>
    simp only [hparse, takeCredentials_scheme, ite_eq_right_iff, reduceCtorEq, imp_false,
      not_and, Bool.not_eq_true] at hstart
    simp only [isSecure_iff_of_ok hparse, takeCredentials_scheme]
    split_ifs with hscheme htarget hsecure
    · exact ⟨_, rfl, fun h ↦ absurd h.1 hscheme.2, fun _ ↦ rfl⟩
    · exact ⟨_, rfl, fun h ↦ absurd h.2 (by simpa using htarget), fun _ ↦ rfl⟩
    · exact ⟨_, rfl, fun _ ↦ rfl, fun h ↦ absurd ⟨hsecure, by simpa using htarget⟩ h⟩
    · -- A plain URL that fits into a request would be where the delivery starts.
      have hplain : url.scheme = "http" :=
        Decidable.byContradiction fun hne ↦ hscheme ⟨hne, hsecure⟩
      exact absurd (hstart hplain) (by simpa using htarget)

/-- A delivery that makes a request is a chain that starts with the body. -/
theorem exists_follow_of_requests_deliver {body : Bytes} {answers : List Answer}
    (h : (deliver network client destination body answers).requests ≠ []) :
    ∃ start, departure? destination = some start ∧
      deliver network client destination body answers =
        follow client start.1 client.budget (firstRequest client start body) answers := by
  cases hstart : departure? destination with
  | none =>
    obtain ⟨failure, hstop, -⟩ := deliver_of_no_departure client network hstart body answers
    exact absurd rfl (hstop ▸ h)
  | some start =>
    cases hbarrier : network.barrier? client with
    | none => exact ⟨start, rfl, deliver_of_departure hstart hbarrier body answers⟩
    | some error =>
      rw [deliver_of_barrier hstart hbarrier] at h
      exact absurd rfl h

end ChatHook.Http
