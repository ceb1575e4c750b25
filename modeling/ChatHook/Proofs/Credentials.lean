import ChatHook.Proofs.Unnoticed
import ChatHook.Proofs.Userinfo
import ChatHook.Webhook
import Mathlib.Data.List.Forall2

/-!
# Credentials stay with their host

The credentials of a destination leave a send in one way only: as the authorization of requests to
the host and port of the destination. A redirect takes an authorization along while host and port
stay, and drops it at the first change (`authorization_of_onward`); what is dropped does not come
back, since a redirected request has nothing but what the request before it had
(`authorization_follow`). What a `referer` shows of the request before is a URL without
credentials (`Url.hasCredentials_parse_text`).

That there is no other way is a statement about two sends. Taking all authorizations away commutes
with a whole chain (`follow_mapRequests`), so two destinations that differ in credentials alone
lead to the same requests up to authorizations, and to the same result.

## Main results

* `authorization_follow`: where an authorization goes.
* `deliver_mapRequests_unauthorized`: what an authorization has no influence on.
* `credentials_stay_with_host`: both, for sends.
-/

namespace ChatHook

namespace Http

/-! ### Header fields -/

theorem mem_headers_authorization_iff {r : Request} {value : String} :
    ("authorization", value) ∈ r.headers ↔ r.authorization = some value := by
  simp [Request.headers]

theorem mem_headers_referer_iff {r : Request} {value : String} :
    ("referer", value) ∈ r.headers ↔ r.referer = some value := by
  simp [Request.headers]

/-! ### Where an authorization goes -/

/-- Two URLs lead to one endpoint: they have the same host and, given or by default, the same
port. -/
def SameEndpoint (a b : Url) : Prop :=
  a.host = b.host ∧ a.effectivePort? = b.effectivePort?

theorem SameEndpoint.trans {a b c : Url} (h : SameEndpoint a b) (h' : SameEndpoint b c) :
    SameEndpoint a c :=
  ⟨h.1.trans h'.1, h.2.trans h'.2⟩

theorem SameEndpoint.symm {a b : Url} (h : SameEndpoint a b) : SameEndpoint b a :=
  ⟨h.1.symm, h.2.symm⟩

variable {client : Client} {origin : Url} {budget : Option Nat} {answers : List Answer}

/-- An authorization behind a redirect is the one before it, at the same endpoint. -/
theorem authorization_of_onward {r next : Request} {answer : Answer}
    (h : r.turn client origin budget answer = .onward next) {value : String}
    (hvalue : next.authorization = some value) :
    SameEndpoint next.url r.url ∧ r.authorization = some value := by
  obtain ⟨n, url, keepsBody, -, -, -, -, rfl⟩ := turn_eq_onward_iff.1 h
  obtain ⟨hsame, hvalue⟩ := Option.ite_none_right_eq_some.1 hvalue
  rw [Bool.and_eq_true, decide_eq_true_eq, decide_eq_true_eq] at hsame
  exact ⟨hsame, hvalue⟩

/-- A request with an authorization has the one of the first request, and so far the chain has not
left the endpoint of the first request. -/
theorem authorization_follow {first r : Request} {i : Nat}
    (hr : (follow client origin budget first answers).requests[i]? = some r) {value : String}
    (hvalue : r.authorization = some value) :
    first.authorization = some value ∧ ∀ j ≤ i, ∀ q,
      (follow client origin budget first answers).requests[j]? = some q →
        SameEndpoint q.url first.url := by
  have hzero := @requests_follow_zero client origin budget first answers
  induction i generalizing r with
  | zero =>
    obtain rfl := Option.some.inj (hzero.symm.trans hr)
    refine ⟨hvalue, fun j hj q hq ↦ ?_⟩
    obtain rfl := Nat.le_zero.1 hj
    obtain rfl := Option.some.inj (hzero.symm.trans hq)
    exact ⟨rfl, rfl⟩
  | succ i ih =>
    obtain ⟨q, hq, hturn⟩ := exists_turn_onward hr
    obtain ⟨hsame, hvalue⟩ := authorization_of_onward hturn hvalue
    obtain ⟨hfirst, hbefore⟩ := ih hq hvalue
    refine ⟨hfirst, fun j hj p hp ↦ ?_⟩
    rcases Nat.le_succ_iff.1 hj with hj | rfl
    · exact hbefore j hj p hp
    · obtain rfl := Option.some.inj (hr.symm.trans hp)
      exact hsame.trans (hbefore i (Nat.le_refl i) q hq)

/-! ### What a referer shows -/

theorem isWeb_location? {current url : Url} (hcurrent : current.IsWeb) {value : Bytes}
    (h : location? current value = some url) (hscheme : url.scheme = "http") : url.IsWeb := by
  obtain ⟨text, -, hresolve, -⟩ := exists_resolve_of_location? h
  exact Url.isWeb_resolve hcurrent hresolve hscheme

/-- A request goes to the plain web, and its referer is not read as a URL with credentials. -/
structure Request.HidesCredentials (r : Request) : Prop where
  isWeb : r.url.IsWeb
  referer : ∀ value, r.referer = some value → ∀ url, Url.parse value = .ok url →
    url.hasCredentials = false

theorem hidesCredentials_of_onward {r next : Request} {answer : Answer}
    (hr : r.HidesCredentials) (h : r.turn client origin budget answer = .onward next) :
    next.HidesCredentials := by
  obtain ⟨n, url, keepsBody, -, hredirect, hscheme, -, rfl⟩ := turn_eq_onward_iff.1 h
  obtain ⟨reply, location, -, -, -, hlocation⟩ := hredirect
  refine ⟨isWeb_location? hr.isWeb hlocation hscheme, fun value hvalue read hread ↦ ?_⟩
  obtain ⟨-, hvalue⟩ := Option.ite_none_right_eq_some.1 hvalue
  rw [← Option.some.inj hvalue] at hread
  exact Url.hasCredentials_parse_text hr.isWeb.withoutCredentials.withoutFragment rfl hread

theorem hidesCredentials_of_mem_requests_follow {first r : Request}
    (hfirst : first.HidesCredentials)
    (hr : r ∈ (follow client origin budget first answers).requests) : r.HidesCredentials :=
  forall_mem_requests_follow (fun _ _ _ _ hq hturn ↦ hidesCredentials_of_onward hq hturn) hfirst
    answers r hr

/-! ### Requests without authorizations -/

/-- A request without its authorization. -/
def Request.unauthorized (r : Request) : Request :=
  { r with authorization := none }

/-- No client looks at the authorization of a request to redirect it. -/
theorem unnoticed_unauthorized (client : Client) : Unnoticed client Request.unauthorized := by
  refine ⟨fun r ↦ rfl, fun r keepsBody url ↦ ?_⟩
  simp [Request.redirected, Request.unauthorized]

theorem headers_unauthorized (r : Request) :
    r.unauthorized.headers = r.headers.filter fun field ↦ field.1 ≠ "authorization" := by
  obtain ⟨url, body, userAgent, referer, authorization⟩ := r
  cases body <;> cases userAgent <;> cases referer <;> cases authorization <;>
    simp [Request.unauthorized, Request.headers]

/-- Two requests are the same up to the header fields for authorizations. -/
structure AgreeButAuthorization (r r' : Request) : Prop where
  method : r.method = r'.method
  target : r.absoluteTarget = r'.absoluteTarget
  headers : (r.headers.filter fun field ↦ field.1 ≠ "authorization") =
    r'.headers.filter fun field ↦ field.1 ≠ "authorization"
  body : r.body = r'.body

theorem agreeButAuthorization_of_unauthorized {r r' : Request}
    (h : r.unauthorized = r'.unauthorized) : AgreeButAuthorization r r' := by
  have hmethod := congrArg Request.method h
  have htarget := congrArg Request.absoluteTarget h
  have hbody := congrArg Request.body h
  refine ⟨hmethod, htarget, ?_, hbody⟩
  rw [← headers_unauthorized, ← headers_unauthorized, h]

/-! ### The credentials of a destination -/

/-- Every part of the credentials of a URL decodes to a text. -/
def DecodesCredentials (url : Url) : Prop :=
  (Utf8.decode? (Url.percentDecode (Utf8.encode url.username))).isSome ∧
    ∀ password ∈ url.password, (Utf8.decode? (Url.percentDecode (Utf8.encode password))).isSome

theorem percentDecode_ne_nil {bytes : Bytes} (h : bytes ≠ []) : Url.percentDecode bytes ≠ [] := by
  fun_cases Url.percentDecode bytes <;> simp_all

/-- A user name decodes to none only where there is none. -/
theorem eq_empty_iff_of_encode_eq {user username : String}
    (h : Utf8.encode user = Url.percentDecode (Utf8.encode username)) :
    user = "" ↔ username = "" := by
  constructor
  · rintro rfl
    exact Utf8.encode_injective
      (Decidable.byContradiction fun hne ↦ percentDecode_ne_nil hne h.symm)
  · rintro rfl
    exact Utf8.encode_injective h

/-- Credentials that decode are found where there are any. -/
theorem credentialsOf?_of_decodesCredentials {url : Url} (h : DecodesCredentials url) :
    ∃ user password,
      credentialsOf? url = (if url.hasCredentials then some (user, password) else none) ∧
      Utf8.encode user = Url.percentDecode (Utf8.encode url.username) ∧
      password.map Utf8.encode = url.password.map (Url.percentDecode ∘ Utf8.encode) := by
  obtain ⟨user, huser⟩ := Option.isSome_iff_exists.1 h.1
  have hencode := Utf8.encode_of_decode? huser
  have hempty := eq_empty_iff_of_encode_eq hencode
  rw [credentialsOf?, Url.hasCredentials]
  simp only [huser]
  cases hgiven : url.password with
  | some given =>
    obtain ⟨password, hpassword⟩ := Option.isSome_iff_exists.1 (h.2 given hgiven)
    refine ⟨user, some password, by simp [hpassword], hencode, ?_⟩
    simp [Utf8.encode_of_decode? hpassword]
  | none => exact ⟨user, none, by simp [hempty], hencode, rfl⟩

/-- Credentials that decode are all taken away. -/
theorem takeCredentials_fst_of_decodesCredentials {url : Url} (h : DecodesCredentials url) :
    (takeCredentials url).1 = url.withoutCredentials := by
  obtain ⟨user, password, hcredentials, -⟩ := credentialsOf?_of_decodesCredentials h
  rw [takeCredentials, hcredentials]
  cases hgiven : url.hasCredentials with
  | true => rfl
  | false =>
    obtain ⟨husername, hpassword⟩ : url.username = "" ∧ url.password = none := by
      simpa [Url.hasCredentials] using hgiven
    simp [Url.withoutCredentials, ← husername, ← hpassword]

/-- Taking credentials away leaves the endpoint. -/
theorem sameEndpoint_takeCredentials (url : Url) : SameEndpoint (takeCredentials url).1 url := by
  rw [takeCredentials]
  split <;> exact ⟨rfl, rfl⟩

theorem takeCredentials_snd_eq_some_iff {url : Url} {value : String} :
    (takeCredentials url).2 = some value ↔ ∃ user password,
      credentialsOf? url = some (user, password) ∧ value = basicAuthorization user password := by
  rw [takeCredentials]
  cases credentialsOf? url with
  | none => simp
  | some credentials => simp [Prod.ext_iff, eq_comm]

variable {network : Network}

/-- A delivery starts at a URL of the plain web. -/
theorem hidesCredentials_firstRequest {destination : String} {start : Url × Option String}
    (hstart : departure? destination = some start) (client : Client) (body : Bytes) :
    (firstRequest client start body).HidesCredentials := by
  obtain ⟨url, hparse, rfl, hscheme, -⟩ := eq_takeCredentials_of_departure hstart
  have hweb := Url.isWeb_parse hparse ((takeCredentials_scheme url).symm.trans hscheme)
  refine ⟨?_, by simp [firstRequest]⟩
  simp only [firstRequest, takeCredentials]
  split
  · exact hweb
  · exact hweb.withoutCredentials

/-- Deliveries from the same start are the same up to authorizations. -/
theorem deliver_mapRequests_unauthorized {destination destination' : String} {url url' : Url}
    (hparse : Url.parse destination = .ok url) (hparse' : Url.parse destination' = .ok url')
    (hstart : (takeCredentials url).1 = (takeCredentials url').1) (body : Bytes) :
    (deliver network client destination body answers).mapRequests Request.unauthorized =
      (deliver network client destination' body answers).mapRequests Request.unauthorized := by
  rcases htake : takeCredentials url with ⟨first, authorization⟩
  rcases htake' : takeCredentials url' with ⟨first', authorization'⟩
  obtain rfl : first = first' := by rwa [htake, htake'] at hstart
  simp only [deliver, hparse, hparse', htake, htake']
  split_ifs
  · rfl
  · rfl
  · rfl
  · cases network.barrier? client with
    | some error => rfl
    | none =>
      rw [← follow_mapRequests (unnoticed_unauthorized client),
        ← follow_mapRequests (unnoticed_unauthorized client)]
      rfl

end Http

/-! ### Sends -/

open Http

/-- The requests of a send to a destination keep its credentials with its host. -/
structure KeepsCredentials (destination : Url) (requests : List Request) : Prop where
  /-- An authorization goes to the endpoint of the destination, as have all requests before. -/
  authorized : ∀ (i : Nat) r value, requests[i]? = some r →
    ("authorization", value) ∈ r.headers → ∀ j ≤ i, ∀ q, requests[j]? = some q →
      SameEndpoint q.url destination
  /-- Once requests have left the endpoint, there is no authorization any more. -/
  lost : ∀ (i : Nat) r, requests[i]? = some r → ¬SameEndpoint r.url destination →
    ∀ j, i ≤ j → ∀ q value, requests[j]? = some q → ("authorization", value) ∉ q.headers
  /-- Every authorization is made of the credentials of the destination. -/
  own : ∀ r value, r ∈ requests → ("authorization", value) ∈ r.headers → ∃ user password,
    credentialsOf? destination = some (user, password) ∧
      value = basicAuthorization user password
  /-- No referer is a URL with credentials. -/
  referer : ∀ r value, r ∈ requests → ("referer", value) ∈ r.headers →
    ∀ url, Url.parse value = .ok url → url.hasCredentials = false

/-- Two results tell the same, up to the destination that they name. -/
inductive SameEnd : Except SendError Status → Except SendError Status → Prop
  | ok (status : Status) : SameEnd (.ok status) (.ok status)
  | error {e e' : SendError} (hkind : e.kindName = e'.kindName) (hcauses : e.causes = e'.causes) :
      SameEnd (.error e) (.error e')

/-- Two sends are the same up to authorizations and the destination that their failures name. -/
structure DifferInAuthorization (o o' : Outcome Status) : Prop where
  requests : List.Forall₂ AgreeButAuthorization o.requests o'.requests
  result : SameEnd o.result o'.result
  unused : o.unused = o'.unused
  log : o.log = o'.log

variable {network : Network} {webhook : Webhook} {message : String} {answers : List Answer}

/-- Where nothing is sent, nothing is told. -/
theorem KeepsCredentials.of_nil (destination : Url) : KeepsCredentials destination [] :=
  ⟨by simp, by simp, by simp, by simp⟩

/-- A chain keeps the credentials that its first request has. -/
theorem keepsCredentials_follow {client : Client} {origin destination : Url} {budget : Option Nat}
    {first : Request} (hfirst : first.HidesCredentials)
    (hsame : SameEndpoint first.url destination)
    (hown : ∀ value, first.authorization = some value → ∃ user password,
      credentialsOf? destination = some (user, password) ∧
        value = basicAuthorization user password) :
    KeepsCredentials destination (follow client origin budget first answers).requests := by
  have hauthorized : ∀ (i : Nat) r value,
      (follow client origin budget first answers).requests[i]? = some r →
      ("authorization", value) ∈ r.headers → ∀ j ≤ i, ∀ q,
        (follow client origin budget first answers).requests[j]? = some q →
          SameEndpoint q.url destination := by
    intro i r value hr hvalue j hj q hq
    obtain ⟨-, hbefore⟩ := authorization_follow hr (mem_headers_authorization_iff.1 hvalue)
    exact (hbefore j hj q hq).trans hsame
  refine ⟨hauthorized, fun i r hr hleft j hij q value hq hvalue ↦ ?_, fun r value hr hvalue ↦ ?_,
    fun r value hr hvalue ↦ ?_⟩
  · exact hleft (hauthorized j q value hq hvalue i hij r hr)
  · obtain ⟨i, hi⟩ := List.mem_iff_getElem?.1 hr
    obtain ⟨hfirst, -⟩ := authorization_follow hi (mem_headers_authorization_iff.1 hvalue)
    exact hown value hfirst
  · exact (hidesCredentials_of_mem_requests_follow hfirst hr).referer value
      (mem_headers_referer_iff.1 hvalue)

/-- The requests of a send keep the credentials of its destination with their host. -/
theorem keepsCredentials_send {url : Url} (hparse : Url.parse webhook.url = .ok url) :
    KeepsCredentials url (webhook.send network message answers).requests := by
  simp only [Webhook.send]
  cases hstart : departure? webhook.url with
  | none =>
    obtain ⟨failure, hstop, -⟩ := deliver_of_no_departure webhook.client network hstart
      (Payload.mk message).json answers
    rw [hstop]
    exact .of_nil url
  | some start =>
    cases hbarrier : network.barrier? webhook.client with
    | some error =>
      rw [deliver_of_barrier hstart hbarrier]
      exact .of_nil url
    | none =>
      rw [deliver_of_departure hstart hbarrier]
      obtain ⟨url', hparse', hcredentials, -⟩ := eq_takeCredentials_of_departure hstart
      obtain rfl := Except.ok.inj (hparse.symm.trans hparse')
      refine keepsCredentials_follow (hidesCredentials_firstRequest hstart webhook.client _) ?_ ?_
      · rw [firstRequest, hcredentials]
        exact sameEndpoint_takeCredentials url
      · intro value hvalue
        rw [firstRequest, hcredentials] at hvalue
        exact takeCredentials_snd_eq_some_iff.1 hvalue

/-- Sends to destinations that differ in nothing but credentials. -/
theorem differInAuthorization_send {client : Client} {destination destination' : String}
    {url url' : Url} (hparse : Url.parse destination = .ok url)
    (hparse' : Url.parse destination' = .ok url')
    (hsame : url.withoutCredentials = url'.withoutCredentials) (hdecodes : DecodesCredentials url)
    (hdecodes' : DecodesCredentials url') :
    DifferInAuthorization ((Webhook.mk destination client).send network message answers)
      ((Webhook.mk destination' client).send network message answers) := by
  have hstart : (takeCredentials url).1 = (takeCredentials url').1 := by
    rw [takeCredentials_fst_of_decodesCredentials hdecodes,
      takeCredentials_fst_of_decodesCredentials hdecodes', hsame]
  have hdeliver := @deliver_mapRequests_unauthorized client answers network destination
    destination' url url' hparse hparse' hstart (Payload.mk message).json
  simp only [Webhook.send]
  generalize deliver network client destination (Payload.mk message).json answers = d at hdeliver
  generalize deliver network client destination' (Payload.mk message).json answers = d' at hdeliver
  obtain ⟨requests, unused, result⟩ := d
  obtain ⟨requests', unused', result'⟩ := d'
  obtain ⟨hrequests, rfl, rfl⟩ := Delivery.mk.inj hdeliver
  refine ⟨?_, ?_, rfl, rfl⟩
  · have hforall : List.Forall₂ Eq (requests.map Request.unauthorized)
        (requests'.map Request.unauthorized) := by
      rw [hrequests, List.forall₂_eq_eq_eq]
    rw [List.forall₂_map_left_iff, List.forall₂_map_right_iff] at hforall
    exact hforall.imp fun r r' ↦ agreeButAuthorization_of_unauthorized
  · cases result with
    | ok status => exact .ok status
    | error failure => exact .error rfl rfl

/-- **Credentials stay with their host.** A send to a text that is no URL makes no request, and
every other send keeps the credentials of its destination with their host. Two sends of a message
by the same client to destinations that differ in nothing but credentials, all of which decode to
texts, are the same up to authorizations. -/
theorem credentials_stay_with_host (network : Network) (message : String)
    (answers : List Answer) :
    (∀ webhook : Webhook,
      (∀ fault, Url.parse webhook.url = .error fault →
        (webhook.send network message answers).requests = []) ∧
      ∀ url, Url.parse webhook.url = .ok url →
        KeepsCredentials url (webhook.send network message answers).requests) ∧
    ∀ client destination destination' url url', Url.parse destination = .ok url →
      Url.parse destination' = .ok url' → url.withoutCredentials = url'.withoutCredentials →
      DecodesCredentials url → DecodesCredentials url' →
      DifferInAuthorization ((Webhook.mk destination client).send network message answers)
        ((Webhook.mk destination' client).send network message answers) := by
  refine ⟨fun webhook ↦ ⟨fun fault hparse ↦ ?_, fun url hparse ↦ keepsCredentials_send hparse⟩,
    fun client destination destination' url url' hparse hparse' hsame hdecodes hdecodes' ↦
      differInAuthorization_send hparse hparse' hsame hdecodes hdecodes'⟩
  simp only [Webhook.send, deliver, hparse]
  rfl

/-- A script that goes on at the same host, then at another one that is given with credentials, and
then back. -/
private def roundTrip : List Answer :=
  [.ofParts "307 Temporary Redirect" [(Utf8.encode "Location", Utf8.encode "/next")] "",
    .ofParts "302 Found" [(Utf8.encode "Location", Utf8.encode "http://eve:x@[::2]/")] "",
    .ofParts "308 Permanent Redirect" [(Utf8.encode "Location", Utf8.encode "//[::1]:80/back")] "",
    .ofParts "204 No Content" [] ""]

/-- The URL of a hook with a user name and a password. -/
private def hookUrl (username : String) (password : Option String) : Url :=
  ⟨"http", username, password, some (.ipv6 [0, 0, 0, 0, 0, 0, 0, 1]), none, .segments ["hook"],
    none, none⟩

theorem credentials_are_lost_on_the_way :
    ((Webhook.standard "http://al%20ice:s3c@[::1]/hook").send .scripted "hi"
        roundTrip).requests.map (fun r ↦ (r.url.text, r.authorization)) =
      [("http://[::1]/hook", some "Basic YWwgaWNlOnMzYw=="),
        ("http://[::1]/next", some "Basic YWwgaWNlOnMzYw=="),
        ("http://eve:x@[::2]/", none), ("http://[::1]/back", none)] ∧
      KeepsCredentials (hookUrl "al%20ice" "s3c")
        ((Webhook.standard "http://al%20ice:s3c@[::1]/hook").send .scripted "hi"
          roundTrip).requests ∧
      DifferInAuthorization
        ((Webhook.standard "http://al%20ice:s3c@[::1]/hook").send .scripted "hi" roundTrip)
        ((Webhook.standard "http://[::1]/hook").send .scripted "hi" roundTrip) ∧
      ((Webhook.standard "al%20ice:s3c@[::1]").send .scripted "hi" roundTrip).requests = [] := by
  obtain ⟨hkeeps, hdiffer⟩ := credentials_stay_with_host .scripted "hi" roundTrip
  have hparse : Url.parse "http://al%20ice:s3c@[::1]/hook" = .ok (hookUrl "al%20ice" "s3c") := rfl
  have hparse' : Url.parse "http://[::1]/hook" = .ok (hookUrl "" none) := rfl
  refine ⟨by decide +kernel, (hkeeps _).2 _ hparse,
    hdiffer _ _ _ _ _ hparse hparse' rfl ?_ ?_, (hkeeps _).1 .relativeWithoutBase rfl⟩
  · exact ⟨by decide +kernel, by decide +kernel⟩
  · exact ⟨by decide +kernel, by decide +kernel⟩

end ChatHook
