import ChatHook.Proofs.Base64
import ChatHook.Proofs.Credentials
import ChatHook.Proofs.HostField
import ChatHook.Proofs.WrittenText

/-!
# The header fields of a chain

What the header of a request holds depends on its place in the chain (`IsField`). Every request says
what it accepts and to which host it goes. The fields of a body are there as long as requests are
posts, `referer` names the request before, and `authorization` has the credentials of the
destination until the chain leaves its endpoint for the first time. That these are all fields, and
none is there twice, holds for every request of every chain (`mem_headers_follow_iff`).

## Main results

* `mem_headers_iff`: the fields of one request.
* `referer_of_succ`, `authorization_follow_iff`: what depends on the requests before.
* `takeCredentials_snd_of_decodesCredentials`: the authorization of a destination.
* `headers_of_each_request`: the fields of each request of a send.
-/

namespace ChatHook

namespace Http

/-! ### Fields of one request -/

/-- A field that is there if it has a value. -/
private theorem mem_toList_map_iff {field name value : String} {given : Option String} :
    (name, value) ∈ (given.map (field, ·)).toList ↔ name = field ∧ given = some value := by
  cases given <;> simp [eq_comm]

/-- The header fields of a request by its parts. -/
theorem mem_headers_iff {r : Request} {name value : String} :
    (name, value) ∈ r.headers ↔
      name = "accept" ∧ value = "*/*" ∨
      name = "authorization" ∧ r.authorization = some value ∨
      name = "content-length" ∧ r.method = .post ∧ value = toString r.bodyBytes.length ∨
      name = "content-type" ∧ r.method = .post ∧ value = "application/json" ∨
      name = "host" ∧ value = r.url.authorityText ∨
      name = "referer" ∧ r.referer = some value ∨
      name = "user-agent" ∧ r.userAgent = some value := by
  simp only [Request.headers, List.mem_append, mem_toList_map_iff, or_assoc]
  cases hbody : r.body <;> simp [Request.method, Request.bodyBytes, hbody]

/-- No header field is there twice. -/
theorem nodup_headers (r : Request) : (r.headers.map Prod.fst).Nodup := by
  obtain ⟨url, body, userAgent, referer, authorization⟩ := r
  cases body <;> cases userAgent <;> cases referer <;> cases authorization <;>
    simp [Request.headers]

/-! ### Fields along a chain -/

section Chain

variable {client : Client} {origin : Url} {budget : Option Nat} {first : Request}
  {answers : List Answer}

/-- No redirect changes the user agent. -/
theorem userAgent_of_mem_requests_follow {r : Request}
    (hr : r ∈ (follow client origin budget first answers).requests) :
    r.userAgent = first.userAgent := by
  refine forall_mem_requests_follow (P := fun q ↦ q.userAgent = first.userAgent) ?_ rfl answers r hr
  intro budget q answer next hq hturn
  obtain ⟨_, _, _, -, -, -, -, rfl⟩ := turn_eq_onward_iff.1 hturn
  exact hq

/-- A request behind a redirect names the one before, where the client does that. -/
theorem referer_of_succ {i : Nat} {r next : Request}
    (hr : (follow client origin budget first answers).requests[i]? = some r)
    (hnext : (follow client origin budget first answers).requests[i + 1]? = some next) :
    next.referer = if client.sendsReferer then some (refererOf r.url) else none := by
  obtain ⟨_, _, _, -, -, -, -, rfl⟩ :=
    turn_eq_onward_iff.1 ((getElem?_succ_eq_some_iff hr).1 hnext)
  rfl

/-- A redirect to the same endpoint keeps the authorization. -/
theorem authorization_of_onward_of_sameEndpoint {r next : Request} {answer : Answer}
    (h : r.turn client origin budget answer = .onward next) (hsame : SameEndpoint next.url r.url) :
    next.authorization = r.authorization := by
  obtain ⟨_, url, _, -, -, -, -, rfl⟩ := turn_eq_onward_iff.1 h
  obtain ⟨hhost, hport⟩ : url.host = r.url.host ∧ url.effectivePort? = r.url.effectivePort? := hsame
  simp [Request.redirected, hhost, hport]

/-- A request has the authorization of the first one as long as the chain has not left the endpoint
of the first one. -/
theorem authorization_follow_iff {i : Nat} {r : Request}
    (hr : (follow client origin budget first answers).requests[i]? = some r) {value : String} :
    r.authorization = some value ↔ first.authorization = some value ∧ ∀ j ≤ i, ∀ q,
      (follow client origin budget first answers).requests[j]? = some q →
        SameEndpoint q.url first.url := by
  refine ⟨authorization_follow hr, ?_⟩
  rintro ⟨hfirst, hstays⟩
  induction i generalizing r with
  | zero =>
    obtain rfl := Option.some.inj ((requests_follow_zero budget first answers).symm.trans hr)
    exact hfirst
  | succ i ih =>
    obtain ⟨q, hq, hturn⟩ := exists_turn_onward hr
    have hsame : SameEndpoint r.url q.url :=
      (hstays (i + 1) (Nat.le_refl _) r hr).trans (hstays i (by omega) q hq).symm
    rw [authorization_of_onward_of_sameEndpoint hturn hsame]
    exact ih hq fun j hj ↦ hstays j (by omega)

theorem omitsDefaultPort_of_mem_requests_follow {r : Request}
    (hfirst : first.url.OmitsDefaultPort)
    (hr : r ∈ (follow client origin budget first answers).requests) : r.url.OmitsDefaultPort := by
  refine forall_mem_requests_follow (P := fun q ↦ q.url.OmitsDefaultPort) ?_ hfirst answers r hr
  intro budget q answer next hq hturn
  obtain ⟨_, url, _, -, hredirect, hscheme, -, rfl⟩ := turn_eq_onward_iff.1 hturn
  obtain ⟨_, _, -, -, -, hlocation⟩ := hredirect
  obtain ⟨text, -, hresolve, -⟩ := exists_resolve_of_location? hlocation
  exact Url.omitsDefaultPort_resolve hq hresolve hscheme

end Chain

/-! ### The authorization of a destination -/

/-- User name and password of a URL as they are meant, with a colon between them. -/
def userinfoBytes (url : Url) : Bytes :=
  Url.percentDecode (Utf8.encode url.username) ++
    0x3A :: (url.password.map (Url.percentDecode ∘ Utf8.encode)).getD []

/-- The authorization by the user name and password of a URL. -/
def authorizationOf (url : Url) : String :=
  "Basic " ++ String.ofList (Base64.encode (userinfoBytes url))

/-- Credentials that decode make the authorization of their URL. -/
theorem takeCredentials_snd_of_decodesCredentials {url : Url} (h : DecodesCredentials url) :
    (takeCredentials url).2 = if url.hasCredentials then some (authorizationOf url) else none := by
  obtain ⟨user, password, hcredentials, huser, hpassword⟩ := credentialsOf?_of_decodesCredentials h
  have hbytes : Utf8.encode (user ++ ":" ++ password.getD "") = userinfoBytes url := by
    have hcolon : Utf8.encode ":" = [0x3A] := rfl
    have hgiven : Utf8.encode (password.getD "") = (password.map Utf8.encode).getD [] := by
      cases password <;> rfl
    rw [userinfoBytes, Utf8.encode_append, Utf8.encode_append, huser, hcolon, hgiven, hpassword,
      List.append_assoc, List.singleton_append]
  rw [takeCredentials, hcredentials]
  cases url.hasCredentials with
  | true => simp [basicAuthorization, hbytes, authorizationOf]
  | false => rfl

end Http

/-! ### Sends -/

open Http

/-- A field of the request at an index among the requests of a send, which a client makes to a
destination. -/
inductive IsField (client : Client) (destination : Url) (requests : List Request) (i : Nat)
    (r : Request) : String → String → Prop
  | accept : IsField client destination requests i r "accept" "*/*"
  | host {value} (hhost : r.url.IsHostOf value) :
      IsField client destination requests i r "host" value
  | userAgent {value} (huserAgent : client.userAgent = some value) :
      IsField client destination requests i r "user-agent" value
  | contentType (hmethod : r.method = .post) :
      IsField client destination requests i r "content-type" "application/json"
  | contentLength (hmethod : r.method = .post) :
      IsField client destination requests i r "content-length" (toString r.bodyBytes.length)
  /-- The target of the request before, without credentials. -/
  | referer {j previous} (hreferer : client.sendsReferer = true) (hindex : i = j + 1)
      (hprevious : requests[j]? = some previous) :
      IsField client destination requests i r "referer"
        previous.url.withoutCredentials.withoutFragment.text
  /-- The credentials of the destination, as long as requests have not left its endpoint. -/
  | authorization (hcredentials : destination.hasCredentials = true)
      (hstays : ∀ j ≤ i, ∀ q, requests[j]? = some q → SameEndpoint q.url destination) :
      IsField client destination requests i r "authorization" (authorizationOf destination)

/-- A request with which a client may start to send to a destination. -/
structure Starts (client : Client) (destination : Url) (first : Request) : Prop where
  hides : first.HidesCredentials
  port : first.url.OmitsDefaultPort
  endpoint : SameEndpoint first.url destination
  userAgent : first.userAgent = client.userAgent
  referer : first.referer = none
  authorization : first.authorization =
    if destination.hasCredentials then some (authorizationOf destination) else none

theorem starts_firstRequest {client : Client} {destination : String}
    {start : Url × Option String} (hstart : departure? destination = some start) {url : Url}
    (hparse : Url.parse destination = .ok url) (hdecodes : DecodesCredentials url) (body : Bytes) :
    Starts client url (firstRequest client start body) := by
  obtain ⟨url', hparse', rfl, hscheme, -⟩ := eq_takeCredentials_of_departure hstart
  obtain rfl := Except.ok.inj (hparse.symm.trans hparse')
  have hport := Url.omitsDefaultPort_parse hparse ((takeCredentials_scheme url).symm.trans hscheme)
  refine ⟨hidesCredentials_firstRequest hstart client body, ?_, sameEndpoint_takeCredentials url,
    rfl, rfl, takeCredentials_snd_of_decodesCredentials hdecodes⟩
  rw [firstRequest, takeCredentials_fst_of_decodesCredentials hdecodes]
  exact hport

section Starts

variable {client : Client} {origin destination : Url} {budget : Option Nat} {first r : Request}
  {answers : List Answer} {i : Nat} {value : String}

/-- The credentials of the destination authorize a request until the chain leaves its endpoint. -/
theorem authorization_eq_some_iff (hfirst : Starts client destination first)
    (hr : (follow client origin budget first answers).requests[i]? = some r) :
    r.authorization = some value ↔ destination.hasCredentials = true ∧
      (∀ j ≤ i, ∀ q, (follow client origin budget first answers).requests[j]? = some q →
        SameEndpoint q.url destination) ∧ value = authorizationOf destination := by
  have hgiven : first.authorization = some value ↔ destination.hasCredentials = true ∧
      value = authorizationOf destination := by
    rw [hfirst.authorization, Option.ite_none_right_eq_some, Option.some.injEq,
      eq_comm (a := value)]
  rw [authorization_follow_iff hr, hgiven]
  constructor
  · rintro ⟨⟨hcredentials, hvalue⟩, hstays⟩
    exact ⟨hcredentials, fun j hj q hq ↦ (hstays j hj q hq).trans hfirst.endpoint, hvalue⟩
  · rintro ⟨hcredentials, hstays, hvalue⟩
    exact ⟨⟨hcredentials, hvalue⟩,
      fun j hj q hq ↦ (hstays j hj q hq).trans hfirst.endpoint.symm⟩

/-- A request names the one before it, if there is one and the client does that. -/
theorem referer_eq_some_iff (hfirst : Starts client destination first)
    (hr : (follow client origin budget first answers).requests[i]? = some r) :
    r.referer = some value ↔ client.sendsReferer = true ∧ ∃ j previous, i = j + 1 ∧
      (follow client origin budget first answers).requests[j]? = some previous ∧
      value = previous.url.withoutCredentials.withoutFragment.text := by
  cases i with
  | zero =>
    obtain rfl := Option.some.inj ((requests_follow_zero budget first answers).symm.trans hr)
    simp [hfirst.referer]
  | succ j =>
    obtain ⟨previous, hprevious, -⟩ := exists_turn_onward hr
    rw [referer_of_succ hprevious hr, Option.ite_none_right_eq_some, Option.some.injEq, refererOf]
    constructor
    · rintro ⟨hreferer, rfl⟩
      exact ⟨hreferer, j, previous, rfl, hprevious, rfl⟩
    · rintro ⟨hreferer, j', previous', hindex, hprevious', rfl⟩
      obtain rfl := Nat.succ.inj hindex
      obtain rfl := Option.some.inj (hprevious.symm.trans hprevious')
      exact ⟨hreferer, rfl⟩

/-- The fields of a request of a chain are those that its place in the chain gives it. -/
theorem mem_headers_follow_iff (hfirst : Starts client destination first)
    (hr : (follow client origin budget first answers).requests[i]? = some r) {name : String} :
    (name, value) ∈ r.headers ↔
      IsField client destination (follow client origin budget first answers).requests i r
        name value := by
  have hmem := List.mem_of_getElem? hr
  have hweb := (hidesCredentials_of_mem_requests_follow hfirst.hides hmem).isWeb
  have hhost : r.url.IsHostOf value ↔ value = r.url.authorityText :=
    Url.isHostOf_iff hweb (omitsDefaultPort_of_mem_requests_follow hfirst.port hmem)
  have huserAgent : r.userAgent = client.userAgent :=
    (userAgent_of_mem_requests_follow hmem).trans hfirst.userAgent
  rw [mem_headers_iff, authorization_eq_some_iff hfirst hr, referer_eq_some_iff hfirst hr,
    huserAgent, ← hhost]
  constructor
  · rintro (⟨rfl, rfl⟩ | ⟨rfl, hcredentials, hstays, rfl⟩ | ⟨rfl, hmethod, rfl⟩ |
      ⟨rfl, hmethod, rfl⟩ | ⟨rfl, hhost⟩ |
      ⟨rfl, hreferer, j, previous, hindex, hprevious, rfl⟩ | ⟨rfl, huserAgent⟩)
    · exact .accept
    · exact .authorization hcredentials hstays
    · exact .contentLength hmethod
    · exact .contentType hmethod
    · exact .host hhost
    · exact .referer hreferer hindex hprevious
    · exact .userAgent huserAgent
  · intro h
    cases h with
    | accept => simp
    | host h => simp [h]
    | userAgent h => simp [h]
    | contentType h => simp [h]
    | contentLength h => simp [h]
    | referer hreferer hindex hprevious => simp [hreferer, hindex, hprevious]
    | authorization hcredentials hstays => simpa [hcredentials] using hstays

end Starts

/-- **The header of each request.** A send to a text that is no URL makes no request. With a
destination that has no credentials, or credentials that decode to texts, each request of a send
has exactly the header fields that its place in the chain gives it, each name once. What authorizes
a request reads back as user name and password. -/
theorem headers_of_each_request (network : Network) (webhook : Webhook) (message : String)
    (answers : List Answer) :
    (∀ fault, Url.parse webhook.url = .error fault →
      (webhook.send network message answers).requests = []) ∧
    (∀ url, Url.parse webhook.url = .ok url → DecodesCredentials url →
      ∀ (i : Nat) r, (webhook.send network message answers).requests[i]? = some r →
        (r.headers.map Prod.fst).Nodup ∧ ∀ name value, (name, value) ∈ r.headers ↔
          IsField webhook.client url (webhook.send network message answers).requests i r
            name value) ∧
    ∀ url, ∃ text, authorizationOf url = "Basic " ++ String.ofList text ∧
      Base64.decode? text = some (userinfoBytes url) := by
  refine ⟨fun fault hparse ↦ ?_, fun url hparse hdecodes i r hr ↦ ⟨nodup_headers r, ?_⟩,
    fun url ↦ ⟨_, rfl, Base64.decode?_encode _⟩⟩
  · simp only [Webhook.send, deliver, hparse]
    rfl
  · simp only [Webhook.send] at hr ⊢
    obtain ⟨start, hstart, hfollow⟩ := exists_follow_of_requests_deliver (List.ne_nil_of_mem
      (List.mem_of_getElem? hr))
    rw [hfollow] at hr ⊢
    exact fun name value ↦ mem_headers_follow_iff (starts_firstRequest hstart hparse hdecodes _) hr

/-- A script that goes on at the same host, then as a GET at another port, and then back. -/
private def sidestep : List Answer :=
  [.ofParts "307 Temporary Redirect" [(Utf8.encode "Location", Utf8.encode "/next#end")] "",
    .ofParts "303 See Other" [(Utf8.encode "Location", Utf8.encode "http://eve@[::1]:81/")] "",
    .ofParts "308 Permanent Redirect" [(Utf8.encode "Location", Utf8.encode "//[::1]:80/back")] "",
    .ofParts "204 No Content" [] ""]

/-- A webhook with a user name and a user agent. -/
private def namedHook : Webhook :=
  ⟨"http://al%20ice@[::1]/hook", { Client.standard with userAgent := some "post/1" }⟩

/-- The destination of the webhook. -/
private def namedUrl : Url :=
  ⟨"http", "al%20ice", none, some (.ipv6 [0, 0, 0, 0, 0, 0, 0, 1]), none, .segments ["hook"], none,
    none⟩

/-- The requests of a send along the script. -/
private def sidestepRequests : List Request :=
  (namedHook.send .scripted "é" sidestep).requests

theorem headers_around_a_sidestep :
    Url.parse namedHook.url = .ok namedUrl ∧ DecodesCredentials namedUrl ∧
      (∃ r, sidestepRequests[1]? = some r ∧
        (∀ name value, (name, value) ∈ r.headers ↔
          IsField namedHook.client namedUrl sidestepRequests 1 r name value) ∧
        r.headers = [("accept", "*/*"), ("authorization", "Basic YWwgaWNlOg=="),
          ("content-length", "16"), ("content-type", "application/json"), ("host", "[::1]"),
          ("referer", "http://[::1]/hook"), ("user-agent", "post/1")]) ∧
      ∃ r, sidestepRequests[3]? = some r ∧
        (∀ name value, (name, value) ∈ r.headers ↔
          IsField namedHook.client namedUrl sidestepRequests 3 r name value) ∧
        r.headers = [("accept", "*/*"), ("host", "[::1]"), ("referer", "http://[::1]:81/"),
          ("user-agent", "post/1")] := by
  obtain ⟨-, hheaders, -⟩ := headers_of_each_request .scripted namedHook "é" sidestep
  have hparse : Url.parse namedHook.url = .ok namedUrl := rfl
  have hdecodes : DecodesCredentials namedUrl := ⟨by decide +kernel, nofun⟩
  have hshown : ∀ i headers, sidestepRequests[i]?.map Request.headers = some headers →
      ∃ r, sidestepRequests[i]? = some r ∧
        (∀ name value, (name, value) ∈ r.headers ↔
          IsField namedHook.client namedUrl sidestepRequests i r name value) ∧
        r.headers = headers := by
    intro i headers h
    obtain ⟨r, hr, hheader⟩ := Option.map_eq_some_iff.1 h
    exact ⟨r, hr, (hheaders _ hparse hdecodes i r hr).2, hheader⟩
  exact ⟨hparse, hdecodes, hshown 1 _ (by decide +kernel), hshown 3 _ (by decide +kernel)⟩

end ChatHook
