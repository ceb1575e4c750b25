import ChatHook.Proofs.Chain
import ChatHook.Proofs.ExitCode

/-!
# A failed send names its destination

A send may fail before its first request, at its connection, at any answer of its chain, or because
the chain is too long. Wherever it fails, the failure is wrapped once, around the destination as it
was given and not as it was read or redirected; its kind is one of four, none of which is a kind of
failed reading; and there is a cause. Dispatching and running wrap nothing more, so they fail in
the same words (`FailsByName`) once they have a webhook to send through. They make it themselves,
though, and where its client cannot be built there is no send that could fail: the failure is one of
building and names no destination (`FailsToBuild`).

A destination that is not acceptable is found out before the first request, and the other ways to
fail before it are of another kind, a secure connection that cannot be made among them. So a failure
without requests is one of the destination exactly where that is not acceptable
(`refusedAtOnce_send_iff`). Making a webhook comes before all of this: it keeps the destination
without a look at it (`exists_client_make?`).

## Main results

* `namesDestination_unsent`: what every failure of a send says.
* `refusedAtOnce_send_iff`: which destinations are refused before the first request.
* `failed_send_names_destination`: both for the three ways to send, and how webhooks are made.
-/

namespace ChatHook

open Http

/-! ### What a failure says -/

/-- The kinds of a failed send. -/
def sendKinds : List String :=
  ["Builder", "Redirect", "Connect", "Request"]

/-- An error names a destination: its message ends in the destination as it was given, its kind is
one of sending and none of reading, and it has a cause. -/
structure NamesDestination (destination : String) (e : SendError) : Prop where
  message : e.message = "failed to send message to " ++ destination
  kind : e.kindName ∈ sendKinds
  notRead : ∀ fault : ReadFault, e.kindName ≠ fault.name
  causes : e.causes ≠ []

/-- No kind of failed reading has the name of a kind of failed sending. -/
theorem name_notMem_sendKinds (fault : ReadFault) : fault.name ∉ sendKinds := by
  have hcatalogue : ∀ entry ∈ ReadFault.catalogue, entry.2.1 ∉ sendKinds := by
    decide
  rw [ReadFault.name]
  cases hfind : ReadFault.catalogue.find? (·.1 = fault) with
  | none => decide
  | some entry => exact hcatalogue entry (List.mem_of_find?_eq_some hfind)

theorem kindName_mem_sendKinds (destination : String) (failure : Failure) :
    (SendError.unsent destination failure).kindName ∈ sendKinds := by
  rw [SendError.kindName, sendKinds]
  cases failure.kind <;> simp

theorem namesDestination_unsent (destination : String) (failure : Failure) :
    NamesDestination destination (.unsent destination failure) := by
  have hkind := kindName_mem_sendKinds destination failure
  refine ⟨rfl, hkind, fun fault hname ↦ ?_, SendError.causes_ne_nil _⟩
  exact name_notMem_sendKinds fault (hname ▸ hkind)

/-! ### Which destinations are refused -/

/-- A destination is acceptable: it is a URL of the web, and the URL fits into a request once its
credentials are taken out. -/
def IsAcceptable (destination : String) : Prop :=
  ∃ url, Url.parse destination = .ok url ∧ url.scheme ∈ ["http", "https"] ∧
    isTarget (takeCredentials url).1.text = true

/-- An acceptable destination is one that a delivery starts from, or one that asks for a secure
connection. -/
theorem isAcceptable_iff {destination : String} :
    IsAcceptable destination ↔
      (∃ start, departure? destination = some start) ∨ IsSecure destination := by
  constructor
  · rintro ⟨url, hparse, hscheme, htarget⟩
    obtain hhttp | hhttps : url.scheme = "http" ∨ url.scheme = "https" := by
      simpa using hscheme
    · exact .inl ⟨takeCredentials url,
        by simp [departure?, hparse, takeCredentials_scheme, hhttp, htarget]⟩
    · exact .inr ⟨url, hparse, hhttps, htarget⟩
  · rintro (⟨start, hstart⟩ | ⟨url, hparse, hscheme, htarget⟩)
    · obtain ⟨url, hparse, rfl, hscheme, htarget⟩ := eq_takeCredentials_of_departure hstart
      exact ⟨url, hparse, by simp [← takeCredentials_scheme url, hscheme], htarget⟩
    · exact ⟨url, hparse, by simp [hscheme], htarget⟩

theorem departure?_of_isSecure {destination : String} (h : IsSecure destination) :
    departure? destination = none := by
  obtain ⟨url, hparse, hscheme, -⟩ := h
  simp [departure?, hparse, takeCredentials_scheme, hscheme]

/-- A send has ended before its first request, with a failure of a kind. -/
structure RefusedAtOnce {α : Type} (kind : String) (answers : List Answer) (o : Outcome α) :
    Prop where
  requests : o.requests = []
  unused : o.unused = answers
  result : ∃ e, o.result = .error e ∧ e.kindName = kind

/-- A send fails in the name of its destination. It does so at once exactly where that is not
acceptable, as a fault of the destination; and where it asks for a secure connection, as one of the
connection. -/
structure FailsByName {α : Type} (destination : String) (answers : List Answer)
    (o : Outcome α) : Prop where
  names : ∀ e, o.result = .error e → NamesDestination destination e
  refused_iff : RefusedAtOnce "Builder" answers o ↔ ¬IsAcceptable destination
  secure : IsSecure destination → RefusedAtOnce "Connect" answers o

/-- There is no client to send with, and the failure says so, whatever the destination is. -/
structure FailsToBuild {α : Type} (fault : BuildFault) (answers : List Answer) (o : Outcome α) :
    Prop where
  refused : RefusedAtOnce "Builder" answers o
  wording : ∀ e, o.result = .error e →
    e.message = "failed to build HTTP client" ∧ e.causes = fault.texts

/-- A send by a new webhook fails in the name of its destination, unless there is no client to send
with. -/
structure FailsAsNew {α : Type} (network : Network) (destination : String) (answers : List Answer)
    (o : Outcome α) : Prop where
  built : network.buildFault = none → FailsByName destination answers o
  unbuilt : ∀ fault, network.buildFault = some fault → FailsToBuild fault answers o

/-! ### Sending -/

section Send

variable {network : Network} {answers : List Answer} {webhook : Webhook} {message : String}

theorem refusedAtOnce_of_stop {failure : Failure}
    (hstop : deliver network webhook.client webhook.url (Payload.mk message).json answers =
      .stop failure answers) :
    RefusedAtOnce (SendError.unsent webhook.url failure).kindName answers
      (webhook.send network message answers) := by
  simp only [Webhook.send, hstop]
  exact ⟨rfl, rfl, _, rfl, rfl⟩

/-- A failure has one kind only. -/
theorem RefusedAtOnce.kind_unique {α : Type} {kind kind' : String} {o : Outcome α}
    (h : RefusedAtOnce kind answers o) (h' : RefusedAtOnce kind' answers o) : kind = kind' := by
  obtain ⟨e, he, rfl⟩ := h.result
  obtain ⟨e', he', rfl⟩ := h'.result
  rw [Except.error.inj (he.symm.trans he')]

variable (network webhook message answers) in
theorem refusedAtOnce_send_of_isSecure (h : IsSecure webhook.url) :
    RefusedAtOnce "Connect" answers (webhook.send network message answers) := by
  obtain ⟨failure, hstop, hconnect, -⟩ := deliver_of_no_departure webhook.client network
    (departure?_of_isSecure h) (Payload.mk message).json answers
  have hrefused := refusedAtOnce_of_stop hstop
  rwa [SendError.kindName, hconnect h] at hrefused

/-- A send is refused for its destination exactly if that is not acceptable. -/
theorem refusedAtOnce_send_iff :
    RefusedAtOnce "Builder" answers (webhook.send network message answers) ↔
      ¬IsAcceptable webhook.url := by
  constructor
  · intro hrefused hacceptable
    rcases isAcceptable_iff.1 hacceptable with ⟨start, hstart⟩ | hsecure
    · cases hbarrier : network.barrier? webhook.client with
      | none =>
        have hrequests := hrefused.requests
        simp only [Webhook.send, deliver_of_departure hstart hbarrier] at hrequests
        exact requests_follow_ne_nil hrequests
      | some error =>
        have hconnect := refusedAtOnce_of_stop
          (deliver_of_barrier hstart hbarrier (Payload.mk message).json answers)
        exact absurd (hrefused.kind_unique hconnect) (by simp [SendError.kindName, Failure.kind])
    · have hconnect := refusedAtOnce_send_of_isSecure network answers webhook message hsecure
      exact absurd (hrefused.kind_unique hconnect) (by simp)
  · intro hunacceptable
    obtain ⟨hnone, hinsecure⟩ := not_or.1 (mt isAcceptable_iff.2 hunacceptable)
    have hstart : departure? webhook.url = none := by
      simpa [Option.eq_none_iff_forall_ne_some] using hnone
    obtain ⟨failure, hstop, -, hbuilder⟩ := deliver_of_no_departure webhook.client network hstart
      (Payload.mk message).json answers
    have hrefused := refusedAtOnce_of_stop hstop
    rwa [SendError.kindName, hbuilder hinsecure] at hrefused

theorem failsByName_send (webhook : Webhook) (message : String) :
    FailsByName webhook.url answers (webhook.send network message answers) := by
  refine ⟨fun e he ↦ ?_, refusedAtOnce_send_iff,
    refusedAtOnce_send_of_isSecure network answers webhook message⟩
  obtain ⟨failure, -, rfl⟩ := mapError_eq_error_iff.1 he
  exact namesDestination_unsent webhook.url failure

end Send

/-! ### Dispatching and running -/

section Outcome

variable {α β : Type} {kind destination : String} {answers : List Answer} {o : Outcome α}
  {network : Network} {fault : BuildFault}

/-- The value of a send that succeeds has no part in this. -/
theorem refusedAtOnce_map_iff {f : α → β} :
    RefusedAtOnce kind answers (o.map f) ↔ RefusedAtOnce kind answers o := by
  constructor
  · rintro ⟨hrequests, hunused, e, he, hkind⟩
    exact ⟨hrequests, hunused, e, map_eq_error_iff.1 he, hkind⟩
  · rintro ⟨hrequests, hunused, e, he, hkind⟩
    exact ⟨hrequests, hunused, e, map_eq_error_iff.2 he, hkind⟩

theorem FailsByName.map (h : FailsByName destination answers o) (f : α → β) :
    FailsByName destination answers (o.map f) :=
  ⟨fun e he ↦ h.names e (map_eq_error_iff.1 he), refusedAtOnce_map_iff.trans h.refused_iff,
    fun hsecure ↦ refusedAtOnce_map_iff.2 (h.secure hsecure)⟩

/-- Nor has the log. -/
theorem refusedAtOnce_logFirst_iff {event : LogEvent} :
    RefusedAtOnce kind answers (o.logFirst event) ↔ RefusedAtOnce kind answers o :=
  ⟨fun ⟨hrequests, hunused, hresult⟩ ↦ ⟨hrequests, hunused, hresult⟩,
    fun ⟨hrequests, hunused, hresult⟩ ↦ ⟨hrequests, hunused, hresult⟩⟩

theorem FailsAsNew.logFirst (h : FailsAsNew network destination answers o) (event : LogEvent) :
    FailsAsNew network destination answers (o.logFirst event) := by
  refine ⟨fun hbuilt ↦ ?_, fun fault hfault ↦ ?_⟩
  · obtain ⟨hnames, hrefused, hsecure⟩ := h.built hbuilt
    exact ⟨hnames, refusedAtOnce_logFirst_iff.trans hrefused,
      fun h ↦ refusedAtOnce_logFirst_iff.2 (hsecure h)⟩
  · obtain ⟨hrefused, hwording⟩ := h.unbuilt fault hfault
    exact ⟨refusedAtOnce_logFirst_iff.2 hrefused, hwording⟩

end Outcome

theorem failsAsNew_dispatch (network : Network) (answers : List Answer)
    (destination message : String) :
    FailsAsNew network destination answers (dispatch network destination message answers) := by
  refine ⟨fun hbuilt ↦ ?_, fun fault hfault ↦ ?_⟩
  · rw [dispatch_of_built network answers hbuilt]
    exact (failsByName_send (.standard destination) message).map _
  · rw [dispatch_of_fault network answers hfault]
    refine ⟨⟨rfl, rfl, _, rfl, rfl⟩, fun e he ↦ ?_⟩
    rw [← Except.error.inj he]
    exact ⟨rfl, rfl⟩

/-- Options make a client or none, and a webhook keeps any destination as it is given. -/
theorem exists_client_make? (network : Network) (options : Option ClientOptions) :
    ∃ client? : Option Client, ∀ url,
      Webhook.make? network url options = client?.map (Webhook.mk url) := by
  cases options with
  | some options => exact ⟨options.client?, fun url ↦ rfl⟩
  | none =>
    cases hbuild : network.buildFault with
    | none => exact ⟨some .standard, fun url ↦ by rw [Webhook.make?, new_of_built hbuild]; rfl⟩
    | some fault => exact ⟨none, fun url ↦ by rw [Webhook.make?, new_of_fault hbuild]; rfl⟩

/-- **A failed send names its destination.** Whether a message is sent through a webhook, dispatched
or sent by a run that has read it, the last two with a client that could be built: every failure is
of one of the four kinds of sending, has a cause and names the destination as it was given. A fault
of the destination before any request, with all answers left, is what comes of exactly the
destinations that are not acceptable; a secure one fails there too, as a connection. Where no client
can be built, dispatching and running fail at once with what the builder met, whatever the
destination is. Making a webhook does not look at the destination. -/
theorem failed_send_names_destination (network : Network) (answers : List Answer) :
    (∀ (webhook : Webhook) message,
      FailsByName webhook.url answers (webhook.send network message answers)) ∧
    (∀ destination message,
      FailsAsNew network destination answers (dispatch network destination message answers)) ∧
    (∀ destination source message, (readMessage source).result = .ok message →
      FailsAsNew network destination answers (run network destination source answers).outcome) ∧
    ∀ options, ∃ client? : Option Client, ∀ url,
      Webhook.make? network url options = client?.map (Webhook.mk url) := by
  refine ⟨failsByName_send, failsAsNew_dispatch network answers,
    fun destination source message hread ↦ ?_, exists_client_make? network⟩
  rw [outcome_run_of_read network answers hread]
  exact (failsAsNew_dispatch network answers destination message).logFirst _

theorem unbuilt_client_names_no_hook :
    (∃ e, (dispatch .exhausted "http://[::1]/hook" "hello" []).result = .error e ∧
      e.message = "failed to build HTTP client" ∧ ¬NamesDestination "http://[::1]/hook" e) ∧
      (∃ e, (run .exhausted "http://[::1]/hook" [.bytes (Utf8.encode "hello")] []).outcome.result =
        .error e ∧ ¬NamesDestination "http://[::1]/hook" e) ∧
      RefusedAtOnce "Connect" [] (dispatch .scripted "https://[::1]/hook" "hello" []) := by
  have hunnamed : ∀ fault, ¬NamesDestination "http://[::1]/hook" (.unbuilt fault) := by
    intro fault hnames
    have hmessage : "failed to build HTTP client" =
        "failed to send message to " ++ "http://[::1]/hook" := hnames.message
    exact absurd hmessage (by decide)
  refine ⟨⟨_, rfl, rfl, hunnamed _⟩, ⟨_, rfl, hunnamed _⟩, ?_⟩
  have hsecure : IsSecure "https://[::1]/hook" := by
    decide +kernel
  exact ((failsAsNew_dispatch .scripted [] "https://[::1]/hook" "hello").built rfl).secure hsecure

/-- An answer that has a post repeated at another host. -/
private def sentAway : Answer :=
  .ofParts "308 Permanent Redirect" [(Utf8.encode "Location", Utf8.encode "http://[::2]/b")] ""

/-- A source with a message in two pieces. -/
private def pieces : List Chunk :=
  [.bytes [0x68], .failure (.ofFault .interrupted), .bytes [0x69]]

theorem failures_name_hook :
    (readMessage pieces).result = .ok "hi" ∧
      (∃ e, (run .scripted " http://u:p@[::1]/a#b" pieces [sentAway, .closed]).outcome.result =
        .error e ∧ NamesDestination " http://u:p@[::1]/a#b" e ∧ e.kindName = "Request") ∧
      ¬IsAcceptable "no address" ∧
      RefusedAtOnce "Builder" [sentAway] (run .scripted "no address" pieces [sentAway]).outcome ∧
      FailsToBuild .tooManyFiles [sentAway]
        (run .exhausted "http://[::1]/hook" pieces [sentAway]).outcome := by
  obtain ⟨-, -, hrun, -⟩ := failed_send_names_destination .scripted [sentAway, .closed]
  obtain ⟨-, -, hrefused, -⟩ := failed_send_names_destination .scripted [sentAway]
  obtain ⟨-, -, hunbuilt, -⟩ := failed_send_names_destination .exhausted [sentAway]
  have hread : (readMessage pieces).result = .ok "hi" := rfl
  have hno : ¬IsAcceptable "no address" := by
    rintro ⟨url, hparse, -⟩
    exact nomatch hparse
  refine ⟨hread, ?_, hno, ((hrefused "no address" pieces "hi" hread).built rfl).refused_iff.2 hno,
    (hunbuilt "http://[::1]/hook" pieces "hi" hread).unbuilt _ rfl⟩
  have hkind : (errorOf? (run .scripted " http://u:p@[::1]/a#b" pieces
      [sentAway, .closed]).outcome.result).map SendError.kindName = some "Request" := by
    decide +kernel
  obtain ⟨e, he, hrequest⟩ := Option.map_eq_some_iff.1 hkind
  have herror := errorOf?_eq_some_iff.1 he
  exact ⟨e, herror, ((hrun _ pieces "hi" hread).built rfl).names e herror, hrequest⟩

end ChatHook
