import ChatHook.Program
import ChatHook.Proofs.Results
import ChatHook.Proofs.Source

/-!
# The stages of a program run

The program reads its arguments, then its input, then builds a client, then sends. Each stage is a
function of what the one before leaves, and a stage that fails is the last one: arguments without a
destination make no requests (`requests_execute_of_notice`), nor does a source that cannot be read
(`outcome_run_of_unread`) or a client that cannot be built (`dispatch_of_fault`). Where a stage
succeeds, requests and result are those of the next one, down to a single send by a standard webhook
(`requests_execute_of_destination`, `outcome_run_of_read`, `dispatch_of_built`).
-/

namespace ChatHook

open Http

variable (network : Network) (answers : List Answer)

/-! ### New webhooks -/

/-- The fault of a machine that has no more files to open. -/
def Http.BuildFault.tooManyFiles : BuildFault :=
  ⟨"Too many open files (os error 24)", []⟩

/-- The network of such a machine, with the endpoint as the proxy. -/
def Http.Network.exhausted : Network :=
  { Network.scripted with buildFault := some .tooManyFiles }

section New

variable {network}

theorem new_of_built (hbuilt : network.buildFault = none) (url : String) :
    Webhook.new network url = .ok (.standard url) := by
  simp only [Webhook.new, hbuilt]

theorem new_of_fault {fault : BuildFault} (hfault : network.buildFault = some fault)
    (url : String) : Webhook.new network url = .error (.unbuilt fault) := by
  simp only [Webhook.new, hfault]

end New

/-! ### Dispatching -/

/-- With a new webhook, dispatching is a send through it with the status forgotten. -/
theorem dispatch_of_new {destination : String} {webhook : Webhook}
    (hnew : Webhook.new network destination = .ok webhook) (message : String) :
    dispatch network destination message answers =
      (webhook.send network message answers).map fun _ ↦ () := by
  simp only [dispatch, hnew]

/-- Without one, dispatching sends nothing, uses no answer and leaves no record. -/
theorem dispatch_of_new_error {destination : String} {e : SendError}
    (hnew : Webhook.new network destination = .error e) (message : String) :
    dispatch network destination message answers = ⟨.error e, [], answers, []⟩ := by
  simp only [dispatch, hnew]

theorem dispatch_of_built (hbuilt : network.buildFault = none) (destination message : String) :
    dispatch network destination message answers =
      ((Webhook.standard destination).send network message answers).map fun _ ↦ () :=
  dispatch_of_new network answers (new_of_built hbuilt destination) message

theorem dispatch_of_fault {fault : BuildFault} (hfault : network.buildFault = some fault)
    (destination message : String) :
    dispatch network destination message answers = ⟨.error (.unbuilt fault), [], answers, []⟩ :=
  dispatch_of_new_error network answers (new_of_fault hfault destination) message

/-- Dispatching that makes a request makes those of a send by a standard webhook. -/
theorem requests_dispatch {destination message : String}
    (h : (dispatch network destination message answers).requests ≠ []) :
    (dispatch network destination message answers).requests =
      ((Webhook.standard destination).send network message answers).requests := by
  cases hbuild : network.buildFault with
  | none => rw [dispatch_of_built network answers hbuild, Outcome.map]
  | some fault =>
    rw [dispatch_of_fault network answers hbuild] at h
    exact absurd rfl h

/-- Dispatching succeeds exactly where the client can be built and a send succeeds. -/
theorem result_dispatch_eq_ok_iff {destination message : String} :
    (dispatch network destination message answers).result = .ok () ↔
      network.buildFault = none ∧
        ∃ status, ((Webhook.standard destination).send network message answers).result =
          .ok status := by
  cases hbuild : network.buildFault with
  | none => simp [dispatch_of_built network answers hbuild, Outcome.map, map_eq_ok_iff]
  | some fault => simp [dispatch_of_fault network answers hbuild]

/-! ### Running -/

/-- With a message that was read, a run is a dispatch behind the record of the reading. -/
theorem outcome_run_of_read {source : List Chunk} {message : String}
    (hread : (readMessage source).result = .ok message) (destination : String) :
    (run network destination source answers).outcome =
      (dispatch network destination message answers).logFirst
        (.messageRead (Utf8.size message)) := by
  simp only [run, hread]

/-- Without a message, a run sends nothing, uses no answer and leaves no record. -/
theorem outcome_run_of_unread {source : List Chunk} {failure : ReadFailure}
    (hread : (readMessage source).result = .error failure) (destination : String) :
    (run network destination source answers).outcome =
      ⟨.error (.unread failure), [], answers, []⟩ := by
  simp only [run, hread]

/-- With a message that was read, a run succeeds exactly where dispatching does. -/
theorem result_run_eq_ok_iff {source : List Chunk} {message : String}
    (hread : (readMessage source).result = .ok message) {destination : String} :
    (run network destination source answers).outcome.result = .ok () ↔
      network.buildFault = none ∧
        ∃ status, ((Webhook.standard destination).send network message answers).result =
          .ok status := by
  rw [outcome_run_of_read network answers hread]
  exact result_dispatch_eq_ok_iff network answers

/-- A run that sends anything has read a message, and its requests are those of a send. -/
theorem exists_read_of_requests_run {destination : String} {source : List Chunk}
    (h : (run network destination source answers).outcome.requests ≠ []) :
    ∃ message, (readMessage source).result = .ok message ∧
      (run network destination source answers).outcome.requests =
        ((Webhook.standard destination).send network message answers).requests := by
  cases hread : (readMessage source).result with
  | error failure =>
    rw [outcome_run_of_unread network answers hread] at h
    exact absurd rfl h
  | ok message =>
    rw [outcome_run_of_read network answers hread] at h ⊢
    exact ⟨message, rfl, requests_dispatch network answers h⟩

/-! ### The program -/

variable {invocation : Invocation}

/-- Without a destination the program sends nothing. -/
theorem requests_execute_of_notice {notice : CommandLine.Notice}
    (hparse : CommandLine.parse invocation.arguments = .error notice) :
    (execute network invocation answers).requests = [] := by
  simp only [execute, hparse]
  split <;> rfl

/-- With a destination the program makes the requests of a run on its input. -/
theorem requests_execute_of_destination {destination : String}
    (hparse : CommandLine.parse invocation.arguments = .ok destination) :
    (execute network invocation answers).requests =
      (run network destination [.bytes invocation.input] answers).outcome.requests := by
  simp only [execute, hparse]
  split <;> rfl

/-- With a destination and a text as its input the program ends with 0 exactly where the client can
be built and a send succeeds. -/
theorem exitCode_execute_eq_zero_iff {destination message : String}
    (hparse : CommandLine.parse invocation.arguments = .ok destination)
    (hmessage : Utf8.encode message = invocation.input) :
    (execute network invocation answers).exitCode = 0 ↔
      network.buildFault = none ∧
        ∃ status, ((Webhook.standard destination).send network message answers).result =
          .ok status := by
  rw [← result_run_eq_ok_iff network answers (readMessage_singleton_eq_ok_iff.2 hmessage)]
  simp only [execute, hparse]
  split <;> simp_all

/-- A program run that sends anything has a destination, and its requests are those of a run. -/
theorem exists_destination_of_requests_execute
    (h : (execute network invocation answers).requests ≠ []) :
    ∃ destination, CommandLine.parse invocation.arguments = .ok destination ∧
      (execute network invocation answers).requests =
        (run network destination [.bytes invocation.input] answers).outcome.requests := by
  cases hparse : CommandLine.parse invocation.arguments with
  | error notice =>
    rw [requests_execute_of_notice network answers hparse] at h
    exact absurd rfl h
  | ok destination =>
    exact ⟨destination, rfl, requests_execute_of_destination network answers hparse⟩

end ChatHook
