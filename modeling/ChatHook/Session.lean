import ChatHook.Webhook

/-!
# Sessions

A session makes webhooks and sends through them, in any order; steps that bring their own
destination need no webhook. The webhooks made so far are all that a step leaves behind.
-/

namespace ChatHook

open Http

/-- One step of a session. -/
inductive Step where
  | make (url : String) (options : Option ClientOptions)
  | send (index : Nat) (message : String) (answers : List Answer)
  | dispatch (url message : String) (answers : List Answer)
  | run (destination : String) (source : List Chunk) (answers : List Answer)
  | unknown

/-- What a step of a session answers. -/
inductive StepAnswer where
  /-- A webhook was made and has this index. -/
  | made (index : Nat)
  /-- No webhook was made, since its client could not be built. -/
  | notMade
  | sent (outcome : Outcome Status)
  /-- No webhook has the index. -/
  | noWebhook
  | dispatched (outcome : Outcome Unit)
  | ran (outcome : RunOutcome)
  | unknown

/-- What is wrong with options that no client can be built with. -/
def clientFault : String := "failed to parse header value"

/-- The error of a client with such options. That of a client with default settings is the error of
`Webhook.new`. -/
def notMadeMessage : String := "builder error: " ++ clientFault

/-- One step: its answer and the webhooks after it. -/
def Step.take (network : Network) (webhooks : List Webhook) : Step → StepAnswer × List Webhook
  | .make url options =>
    match Webhook.make? network url options with
    | some webhook => (.made webhooks.length, webhooks ++ [webhook])
    | none => (.notMade, webhooks)
  | .send index message answers =>
    match webhooks[index]? with
    | some webhook => (.sent (webhook.send network message answers), webhooks)
    | none => (.noWebhook, webhooks)
  | .dispatch url message answers =>
    (.dispatched (ChatHook.dispatch network url message answers), webhooks)
  | .run destination source answers =>
    (.ran (ChatHook.run network destination source answers), webhooks)
  | .unknown => (.unknown, webhooks)

/-- The answers of a session that has made some webhooks already. -/
def sessionFrom (network : Network) : List Webhook → List Step → List StepAnswer
  | _, [] => []
  | webhooks, step :: steps =>
    let (answer, webhooks) := step.take network webhooks
    answer :: sessionFrom network webhooks steps

/-- The answers of a session. -/
def session (network : Network) (steps : List Step) : List StepAnswer :=
  sessionFrom network [] steps

end ChatHook
