import ChatHook.Session

/-!
# Sessions keep webhooks and nothing else

A step of a session leaves nothing behind but the webhook that it makes (`take_snd`). So the answer
to a step is told by the step itself and the successful makes before it, whatever was sent in the
meantime (`getElem?_session`): a send answers as behind its make alone, a step without a webhook
answers as in a session of its own, and steps that make nothing trade answers when they trade
places.

## Main results

* `sessionFrom_append`: a session is its first part, and its second part with the webhooks of both.
* `getElem?_session`: the answer at each index.
* `sessions_are_independent`: what the answers of a session depend on.
-/

namespace ChatHook

open Http

/-! ### Making webhooks -/

/-- A step makes a webhook if it is meant to and the client can be built. -/
def Step.makesWebhook (network : Network) : Step → Bool
  | .make _ none => network.buildFault.isNone
  | .make _ (some options) => options.client?.isSome
  | _ => false

/-- The webhook that a step makes, if it makes one. -/
def Step.webhook? (network : Network) : Step → Option Webhook
  | .make url options => Webhook.make? network url options
  | _ => none

/-- The steps that make a webhook. -/
def successes (network : Network) (steps : List Step) : List Step :=
  steps.filter (Step.makesWebhook network)

/-- The webhooks that steps make, in order. -/
def webhooksOf (network : Network) (steps : List Step) : List Webhook :=
  steps.filterMap (Step.webhook? network)

section Making

variable {network : Network}

variable (network) in
theorem isSome_webhook? (step : Step) :
    (step.webhook? network).isSome = step.makesWebhook network := by
  cases step with
  | make url options =>
    cases options with
    | none =>
      simp only [Step.webhook?, Step.makesWebhook, Webhook.make?, Webhook.new]
      cases network.buildFault <;> rfl
    | some options => simp [Step.webhook?, Step.makesWebhook, Webhook.make?]
  | _ => rfl

theorem webhook?_eq_none {step : Step} (h : step.makesWebhook network = false) :
    step.webhook? network = none := by
  rwa [← isSome_webhook?, Option.isSome_eq_false_iff, Option.isNone_iff_eq_none] at h

variable (network) in
/-- Successes and webhooks correspond one to one. -/
theorem map_some_webhooksOf (steps : List Step) :
    (webhooksOf network steps).map some =
      (successes network steps).map (Step.webhook? network) := by
  induction steps with
  | nil => rfl
  | cons step steps ih =>
    rw [webhooksOf, successes, List.filterMap_cons, List.filter_cons,
      ← isSome_webhook? network step]
    cases hwebhook : step.webhook? network with
    | none => exact ih
    | some webhook =>
      simp only [Option.isSome_some, if_true, List.map_cons, hwebhook]
      exact congrArg _ ih

theorem length_webhooksOf (steps : List Step) :
    (webhooksOf network steps).length = (successes network steps).length := by
  simpa using congrArg List.length (map_some_webhooksOf network steps)

/-- The webhook of an index is the one that the success of this index makes. -/
theorem getElem?_webhooksOf {steps : List Step} {i : Nat} {new : Step} {webhook : Webhook}
    (hnew : (successes network steps)[i]? = some new)
    (hwebhook : new.webhook? network = some webhook) :
    (webhooksOf network steps)[i]? = some webhook := by
  have hmap := congrArg (·[i]?) (map_some_webhooksOf network steps)
  simpa [hnew, hwebhook] using hmap

end Making

/-! ### Steps and sessions -/

section Run

variable (network : Network)

/-- A step leaves the webhooks that it found and the one that it makes. -/
theorem take_snd (webhooks : List Webhook) (step : Step) :
    (step.take network webhooks).2 = webhooks ++ (step.webhook? network).toList := by
  cases step with
  | make url options =>
    simp only [Step.take, Step.webhook?]
    cases Webhook.make? network url options <;> simp
  | send index message answers =>
    simp only [Step.take, Step.webhook?]
    cases webhooks[index]? <;> simp
  | dispatch url message answers => simp [Step.take, Step.webhook?]
  | run destination source answers => simp [Step.take, Step.webhook?]
  | unknown => simp [Step.take, Step.webhook?]

theorem sessionFrom_cons (webhooks : List Webhook) (step : Step) (steps : List Step) :
    sessionFrom network webhooks (step :: steps) =
      (step.take network webhooks).1 ::
        sessionFrom network (webhooks ++ (step.webhook? network).toList) steps := by
  rw [← take_snd]
  rfl

/-- A session is its first part, and its second part with the webhooks of both. -/
theorem sessionFrom_append (webhooks : List Webhook) (front back : List Step) :
    sessionFrom network webhooks (front ++ back) =
      sessionFrom network webhooks front ++
        sessionFrom network (webhooks ++ webhooksOf network front) back := by
  induction front generalizing webhooks with
  | nil => simp [sessionFrom, webhooksOf]
  | cons step front ih =>
    have hwebhooks : webhooks ++ webhooksOf network (step :: front) =
        webhooks ++ (step.webhook? network).toList ++ webhooksOf network front := by
      rw [webhooksOf, List.filterMap_cons, List.append_assoc]
      cases step.webhook? network <;> rfl
    rw [List.cons_append, sessionFrom_cons, sessionFrom_cons, ih, hwebhooks, List.cons_append]

theorem length_sessionFrom (webhooks : List Webhook) (steps : List Step) :
    (sessionFrom network webhooks steps).length = steps.length := by
  induction steps generalizing webhooks with
  | nil => rfl
  | cons step steps ih => rw [sessionFrom_cons, List.length_cons, ih, List.length_cons]

end Run

variable {network : Network} {steps : List Step} {n : Nat}

/-- **The answer at each index.** A step is answered with the webhooks of the steps before it. -/
theorem getElem?_session {step : Step} (h : steps[n]? = some step) :
    (session network steps)[n]? =
      some (step.take network (webhooksOf network (steps.take n))).1 := by
  obtain ⟨hlt, hstep⟩ := List.getElem?_eq_some_iff.1 h
  have hlength : (sessionFrom network [] (steps.take n)).length = n := by
    rw [length_sessionFrom, List.length_take_of_le (Nat.le_of_lt hlt)]
  have hsession : session network steps =
      sessionFrom network [] (steps.take n) ++
        sessionFrom network (webhooksOf network (steps.take n)) (step :: steps.drop (n + 1)) := by
    rw [← hstep, ← List.drop_eq_getElem_cons hlt, ← List.nil_append (webhooksOf network _),
      ← sessionFrom_append, List.take_append_drop, session]
  rw [hsession, List.getElem?_append_right (Nat.le_of_eq hlength), hlength, Nat.sub_self,
    sessionFrom_cons, List.getElem?_cons_zero]

/-! ### The steps one by one -/

theorem answer_make {url : String} {options : Option ClientOptions}
    (h : steps[n]? = some (.make url options)) :
    (session network steps)[n]? = some
      (if (Step.make url options).makesWebhook network then
        .made (successes network (steps.take n)).length
      else .notMade) := by
  have hmakes := isSome_webhook? network (.make url options)
  rw [getElem?_session h, ← hmakes, ← length_webhooksOf, Step.take, Step.webhook?]
  cases Webhook.make? network url options <;> rfl

/-- A send is answered without a webhook if none has its index. -/
theorem answer_send_of_le {i : Nat} {message : String} {answers : List Answer}
    (h : steps[n]? = some (.send i message answers))
    (hle : (successes network (steps.take n)).length ≤ i) :
    (session network steps)[n]? = some .noWebhook := by
  have hnone : (webhooksOf network (steps.take n))[i]? = none := by
    rwa [List.getElem?_eq_none_iff, length_webhooksOf]
  rw [getElem?_session h, Step.take, hnone]

/-- A send through a webhook is answered as in the session of its make and the send alone. -/
theorem answer_send_of_getElem? {i : Nat} {message : String} {answers : List Answer} {new : Step}
    (h : steps[n]? = some (.send i message answers))
    (hnew : (successes network (steps.take n))[i]? = some new) :
    ∃ o, (session network steps)[n]? = some (.sent o) ∧
      session network [new, .send 0 message answers] = [.made 0, .sent o] := by
  have hmakes : new.makesWebhook network = true :=
    (List.mem_filter.1 (List.mem_of_getElem? hnew)).2
  obtain ⟨webhook, hwebhook⟩ :=
    Option.isSome_iff_exists.1 ((isSome_webhook? network new).trans hmakes)
  refine ⟨webhook.send network message answers, ?_, ?_⟩
  · rw [getElem?_session h, Step.take, getElem?_webhooksOf hnew hwebhook]
  · cases new with
    | make url options =>
      have hmake : Webhook.make? network url options = some webhook := hwebhook
      simp [session, sessionFrom, Step.take, hmake]
    | _ => simp [Step.makesWebhook] at hmakes

/-- Whether a step takes no notice of webhooks. -/
def Step.isSelfContained : Step → Bool
  | .make _ _ => false
  | .send _ _ _ => false
  | _ => true

/-- A step that takes no notice of webhooks is answered as in a session of its own. -/
theorem answer_of_isSelfContained {step : Step} (h : steps[n]? = some step)
    (hself : step.isSelfContained = true) :
    ∃ answer, (session network steps)[n]? = some answer ∧ session network [step] = [answer] := by
  refine ⟨_, getElem?_session h, ?_⟩
  rw [session, sessionFrom_cons, sessionFrom]
  cases step with
  | make url options => simp [Step.isSelfContained] at hself
  | send i message answers => simp [Step.isSelfContained] at hself
  | _ => rfl

/-- Neighbours that make nothing trade answers when they trade places. -/
theorem exists_swap_session (network : Network) (front back : List Step) {a b : Step}
    (ha : a.makesWebhook network = false) (hb : b.makesWebhook network = false) :
    ∃ before x y after, before.length = front.length ∧
      session network (front ++ a :: b :: back) = before ++ x :: y :: after ∧
      session network (front ++ b :: a :: back) = before ++ y :: x :: after := by
  have hsession : ∀ a b : Step, a.makesWebhook network = false → b.makesWebhook network = false →
      session network (front ++ a :: b :: back) =
        session network front ++ (a.take network (webhooksOf network front)).1 ::
          (b.take network (webhooksOf network front)).1 ::
            sessionFrom network (webhooksOf network front) back := by
    intro a b ha hb
    simp only [session, sessionFrom_append, sessionFrom_cons, webhook?_eq_none ha,
      webhook?_eq_none hb, Option.toList_none, List.append_nil, List.nil_append]
  exact ⟨session network front, _, _, _, length_sessionFrom network [] front, hsession a b ha hb,
    hsession b a hb ha⟩

/-! ### Whole sessions -/

/-- The answers to some steps depend on nothing but each step and the webhook that it uses. Indices
count from 0. -/
structure AnsweredIndependently (network : Network) (steps : List Step)
    (answers : List StepAnswer) : Prop where
  /-- Every step has one answer. -/
  length_eq : answers.length = steps.length
  /-- The index of a webhook is the number of successes before it; a make that fails takes none. -/
  make : ∀ (n : Nat) url options, steps[n]? = some (.make url options) →
    answers[n]? = some
      (if (Step.make url options).makesWebhook network then
        .made (successes network (steps.take n)).length
      else .notMade)
  /-- There is a webhook to send through if there were successes enough. -/
  noWebhook_iff : ∀ (n i : Nat) message script, steps[n]? = some (.send i message script) →
    (answers[n]? = some .noWebhook ↔ (successes network (steps.take n)).length < i + 1)
  /-- A send answers as behind the make of its webhook alone. -/
  send : ∀ (n i : Nat) message script new, steps[n]? = some (.send i message script) →
    (successes network (steps.take n))[i]? = some new →
    ∃ o, answers[n]? = some (.sent o) ∧
      session network [new, .send 0 message script] = [.made 0, .sent o]
  /-- A step that takes no notice of webhooks answers as if it were alone. -/
  alone : ∀ (n : Nat) step, steps[n]? = some step → step.isSelfContained = true →
    ∃ answer, answers[n]? = some answer ∧ session network [step] = [answer]

/-- **Sessions keep webhooks and nothing else.** The answers of every session depend on nothing but
each step and the webhook that it uses, and two neighbours that make no webhook trade answers when
they trade places, while all other answers stay. -/
theorem sessions_are_independent (network : Network) (steps : List Step) :
    AnsweredIndependently network steps (session network steps) ∧
      ∀ front a b back, steps = front ++ a :: b :: back → a.makesWebhook network = false →
        b.makesWebhook network = false →
        ∃ before x y after, before.length = front.length ∧
          session network steps = before ++ x :: y :: after ∧
          session network (front ++ b :: a :: back) = before ++ y :: x :: after := by
  refine ⟨⟨length_sessionFrom network [] steps, fun n url options h ↦ answer_make h,
    fun n i message script h ↦ ?_, fun n i message script new h hnew ↦
      answer_send_of_getElem? h hnew, fun n step h hself ↦ answer_of_isSelfContained h hself⟩, ?_⟩
  · rw [Nat.lt_succ_iff]
    constructor
    · intro hanswer
      refine Nat.not_lt.1 fun hlt ↦ ?_
      have hnew := List.getElem?_eq_getElem hlt
      obtain ⟨o, ho, -⟩ := @answer_send_of_getElem? network steps n i message script _ h hnew
      simp [ho] at hanswer
    · exact answer_send_of_le h
  · rintro front a b back rfl ha hb
    exact exists_swap_session network front back ha hb

/-- A client that cannot be made. -/
private def brokenAgent : ClientOptions :=
  ⟨none, some "bell\x07", true, true⟩

/-- A client that does not look at redirects. -/
private def homebound : ClientOptions :=
  ⟨some none, none, true, true⟩

/-- A redirect to another host. -/
private def toNextHost : Answer :=
  .ofParts "302 Found" [(Utf8.encode "Location", Utf8.encode "http://[::2]/next")] ""

/-- Two webhooks, a make that fails between them, and sends that are redirected or come too early
before the last one. -/
private def crowded : List Step :=
  [.make "http://[::1]/a" none, .send 1 "early" [toNextHost],
    .make "http://[::1]/b" (some brokenAgent), .send 0 "moved" [toNextHost, .closed],
    .make "http://u:p@[::1]/c" (some homebound), .dispatch "no address" "lost" [toNextHost],
    .send 1 "kept" [toNextHost]]

theorem answers_of_crowded_session :
    AnsweredIndependently .scripted crowded (session .scripted crowded) ∧
      (session .scripted crowded)[1]? = some .noWebhook ∧
      (session .scripted crowded)[2]? = some .notMade ∧
      (session .scripted crowded)[4]? = some (.made 1) ∧
      (∃ o, (session .scripted crowded)[6]? = some (.sent o) ∧
        session .scripted [.make "http://u:p@[::1]/c" (some homebound),
          .send 0 "kept" [toNextHost]] = [.made 0, .sent o]) ∧
      (∃ answer, (session .scripted crowded)[5]? = some answer ∧
        session .scripted [.dispatch "no address" "lost" [toNextHost]] = [answer]) ∧
      ∃ before x y after, before.length = 5 ∧
        session .scripted crowded = before ++ x :: y :: after ∧
        session .scripted (crowded.take 5 ++ [.send 1 "kept" [toNextHost],
          .dispatch "no address" "lost" [toNextHost]]) = before ++ y :: x :: after := by
  obtain ⟨hsession, hswap⟩ := sessions_are_independent .scripted crowded
  refine ⟨hsession, ?_, ?_, ?_, ?_, ?_, ?_⟩
  · exact (hsession.noWebhook_iff 1 1 _ _ rfl).2 (by decide)
  · exact hsession.make 2 _ _ rfl
  · exact hsession.make 4 _ _ rfl
  · exact hsession.send 6 1 _ _ _ rfl rfl
  · exact hsession.alone 5 _ rfl rfl
  · exact hswap (crowded.take 5) _ _ [] rfl rfl rfl

end ChatHook
