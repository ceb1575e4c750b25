import ChatHook.Proofs.Stages

/-!
# What the exit code tells

The program reads its arguments, and either ends with a notice or runs. A notice comes before
anything is read or sent, so nothing but the arguments and the setting of the log has an influence
on what is left behind (`execute_of_notice`). A run decides about the requests, and its result
about the exit code and the end of what is shown as an error (`endsAsRun_execute`). The three exit
codes keep the cases apart: 2 for a mistake in the arguments, 1 for a run that fails, and 0 for
everything else.

## Main results

* `report_eq`: how an error is shown.
* `execute_of_notice`, `endsWithNotice_execute`: the program without a destination.
* `endsAsRun_execute`: the program with a destination.
* `exit_code_tells_outcome`: all of it together.
-/

namespace ChatHook

open Http

/-! ### Reports -/

theorem Http.Failure.causes_ne_nil (failure : Failure) : failure.causes ≠ [] := by
  cases failure <;> simp [Failure.causes, Failure.chain]

theorem SendError.causes_ne_nil (e : SendError) : e.causes ≠ [] := by
  cases e with
  | unread failure => simp [SendError.causes]
  | unbuilt fault => simp [SendError.causes, BuildFault.texts]
  | unsent destination failure => exact failure.causes_ne_nil

/-- The causes of an error as they are shown, in order: numbered from 0 if there are several. -/
def SendError.causeTexts (e : SendError) : List String :=
  e.causes.zipIdx.map fun (cause, n) ↦
    causeText (if e.causes.length = 1 then none else some n) cause

/-- An error is shown by its message, an empty line, and all its causes. -/
theorem report_eq (e : SendError) :
    e.report = "Error: " ++ e.message ++ "\n\nCaused by:\n" ++ "\n".intercalate e.causeTexts ++
      "\n" := by
  have hne := e.causes_ne_nil
  rw [SendError.report, SendError.causeTexts]
  generalize e.causes = causes at hne
  match causes with
  | [] => exact absurd rfl hne
  | [cause] => simp [causesText, String.append_assoc]
  | cause :: next :: causes => simp [causesText, String.append_assoc]

/-! ### Without a destination -/

/-- The program has ended with a notice: with a text that was asked for, or with a mistake at the
end of the errors. -/
structure EndsWithNotice (notice : CommandLine.Notice) (e : Execution) : Prop where
  requests : e.requests = []
  asked : ∀ flag, notice.cause = .asked flag → e.exitCode = 0 ∧ e.output = notice.text
  mistaken : (∀ flag, notice.cause ≠ .asked flag) →
    e.exitCode = 2 ∧ e.output = "" ∧ ∃ before, e.errors = before ++ notice.text

section Notice

variable {invocation : Invocation} {notice : CommandLine.Notice}

/-- With a notice the program shows it, and does nothing else. -/
theorem execute_of_notice (hparse : CommandLine.parse invocation.arguments = .error notice)
    (network : Network) (answers : List Answer) :
    execute network invocation answers =
      let warnings := String.join (logStart invocation.logSetting).2
      if notice.isMistake then ⟨notice.exitCode, "", warnings ++ notice.text, []⟩
      else ⟨notice.exitCode, notice.text, warnings, []⟩ := by
  simp only [execute, hparse, String.join_append, String.join_cons, String.join_nil,
    String.append_empty]

theorem endsWithNotice_execute (hparse : CommandLine.parse invocation.arguments = .error notice)
    (network : Network) (answers : List Answer) :
    EndsWithNotice notice (execute network invocation answers) := by
  rw [execute_of_notice hparse]
  cases hmistake : notice.isMistake with
  | true =>
    have hnever : ∀ flag, notice.cause ≠ .asked flag := by
      intro flag hflag
      simp [CommandLine.Notice.isMistake_eq_false_iff.2 ⟨flag, hflag⟩] at hmistake
    exact ⟨rfl, fun flag hflag ↦ absurd hflag (hnever flag),
      fun _ ↦ ⟨CommandLine.Notice.exitCode_eq_two_iff.2 hmistake, rfl, _, rfl⟩⟩
  | false =>
    obtain ⟨flag, hflag⟩ := CommandLine.Notice.isMistake_eq_false_iff.1 hmistake
    exact ⟨rfl, fun _ _ ↦ ⟨CommandLine.Notice.exitCode_eq_zero_iff.2 hmistake, rfl⟩,
      fun hnever ↦ absurd hflag (hnever flag)⟩

end Notice

/-! ### With a destination -/

/-- The program has ended as a run did: with its requests, with an exit code that tells whether it
succeeded, and with its error at the end of the errors. -/
structure EndsAsRun (o : Outcome Unit) (e : Execution) : Prop where
  requests : e.requests = o.requests
  output : e.output = ""
  zero_iff : e.exitCode = 0 ↔ o.result = .ok ()
  one_iff : e.exitCode = 1 ↔ ∃ error, o.result = .error error
  report : ∀ error, o.result = .error error → ∃ before,
    e.errors = before ++ ("Error: " ++ error.message ++ "\n\nCaused by:\n" ++
      "\n".intercalate error.causeTexts ++ "\n")

theorem endsAsRun_execute {invocation : Invocation} {destination : String}
    (hparse : CommandLine.parse invocation.arguments = .ok destination) (network : Network)
    (answers : List Answer) :
    EndsAsRun (run network destination [.bytes invocation.input] answers).outcome
      (execute network invocation answers) := by
  generalize hrun : (run network destination [.bytes invocation.input] answers).outcome = o
  cases hresult : o.result with
  | ok value =>
    simp only [execute, hparse, hrun, hresult]
    exact ⟨rfl, rfl, by simp [hresult], by simp [hresult], by simp [hresult]⟩
  | error error =>
    simp only [execute, hparse, hrun, hresult]
    refine ⟨rfl, rfl, by simp [hresult], by simp [hresult], fun error' herror ↦ ?_⟩
    obtain rfl := Except.error.inj (hresult.symm.trans herror)
    rw [← report_eq, ← List.append_assoc, String.join_append, String.join_cons, String.join_nil,
      String.append_empty]
    exact ⟨_, rfl⟩

/-! ### Both -/

/-- **The exit code tells how the program ended.** Arguments without a destination make it end with
a notice, whatever the network, the input and the answers are; arguments with a destination make it
end as a run on its input does; and it ends with 2 only at a mistake in the arguments, so that
input and network have no influence. -/
theorem exit_code_tells_outcome (network : Network) (invocation : Invocation)
    (answers : List Answer) :
    (∀ notice, CommandLine.parse invocation.arguments = .error notice →
      EndsWithNotice notice (execute network invocation answers) ∧
        ∀ network' input answers', execute network' { invocation with input } answers' =
          execute network invocation answers) ∧
    (∀ destination, CommandLine.parse invocation.arguments = .ok destination →
      EndsAsRun (run network destination [.bytes invocation.input] answers).outcome
        (execute network invocation answers)) ∧
    ((execute network invocation answers).exitCode = 2 →
      (execute network invocation answers).requests = [] ∧
        ∀ network' input answers', execute network' { invocation with input } answers' =
          execute network invocation answers) := by
  have hsame : ∀ notice, CommandLine.parse invocation.arguments = .error notice →
      ∀ network' input answers', execute network' { invocation with input } answers' =
        execute network invocation answers := by
    intro notice hparse network' input answers'
    have hparse' : CommandLine.parse { invocation with input }.arguments = .error notice := hparse
    rw [execute_of_notice hparse, execute_of_notice hparse']
  refine ⟨fun notice hparse ↦ ⟨endsWithNotice_execute hparse network answers, hsame notice hparse⟩,
    fun destination hparse ↦ endsAsRun_execute hparse network answers, fun hcode ↦ ?_⟩
  cases hparse : CommandLine.parse invocation.arguments with
  | error notice =>
    exact ⟨(endsWithNotice_execute hparse network answers).requests, hsame notice hparse⟩
  | ok destination =>
    -- A run ends with 0 or 1.
    have hends := endsAsRun_execute hparse network answers
    cases hresult : (run network destination [.bytes invocation.input] answers).outcome.result with
    | ok value => simp [hends.zero_iff.2 hresult] at hcode
    | error error => simp [hends.one_iff.2 ⟨error, hresult⟩] at hcode

/-- A start with an argument too many and an input that is no text. -/
private def surplusStart : Invocation :=
  ⟨[Utf8.encode "post", Utf8.encode "http://[::1]/hook", Utf8.encode "more"], [0xC3, 0x28],
    some "debug"⟩

/-- A start with a destination that is no URL and an input that is no text. -/
private def unreadableStart : Invocation :=
  ⟨[Utf8.encode "post", Utf8.encode "no address"], [0xC3, 0x28], some "no=such=level"⟩

theorem first_failure_decides :
    (execute .scripted surplusStart []).exitCode = 2 ∧
      (execute .down { surplusStart with input := [] } [.closed] =
        execute .scripted surplusStart []) ∧
      (execute .scripted unreadableStart []).exitCode = 1 ∧
      ∃ before, (execute .scripted unreadableStart []).errors = before ++
        ("Error: failed to read message from stdin\n\nCaused by:\n" ++
          "    stream did not contain valid UTF-8\n") := by
  obtain ⟨hnotice, -, htwo⟩ := exit_code_tells_outcome .scripted surplusStart []
  obtain ⟨-, hrun, -⟩ := exit_code_tells_outcome .scripted unreadableStart []
  have hcode : (execute .scripted surplusStart []).exitCode = 2 :=
    ((hnotice _ rfl).1.mistaken nofun).1
  have hends := hrun "no address" rfl
  have hresult : (run .scripted "no address" [.bytes unreadableStart.input] []).outcome.result =
      .error (.unread .notText) := rfl
  obtain ⟨before, hbefore⟩ := hends.report _ hresult
  refine ⟨hcode, (htwo hcode).2 .down [] [.closed], hends.one_iff.2 ⟨_, hresult⟩, before, ?_⟩
  rw [hbefore]
  exact congrArg (before ++ ·) (by decide +kernel)

end ChatHook
