import ChatHook.Proofs.CommandLine.Grammar

/-!
# Updates by arguments

Updating a destination by some arguments agrees with parsing them (`updatesTo_update`): what is
parsed is the new destination, arguments that are refused only for a missing destination keep the
old one, and all others are refused as they are by parsing. An update that is refused changes
nothing, so the updates behind it do what they do without it, and the destination in the end is the
one that was parsed last (`destinationAfter_eq`).

## Main results

* `updatesTo_update`: one update, told by parsing.
* `destinationAfter_eq`: the destination after a list of updates.
* `updates_agree_with_parse`: each update of a list, and its end.
-/

namespace ChatHook.CommandLine

/-! ### One update -/

/-- What one update of a destination comes to, as parsing the same arguments tells it. -/
inductive UpdatesTo (current : String) (arguments : List Bytes) : Update → Prop
  | given {destination} (hparse : parse arguments = .ok destination) :
      UpdatesTo current arguments ⟨destination, none⟩
  /-- Parsing misses nothing but the destination. -/
  | kept {notice} (hparse : parse arguments = .error notice)
      (hkind : notice.kindName = "MissingRequiredArgument") :
      UpdatesTo current arguments ⟨current, none⟩
  | refused {notice notice'} (hparse : parse arguments = .error notice)
      (hkind : notice.kindName ≠ "MissingRequiredArgument")
      (hkind' : notice'.kindName = notice.kindName) (hcode : notice'.exitCode = notice.exitCode) :
      UpdatesTo current arguments ⟨current, some notice'⟩

/-- The update that comes of a result. -/
def Update.ofResult (current : String) : Except Notice String → Update
  | .ok next => ⟨next, none⟩
  | .error notice => ⟨current, some notice⟩

/-- Updating agrees with parsing. -/
theorem updatesTo_update (current : String) (arguments : List Bytes) :
    UpdatesTo current arguments (.ofResult current (update current arguments)) := by
  rcases hgiven : given? arguments.tail with cause | ⟨_ | destination⟩
  · have hparse : parse arguments = .error ⟨⟨programName arguments, true⟩, cause⟩ := by
      simp only [parse, hgiven]
    simp only [update, hgiven]
    refine .refused hparse ?_ rfl rfl
    rw [Ne, Notice.kindName_eq_missing_iff]
    exact (refusal_of_given? hgiven).1
  · have hparse :
        parse arguments = .error ⟨⟨programName arguments, true⟩, .missingDestination⟩ := by
      simp only [parse, hgiven]
    simp only [update, hgiven]
    exact .kept hparse rfl
  · have hparse : parse arguments = .ok destination := by
      simp only [parse, hgiven]
    simp only [update, hgiven]
    exact .given hparse

/-- An update that is refused leaves the destination. -/
theorem UpdatesTo.destination_of_isSome {current : String} {arguments : List Bytes} {u : Update}
    (h : UpdatesTo current arguments u) (hrefused : u.notice.isSome) : u.destination = current := by
  cases h with
  | given => cases hrefused
  | kept => cases hrefused
  | refused => rfl

/-! ### Lists of updates -/

theorem updates_cons (current : String) (arguments : List Bytes) (more : List (List Bytes)) :
    updates current (arguments :: more) =
      let u := Update.ofResult current (update current arguments)
      u :: updates u.destination more := by
  rw [updates]
  cases update current arguments <;> rfl

/-- Each list of arguments is one update. -/
theorem length_updates (current : String) (lists : List (List Bytes)) :
    (updates current lists).length = lists.length := by
  induction lists generalizing current with
  | nil => rfl
  | cons arguments more ih => rw [updates_cons, List.length_cons, List.length_cons, ih]

/-- The destination after some updates. -/
def destinationAfter (current : String) (lists : List (List Bytes)) : String :=
  ((updates current lists).getLast?.map Update.destination).getD current

theorem destinationAfter_cons (current : String) (arguments : List Bytes)
    (more : List (List Bytes)) :
    destinationAfter current (arguments :: more) =
      destinationAfter (Update.ofResult current (update current arguments)).destination more := by
  simp only [destinationAfter, updates_cons, List.getLast?_cons]
  cases (updates _ more).getLast? <;> rfl

/-- Updates go on from the destination that the ones before left. -/
theorem updates_append (current : String) (before after : List (List Bytes)) :
    updates current (before ++ after) =
      updates current before ++ updates (destinationAfter current before) after := by
  induction before generalizing current with
  | nil => rfl
  | cons arguments before ih =>
    rw [List.cons_append, updates_cons, updates_cons, destinationAfter_cons]
    simp only [ih, List.cons_append]

/-- The destination after some updates is the last one that is parsed. -/
theorem destinationAfter_eq (current : String) (lists : List (List Bytes)) :
    destinationAfter current lists =
      ((lists.filterMap fun arguments ↦ (parse arguments).toOption).getLast?).getD current := by
  induction lists generalizing current with
  | nil => rfl
  | cons arguments more ih =>
    rw [destinationAfter_cons, ih]
    have hupdate := updatesTo_update current arguments
    generalize Update.ofResult current (update current arguments) = u at hupdate
    cases hupdate with
    | given hparse => simp [hparse, Except.toOption, List.getLast?_cons]
    | kept hparse => simp [hparse, Except.toOption]
    | refused hparse => simp [hparse, Except.toOption]

/-- **Updates agree with parsing.** Each list of arguments is one update, which parsing the same
list tells; an update that is refused leaves the destination, and the updates behind it do what they
do without it. In the end the destination is the one that was parsed last, or the first one if
nothing was parsed. -/
theorem updates_agree_with_parse (current : String) (lists : List (List Bytes)) :
    (updates current lists).length = lists.length ∧
    destinationAfter current lists =
      ((lists.filterMap fun arguments ↦ (parse arguments).toOption).getLast?).getD current ∧
    ∀ before arguments after, lists = before ++ arguments :: after → ∃ u,
      updates current lists = updates current before ++ u :: updates u.destination after ∧
      UpdatesTo (destinationAfter current before) arguments u ∧
      (u.notice.isSome → u.destination = destinationAfter current before ∧
        updates current (before ++ after) =
          updates current before ++ updates u.destination after) := by
  refine ⟨length_updates current lists, destinationAfter_eq current lists, ?_⟩
  rintro before arguments after rfl
  have hupdate := updatesTo_update (destinationAfter current before) arguments
  refine ⟨_, by rw [updates_append, updates_cons], hupdate, fun hrefused ↦ ?_⟩
  have hkeeps := hupdate.destination_of_isSome hrefused
  exact ⟨hkeeps, by rw [updates_append, hkeeps]⟩

/-- Updates that give a destination, refuse one behind a good one, keep it, and refuse a letter. -/
private def fourUpdates : List (List Bytes) :=
  [["post", "--", "-a"], ["post", "b", "--help"], ["post", "--"], ["post", "c", "-x"]].map
    (·.map Utf8.encode)

theorem refused_update_is_skipped :
    destinationAfter "first" fourUpdates = "-a" ∧
      ∃ u, updates "first" fourUpdates =
          updates "first" (fourUpdates.take 1) ++ u :: updates u.destination (fourUpdates.drop 2) ∧
        UpdatesTo "-a" (["post", "b", "--help"].map Utf8.encode) u ∧ u.destination = "-a" ∧
        updates "first" (fourUpdates.take 1 ++ fourUpdates.drop 2) =
          updates "first" (fourUpdates.take 1) ++ updates u.destination (fourUpdates.drop 2) := by
  obtain ⟨-, hafter, hupdates⟩ := updates_agree_with_parse "first" fourUpdates
  obtain ⟨u, heq, hupdate, hrefused⟩ := hupdates (fourUpdates.take 1) _ (fourUpdates.drop 2) rfl
  have hcurrent : destinationAfter "first" (fourUpdates.take 1) = "-a" := by decide +kernel
  have hsecond : (updates "first" fourUpdates)[1]? = some u := by
    rw [heq]
    rfl
  have hnotice : (updates "first" fourUpdates)[1]?.map (·.notice.isSome) = some true := by
    decide +kernel
  rw [hsecond, Option.map_some, Option.some.injEq] at hnotice
  rw [hcurrent] at hupdate hrefused
  obtain ⟨hkeeps, hskips⟩ := hrefused hnotice
  exact ⟨hafter.trans (by decide +kernel), u, heq, hupdate, hkeeps, hskips⟩

end ChatHook.CommandLine
