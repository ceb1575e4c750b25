import ChatHook.Proofs.Decision
import ChatHook.Proofs.LogSetting

/-!
# Which records are shown

A record is shown if the directive that decides about its part of the program lets its level pass,
and its text matches the pattern, if there is one (`Shows`). All of this is about items that say a
directive: what other items there are makes no difference, nor does the place of an item among those
for other targets (`SameForEach`). The lines of the records that are shown come in the order of the
records; each gives the name of its part the width of the longest name so far, where only names
count that are shown (`ShowInOrder`).

## Main results

* `shows_read_iff`: what the filter of a setting lets pass.
* `shows_iff_of_sameForEach`: settings that show the same.
* `showInOrder_logLines`: the lines of some records.
* `decided_records_are_shown`: the log of the program under a setting.
-/

namespace ChatHook

open Http

/-! ### Settings -/

/-- The pattern behind the slash of a setting, if there is a slash, and a pattern can be read. -/
def patternOf? (cs : List Char) : Option Pattern :=
  (patternPart? cs).bind fun part ↦ (Pattern.parse part).toOption

/-- A setting is regular: it has at most one slash, and no directive in it has an empty target in
front of its `=`. -/
structure IsRegular (cs : List Char) : Prop where
  slash : cs.count '/' ≤ 1
  target : ∀ item ∈ settingItems cs, IsDirective item → item.head? ≠ some '='

/-- The filter of a setting is made of the directives of its items and its pattern. -/
theorem filter_read {setting : String} (h : setting.toList.count '/' ≤ 1) :
    (LogFilter.read setting).1 =
      ⟨(readDirectives (settingItems setting.toList)).1, patternOf? setting.toList⟩ := by
  rcases splitOn_cases '/' setting.toList with ⟨hslash, hparts⟩ |
    ⟨front, part, hsetting, hfront, hpart, hparts⟩ | ⟨front, part, third, parts, hcount, hparts⟩
  · obtain ⟨hitems, hpattern⟩ := parts_of_not_mem hslash
    simp only [LogFilter.read, hparts, patternOf?, hitems, hpattern, Option.bind_none]
  · obtain ⟨hitems, hpattern⟩ := parts_append hfront part
    simp only [LogFilter.read, hparts]
    rw [hsetting, patternOf?, hitems, hpattern, Option.bind_some]
    cases Pattern.parse part <;> rfl
  · omega

theorem IsRegular.hasNames {cs : List Char} (h : IsRegular cs) : HasNames (settingItems cs) := by
  intro item hitem d hsaid htarget
  have hhead := h.target item hitem (exists_says_iff.1 ⟨d, hsaid⟩)
  cases hsaid with
  | level _ _ => simp at htarget
  | name _ _ =>
    -- Blanks between commas are no items.
    have hne : item ≠ [] := by
      simpa using (List.mem_filter.1 hitem).2
    exact hne (Option.some.inj htarget)
  | noLevel _ _ _ => exact hhead (by rw [Option.some.inj htarget]; rfl)
  | both _ _ _ => exact hhead (by rw [Option.some.inj htarget]; rfl)

/-! ### Which records pass -/

/-- A setting shows a record: the directive that decides about its part of the program includes its
level, and its text matches the pattern, if there is one. -/
structure Shows (cs : List Char) (e : LogEvent) : Prop where
  decided : ∃ d, Decides (settingItems cs) e.target d ∧ d.threshold.admits e.level = true
  matched : ∀ p, patternOf? cs = some p → p.occursIn e.text = true

/-- A record is below what is shown without directives, so one has to decide about it. -/
theorem admits_threshold_iff (f : LogFilter) (e : LogEvent) :
    (f.threshold e.target).admits e.level = true ↔
      ∃ d, Directive.decisive? f.directives e.target = some d ∧
        d.threshold.admits e.level = true := by
  rw [LogFilter.threshold]
  split_ifs with hempty
  · have hnone : Directive.decisive? f.directives e.target = none := by
      rw [List.isEmpty_iff.1 hempty]
      rfl
    have hhidden : (Threshold.upTo .error).admits e.level = false := by
      cases e <;> rfl
    simp [hnone, hhidden]
  · cases Directive.decisive? f.directives e.target <;> simp [Threshold.admits]

/-- **What the filter of a setting lets pass.** -/
theorem shows_read_iff {setting : String} (hslash : setting.toList.count '/' ≤ 1)
    (hnames : HasNames (settingItems setting.toList)) {e : LogEvent} :
    (LogFilter.read setting).1.shows e = true ↔ Shows setting.toList e := by
  have hpattern : ((patternOf? setting.toList).map (·.occursIn e.text)).getD true = true ↔
      ∀ p, patternOf? setting.toList = some p → p.occursIn e.text = true := by
    cases patternOf? setting.toList <;> simp
  rw [LogFilter.shows, Bool.and_eq_true, admits_threshold_iff, filter_read hslash]
  simp only [decides_iff hnames, hpattern]
  exact ⟨fun ⟨hdecided, hmatched⟩ ↦ ⟨hdecided, hmatched⟩, fun h ↦ ⟨h.decided, h.matched⟩⟩

open Classical in
theorem decide_shows_eq {setting : String} (hslash : setting.toList.count '/' ≤ 1)
    (hnames : HasNames (settingItems setting.toList)) :
    (fun e ↦ decide (Shows setting.toList e)) = (LogFilter.read setting).1.shows := by
  funext e
  rw [Bool.eq_iff_iff, decide_eq_true_eq, shows_read_iff hslash hnames]

/-! ### Settings that show the same -/

/-- Two lists of items have the same items for each target, in the same order. -/
def SameForEach (items items' : List (List Char)) : Prop :=
  ∀ target, items.filter (IsFor target ·) = items'.filter (IsFor target ·)

theorem IsFor.isDirective {target : Option (List Char)} {item : List Char}
    (h : IsFor target item) : IsDirective item := by
  obtain ⟨d, hsaid, -⟩ := h
  exact exists_says_iff.1 ⟨d, hsaid⟩

/-- The items for a target are among the directives. -/
theorem filter_isFor_filter_isDirective (target : Option (List Char)) (items : List (List Char)) :
    (items.filter (IsDirective ·)).filter (IsFor target ·) = items.filter (IsFor target ·) := by
  rw [List.filter_filter]
  refine List.filter_congr fun item _ ↦ ?_
  by_cases hfor : IsFor target item
  · simp [hfor, hfor.isDirective]
  · simp [hfor]

/-- Items that are no directives make no difference. -/
theorem sameForEach_of_filter_eq {items items' : List (List Char)}
    (h : items.filter (IsDirective ·) = items'.filter (IsDirective ·)) :
    SameForEach items items' := by
  intro target
  rw [← filter_isFor_filter_isDirective, h, filter_isFor_filter_isDirective]

/-- Nor does the order of directives for different targets. -/
theorem sameForEach_of_perm {items items' : List (List Char)}
    (h : (items.filter (IsDirective ·)).Perm (items'.filter (IsDirective ·)))
    (hdifferent : (items.filter (IsDirective ·)).Pairwise
      fun a b ↦ ∀ target, ¬(IsFor target a ∧ IsFor target b)) : SameForEach items items' := by
  intro target
  have hperm := h.filter (IsFor target ·)
  have hpairwise := hdifferent.filter (IsFor target ·)
  rw [filter_isFor_filter_isDirective] at hperm hpairwise
  rw [filter_isFor_filter_isDirective] at hperm
  have hfor : ∀ item ∈ items.filter (IsFor target ·), IsFor target item := by
    simp +contextual
  -- There is at most one item for the target.
  match hitems : items.filter (IsFor target ·) with
  | [] => exact (List.nil_perm.1 (hitems ▸ hperm)).symm
  | [item] => exact List.singleton_perm.1 (hitems ▸ hperm)
  | a :: b :: rest =>
    rw [hitems] at hpairwise hfor
    exact absurd ⟨hfor a (by simp), hfor b (by simp)⟩
      ((List.pairwise_cons.1 hpairwise).1 b (by simp) target)

theorem SameForEach.hasNames {items items' : List (List Char)} (h : SameForEach items items')
    (hnames : HasNames items) : HasNames items' := by
  intro item hitem d hsaid htarget
  have hmem : item ∈ items'.filter (IsFor (some []) ·) :=
    List.mem_filter.2 ⟨hitem, decide_eq_true ⟨d, hsaid, htarget⟩⟩
  rw [← h (some [])] at hmem
  exact hnames item (List.mem_filter.1 hmem).1 d hsaid htarget

theorem SameForEach.symm {items items' : List (List Char)} (h : SameForEach items items') :
    SameForEach items' items :=
  fun target ↦ (h target).symm

/-- The same directives decide. -/
theorem SameForEach.decides {items items' : List (List Char)} (h : SameForEach items items')
    {target : String} {d : Directive} (hd : Decides items target d) : Decides items' target d := by
  refine ⟨hd.fits, h d.target ▸ hd.last, fun item hitem e hsaid hfits ↦ ?_⟩
  have hmem : item ∈ items'.filter (IsFor e.target ·) :=
    List.mem_filter.2 ⟨hitem, decide_eq_true ⟨e, hsaid, rfl⟩⟩
  rw [← h e.target] at hmem
  exact hd.longest item (List.mem_filter.1 hmem).1 e hsaid hfits

/-- **Settings that show the same.** -/
theorem shows_iff_of_sameForEach {cs cs' : List Char}
    (h : SameForEach (settingItems cs) (settingItems cs'))
    (hpattern : patternOf? cs = patternOf? cs') (e : LogEvent) : Shows cs e ↔ Shows cs' e := by
  constructor
  · rintro ⟨⟨d, hd, hlevel⟩, hmatched⟩
    exact ⟨⟨d, h.decides hd, hlevel⟩, hpattern ▸ hmatched⟩
  · rintro ⟨⟨d, hd, hlevel⟩, hmatched⟩
    exact ⟨⟨d, h.symm.decides hd, hlevel⟩, hpattern ▸ hmatched⟩

/-! ### Lines -/

/-- The width of the longest name of a part, at least the given one. -/
def widest (width : Nat) (events : List LogEvent) : Nat :=
  events.foldl (fun width e ↦ max width e.target.length) width

theorem le_widest (width : Nat) (events : List LogEvent) : width ≤ widest width events := by
  induction events generalizing width with
  | nil => exact Nat.le_refl width
  | cons e events ih => exact (Nat.le_max_left _ _).trans (ih _)

theorem length_le_widest {events : List LogEvent} {e : LogEvent} (h : e ∈ events) (width : Nat) :
    e.target.length ≤ widest width events := by
  induction events generalizing width with
  | nil => exact nomatch h
  | cons q events ih =>
    rcases List.mem_cons.1 h with rfl | h
    · exact (Nat.le_max_right _ _).trans (le_widest _ events)
    · exact ih h _

theorem widest_eq (width : Nat) (events : List LogEvent) :
    widest width events = width ∨ ∃ e ∈ events, e.target.length = widest width events := by
  induction events generalizing width with
  | nil => exact .inl rfl
  | cons q events ih =>
    have hcons : widest width (q :: events) = widest (max width q.target.length) events := rfl
    rcases ih (max width q.target.length) with hwidth | ⟨e, he, hwidth⟩
    · rcases Nat.le_total q.target.length width with hle | hle
      · exact .inl (by rw [hcons, hwidth, Nat.max_eq_left hle])
      · exact .inr ⟨q, List.mem_cons_self, by rw [hcons, hwidth, Nat.max_eq_right hle]⟩
    · exact .inr ⟨e, List.mem_cons_of_mem q he, hwidth⟩

theorem getElem?_logLines (width : Nat) (events : List LogEvent) (i : Nat) :
    (logLines width events)[i]? =
      events[i]?.map fun e ↦ e.line (widest width (events.take (i + 1))) := by
  induction events generalizing width i with
  | nil => rfl
  | cons e events ih =>
    cases i with
    | zero => rfl
    | succ i => exact ih (max width e.target.length) i

theorem length_logLines (width : Nat) (events : List LogEvent) :
    (logLines width events).length = events.length := by
  induction events generalizing width with
  | nil => rfl
  | cons e events ih => exact congrArg Nat.succ (ih _)

/-- Lines show records, one for each and in their order. In each line the name of the part of the
program is padded to the longest name in the lines so far. -/
structure ShowInOrder (events : List LogEvent) (lines : List String) : Prop where
  length_eq : lines.length = events.length
  line : ∀ (i : Nat) e, events[i]? = some e → ∃ width,
    lines[i]? = some (" " ++ padTo 5 e.level.name ++ " " ++ padTo width e.target ++ " > " ++
      e.text ++ "\n") ∧
    (∃ q ∈ events.take (i + 1), q.target.length = width) ∧
    ∀ q ∈ events.take (i + 1), q.target.length ≤ width

/-- **The lines of some records.** -/
theorem showInOrder_logLines (events : List LogEvent) : ShowInOrder events (logLines 0 events) := by
  refine ⟨length_logLines 0 events, fun i e he ↦ ⟨widest 0 (events.take (i + 1)), ?_, ?_, ?_⟩⟩
  · rw [getElem?_logLines, he]
    rfl
  · rcases widest_eq 0 (events.take (i + 1)) with hzero | hwidth
    · -- Without any width all names are empty, the one of this line too.
      have hmem : e ∈ events.take (i + 1) :=
        List.mem_of_getElem? ((List.getElem?_take_of_lt (Nat.lt_succ_self i)).trans he)
      exact ⟨e, hmem, (length_le_widest hmem 0).antisymm (by rw [hzero]; exact Nat.zero_le _)⟩
    · exact hwidth
  · exact fun q hq ↦ length_le_widest hq 0

/-! ### The program -/

/-- The program shows lines under a setting: behind the warnings about the setting, and in front of
its last words. -/
def ShowsLines (network : Network) (arguments : List Bytes) (input : Bytes) (answers : List Answer)
    (setting : String) (lines : List String) : Prop :=
  (execute network ⟨arguments, input, some setting⟩ answers).errors =
    String.join ((LogFilter.read setting).2.map fun w ↦ w.text ++ "\n") ++ String.join lines ++
      lastWords network arguments input answers

section Program

variable (network : Network) (arguments : List Bytes) (input : Bytes) (answers : List Answer)

open Classical in
/-- Under a setting whose directives have names the program shows the records that it decides to
show. -/
theorem showsLines_shows {setting : String} (hslash : setting.toList.count '/' ≤ 1)
    (hnames : HasNames (settingItems setting.toList)) :
    ShowsLines network arguments input answers setting (logLines 0
      ((recordsOf network arguments input answers).filter
        fun e ↦ decide (Shows setting.toList e))) := by
  rw [decide_shows_eq hslash hnames]
  exact errors_execute network arguments input answers (some setting)

open Classical in
/-- **The records that a setting decides to show are shown.** Under a regular setting the log of the
program has one line for each record of its run that the setting shows, in order and padded to the
longest name so far, and none without directives. It is the same under every setting with the same
pattern and, up to items that are no directives, the same items; with the same directives in another
order, if they are for different targets; and in general with the same items for each target. -/
theorem decided_records_are_shown {setting : String} (h : IsRegular setting.toList) :
    ∃ lines, ShowsLines network arguments input answers setting lines ∧
      ShowInOrder ((recordsOf network arguments input answers).filter
        fun e ↦ decide (Shows setting.toList e)) lines ∧
      ((∀ item ∈ settingItems setting.toList, ¬IsDirective item) → lines = []) ∧
      ∀ setting' : String, setting'.toList.count '/' ≤ 1 →
        patternOf? setting.toList = patternOf? setting'.toList →
        ((settingItems setting.toList).filter (IsDirective ·) =
            (settingItems setting'.toList).filter (IsDirective ·) →
          ShowsLines network arguments input answers setting' lines) ∧
        (((settingItems setting.toList).filter (IsDirective ·)).Perm
            ((settingItems setting'.toList).filter (IsDirective ·)) →
          ((settingItems setting.toList).filter (IsDirective ·)).Pairwise
            (fun a b ↦ ∀ target, ¬(IsFor target a ∧ IsFor target b)) →
          ShowsLines network arguments input answers setting' lines) ∧
        (SameForEach (settingItems setting.toList) (settingItems setting'.toList) →
          ShowsLines network arguments input answers setting' lines) := by
  have hsame : ∀ setting' : String, setting'.toList.count '/' ≤ 1 →
      patternOf? setting.toList = patternOf? setting'.toList →
      SameForEach (settingItems setting.toList) (settingItems setting'.toList) →
      ShowsLines network arguments input answers setting' (logLines 0
        ((recordsOf network arguments input answers).filter
          fun e ↦ decide (Shows setting.toList e))) := by
    intro setting' hslash hpattern hitems
    simp only [shows_iff_of_sameForEach hitems hpattern]
    exact showsLines_shows network arguments input answers hslash (hitems.hasNames h.hasNames)
  refine ⟨_, showsLines_shows network arguments input answers h.slash h.hasNames,
    showInOrder_logLines _, fun hnone ↦ ?_, fun setting' hslash hpattern ↦
      ⟨fun hitems ↦ hsame setting' hslash hpattern (sameForEach_of_filter_eq hitems),
        fun hperm hdifferent ↦
          hsame setting' hslash hpattern (sameForEach_of_perm hperm hdifferent),
        hsame setting' hslash hpattern⟩⟩
  have hshown : (recordsOf network arguments input answers).filter
      (fun e ↦ decide (Shows setting.toList e)) = [] := by
    refine List.filter_eq_nil_iff.2 fun e _ hshows ↦ ?_
    obtain ⟨d, hd, -⟩ := (of_decide_eq_true hshows).decided
    obtain ⟨item, hlast, hsaid⟩ := hd.last
    have hitem := (List.mem_filter.1 (List.mem_of_getLast? hlast)).1
    exact hnone item hitem (exists_says_iff.1 ⟨d, hsaid⟩)
  rw [hshown]
  rfl

end Program

/-- A start of the program with a destination. -/
private def postToHook : List Bytes :=
  [Utf8.encode "post", Utf8.encode "http://[::1]/hook"]

/-- A setting with a directive for all of the program and one for a part of it, an item that is no
directive between them, and a pattern. -/
private def wholeThenPart : String :=
  "send_discord_message=debug,a=b=c,send_discord_message::cli=DEBUG/bytes"

/-- The same directives the other way round, behind another item that is no directive. -/
private def partThenWhole : String :=
  "x=loud,send_discord_message::cli=DEBUG,send_discord_message=debug/bytes"

theorem order_of_directives_is_not_shown :
    IsRegular wholeThenPart.toList ∧
      ∃ lines, ShowInOrder [.messageRead 5, .messageSize 5] lines ∧
        ShowsLines .scripted postToHook (Utf8.encode "hello") [] wholeThenPart lines ∧
        ShowsLines .scripted postToHook (Utf8.encode "hello") [] partThenWhole lines := by
  have hregular : IsRegular wholeThenPart.toList := ⟨by decide +kernel, by decide +kernel⟩
  obtain ⟨lines, hlines, horder, -, hother⟩ :=
    decided_records_are_shown .scripted postToHook (Utf8.encode "hello") [] hregular
  have hitems : (settingItems wholeThenPart.toList).filter (IsDirective ·) =
      ["send_discord_message=debug".toList, "send_discord_message::cli=DEBUG".toList] := by
    decide +kernel
  obtain ⟨-, hreordered, -⟩ := hother partThenWhole (by decide +kernel) (by decide +kernel)
  refine ⟨hregular, lines, ?_, hlines, hreordered (by decide +kernel) ?_⟩
  · rw [decide_shows_eq hregular.slash hregular.hasNames] at horder
    have hshown : (recordsOf .scripted postToHook (Utf8.encode "hello") []).filter
        (LogFilter.read wholeThenPart).1.shows = [.messageRead 5, .messageSize 5] := by
      decide +kernel
    rwa [hshown] at horder
  · rw [hitems, List.pairwise_pair]
    rintro target ⟨⟨d, hd, hdt⟩, e, he, het⟩
    have hwhole : Directive.ofItem "send_discord_message=debug".toList =
        .ok ⟨some "send_discord_message".toList, .upTo .debug⟩ := rfl
    have hpart : Directive.ofItem "send_discord_message::cli=DEBUG".toList =
        .ok ⟨some "send_discord_message::cli".toList, .upTo .debug⟩ := rfl
    rw [hd.unique (ofItem_eq_ok_iff.1 hwhole)] at hdt
    rw [he.unique (ofItem_eq_ok_iff.1 hpart), ← hdt] at het
    revert het
    decide

end ChatHook
