import ChatHook.Proofs.Setting
import Mathlib.Data.List.Induction

/-!
# Which directive decides

Each item of a setting says at most one directive (`Says`), a threshold for the parts of the program
whose names start in a certain way. What is kept of a list of items is the last directive for each
target (`mem_readDirectives_iff`): a later one replaces an earlier one in its place. Among those
that fit a part of the program the longest decides. Two that fit one part are beginnings of the same
name, so two of the same length are for the same target, and only one of them is kept. That is why
the place of a directive among those for other targets does not matter.

An empty target in front of a `=` would fit as much as no target and yet be another one, so it is
excluded here (`HasNames`).

## Main results

* `ofItem_eq_ok_iff`: what an item says.
* `mem_readDirectives_iff`: which directives are kept.
* `decides_iff`: which of them decides.
-/

namespace ChatHook

/-! ### What an item says -/

/-- The name of a threshold in capitals. -/
def Threshold.label : Threshold → String
  | .off => "OFF"
  | .upTo level => level.name

/-- What an item of a setting says. -/
inductive Says : List Char → Directive → Prop
  /-- A level alone is meant for all parts of the program. -/
  | level {cs threshold} (hno : '=' ∉ cs) (h : cs.map Char.toUpper = threshold.label.toList) :
      Says cs ⟨none, threshold⟩
  /-- A name alone asks for everything. -/
  | name {cs} (hno : '=' ∉ cs) (h : ¬NamesThreshold cs) : Says cs ⟨some cs, .upTo .trace⟩
  /-- So does a name with no level behind it. -/
  | noLevel {name level} (hno : '=' ∉ name) (hno' : '=' ∉ level) (h : Text.trim level = []) :
      Says (name ++ '=' :: level) ⟨some name, .upTo .trace⟩
  | both {name level threshold} (hno : '=' ∉ name) (hno' : '=' ∉ level)
      (h : (Text.trim level).map Char.toUpper = threshold.label.toList) :
      Says (name ++ '=' :: level) ⟨some name, threshold⟩

theorem ofName?_eq_some_iff {cs : List Char} {threshold : Threshold} :
    Threshold.ofName? cs = some threshold ↔ cs.map Char.toUpper = threshold.label.toList := by
  constructor
  · intro h
    have hcatalogue : ∀ entry ∈ Threshold.catalogue, entry.1 = entry.2.label := by
      decide
    obtain ⟨entry, hentry, rfl⟩ := Option.map_eq_some_iff.1 h
    have hname := List.find?_some hentry
    rw [decide_eq_true_eq] at hname
    rw [← hname, hcatalogue entry (List.mem_of_find?_eq_some hentry)]
  · intro h
    rw [Threshold.ofName?, h]
    cases threshold with
    | off => rfl
    | upTo level => cases level <;> rfl

theorem ofName?_eq_none_iff {cs : List Char} :
    Threshold.ofName? cs = none ↔ ¬NamesThreshold cs := by
  rw [← isSome_ofName?_iff, Option.not_isSome_iff_eq_none]

theorem label_ne_empty (threshold : Threshold) : threshold.label.toList ≠ [] := by
  cases threshold with
  | off => decide
  | upTo level => cases level <;> decide

/-- **What an item says** is what is read from it. -/
theorem ofItem_eq_ok_iff {item : List Char} {d : Directive} :
    Directive.ofItem item = .ok d ↔ Says item d := by
  constructor
  · intro h
    rcases splitOn_cases '=' item with ⟨hno, hparts⟩ | ⟨name, level, rfl, hno, hno', hparts⟩ |
      ⟨name, level, third, parts, -, hparts⟩
    · simp only [Directive.ofItem, hparts] at h
      cases hname : Threshold.ofName? item with
      | some threshold =>
        rw [hname] at h
        exact Except.ok.inj h ▸ .level hno (ofName?_eq_some_iff.1 hname)
      | none =>
        rw [hname] at h
        exact Except.ok.inj h ▸ .name hno (ofName?_eq_none_iff.1 hname)
    · simp only [Directive.ofItem, hparts] at h
      split_ifs at h with hempty
      · exact Except.ok.inj h ▸ .noLevel hno hno' (List.isEmpty_iff.1 hempty)
      · cases hname : Threshold.ofName? (Text.trim level) with
        | some threshold =>
          rw [hname] at h
          exact Except.ok.inj h ▸ .both hno hno' (ofName?_eq_some_iff.1 hname)
        | none => simp [hname] at h
    · simp [Directive.ofItem, hparts] at h
  · intro h
    cases h with
    | level hno h =>
      simp only [Directive.ofItem, List.splitOn_eq_singleton hno, ofName?_eq_some_iff.2 h]
    | name hno h =>
      simp only [Directive.ofItem, List.splitOn_eq_singleton hno, ofName?_eq_none_iff.2 h]
    | noLevel hno hno' h =>
      simp [Directive.ofItem, List.splitOn_append_cons_self_of_not_mem hno,
        List.splitOn_eq_singleton hno', h]
    | @both _ level _ hno hno' h =>
      have hempty : (Text.trim level).isEmpty = false := by
        rw [List.isEmpty_eq_false_iff]
        intro htrim
        rw [htrim] at h
        exact label_ne_empty _ h.symm
      simp [Directive.ofItem, List.splitOn_append_cons_self_of_not_mem hno,
        List.splitOn_eq_singleton hno', hempty, ofName?_eq_some_iff.2 h]

theorem Says.unique {item : List Char} {d e : Directive} (h : Says item d) (h' : Says item e) :
    d = e :=
  Except.ok.inj ((ofItem_eq_ok_iff.2 h).symm.trans (ofItem_eq_ok_iff.2 h'))

theorem exists_says_iff {item : List Char} : (∃ d, Says item d) ↔ IsDirective item := by
  simp only [← ofItem_eq_ok_iff, exists_ofItem_eq_ok_iff]

instance (item : List Char) : Decidable (IsDirective item) :=
  match h : Directive.ofItem item with
  | .ok d => .isTrue (exists_ofItem_eq_ok_iff.1 ⟨d, h⟩)
  | .error w => .isFalse fun hitem ↦ by
    obtain ⟨d, hd⟩ := exists_ofItem_eq_ok_iff.2 hitem
    simp [h] at hd

/-- An item is for a target: it says a directive for the target. -/
def IsFor (target : Option (List Char)) (item : List Char) : Prop :=
  ∃ d, Says item d ∧ d.target = target

instance (target : Option (List Char)) (item : List Char) : Decidable (IsFor target item) :=
  match h : Directive.ofItem item with
  | .ok d => decidable_of_iff (d.target = target)
      ⟨fun htarget ↦ ⟨d, ofItem_eq_ok_iff.1 h, htarget⟩,
        fun ⟨_, hsaid, htarget⟩ ↦ (ofItem_eq_ok_iff.1 h).unique hsaid ▸ htarget⟩
  | .error w => .isFalse fun ⟨d, hsaid, _⟩ ↦ by
    simp [ofItem_eq_ok_iff.2 hsaid] at h

/-! ### Which directives are kept -/

/-- A directive that is added is there, and of the others those for another target. -/
theorem mem_insert_iff {ds : List Directive} {d e : Directive} :
    e ∈ Directive.insert ds d ↔ e = d ∨ e ∈ ds ∧ e.target ≠ d.target := by
  rw [Directive.insert]
  split_ifs with hany
  · obtain ⟨x, hx, hxd⟩ := List.any_eq_true.1 hany
    rw [decide_eq_true_eq] at hxd
    rw [List.mem_map]
    constructor
    · rintro ⟨y, hy, rfl⟩
      split_ifs with hyd
      · exact .inl rfl
      · exact .inr ⟨hy, hyd⟩
    · rintro (rfl | ⟨he, hne⟩)
      · exact ⟨x, hx, if_pos hxd⟩
      · exact ⟨e, he, if_neg hne⟩
  · have hnone : e ∈ ds → e.target ≠ d.target := fun he htarget ↦
      hany (List.any_eq_true.2 ⟨e, he, decide_eq_true htarget⟩)
    rw [List.mem_append, List.mem_singleton, or_comm]
    exact or_congr_right ⟨fun he ↦ ⟨he, hnone he⟩, And.left⟩

/-- What a further item adds to the directives of some items. -/
theorem readDirectives_append_singleton (items : List (List Char)) (item : List Char) :
    (readDirectives (items ++ [item])).1 =
      match Directive.ofItem item with
      | .ok d => Directive.insert (readDirectives items).1 d
      | .error _ => (readDirectives items).1 := by
  rw [readDirectives, List.foldl_append, List.foldl_cons, List.foldl_nil]
  cases Directive.ofItem item <;> rfl

/-- **Which directives are kept.** For each target it is the one that the last item for it says. -/
theorem mem_readDirectives_iff {items : List (List Char)} {d : Directive} :
    d ∈ (readDirectives items).1 ↔
      ∃ item, (items.filter (IsFor d.target ·)).getLast? = some item ∧ Says item d := by
  -- By induction on the items from the end, where the last one is the one that counts.
  induction items using List.reverseRecOn with
  | nil => simp [readDirectives]
  | append_singleton items item ih =>
    rw [readDirectives_append_singleton, List.filter_append]
    cases hitem : Directive.ofItem item with
    | error w =>
      have hfor : ¬IsFor d.target item := fun ⟨e, hsaid, _⟩ ↦ by
        simp [ofItem_eq_ok_iff.2 hsaid] at hitem
      simp [ih, hfor]
    | ok e =>
      have hsaid := ofItem_eq_ok_iff.1 hitem
      have hfor : IsFor d.target item ↔ e.target = d.target :=
        ⟨fun ⟨_, hsaid', htarget⟩ ↦ hsaid.unique hsaid' ▸ htarget, fun h ↦ ⟨e, hsaid, h⟩⟩
      rw [mem_insert_iff, ih]
      by_cases htarget : e.target = d.target
      · have hlast : Says item d ↔ d = e := ⟨fun h ↦ h.unique hsaid, fun h ↦ h ▸ hsaid⟩
        simp [hfor, htarget, hlast]
      · have hne : d ≠ e := fun h ↦ htarget (h ▸ rfl)
        simp [hfor, htarget, hne, Ne.symm htarget]

/-- What an item says is kept, or what a later item says in its place. -/
theorem exists_mem_readDirectives {items : List (List Char)} {item : List Char} {d : Directive}
    (hitem : item ∈ items) (hsaid : Says item d) :
    ∃ e ∈ (readDirectives items).1, e.target = d.target := by
  have hmem : item ∈ items.filter (IsFor d.target ·) :=
    List.mem_filter.2 ⟨hitem, decide_eq_true ⟨d, hsaid, rfl⟩⟩
  obtain ⟨last, hlast⟩ : ∃ last, (items.filter (IsFor d.target ·)).getLast? = some last :=
    ⟨_, List.getLast?_eq_some_getLast (List.ne_nil_of_mem hmem)⟩
  obtain ⟨e, hsaid', htarget⟩ :=
    of_decide_eq_true (List.mem_filter.1 (List.mem_of_getLast? hlast)).2
  exact ⟨e, mem_readDirectives_iff.2 ⟨last, htarget ▸ hlast, hsaid'⟩, htarget⟩

/-- Every directive that is kept is said by an item. -/
theorem exists_says_of_mem_readDirectives {items : List (List Char)} {d : Directive}
    (h : d ∈ (readDirectives items).1) : ∃ item ∈ items, Says item d := by
  obtain ⟨item, hlast, hsaid⟩ := mem_readDirectives_iff.1 h
  exact ⟨item, (List.mem_filter.1 (List.mem_of_getLast? hlast)).1, hsaid⟩

/-- For each target one directive is kept. -/
theorem eq_of_mem_readDirectives {items : List (List Char)} {d e : Directive}
    (hd : d ∈ (readDirectives items).1) (he : e ∈ (readDirectives items).1)
    (h : d.target = e.target) : d = e := by
  obtain ⟨item, hitem, hsaid⟩ := mem_readDirectives_iff.1 hd
  obtain ⟨item', hitem', hsaid'⟩ := mem_readDirectives_iff.1 he
  rw [h, hitem', Option.some.injEq] at hitem
  exact hsaid.unique (hitem ▸ hsaid')

/-! ### Which directive decides -/

/-- No item has an empty target in front of a `=`. -/
def HasNames (items : List (List Char)) : Prop :=
  ∀ item ∈ items, ∀ d, Says item d → d.target ≠ some []

/-- Among some items, a directive decides about a part of the program: its target is how the name of
the part starts, it is said by the last of the items for its target, and no directive with a longer
target fits. -/
structure Decides (items : List (List Char)) (target : String) (d : Directive) : Prop where
  fits : d.beginning <+: target.toList
  last : ∃ item, (items.filter (IsFor d.target ·)).getLast? = some item ∧ Says item d
  longest : ∀ item ∈ items, ∀ e, Says item e → e.beginning <+: target.toList →
    e.beginning.length ≤ d.beginning.length

/-- The longer one of two directives, the second one if they are equal in this. -/
def Directive.longer? (best : Option Directive) (d : Directive) : Option Directive :=
  match best with
  | none => some d
  | some b => if b.beginning.length ≤ d.beginning.length then some d else some b

theorem decisive?_eq (ds : List Directive) (target : String) :
    Directive.decisive? ds target = (ds.filter (·.fits target)).foldl Directive.longer? none := rfl

/-- Of some directives and a first one, the longest is found. -/
theorem exists_foldl_longer? (b : Directive) (ds : List Directive) :
    ∃ d ∈ b :: ds, ds.foldl Directive.longer? (some b) = some d ∧
      ∀ e ∈ b :: ds, e.beginning.length ≤ d.beginning.length := by
  induction ds generalizing b with
  | nil => simp
  | cons c ds ih =>
    rw [List.foldl_cons, Directive.longer?]
    split_ifs with hle
    · obtain ⟨d, hd, hfold, hlongest⟩ := ih c
      refine ⟨d, List.mem_cons_of_mem b hd, hfold, ?_⟩
      rw [List.forall_mem_cons]
      exact ⟨hle.trans (hlongest c List.mem_cons_self), hlongest⟩
    · obtain ⟨d, hd, hfold, hlongest⟩ := ih b
      obtain ⟨hb, hds⟩ := List.forall_mem_cons.1 hlongest
      refine ⟨d, ?_, hfold, ?_⟩
      · rcases List.mem_cons.1 hd with rfl | hd
        · exact List.mem_cons_self
        · exact List.mem_cons_of_mem b (List.mem_cons_of_mem c hd)
      · simp only [List.forall_mem_cons]
        exact ⟨hb, by omega, hds⟩

theorem fits_iff {d : Directive} {target : String} :
    d.fits target = true ↔ d.beginning <+: target.toList :=
  List.isPrefixOf_iff_prefix

/-- Where a directive fits, one decides, and it is a longest one of those that fit. -/
theorem decisive?_spec (ds : List Directive) (target : String) :
    match Directive.decisive? ds target with
    | none => ∀ e ∈ ds, ¬e.beginning <+: target.toList
    | some d => d ∈ ds ∧ d.beginning <+: target.toList ∧
        ∀ e ∈ ds, e.beginning <+: target.toList → e.beginning.length ≤ d.beginning.length := by
  have hfilter : ∀ e, e ∈ ds.filter (·.fits target) ↔ e ∈ ds ∧ e.beginning <+: target.toList := by
    simp [List.mem_filter, fits_iff]
  rw [decisive?_eq]
  cases hds : ds.filter (·.fits target) with
  | nil =>
    intro e he hfits
    simpa [hds] using (hfilter e).2 ⟨he, hfits⟩
  | cons b rest =>
    obtain ⟨d, hd, hfold, hlongest⟩ := exists_foldl_longer? b rest
    rw [← hds] at hd hlongest
    have hstart : (b :: rest).foldl Directive.longer? none = some d := hfold
    rw [hstart]
    obtain ⟨hmem, hfits⟩ := (hfilter d).1 hd
    exact ⟨hmem, hfits, fun e he hfits' ↦ hlongest e ((hfilter e).2 ⟨he, hfits'⟩)⟩

/-- Two directives that fit a part of the program and are equally long are for the same target. -/
theorem target_eq_of_length_eq {target : String} {d e : Directive} (hd : d.target ≠ some [])
    (he : e.target ≠ some []) (hfits : d.beginning <+: target.toList)
    (hfits' : e.beginning <+: target.toList)
    (hlength : d.beginning.length = e.beginning.length) : d.target = e.target := by
  have hbeginning : d.beginning = e.beginning :=
    (List.prefix_of_prefix_length_le hfits hfits' hlength.le).eq_of_length hlength
  rw [Directive.beginning, Directive.beginning] at hbeginning
  cases hdt : d.target <;> cases het : e.target <;> simp_all

/-- **Which directive decides** among those that are kept of some items. -/
theorem decides_iff {items : List (List Char)} (hnames : HasNames items) {target : String}
    {d : Directive} :
    Directive.decisive? (readDirectives items).1 target = some d ↔ Decides items target d := by
  have hspec := decisive?_spec (readDirectives items).1 target
  constructor
  · intro h
    rw [h] at hspec
    obtain ⟨hmem, hfits, hlongest⟩ := hspec
    refine ⟨hfits, mem_readDirectives_iff.1 hmem, fun item hitem e hsaid hfits' ↦ ?_⟩
    obtain ⟨e', he', htarget⟩ := exists_mem_readDirectives hitem hsaid
    have hbeginning : e'.beginning = e.beginning := by
      rw [Directive.beginning, htarget, Directive.beginning]
    exact hbeginning ▸ hlongest e' he' (hbeginning ▸ hfits')
  · rintro ⟨hfits, hlast, hlongest⟩
    have hmem := mem_readDirectives_iff.2 hlast
    cases hdecisive : Directive.decisive? (readDirectives items).1 target with
    | none =>
      rw [hdecisive] at hspec
      exact absurd hfits (hspec d hmem)
    | some e =>
      rw [hdecisive] at hspec
      obtain ⟨hmem', hfits', hlongest'⟩ := hspec
      obtain ⟨item, hitem, hsaid⟩ := exists_says_of_mem_readDirectives hmem
      obtain ⟨item', hitem', hsaid'⟩ := exists_says_of_mem_readDirectives hmem'
      -- Each of the two is at least as long as the other.
      have hlength := (hlongest item' hitem' e hsaid' hfits').antisymm (hlongest' d hmem hfits)
      have htarget := target_eq_of_length_eq (hnames item' hitem' e hsaid')
        (hnames item hitem d hsaid) hfits' hfits hlength
      rw [eq_of_mem_readDirectives hmem' hmem htarget]

end ChatHook
