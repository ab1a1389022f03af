import IsePortal.Frontend.TidyGroups

/-!
# Hiding a branch

The handler of the cross on a branch takes the path of the branch apart and hides the value below
the parent. Where no key that is shown contains `//`, that takes this branch out of the tree and
no other. A merge of two siblings leaves a hidden bucket hidden where the groups that are kept still
make it and the union does not name it.
-/

namespace IsePortal.Tree

open Library

/-- The handler of `data-hide-branch`, as far as the layout goes. -/
def hideBranch (layout : Layout) (path : String) : Layout :=
  let parent := parentOf path
  { layout with
    hidden := layout.hidden.set parent (addAll (layout.hiddenAt parent) [valueOfPath path]) }

section

variable [Collation] {layout : Layout} {expanded : List String} {rows : List Row}

/-! ## Hiding -/

omit [Collation] in
theorem hiddenAt_hideBranch {key : String} (above : List String) (hkey : Clean key)
    (path : String) :
    (hideBranch layout (pathOf (key :: above))).hiddenAt path =
      if path = pathOf above then addAll (layout.hiddenAt path) [key]
      else layout.hiddenAt path := by
  rw [Layout.hiddenAt, hideBranch, parentOf_pathOf above hkey, valueOfPath_pathOf above hkey,
    Dict.get?_set]
  by_cases hpath : path = pathOf above
  · rw [if_pos hpath, if_pos hpath, Option.getD_some, hpath]
  · rw [if_neg hpath, if_neg hpath, ← Layout.hiddenAt]

/-- No key of a branch that is shown has `//` in it. -/
def ShowsClean (layout : Layout) (expanded : List String) (rows : List Row) : Prop :=
  ∀ key above inside, Shows layout expanded rows (key :: above) inside → Clean key

theorem Opened.clean (hclean : ShowsClean layout expanded rows) {level : List Row}
    {trail : List String} (h : Opened layout expanded rows level trail) :
    ∀ key ∈ trail, Clean key := by
  induction h with
  | root => exact fun key hkey => absurd hkey List.not_mem_nil
  | child hlevel hdim hbuckets hbucket _ ih =>
      exact List.forall_mem_cons.mpr
        ⟨hclean _ _ _ (.branch hlevel hdim hbuckets hbucket), ih⟩

/-- What is hidden at a level that is opened: the branch, where it belongs to the level, and nothing
else. -/
theorem hide_buckets (hclean : ShowsClean layout expanded rows) {key : String}
    {above : List String} (hbranch : ∀ other ∈ key :: above, Clean other) {level : List Row}
    {trail : List String} (hlevel : Opened layout expanded rows level trail)
    {buckets shown : Buckets}
    (hshown : applyMergesHidden layout buckets (pathOf trail) = some shown) :
    ∃ next, applyMergesHidden (hideBranch layout (pathOf (key :: above))) buckets (pathOf trail) =
        some next ∧
      ∀ entry, entry ∈ next.entries ↔ entry ∈ shown.entries ∧ entry.1 :: trail ≠ key :: above := by
  obtain ⟨hkey, habove⟩ := List.forall_mem_cons.mp hbranch
  obtain ⟨merged, hmerged, rfl⟩ := applyMergesHidden_some hshown
  refine ⟨applyHidden merged ((hideBranch layout (pathOf (key :: above))).hiddenAt (pathOf trail)),
    ?_, fun entry => ?_⟩
  · rw [applyMergesHidden]
    exact congrArg (Option.map _) hmerged
  · rw [entries_applyHidden, entries_applyHidden, List.mem_filter, List.mem_filter,
      hiddenAt_hideBranch above hkey, decide_eq_true_iff, decide_eq_true_iff, and_assoc]
    refine and_congr_right fun _ => ?_
    by_cases htrail : trail = above
    · subst htrail
      rw [if_pos rfl, mem_addAll, List.mem_singleton, not_or, ne_eq, List.cons.injEq]
      simp
    · have hpath : pathOf trail ≠ pathOf above := fun heq =>
        htrail (pathOf_injective (hlevel.clean hclean) habove heq)
      rw [if_neg hpath]
      refine (and_iff_left ?_).symm
      intro heq
      exact htrail (List.cons.inj heq).2

theorem shown_of_hide {path branch : String} {buckets next : Buckets}
    (h : applyMergesHidden (hideBranch layout branch) buckets path = some next) :
    ∃ shown, applyMergesHidden layout buckets path = some shown := by
  obtain ⟨merged, hmerged, -⟩ := applyMergesHidden_some h
  exact ⟨applyHidden merged (layout.hiddenAt path), congrArg (Option.map _) hmerged⟩

/-- A level stays open unless it is the branch or below it. -/
theorem opened_hideBranch (hclean : ShowsClean layout expanded rows) {key : String}
    {above : List String} (hbranch : ∀ other ∈ key :: above, Clean other) {level : List Row}
    {trail : List String} :
    Opened (hideBranch layout (pathOf (key :: above))) expanded rows level trail ↔
      Opened layout expanded rows level trail ∧ ¬ (key :: above) <:+ trail := by
  constructor
  · intro h
    induction h with
    | root => exact ⟨.root, fun hsuffix => by simpa using List.suffix_nil.mp hsuffix⟩
    | @child level trail dim buckets other inside _ hdim hbuckets hbucket hopen ih =>
        obtain ⟨hlevel, hout⟩ := ih
        obtain ⟨shown, hshown⟩ := shown_of_hide hbuckets
        obtain ⟨next, hnext, hentries⟩ := hide_buckets hclean hbranch hlevel hshown
        rw [hnext, Option.some.injEq] at hbuckets
        subst hbuckets
        obtain ⟨hentry, hne⟩ := (hentries _).mp hbucket
        refine ⟨.child hlevel hdim hshown hentry hopen, fun hsuffix => ?_⟩
        rcases List.suffix_cons_iff.mp hsuffix with heq | hsuffix
        · exact hne heq.symm
        · exact hout hsuffix
  · rintro ⟨h, hout⟩
    induction h with
    | root => exact .root
    | @child level trail dim buckets other inside hlevel hdim hbuckets hbucket hopen ih =>
        rw [List.suffix_cons_iff, not_or] at hout
        obtain ⟨next, hnext, hentries⟩ := hide_buckets hclean hbranch hlevel hbuckets
        exact .child (ih hout.2) hdim hnext
          ((hentries _).mpr ⟨hbucket, Ne.symm hout.1⟩) hopen

/-- A branch stays shown unless it is the one that is hidden or below it. -/
theorem shows_hideBranch (hclean : ShowsClean layout expanded rows) {key : String}
    {above : List String} (hbranch : ∀ other ∈ key :: above, Clean other) {other : List String}
    {inside : List Row} :
    Shows (hideBranch layout (pathOf (key :: above))) expanded rows other inside ↔
      Shows layout expanded rows other inside ∧ ¬ (key :: above) <:+ other := by
  constructor
  · rintro @⟨level, trail, dim, buckets, value, inside, hlevel, hdim, hbuckets, hbucket⟩
    obtain ⟨hlevel, hout⟩ := (opened_hideBranch hclean hbranch).mp hlevel
    obtain ⟨shown, hshown⟩ := shown_of_hide hbuckets
    obtain ⟨next, hnext, hentries⟩ := hide_buckets hclean hbranch hlevel hshown
    rw [hnext, Option.some.injEq] at hbuckets
    subst hbuckets
    obtain ⟨hentry, hne⟩ := (hentries _).mp hbucket
    refine ⟨.branch hlevel hdim hshown hentry, fun hsuffix => ?_⟩
    rcases List.suffix_cons_iff.mp hsuffix with heq | hsuffix
    · exact hne heq.symm
    · exact hout hsuffix
  · rintro ⟨@⟨level, trail, dim, buckets, value, inside, hlevel, hdim, hbuckets, hbucket⟩, hout⟩
    rw [List.suffix_cons_iff, not_or] at hout
    obtain ⟨next, hnext, hentries⟩ := hide_buckets hclean hbranch hlevel hbuckets
    exact .branch ((opened_hideBranch hclean hbranch).mpr ⟨hlevel, hout.2⟩) hdim hnext
      ((hentries _).mpr ⟨hbucket, Ne.symm hout.1⟩)

theorem renders_hideBranch (hclean : ShowsClean layout expanded rows) {key : String}
    {above : List String} (hbranch : ∀ other ∈ key :: above, Clean other)
    (h : Renders layout expanded rows) :
    Renders (hideBranch layout (pathOf (key :: above))) expanded rows := by
  intro level trail dim hlevel hdim
  obtain ⟨hlevel, -⟩ := (opened_hideBranch hclean hbranch).mp hlevel
  obtain ⟨shown, hshown⟩ := h level trail dim hlevel hdim
  obtain ⟨next, hnext, -⟩ := hide_buckets hclean hbranch hlevel hshown
  exact ⟨next, hnext⟩

/-- The path of the branch is taken apart, and hiding it takes it out of the next rendering with
all below it, and no other branch. -/
def HidesOnly (layout : Layout) (expanded : List String) (rows : List Row) (items : List Item)
    (key : String) (above : List String) : Prop :=
  parentOf (pathOf (key :: above)) = pathOf above ∧ valueOfPath (pathOf (key :: above)) = key ∧
    ∃ next, renderTree (hideBranch layout (pathOf (key :: above))) expanded rows = some next ∧
      ∀ other inside, Item.branch other inside ∈ next ↔
        Item.branch other inside ∈ items ∧ ¬ (key :: above) <:+ other

/-- Each branch that is shown can be hidden alone if and only if no key of one has `//` in it. -/
theorem hidesOnly_iff {items : List Item} (h : renderTree layout expanded rows = some items) :
    (∀ key above inside, Item.branch (key :: above) inside ∈ items →
      HidesOnly layout expanded rows items key above) ↔ ShowsClean layout expanded rows := by
  constructor
  · intro hall key above inside hshows
    by_contra hkey
    obtain ⟨-, hvalue, -⟩ :=
      hall key above inside ((branch_mem_renderTree h _ _).mpr hshows)
    exact valueOfPath_ne above hkey hvalue
  · intro hclean key above inside hmem
    have hshows := (branch_mem_renderTree h _ _).mp hmem
    have hbranch : ∀ other ∈ key :: above, Clean other := by
      cases hshows with
      | branch hlevel hdim hbuckets hbucket =>
          exact List.forall_mem_cons.mpr
            ⟨hclean _ _ _ (.branch hlevel hdim hbuckets hbucket), hlevel.clean hclean⟩
    have hkey := hbranch key List.mem_cons_self
    refine ⟨parentOf_pathOf above hkey, valueOfPath_pathOf above hkey, ?_⟩
    obtain ⟨next, hnext⟩ := renderTree_iff.mpr
      (renders_hideBranch hclean hbranch (renderTree_iff.mp ⟨items, h⟩))
    refine ⟨next, hnext, fun other inside => ?_⟩
    rw [branch_mem_renderTree hnext, branch_mem_renderTree h]
    exact shows_hideBranch hclean hbranch

/-! ## Merging beside a hidden bucket -/

theorem Opened.reached {level : List Row} {trail : List String}
    (h : Opened layout expanded rows level trail) : Reached layout rows level trail := by
  induction h with
  | root => exact .root
  | child _ hdim hbuckets hbucket _ ih => exact .child ih hdim hbuckets hbucket

/-- Two branches that are shown at a level, and a bucket that is hidden there. -/
structure HiddenBeside (layout : Layout) (expanded : List String) (rows level : List Row)
    (above : List String) (dim : String) (merged : Buckets) (a b value : String)
    (inside : List Row) : Prop where
  opened : Opened layout expanded rows level above
  grouped : effectiveDim layout above = some dim
  joined : applyMerges (bucketize level dim) (layout.mergesAt (pathOf above)) = some merged
  first : a ∈ (applyHidden merged (layout.hiddenAt (pathOf above))).keys
  second : b ∈ (applyHidden merged (layout.hiddenAt (pathOf above))).keys
  distinct : a ≠ b
  hidden : value ∈ layout.hiddenAt (pathOf above)
  bucket : merged.get? value = some inside

/-- In the next rendering the level has the bucket still, with its rows, and hides it. -/
def StaysHidden (next : Layout) (expanded : List String) (rows level : List Row)
    (above : List String) (value : String) (inside : List Row) : Prop :=
  Opened next expanded rows level above ∧ value ∈ next.hiddenAt (pathOf above) ∧
    ∃ dim merged, effectiveDim next above = some dim ∧
      applyMerges (bucketize level dim) (next.mergesAt (pathOf above)) = some merged ∧
      merged.get? value = some inside

/-- The groups without a value of the branches, as `mergeValues` keeps them, make the hidden bucket
when they are merged alone, and those it folds in do not name it. -/
def KeptHidden (layout : Layout) (level : List Row) (above : List String) (dim a b value : String)
    (inside : List Row) : Prop :=
  ∃ kept, applyMerges (bucketize level dim)
      (foldGroups (unionOf a b) (layout.mergesAt (pathOf above))).2 = some kept ∧
    kept.get? value = some inside ∧
    value ∉ (foldGroups (unionOf a b) (layout.mergesAt (pathOf above))).1

omit [Collation] in
theorem mem_keys_applyHidden {buckets : Buckets} {hidden : List String} {key : String} :
    key ∈ (applyHidden buckets hidden).keys ↔ key ∈ buckets.keys ∧ key ∉ hidden := by
  rw [Dict.keys, Dict.keys, entries_applyHidden, List.mem_map, List.mem_map]
  constructor
  · rintro ⟨entry, hentry, rfl⟩
    obtain ⟨hmem, hout⟩ := List.mem_filter.mp hentry
    exact ⟨⟨entry, hmem, rfl⟩, of_decide_eq_true hout⟩
  · rintro ⟨⟨entry, hentry, rfl⟩, hout⟩
    exact ⟨entry, List.mem_filter.mpr ⟨hentry, decide_eq_true hout⟩, rfl⟩

section

variable {level : List Row} {above : List String} {dim a b value : String} {merged : Buckets}
  {inside : List Row}

theorem HiddenBeside.shows
    (h : HiddenBeside layout expanded rows level above dim merged a b value inside) :
    (∃ insideA, Shows layout expanded rows (a :: above) insideA) ∧
      ∃ insideB, Shows layout expanded rows (b :: above) insideB := by
  have hbuckets : applyMergesHidden layout (bucketize level dim) (pathOf above) =
      some (applyHidden merged (layout.hiddenAt (pathOf above))) := by
    rw [applyMergesHidden, h.joined, Option.map_some]
  obtain ⟨insideA, hA⟩ := Dict.mem_keys_iff.mp h.first
  obtain ⟨insideB, hB⟩ := Dict.mem_keys_iff.mp h.second
  exact ⟨⟨insideA, .branch h.opened h.grouped hbuckets (Dict.get?_eq_some_iff.mp hA)⟩,
    insideB, .branch h.opened h.grouped hbuckets (Dict.get?_eq_some_iff.mp hB)⟩

theorem HiddenBeside.ne
    (h : HiddenBeside layout expanded rows level above dim merged a b value inside) :
    a ≠ value ∧ b ≠ value :=
  ⟨fun heq => (mem_keys_applyHidden.mp h.first).2 (heq ▸ h.hidden),
    fun heq => (mem_keys_applyHidden.mp h.second).2 (heq ▸ h.hidden)⟩

/-- What is hidden beside two branches stays hidden after their merge if and only if the groups
that are kept make it. -/
theorem staysHidden_iff (hplain : ∀ row ∈ rows, row.Plain) (ha : Clean a) (hb : Clean b)
    (h : HiddenBeside layout expanded rows level above dim merged a b value inside) :
    StaysHidden (dropOnSibling layout (pathOf (a :: above)) (pathOf (b :: above))) expanded rows
        level above value inside ↔ KeptHidden layout level above dim a b value inside := by
  have hlevel := h.opened.reached.plain hplain
  rw [KeptHidden, ← applyMerges_mergeInto_iff hlevel h.joined (mem_keys_applyHidden.mp h.first).1
    (mem_keys_applyHidden.mp h.second).1 (Dict.mem_keys_iff.mpr ⟨inside, h.bucket⟩) h.distinct
    h.ne.1, StaysHidden, hiddenAt_drop ha hb List.suffix_rfl,
    effectiveDim_drop ha hb List.suffix_rfl, mergesAt_drop ha hb, h.grouped]
  constructor
  · rintro ⟨-, -, _, next, hdim, hnext, hbucket⟩
    cases hdim
    exact ⟨next, hnext, hbucket⟩
  · rintro ⟨next, hnext, hbucket⟩
    exact ⟨h.opened.drop ha hb List.suffix_rfl, h.hidden, dim, next, rfl, hnext, hbucket⟩

/-- Tidy groups keep what is hidden. -/
theorem keptHidden_of_tidy (hplain : ∀ row ∈ rows, row.Plain)
    (htidy : Tidy (layout.mergesAt (pathOf above)))
    (h : HiddenBeside layout expanded rows level above dim merged a b value inside) :
    KeptHidden layout level above dim a b value inside :=
  htidy.kept_bucket (h.opened.reached.plain hplain) h.joined (mem_keys_applyHidden.mp h.first).1
    (mem_keys_applyHidden.mp h.second).1 h.bucket h.ne.1 h.ne.2

end

/-- The values of the row have no `//`. -/
def Row.Slashless (row : Row) : Prop := ∀ key, ¬ Slashed (valueOf row key).toList

/-- Where no value has `//`, no key has. -/
theorem clean_of_slashless (hplain : ∀ row ∈ rows, row.Plain)
    (hslashless : ∀ row ∈ rows, row.Slashless) {level : List Row} {trail : List String}
    {dim key : String} {merged : Buckets} (hlevel : Reached layout rows level trail)
    (hmerged : applyMerges (bucketize level dim) (layout.mergesAt (pathOf trail)) = some merged)
    (hkey : key ∈ merged.keys) : Clean key := by
  intro hslashed
  rw [← List.append_nil key.toList] at hslashed
  obtain ⟨member, hmember, hslashed⟩ := slashed_members hslashed
  rw [List.append_nil] at hslashed
  obtain ⟨row, hrow, rfl⟩ := mem_keys_bucketize.mp
    (member_mem_bucketize (hlevel.plain hplain) hmerged hkey hmember)
  unfold bucketValue at hslashed
  split at hslashed
  · exact absurd hslashed (by decide)
  · exact hslashless row (hlevel.subset row hrow) dim hslashed

theorem showsClean_of_slashless (hplain : ∀ row ∈ rows, row.Plain)
    (hslashless : ∀ row ∈ rows, row.Slashless) : ShowsClean layout expanded rows := by
  rintro key above inside @⟨level, _, dim, _, _, _, hlevel, _, hbuckets, hbucket⟩
  obtain ⟨merged, hmerged, rfl⟩ := applyMergesHidden_some hbuckets
  exact clean_of_slashless hplain hslashless hlevel.reached hmerged
    (mem_keys_applyHidden.mp (List.mem_map_of_mem hbucket)).1

theorem Reached.clean (hplain : ∀ row ∈ rows, row.Plain)
    (hslashless : ∀ row ∈ rows, row.Slashless) {level : List Row} {trail : List String}
    (h : Reached layout rows level trail) : ∀ key ∈ trail, Clean key := by
  induction h with
  | root => exact fun key hkey => absurd hkey List.not_mem_nil
  | child hlevel _ hbuckets hbucket ih =>
      obtain ⟨merged, hmerged, rfl⟩ := applyMergesHidden_some hbuckets
      exact List.forall_mem_cons.mpr ⟨clean_of_slashless hplain hslashless hlevel hmerged
        (mem_keys_applyHidden.mp (List.mem_map_of_mem hbucket)).1, ih⟩

/-- Every branch that is shown can be hidden alone, and a merge of two leaves what is hidden beside
them hidden, if and only if no key that is shown has `//` in it and what is hidden is made by the
groups that are kept. -/
theorem hide_branch_iff (layout : Layout) (expanded : List String) (rows : List Row)
    (items : List Item) (hplain : ∀ row ∈ rows, row.Plain)
    (h : renderTree layout expanded rows = some items) :
    ((∀ key above inside, Item.branch (key :: above) inside ∈ items →
        HidesOnly layout expanded rows items key above) ∧
      ∀ level above dim merged a b value inside,
        HiddenBeside layout expanded rows level above dim merged a b value inside →
          StaysHidden (dropOnSibling layout (pathOf (a :: above)) (pathOf (b :: above))) expanded
            rows level above value inside) ↔
      (∀ key above inside, Item.branch (key :: above) inside ∈ items → Clean key) ∧
        ∀ level above dim merged a b value inside,
          HiddenBeside layout expanded rows level above dim merged a b value inside →
            KeptHidden layout level above dim a b value inside := by
  have hshows : (∀ key above inside, Item.branch (key :: above) inside ∈ items → Clean key) ↔
      ShowsClean layout expanded rows := by
    simp only [branch_mem_renderTree h, ShowsClean]
  rw [hidesOnly_iff h, hshows]
  refine and_congr_right fun hclean => ?_
  have hkeys : ∀ level above dim merged a b value inside,
      HiddenBeside layout expanded rows level above dim merged a b value inside →
        Clean a ∧ Clean b := by
    intro level above dim merged a b value inside hbeside
    obtain ⟨⟨insideA, hA⟩, insideB, hB⟩ := hbeside.shows
    exact ⟨hclean a above insideA hA, hclean b above insideB hB⟩
  constructor
  · intro hall level above dim merged a b value inside hbeside
    obtain ⟨ha, hb⟩ := hkeys level above dim merged a b value inside hbeside
    exact (staysHidden_iff hplain ha hb hbeside).mp
      (hall level above dim merged a b value inside hbeside)
  · intro hall level above dim merged a b value inside hbeside
    obtain ⟨ha, hb⟩ := hkeys level above dim merged a b value inside hbeside
    exact (staysHidden_iff hplain ha hb hbeside).mpr
      (hall level above dim merged a b value inside hbeside)

end

/-! ## A group with slashes in its name -/

/-- An endpoint of a group. -/
def groupRow (name : String) : Row where
  id := name
  cell key := if key = "group_name" then .text name else .absent

/-- Endpoints by their group, with some groups hidden. -/
def byGroup (hidden : List String) : Layout where
  groupBy := ["group_name"]
  branchDim := .empty
  merges := .empty
  hidden := Dict.empty.set "" hidden

theorem groupRow_value {name key : String} :
    valueOf (groupRow name) key = if key = "group_name" then jsTrim name else "" := by
  by_cases hkey : key = "group_name"
  · have hcell : (groupRow name).cell key = .text name := if_pos hkey
    rw [valueOf, hcell, if_pos hkey]
  · have hcell : (groupRow name).cell key = .absent := if_neg hkey
    rw [valueOf, hcell, if_neg hkey]

theorem plain_groupRows {names : List String}
    (h : ∀ name ∈ names, mergeSep ∉ (jsTrim name).toList) :
    ∀ row ∈ names.map groupRow, row.Plain := by
  rintro row hrow key
  obtain ⟨name, hname, rfl⟩ := List.mem_map.mp hrow
  rw [groupRow_value]
  split
  · exact h name hname
  · exact List.not_mem_nil

theorem slashless_groupRows {names : List String} (h : ∀ name ∈ names, '/' ∉ (jsTrim name).toList) :
    ∀ row ∈ names.map groupRow, row.Slashless := by
  rintro row hrow key
  obtain ⟨name, hname, rfl⟩ := List.mem_map.mp hrow
  rw [groupRow_value]
  refine not_slashed_of_not_mem ?_
  split
  · exact h name hname
  · exact List.not_mem_nil

theorem hide_branch_sample : ∃ items,
    @renderTree codeOrder (byGroup ["C"]) [] (["A", "B", "C"].map groupRow) =
        some items ∧
      (∀ key above inside, Item.branch (key :: above) inside ∈ items →
        @HidesOnly codeOrder (byGroup ["C"]) [] (["A", "B", "C"].map groupRow) items key
          above) ∧
      ∀ level above dim merged a b value inside,
        @HiddenBeside codeOrder (byGroup ["C"]) [] (["A", "B", "C"].map groupRow) level
            above dim merged a b value inside →
          @StaysHidden codeOrder (@dropOnSibling codeOrder (byGroup ["C"]) (pathOf (a :: above))
            (pathOf (b :: above))) [] (["A", "B", "C"].map groupRow) level above value
            inside := by
  let _ := codeOrder
  have hplain : ∀ row ∈ ["A", "B", "C"].map groupRow, row.Plain := plain_groupRows (by decide)
  have htidy : ∀ path, Tidy ((byGroup ["C"]).mergesAt path) := fun path =>
    ⟨List.Pairwise.nil, fun _ h => absurd h List.not_mem_nil, fun _ h => absurd h List.not_mem_nil⟩
  obtain ⟨items, hitems⟩ : ∃ items,
      renderTree (byGroup ["C"]) [] (["A", "B", "C"].map groupRow) = some items :=
    renderTree_iff.mpr fun level trail dim _ _ => ⟨_, rfl⟩
  refine ⟨items, hitems, (hide_branch_iff (byGroup ["C"]) [] _ items hplain hitems).mpr
    ⟨fun key above inside hmem => ?_, fun level above dim merged a b value inside hbeside =>
      keptHidden_of_tidy hplain (htidy _) hbeside⟩⟩
  exact showsClean_of_slashless hplain (slashless_groupRows (by decide)) key above inside
    ((branch_mem_renderTree hitems _ _).mp hmem)

/-- A table of one branch that is not expanded. -/
theorem renderTree_single [Collation] {layout : Layout} {expanded : List String} {rows : List Row}
    {dim key : String} (hrows : rows ≠ []) (hdim : effectiveDim layout [] = some dim)
    (hbuckets : applyMergesHidden layout (bucketize rows dim) (pathOf []) =
      some (Dict.empty.set key rows)) (hclosed : pathOf [key] ∉ expanded) :
    renderTree layout expanded rows = some [.branch [key] rows] := by
  rw [renderTree, if_neg hrows, hdim]
  show renderNodes layout expanded rows [] = _
  rw [renderNodes_branches expanded hdim hbuckets,
    Dict.entries_set_of_not_mem _ List.not_mem_nil]
  show collect _ (List.mergeSort [(key, rows)] _) = _
  rw [List.mergeSort_singleton]
  simp [collect, hclosed]

/-- The cross on the group `Lab//2` hides a value `2` below a branch `Lab` there is none of. -/
theorem hide_branch_fails : (∀ row ∈ [groupRow "Lab//2"], row.Plain) ∧ ∀ _ : Collation,
    renderTree (byGroup []) [] [groupRow "Lab//2"] =
        some [.branch ["Lab//2"] [groupRow "Lab//2"]] ∧
      ¬ HidesOnly (byGroup []) [] [groupRow "Lab//2"] [.branch ["Lab//2"] [groupRow "Lab//2"]]
        "Lab//2" [] := by
  refine ⟨@plain_groupRows ["Lab//2"] (by decide), fun _ => ⟨?_, fun h => ?_⟩⟩
  · exact renderTree_single (List.cons_ne_nil _ _) rfl rfl List.not_mem_nil
  · exact absurd h.1 (by decide)

end IsePortal.Tree
