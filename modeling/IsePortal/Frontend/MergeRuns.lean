import IsePortal.Frontend.TreeHide

/-!
# Runs of merges

A layout is arranged when it comes from an empty one by merging siblings, hiding branches and
choosing dimensions. Where no merge puts two groups with a common value under one path, the groups
stay tidy, and a merged branch is found under the path that was computed for it, with all that was
set below its two parts. Of two dimensions that come to one path the first is kept.
-/

namespace IsePortal.Tree

open Library

/-! ## Keys that end no path too early -/

/-- The text has no `//` in it, and none arises when the path goes on below it. -/
def Tellable (text : String) : Prop := ¬ Slashed (text.toList ++ ['/'])

instance : DecidablePred Tellable := fun text =>
  inferInstanceAs (Decidable ¬ Slashed (text.toList ++ ['/']))

theorem Tellable.clean {text : String} (h : Tellable text) : Clean text :=
  fun hslashed => h (hslashed.trans (List.prefix_append _ _).isInfix)

theorem slashed_of_starts {before part after rest : List Char} (hpart : part ≠ [])
    (h : part ++ after = '/' :: '/' :: rest) : Slashed (before ++ part ++ ['/']) := by
  refine List.IsInfix.trans ?_ (List.append_assoc before part ['/'] ▸
    (List.suffix_append before (part ++ ['/'])).isInfix)
  refine List.IsPrefix.isInfix ?_
  rcases part with _ | ⟨first, _ | ⟨second, part⟩⟩
  · exact absurd rfl hpart
  · rw [(List.cons.inj h).1]
    exact List.prefix_rfl
  · obtain ⟨hfirst, htail⟩ := List.cons.inj h
    rw [hfirst, (List.cons.inj htail).1]
    exact ⟨part ++ ['/'], rfl⟩

/-- A path at or below one key is not at or below another key of the level. -/
theorem Tellable.not_below {a b : String} (ha : Tellable a) (hb : Tellable b) (hab : a ≠ b)
    {rest : List Char} (hrest : rest = [] ∨ ∃ below, rest = '/' :: '/' :: below) :
    b.toList ++ rest ≠ a.toList ∧ ¬ a.toList ++ ['/', '/'] <+: b.toList ++ rest := by
  have hchars : a.toList ≠ b.toList := fun heq => hab (String.toList_inj.mp heq)
  constructor
  · intro heq
    rcases hrest with rfl | ⟨below, rfl⟩
    · exact hchars (by rw [← heq, List.append_nil])
    · refine ha ?_
      rw [← heq]
      exact @slashed_of_starts _ _ [] below (List.cons_ne_nil _ _) (List.append_nil _)
  · rintro ⟨below, hbelow⟩
    rw [List.append_assoc, List.append_eq_append_iff] at hbelow
    rcases hbelow with ⟨part, hpart, hslash⟩ | ⟨part, hpart, hslash⟩
    · -- the second key goes on with slashes
      refine hb ?_
      rw [hpart]
      refine slashed_of_starts ?_ hslash.symm
      rintro rfl
      exact hchars (by rw [hpart, List.append_nil])
    · refine ha ?_
      have hne : part ≠ [] := by
        rintro rfl
        exact hchars (by rw [hpart, List.append_nil])
      rcases hrest with rfl | ⟨inner, rfl⟩
      · exact absurd (List.append_eq_nil_iff.mp hslash.symm).1 hne
      · rw [hpart]
        exact slashed_of_starts hne hslash.symm

/-- The rest of a path at or below another one. -/
def Below (rest : String) : Prop := rest.toList = [] ∨ ∃ below, rest.toList = '/' :: '/' :: below

theorem remap_self {newPath oldPath rest : String} {others : List String} (hrest : Below rest) :
    remap newPath (oldPath :: others) (oldPath ++ rest) = newPath ++ rest := by
  rw [remap]
  rcases hrest with hrest | ⟨below, hbelow⟩
  · have hempty : rest = "" := String.toList_eq_nil_iff.mp hrest
    rw [hempty, String.append_empty, String.append_empty, if_pos rfl]
  · have hlonger : oldPath ++ rest ≠ oldPath := by
      intro heq
      have hlength := congrArg (fun path : String => path.toList.length) heq
      simp only [String.toList_append, List.length_append, hbelow, List.length_cons] at hlength
      omega
    have hprefix : oldPath.toList ++ ['/', '/'] <+: (oldPath ++ rest).toList := by
      rw [String.toList_append, hbelow]
      exact (List.prefix_append_right_inj _).mpr ⟨below, rfl⟩
    rw [if_neg hlonger, if_pos hprefix, String.toList_append, List.drop_left, String.ofList_toList]

/-- The paths of a level begin alike. -/
theorem exists_start (above : List String) :
    ∃ start, ∀ key, (pathOf (key :: above)).toList = start ++ key.toList := by
  refine ⟨(pathOf above).toList ++ '/' :: '/' :: ((toString above.length).toList ++ [':']),
    fun key => ?_⟩
  rw [toList_pathOf]
  simp only [List.append_assoc, List.cons_append, List.nil_append]

/-- What is at or below the path of one of the two branches is moved to the new path. -/
theorem remap_below {a b newPath oldPath rest : String} {above : List String} (ha : Tellable a)
    (hb : Tellable b) (hab : a ≠ b) (hold : oldPath ∈ [pathOf (a :: above), pathOf (b :: above)])
    (hrest : Below rest) :
    remap newPath [pathOf (a :: above), pathOf (b :: above)] (oldPath ++ rest) =
      newPath ++ rest := by
  rcases List.mem_pair.mp hold with rfl | rfl
  · exact remap_self hrest
  · obtain ⟨hne, hprefix⟩ := ha.not_below hb hab hrest
    obtain ⟨start, hpath⟩ := exists_start above
    have hout : pathOf (b :: above) ++ rest ≠ pathOf (a :: above) := by
      intro heq
      have hchars := congrArg String.toList heq
      rw [String.toList_append, hpath, hpath, List.append_assoc] at hchars
      exact hne (List.append_cancel_left hchars)
    have hapart : ¬ (pathOf (a :: above)).toList ++ ['/', '/'] <+:
        (pathOf (b :: above) ++ rest).toList := by
      rw [String.toList_append, hpath, hpath, List.append_assoc, List.append_assoc,
        List.prefix_append_right_inj]
      exact hprefix
    rw [remap, if_neg hout, if_neg hapart]
    exact remap_self hrest

/-! ## What comes together under a path -/

section

variable [Collation] {layout : Layout} {a b : String} {above : List String}

/-- How a merge of two siblings moves the paths. -/
def moveTo (a b : String) (above : List String) : String → String :=
  remap (pathOf (mergedKey (unionOf a b) :: above)) [pathOf (a :: above), pathOf (b :: above)]

/-- The layout after a merge of two siblings. -/
def mergedLayout (layout : Layout) (a b : String) (above : List String) : Layout :=
  dropOnSibling layout (pathOf (a :: above)) (pathOf (b :: above))

theorem mem_hiddenAt_merged (ha : Clean a) (hb : Clean b) {path value : String} :
    value ∈ (mergedLayout layout a b above).hiddenAt path ↔
      ∃ old, moveTo a b above old = path ∧ value ∈ layout.hiddenAt old := by
  rw [mergedLayout, dropOnSibling_pathOf ha hb, Layout.hiddenAt]
  simp only [mergeValues, remapCustomizationKeys]
  have hunion : ∀ first second : List String, ∀ value,
      value ∈ addAll [] (first ++ second) ↔ value ∈ first ∨ value ∈ second := by
    intro first second value
    rw [mem_addAll, List.mem_append]
    exact or_iff_right List.not_mem_nil
  rw [Dict.get?_rekey, mem_combineAll hunion]
  simp only [Dict.mem_movedTo, Layout.hiddenAt, moveTo]
  constructor
  · rintro ⟨list, ⟨old, hlist, hmove⟩, hvalue⟩
    exact ⟨old, hmove, by rwa [hlist, Option.getD_some]⟩
  · rintro ⟨old, hmove, hvalue⟩
    cases hlist : layout.hidden.get? old with
    | none =>
        rw [hlist] at hvalue
        cases hvalue
    | some list =>
        rw [hlist] at hvalue
        exact ⟨list, ⟨old, hlist, hmove⟩, hvalue⟩

/-- The groups of a path, other than that of the level, are those moved to it. -/
theorem mergesAt_merged (ha : Clean a) (hb : Clean b) {path : String} (h : path ≠ pathOf above) :
    (mergedLayout layout a b above).mergesAt path =
      (layout.merges.movedTo (moveTo a b above) path).flatten := by
  rw [mergedLayout, dropOnSibling_pathOf ha hb, Layout.mergesAt, mergeValues, Dict.get?_set_ne _ _ h,
    remapCustomizationKeys, Dict.get?_rekey, combineAll_append]
  rfl

theorem mem_flatten_movedTo {group : List String} {path : String} :
    group ∈ (layout.merges.movedTo (moveTo a b above) path).flatten ↔
      ∃ old, moveTo a b above old = path ∧ group ∈ layout.mergesAt old := by
  rw [List.mem_flatten]
  simp only [Dict.mem_movedTo, Layout.mergesAt]
  constructor
  · rintro ⟨groups, ⟨old, hgroups, hmove⟩, hgroup⟩
    exact ⟨old, hmove, by rwa [hgroups, Option.getD_some]⟩
  · rintro ⟨old, hmove, hgroup⟩
    cases hgroups : layout.merges.get? old with
    | none =>
        rw [hgroups] at hgroup
        cases hgroup
    | some groups =>
        rw [hgroups] at hgroup
        exact ⟨groups, ⟨old, hgroups, hmove⟩, hgroup⟩

/-- Of the dimensions that are moved to a path the first is found there. -/
theorem branchDim_merged (ha : Clean a) (hb : Clean b) (path : String) :
    (mergedLayout layout a b above).branchDim.get? path =
      (layout.branchDim.movedTo (moveTo a b above) path).head? := by
  rw [mergedLayout, dropOnSibling_pathOf ha hb, mergeValues, remapCustomizationKeys,
    Dict.get?_rekey, combineAll_first]
  rfl

/-! ## Layouts that are arranged -/

/-- Rows whose values can be keys of a path. -/
def Row.Tellable (row : Row) : Prop := ∀ key, Tree.Tellable (valueOf row key)

/-- Two branches that are shown at a level. -/
structure Siblings (layout : Layout) (expanded : List String) (rows level : List Row)
    (above : List String) (dim : String) (merged : Buckets) (a b : String)
    (insideA insideB : List Row) : Prop where
  opened : Opened layout expanded rows level above
  grouped : effectiveDim layout above = some dim
  joined : applyMerges (bucketize level dim) (layout.mergesAt (pathOf above)) = some merged
  first : merged.get? a = some insideA ∧ a ∉ layout.hiddenAt (pathOf above)
  second : merged.get? b = some insideB ∧ b ∉ layout.hiddenAt (pathOf above)
  distinct : a ≠ b

/-- No two groups that a merge of the siblings puts under one path have a value in common. -/
def MovesApart (layout : Layout) (a b : String) (above : List String) : Prop :=
  ∀ path, (layout.merges.movedTo (moveTo a b above) path).flatten.Pairwise List.Disjoint

/-- The layouts that come from an empty one: dimensions are chosen for the stack and for branches,
branches are hidden and siblings are merged, each time with the rows that are there, and the view
is reset. -/
inductive Arranged : Layout → Prop
  | empty (groupBy : List String) : Arranged ⟨groupBy, .empty, .empty, .empty⟩
  | regroup {layout : Layout} (h : Arranged layout) (groupBy : List String) :
      Arranged { layout with groupBy := groupBy }
  | setDim {layout : Layout} (h : Arranged layout) (branchDim : Dict String String) :
      Arranged { layout with branchDim := branchDim }
  | reset {layout : Layout} (h : Arranged layout) : Arranged ⟨layout.groupBy, .empty, .empty, .empty⟩
  | hide {layout : Layout} {expanded rows branch inside} (h : Arranged layout)
      (hplain : ∀ row ∈ rows, row.Plain) (htell : ∀ row ∈ rows, row.Tellable)
      (hshows : Shows layout expanded rows branch inside) :
      Arranged (hideBranch layout (pathOf branch))
  | merge {layout : Layout} {expanded rows level above dim merged a b insideA insideB}
      (h : Arranged layout) (hplain : ∀ row ∈ rows, row.Plain) (htell : ∀ row ∈ rows, row.Tellable)
      (hsiblings : Siblings layout expanded rows level above dim merged a b insideA insideB)
      (hapart : MovesApart layout a b above) : Arranged (mergedLayout layout a b above)

/-- The groups are tidy, and what is hidden of several values are values of one group. -/
structure Settled (layout : Layout) : Prop where
  tidy : ∀ path, Tidy (layout.mergesAt path)
  hidden : ∀ path, ∀ value ∈ layout.hiddenAt path, mergeSep ∈ value.toList →
    ∃ group ∈ layout.mergesAt path, ∀ member ∈ mergeMembers value, member ∈ group

/-- The members of the keys of a level are values of rows. -/
theorem tellable_key {rows level : List Row} {trail : List String} {dim key : String}
    {groups : List (List String)} {merged : Buckets} (hplain : ∀ row ∈ rows, row.Plain)
    (htell : ∀ row ∈ rows, row.Tellable) (hlevel : Reached layout rows level trail)
    (h : applyMerges (bucketize level dim) groups = some merged) (hkey : key ∈ merged.keys) :
    Tellable key := by
  intro hslashed
  obtain ⟨member, hmember, hslashed⟩ := slashed_members hslashed
  obtain ⟨row, hrow, rfl⟩ := mem_keys_bucketize.mp
    (member_mem_bucketize (hlevel.plain hplain) h hkey hmember)
  unfold bucketValue at hslashed
  split at hslashed
  · exact absurd hslashed (by decide)
  · exact htell row (hlevel.subset row hrow) dim hslashed

omit [Collation] in
theorem Row.Tellable.slashless {row : Row} (h : row.Tellable) : row.Slashless :=
  fun key => Tree.Tellable.clean (h key)

theorem Siblings.tellable {expanded : List String} {rows level : List Row} {dim : String}
    {merged : Buckets} {insideA insideB : List Row} (hplain : ∀ row ∈ rows, row.Plain)
    (htell : ∀ row ∈ rows, row.Tellable)
    (h : Siblings layout expanded rows level above dim merged a b insideA insideB) :
    Tellable a ∧ Tellable b :=
  ⟨tellable_key hplain htell h.opened.reached h.joined (Dict.mem_keys_iff.mpr ⟨_, h.first.1⟩),
    tellable_key hplain htell h.opened.reached h.joined (Dict.mem_keys_iff.mpr ⟨_, h.second.1⟩)⟩

theorem settled_hide {expanded : List String} {rows : List Row} {branch : List String}
    {inside : List Row} (h : Settled layout) (hplain : ∀ row ∈ rows, row.Plain)
    (htell : ∀ row ∈ rows, row.Tellable) (hshows : Shows layout expanded rows branch inside) :
    Settled (hideBranch layout (pathOf branch)) := by
  have hclean : ShowsClean layout expanded rows :=
    showsClean_of_slashless hplain fun row hrow => (htell row hrow).slashless
  refine ⟨h.tidy, fun path value hvalue hsep => ?_⟩
  cases hshows with
  | @branch level above dim buckets key inside hlevel hdim hbuckets hbucket =>
      rw [hiddenAt_hideBranch above
        (hclean _ _ _ (.branch hlevel hdim hbuckets hbucket))] at hvalue
      by_cases hpath : path = pathOf above
      · rw [if_pos hpath, mem_addAll, List.mem_singleton] at hvalue
        rcases hvalue with hvalue | rfl
        · exact h.hidden path value hvalue hsep
        · subst hpath
          obtain ⟨merged, hmerged, rfl⟩ := applyMergesHidden_some hbuckets
          have hkey := (mem_keys_applyHidden.mp (List.mem_map_of_mem hbucket)).1
          have hlevelPlain := hlevel.reached.plain hplain
          rcases (h.tidy _).cases (separate_bucketize hlevelPlain dim) hmerged hkey with
            ⟨hrow, -⟩ | ⟨group, hgroup, hmany, rfl⟩
          · obtain ⟨row, hlevelRow, heq⟩ := mem_keys_bucketize.mp hrow
            have hsepless := (hlevelPlain row hlevelRow).bucketValue dim
            rw [heq] at hsepless
            exact absurd hsep hsepless
          · exact ⟨group, hgroup, fun member hmember => (mem_presentMembers.mp
              ((mem_mergeMembers_present hlevelPlain hmany).mp hmember)).1⟩
      · rw [if_neg hpath] at hvalue
        exact h.hidden path value hvalue hsep

theorem mergesAt_merged_level (ha : Clean a) (hb : Clean b) :
    (mergedLayout layout a b above).mergesAt (pathOf above) =
      mergeInto (layout.mergesAt (pathOf above)) a b := mergesAt_drop ha hb

theorem moveTo_level {old : String} : moveTo a b above old = pathOf above ↔ old = pathOf above :=
  remap_level _ (Nat.le_refl _) old

/-- A merge that moves the groups apart keeps the layout settled. -/
theorem settled_merge (h : Settled layout) (ha : Clean a) (hb : Clean b)
    (hapart : MovesApart layout a b above) : Settled (mergedLayout layout a b above) := by
  refine ⟨fun path => ?_, fun path value hvalue hsep => ?_⟩
  · by_cases hpath : path = pathOf above
    · rw [hpath, mergesAt_merged_level ha hb]
      exact (h.tidy _).mergeInto a b
    · rw [mergesAt_merged ha hb hpath]
      refine ⟨hapart path, fun group hgroup => ?_, fun group hgroup => ?_⟩
      · obtain ⟨old, -, hgroup⟩ := mem_flatten_movedTo.mp hgroup
        exact (h.tidy old).nodup group hgroup
      · obtain ⟨old, -, hgroup⟩ := mem_flatten_movedTo.mp hgroup
        exact (h.tidy old).plain group hgroup
  · obtain ⟨old, hmove, hvalue⟩ := (mem_hiddenAt_merged ha hb).mp hvalue
    obtain ⟨group, hgroup, hmembers⟩ := h.hidden old value hvalue hsep
    by_cases hpath : path = pathOf above
    · rw [hpath, moveTo_level] at hmove
      rw [hmove] at hgroup
      rw [hpath, mergesAt_merged_level ha hb, mergeInto]
      by_cases hkept : group ∈ (foldGroups (unionOf a b) (layout.mergesAt (pathOf above))).2
      · exact ⟨group, List.mem_append_left _ hkept, hmembers⟩
      · -- a group that is folded in is part of the union
        refine ⟨_, List.mem_append_right _ (List.mem_singleton_self _), fun member hmember => ?_⟩
        rw [(h.tidy _).mem_kept, not_and] at hkept
        have hmeets : ∃ shared ∈ group, shared ∈ unionOf a b := by simpa using hkept hgroup
        exact (h.tidy _).mem_union.mpr (.inr ⟨group, hgroup, hmembers member hmember, hmeets⟩)
    · rw [mergesAt_merged ha hb hpath]
      exact ⟨group, mem_flatten_movedTo.mpr ⟨old, hmove, hgroup⟩, hmembers⟩

omit [Collation] in
theorem settled_empty (groupBy : List String) : Settled ⟨groupBy, .empty, .empty, .empty⟩ where
  tidy _ := ⟨List.Pairwise.nil, fun _ h => absurd h List.not_mem_nil,
    fun _ h => absurd h List.not_mem_nil⟩
  hidden _ _ h := absurd h List.not_mem_nil

theorem Arranged.settled (h : Arranged layout) : Settled layout := by
  induction h with
  | empty groupBy => exact settled_empty groupBy
  | regroup _ groupBy ih => exact ⟨ih.tidy, ih.hidden⟩
  | setDim _ branchDim ih => exact ⟨ih.tidy, ih.hidden⟩
  | @reset layout _ _ => exact settled_empty layout.groupBy
  | hide _ hplain htell hshows ih => exact settled_hide ih hplain htell hshows
  | merge _ hplain htell hsiblings hapart ih =>
      obtain ⟨ha, hb⟩ := hsiblings.tellable hplain htell
      exact settled_merge ih ha.clean hb.clean hapart

/-! ## What is found after a merge -/

section

variable {expanded : List String} {rows level : List Row} {dim : String} {merged : Buckets}
  {insideA insideB : List Row}

/-- What is hidden at the level is not the key of the merged branch. -/
theorem merged_key_shown (h : Settled layout) (hplain : ∀ row ∈ rows, row.Plain)
    (hsiblings : Siblings layout expanded rows level above dim merged a b insideA insideB) :
    mergedKey (unionOf a b) ∉ layout.hiddenAt (pathOf above) := by
  have hlevel := hsiblings.opened.reached.plain hplain
  have hkeyA : a ∈ merged.keys := Dict.mem_keys_iff.mpr ⟨_, hsiblings.first.1⟩
  have hkeyB : b ∈ merged.keys := Dict.mem_keys_iff.mpr ⟨_, hsiblings.second.1⟩
  obtain ⟨first, hfirst⟩ := List.exists_mem_of_ne_nil _ (mergeMembers_ne_nil a)
  obtain ⟨second, hsecond⟩ := List.exists_mem_of_ne_nil _ (mergeMembers_ne_nil b)
  have hfirstUnion : first ∈ unionOf a b := mem_unionOf.mpr (.inl hfirst)
  have hsecondUnion : second ∈ unionOf a b := mem_unionOf.mpr (.inr hsecond)
  have hseparate := (separate_bucketize hlevel dim).applyMerges hsiblings.joined
  have hne : first ≠ second := fun heq =>
    hseparate a hkeyA b hkeyB hsiblings.distinct first hfirst (heq ▸ hsecond)
  intro hhidden
  obtain ⟨group, hgroup, hmembers⟩ := h.hidden _ _ hhidden
    (mergeSep_mem_mergedKey (two_le_length hfirstUnion hsecondUnion hne))
  have hmember : ∀ value ∈ unionOf a b, value ∈ group := by
    intro value hvalue
    refine hmembers value ((mem_mergeMembers_merged (List.ne_nil_of_mem hvalue)).mpr
      ⟨value, hvalue, ?_⟩)
    have hsep : mergeSep ∉ value.toList := by
      rcases mem_unionOf.mp hvalue with hin | hin <;> exact not_mem_mergeMembers hin
    rw [mergeMembers_plain hsep]
    exact List.mem_singleton_self value
  have hsame := (h.tidy _).same_bucket hlevel hsiblings.joined hgroup (hmember first hfirstUnion)
    (hmember second hsecondUnion) (member_mem_bucketize hlevel hsiblings.joined hkeyA hfirst)
    (member_mem_bucketize hlevel hsiblings.joined hkeyB hsecond) hkeyA hfirst
  exact hseparate a hkeyA b hkeyB hsiblings.distinct second hsame hsecond

/-- The next rendering shows the merged branch, with the rows of both. -/
theorem shows_merged (h : Settled layout) (hplain : ∀ row ∈ rows, row.Plain) (ha : Clean a)
    (hb : Clean b)
    (hsiblings : Siblings layout expanded rows level above dim merged a b insideA insideB) :
    ∃ inside, Shows (mergedLayout layout a b above) expanded rows
        (mergedKey (unionOf a b) :: above) inside ∧
      ∀ row, row ∈ inside ↔ row ∈ insideA ∨ row ∈ insideB := by
  have hlevel := hsiblings.opened.reached.plain hplain
  obtain ⟨next, inside, hnext, hinside, hrows⟩ := (h.tidy _).merged_bucket hlevel hsiblings.joined
    hsiblings.first.1 hsiblings.second.1 hsiblings.distinct
  refine ⟨inside, ?_, hrows⟩
  have hdim : effectiveDim (mergedLayout layout a b above) above = some dim := by
    rw [mergedLayout, effectiveDim_drop ha hb List.suffix_rfl, hsiblings.grouped]
  have hbuckets : applyMergesHidden (mergedLayout layout a b above) (bucketize level dim)
      (pathOf above) = some (applyHidden next (layout.hiddenAt (pathOf above))) := by
    rw [applyMergesHidden, mergesAt_merged_level ha hb, hnext, Option.map_some, mergedLayout,
      hiddenAt_drop ha hb List.suffix_rfl]
  refine .branch (hsiblings.opened.drop ha hb List.suffix_rfl) hdim hbuckets ?_
  rw [entries_applyHidden, List.mem_filter]
  exact ⟨Dict.get?_eq_some_iff.mp hinside,
    decide_eq_true (merged_key_shown h hplain hsiblings)⟩

/-- Where no group names a value twice, the tree is rendered whatever the rows are. -/
theorem renders_of_nodup (h : ∀ path, ∀ group ∈ layout.mergesAt path, group.Nodup)
    (hplain : ∀ row ∈ rows, row.Plain) : Renders layout expanded rows := by
  intro level trail dim hlevel hdim
  refine NamesOnceBelow.shown ?_ hplain hlevel.reached hdim
  refine namesOnceBelow_of_nodup fun entry hentry group hgroup => ?_
  have hgroups := Dict.get?_eq_some_iff.mpr hentry
  refine h entry.1 group ?_
  rwa [Layout.mergesAt, hgroups, Option.getD_some]

theorem nodup_merged (h : Settled layout) (ha : Clean a) (hb : Clean b) (path : String) :
    ∀ group ∈ (mergedLayout layout a b above).mergesAt path, group.Nodup := by
  intro group hgroup
  by_cases hpath : path = pathOf above
  · rw [hpath, mergesAt_merged_level ha hb] at hgroup
    exact ((h.tidy _).mergeInto a b).nodup group hgroup
  · rw [mergesAt_merged ha hb hpath] at hgroup
    obtain ⟨old, -, hgroup⟩ := mem_flatten_movedTo.mp hgroup
    exact (h.tidy old).nodup group hgroup

/-- What was set at or below one of the two branches is found at or below the new path. -/
structure Found (layout next : Layout) (moved : String → String) (path old rest : String) :
    Prop where
  hidden : ∀ value ∈ layout.hiddenAt (old ++ rest), value ∈ next.hiddenAt (path ++ rest)
  groups : ∀ group ∈ layout.mergesAt (old ++ rest), group ∈ next.mergesAt (path ++ rest)
  /-- Of the dimensions that come to one path the first is kept. -/
  dims : ∀ dim, layout.branchDim.get? (old ++ rest) = some dim →
    dim ∈ layout.branchDim.movedTo moved (path ++ rest) ∧ next.branchDim.get? (path ++ rest) =
      (layout.branchDim.movedTo moved (path ++ rest)).head?

theorem found_merged (ha : Tellable a) (hb : Tellable b) (hab : a ≠ b) {old rest : String}
    (hold : old ∈ [pathOf (a :: above), pathOf (b :: above)]) (hrest : Below rest) :
    Found layout (mergedLayout layout a b above) (moveTo a b above)
      (pathOf (mergedKey (unionOf a b) :: above)) old rest := by
  have hmove : moveTo a b above (old ++ rest) =
      pathOf (mergedKey (unionOf a b) :: above) ++ rest := remap_below ha hb hab hold hrest
  refine ⟨fun value hvalue => ?_, fun group hgroup => ?_, fun dim hdim => ?_⟩
  · exact (mem_hiddenAt_merged ha.clean hb.clean).mpr ⟨_, hmove, hvalue⟩
  · have hne : pathOf (mergedKey (unionOf a b) :: above) ++ rest ≠ pathOf above := by
      intro heq
      have hlonger := length_pathOf_lt (mergedKey (unionOf a b)) above
      rw [← heq, String.toList_append, List.length_append] at hlonger
      omega
    rw [mergesAt_merged ha.clean hb.clean hne]
    exact mem_flatten_movedTo.mpr ⟨_, hmove, hgroup⟩
  · exact ⟨Dict.mem_movedTo.mpr ⟨_, hdim, hmove⟩, branchDim_merged ha.clean hb.clean _⟩

end

/-- What a merge of two siblings leads to: the next rendering shows the merged branch under the
path that was computed, with the rows of both, and what was set at and below the two is found at and
below it. -/
def MergeKeeps (layout : Layout) (expanded : List String) (rows : List Row) (above : List String)
    (a b : String) (insideA insideB : List Row) : Prop :=
  ∃ items inside,
    renderTree (dropOnSibling layout (pathOf (a :: above)) (pathOf (b :: above))) expanded rows =
        some items ∧
      Item.branch (mergedKey (unionOf a b) :: above) inside ∈ items ∧
      pathOf (mergedKey (unionOf a b) :: above) = mergedNodePath (pathOf (a :: above)) a b ∧
      (∀ row, row ∈ inside ↔ row ∈ insideA ∨ row ∈ insideB) ∧
      ∀ old ∈ [pathOf (a :: above), pathOf (b :: above)], ∀ rest, Below rest →
        Found layout (dropOnSibling layout (pathOf (a :: above)) (pathOf (b :: above)))
          (moveTo a b above) (mergedNodePath (pathOf (a :: above)) a b) old rest

/-- In every layout that comes from an empty one by merges that move the groups apart, the groups of
a path have no value in common, and a merge of two siblings keeps what was set below them. -/
theorem merge_runs (layout : Layout) (h : Arranged layout) :
    (∀ path, (layout.mergesAt path).Pairwise List.Disjoint) ∧
      ∀ expanded rows level above dim merged a b insideA insideB,
        (∀ row ∈ rows, row.Plain) → (∀ row ∈ rows, row.Tellable) →
        Siblings layout expanded rows level above dim merged a b insideA insideB →
          MergeKeeps layout expanded rows above a b insideA insideB := by
  refine ⟨fun path => (h.settled.tidy path).disjoint, ?_⟩
  intro expanded rows level above dim merged a b insideA insideB hplain htell hsiblings
  obtain ⟨ha, hb⟩ := hsiblings.tellable hplain htell
  have hrenders : Renders (mergedLayout layout a b above) expanded rows :=
    renders_of_nodup (nodup_merged h.settled ha.clean hb.clean) hplain
  obtain ⟨items, hitems⟩ := renderTree_iff.mpr hrenders
  obtain ⟨inside, hshows, hrows⟩ := shows_merged h.settled hplain ha.clean hb.clean hsiblings
  refine ⟨items, inside, hitems, (branch_mem_renderTree hitems _ _).mpr hshows,
    (mergedNodePath_pathOf above ha.clean).symm, hrows, fun old hold rest hrest => ?_⟩
  rw [mergedNodePath_pathOf above ha.clean]
  exact found_merged ha hb hsiblings.distinct hold hrest

end

/-! ## Merges that bring something together -/

/-- An endpoint of a group and a type. -/
def typedRow (entry : String × String) : Row where
  id := entry.1 ++ entry.2
  cell key :=
    if key = "group_name" then .text entry.1
    else if key = "endpoint_type" then .text entry.2
    else .absent

/-- Endpoints by their group and type, with dimensions of branches. -/
def byType (branchDim : Dict String String) : Layout :=
  ⟨["group_name", "endpoint_type"], branchDim, .empty, .empty⟩

theorem tellable_groupRows {names : List String} (h : ∀ name ∈ names, Tellable (jsTrim name)) :
    ∀ row ∈ names.map groupRow, row.Tellable := by
  rintro row hrow key
  obtain ⟨name, hname, rfl⟩ := List.mem_map.mp hrow
  rw [groupRow_value]
  split
  · exact h name hname
  · decide

theorem merge_runs_sample : @MergeKeeps codeOrder ⟨["group_name"], .empty, .empty, .empty⟩ []
    (["A", "B"].map groupRow) [] "A" "B" [groupRow "A"] [groupRow "B"] := by
  let _ := codeOrder
  refine (merge_runs _ (.empty ["group_name"])).2 [] (["A", "B"].map groupRow)
    (["A", "B"].map groupRow) [] "group_name" (bucketize (["A", "B"].map groupRow) "group_name")
    "A" "B" [groupRow "A"] [groupRow "B"] (plain_groupRows (by decide)) ?_
    ⟨.root, rfl, rfl, ⟨rfl, List.not_mem_nil⟩, ⟨rfl, List.not_mem_nil⟩, by decide⟩
  exact tellable_groupRows (by decide)

/-- Two groups with two types each. -/
def typedRows : List Row := [("A", "x"), ("A", "y"), ("B", "y"), ("B", "z")].map typedRow

/-- The types `x` and `y` merged below `A`. -/
def mergedBelowA [Collation] : Layout :=
  dropOnSibling (byType .empty) (pathOf ["x", "A"]) (pathOf ["y", "A"])

/-- And `y` and `z` below `B`. -/
def mergedBelowB [Collation] : Layout :=
  dropOnSibling mergedBelowA (pathOf ["y", "B"]) (pathOf ["z", "B"])

/-- Two branches that can be merged: both are shown, with some rows, at one level. -/
def Mergeable [Collation] (layout : Layout) (above : List String) (a b : String) : Prop :=
  ∃ expanded rows level dim merged insideA insideB, (∀ row ∈ rows, row.Plain) ∧
    Siblings layout expanded rows level above dim merged a b insideA insideB

theorem plain_typedRows {entries : List (String × String)}
    (h : ∀ entry ∈ entries, mergeSep ∉ (jsTrim entry.1).toList ∧
      mergeSep ∉ (jsTrim entry.2).toList) :
    ∀ row ∈ entries.map typedRow, row.Plain := by
  rintro row hrow key
  obtain ⟨entry, hentry, rfl⟩ := List.mem_map.mp hrow
  by_cases hgroup : key = "group_name"
  · have hcell : (typedRow entry).cell key = .text entry.1 := if_pos hgroup
    rw [valueOf, hcell]
    exact (h entry hentry).1
  · by_cases htype : key = "endpoint_type"
    · have hcell : (typedRow entry).cell key = .text entry.2 :=
        (if_neg hgroup).trans (if_pos htype)
      rw [valueOf, hcell]
      exact (h entry hentry).2
    · have hcell : (typedRow entry).cell key = .absent := (if_neg hgroup).trans (if_neg htype)
      rw [valueOf, hcell]
      exact List.not_mem_nil

theorem mergeable_x_y [Collation] : Mergeable (byType .empty) ["A"] "x" "y" :=
  ⟨[pathOf ["A"]], typedRows, [("A", "x"), ("A", "y")].map typedRow, "endpoint_type", _,
    [typedRow ("A", "x")], [typedRow ("A", "y")], plain_typedRows (by decide),
    { opened := .child .root rfl rfl List.mem_cons_self List.mem_cons_self
      grouped := rfl
      joined := rfl
      first := ⟨rfl, List.not_mem_nil⟩
      second := ⟨rfl, List.not_mem_nil⟩
      distinct := by decide }⟩

theorem mergeable_y_z [Collation] : Mergeable mergedBelowA ["B"] "y" "z" :=
  ⟨[pathOf ["B"]], typedRows, [("B", "y"), ("B", "z")].map typedRow, "endpoint_type", _,
    [typedRow ("B", "y")], [typedRow ("B", "z")], plain_typedRows (by decide),
    { opened := .child .root rfl rfl (List.mem_cons_of_mem _ List.mem_cons_self)
        List.mem_cons_self
      grouped := rfl
      joined := rfl
      first := ⟨rfl, List.not_mem_nil⟩
      second := ⟨rfl, List.not_mem_nil⟩
      distinct := by decide }⟩

theorem mergedBelowB_root [Collation] : mergedBelowB.mergesAt (pathOf []) = [] := by
  rw [mergedBelowB, mergesAt_drop_above (by decide) (by decide) (List.nil_suffix)
    (List.cons_ne_nil _ _).symm, mergedBelowA, mergesAt_drop_above (by decide) (by decide)
    (List.nil_suffix) (List.cons_ne_nil _ _).symm]
  rfl

theorem mergedBelowA_A [Collation] : mergedBelowA.mergesAt (pathOf ["A"]) = [["x", "y"]] := by
  rw [mergedBelowA, mergesAt_drop (by decide) (by decide)]
  rfl

theorem mergedBelowA_B [Collation] : mergedBelowA.mergesAt (pathOf ["B"]) = [] := by
  rw [mergedBelowA, ← mergedLayout, mergesAt_merged (by decide) (by decide) (by decide)]
  rfl

theorem mergedBelowB_A [Collation] : ["x", "y"] ∈ mergedBelowB.mergesAt (pathOf ["A"]) := by
  rw [mergedBelowB, ← mergedLayout, mergesAt_merged (by decide) (by decide) (by decide)]
  refine mem_flatten_movedTo.mpr ⟨pathOf ["A"], (remap_level _ (by decide) _).mpr rfl, ?_⟩
  rw [mergedBelowA_A]
  exact List.mem_cons_self

theorem mergedBelowB_B [Collation] : mergedBelowB.mergesAt (pathOf ["B"]) = [["y", "z"]] := by
  rw [mergedBelowB, mergesAt_drop (by decide) (by decide), mergedBelowA_B]
  rfl

/-- At the first level `A` and `B` are shown as long as no groups are merged there. -/
theorem mergeable_groups [Collation] {layout : Layout} {first second : String}
    (hdim : effectiveDim layout [] = some "group_name") (hmerges : layout.mergesAt "" = [])
    (hhidden : layout.hiddenAt "" = []) (hne : first ≠ second)
    {insideA insideB : List Row} {entries : List (String × String)}
    (hplain : ∀ row ∈ entries.map typedRow, row.Plain)
    (hA : (bucketize (entries.map typedRow) "group_name").get? first = some insideA)
    (hB : (bucketize (entries.map typedRow) "group_name").get? second = some insideB) :
    Mergeable layout [] first second := by
  refine ⟨[], entries.map typedRow, entries.map typedRow, "group_name", _, insideA, insideB,
    hplain, ⟨.root, hdim, ?_, ⟨hA, ?_⟩, ⟨hB, ?_⟩, hne⟩⟩
  · rw [pathOf, hmerges]
    rfl
  · rw [pathOf, hhidden]
    exact List.not_mem_nil
  · rw [pathOf, hhidden]
    exact List.not_mem_nil

theorem mergeable_A_B [Collation] : Mergeable mergedBelowB [] "A" "B" := by
  have hplain : ∀ row ∈ [("A", "x"), ("A", "y"), ("B", "y"), ("B", "z")].map typedRow,
      row.Plain := plain_typedRows (by decide)
  refine mergeable_groups ?_ mergedBelowB_root ?_ (by decide) hplain rfl rfl
  · rw [mergedBelowB, effectiveDim_drop (by decide) (by decide) List.nil_suffix]
    rfl
  · rfl

/-- The groups `x`, `y` and `y`, `z` come together below the merged branch. -/
theorem groups_meet [Collation] :
    ¬ ((dropOnSibling mergedBelowB (pathOf ["A"]) (pathOf ["B"])).mergesAt
      (mergedNodePath (pathOf ["A"]) "A" "B")).Pairwise List.Disjoint := by
  intro hdisjoint
  have htell : Tellable "A" ∧ Tellable "B" := by decide
  have hfound : ∀ old ∈ [pathOf ["A"], pathOf ["B"]], Found mergedBelowB
      (mergedLayout mergedBelowB "A" "B" []) (moveTo "A" "B" [])
      (pathOf [mergedKey (unionOf "A" "B")]) old "" :=
    fun old hold => found_merged htell.1 htell.2 (by decide) hold (.inl rfl)
  have hA : ["x", "y"] ∈ mergedBelowB.mergesAt (pathOf ["A"] ++ "") := mergedBelowB_A
  have hB : ["y", "z"] ∈ mergedBelowB.mergesAt (pathOf ["B"] ++ "") := by
    rw [String.append_empty, mergedBelowB_B]
    exact List.mem_cons_self
  have hfirst := (hfound _ List.mem_cons_self).groups _ hA
  have hsecond := (hfound _ (List.mem_cons_of_mem _ List.mem_cons_self)).groups _ hB
  rw [mergedNodePath_pathOf [] htell.1.clean] at hdisjoint
  rw [String.append_empty] at hfirst hsecond
  have : Std.Symm (@List.Disjoint String) := ⟨fun _ _ => List.Disjoint.symm⟩
  have hapart : List.Disjoint ["x", "y"] ["y", "z"] :=
    hdisjoint.forall hfirst hsecond (by decide)
  exact hapart (List.mem_cons_of_mem _ List.mem_cons_self) List.mem_cons_self

/-- Of the dimensions of `A` and `B` that of `A` stays. -/
theorem dimensions_meet [Collation] :
    (dropOnSibling (byType ((Dict.empty.set (pathOf ["A"]) "vendor").set (pathOf ["B"]) "owner"))
      (pathOf ["A"]) (pathOf ["B"])).branchDim.get? (mergedNodePath (pathOf ["A"]) "A" "B") =
      some "vendor" := by
  have htell : Tellable "A" ∧ Tellable "B" := by decide
  rw [mergedNodePath_pathOf [] htell.1.clean]
  refine (branchDim_merged htell.1.clean htell.2.clean _).trans ?_
  have hmove : ∀ old ∈ [pathOf ["A"], pathOf ["B"]],
      moveTo "A" "B" [] old = pathOf [mergedKey (unionOf "A" "B")] := by
    intro old hold
    have hbelow := @remap_below "A" "B" (pathOf [mergedKey (unionOf "A" "B")]) old "" [] htell.1
      htell.2 (by decide) hold (.inl rfl)
    rwa [String.append_empty, String.append_empty] at hbelow
  have hentries : ((Dict.empty.set (pathOf ["A"]) "vendor").set (pathOf ["B"]) "owner").entries =
      [(pathOf ["A"], "vendor"), (pathOf ["B"], "owner")] := rfl
  simp only [Dict.movedTo, byType, hentries]
  rw [List.filter_cons, if_pos (decide_eq_true (hmove _ List.mem_cons_self))]
  rfl

theorem mergeable_dimensions [Collation] (branchDim : Dict String String)
    (hroot : branchDim.get? "" = none) : Mergeable (byType branchDim) [] "A" "B" := by
  have hplain : ∀ row ∈ [("A", "x"), ("B", "y")].map typedRow, row.Plain :=
    plain_typedRows (by decide)
  refine mergeable_groups ?_ rfl rfl (by decide) hplain rfl rfl
  rw [effectiveDim, pathOf]
  simp only [byType, hroot]
  rfl

theorem mergeable_slashes [Collation] : Mergeable (byType .empty) [] "x//y" "x//z" := by
  have hplain : ∀ row ∈ [("x//y", "t"), ("x//z", "t")].map typedRow, row.Plain :=
    plain_typedRows (by decide)
  exact mergeable_groups rfl rfl rfl (by decide) hplain rfl rfl

/-- From an empty layout: two merges below `A` and `B` and one of these two bring groups with a
common value together; of the dimensions of `A` and `B` one is lost; and a merge of two values with
slashes merges nothing at their level. -/
theorem merge_runs_fails : (∀ row ∈ typedRows, row.Plain) ∧ ∀ _ : Collation,
    (Mergeable (byType .empty) ["A"] "x" "y" ∧ Mergeable mergedBelowA ["B"] "y" "z" ∧
      Mergeable mergedBelowB [] "A" "B" ∧
      ¬ ((dropOnSibling mergedBelowB (pathOf ["A"]) (pathOf ["B"])).mergesAt
        (mergedNodePath (pathOf ["A"]) "A" "B")).Pairwise List.Disjoint) ∧
    (Mergeable (byType ((Dict.empty.set (pathOf ["A"]) "vendor").set (pathOf ["B"]) "owner")) []
        "A" "B" ∧
      (dropOnSibling (byType ((Dict.empty.set (pathOf ["A"]) "vendor").set (pathOf ["B"]) "owner"))
        (pathOf ["A"]) (pathOf ["B"])).branchDim.get? (mergedNodePath (pathOf ["A"]) "A" "B") =
        some "vendor") ∧
    (Mergeable (byType .empty) [] "x//y" "x//z" ∧
      (dropOnSibling (byType .empty) (pathOf ["x//y"]) (pathOf ["x//z"])).mergesAt "" = []) := by
  refine ⟨plain_typedRows (by decide), fun _ => ?_⟩
  exact ⟨⟨mergeable_x_y, mergeable_y_z, mergeable_A_B, groups_meet⟩,
    ⟨mergeable_dimensions _ rfl, dimensions_meet⟩, mergeable_slashes, rfl⟩

end IsePortal.Tree
