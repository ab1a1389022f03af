import IsePortal.Frontend.TreeHide

/-!
# The hidden branches

A hidden branch is a bucket of a level that the tree reaches, under a key the layout hides there.
A row is in one place of the tree, so a level that has a row of a hidden branch is at that branch's
level or above it. Hiding a branch whose path tells it conceals the rows of that branch and no
others.
-/

namespace IsePortal.Tree

open Library

section

variable [Collation] {layout : Layout} {rows : List Row}

/-- The branches that are hidden, with their rows. -/
inductive Hides (layout : Layout) (rows : List Row) : List String → List Row → Prop
  | branch {level trail dim merged key inside} (hlevel : Reached layout rows level trail)
      (hdim : effectiveDim layout trail = some dim)
      (hmerged : applyMerges (bucketize level dim) (layout.mergesAt (pathOf trail)) = some merged)
      (hbucket : (key, inside) ∈ merged.entries) (hhidden : key ∈ layout.hiddenAt (pathOf trail)) :
      Hides layout rows (key :: trail) inside

/-- The row lies in a hidden branch, at whatever level. -/
def Concealed (layout : Layout) (rows : List Row) (row : Row) : Prop :=
  ∃ branch inside, Hides layout rows branch inside ∧ row ∈ inside

/-! ## One place for each row -/

omit [Collation] in
theorem nodup_of_subperm {some all : List Row} (h : some.Subperm all) (hall : all.Nodup) :
    some.Nodup := by
  obtain ⟨kept, hperm, hsub⟩ := h
  exact hperm.nodup_iff.mp (hall.sublist hsub)

/-- A trail leads to one level. -/
theorem Reached.unique {level other : List Row} {trail : List String}
    (h : Reached layout rows level trail) (hother : Reached layout rows other trail) :
    level = other := by
  induction h generalizing other with
  | root =>
      cases hother
      rfl
  | child _ hdim hbuckets hbucket ih =>
      cases hother with
      | child hlevel hdim' hbuckets' hbucket' =>
          cases ih hlevel
          rw [hdim, Option.some.injEq] at hdim'
          subst hdim'
          rw [hbuckets, Option.some.injEq] at hbuckets'
          subst hbuckets'
          exact Option.some.inj
            ((Dict.get?_eq_some_iff.mpr hbucket).symm.trans (Dict.get?_eq_some_iff.mpr hbucket'))

/-- Above a level there are those of the shorter trails. -/
theorem Reached.above {level : List Row} {below trail : List String}
    (h : Reached layout rows level (below ++ trail)) :
    ∃ middle, Reached layout rows middle trail ∧ ∀ row ∈ level, row ∈ middle := by
  induction below generalizing level with
  | nil => exact ⟨level, h, fun _ hrow => hrow⟩
  | cons key below ih =>
      cases h with
      | @child outer _ _ _ _ _ hlevel hdim hbuckets hbucket =>
          obtain ⟨middle, hmiddle, hsub⟩ := ih hlevel
          refine ⟨middle, hmiddle, fun row hrow => hsub row ?_⟩
          obtain ⟨merged, hmerged, rfl⟩ := applyMergesHidden_some hbuckets
          rw [entries_applyHidden] at hbucket
          exact (merged_subperm hmerged).subset
            ((Dict.sublist_contents (List.mem_of_mem_filter hbucket)).subset hrow)

/-- Two branches of a level have no row in common. -/
theorem key_of_merged (hnodup : rows.Nodup) {level : List Row} {trail : List String} {dim : String}
    {merged : Buckets} (hlevel : Reached layout rows level trail)
    (hmerged : applyMerges (bucketize level dim) (layout.mergesAt (pathOf trail)) = some merged)
    {first second : String} {inside other : List Row} (hfirst : (first, inside) ∈ merged.entries)
    (hsecond : (second, other) ∈ merged.entries) {row : Row} (hinside : row ∈ inside)
    (hother : row ∈ other) : first = second :=
  Dict.key_of_nodup (nodup_of_subperm (merged_subperm hmerged)
    (nodup_of_subperm hlevel.subperm hnodup)) hfirst hsecond hinside hother

/-- A level that has a row of a hidden branch is the level of that branch or above it. -/
theorem suffix_of_hides (hnodup : rows.Nodup) {level inside : List Row} {trail above : List String}
    {key : String} {row : Row} (hlevel : Reached layout rows level trail) (hrow : row ∈ level)
    (hhides : Hides layout rows (key :: above) inside) (hinside : row ∈ inside) :
    trail <:+ above := by
  obtain @⟨outer, _, dim, merged, _, _, houter, hdim, hmerged, hbucket, hhidden⟩ := hhides
  have hmem : row ∈ outer := (merged_subperm hmerged).subset
    ((Dict.sublist_contents hbucket).subset hinside)
  induction hlevel with
  | root => exact List.nil_suffix
  | @child level trail dim' shown first bucket hlevel hdim' hshown hfirst ih =>
      obtain ⟨merged', hmerged', rfl⟩ := applyMergesHidden_some hshown
      rw [entries_applyHidden, List.mem_filter, decide_eq_true_iff] at hfirst
      have hin : row ∈ level := (merged_subperm hmerged').subset
        ((Dict.sublist_contents hfirst.1).subset hrow)
      obtain ⟨below, rfl⟩ := ih hin
      rcases below.eq_nil_or_concat with rfl | ⟨rest, second, rfl⟩
      · -- at one level the row is in one bucket, which is shown or hidden
        rw [List.nil_append] at houter hdim hmerged hhidden
        cases hlevel.unique houter
        rw [hdim, Option.some.injEq] at hdim'
        subst hdim'
        rw [hmerged, Option.some.injEq] at hmerged'
        subst hmerged'
        cases key_of_merged hnodup houter hmerged hfirst.1 hbucket hrow hinside
        exact absurd hhidden hfirst.2
      · -- further down the row is below one bucket of the level
        rw [List.concat_eq_append, List.append_assoc, List.singleton_append] at houter ⊢
        obtain ⟨middle, hmiddle, hsub⟩ := houter.above
        cases hmiddle with
        | @child level' _ dim'' shown' _ _ hlevel' hdim'' hshown' hsecond =>
            cases hlevel.unique hlevel'
            obtain ⟨merged'', hmerged'', rfl⟩ := applyMergesHidden_some hshown'
            rw [entries_applyHidden, List.mem_filter] at hsecond
            rw [hdim', Option.some.injEq] at hdim''
            subst hdim''
            rw [hmerged', Option.some.injEq] at hmerged''
            subst hmerged''
            cases key_of_merged hnodup hlevel hmerged' hfirst.1 hsecond.1 hrow (hsub row hmem)
            exact List.suffix_append _ _

/-- A row of a table lies in no hidden branch. -/
theorem not_concealed_of_leaf (hnodup : rows.Nodup) {level : List Row} {trail : List String}
    {row : Row} (hlevel : Reached layout rows level trail)
    (hdim : effectiveDim layout trail = none) (hrow : row ∈ level) :
    ¬ Concealed layout rows row := by
  rintro ⟨_, _, ⟨houter, hgrouped, hmerged, hbucket, hhidden⟩, hinside⟩
  obtain ⟨below, rfl⟩ := suffix_of_hides hnodup hlevel hrow
    (.branch houter hgrouped hmerged hbucket hhidden) hinside
  rcases below.eq_nil_or_concat with rfl | ⟨rest, key, rfl⟩
  · rw [List.nil_append, hdim] at hgrouped
    cases hgrouped
  · rw [List.concat_eq_append, List.append_assoc, List.singleton_append] at houter
    obtain ⟨_, hmiddle, -⟩ := houter.above
    cases hmiddle with
    | child _ hother _ _ =>
        rw [hdim] at hother
        cases hother

/-- No hidden branch lies below the branch. -/
def HidesNothingBelow (layout : Layout) (rows : List Row) (branch : List String) : Prop :=
  ∀ other inside, Hides layout rows other inside → ¬ branch <:+ other

/-- Then all rows of the branch are shown under it. -/
theorem HidesNothingBelow.not_concealed {branch : List String}
    (h : HidesNothingBelow layout rows branch) (hnodup : rows.Nodup) {inside : List Row}
    (hbranch : Reached layout rows inside branch) {row : Row} (hrow : row ∈ inside) :
    ¬ Concealed layout rows row := by
  rintro ⟨_, hidden, @⟨_, above, _, _, key, _, houter, hdim, hmerged, hbucket, hhidden⟩, hinside⟩
  have hhides : Hides layout rows (key :: above) hidden :=
    .branch houter hdim hmerged hbucket hhidden
  exact h _ _ hhides ((suffix_of_hides hnodup hbranch hrow hhides hinside).trans
    (List.suffix_cons key above))

/-! ## Hiding a branch -/

/-- The path is of this branch alone, and is taken apart into its level and its key. -/
structure Tells (layout : Layout) (rows : List Row) (path key : String) (above : List String) :
    Prop where
  spells : path = pathOf (key :: above)
  clean : Clean key
  level : ∀ level trail, Reached layout rows level trail → pathOf trail = pathOf above →
    trail = above
  branch : ∀ inside trail, Reached layout rows inside trail → pathOf trail = path →
    trail = key :: above

/-- Where no key has `//`, the path of a branch tells it. -/
theorem tells_of_clean (hclean : ∀ level trail, Reached layout rows level trail →
    ∀ key ∈ trail, Clean key) {key : String} {above : List String} {inside : List Row}
    (hbranch : Reached layout rows inside (key :: above)) :
    Tells layout rows (pathOf (key :: above)) key above where
  spells := rfl
  clean := hclean _ _ hbranch key List.mem_cons_self
  level := fun level trail hlevel hpath => pathOf_injective (hclean level trail hlevel)
    (fun other hother => hclean _ _ hbranch other (List.mem_cons_of_mem key hother)) hpath
  branch := fun other trail hother hpath =>
    pathOf_injective (hclean other trail hother) (hclean _ _ hbranch) hpath

theorem Reached.of_hide {path : String} {level : List Row} {trail : List String}
    (h : Reached (hideBranch layout path) rows level trail) : Reached layout rows level trail := by
  induction h with
  | root => exact .root
  | @child level trail dim buckets key inside _ hdim hbuckets hbucket ih =>
      obtain ⟨merged, hmerged, rfl⟩ := applyMergesHidden_some hbuckets
      rw [entries_applyHidden, List.mem_filter, decide_eq_true_iff] at hbucket
      refine .child ih hdim (congrArg (Option.map _) hmerged) ?_
      rw [entries_applyHidden, List.mem_filter, decide_eq_true_iff]
      refine ⟨hbucket.1, fun hhidden => hbucket.2 ?_⟩
      rw [Layout.hiddenAt, hideBranch, Dict.get?_set]
      split
      · case isTrue hpath => exact mem_addAll.mpr (.inl (hpath ▸ hhidden))
      · exact hhidden

/-- The rows of a branch are those of its bucket, before what is hidden is taken out. -/
theorem Reached.bucket {level inside bucket : List Row} {key dim : String} {above : List String}
    {merged : Buckets} (h : Reached layout rows inside (key :: above))
    (hlevel : Reached layout rows level above) (hdim : effectiveDim layout above = some dim)
    (hmerged : applyMerges (bucketize level dim) (layout.mergesAt (pathOf above)) = some merged)
    (hbucket : (key, bucket) ∈ merged.entries) : bucket = inside := by
  cases h with
  | child hlevel' hdim' hshown hinside =>
      cases hlevel.unique hlevel'
      obtain ⟨merged', hmerged', rfl⟩ := applyMergesHidden_some hshown
      rw [entries_applyHidden, List.mem_filter] at hinside
      rw [hdim, Option.some.injEq] at hdim'
      subst hdim'
      rw [hmerged, Option.some.injEq] at hmerged'
      subst hmerged'
      exact Option.some.inj
        ((Dict.get?_eq_some_iff.mpr hbucket).symm.trans (Dict.get?_eq_some_iff.mpr hinside.1))

/-- Hiding a branch that its path tells conceals its rows and no others. -/
theorem Tells.concealed {path key : String} {above : List String}
    (htells : Tells layout rows path key above) {inside : List Row}
    (hbranch : Reached layout rows inside (key :: above)) {row : Row}
    (h : Concealed (hideBranch layout path) rows row) :
    Concealed layout rows row ∨ row ∈ inside := by
  obtain ⟨_, bucket, @⟨level, trail, dim, merged, other, _, hlevel, hdim, hmerged, hbucket,
    hhidden⟩, hrow⟩ := h
  have hreached := hlevel.of_hide
  rw [htells.spells, hiddenAt_hideBranch above htells.clean] at hhidden
  split at hhidden
  · case isTrue hpath =>
      rcases mem_addAll.mp hhidden with hold | hnew
      · exact .inl ⟨_, bucket, .branch hreached hdim hmerged hbucket hold, hrow⟩
      · cases htells.level level trail hreached hpath
        rw [List.mem_singleton.mp hnew] at hbucket
        cases hbranch.bucket hreached hdim hmerged hbucket
        exact .inr hrow
  · exact .inl ⟨_, bucket, .branch hreached hdim hmerged hbucket hhidden, hrow⟩

end

end IsePortal.Tree
