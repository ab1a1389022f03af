import IsePortal.Frontend.TreeBranches
import IsePortal.Library.Rekeying

/-!
# Merging two branches of the tree

A branch that is dropped on a sibling is merged with it: the groups of their level that have a
value of theirs are folded into one group, and what was set at and below their paths is moved to
the path of the merged branch.
-/

namespace IsePortal.Tree

open Library

/-! ## Sets of values -/

/-- `Set.prototype.add` for each of the values. -/
def addAll (set values : List String) : List String :=
  values.foldl (fun set value => if value ∈ set then set else set ++ [value]) set

theorem mem_addAll {values set : List String} {value : String} :
    value ∈ addAll set values ↔ value ∈ set ∨ value ∈ values := by
  induction values generalizing set with
  | nil => simp [addAll]
  | cons first rest ih =>
      rw [addAll, List.foldl_cons, ← addAll, ih, List.mem_cons]
      by_cases hfirst : first ∈ set
      · rw [if_pos hfirst]
        constructor
        · rintro (h | h)
          · exact .inl h
          · exact .inr (.inr h)
        · rintro (h | rfl | h)
          · exact .inl h
          · exact .inl hfirst
          · exact .inr h
      · rw [if_neg hfirst, List.mem_append, List.mem_singleton, or_assoc]

theorem nodup_addAll {values set : List String} (h : set.Nodup) : (addAll set values).Nodup := by
  induction values generalizing set with
  | nil => exact h
  | cons first rest ih =>
      rw [addAll, List.foldl_cons, ← addAll]
      refine ih ?_
      by_cases hfirst : first ∈ set
      · rwa [if_pos hfirst]
      · rw [if_neg hfirst]
        rw [← List.concat_eq_append]
        exact h.concat hfirst

theorem prefix_addAll (values set : List String) : set <+: addAll set values := by
  induction values generalizing set with
  | nil => exact List.prefix_rfl
  | cons first rest ih =>
      rw [addAll, List.foldl_cons, ← addAll]
      refine List.IsPrefix.trans ?_ (ih _)
      by_cases hfirst : first ∈ set
      · rw [if_pos hfirst]
      · rw [if_neg hfirst]
        exact List.prefix_append _ _

/-- `new Set([...mergeMembers(a), ...mergeMembers(b)])` -/
def unionOf (a b : String) : List String := addAll [] (mergeMembers a ++ mergeMembers b)

theorem mem_unionOf {a b value : String} :
    value ∈ unionOf a b ↔ value ∈ mergeMembers a ∨ value ∈ mergeMembers b := by
  rw [unionOf, mem_addAll, List.mem_append]
  exact or_iff_right List.not_mem_nil

/-! ## Merging values -/

/-- The loop of `mergeValues`: the union grows by each group that has a value of it, the other
groups are kept. -/
def foldGroups : List String → List (List String) → List String × List (List String)
  | union, [] => (union, [])
  | union, group :: rest =>
      if ∃ value ∈ group, value ∈ union then foldGroups (addAll union group) rest
      else ((foldGroups union rest).1, group :: (foldGroups union rest).2)

/-- The groups of the level after `mergeValues`. -/
def mergeInto (groups : List (List String)) (a b : String) : List (List String) :=
  (foldGroups (unionOf a b) groups).2 ++ [(foldGroups (unionOf a b) groups).1]

/-- `mergeValues` -/
def mergeValues (layout : Layout) (parent a b : String) : Layout :=
  { layout with merges := layout.merges.set parent (mergeInto (layout.mergesAt parent) a b) }

/-! ## Moving what was set -/

/-- `depthPrefix`: up to the first colon of the last segment. -/
def depthPrefix (path : String) : List Char :=
  if ':' ∈ lastSegment path then (lastSegment path).takeWhile (· ≠ ':') ++ [':'] else []

/-- `remap`: a path at or below one of the old paths is moved to the new one. -/
def remap (newPath : String) : List String → String → String
  | [], path => path
  | oldPath :: rest, path =>
      if path = oldPath then newPath
      else if oldPath.toList ++ ['/', '/'] <+: path.toList then
        newPath ++ String.ofList (path.toList.drop oldPath.toList.length)
      else remap newPath rest path

/-- `remapCustomizationKeys`: of two dimensions that come together the first is kept, hidden values
are united and groups are put one after the other. -/
def remapCustomizationKeys (layout : Layout) (oldPaths : List String) (newPath : String) :
    Layout where
  groupBy := layout.groupBy
  branchDim := layout.branchDim.rekey (remap newPath oldPaths) fun existing _ => existing
  hidden := layout.hidden.rekey (remap newPath oldPaths) fun x y => addAll [] (x ++ y)
  merges := layout.merges.rekey (remap newPath oldPaths) (· ++ ·)

section

variable [Collation]

/-- `mergedNodePath` -/
def mergedNodePath (path a b : String) : String :=
  parentOf path ++ "//" ++ String.ofList (depthPrefix path) ++ mergedKey (unionOf a b)

/-- A branch dropped on a sibling. -/
def dropOnSibling (layout : Layout) (dragPath sibPath : String) : Layout :=
  mergeValues
    (remapCustomizationKeys layout [dragPath, sibPath]
      (mergedNodePath dragPath (valueOfPath dragPath) (valueOfPath sibPath)))
    (parentOf dragPath) (valueOfPath dragPath) (valueOfPath sibPath)

end

/-! ## The groups that are kept -/

theorem subset_foldGroups {union : List String} {groups : List (List String)} {value : String}
    (h : value ∈ union) : value ∈ (foldGroups union groups).1 := by
  induction groups generalizing union with
  | nil => exact h
  | cons group rest ih =>
      rw [foldGroups]
      split
      · exact ih (mem_addAll.mpr (.inl h))
      · exact ih h

theorem nodup_foldGroups {union : List String} {groups : List (List String)} (h : union.Nodup) :
    (foldGroups union groups).1.Nodup := by
  induction groups generalizing union with
  | nil => exact h
  | cons group rest ih =>
      rw [foldGroups]
      split
      · exact ih (nodup_addAll h)
      · exact ih h

/-- A group that is kept has none of the values the union began with. -/
theorem not_mem_of_kept {union : List String} {groups : List (List String)} {group : List String}
    {value : String} (hgroup : group ∈ (foldGroups union groups).2) (hvalue : value ∈ union) :
    value ∉ group := by
  induction groups generalizing union with
  | nil => cases hgroup
  | cons first rest ih =>
      rw [foldGroups] at hgroup
      split at hgroup
      · exact ih hgroup (mem_addAll.mpr (.inl hvalue))
      · case isFalse hapart =>
          rcases List.mem_cons.mp hgroup with rfl | hrest
          · exact fun hmem => hapart ⟨value, hmem, hvalue⟩
          · exact ih hrest hvalue

theorem nodup_unionOf (a b : String) : (unionOf a b).Nodup := nodup_addAll List.nodup_nil

/-! ## What groups leave alone -/

section

variable [Collation]

theorem applyMerges_append {buckets : Buckets} {earlier later : List (List String)} :
    applyMerges buckets (earlier ++ later) =
      (applyMerges buckets earlier).bind fun merged => applyMerges merged later :=
  List.foldlM_append

theorem applyMerges_singleton {buckets : Buckets} {group : List String} :
    applyMerges buckets [group] = mergeGroup buckets group := by
  rw [applyMerges_cons]
  cases mergeGroup buckets group <;> rfl

/-- A merged key is none of the keys there were. -/
theorem mergedKey_fresh {buckets : Buckets} {present : List String} (hseparate : Separate buckets)
    (hnodup : present.Nodup) (hmany : 2 ≤ present.length)
    (hpresent : ∀ key ∈ present, key ∈ buckets.keys) : mergedKey present ∉ buckets.keys := by
  intro hmem
  have hne : present ≠ [] := List.ne_nil_of_length_pos (by omega)
  obtain ⟨other, hother, hdiff⟩ : ∃ other ∈ present, other ≠ mergedKey present := by
    rcases present with _ | ⟨first, _ | ⟨second, rest⟩⟩
    · exact absurd hmany (by simp)
    · exact absurd hmany (by simp)
    · by_cases hfirst : first = mergedKey (first :: second :: rest)
      · refine ⟨second, by simp, fun hsecond => ?_⟩
        exact (List.nodup_cons.mp hnodup).1 (by rw [hfirst, ← hsecond]; exact List.mem_cons_self)
      · exact ⟨first, List.mem_cons_self, hfirst⟩
  obtain ⟨member, hmember⟩ := List.exists_mem_of_ne_nil _ (mergeMembers_ne_nil other)
  exact hseparate other (hpresent other hother) _ hmem hdiff member hmember
    ((mem_mergeMembers_merged hne).mpr ⟨other, hother, hmember⟩)

theorem nodup_of_mergeGroup {buckets merged : Buckets} {members : List String}
    (h : mergeGroup buckets members = some merged) : (presentMembers buckets members).Nodup := by
  by_contra hrepeated
  rw [mergeGroup_repeated hrepeated] at h
  cases h

/-- The buckets after a group: the merged one and those the group does not name, or all. -/
theorem mergeGroup_get? {buckets merged : Buckets} {members : List String}
    (hseparate : Separate buckets) (h : mergeGroup buckets members = some merged) (key : String) :
    merged.get? key =
      if 2 ≤ (presentMembers buckets members).length then
        if key = mergedKey (presentMembers buckets members) then
          some (memberRows buckets (presentMembers buckets members))
        else if key ∈ presentMembers buckets members then none else buckets.get? key
      else buckets.get? key := by
  by_cases hmany : 2 ≤ (presentMembers buckets members).length
  · obtain ⟨rest, hmerged, -, -, hkeys⟩ :=
      mergeGroup_joins hseparate (nodup_of_mergeGroup h) hmany
    rw [h, Option.some.injEq] at hmerged
    rw [if_pos hmany, hmerged, Dict.get?_set, hkeys]
  · rw [mergeGroup_few (by omega), Option.some.injEq] at h
    rw [if_neg hmany, h]

theorem Separate.mergeGroup {buckets merged : Buckets} {members : List String}
    (hseparate : Separate buckets) (h : mergeGroup buckets members = some merged) :
    Separate merged := by
  obtain ⟨_, hother, hmerged, -⟩ := mergeGroup_spec hseparate (nodup_of_mergeGroup h)
  rw [h, Option.some.injEq] at hother
  exact hother ▸ hmerged

/-- A bucket that the group does not name, or names alone, is as before. -/
theorem mergeGroup_get?_apart {buckets merged : Buckets} {members : List String} {key : String}
    (hseparate : Separate buckets) (h : mergeGroup buckets members = some merged)
    (hkey : key ∈ buckets.keys)
    (hapart : 2 ≤ (presentMembers buckets members).length → key ∉ members) :
    merged.get? key = buckets.get? key := by
  rw [mergeGroup_get? hseparate h]
  by_cases hmany : 2 ≤ (presentMembers buckets members).length
  · have hfresh := mergedKey_fresh hseparate (nodup_of_mergeGroup h) hmany
      fun _ hpresent => (mem_presentMembers.mp hpresent).2
    have hne : key ≠ mergedKey (presentMembers buckets members) := fun heq => hfresh (heq ▸ hkey)
    have hout : key ∉ presentMembers buckets members :=
      fun hpresent => hapart hmany (mem_presentMembers.mp hpresent).1
    rw [if_pos hmany, if_neg hne, if_neg hout]
  · rw [if_neg hmany]

theorem Separate.applyMerges {groups : List (List String)} {buckets merged : Buckets}
    (hseparate : Separate buckets) (h : applyMerges buckets groups = some merged) :
    Separate merged := by
  obtain ⟨_, hother, hmerged, -⟩ := applyMerges_spec hseparate (namesOnce_of_applyMerges h)
  rw [h, Option.some.injEq] at hother
  exact hother ▸ hmerged

/-- A bucket that no group names is as before. -/
theorem applyMerges_get?_apart {groups : List (List String)} {buckets merged : Buckets}
    {key : String} (hseparate : Separate buckets) (h : applyMerges buckets groups = some merged)
    (hkey : key ∈ buckets.keys) (hapart : ∀ group ∈ groups, key ∉ group) :
    merged.get? key = buckets.get? key := by
  induction groups generalizing buckets with
  | nil =>
      cases h
      rfl
  | cons group rest ih =>
      rw [applyMerges_cons] at h
      obtain ⟨next, hnext, hrest⟩ := Option.bind_eq_some_iff.mp h
      have hstep := mergeGroup_get?_apart hseparate hnext hkey
        fun _ => hapart group List.mem_cons_self
      have hmem : key ∈ next.keys := by
        rw [Dict.mem_keys_iff, hstep]
        exact Dict.mem_keys_iff.mp hkey
      rw [ih (hseparate.mergeGroup hnext) hrest hmem
        fun other hother => hapart other (List.mem_cons_of_mem _ hother), hstep]

/-- The members of the keys are those of the keys there were. -/
theorem members_of_mergeGroup {buckets merged : Buckets} {members : List String} {key : String}
    (hseparate : Separate buckets) (h : mergeGroup buckets members = some merged)
    (hkey : key ∈ merged.keys) :
    ∀ member ∈ mergeMembers key, ∃ old ∈ buckets.keys, member ∈ mergeMembers old := by
  intro member hmember
  obtain ⟨inside, hinside⟩ := Dict.mem_keys_iff.mp hkey
  rw [mergeGroup_get? hseparate h] at hinside
  split at hinside
  · case isTrue hmany =>
      split at hinside
      · case isTrue heq =>
          rw [heq, mem_mergeMembers_merged (List.ne_nil_of_length_pos (by omega))] at hmember
          obtain ⟨old, hold, hpart⟩ := hmember
          exact ⟨old, (mem_presentMembers.mp hold).2, hpart⟩
      · split at hinside
        · cases hinside
        · exact ⟨key, Dict.mem_keys_iff.mpr ⟨inside, hinside⟩, hmember⟩
  · exact ⟨key, Dict.mem_keys_iff.mpr ⟨inside, hinside⟩, hmember⟩

theorem members_of_applyMerges {groups : List (List String)} {buckets merged : Buckets}
    {key : String} (hseparate : Separate buckets) (h : applyMerges buckets groups = some merged)
    (hkey : key ∈ merged.keys) :
    ∀ member ∈ mergeMembers key, ∃ old ∈ buckets.keys, member ∈ mergeMembers old := by
  induction groups generalizing buckets with
  | nil =>
      cases h
      exact fun member hmember => ⟨key, hkey, hmember⟩
  | cons group rest ih =>
      rw [applyMerges_cons] at h
      obtain ⟨next, hnext, hrest⟩ := Option.bind_eq_some_iff.mp h
      intro member hmember
      obtain ⟨old, hold, hpart⟩ := ih (hseparate.mergeGroup hnext) hrest member hmember
      exact members_of_mergeGroup hseparate hnext hold member hpart

/-- The values of a bucket of a level are values of its rows, with buckets at the start. -/
theorem member_mem_bucketize {level : List Row} {dim key member : String}
    {groups : List (List String)} {merged : Buckets} (hplain : ∀ row ∈ level, row.Plain)
    (h : applyMerges (bucketize level dim) groups = some merged) (hkey : key ∈ merged.keys)
    (hmember : member ∈ mergeMembers key) : member ∈ (bucketize level dim).keys := by
  obtain ⟨old, hold, hpart⟩ :=
    members_of_applyMerges (separate_bucketize hplain dim) h hkey member hmember
  rw [mergeMembers_bucketize hplain hold, List.mem_singleton] at hpart
  exact hpart ▸ hold

/-- When the turn of the union comes, the values of the two buckets have still buckets of their
own. -/
theorem member_mem_present {level : List Row} {dim a b key member : String}
    {groups : List (List String)} {merged kept : Buckets} (hplain : ∀ row ∈ level, row.Plain)
    (h : applyMerges (bucketize level dim) groups = some merged)
    (hkept : applyMerges (bucketize level dim) (foldGroups (unionOf a b) groups).2 = some kept)
    (hkey : key ∈ merged.keys) (hmember : member ∈ mergeMembers key)
    (hunion : member ∈ unionOf a b) :
    member ∈ presentMembers kept (foldGroups (unionOf a b) groups).1 := by
  have hstart := member_mem_bucketize hplain h hkey hmember
  have hsame := applyMerges_get?_apart (separate_bucketize hplain dim) hkept hstart
    fun group hgroup => not_mem_of_kept hgroup hunion
  refine mem_presentMembers.mpr ⟨subset_foldGroups hunion, ?_⟩
  rw [Dict.mem_keys_iff, hsame]
  exact Dict.mem_keys_iff.mp hstart

omit [Collation] in
theorem two_le_length {values : List String} {first second : String} (hfirst : first ∈ values)
    (hsecond : second ∈ values) (hne : first ≠ second) : 2 ≤ values.length := by
  have hsub : [first, second] ⊆ values := List.cons_subset.mpr
    ⟨hfirst, List.cons_subset.mpr ⟨hsecond, List.nil_subset _⟩⟩
  exact (List.subperm_of_subset (by simpa using hne) hsub).length_le

/-- The groups of the level after a merge: another bucket stays as it is if and only if the groups
that are kept make it and the union does not name it. -/
theorem applyMerges_mergeInto_iff {level : List Row} {dim a b value : String}
    {groups : List (List String)} {merged : Buckets} {inside : List Row}
    (hplain : ∀ row ∈ level, row.Plain)
    (h : applyMerges (bucketize level dim) groups = some merged) (ha : a ∈ merged.keys)
    (hb : b ∈ merged.keys) (hvalue : value ∈ merged.keys) (hab : a ≠ b) (hav : a ≠ value) :
    (∃ next, applyMerges (bucketize level dim) (mergeInto groups a b) = some next ∧
        next.get? value = some inside) ↔
      ∃ kept, applyMerges (bucketize level dim) (foldGroups (unionOf a b) groups).2 = some kept ∧
        kept.get? value = some inside ∧ value ∉ (foldGroups (unionOf a b) groups).1 := by
  have hseparate := (separate_bucketize hplain dim).applyMerges h
  rw [mergeInto, applyMerges_append]
  cases hkept : applyMerges (bucketize level dim) (foldGroups (unionOf a b) groups).2 with
  | none => simp
  | some kept =>
      have hseparateKept := (separate_bucketize hplain dim).applyMerges hkept
      obtain ⟨first, hfirst⟩ := List.exists_mem_of_ne_nil _ (mergeMembers_ne_nil a)
      obtain ⟨second, hsecond⟩ := List.exists_mem_of_ne_nil _ (mergeMembers_ne_nil b)
      have hfirstPresent :=
        member_mem_present hplain h hkept ha hfirst (mem_unionOf.mpr (.inl hfirst))
      have hsecondPresent :=
        member_mem_present hplain h hkept hb hsecond (mem_unionOf.mpr (.inr hsecond))
      have hmany := two_le_length hfirstPresent hsecondPresent fun heq =>
        hseparate a ha b hb hab first hfirst (heq ▸ hsecond)
      -- the merged key has the values of the first branch
      have hne : value ≠ mergedKey (presentMembers kept (foldGroups (unionOf a b) groups).1) := by
        intro heq
        refine hseparate a ha value hvalue hav first hfirst ?_
        rw [heq, mem_mergeMembers_merged (List.ne_nil_of_mem hfirstPresent)]
        refine ⟨first, hfirstPresent, ?_⟩
        rw [mergeMembers_bucketize hplain (member_mem_bucketize hplain h ha hfirst)]
        exact List.mem_singleton_self first
      obtain ⟨next, hnext, -⟩ := mergeGroup_spec hseparateKept
        ((nodup_foldGroups (nodup_unionOf a b)).filter _ :
          (presentMembers kept (foldGroups (unionOf a b) groups).1).Nodup)
      simp only [Option.bind_some, applyMerges_singleton, hnext, Option.some.injEq,
        exists_eq_left', mergeGroup_get? hseparateKept hnext, if_pos hmany, if_neg hne,
        mem_presentMembers]
      constructor
      · intro hinside
        split at hinside
        · cases hinside
        · case isFalse hout =>
            exact ⟨hinside, fun hunion =>
              hout ⟨hunion, Dict.mem_keys_iff.mpr ⟨inside, hinside⟩⟩⟩
      · rintro ⟨hinside, hunion⟩
        rw [if_neg fun hin => hunion hin.1, hinside]

end

/-! ## Paths that are not moved -/

theorem remap_shorter {newPath path : String} {oldPaths : List String}
    (hnew : path.toList.length < newPath.toList.length)
    (hold : ∀ oldPath ∈ oldPaths, path.toList.length < oldPath.toList.length) (other : String) :
    remap newPath oldPaths other = path ↔ other = path := by
  induction oldPaths with
  | nil => rfl
  | cons oldPath rest ih =>
      have hfirst := hold oldPath List.mem_cons_self
      have hrest := ih fun oldPath h => hold oldPath (List.mem_cons_of_mem _ h)
      rw [remap]
      split
      · case isTrue heq =>
          subst heq
          refine iff_of_false (fun h => ?_) (fun h => ?_)
          · rw [h] at hnew
            omega
          · rw [h] at hfirst
            omega
      · split
        · case isTrue hprefix =>
            refine iff_of_false (fun h => ?_) (fun h => ?_)
            · rw [← h, String.toList_append, List.length_append] at hnew
              omega
            · have hlength := hprefix.length_le
              rw [h, List.length_append] at hlength
              omega
        · exact hrest

theorem length_pathOf_le {trail above : List String} (h : trail <:+ above) :
    (pathOf trail).toList.length ≤ (pathOf above).toList.length := by
  induction above with
  | nil => rw [List.suffix_nil.mp h]
  | cons key above ih =>
      rcases List.suffix_cons_iff.mp h with rfl | h
      · exact Nat.le_refl _
      · exact Nat.le_trans (ih h) (Nat.le_of_lt (length_pathOf_lt key above))

/-- A path not below the level is not moved. -/
theorem remap_level {a b path : String} {above : List String} (c : String)
    (hpath : path.toList.length ≤ (pathOf above).toList.length) (other : String) :
    remap (pathOf (c :: above)) [pathOf (a :: above), pathOf (b :: above)] other = path ↔
      other = path := by
  refine remap_shorter (Nat.lt_of_le_of_lt hpath (length_pathOf_lt c above)) ?_ other
  intro oldPath hold
  rcases List.mem_pair.mp hold with rfl | rfl
  · exact Nat.lt_of_le_of_lt hpath (length_pathOf_lt a above)
  · exact Nat.lt_of_le_of_lt hpath (length_pathOf_lt b above)

/-! ## A merge at a level -/

theorem depthPrefix_pathOf {key : String} (above : List String) (h : Clean key) :
    depthPrefix (pathOf (key :: above)) = (toString above.length).toList ++ [':'] := by
  have htake : ((toString above.length).toList ++ ':' :: key.toList).takeWhile (· ≠ ':') =
      (toString above.length).toList := by
    rw [List.takeWhile_append_of_pos, List.takeWhile_cons_of_neg (by simp), List.append_nil]
    intro char hchar
    exact decide_eq_true fun heq => colon_not_mem_toString above.length (heq ▸ hchar)
  rw [depthPrefix, lastSegment, splitLast_pathOf above h]
  simp only [htake, List.mem_append, List.mem_cons, true_or, or_true, if_true]

section

variable [Collation] {layout : Layout} {a b : String} {above : List String}

/-- The path that is computed is that of the merged key. -/
theorem mergedNodePath_pathOf (above : List String) (ha : Clean a) :
    mergedNodePath (pathOf (a :: above)) a b = pathOf (mergedKey (unionOf a b) :: above) := by
  rw [mergedNodePath, parentOf_pathOf above ha, depthPrefix_pathOf above ha, pathOf,
    ← String.toList_inj]
  simp

/-- What a merge of two branches does to the layout, when their keys can be told from the path. -/
theorem dropOnSibling_pathOf (ha : Clean a) (hb : Clean b) :
    dropOnSibling layout (pathOf (a :: above)) (pathOf (b :: above)) =
      mergeValues (remapCustomizationKeys layout [pathOf (a :: above), pathOf (b :: above)]
        (pathOf (mergedKey (unionOf a b) :: above))) (pathOf above) a b := by
  rw [dropOnSibling, valueOfPath_pathOf above ha, valueOfPath_pathOf above hb,
    mergedNodePath_pathOf above ha, parentOf_pathOf above ha]

theorem effectiveDim_drop (ha : Clean a) (hb : Clean b) {trail : List String}
    (htrail : trail <:+ above) :
    effectiveDim (dropOnSibling layout (pathOf (a :: above)) (pathOf (b :: above))) trail =
      effectiveDim layout trail := by
  rw [dropOnSibling_pathOf ha hb, effectiveDim, effectiveDim]
  simp only [mergeValues, remapCustomizationKeys]
  rw [Dict.get?_rekey_of_unmoved _ _ (remap_level _ (length_pathOf_le htrail))]

theorem hiddenAt_drop (ha : Clean a) (hb : Clean b) {trail : List String}
    (htrail : trail <:+ above) :
    (dropOnSibling layout (pathOf (a :: above)) (pathOf (b :: above))).hiddenAt (pathOf trail) =
      layout.hiddenAt (pathOf trail) := by
  rw [dropOnSibling_pathOf ha hb, Layout.hiddenAt, Layout.hiddenAt]
  simp only [mergeValues, remapCustomizationKeys]
  rw [Dict.get?_rekey_of_unmoved _ _ (remap_level _ (length_pathOf_le htrail))]

omit [Collation] in
theorem mergesAt_remap {path : String} (c : String)
    (hpath : path.toList.length ≤ (pathOf above).toList.length) :
    (remapCustomizationKeys layout [pathOf (a :: above), pathOf (b :: above)]
      (pathOf (c :: above))).mergesAt path = layout.mergesAt path := by
  rw [Layout.mergesAt, Layout.mergesAt, remapCustomizationKeys,
    Dict.get?_rekey_of_unmoved _ _ (remap_level c hpath)]

/-- The groups of the level of the merge. -/
theorem mergesAt_drop (ha : Clean a) (hb : Clean b) :
    (dropOnSibling layout (pathOf (a :: above)) (pathOf (b :: above))).mergesAt (pathOf above) =
      mergeInto (layout.mergesAt (pathOf above)) a b := by
  rw [dropOnSibling_pathOf ha hb, Layout.mergesAt, mergeValues, Dict.get?_set_self,
    Option.getD_some, mergesAt_remap _ (Nat.le_refl _)]

theorem mergesAt_drop_above (ha : Clean a) (hb : Clean b) {trail : List String}
    (htrail : trail <:+ above) (hne : trail ≠ above) :
    (dropOnSibling layout (pathOf (a :: above)) (pathOf (b :: above))).mergesAt (pathOf trail) =
      layout.mergesAt (pathOf trail) := by
  have hpath : pathOf trail ≠ pathOf above := by
    cases above with
    | nil => exact absurd (List.suffix_nil.mp htrail) hne
    | cons key above =>
        have hlonger := length_pathOf_lt key above
        have hle := length_pathOf_le ((List.suffix_cons_iff.mp htrail).resolve_left hne)
        intro heq
        rw [heq] at hle
        omega
  rw [dropOnSibling_pathOf ha hb, Layout.mergesAt, mergeValues, Dict.get?_set_ne _ _ hpath,
    ← Layout.mergesAt, mergesAt_remap _ (length_pathOf_le htrail)]

theorem applyMergesHidden_drop_above (ha : Clean a) (hb : Clean b) {trail : List String}
    (htrail : trail <:+ above) (hne : trail ≠ above) (buckets : Buckets) :
    applyMergesHidden (dropOnSibling layout (pathOf (a :: above)) (pathOf (b :: above))) buckets
      (pathOf trail) = applyMergesHidden layout buckets (pathOf trail) := by
  rw [applyMergesHidden, applyMergesHidden, mergesAt_drop_above ha hb htrail hne,
    hiddenAt_drop ha hb htrail]

/-- The level of the merge and those above it are opened as before. -/
theorem Opened.drop (ha : Clean a) (hb : Clean b) {expanded : List String} {rows level : List Row}
    {trail : List String} (h : Opened layout expanded rows level trail) (htrail : trail <:+ above) :
    Opened (dropOnSibling layout (pathOf (a :: above)) (pathOf (b :: above))) expanded rows level
      trail := by
  induction h with
  | root => exact .root
  | @child level trail dim buckets key inside _ hdim hbuckets hbucket hopen ih =>
      have hsuffix : trail <:+ above := (List.suffix_cons key trail).trans htrail
      have hne : trail ≠ above := by
        rintro rfl
        exact absurd htrail.length_le (by simp)
      rw [← effectiveDim_drop ha hb hsuffix] at hdim
      rw [← applyMergesHidden_drop_above ha hb hsuffix hne] at hbuckets
      exact .child (ih hsuffix) hdim hbuckets hbucket hopen

end

end IsePortal.Tree
