import IsePortal.Frontend.BrowseTree
import IsePortal.Frontend.SavedFields
import IsePortal.Library.Buckets

/-!
# The tree is a partition

At a level that the tree reaches, merging and hiding distribute the rows: none is lost and none is
shown twice. The merge loop throws only where a group names a value twice that has a bucket. A
layout comes from `_safe_tree_layout` of `app/api/me.py` and `initTreeState`, which bound the
groups but let such a group through.
-/

namespace IsePortal.Tree

open Library

/-! ## Members of keys -/

@[simp] theorem toList_joinMembers (members : List String) :
    (joinMembers members).toList = [mergeSep].intercalate (members.map String.toList) :=
  String.toList_ofList

theorem mem_mergeMembers {member key : String} :
    member ∈ mergeMembers key ↔ member.toList ∈ key.toList.splitOn mergeSep := by
  rw [mergeMembers, List.mem_map]
  constructor
  · rintro ⟨part, hpart, rfl⟩
    rwa [String.toList_ofList]
  · exact fun h => ⟨_, h, String.ofList_toList⟩

/-- A value without the separator is its own only member. -/
theorem mergeMembers_plain {key : String} (h : mergeSep ∉ key.toList) :
    mergeMembers key = [key] := by
  rw [mergeMembers, List.splitOn_eq_singleton h, List.map_singleton, String.ofList_toList]

theorem mergeMembers_ne_nil (key : String) : mergeMembers key ≠ [] := by
  rw [mergeMembers, ne_eq, List.map_eq_nil_iff]
  exact List.splitOn_ne_nil _ _

/-- The members of a joined key are those of its parts. -/
theorem mem_mergeMembers_join {parts : List String} {member : String} (hparts : parts ≠ []) :
    member ∈ mergeMembers (joinMembers parts) ↔ ∃ part ∈ parts, member ∈ mergeMembers part := by
  rw [mem_mergeMembers, toList_joinMembers,
    Frontend.mem_splitOn_intercalate (by simpa using hparts)]
  simp only [List.mem_map, exists_exists_and_eq_and, mem_mergeMembers]

/-! ## The buckets of the rows -/

/-- No two keys have a member in common. -/
def Separate (buckets : Buckets) : Prop :=
  ∀ first ∈ buckets.keys, ∀ second ∈ buckets.keys, first ≠ second →
    ∀ member ∈ mergeMembers first, member ∉ mergeMembers second

/-- The values of the row have no separator. -/
def Row.Plain (row : Row) : Prop := ∀ key, mergeSep ∉ (valueOf row key).toList

theorem Row.Plain.bucketValue {row : Row} (h : row.Plain) (dim : String) :
    mergeSep ∉ (Tree.bucketValue row dim).toList := by
  unfold Tree.bucketValue
  split
  · decide
  · exact h dim

theorem foldl_addRow (dim : String) (rows : List Row) (buckets : Buckets) :
    (rows.foldl (addRow dim) buckets).contents.Perm (buckets.contents ++ rows) ∧
      ∀ key, key ∈ (rows.foldl (addRow dim) buckets).keys ↔
        key ∈ buckets.keys ∨ ∃ row ∈ rows, bucketValue row dim = key := by
  induction rows generalizing buckets with
  | nil => simp
  | cons row rest ih =>
      obtain ⟨hperm, hkeys⟩ := ih (addRow dim buckets row)
      constructor
      · have hpush := buckets.perm_contents_push (bucketValue row dim) row
        rw [List.append_cons]
        exact hperm.trans (hpush.append_right rest)
      · intro key
        rw [List.foldl_cons, hkeys, addRow, Dict.mem_keys_set]
        simp only [List.mem_cons, exists_eq_or_imp, eq_comm (a := key)]
        tauto

/-- The buckets hold the rows. -/
theorem perm_bucketize (rows : List Row) (dim : String) :
    (bucketize rows dim).contents.Perm rows := by
  have hperm := (foldl_addRow dim rows .empty).1
  rwa [Dict.contents_empty, List.nil_append] at hperm

theorem mem_keys_bucketize {rows : List Row} {dim key : String} :
    key ∈ (bucketize rows dim).keys ↔ ∃ row ∈ rows, bucketValue row dim = key := by
  rw [bucketize, (foldl_addRow dim rows .empty).2 key]
  exact or_iff_right List.not_mem_nil

theorem mergeMembers_bucketize {rows : List Row} (h : ∀ row ∈ rows, row.Plain) {dim key : String}
    (hkey : key ∈ (bucketize rows dim).keys) : mergeMembers key = [key] := by
  obtain ⟨row, hrow, rfl⟩ := mem_keys_bucketize.mp hkey
  exact mergeMembers_plain ((h row hrow).bucketValue dim)

theorem separate_bucketize {rows : List Row} (h : ∀ row ∈ rows, row.Plain) (dim : String) :
    Separate (bucketize rows dim) := by
  intro first hfirst second hsecond hne member hmember
  rw [mergeMembers_bucketize h hfirst, List.mem_singleton] at hmember
  rw [mergeMembers_bucketize h hsecond, List.mem_singleton, hmember]
  exact hne

/-! ## Taking the members of a group -/

/-- Once the bucket of a member is gone, the loop throws at it. -/
theorem takeMembers_absent {members : List String} {member : String} {buckets : Buckets}
    (hmember : member ∈ members) (habsent : buckets.get? member = none) (combined : List Row) :
    takeMembers members buckets combined = none := by
  induction members generalizing buckets combined with
  | nil => cases hmember
  | cons first rest ih =>
      rw [takeMembers]
      cases hfirst : buckets.get? first with
      | none => rfl
      | some rows =>
          rcases List.mem_cons.mp hmember with rfl | hrest
          · simp [habsent] at hfirst
          · refine ih hrest ?_ _
            rw [Dict.get?_erase, habsent, ite_self]

theorem takeMembers_repeated {members : List String} (h : ¬ members.Nodup) (buckets : Buckets)
    (combined : List Row) : takeMembers members buckets combined = none := by
  induction members generalizing buckets combined with
  | nil => exact absurd List.nodup_nil h
  | cons first rest ih =>
      rw [takeMembers]
      cases hfirst : buckets.get? first with
      | none => rfl
      | some rows =>
          by_cases hmem : first ∈ rest
          · exact takeMembers_absent hmem (Dict.get?_erase_self buckets first) _
          · exact ih (fun hrest => h (List.nodup_cons.mpr ⟨hmem, hrest⟩)) _ _

/-- The rows of the buckets of some members, one bucket after the other. -/
def memberRows (buckets : Buckets) (members : List String) : List Row :=
  members.flatMap fun member => (buckets.get? member).getD []

theorem memberRows_erase {buckets : Buckets} {members : List String} {key : String}
    (h : key ∉ members) : memberRows (buckets.erase key) members = memberRows buckets members := by
  refine List.flatMap_congr fun member hmember => ?_
  have hne : member ≠ key := fun heq => h (heq ▸ hmember)
  rw [Dict.get?_erase_ne buckets hne]

/-- Members that have buckets, none named twice: their rows are taken together, and the other
buckets stay. -/
theorem takeMembers_nodup {members : List String} (hnodup : members.Nodup) {buckets : Buckets}
    (hpresent : ∀ member ∈ members, (buckets.get? member).isSome) (combined : List Row) :
    ∃ rest, takeMembers members buckets combined =
        some (combined ++ memberRows buckets members, rest) ∧
      (memberRows buckets members ++ rest.contents).Perm buckets.contents ∧
      ∀ key, rest.get? key = if key ∈ members then none else buckets.get? key := by
  induction members generalizing buckets combined with
  | nil => exact ⟨buckets, by simp [takeMembers, memberRows], .refl _, fun _ => rfl⟩
  | cons first others ih =>
      obtain ⟨hnew, hothers⟩ := List.nodup_cons.mp hnodup
      obtain ⟨rows, hrows⟩ := Option.isSome_iff_exists.mp (hpresent first List.mem_cons_self)
      have hlater : ∀ member ∈ others, ((buckets.erase first).get? member).isSome := by
        intro member hmember
        have hne : member ≠ first := fun heq => hnew (heq ▸ hmember)
        rw [Dict.get?_erase_ne buckets hne]
        exact hpresent member (List.mem_cons_of_mem _ hmember)
      obtain ⟨rest, htaken, hperm, hkeys⟩ := ih hothers hlater (combined ++ rows)
      have hfirst : memberRows buckets (first :: others) = rows ++ memberRows buckets others := by
        rw [memberRows, List.flatMap_cons, hrows, Option.getD_some, ← memberRows]
      rw [memberRows_erase hnew] at htaken hperm
      refine ⟨rest, ?_, ?_, fun key => ?_⟩
      · rw [takeMembers, hrows, hfirst, ← List.append_assoc]
        exact htaken
      · rw [hfirst, List.append_assoc]
        exact (hperm.append_left rows).trans (Dict.perm_contents_erase hrows)
      · rw [hkeys, Dict.get?_erase]
        by_cases hkey : key = first <;> simp [hkey]

/-- However the members are named, a row that is taken is taken out. -/
theorem takeMembers_perm {members : List String} {buckets rest : Buckets}
    {combined taken : List Row} (h : takeMembers members buckets combined = some (taken, rest)) :
    (taken ++ rest.contents).Perm (combined ++ buckets.contents) := by
  induction members generalizing buckets combined with
  | nil =>
      cases h
      exact .refl _
  | cons first others ih =>
      rw [takeMembers] at h
      cases hrows : buckets.get? first with
      | none => simp [hrows] at h
      | some rows =>
          simp only [hrows] at h
          refine (ih h).trans ?_
          rw [List.append_assoc]
          exact (Dict.perm_contents_erase hrows).append_left combined

/-! ## Merging -/

theorem mem_presentMembers {buckets : Buckets} {members : List String} {member : String} :
    member ∈ presentMembers buckets members ↔ member ∈ members ∧ member ∈ buckets.keys := by
  rw [presentMembers, List.mem_filter, Option.isSome_iff_exists, Dict.mem_keys_iff]

section

variable [Collation]

/-- The members of the key of a merged bucket are those of the keys that were merged. -/
theorem mem_mergeMembers_merged {present : List String} {member : String} (h : present ≠ []) :
    member ∈ mergeMembers (mergedKey present) ↔ ∃ key ∈ present, member ∈ mergeMembers key := by
  have hperm := List.mergeSort_perm present Collation.le
  have hne : present.mergeSort Collation.le ≠ [] := fun hnil => h (by simpa [hnil] using hperm)
  rw [mergedKey, mem_mergeMembers_join hne]
  simp only [hperm.mem_iff]

/-- A merged bucket has a new key. -/
theorem mergedKey_not_mem {buckets rest : Buckets} {present : List String}
    (hseparate : Separate buckets) (hne : present ≠ [])
    (hpresent : ∀ key ∈ present, key ∈ buckets.keys)
    (hrest : ∀ key, key ∈ rest.keys ↔ key ∉ present ∧ key ∈ buckets.keys) :
    mergedKey present ∉ rest.keys := by
  intro hmem
  obtain ⟨hout, hold⟩ := (hrest _).mp hmem
  obtain ⟨member, hmember⟩ := List.exists_mem_of_ne_nil _ (mergeMembers_ne_nil (mergedKey present))
  obtain ⟨key, hkey, hpart⟩ := (mem_mergeMembers_merged hne).mp hmember
  have hdiff : key ≠ mergedKey present := fun heq => hout (heq ▸ hkey)
  exact hseparate key (hpresent key hkey) _ hold hdiff member hpart hmember

/-- A group with fewer than two buckets does nothing. -/
theorem mergeGroup_few {buckets : Buckets} {members : List String}
    (h : (presentMembers buckets members).length < 2) :
    mergeGroup buckets members = some buckets := if_pos h

/-- A group with more puts the bucket of the merged key in the place of those it has. -/
theorem mergeGroup_joins {buckets : Buckets} {members : List String} (hseparate : Separate buckets)
    (hnodup : (presentMembers buckets members).Nodup)
    (hmany : 2 ≤ (presentMembers buckets members).length) :
    ∃ rest : Buckets, mergeGroup buckets members = some (rest.set
        (mergedKey (presentMembers buckets members))
        (memberRows buckets (presentMembers buckets members))) ∧
      mergedKey (presentMembers buckets members) ∉ rest.keys ∧
      (memberRows buckets (presentMembers buckets members) ++ rest.contents).Perm
        buckets.contents ∧
      ∀ key, rest.get? key =
        if key ∈ presentMembers buckets members then none else buckets.get? key := by
  have hne : presentMembers buckets members ≠ [] := List.ne_nil_of_length_pos (by omega)
  obtain ⟨rest, htaken, hperm, hkeys⟩ := takeMembers_nodup hnodup
    (fun key h => (List.mem_filter.mp h).2) []
  have hrest : ∀ key, key ∈ rest.keys ↔
      key ∉ presentMembers buckets members ∧ key ∈ buckets.keys := by
    intro key
    rw [Dict.mem_keys_iff, Dict.mem_keys_iff, hkeys]
    by_cases hkey : key ∈ presentMembers buckets members <;> simp [hkey]
  have hnew := mergedKey_not_mem hseparate hne
    (fun key h => (mem_presentMembers.mp h).2) hrest
  refine ⟨rest, ?_, hnew, hperm, hkeys⟩
  rw [mergeGroup, if_neg (Nat.not_lt.mpr hmany), htaken, Option.map_some, List.nil_append]

/-- A group keeps the rows of the buckets, and no two keys get a member in common. -/
theorem mergeGroup_spec {buckets : Buckets} {members : List String} (hseparate : Separate buckets)
    (hnodup : (presentMembers buckets members).Nodup) :
    ∃ merged, mergeGroup buckets members = some merged ∧ Separate merged ∧
      merged.contents.Perm buckets.contents := by
  by_cases hfew : (presentMembers buckets members).length < 2
  · exact ⟨buckets, mergeGroup_few hfew, hseparate, .refl _⟩
  · have hmany : 2 ≤ (presentMembers buckets members).length := by omega
    obtain ⟨rest, hmerged, hnew, hperm, hkeys⟩ := mergeGroup_joins hseparate hnodup hmany
    have hne : presentMembers buckets members ≠ [] := List.ne_nil_of_length_pos (by omega)
    refine ⟨_, hmerged, ?_, ?_⟩
    · have hin : ∀ key ∈ rest.keys,
          key ∉ presentMembers buckets members ∧ key ∈ buckets.keys := by
        intro key hkey
        rw [Dict.mem_keys_iff, hkeys] at hkey
        rw [Dict.mem_keys_iff]
        by_cases hmem : key ∈ presentMembers buckets members
        · simp [hmem] at hkey
        · simpa [hmem] using hkey
      -- the merged key has the members of buckets that are gone
      have hapart : ∀ key ∈ rest.keys, ∀ member ∈ mergeMembers key,
          member ∉ mergeMembers (mergedKey (presentMembers buckets members)) := by
        intro key hkey member hmember hmerged
        obtain ⟨old, hold, hpart⟩ := (mem_mergeMembers_merged hne).mp hmerged
        have hdiff : key ≠ old := fun heq => (hin key hkey).1 (heq ▸ hold)
        exact hseparate key (hin key hkey).2 old (mem_presentMembers.mp hold).2 hdiff member
          hmember hpart
      intro first hfirst second hsecond hdiff member hmember
      rcases (Dict.mem_keys_set _).mp hfirst with rfl | hfirst
      · rcases (Dict.mem_keys_set _).mp hsecond with rfl | hsecond
        · exact absurd rfl hdiff
        · exact fun hother => hapart second hsecond member hother hmember
      · rcases (Dict.mem_keys_set _).mp hsecond with rfl | hsecond
        · exact hapart first hfirst member hmember
        · exact hseparate first (hin first hfirst).2 second (hin second hsecond).2 hdiff member
            hmember
    · rw [Dict.contents_set_of_not_mem _ hnew]
      exact List.perm_append_comm.trans hperm

/-- A group that names a value twice that has a bucket stops the rendering. -/
theorem mergeGroup_repeated {buckets : Buckets} {members : List String}
    (h : ¬ (presentMembers buckets members).Nodup) : mergeGroup buckets members = none := by
  have hmany : ¬ (presentMembers buckets members).length < 2 := by
    intro hfew
    refine h ?_
    rcases hpresent : presentMembers buckets members with _ | ⟨key, _ | ⟨other, rest⟩⟩
    · exact List.nodup_nil
    · exact List.nodup_singleton key
    · exact absurd hfew (by simp [hpresent])
  rw [mergeGroup, if_neg hmany, takeMembers_repeated h, Option.map_none]

/-- When its turn comes, no group names a value twice that has a bucket. -/
def NamesOnce (buckets : Buckets) (groups : List (List String)) : Prop :=
  ∀ earlier group later, groups = earlier ++ group :: later →
    ∀ merged, applyMerges buckets earlier = some merged → (presentMembers merged group).Nodup

theorem applyMerges_cons {buckets : Buckets} {group : List String} {rest : List (List String)} :
    applyMerges buckets (group :: rest) =
      (mergeGroup buckets group).bind fun merged => applyMerges merged rest := rfl

theorem NamesOnce.head {buckets : Buckets} {group : List String} {rest : List (List String)}
    (h : NamesOnce buckets (group :: rest)) : (presentMembers buckets group).Nodup :=
  h [] group rest rfl buckets rfl

theorem NamesOnce.tail {buckets merged : Buckets} {group : List String}
    {rest : List (List String)} (h : NamesOnce buckets (group :: rest))
    (hgroup : mergeGroup buckets group = some merged) : NamesOnce merged rest := by
  rintro earlier next later rfl final hfinal
  refine h (group :: earlier) next later rfl final ?_
  rw [applyMerges_cons, hgroup, Option.bind_some]
  exact hfinal

/-- The groups one after the other: the rows of the buckets stay, and no two keys get a member in
common. -/
theorem applyMerges_spec {groups : List (List String)} {buckets : Buckets}
    (hseparate : Separate buckets) (h : NamesOnce buckets groups) :
    ∃ merged, applyMerges buckets groups = some merged ∧ Separate merged ∧
      merged.contents.Perm buckets.contents := by
  induction groups generalizing buckets with
  | nil => exact ⟨buckets, rfl, hseparate, .refl _⟩
  | cons group rest ih =>
      obtain ⟨next, hnext, hnextSeparate, hnextPerm⟩ := mergeGroup_spec hseparate h.head
      obtain ⟨merged, hmerged, hfinal, hperm⟩ := ih hnextSeparate (h.tail hnext)
      refine ⟨merged, ?_, hfinal, hperm.trans hnextPerm⟩
      rw [applyMerges_cons, hnext, Option.bind_some, hmerged]

/-- The groups are merged only where each names its values once. -/
theorem namesOnce_of_applyMerges {groups : List (List String)} {buckets merged : Buckets}
    (h : applyMerges buckets groups = some merged) : NamesOnce buckets groups := by
  rintro earlier group later rfl next hnext
  by_contra hrepeated
  rw [applyMerges, List.foldlM_append] at h
  obtain ⟨other, hother, hrest⟩ := Option.bind_eq_some_iff.mp h
  rw [applyMerges] at hnext
  rw [hnext, Option.some.injEq] at hother
  subst hother
  rw [List.foldlM_cons, mergeGroup_repeated hrepeated] at hrest
  cases hrest

/-- A group adds no row, whatever the keys are. -/
theorem mergeGroup_subperm {buckets merged : Buckets} {members : List String}
    (h : mergeGroup buckets members = some merged) :
    merged.contents.Subperm buckets.contents := by
  rw [mergeGroup] at h
  split at h
  · cases h
    exact .refl _
  · obtain ⟨⟨taken, rest⟩, htaken, rfl⟩ := Option.map_eq_some_iff.mp h
    exact (rest.subperm_contents_set _ taken).trans (takeMembers_perm htaken).subperm

theorem applyMerges_subperm {groups : List (List String)} {buckets merged : Buckets}
    (h : applyMerges buckets groups = some merged) :
    merged.contents.Subperm buckets.contents := by
  induction groups generalizing buckets with
  | nil =>
      cases h
      exact .refl _
  | cons group rest ih =>
      rw [applyMerges_cons] at h
      obtain ⟨next, hnext, hrest⟩ := Option.bind_eq_some_iff.mp h
      exact (ih hrest).trans (mergeGroup_subperm hnext)

/-- The buckets of a level hold no row twice that the level has once. -/
theorem merged_subperm {groups : List (List String)} {level : List Row} {dim : String}
    {merged : Buckets} (h : applyMerges (bucketize level dim) groups = some merged) :
    merged.contents.Subperm level :=
  (applyMerges_subperm h).trans (perm_bucketize level dim).subperm

end

/-! ## Hiding -/

theorem entries_applyHidden (hidden : List String) (buckets : Buckets) :
    (applyHidden buckets hidden).entries =
      buckets.entries.filter fun entry => decide (entry.1 ∉ hidden) := by
  induction hidden generalizing buckets with
  | nil => simp [applyHidden]
  | cons first rest ih =>
      refine (ih (buckets.erase first)).trans ?_
      rw [Dict.erase, List.filter_filter]
      refine List.filter_congr fun entry _ => ?_
      by_cases hfirst : entry.1 = first <;> simp [hfirst]

/-- The rows in buckets that are hidden. -/
def hiddenRows (buckets : Buckets) (hidden : List String) : List Row :=
  (buckets.entries.filter fun entry => decide (entry.1 ∈ hidden)).flatMap Prod.snd

/-- A bucket is shown or hidden. -/
theorem perm_applyHidden (buckets : Buckets) (hidden : List String) :
    ((applyHidden buckets hidden).contents ++ hiddenRows buckets hidden).Perm
      buckets.contents := by
  have hsplit := (List.filter_append_perm (fun entry => decide (entry.1 ∉ hidden))
    buckets.entries).flatMap_right Prod.snd
  rw [List.flatMap_append] at hsplit
  rw [Dict.contents, Dict.contents, entries_applyHidden, hiddenRows]
  simpa using hsplit

/-! ## The levels of a tree -/

section

variable [Collation] {layout : Layout} {rows : List Row}

/-- The levels below the rows: at the root all rows, and below a branch its own. -/
inductive Reached (layout : Layout) (rows : List Row) : List Row → List String → Prop
  | root : Reached layout rows rows []
  | child {level trail dim buckets key inside} (hlevel : Reached layout rows level trail)
      (hdim : effectiveDim layout trail = some dim)
      (hbuckets : applyMergesHidden layout (bucketize level dim) (pathOf trail) = some buckets)
      (hbucket : (key, inside) ∈ buckets.entries) : Reached layout rows inside (key :: trail)

/-- At every level that is reached, each group names its values once. -/
def NamesOnceBelow (layout : Layout) (rows : List Row) : Prop :=
  ∀ level trail dim, Reached layout rows level trail → effectiveDim layout trail = some dim →
    NamesOnce (bucketize level dim) (layout.mergesAt (pathOf trail))

theorem applyMergesHidden_some {buckets shown : Buckets} {path : String}
    (h : applyMergesHidden layout buckets path = some shown) :
    ∃ merged, applyMerges buckets (layout.mergesAt path) = some merged ∧
      applyHidden merged (layout.hiddenAt path) = shown :=
  Option.map_eq_some_iff.mp h

/-- The rows of a level are among the rows of the table. -/
theorem Reached.subperm {level : List Row} {trail : List String}
    (h : Reached layout rows level trail) : level.Subperm rows := by
  induction h with
  | root => exact .refl _
  | @child level trail dim buckets key inside _ hdim hbuckets hbucket ih =>
      obtain ⟨merged, hmerged, rfl⟩ := applyMergesHidden_some hbuckets
      rw [entries_applyHidden] at hbucket
      have hinside := Dict.sublist_contents (List.mem_of_mem_filter hbucket)
      exact hinside.subperm.trans ((merged_subperm hmerged).trans ih)

theorem Reached.subset {level : List Row} {trail : List String}
    (h : Reached layout rows level trail) : ∀ row ∈ level, row ∈ rows :=
  fun _ hrow => h.subperm.subset hrow

theorem Reached.plain {level : List Row} {trail : List String} (h : Reached layout rows level trail)
    (hplain : ∀ row ∈ rows, row.Plain) : ∀ row ∈ level, row.Plain :=
  fun row hrow => hplain row (h.subset row hrow)

end

/-! ## Rendering -/

section

variable {α β : Type}

theorem collect_eq_some {f : α → Option (List β)} {g : α → List β} {items : List α}
    (h : ∀ a ∈ items, f a = some (g a)) : collect f items = some (items.flatMap g) := by
  induction items with
  | nil => rfl
  | cons a rest ih =>
      rw [collect, h a List.mem_cons_self, ih fun b hb => h b (List.mem_cons_of_mem a hb)]
      rfl

theorem collect_eq_none {f : α → Option (List β)} {items : List α} {a : α} (ha : a ∈ items)
    (h : f a = none) : collect f items = none := by
  induction items with
  | nil => cases ha
  | cons first rest ih =>
      rw [collect]
      rcases List.mem_cons.mp ha with rfl | hrest
      · rw [h]
      · cases f first <;> simp [ih hrest]

theorem collect_isSome {f : α → Option (List β)} {items : List α}
    (h : ∀ a ∈ items, ∃ list, f a = some list) : ∃ lists, collect f items = some lists := by
  refine ⟨_, @collect_eq_some α β f (fun a => (f a).getD []) items fun a ha => ?_⟩
  obtain ⟨list, hlist⟩ := h a ha
  rw [hlist, Option.getD_some]

/-- Where the lists of all elements are there, they are put together in the order of the
elements. -/
theorem collect_some {f : α → Option (List β)} {items : List α} {lists : List β}
    (h : collect f items = some lists) :
    (∀ a ∈ items, f a = some ((f a).getD [])) ∧ lists = items.flatMap fun a => (f a).getD [] := by
  have hall : ∀ a ∈ items, f a = some ((f a).getD []) := by
    intro a ha
    cases hfa : f a with
    | none => rw [collect_eq_none ha hfa] at h; cases h
    | some list => rfl
  refine ⟨hall, ?_⟩
  rw [collect_eq_some hall, Option.some.injEq] at h
  exact h.symm

end

/-- The paths of the branches that are shown. -/
def branchPaths (items : List Item) : List String :=
  items.filterMap fun item =>
    match item with
    | .branch trail _ => some (pathOf trail)
    | .leaf _ => none

section

variable [Collation] {layout : Layout} {rows : List Row}

/-- The buckets of a level whose groups name their values once. -/
theorem NamesOnceBelow.buckets (honce : NamesOnceBelow layout rows)
    (hplain : ∀ row ∈ rows, row.Plain) {level : List Row} {trail : List String} {dim : String}
    (hlevel : Reached layout rows level trail) (hdim : effectiveDim layout trail = some dim) :
    ∃ merged, applyMerges (bucketize level dim) (layout.mergesAt (pathOf trail)) = some merged ∧
      merged.contents.Perm level := by
  obtain ⟨merged, hmerged, -, hperm⟩ := applyMerges_spec
    (separate_bucketize (hlevel.plain hplain) dim) (honce level trail dim hlevel hdim)
  exact ⟨merged, hmerged, hperm.trans (perm_bucketize level dim)⟩

theorem NamesOnceBelow.shown (honce : NamesOnceBelow layout rows)
    (hplain : ∀ row ∈ rows, row.Plain) {level : List Row} {trail : List String} {dim : String}
    (hlevel : Reached layout rows level trail) (hdim : effectiveDim layout trail = some dim) :
    ∃ shown, applyMergesHidden layout (bucketize level dim) (pathOf trail) = some shown := by
  obtain ⟨merged, hmerged, -⟩ := honce.buckets hplain hlevel hdim
  exact ⟨_, by rw [applyMergesHidden, hmerged, Option.map_some]⟩

/-- Whatever is expanded, the rendering does not throw. -/
theorem renderNodes_isSome_of {expanded : List String} {At : List Row → List String → Prop}
    (hshown : ∀ level trail dim, At level trail → effectiveDim layout trail = some dim →
      ∃ shown, applyMergesHidden layout (bucketize level dim) (pathOf trail) = some shown)
    (hchild : ∀ {level trail dim buckets key inside}, At level trail →
      effectiveDim layout trail = some dim →
        applyMergesHidden layout (bucketize level dim) (pathOf trail) = some buckets →
          (key, inside) ∈ buckets.entries → pathOf (key :: trail) ∈ expanded →
            At inside (key :: trail))
    {level : List Row} {trail : List String} (h : At level trail) :
    ∃ items, renderNodes layout expanded level trail = some items := by
  induction level, trail using renderNodes.induct layout expanded with
  | case1 level trail hdim => exact ⟨_, renderNodes_leaves expanded level hdim⟩
  | case2 level trail dim hdim hbuckets =>
      obtain ⟨shown, hshown⟩ := hshown level trail dim h hdim
      rw [hshown] at hbuckets
      cases hbuckets
  | case3 level trail dim hdim buckets hbuckets ih =>
      rw [renderNodes_branches expanded hdim hbuckets]
      refine collect_isSome fun entry hentry => ?_
      have hmem := (List.mergeSort_perm _ _).mem_iff.mp hentry
      by_cases hopen : pathOf (entry.1 :: trail) ∈ expanded
      · obtain ⟨children, hchildren⟩ := ih entry hopen (hchild h hdim hbuckets hmem hopen)
        simp [hopen, hchildren]
      · simp [hopen]

theorem renderNodes_isSome (hplain : ∀ row ∈ rows, row.Plain) (honce : NamesOnceBelow layout rows)
    (expanded : List String) {level : List Row} {trail : List String}
    (h : Reached layout rows level trail) :
    ∃ items, renderNodes layout expanded level trail = some items :=
  renderNodes_isSome_of (fun _ _ _ hlevel hdim => honce.shown hplain hlevel hdim)
    (fun hlevel hdim hbuckets hmem _ => .child hlevel hdim hbuckets hmem) h

/-- The collection of the paths ends and does not throw. -/
theorem collectPaths_isSome (hplain : ∀ row ∈ rows, row.Plain) (honce : NamesOnceBelow layout rows)
    {level : List Row} {trail : List String} (h : Reached layout rows level trail) :
    ∃ paths, collectPaths layout level trail = some paths := by
  induction level, trail using collectPaths.induct layout with
  | case1 level trail hdim => exact ⟨_, collectPaths_leaves level hdim⟩
  | case2 level trail dim hdim hbuckets =>
      obtain ⟨shown, hshown⟩ := honce.shown hplain h hdim
      rw [hshown] at hbuckets
      cases hbuckets
  | case3 level trail dim hdim buckets hbuckets ih =>
      rw [collectPaths_branches hdim hbuckets]
      refine collect_isSome fun entry hentry => ?_
      obtain ⟨below, hbelow⟩ := ih entry (.child h hdim hbuckets hentry)
      exact ⟨_, by rw [hbelow, Option.map_some]⟩

/-- Where the paths that are collected are expanded, they are those of the branches shown. -/
theorem renderNodes_paths {expanded : List String} {level : List Row} {trail paths : List String}
    (h : collectPaths layout level trail = some paths)
    (hexpanded : ∀ path ∈ paths, path ∈ expanded) :
    ∃ items, renderNodes layout expanded level trail = some items ∧
      (branchPaths items).Perm paths := by
  induction level, trail using collectPaths.induct layout generalizing paths with
  | case1 level trail hdim =>
      rw [collectPaths_leaves level hdim, Option.some.injEq] at h
      subst h
      refine ⟨_, renderNodes_leaves expanded level hdim, ?_⟩
      have hnone : branchPaths ((level.take leafCap).map .leaf) = [] := by
        rw [branchPaths, List.filterMap_map]
        exact List.filterMap_eq_nil_iff.mpr fun _ _ => rfl
      rw [hnone]
  | case2 level trail dim hdim hbuckets =>
      rw [collectPaths_stuck hdim hbuckets] at h
      cases h
  | case3 level trail dim hdim buckets hbuckets ih =>
      rw [collectPaths_branches hdim hbuckets] at h
      obtain ⟨hall, rfl⟩ := collect_some h
      -- below each branch the paths shown are those collected
      have hentries : ∀ entry ∈ buckets.entries, ∃ items,
          (if pathOf (entry.1 :: trail) ∈ expanded then
            (renderNodes layout expanded entry.2 (entry.1 :: trail)).map fun children =>
              .branch (entry.1 :: trail) entry.2 :: children
          else some [.branch (entry.1 :: trail) entry.2]) = some items ∧
          (branchPaths items).Perm (((collectPaths layout entry.2 (entry.1 :: trail)).map
            fun below => pathOf (entry.1 :: trail) :: below).getD []) := by
        intro entry hentry
        obtain ⟨below, hbelow, hlist⟩ := Option.map_eq_some_iff.mp (hall entry hentry)
        have hin : ∀ path ∈ pathOf (entry.1 :: trail) :: below, path ∈ expanded := fun path hpath =>
          hexpanded path (List.mem_flatMap.mpr ⟨entry, hentry, hlist ▸ hpath⟩)
        obtain ⟨children, hchildren, hperm⟩ :=
          ih entry hbelow fun path hpath => hin path (List.mem_cons_of_mem _ hpath)
        refine ⟨_, by rw [if_pos (hin _ List.mem_cons_self), hchildren, Option.map_some], ?_⟩
        rw [← hlist]
        exact hperm.cons _
      have hsorted := List.mergeSort_perm buckets.entries fun first second =>
        keyLe first.1 second.1
      obtain ⟨items, hitems⟩ := collect_isSome fun entry hentry =>
        (hentries entry (hsorted.mem_iff.mp hentry)).imp fun _ h => h.1
      refine ⟨items, by rw [renderNodes_branches expanded hdim hbuckets, hitems], ?_⟩
      obtain ⟨-, rfl⟩ := collect_some hitems
      rw [branchPaths, List.filterMap_flatMap]
      refine List.Perm.flatMap hsorted fun entry hentry => ?_
      obtain ⟨shown, hshown, hperm⟩ := hentries entry (hsorted.mem_iff.mp hentry)
      rw [hshown, Option.getD_some]
      exact hperm

theorem collectPaths_reached {level : List Row} {trail paths : List String}
    (h : collectPaths layout rows [] = some paths) (hlevel : Reached layout rows level trail) :
    ∃ below, collectPaths layout level trail = some below := by
  induction hlevel with
  | root => exact ⟨paths, h⟩
  | child _ hdim hbuckets hbucket ih =>
      obtain ⟨below, hbelow⟩ := ih
      rw [collectPaths_branches hdim hbuckets] at hbelow
      obtain ⟨inside, hinside, -⟩ :=
        Option.map_eq_some_iff.mp ((collect_some hbelow).1 _ hbucket)
      exact ⟨inside, hinside⟩

/-- The rendering never throws, at every level each row is in one branch or in a hidden one, and
the paths that are collected are those of the branches shown when they are expanded. -/
structure Partitioned (layout : Layout) (rows : List Row) : Prop where
  renders : ∀ expanded, ∃ items, renderTree layout expanded rows = some items
  splits : ∀ level trail dim, Reached layout rows level trail →
    effectiveDim layout trail = some dim →
      ∀ merged, applyMerges (bucketize level dim) (layout.mergesAt (pathOf trail)) = some merged →
        ((applyHidden merged (layout.hiddenAt (pathOf trail))).contents ++
          hiddenRows merged (layout.hiddenAt (pathOf trail))).Perm level
  paths : ∃ paths, collectPaths layout rows [] = some paths ∧
    ∀ expanded, (∀ path ∈ paths, path ∈ expanded) →
      ∃ items, renderTree layout expanded rows = some items ∧
        ∀ path, path ∈ branchPaths items ↔ path ∈ paths

theorem applyMerges_empty (groups : List (List String)) :
    applyMerges .empty groups = some .empty := by
  induction groups with
  | nil => rfl
  | cons group rest ih =>
      have hnone : presentMembers .empty group = [] := List.filter_eq_nil_iff.mpr fun _ _ h => by
        cases h
      rw [applyMerges_cons, mergeGroup, hnone]
      exact ih

theorem applyMergesHidden_nil (layout : Layout) (dim path : String) :
    ∃ buckets, applyMergesHidden layout (bucketize [] dim) path = some buckets ∧
      buckets.entries = [] := by
  refine ⟨applyHidden .empty (layout.hiddenAt path), ?_, ?_⟩
  · rw [applyMergesHidden, bucketize, List.foldl_nil, applyMerges_empty, Option.map_some]
  · rw [entries_applyHidden]
    rfl

/-- Below no rows there are no branches. -/
theorem collectPaths_nil {trail paths : List String}
    (h : collectPaths layout [] trail = some paths) : paths = [] := by
  cases hdim : effectiveDim layout trail with
  | none =>
      rw [collectPaths_leaves [] hdim, Option.some.injEq] at h
      exact h.symm
  | some dim =>
      obtain ⟨buckets, hbuckets, hentries⟩ := applyMergesHidden_nil layout dim (pathOf trail)
      rw [collectPaths_branches hdim hbuckets, hentries] at h
      exact (Option.some.inj h).symm

theorem partitioned_of_namesOnce (hplain : ∀ row ∈ rows, row.Plain)
    (honce : NamesOnceBelow layout rows) : Partitioned layout rows where
  renders expanded := by
    obtain ⟨items, hitems⟩ := renderNodes_isSome hplain honce expanded .root
    rw [renderTree]
    split
    · exact ⟨_, rfl⟩
    · cases effectiveDim layout [] with
      | none => exact ⟨_, rfl⟩
      | some dim => exact ⟨items, hitems⟩
  splits level trail dim hlevel hdim merged hmerged := by
    obtain ⟨_, hother, hperm⟩ := honce.buckets hplain hlevel hdim
    rw [hmerged, Option.some.injEq] at hother
    subst hother
    exact (perm_applyHidden merged _).trans hperm
  paths := by
    obtain ⟨paths, hpaths⟩ := collectPaths_isSome hplain honce .root
    refine ⟨paths, hpaths, fun expanded hexpanded => ?_⟩
    obtain ⟨items, hitems, hperm⟩ := renderNodes_paths hpaths hexpanded
    rw [renderTree]
    split
    · case isTrue hrows =>
        subst hrows
        rw [collectPaths_nil hpaths]
        exact ⟨[], rfl, fun _ => .rfl⟩
    · cases hdim : effectiveDim layout [] with
      | none =>
          rw [collectPaths_leaves rows hdim, Option.some.injEq] at hpaths
          subst hpaths
          exact ⟨[], rfl, fun _ => .rfl⟩
      | some dim => exact ⟨items, hitems, fun path => hperm.mem_iff⟩

/-- Where a group names a value twice that has a bucket, the paths of the branches cannot be
collected. -/
theorem namesOnce_of_collectPaths {paths : List String}
    (h : collectPaths layout rows [] = some paths) : NamesOnceBelow layout rows := by
  intro level trail dim hlevel hdim
  obtain ⟨below, hbelow⟩ := collectPaths_reached h hlevel
  cases hbuckets : applyMergesHidden layout (bucketize level dim) (pathOf trail) with
  | none =>
      rw [collectPaths_stuck hdim hbuckets] at hbelow
      cases hbelow
  | some shown =>
      obtain ⟨merged, hmerged, -⟩ := applyMergesHidden_some hbuckets
      exact namesOnce_of_applyMerges hmerged

/-- Groups without repetitions name their values once. -/
theorem namesOnceBelow_of_nodup
    (h : ∀ entry ∈ layout.merges.entries, ∀ group ∈ entry.2, group.Nodup) :
    NamesOnceBelow layout rows := by
  intro level trail dim _ _ earlier group later hgroups merged _
  refine List.Nodup.filter _ ?_
  have hgroup : group ∈ layout.mergesAt (pathOf trail) := by simp [hgroups]
  rw [Layout.mergesAt] at hgroup
  cases hmerges : layout.merges.get? (pathOf trail) with
  | none =>
      rw [hmerges] at hgroup
      cases hgroup
  | some groups =>
      rw [hmerges] at hgroup
      exact h _ (Dict.get?_eq_some_iff.mp hmerges) group hgroup

/-- A stored layout splits the rows into the branches of a tree if and only if, at every level that
is reached, no group names a value twice that has a bucket when its turn comes. -/
theorem tree_partition_iff (raw : Json) (rows : List Row) (hplain : ∀ row ∈ rows, row.Plain) :
    Partitioned (initTreeState (safeTreeLayout raw)) rows ↔
      NamesOnceBelow (initTreeState (safeTreeLayout raw)) rows := by
  constructor
  · rintro ⟨-, -, paths, hpaths, -⟩
    exact namesOnce_of_collectPaths hpaths
  · exact partitioned_of_namesOnce hplain

end

/-! ## A group that names a value twice -/

/-- An endpoint of the group `Corp`. -/
def corpRow : Row where
  id := "1"
  cell key := if key = "group_name" then .text "Corp" else .absent

theorem plain_corpRow : corpRow.Plain := by
  intro key
  by_cases hkey : key = "group_name"
  · subst hkey
    decide
  · have hcell : corpRow.cell key = .absent := if_neg hkey
    rw [valueOf, hcell]
    exact List.not_mem_nil

/-- A raw layout that merges two values at the root. -/
def rawMerging (first second : String) : Json :=
  .obj [("groupBy", .arr [.str "group_name"]),
    ("merges", .obj [("", .arr [.arr [.str first, .str second]])])]

/-- The texts in the order of their characters. -/
@[reducible] def codeOrder : Collation where
  le first second := decide (first ≤ second)
  leNumeric first second := decide (first ≤ second)

theorem tree_partition_merged :
    @Partitioned codeOrder (initTreeState (safeTreeLayout (rawMerging "Corp" "IoT")))
      [corpRow] := by
  let _ := codeOrder
  have hplain : ∀ row ∈ [corpRow], row.Plain := by simpa using plain_corpRow
  have hentries : (initTreeState (safeTreeLayout (rawMerging "Corp" "IoT"))).merges.entries =
      [("", [["Corp", "IoT"]])] := rfl
  refine (tree_partition_iff (rawMerging "Corp" "IoT") [corpRow] hplain).mpr
    (namesOnceBelow_of_nodup ?_)
  rw [hentries]
  decide

/-- The loop takes the bucket of `Corp` and finds it gone when the group names it again. -/
theorem tree_partition_fails : (∀ row ∈ [corpRow], row.Plain) ∧ ∀ _ : Collation,
    ¬ Partitioned (initTreeState (safeTreeLayout (rawMerging "Corp" "Corp"))) [corpRow] := by
  refine ⟨by simpa using plain_corpRow, fun _ h => ?_⟩
  obtain ⟨items, hitems⟩ := h.renders []
  have hdim : effectiveDim (initTreeState (safeTreeLayout (rawMerging "Corp" "Corp"))) [] =
      some "group_name" := rfl
  have hmerges : (initTreeState (safeTreeLayout (rawMerging "Corp" "Corp"))).mergesAt "" =
      [["Corp", "Corp"]] := rfl
  have hbuckets : applyMergesHidden (initTreeState (safeTreeLayout (rawMerging "Corp" "Corp")))
      (bucketize [corpRow] "group_name") (pathOf []) = none := by
    rw [applyMergesHidden, pathOf, hmerges, applyMerges_cons, mergeGroup_repeated (by decide)]
    rfl
  rw [renderTree, if_neg (List.cons_ne_nil _ _), hdim] at hitems
  rw [renderNodes_stuck [] hdim hbuckets] at hitems
  cases hitems

end IsePortal.Tree
