import IsePortal.Frontend.TreeMerges
import Mathlib.Data.List.Pairwise

/-!
# Groups without a value in common

The groups of a level are tidy when no value is in two of them, none is named twice and each is a
value of rows. Then each group acts on its own: it makes one bucket of the values it has, whatever
the other groups do. A merge of two siblings keeps the groups tidy and makes the bucket whose path
was computed.
-/

namespace IsePortal.Tree

open Library

/-- No value is in two groups, none is named twice, and none has the separator in it. -/
structure Tidy (groups : List (List String)) : Prop where
  disjoint : groups.Pairwise List.Disjoint
  nodup : ∀ group ∈ groups, group.Nodup
  plain : ∀ group ∈ groups, ∀ value ∈ group, mergeSep ∉ value.toList

theorem Tidy.tail {group : List String} {rest : List (List String)} (h : Tidy (group :: rest)) :
    Tidy rest where
  disjoint := (List.pairwise_cons.mp h.disjoint).2
  nodup other hother := h.nodup other (List.mem_cons_of_mem _ hother)
  plain other hother := h.plain other (List.mem_cons_of_mem _ hother)

theorem Tidy.sublist {groups others : List (List String)} (h : Tidy groups)
    (hsub : others.Sublist groups) : Tidy others where
  disjoint := h.disjoint.sublist hsub
  nodup other hother := h.nodup other (hsub.subset hother)
  plain other hother := h.plain other (hsub.subset hother)

/-- Two groups with a value in common are one. -/
theorem Tidy.eq {groups : List (List String)} (h : Tidy groups) {first second : List String}
    {value : String} (hfirst : first ∈ groups) (hsecond : second ∈ groups)
    (hvalue : value ∈ first) (hother : value ∈ second) : first = second := by
  by_contra hne
  have : Std.Symm (@List.Disjoint String) := ⟨fun _ _ => List.Disjoint.symm⟩
  exact h.disjoint.forall hfirst hsecond hne hvalue hother

/-! ## Folding -/

theorem sublist_foldGroups (union : List String) (groups : List (List String)) :
    (foldGroups union groups).2.Sublist groups := by
  induction groups generalizing union with
  | nil => exact List.Sublist.refl []
  | cons group rest ih =>
      rw [foldGroups]
      split
      · exact (ih _).cons group
      · exact (ih union).cons_cons group

theorem prefix_foldGroups (union : List String) (groups : List (List String)) :
    union <+: (foldGroups union groups).1 := by
  induction groups generalizing union with
  | nil => exact List.prefix_rfl
  | cons group rest ih =>
      rw [foldGroups]
      split
      · exact (prefix_addAll group union).trans (ih _)
      · exact ih union

/-- Of tidy groups those are kept that have no value of the union as it began. -/
theorem Tidy.mem_kept {groups : List (List String)} (h : Tidy groups) {union group : List String} :
    group ∈ (foldGroups union groups).2 ↔ group ∈ groups ∧ ∀ value ∈ group, value ∉ union := by
  induction groups generalizing union with
  | nil => simp [foldGroups]
  | cons first rest ih =>
      have hfirst := (List.pairwise_cons.mp h.disjoint).1
      rw [foldGroups]
      split
      · case isTrue hmeets =>
          obtain ⟨shared, hshared, hunion⟩ := hmeets
          rw [ih h.tail, List.mem_cons]
          constructor
          · rintro ⟨hrest, hout⟩
            exact ⟨.inr hrest, fun value hvalue hin =>
              hout value hvalue (mem_addAll.mpr (.inl hin))⟩
          · rintro ⟨rfl | hrest, hout⟩
            · exact absurd hunion (hout shared hshared)
            · refine ⟨hrest, fun value hvalue hin => ?_⟩
              rcases mem_addAll.mp hin with hin | hin
              · exact hout value hvalue hin
              · exact hfirst group hrest hin hvalue
      · case isFalse hapart =>
          rw [List.mem_cons, ih h.tail, List.mem_cons]
          constructor
          · rintro (rfl | ⟨hrest, hout⟩)
            · exact ⟨.inl rfl, fun value hvalue hin => hapart ⟨value, hvalue, hin⟩⟩
            · exact ⟨.inr hrest, hout⟩
          · rintro ⟨rfl | hrest, hout⟩
            · exact .inl rfl
            · exact .inr ⟨hrest, hout⟩

/-- The union of tidy groups has what it began with and the groups that have a value of that. -/
theorem Tidy.mem_union {groups : List (List String)} (h : Tidy groups) {union : List String}
    {value : String} : value ∈ (foldGroups union groups).1 ↔
      value ∈ union ∨ ∃ group ∈ groups, value ∈ group ∧ ∃ shared ∈ group, shared ∈ union := by
  induction groups generalizing union with
  | nil => simp [foldGroups]
  | cons first rest ih =>
      have hfirst := (List.pairwise_cons.mp h.disjoint).1
      rw [foldGroups]
      split
      · case isTrue hmeets =>
          rw [ih h.tail]
          constructor
          · rintro (hin | ⟨group, hgroup, hvalue, shared, hshared, hin⟩)
            · rcases mem_addAll.mp hin with hin | hin
              · exact .inl hin
              · exact .inr ⟨first, List.mem_cons_self, hin, hmeets⟩
            · rcases mem_addAll.mp hin with hin | hin
              · exact .inr ⟨group, List.mem_cons_of_mem _ hgroup, hvalue, shared, hshared, hin⟩
              · exact absurd hshared (hfirst group hgroup hin)
          · rintro (hin | ⟨group, hgroup, hvalue, shared, hshared, hin⟩)
            · exact .inl (mem_addAll.mpr (.inl hin))
            · rcases List.mem_cons.mp hgroup with rfl | hgroup
              · exact .inl (mem_addAll.mpr (.inr hvalue))
              · exact .inr ⟨group, hgroup, hvalue, shared, hshared, mem_addAll.mpr (.inl hin)⟩
      · case isFalse hapart =>
          rw [ih h.tail]
          refine or_congr_right ?_
          constructor
          · rintro ⟨group, hgroup, hvalue⟩
            exact ⟨group, List.mem_cons_of_mem _ hgroup, hvalue⟩
          · rintro ⟨group, hgroup, hvalue, hmeets⟩
            rcases List.mem_cons.mp hgroup with rfl | hgroup
            · exact absurd hmeets hapart
            · exact ⟨group, hgroup, hvalue, hmeets⟩

theorem not_mem_mergeMembers {key value : String} (h : value ∈ mergeMembers key) :
    mergeSep ∉ value.toList :=
  not_mem_of_mem_splitOn _ (mem_mergeMembers.mp h)

/-- A merge of two siblings keeps the groups tidy. -/
theorem Tidy.mergeInto {groups : List (List String)} (h : Tidy groups) (a b : String) :
    Tidy (mergeInto groups a b) := by
  have hkept := h.sublist (sublist_foldGroups (unionOf a b) groups)
  refine ⟨?_, ?_, ?_⟩
  · rw [Tree.mergeInto, List.pairwise_append]
    refine ⟨hkept.disjoint, List.pairwise_singleton _ _, ?_⟩
    intro group hgroup union hunion value hvalue hin
    rw [List.mem_singleton.mp hunion] at hin
    obtain ⟨hmem, hout⟩ := h.mem_kept.mp hgroup
    rcases h.mem_union.mp hin with hin | ⟨other, hother, hin, shared, hshared, hstart⟩
    · exact hout value hvalue hin
    · rw [h.eq hmem hother hvalue hin] at hout
      exact hout shared hshared hstart
  · intro group hgroup
    rcases List.mem_append.mp hgroup with hgroup | hgroup
    · exact hkept.nodup group hgroup
    · rw [List.mem_singleton.mp hgroup]
      exact nodup_foldGroups (nodup_unionOf a b)
  · intro group hgroup value hvalue
    rcases List.mem_append.mp hgroup with hgroup | hgroup
    · exact hkept.plain group hgroup value hvalue
    · rw [List.mem_singleton.mp hgroup] at hvalue
      rcases h.mem_union.mp hvalue with hin | ⟨other, hother, hin, -⟩
      · rcases mem_unionOf.mp hin with hin | hin <;> exact not_mem_mergeMembers hin
      · exact h.plain other hother value hin

/-! ## The buckets that tidy groups make -/

section

variable [Collation]

theorem mergeSep_mem_mergedKey {present : List String} (h : 2 ≤ present.length) :
    mergeSep ∈ (mergedKey present).toList := by
  have hlength := (List.mergeSort_perm present Collation.le).length_eq
  rw [mergedKey, toList_joinMembers]
  rcases hsorted : present.mergeSort Collation.le with _ | ⟨first, _ | ⟨second, rest⟩⟩
  · rw [hsorted, List.length_nil] at hlength
    omega
  · rw [hsorted, List.length_singleton] at hlength
    omega
  · simp [List.intercalate_cons_cons]

/-- A value has a bucket after a group that does not name it if it had one before. -/
theorem mem_keys_mergeGroup_apart {buckets merged : Buckets} {group : List String} {value : String}
    (hseparate : Separate buckets) (h : mergeGroup buckets group = some merged)
    (hplain : mergeSep ∉ value.toList) (hapart : value ∉ group) :
    value ∈ merged.keys ↔ value ∈ buckets.keys := by
  rw [Dict.mem_keys_iff, Dict.mem_keys_iff, mergeGroup_get? hseparate h]
  split
  · case isTrue hmany =>
      have hne : value ≠ mergedKey (presentMembers buckets group) := fun heq =>
        hplain (heq ▸ mergeSep_mem_mergedKey hmany)
      rw [if_neg hne, if_neg fun hpresent => hapart (mem_presentMembers.mp hpresent).1]
  · rfl

/-- A tidy group has the same buckets after another group. -/
theorem presentMembers_mergeGroup {buckets merged : Buckets} {group other : List String}
    (hseparate : Separate buckets) (h : mergeGroup buckets group = some merged)
    (hdisjoint : List.Disjoint group other) (hplain : ∀ value ∈ other, mergeSep ∉ value.toList) :
    presentMembers merged other = presentMembers buckets other := by
  refine List.filter_congr fun value hvalue => ?_
  have hiff := mem_keys_mergeGroup_apart hseparate h (hplain value hvalue)
    fun hin => hdisjoint hin hvalue
  rw [Dict.mem_keys_iff, Dict.mem_keys_iff, ← Option.isSome_iff_exists,
    ← Option.isSome_iff_exists] at hiff
  exact Bool.eq_iff_iff.mpr hiff

theorem memberRows_mergeGroup {buckets merged : Buckets} {group other : List String}
    (hseparate : Separate buckets) (h : mergeGroup buckets group = some merged)
    (hdisjoint : List.Disjoint group other) :
    memberRows merged (presentMembers buckets other) =
      memberRows buckets (presentMembers buckets other) := by
  refine List.flatMap_congr fun value hvalue => ?_
  obtain ⟨hin, hkey⟩ := mem_presentMembers.mp hvalue
  rw [mergeGroup_get?_apart hseparate h hkey fun _ hgroup => hdisjoint hgroup hin]

/-- A group with at least two values of rows has one bucket for all of them. -/
theorem Tidy.get?_mergedKey {groups : List (List String)} (htidy : Tidy groups)
    {buckets merged : Buckets} (hseparate : Separate buckets)
    (h : applyMerges buckets groups = some merged) {group : List String} (hgroup : group ∈ groups)
    (hmany : 2 ≤ (presentMembers buckets group).length) :
    merged.get? (mergedKey (presentMembers buckets group)) =
      some (memberRows buckets (presentMembers buckets group)) := by
  induction groups generalizing buckets with
  | nil => cases hgroup
  | cons first rest ih =>
      rw [applyMerges_cons] at h
      obtain ⟨next, hnext, hrest⟩ := Option.bind_eq_some_iff.mp h
      have hnextSeparate := hseparate.mergeGroup hnext
      rcases List.mem_cons.mp hgroup with rfl | hlater
      · have hstep := mergeGroup_get? hseparate hnext (mergedKey (presentMembers buckets group))
        rw [if_pos hmany, if_pos rfl] at hstep
        rw [applyMerges_get?_apart hnextSeparate hrest
          (Dict.mem_keys_iff.mpr ⟨_, hstep⟩) fun other hother hin =>
            htidy.plain other (List.mem_cons_of_mem _ hother) _ hin (mergeSep_mem_mergedKey hmany)]
        exact hstep
      · have hdisjoint := (List.pairwise_cons.mp htidy.disjoint).1 group hlater
        have hpresent := presentMembers_mergeGroup hseparate hnext hdisjoint
          (htidy.plain group hgroup)
        have hlast := ih htidy.tail hnextSeparate hrest hlater (hpresent ▸ hmany)
        rwa [hpresent, memberRows_mergeGroup hseparate hnext hdisjoint] at hlast

/-- A value keeps its bucket when no group has it with another value of rows. -/
theorem Tidy.get?_alone {groups : List (List String)} (htidy : Tidy groups)
    {buckets merged : Buckets} (hseparate : Separate buckets)
    (h : applyMerges buckets groups = some merged) {value : String}
    (hvalue : value ∈ buckets.keys)
    (halone : ∀ group ∈ groups, value ∈ group → (presentMembers buckets group).length < 2) :
    merged.get? value = buckets.get? value := by
  induction groups generalizing buckets with
  | nil =>
      cases h
      rfl
  | cons first rest ih =>
      rw [applyMerges_cons] at h
      obtain ⟨next, hnext, hrest⟩ := Option.bind_eq_some_iff.mp h
      have hfirst := halone first List.mem_cons_self
      have hstep := mergeGroup_get?_apart hseparate hnext hvalue
        fun hmany hin => absurd (hfirst hin) (by omega)
      have hnextValue : value ∈ next.keys := by
        rw [Dict.mem_keys_iff, hstep]
        exact Dict.mem_keys_iff.mp hvalue
      rw [ih htidy.tail (hseparate.mergeGroup hnext) hrest hnextValue fun group hgroup hin => ?_,
        hstep]
      have hdisjoint := (List.pairwise_cons.mp htidy.disjoint).1 group hgroup
      rw [presentMembers_mergeGroup hseparate hnext hdisjoint
        (htidy.plain group (List.mem_cons_of_mem _ hgroup))]
      exact halone group (List.mem_cons_of_mem _ hgroup) hin

/-- Each bucket is that of a value which no group merges, or that of a group. -/
theorem Tidy.cases {groups : List (List String)} (htidy : Tidy groups) {buckets merged : Buckets}
    (hseparate : Separate buckets) (h : applyMerges buckets groups = some merged) {key : String}
    (hkey : key ∈ merged.keys) :
    (key ∈ buckets.keys ∧
      ∀ group ∈ groups, key ∈ group → (presentMembers buckets group).length < 2) ∨
    ∃ group ∈ groups, 2 ≤ (presentMembers buckets group).length ∧
      key = mergedKey (presentMembers buckets group) := by
  induction groups generalizing buckets with
  | nil =>
      cases h
      exact .inl ⟨hkey, fun group hgroup => absurd hgroup List.not_mem_nil⟩
  | cons first rest ih =>
      rw [applyMerges_cons] at h
      obtain ⟨next, hnext, hrest⟩ := Option.bind_eq_some_iff.mp h
      have hpresent : ∀ group ∈ rest, presentMembers next group = presentMembers buckets group :=
        fun group hgroup => presentMembers_mergeGroup hseparate hnext
          ((List.pairwise_cons.mp htidy.disjoint).1 group hgroup)
          (htidy.plain group (List.mem_cons_of_mem _ hgroup))
      rcases ih htidy.tail (hseparate.mergeGroup hnext) hrest with
        ⟨hin, halone⟩ | ⟨group, hgroup, hmany, heq⟩
      · obtain ⟨inside, hinside⟩ := Dict.mem_keys_iff.mp hin
        rw [mergeGroup_get? hseparate hnext] at hinside
        have hlater : ∀ group ∈ rest, key ∈ group →
            (presentMembers buckets group).length < 2 := fun group hgroup hvalue =>
          hpresent group hgroup ▸ halone group hgroup hvalue
        by_cases hmany : 2 ≤ (presentMembers buckets first).length
        · rw [if_pos hmany] at hinside
          by_cases heq : key = mergedKey (presentMembers buckets first)
          · exact .inr ⟨first, List.mem_cons_self, hmany, heq⟩
          · rw [if_neg heq] at hinside
            split at hinside
            · cases hinside
            · case isFalse hout =>
                have hbucket : key ∈ buckets.keys := Dict.mem_keys_iff.mpr ⟨inside, hinside⟩
                refine .inl ⟨hbucket, List.forall_mem_cons.mpr ⟨fun hvalue => ?_, hlater⟩⟩
                exact absurd (mem_presentMembers.mpr ⟨hvalue, hbucket⟩) hout
        · rw [if_neg hmany] at hinside
          refine .inl ⟨Dict.mem_keys_iff.mpr ⟨inside, hinside⟩,
            List.forall_mem_cons.mpr ⟨fun _ => by omega, hlater⟩⟩
      · rw [hpresent group hgroup] at hmany heq
        exact .inr ⟨group, List.mem_cons_of_mem _ hgroup, hmany, heq⟩

/-! ## Two siblings of a level -/

variable {level : List Row} {dim : String} {groups : List (List String)} {merged : Buckets}

/-- The values of a merged bucket are those that its group has. -/
theorem mem_mergeMembers_present (hplain : ∀ row ∈ level, row.Plain) {group : List String}
    (hmany : 2 ≤ (presentMembers (bucketize level dim) group).length) {value : String} :
    value ∈ mergeMembers (mergedKey (presentMembers (bucketize level dim) group)) ↔
      value ∈ presentMembers (bucketize level dim) group := by
  rw [mem_mergeMembers_merged (List.ne_nil_of_length_pos (by omega))]
  constructor
  · rintro ⟨key, hkey, hvalue⟩
    rw [mergeMembers_bucketize hplain (mem_presentMembers.mp hkey).2, List.mem_singleton] at hvalue
    exact hvalue ▸ hkey
  · intro hvalue
    refine ⟨value, hvalue, ?_⟩
    rw [mergeMembers_bucketize hplain (mem_presentMembers.mp hvalue).2]
    exact List.mem_singleton_self value

/-- Two values of a group that have rows are in one bucket. -/
theorem Tidy.same_bucket (htidy : Tidy groups) (hplain : ∀ row ∈ level, row.Plain)
    (h : applyMerges (bucketize level dim) groups = some merged) {group : List String}
    (hgroup : group ∈ groups) {first second key : String} (hfirst : first ∈ group)
    (hsecond : second ∈ group) (hfirstRow : first ∈ (bucketize level dim).keys)
    (hsecondRow : second ∈ (bucketize level dim).keys) (hkey : key ∈ merged.keys)
    (hmember : first ∈ mergeMembers key) : second ∈ mergeMembers key := by
  by_cases hne : first = second
  · exact hne ▸ hmember
  · have hfirstPresent := mem_presentMembers.mpr ⟨hfirst, hfirstRow⟩
    have hsecondPresent := mem_presentMembers.mpr ⟨hsecond, hsecondRow⟩
    have hmany := two_le_length hfirstPresent hsecondPresent hne
    have hbucket := htidy.get?_mergedKey (separate_bucketize hplain dim) h hgroup hmany
    have hsame : key = mergedKey (presentMembers (bucketize level dim) group) := by
      by_contra hother
      exact (separate_bucketize hplain dim).applyMerges h key hkey _
        (Dict.mem_keys_iff.mpr ⟨_, hbucket⟩) hother first hmember
        ((mem_mergeMembers_present hplain hmany).mpr hfirstPresent)
    rw [hsame]
    exact (mem_mergeMembers_present hplain hmany).mpr hsecondPresent

/-- A bucket has the rows of its values. -/
theorem Tidy.mem_rows (htidy : Tidy groups) (hplain : ∀ row ∈ level, row.Plain)
    (h : applyMerges (bucketize level dim) groups = some merged) {key : String} {inside : List Row}
    (hinside : merged.get? key = some inside) (row : Row) :
    row ∈ inside ↔
      ∃ value ∈ mergeMembers key, row ∈ ((bucketize level dim).get? value).getD [] := by
  have hseparate := separate_bucketize hplain dim
  rcases htidy.cases hseparate h (Dict.mem_keys_iff.mpr ⟨inside, hinside⟩) with
    ⟨hkey, halone⟩ | ⟨group, hgroup, hmany, rfl⟩
  · rw [htidy.get?_alone hseparate h hkey halone] at hinside
    simp [mergeMembers_bucketize hplain hkey, hinside]
  · rw [htidy.get?_mergedKey hseparate h hgroup hmany, Option.some.injEq] at hinside
    rw [← hinside, memberRows, List.mem_flatMap]
    simp only [mem_mergeMembers_present hplain hmany]

/-- The union names no other value of rows than those of the two siblings. -/
theorem Tidy.present_union (htidy : Tidy groups) (hplain : ∀ row ∈ level, row.Plain)
    (h : applyMerges (bucketize level dim) groups = some merged) {kept : Buckets} {a b : String}
    (hkept : applyMerges (bucketize level dim) (foldGroups (unionOf a b) groups).2 = some kept)
    (ha : a ∈ merged.keys) (hb : b ∈ merged.keys) :
    presentMembers kept (foldGroups (unionOf a b) groups).1 = unionOf a b := by
  have hseparate := separate_bucketize hplain dim
  obtain ⟨extra, hextra⟩ := prefix_foldGroups (unionOf a b) groups
  have hnodup : (foldGroups (unionOf a b) groups).1.Nodup := nodup_foldGroups (nodup_unionOf a b)
  rw [← hextra] at hnodup
  have hstart : presentMembers kept (unionOf a b) = unionOf a b := by
    refine List.filter_eq_self.mpr fun value hvalue => ?_
    have hpresent : value ∈ presentMembers kept (foldGroups (unionOf a b) groups).1 := by
      rcases mem_unionOf.mp hvalue with hmember | hmember
      · exact member_mem_present hplain h hkept ha hmember hvalue
      · exact member_mem_present hplain h hkept hb hmember hvalue
    exact (List.mem_filter.mp hpresent).2
  have hrest : presentMembers kept extra = [] := by
    refine List.filter_eq_nil_iff.mpr fun value hvalue hbucket => ?_
    have hunion : value ∈ (foldGroups (unionOf a b) groups).1 := by
      rw [← hextra]
      exact List.mem_append_right _ hvalue
    have hout : value ∉ unionOf a b := fun hin => List.disjoint_of_nodup_append hnodup hin hvalue
    obtain ⟨group, hgroup, hin, shared, hshared, hmeets⟩ :=
      (htidy.mem_union.mp hunion).resolve_left hout
    have hbucket' : value ∈ kept.keys := Dict.mem_keys_iff.mpr (Option.isSome_iff_exists.mp hbucket)
    -- a value that has a bucket after the kept groups had one before
    have hrow : value ∈ (bucketize level dim).keys := by
      rcases (htidy.sublist (sublist_foldGroups _ _)).cases hseparate hkept hbucket' with
        ⟨hrow, -⟩ | ⟨other, hother, hmany, heq⟩
      · exact hrow
      · exact absurd (heq ▸ mergeSep_mem_mergedKey hmany) (htidy.plain group hgroup value hin)
    refine hout (mem_unionOf.mpr ?_)
    rcases mem_unionOf.mp hmeets with hmember | hmember
    · exact .inl (htidy.same_bucket hplain h hgroup hshared hin
        (member_mem_bucketize hplain h ha hmember) hrow ha hmember)
    · exact .inr (htidy.same_bucket hplain h hgroup hshared hin
        (member_mem_bucketize hplain h hb hmember) hrow hb hmember)
  rw [← hextra, presentMembers, List.filter_append]
  exact (congrArg₂ (· ++ ·) hstart hrest).trans (List.append_nil _)

/-- The groups that are kept are merged without a fault. -/
theorem Tidy.kept (htidy : Tidy groups) (hplain : ∀ row ∈ level, row.Plain) (dim : String)
    (union : List String) :
    ∃ kept, applyMerges (bucketize level dim) (foldGroups union groups).2 = some kept := by
  have honce : NamesOnce (bucketize level dim) (foldGroups union groups).2 := by
    intro earlier group later hgroups next _
    have hgroup : group ∈ (foldGroups union groups).2 := by simp [hgroups]
    exact (htidy.nodup group ((sublist_foldGroups union groups).subset hgroup)).filter _
  obtain ⟨kept, hkept, -⟩ := applyMerges_spec (separate_bucketize hplain dim) honce
  exact ⟨kept, hkept⟩

/-- Another bucket than those of the siblings is made by the groups that are kept, and the union
does not name it. -/
theorem Tidy.kept_bucket (htidy : Tidy groups) (hplain : ∀ row ∈ level, row.Plain)
    (h : applyMerges (bucketize level dim) groups = some merged) {a b value : String}
    {inside : List Row} (ha : a ∈ merged.keys) (hb : b ∈ merged.keys)
    (hvalue : merged.get? value = some inside) (hav : a ≠ value) (hbv : b ≠ value) :
    ∃ kept, applyMerges (bucketize level dim) (foldGroups (unionOf a b) groups).2 = some kept ∧
      kept.get? value = some inside ∧ value ∉ (foldGroups (unionOf a b) groups).1 := by
  have hseparate := separate_bucketize hplain dim
  have hkey : value ∈ merged.keys := Dict.mem_keys_iff.mpr ⟨inside, hvalue⟩
  have htidyKept := htidy.sublist (sublist_foldGroups (unionOf a b) groups)
  obtain ⟨kept, hkept⟩ := htidy.kept hplain dim (unionOf a b)
  -- a value of the siblings is none of the bucket
  have hapart : ∀ member ∈ mergeMembers value, member ∉ unionOf a b := by
    intro member hmember hunion
    rcases mem_unionOf.mp hunion with hin | hin
    · exact hseparate.applyMerges h a ha value hkey hav member hin hmember
    · exact hseparate.applyMerges h b hb value hkey hbv member hin hmember
  have hrow : ∀ shared ∈ unionOf a b, shared ∈ (bucketize level dim).keys := by
    intro shared hshared
    rcases mem_unionOf.mp hshared with hin | hin
    · exact member_mem_bucketize hplain h ha hin
    · exact member_mem_bucketize hplain h hb hin
  -- a group with a value of the siblings has none of the bucket
  have hgroupApart : ∀ group ∈ groups, ∀ shared ∈ group, shared ∈ unionOf a b →
      ∀ member ∈ mergeMembers value, member ∉ group := by
    intro group hgroup shared hshared hmeets member hmember hin
    exact hapart shared (htidy.same_bucket hplain h hgroup hin hshared
      (member_mem_bucketize hplain h hkey hmember) (hrow shared hmeets) hkey hmember) hmeets
  refine ⟨kept, hkept, ?_, fun hin => ?_⟩
  · rcases htidy.cases hseparate h hkey with ⟨hstart, halone⟩ | ⟨group, hgroup, hmany, rfl⟩
    · rw [htidyKept.get?_alone hseparate hkept hstart fun group hgroup =>
        halone group ((sublist_foldGroups _ _).subset hgroup),
        ← htidy.get?_alone hseparate h hstart halone]
      exact hvalue
    · obtain ⟨first, hfirst⟩ := List.exists_mem_of_length_pos (Nat.lt_of_lt_of_le Nat.two_pos hmany)
      have hfirstMember := (mem_mergeMembers_present hplain hmany).mpr hfirst
      have hin : group ∈ (foldGroups (unionOf a b) groups).2 := by
        refine htidy.mem_kept.mpr ⟨hgroup, fun shared hshared hmeets => ?_⟩
        exact hgroupApart group hgroup shared hshared hmeets first hfirstMember
          (mem_presentMembers.mp hfirst).1
      rw [htidyKept.get?_mergedKey hseparate hkept hin hmany,
        ← htidy.get?_mergedKey hseparate h hgroup hmany]
      exact hvalue
  · have hsep : mergeSep ∉ value.toList := by
      rcases htidy.mem_union.mp hin with hin | ⟨group, hgroup, hin, -⟩
      · rcases mem_unionOf.mp hin with hin | hin <;> exact not_mem_mergeMembers hin
      · exact htidy.plain group hgroup value hin
    have hself : value ∈ mergeMembers value := by
      rw [mergeMembers_plain hsep]
      exact List.mem_singleton_self value
    rcases htidy.mem_union.mp hin with hin | ⟨group, hgroup, hin, shared, hshared, hmeets⟩
    · exact hapart value hself hin
    · exact hgroupApart group hgroup shared hshared hmeets value hself hin

/-- The bucket of the merged siblings has the key that was computed, and the rows of both. -/
theorem Tidy.merged_bucket (htidy : Tidy groups) (hplain : ∀ row ∈ level, row.Plain)
    (h : applyMerges (bucketize level dim) groups = some merged) {a b : String}
    {insideA insideB : List Row} (ha : merged.get? a = some insideA)
    (hb : merged.get? b = some insideB) (hab : a ≠ b) :
    ∃ next inside, applyMerges (bucketize level dim) (Tree.mergeInto groups a b) = some next ∧
      next.get? (mergedKey (unionOf a b)) = some inside ∧
      ∀ row, row ∈ inside ↔ row ∈ insideA ∨ row ∈ insideB := by
  have hseparate := separate_bucketize hplain dim
  have hkeyA : a ∈ merged.keys := Dict.mem_keys_iff.mpr ⟨_, ha⟩
  have hkeyB : b ∈ merged.keys := Dict.mem_keys_iff.mpr ⟨_, hb⟩
  obtain ⟨kept, hkept⟩ := htidy.kept hplain dim (unionOf a b)
  have hkeptSeparate := hseparate.applyMerges hkept
  have hpresent := htidy.present_union hplain h hkept hkeyA hkeyB
  obtain ⟨next, hnext, -⟩ := mergeGroup_spec hkeptSeparate
    ((nodup_foldGroups (nodup_unionOf a b)).filter _ :
      (presentMembers kept (foldGroups (unionOf a b) groups).1).Nodup)
  obtain ⟨first, hfirst⟩ := List.exists_mem_of_ne_nil _ (mergeMembers_ne_nil a)
  obtain ⟨second, hsecond⟩ := List.exists_mem_of_ne_nil _ (mergeMembers_ne_nil b)
  have hmany : 2 ≤ (unionOf a b).length :=
    two_le_length (mem_unionOf.mpr (.inl hfirst)) (mem_unionOf.mpr (.inr hsecond)) fun heq =>
      hseparate.applyMerges h a hkeyA b hkeyB hab first hfirst (heq ▸ hsecond)
  have hbucket := mergeGroup_get? hkeptSeparate hnext (mergedKey (unionOf a b))
  rw [hpresent, if_pos hmany, if_pos rfl] at hbucket
  refine ⟨next, _, ?_, hbucket, fun row => ?_⟩
  · rw [Tree.mergeInto, applyMerges_append, hkept, Option.bind_some, applyMerges_singleton, hnext]
  · rw [htidy.mem_rows hplain h ha, htidy.mem_rows hplain h hb, memberRows, List.mem_flatMap]
    have hsame : ∀ value ∈ unionOf a b, kept.get? value = (bucketize level dim).get? value := by
      intro value hvalue
      refine applyMerges_get?_apart hseparate hkept ?_ fun group hgroup =>
        not_mem_of_kept hgroup hvalue
      rcases mem_unionOf.mp hvalue with hmember | hmember
      · exact member_mem_bucketize hplain h hkeyA hmember
      · exact member_mem_bucketize hplain h hkeyB hmember
    constructor
    · rintro ⟨value, hvalue, hrow⟩
      rw [hsame value hvalue] at hrow
      exact (mem_unionOf.mp hvalue).imp (fun hmember => ⟨value, hmember, hrow⟩)
        fun hmember => ⟨value, hmember, hrow⟩
    · rintro (⟨value, hmember, hrow⟩ | ⟨value, hmember, hrow⟩)
      · have hvalue := mem_unionOf.mpr (.inl hmember : _ ∨ value ∈ mergeMembers b)
        exact ⟨value, hvalue, hsame value hvalue ▸ hrow⟩
      · have hvalue := mem_unionOf.mpr (.inr hmember : value ∈ mergeMembers a ∨ _)
        exact ⟨value, hvalue, hsame value hvalue ▸ hrow⟩

end

end IsePortal.Tree
