import IsePortal.Service.ListAgreement
import IsePortal.Policy.MatchEndpoint

/-!
# Pages of a warm cache

Every page takes its own snapshot of the cache, searches it, sorts it and cuts one piece out of it.
Between two pages the clock, the settings and ISE may change, and with them the badge of an
endpoint; the cache stays as it is. The pieces are then cut out of one list (`Listed`): its order,
ties included, does not depend on the snapshot.
-/

namespace IsePortal

open Library EndpointCache

section Paging

variable [PyText] [DetailCodec]

/-- A cached endpoint under its key. -/
abbrev Held := EndpointId × CachedEntry EndpointDetail

/-- The cached endpoints the caller sees and the search finds, each once and sorted by
`d.mac or d.name`. -/
structure Listed (cache : EndpointCache EndpointDetail) (effectiveRoles : Option (List String))
    (search : Option String) (listed : List Held) : Prop where
  once : (listed.map Prod.fst).Nodup
  mem : ∀ endpointId entry, (endpointId, entry) ∈ listed ↔
    cache.details.get? endpointId = some entry ∧ Sees effectiveRoles entry.value ∧
      SearchFinds search entry.value
  sorted : listed.Pairwise fun first second => sortKey first.2.value ≤ sortKey second.2.value

/-- A detail without its badge. -/
def EndpointDetail.unmarked (detail : EndpointDetail) : EndpointDetail :=
  { detail with cacheStale := false }

/-! ## What a page makes of an entry -/

omit [PyText] [DetailCodec] in
/-- How a page shows an endpoint of the snapshot. -/
def PortalState.shown (portal : PortalState) (isPskEditor : Bool) (held : Held) : EndpointDetail :=
  maskFor isPskEditor { held.2.value with cacheStale := portal.isStale held.2 }

section Shown

variable {portal : PortalState} {isPskEditor : Bool} {held : Held}

omit [PyText] [DetailCodec] in
theorem unmarked_shown : (portal.shown isPskEditor held).unmarked =
    (maskFor isPskEditor held.2.value).unmarked := by
  unfold PortalState.shown maskFor maskPsk
  split
  · rfl
  · split
    · rfl
    · rfl

omit [PyText] [DetailCodec] in
/-- Neither the badge nor the mask is part of the order. -/
theorem sort_key_shown : sortKey (portal.shown isPskEditor held) = sortKey held.2.value := by
  unfold PortalState.shown maskFor maskPsk
  split
  · rfl
  · split
    · rfl
    · rfl

omit [DetailCodec] in
theorem search_finds_shown {search : Option String} :
    SearchFinds search (portal.shown isPskEditor held) ↔ SearchFinds search held.2.value := by
  unfold PortalState.shown maskFor maskPsk
  split
  · exact Iff.rfl
  · split
    · exact Iff.rfl
    · exact Iff.rfl

end Shown

/-! ## The list behind the pages -/

section Behind

variable {portal : PortalState} {effectiveRoles : Option (List String)} {search : Option String}

/-- The entries a snapshot goes through, in its order. -/
def snapshotEntries (lookups : Lookups) (cache : EndpointCache EndpointDetail)
    (effectiveRoles : Option (List String)) : List Held :=
  match effectiveRoles with
  | none => cache.details.entries
  | some roles => (lookups.setOrder (cache.getIdsForRoles roles)).filterMap fun endpointId =>
      (cache.details.get? endpointId).map fun entry => (endpointId, entry)

/-- The snapshot has each visible entry of the cache once. -/
theorem snapshot_entries_mem {lookups : Lookups} {cache : EndpointCache EndpointDetail}
    (h : RepInv cache) (horder : EnumeratesSets lookups) (endpointId : EndpointId)
    (entry : CachedEntry EndpointDetail) :
    (endpointId, entry) ∈ snapshotEntries lookups cache effectiveRoles ↔
      cache.details.get? endpointId = some entry ∧ Sees effectiveRoles entry.value := by
  cases effectiveRoles with
  | none => exact Dict.get?_eq_some_iff.symm.trans (and_iff_left sees_none).symm
  | some roles =>
      simp only [snapshotEntries, List.mem_filterMap, Option.map_eq_some_iff, Prod.mk.injEq,
        horder.mem, mem_get_ids_for_roles_iff h, sees_some]
      constructor
      · rintro ⟨_, ⟨other, hother, hvisible⟩, _, hentry, rfl, rfl⟩
        rw [hother] at hentry
        cases hentry
        exact ⟨hother, hvisible⟩
      · rintro ⟨hentry, hvisible⟩
        exact ⟨endpointId, ⟨entry, hentry, hvisible⟩, entry, hentry, rfl, rfl⟩

omit [DetailCodec] in
theorem snapshot_entries_nodup {lookups : Lookups} (cache : EndpointCache EndpointDetail)
    (horder : EnumeratesSets lookups) :
    ((snapshotEntries lookups cache effectiveRoles).map Prod.fst).Nodup := by
  cases effectiveRoles with
  | none => exact cache.details.nodup
  | some roles =>
      have hsub : ∀ ids : List EndpointId,
          ((ids.filterMap fun endpointId =>
            (cache.details.get? endpointId).map fun entry => (endpointId, entry)).map
              Prod.fst).Sublist ids := by
        intro ids
        induction ids with
        | nil => exact List.Sublist.refl _
        | cons first rest ih =>
            cases hget : cache.details.get? first with
            | none =>
                rw [List.filterMap_cons_none (by rw [hget]; rfl)]
                exact ih.cons first
            | some entry =>
                rw [List.filterMap_cons_some (by rw [hget]; rfl)]
                exact ih.cons_cons first
      exact (horder.nodup _).sublist (hsub _)

omit [DetailCodec] in
/-- The search keeps the same entries, whatever they are shown as. -/
theorem search_filter_map (search : Option String) (entries : List Held) :
    ∃ found : List Held, found.Sublist entries ∧
      (∀ held, held ∈ found ↔ held ∈ entries ∧ SearchFinds search held.2.value) ∧
      ∀ (portal : PortalState) (isPskEditor : Bool),
        searchFilter search (entries.map (portal.shown isPskEditor)) =
          found.map (portal.shown isPskEditor) := by
  classical
  refine ⟨entries.filter fun held => decide (SearchFinds search held.2.value),
    List.filter_sublist, fun held => by simp [List.mem_filter], fun portal isPskEditor => ?_⟩
  have hfilter : ∀ items : List EndpointDetail,
      searchFilter search items =
        items.filter fun detail => decide (SearchFinds search detail) := by
    intro items
    unfold searchFilter SearchFinds
    cases search with
    | none => simp
    | some text =>
        by_cases hempty : text = ""
        · simp [hempty]
        · simp [hempty]
  rw [hfilter, List.filter_map]
  refine congrArg (List.map _) (List.filter_congr fun held _ => ?_)
  exact decide_eq_decide.mpr search_finds_shown

/-- Every snapshot of the cache, searched and sorted, shows one and the same list. -/
theorem listed_exists {lookups : Lookups} {cache : EndpointCache EndpointDetail} (h : RepInv cache)
    (horder : EnumeratesSets lookups) (effectiveRoles : Option (List String))
    (search : Option String) :
    ∃ listed, Listed cache effectiveRoles search listed ∧
      ∀ (portal : PortalState) (isPskEditor : Bool),
        sortDetails (searchFilter search ((snapshotEntries lookups cache effectiveRoles).map
          (portal.shown isPskEditor))) = listed.map (portal.shown isPskEditor) := by
  obtain ⟨found, hsub, hfound, hshown⟩ :=
    search_filter_map search (snapshotEntries lookups cache effectiveRoles)
  have hperm := List.mergeSort_perm found fun first second =>
    decide (sortKey first.2.value ≤ sortKey second.2.value)
  refine ⟨found.mergeSort fun first second =>
    decide (sortKey first.2.value ≤ sortKey second.2.value), ⟨?_, ?_, ?_⟩, ?_⟩
  · refine (hperm.map Prod.fst).nodup_iff.mpr ?_
    exact (snapshot_entries_nodup cache horder).sublist (hsub.map Prod.fst)
  · intro endpointId entry
    rw [hperm.mem_iff, hfound, snapshot_entries_mem h horder, and_assoc]
  · exact pairwise_mergeSort_key (fun held : Held => sortKey held.2.value) found
  · intro portal isPskEditor
    rw [hshown, sortDetails]
    refine (List.map_mergeSort fun first _ second _ => ?_).symm
    rw [sort_key_shown, sort_key_shown]

end Behind

/-! ## The pages -/

variable {lookups : Lookups}

/-- A page of a warm cache, as it is cut from its snapshot. -/
theorem list_endpoint_details_warm {portal : PortalState}
    (hwarm : 0 < portal.cache.details.size) (page size : Nat) (search : Option String)
    (filters : List String) (effectiveRoles : Option (List String)) (isPskEditor : Bool) :
    let items := sortDetails (searchFilter search
      ((snapshotEntries lookups portal.cache effectiveRoles).map (portal.shown isPskEditor)))
    portal.listEndpointDetails lookups page size search filters effectiveRoles isPskEditor =
      { items := (items.drop ((page - 1) * size)).take size
        total := items.length, page := page, size := size } := by
  unfold PortalState.listEndpointDetails
  rw [if_pos hwarm]
  cases effectiveRoles with
  | none =>
      simp only [buildDetailPage, PortalState.snapshotAllDetails, List.map_map]
      rfl
  | some roles =>
      simp only [buildDetailPage, PortalState.snapshotDetailsForRoles, snapshotEntries,
        List.map_filterMap, Option.map_map]
      rfl

/-- While the cache stays the same, the pages one after the other are the cached endpoints the
caller sees and the search finds, each once and in order, and every page has their number for its
total. -/
theorem pages_each_once (ops : List (CacheOp EndpointDetail)) (portals : Nat → PortalState)
    (hsame : ∀ number, (portals number).cache = afterOps ops)
    (hwarm : 0 < (afterOps ops).details.size) (horder : EnumeratesSets lookups)
    (search : Option String) (filters : List String) (effectiveRoles : Option (List String))
    (isPskEditor : Bool) {size : Nat} (hsize : 1 ≤ size) :
    ∃ listed, Listed (afterOps ops) effectiveRoles search listed ∧
      (allPages (fun number => (portals number).listEndpointDetails lookups number size search
        filters effectiveRoles isPskEditor) size).map EndpointDetail.unmarked =
          (listed.map fun held => (maskFor isPskEditor held.2.value).unmarked) ∧
      ∀ number, ((portals number).listEndpointDetails lookups number size search filters
        effectiveRoles isPskEditor).total = listed.length := by
  obtain ⟨listed, hlisted, hshown⟩ :=
    listed_exists (after_ops_rep ops) horder effectiveRoles search
  have hpage : ∀ number, (portals number).listEndpointDetails lookups number size search filters
      effectiveRoles isPskEditor =
        { items := ((listed.drop ((number - 1) * size)).take size).map
            ((portals number).shown isPskEditor)
          total := listed.length, page := number, size := size } := by
    intro number
    rw [list_endpoint_details_warm (by rw [hsame]; exact hwarm), hsame, hshown]
    simp only [List.map_drop, List.map_take, List.length_map]
  refine ⟨listed, hlisted, ?_, fun number => by rw [hpage]⟩
  -- without their badges the pages are cut from one list of details
  have hpages : allPages (fun number =>
      { items := ((listed.map fun held => (maskFor isPskEditor held.2.value).unmarked).drop
          ((number - 1) * size)).take size
        total := listed.length }) size =
            listed.map fun held => (maskFor isPskEditor held.2.value).unmarked :=
    all_pages_eq hsize (fun _ => (List.length_map _).symm) (fun _ => rfl)
  rw [← hpages, allPages, allPages, List.map_flatMap]
  simp only [hpage, List.map_map, List.map_take, List.map_drop]
  refine List.flatMap_congr fun index _ => ?_
  simp only [Function.comp_def, unmarked_shown]

end Paging

/-! ## Two printers with one MAC -/

section Examples

local instance pagedText : PyText := asciiText

local instance pagedCodec : DetailCodec := plainJson

/-- Two printers are put in the cache under one MAC. -/
def twinOps : List (CacheOp EndpointDetail) :=
  [.putDetail {} 100 "ep-1" (fetchEndpointDetail sortedLookups "ep-1" printer) false,
    .putDetail {} 100 "ep-2" (fetchEndpointDetail sortedLookups "ep-2" printer) false]

/-- The first page is read while the entries are fresh, the others when they are stale. -/
def twinPortals (number : Nat) : PortalState where
  now := if number ≤ 1 then 110 else 5000
  ise := printerIse
  cache := afterOps twinOps

theorem twins_each_once : ∃ listed, Listed (afterOps twinOps) none none listed ∧
    (allPages (fun number => (twinPortals number).listEndpointDetails sortedLookups number 1 none
      [] none true) 1).map EndpointDetail.unmarked =
        (listed.map fun held => (maskFor true held.2.value).unmarked) ∧
    ∀ number, ((twinPortals number).listEndpointDetails sortedLookups number 1 none [] none
      true).total = listed.length :=
  pages_each_once twinOps twinPortals (fun _ => rfl) (by with_unfolding_all decide)
    sorted_enumerates none [] none true (le_refl 1)

end Examples

end IsePortal
