import IsePortal.Service.EndpointReads

/-!
# Where a returned value comes from

The reads of the service again, each value with the endpoint it is of and with where it came from:
`map_served` says that these reads return what the service returns. The flag `cache_stale` is set
by `get_detail`, overwritten by `get_endpoint`, set by the pages and copied from the cached value
by the admin listing; `badge` collects the rules, and `cache_stale_served` says that they are the
rules.
-/

namespace IsePortal

open Library EndpointCache

/-- Where a value comes from. -/
inductive Origin where
  /-- `get_endpoint`, from ISE; the entry is the one it is stored as. -/
  | fetched (entry : CachedEntry EndpointDetail)
  /-- `get_endpoint`, from its entry. -/
  | cached (entry : CachedEntry EndpointDetail)
  /-- `get_endpoint`, from its entry because the fetch failed. -/
  | fallback (entry : CachedEntry EndpointDetail)
  /-- The row of a listing, because the fetch failed and there is no entry. -/
  | summary
  /-- A page of cached entries. -/
  | page (entry : CachedEntry EndpointDetail)
  /-- The listing of all cached values for an admin. -/
  | allCached (entry : CachedEntry EndpointDetail)

/-- A value a read returns. -/
structure Served where
  endpointId : EndpointId
  detail : EndpointDetail
  origin : Origin

/-- The requests that return endpoint values. -/
inductive DetailRequest where
  | getEndpoint (endpointId : EndpointId) (effectiveRoles : Option (List String))
      (isPskEditor forceFresh : Bool)
  | listEndpointDetails (page size : Nat) (search : Option String) (filters : List String)
      (effectiveRoles : Option (List String)) (isPskEditor : Bool)
  | listAllEndpointDetails (search : Option String) (filters : List String)
      (effectiveRoles : Option (List String)) (isPskEditor : Bool) (fullTextQ : Option String)

section Reads

variable [PyText]

/-- A filter on details lets the value through. -/
def passes (keep : List EndpointDetail → List EndpointDetail) (served : Served) : Bool :=
  !(keep [served.detail]).isEmpty

/-- `items.sort(key=lambda d: d.mac or d.name)` -/
def sortServed (items : List Served) : List Served :=
  items.mergeSort fun first second => decide (sortKey first.detail ≤ sortKey second.detail)

variable [DetailCodec]

namespace PortalState

variable (lookups : Lookups) (portal : PortalState)

/-- What `put_detail` stores for a value that has just been fetched. -/
def fetchedEntry (endpointId : EndpointId) (detail : EndpointDetail) :
    CachedEntry EndpointDetail where
  value := detail
  fetchedAt := portal.now
  changeEma := nextEma portal.cache endpointId false (CacheValue.hashValue detail)

/-- A value that was read from ISE; without an answer there is no value. -/
def fetchedOrigin (endpointId : EndpointId) : Origin :=
  match portal.fetchDetail lookups endpointId with
  | .ok detail => .fetched (portal.fetchedEntry endpointId detail)
  | .error _ => .summary

/-- Where `get_detail` takes its value from. -/
def origin (endpointId : EndpointId) (forceFresh : Bool) : Origin :=
  if portal.cfg.cacheEnabled then
    match portal.cache.details.get? endpointId with
    | none => portal.fetchedOrigin lookups endpointId
    | some entry =>
        if !forceFresh && (entry.fromDisk ||
            decide (portal.now - entry.fetchedAt ≤
              effectiveTtlForEntry entry portal.cfg.cacheTtlSeconds) ||
            portal.cfg.cacheStaleWhileRevalidate &&
              staleServable portal.cfg portal.now entry) then .cached entry
        else
          match portal.fetchDetail lookups endpointId with
          | .ok detail => .fetched (portal.fetchedEntry endpointId detail)
          | .error _ => .fallback entry
  else portal.fetchedOrigin lookups endpointId

/-- A value `get_endpoint` returns. -/
def serveEndpoint (endpointId : EndpointId) (forceFresh : Bool) (detail : EndpointDetail) :
    Served where
  endpointId := endpointId
  detail := detail
  origin := portal.origin lookups endpointId forceFresh

/-- An entry of a snapshot. -/
def servePage (isPskEditor : Bool) (endpointId : EndpointId)
    (entry : CachedEntry EndpointDetail) : Served where
  endpointId := endpointId
  detail := maskFor isPskEditor { entry.value with cacheStale := portal.isStale entry }
  origin := .page entry

/-- `fetch_one` of the listings from ISE. -/
def serveOne (isPskEditor : Bool) (row : RawSummary) : Served :=
  match portal.getEndpoint lookups row.id none isPskEditor false with
  | .ok detail => portal.serveEndpoint lookups row.id false detail
  | .error _ =>
      { endpointId := row.id, detail := summaryDetail lookups row, origin := .summary }

/-- What a listing makes of the rows ISE lists. -/
def serveRows (isPskEditor : Bool) (effectiveRoles : Option (List String))
    (rows : List RawSummary) : List Served :=
  let items := rows.map (portal.serveOne lookups isPskEditor)
  match effectiveRoles with
  | none => items
  | some roles => items.filter fun served => endpointVisible served.detail roles

/-- `_build_detail_page`, from the snapshot of `list_endpoint_details`. -/
def serveSnapshot (effectiveRoles : Option (List String)) (isPskEditor : Bool) : List Served :=
  match effectiveRoles with
  | some roles =>
      (lookups.setOrder (portal.cache.getIdsForRoles roles)).filterMap fun endpointId =>
        (portal.cache.details.get? endpointId).map (portal.servePage isPskEditor endpointId)
  | none =>
      portal.cache.details.entries.map fun entry => portal.servePage isPskEditor entry.1 entry.2

/-- The entries `list_all_endpoint_details` takes from the cache. -/
def serveCached (effectiveRoles : Option (List String)) (isPskEditor : Bool) : List Served :=
  match effectiveRoles with
  | some roles =>
      (lookups.setOrder (portal.cache.getIdsForRoles roles)).filterMap fun endpointId =>
        (portal.getEndpoint lookups endpointId none isPskEditor false).toOption.map
          (portal.serveEndpoint lookups endpointId false)
  | none =>
      portal.cache.details.entries.map fun entry =>
        { endpointId := entry.1
          detail := maskFor isPskEditor entry.2.value
          origin := .allCached entry.2 }

/-- The values a request returns. -/
def served : DetailRequest → List Served
  | .getEndpoint endpointId effectiveRoles isPskEditor forceFresh =>
      match portal.getEndpoint lookups endpointId effectiveRoles isPskEditor forceFresh with
      | .ok detail => [portal.serveEndpoint lookups endpointId forceFresh detail]
      | .error _ => []
  | .listEndpointDetails page size search filters effectiveRoles isPskEditor =>
      if 0 < portal.cache.details.size then
        ((sortServed ((portal.serveSnapshot lookups effectiveRoles isPskEditor).filter
          (passes (searchFilter search)))).drop ((page - 1) * size)).take size
      else
        match portal.ise.listPage page (min size 100) (combineFilters search filters) with
        | .error _ => []
        | .ok (rows, _) => portal.serveRows lookups isPskEditor effectiveRoles rows
  | .listAllEndpointDetails search filters effectiveRoles isPskEditor fullTextQ =>
      if (effectiveRoles.isSome || filters.isEmpty) &&
          decide (0 < portal.cache.details.size) then
        sortServed (((portal.serveCached lookups effectiveRoles isPskEditor).filter
          (passes (searchFilter search))).filter (passes (fullTextQuery fullTextQ)))
      else
        match portal.ise.listAll (combineFilters search filters) with
        | .error _ => []
        | .ok rows =>
            (portal.serveRows lookups isPskEditor effectiveRoles rows).filter
              (passes (fullTextQuery fullTextQ))

/-- The endpoint values in the answer of the service. -/
def answered : DetailRequest → List EndpointDetail
  | .getEndpoint endpointId effectiveRoles isPskEditor forceFresh =>
      (portal.getEndpoint lookups endpointId effectiveRoles isPskEditor
        forceFresh).toOption.toList
  | .listEndpointDetails page size search filters effectiveRoles isPskEditor =>
      (portal.listEndpointDetails lookups page size search filters effectiveRoles
        isPskEditor).items
  | .listAllEndpointDetails search filters effectiveRoles isPskEditor fullTextQ =>
      portal.listAllEndpointDetails lookups search filters effectiveRoles isPskEditor fullTextQ

end PortalState

/-! ## The values are those of the service -/

omit [PyText] [DetailCodec] in
/-- Letting values through one by one is filtering their details. -/
theorem filter_passes {keep : List EndpointDetail → List EndpointDetail}
    {test : EndpointDetail → Bool} (hkeep : ∀ items, keep items = items.filter test)
    (items : List Served) :
    (items.filter (passes keep)).map Served.detail = keep (items.map Served.detail) := by
  rw [hkeep, List.filter_map]
  refine congrArg _ (List.filter_congr fun served _ => ?_)
  simp only [passes, hkeep, Function.comp_apply, List.filter_cons, List.filter_nil]
  cases test served.detail <;> rfl

omit [DetailCodec] in
theorem search_filter_passes (search : Option String) (items : List Served) :
    (items.filter (passes (searchFilter search))).map Served.detail =
      searchFilter search (items.map Served.detail) := by
  cases search with
  | none => exact filter_passes (fun details => (List.filter_true details).symm) items
  | some text =>
      by_cases hempty : text = ""
      · have hall : ∀ details, searchFilter (some text) details = details.filter fun _ => true :=
          fun details => by simp [searchFilter, hempty]
        exact filter_passes hall items
      · exact filter_passes (fun _ => if_neg hempty) items

omit [DetailCodec] in
theorem full_text_query_passes (fullTextQ : Option String) (items : List Served) :
    (items.filter (passes (fullTextQuery fullTextQ))).map Served.detail =
      fullTextQuery fullTextQ (items.map Served.detail) := by
  cases fullTextQ with
  | none => exact filter_passes (fun details => (List.filter_true details).symm) items
  | some q =>
      by_cases hempty : q = "" ∨ PyText.lower (PyText.strip q) = ""
      · have hall : ∀ details, fullTextQuery (some q) details =
            details.filter fun _ => true := by
          intro details
          rcases hempty with hempty | hblank
          · simp [fullTextQuery, hempty]
          · simp [fullTextQuery, fullTextFilter, hblank]
        exact filter_passes hall items
      · rw [not_or] at hempty
        exact filter_passes (fun _ => (if_neg hempty.1).trans (if_neg hempty.2)) items

omit [PyText] [DetailCodec] in
theorem map_sort_served (items : List Served) :
    (sortServed items).map Served.detail = sortDetails (items.map Served.detail) :=
  List.map_mergeSort fun _ _ _ _ => rfl

namespace PortalState

variable (lookups : Lookups) (portal : PortalState)

theorem map_serve_rows (isPskEditor : Bool) (effectiveRoles : Option (List String))
    (rows : List RawSummary) :
    (portal.serveRows lookups isPskEditor effectiveRoles rows).map Served.detail =
      match effectiveRoles with
      | none => rows.map (portal.fetchOne lookups isPskEditor)
      | some roles =>
          (rows.map (portal.fetchOne lookups isPskEditor)).filter (endpointVisible · roles) := by
  have hitems : (rows.map (portal.serveOne lookups isPskEditor)).map Served.detail =
      rows.map (portal.fetchOne lookups isPskEditor) := by
    rw [List.map_map]
    refine List.map_congr_left fun row _ => ?_
    simp only [Function.comp_apply, serveOne, fetchOne]
    cases portal.getEndpoint lookups row.id none isPskEditor false <;> rfl
  unfold serveRows
  cases effectiveRoles with
  | none => exact hitems
  | some roles =>
      simp only
      rw [← hitems]
      exact (List.filter_map (f := Served.detail) (p := (endpointVisible · roles))).symm

/-- The snapshot a page is built from. -/
def snapshot (effectiveRoles : Option (List String)) : List (EndpointDetail × Bool) :=
  match effectiveRoles with
  | some roles => portal.snapshotDetailsForRoles lookups roles
  | none => portal.snapshotAllDetails

omit [DetailCodec] in
theorem map_serve_snapshot (effectiveRoles : Option (List String)) (isPskEditor : Bool) :
    (portal.serveSnapshot lookups effectiveRoles isPskEditor).map Served.detail =
      (portal.snapshot lookups effectiveRoles).map fun entry =>
        maskFor isPskEditor { entry.1 with cacheStale := entry.2 } := by
  cases effectiveRoles with
  | none =>
      simp only [serveSnapshot, snapshot, snapshotAllDetails, List.map_map]
      rfl
  | some roles =>
      simp only [serveSnapshot, snapshot, snapshotDetailsForRoles, List.map_filterMap,
        Option.map_map]
      rfl

theorem map_serve_cached (effectiveRoles : Option (List String)) (isPskEditor : Bool) :
    (portal.serveCached lookups effectiveRoles isPskEditor).map Served.detail =
      match effectiveRoles with
      | some roles =>
          (lookups.setOrder (portal.cache.getIdsForRoles roles)).filterMap fun endpointId =>
            (portal.getEndpoint lookups endpointId none isPskEditor false).toOption
      | none =>
          portal.cache.details.entries.map fun entry => maskFor isPskEditor entry.2.value := by
  cases effectiveRoles with
  | none =>
      simp only [serveCached, List.map_map]
      rfl
  | some roles =>
      simp only [serveCached, List.map_filterMap, Option.map_map]
      refine List.filterMap_congr fun endpointId _ => ?_
      exact Option.map_id'

/-- Reading with provenance returns what the service returns. -/
theorem map_served (request : DetailRequest) :
    (portal.served lookups request).map Served.detail = portal.answered lookups request := by
  cases request with
  | getEndpoint endpointId effectiveRoles isPskEditor forceFresh =>
      simp only [served, answered]
      cases portal.getEndpoint lookups endpointId effectiveRoles isPskEditor forceFresh <;> rfl
  | listEndpointDetails page size search filters effectiveRoles isPskEditor =>
      simp only [served, answered, listEndpointDetails]
      split
      · rw [List.map_take, List.map_drop, map_sort_served, search_filter_passes,
          map_serve_snapshot]
        cases effectiveRoles <;> rfl
      · cases portal.ise.listPage page (min size 100) (combineFilters search filters) with
        | error _ => rfl
        | ok listed =>
            obtain ⟨rows, total⟩ := listed
            simp only
            rw [map_serve_rows]
            cases effectiveRoles <;> rfl
  | listAllEndpointDetails search filters effectiveRoles isPskEditor fullTextQ =>
      simp only [served, answered]
      by_cases hpath : ((effectiveRoles.isSome || filters.isEmpty) &&
          decide (0 < portal.cache.details.size)) = true
      · rw [if_pos hpath, map_sort_served, full_text_query_passes, search_filter_passes,
          map_serve_cached]
        simp only [Bool.and_eq_true] at hpath
        unfold listAllEndpointDetails
        rw [hpath.2]
        cases effectiveRoles with
        | none =>
            have hfilters : filters.isEmpty = true := hpath.1
            rw [hfilters]
            rfl
        | some roles => rfl
      · rw [if_neg hpath]
        unfold listAllEndpointDetails
        rw [if_neg, if_neg]
        · cases portal.ise.listAll (combineFilters search filters) with
          | error _ => rfl
          | ok rows =>
              simp only
              rw [full_text_query_passes]
              exact congrArg (fullTextQuery fullTextQ)
                (map_serve_rows lookups portal isPskEditor effectiveRoles rows)
        · intro hroles
          refine hpath ?_
          simp only [Bool.and_eq_true] at hroles ⊢
          exact ⟨by rw [hroles.1, Bool.true_or], hroles.2⟩
        · intro hadmin
          refine hpath ?_
          simp only [Bool.and_eq_true] at hadmin ⊢
          exact ⟨by rw [hadmin.1.2, Bool.or_true], hadmin.2⟩

end PortalState

/-! ## Where the badge is set -/

namespace PortalState

variable (lookups : Lookups) (portal : PortalState)

/-- What the badge of a returned value goes by. -/
def badge (served : Served) : Bool :=
  match served.origin with
  | .fetched _ => !portal.cfg.cacheEnabled && portal.cache.isFromDisk served.endpointId
  | .cached entry | .fallback entry => entry.fromDisk
  | .summary => false
  | .page entry => portal.isStale entry
  | .allCached entry => entry.value.cacheStale

variable {lookups portal}

omit [PyText] [DetailCodec] in
theorem cache_stale_mask_for (isPskEditor : Bool) (detail : EndpointDetail) :
    (maskFor isPskEditor detail).cacheStale = detail.cacheStale := by
  unfold maskFor maskPsk
  split
  · rfl
  · split <;> rfl

omit [DetailCodec] in
/-- `get_detail` on an entry: it is served at once, or after a fetch that fails. -/
theorem get_detail_of_entry {endpointId : EndpointId} {entry : CachedEntry EndpointDetail}
    (forceFresh : Bool) (hon : portal.cfg.cacheEnabled = true)
    (hentry : portal.cache.details.get? endpointId = some entry) :
    portal.getDetail lookups endpointId forceFresh =
      if !forceFresh && (entry.fromDisk ||
          decide (portal.now - entry.fetchedAt ≤
            effectiveTtlForEntry entry portal.cfg.cacheTtlSeconds) ||
          portal.cfg.cacheStaleWhileRevalidate && staleServable portal.cfg portal.now entry) then
        .ok { detail :=
          if entry.fromDisk then { entry.value with cacheStale := true } else entry.value }
      else
        match portal.fetchDetail lookups endpointId with
        | .ok detail => .ok { detail := detail, stored := true }
        | .error _ => .ok { detail := { entry.value with cacheStale := true } } := by
  unfold getDetail
  rw [if_pos hon, hentry]
  simp only
  generalize decide (portal.now - entry.fetchedAt ≤
    effectiveTtlForEntry entry portal.cfg.cacheTtlSeconds) = fresh
  generalize (portal.cfg.cacheStaleWhileRevalidate) = refreshes
  generalize staleServable portal.cfg portal.now entry = servable
  cases forceFresh with
  | true => rfl
  | false => cases entry.fromDisk <;> cases fresh <;> cases refreshes <;> cases servable <;> rfl

/-- What `get_detail` answers, by where it takes the value from: a fetched value is stored while
the cache is on, and only an entry answers without. -/
theorem get_detail_origin {endpointId : EndpointId} {forceFresh : Bool} {read : DetailRead}
    (h : portal.getDetail lookups endpointId forceFresh = .ok read) :
    (∃ entry, portal.origin lookups endpointId forceFresh = .fetched entry ∧
        read.stored = portal.cfg.cacheEnabled) ∨
      ∃ entry, portal.cache.details.get? endpointId = some entry ∧ read.stored = false ∧
        (portal.origin lookups endpointId forceFresh = .cached entry ∨
          portal.origin lookups endpointId forceFresh = .fallback entry) := by
  cases hon : portal.cfg.cacheEnabled with
  | false =>
      simp only [getDetail, hon, Bool.false_eq_true, ↓reduceIte] at h
      simp only [origin, hon, Bool.false_eq_true, ↓reduceIte, fetchedOrigin]
      cases hfetch : portal.fetchDetail lookups endpointId with
      | error exc =>
          rw [hfetch] at h
          cases h
      | ok detail =>
          rw [hfetch] at h
          cases h
          exact Or.inl ⟨_, rfl, rfl⟩
  | true =>
      cases hentry : portal.cache.details.get? endpointId with
      | none =>
          simp only [getDetail, hon, ↓reduceIte, hentry] at h
          simp only [origin, hon, ↓reduceIte, hentry, fetchedOrigin]
          cases hfetch : portal.fetchDetail lookups endpointId with
          | error exc =>
              rw [hfetch] at h
              cases h
          | ok detail =>
              rw [hfetch] at h
              cases h
              exact Or.inl ⟨_, rfl, rfl⟩
      | some entry =>
          rw [get_detail_of_entry forceFresh hon hentry] at h
          simp only [origin, hon, ↓reduceIte, hentry]
          split at h
          · rename_i hserved
            cases h
            rw [if_pos hserved]
            exact Or.inr ⟨entry, rfl, rfl, Or.inl rfl⟩
          · rename_i hserved
            rw [if_neg hserved]
            cases hfetch : portal.fetchDetail lookups endpointId with
            | error exc =>
                rw [hfetch] at h
                cases h
                exact Or.inr ⟨entry, rfl, rfl, Or.inr rfl⟩
            | ok detail =>
                rw [hfetch] at h
                cases h
                exact Or.inl ⟨_, rfl, rfl⟩

/-- `get_endpoint` looks at the entry only, and not at what `get_detail` has said. -/
theorem cache_stale_serve_endpoint {endpointId : EndpointId}
    {effectiveRoles : Option (List String)} {isPskEditor forceFresh : Bool}
    {detail : EndpointDetail}
    (h : portal.getEndpoint lookups endpointId effectiveRoles isPskEditor forceFresh =
      .ok detail) :
    detail.cacheStale =
      portal.badge (portal.serveEndpoint lookups endpointId forceFresh detail) := by
  unfold getEndpoint at h
  cases hread : portal.getDetail lookups endpointId forceFresh with
  | error exc =>
      rw [hread] at h
      cases h
  | ok read =>
      rw [hread] at h
      have hstale : detail.cacheStale = (!read.stored && portal.cache.isFromDisk endpointId) := by
        simp only [scopedDetail] at h
        split at h
        · cases h
          exact cache_stale_mask_for _ _
        · split at h
          · cases h
            exact cache_stale_mask_for _ _
          · cases h
      rw [hstale]
      obtain ⟨entry, horigin, hstored⟩ | ⟨entry, hentry, hstored, horigin⟩ :=
        get_detail_origin hread
      · simp only [badge, serveEndpoint, horigin, hstored]
      · have hdisk : portal.cache.isFromDisk endpointId = entry.fromDisk := by
          rw [EndpointCache.isFromDisk, hentry]
        obtain horigin | horigin := horigin
        · simp only [badge, serveEndpoint, horigin, hstored, hdisk, Bool.not_false, Bool.true_and]
        · simp only [badge, serveEndpoint, horigin, hstored, hdisk, Bool.not_false, Bool.true_and]

theorem cache_stale_serve_rows {isPskEditor : Bool} {effectiveRoles : Option (List String)}
    {rows : List RawSummary} {served : Served}
    (h : served ∈ portal.serveRows lookups isPskEditor effectiveRoles rows) :
    served.detail.cacheStale = portal.badge served := by
  have hitem : served ∈ rows.map (portal.serveOne lookups isPskEditor) := by
    unfold serveRows at h
    cases effectiveRoles with
    | none => exact h
    | some roles => exact List.mem_of_mem_filter h
  obtain ⟨row, _, rfl⟩ := List.mem_map.mp hitem
  unfold serveOne
  cases hget : portal.getEndpoint lookups row.id none isPskEditor false with
  | error exc => rfl
  | ok detail => exact cache_stale_serve_endpoint hget

omit [DetailCodec] in
/-- The values of a snapshot are those of cached entries. -/
theorem mem_serve_snapshot {isPskEditor : Bool} {effectiveRoles : Option (List String)}
    {served : Served} (h : served ∈ portal.serveSnapshot lookups effectiveRoles isPskEditor) :
    ∃ endpointId entry, portal.cache.details.get? endpointId = some entry ∧
      served = portal.servePage isPskEditor endpointId entry := by
  unfold serveSnapshot at h
  cases effectiveRoles with
  | none =>
      obtain ⟨entry, hentry, rfl⟩ := List.mem_map.mp h
      exact ⟨entry.1, entry.2, Dict.get?_eq_some_iff.mpr hentry, rfl⟩
  | some roles =>
      obtain ⟨endpointId, _, hserved⟩ := List.mem_filterMap.mp h
      obtain ⟨entry, hentry, rfl⟩ := Option.map_eq_some_iff.mp hserved
      exact ⟨endpointId, entry, hentry, rfl⟩

/-- Every returned value has the badge its origin gives it. -/
theorem cache_stale_served {request : DetailRequest} {served : Served}
    (h : served ∈ portal.served lookups request) :
    served.detail.cacheStale = portal.badge served := by
  cases request with
  | getEndpoint endpointId effectiveRoles isPskEditor forceFresh =>
      simp only [PortalState.served] at h
      cases hget : portal.getEndpoint lookups endpointId effectiveRoles isPskEditor forceFresh with
      | error exc =>
          rw [hget] at h
          cases h
      | ok detail =>
          rw [hget] at h
          cases List.mem_singleton.mp h
          exact cache_stale_serve_endpoint hget
  | listEndpointDetails page size search filters effectiveRoles isPskEditor =>
      simp only [PortalState.served] at h
      split at h
      · have hsnapshot : served ∈ portal.serveSnapshot lookups effectiveRoles isPskEditor :=
          List.mem_of_mem_filter (List.mem_mergeSort.mp
            (List.mem_of_mem_drop (List.mem_of_mem_take h)))
        obtain ⟨endpointId, entry, _, rfl⟩ := mem_serve_snapshot hsnapshot
        exact cache_stale_mask_for _ _
      · split at h
        · cases h
        · exact cache_stale_serve_rows h
  | listAllEndpointDetails search filters effectiveRoles isPskEditor fullTextQ =>
      simp only [PortalState.served] at h
      split at h
      · have hcached : served ∈ portal.serveCached lookups effectiveRoles isPskEditor :=
          List.mem_of_mem_filter (List.mem_of_mem_filter (List.mem_mergeSort.mp h))
        unfold serveCached at hcached
        cases effectiveRoles with
        | none =>
            obtain ⟨entry, _, rfl⟩ := List.mem_map.mp hcached
            exact cache_stale_mask_for _ _
        | some roles =>
            obtain ⟨endpointId, _, hget⟩ := List.mem_filterMap.mp hcached
            obtain ⟨detail, hdetail, rfl⟩ := Option.map_eq_some_iff.mp hget
            cases hread : portal.getEndpoint lookups endpointId none isPskEditor false with
            | error exc =>
                rw [hread] at hdetail
                cases hdetail
            | ok other =>
                rw [hread] at hdetail
                cases hdetail
                exact cache_stale_serve_endpoint hread
      · split at h
        · cases h
        · exact cache_stale_serve_rows (List.mem_of_mem_filter h)

end PortalState

end Reads

end IsePortal
