import IsePortal.Cache.Representation
import IsePortal.Service.EndpointReads
import Mathlib.Data.Finset.Sort
import Mathlib.Data.String.Basic

/-!
# Listings of a warm and of a cold cache

The listings answer from the cache while there is an entry in it, and ask ISE while there is none.
ISE is given the explicit filters and searches the MACs; the cache takes no filters, but for
`list_all_endpoint_details` of an admin, and searches the descriptions too. `Lists` says which
endpoints a list shows, and every path is followed through it. With a cache that mirrors ISE,
`warm_cold_agree_iff` says for which requests the answers are the same.
-/

namespace IsePortal

open Library EndpointCache

section Agreement

variable [PyText]

/-! ## What a request asks for -/

/-- The search of a cached listing finds the endpoint by its MAC or its description. -/
def SearchFinds (search : Option String) (detail : EndpointDetail) : Prop :=
  ∀ text, search = some text → text ≠ "" →
    contains (PyText.lower (PyText.strip text)) (PyText.lower detail.mac) = true ∨
      contains (PyText.lower (PyText.strip text))
        (PyText.lower (detail.description.getD "")) = true

/-- The search finds the endpoint by its MAC. -/
def MacFinds (search : Option String) (mac : String) : Prop :=
  ∀ text, search = some text → PyText.strip text ≠ "" →
    contains (PyText.lower (PyText.strip text)) (PyText.lower mac) = true

/-- Every filter of the request that is not blank lets the endpoint through. -/
def FiltersAccept (accepts : String → RawEndpoint → Bool) (filters : List String)
    (raw : RawEndpoint) : Prop :=
  ∀ filter ∈ filters, PyText.strip filter ≠ "" → accepts filter raw = true

/-- ISE answers, and lists each endpoint that all filters accept, once and in pages. A filter on the
MAC goes by its letters, whatever their case. -/
structure ListsBy (ise : IseServer) (accepts : String → RawEndpoint → Bool) : Prop where
  answersLists : ise.refusal .listEndpoints = none
  answersGets : ∀ endpointId, ise.refusal (.getEndpoint endpointId) = none
  ownId : ∀ endpointId raw, ise.endpoints endpointId = some raw →
    raw.id.getD endpointId = endpointId
  listed : ∀ filters endpointId, endpointId ∈ (ise.fullListing filters).map RawSummary.id ↔
    ∃ raw, ise.endpoints endpointId = some raw ∧ ∀ filter ∈ filters, accepts filter raw = true
  once : ∀ filters, ((ise.fullListing filters).map RawSummary.id).Nodup
  paged : ∀ page size filters, ise.listing page size filters =
    (((ise.fullListing filters).drop ((page - 1) * size)).take size,
      (ise.fullListing filters).length)
  macContains : ∀ text raw, accepts ("mac.CONTAINS." ++ text) raw =
    contains (PyText.lower text) (PyText.lower raw.macOrName)

omit [PyText] in
/-- A set is gone through with all its elements, each once. -/
structure EnumeratesSets (lookups : Lookups) : Prop where
  mem : ∀ endpointIds endpointId, endpointId ∈ lookups.setOrder endpointIds ↔
    endpointId ∈ endpointIds
  nodup : ∀ endpointIds, (lookups.setOrder endpointIds).Nodup

/-- What the filters of a request to ISE accept is what its explicit filters accept and its search
finds by the MAC. -/
theorem combine_filters_accept {accepts : String → RawEndpoint → Bool}
    (hmac : ∀ text raw, accepts ("mac.CONTAINS." ++ text) raw =
      contains (PyText.lower text) (PyText.lower raw.macOrName))
    (search : Option String) (filters : List String) (raw : RawEndpoint) :
    (∀ filter ∈ combineFilters search filters, accepts filter raw = true) ↔
      FiltersAccept accepts filters raw ∧ MacFinds search raw.macOrName := by
  simp only [combineFilters, List.forall_mem_append, List.mem_filter, decide_eq_true_eq, and_imp]
  refine and_congr Iff.rfl ?_
  unfold MacFinds
  cases search with
  | none => simp
  | some text =>
      by_cases hblank : PyText.strip text = ""
      · simp [hblank]
      · simp [hblank, hmac]

/-- What is found by its MAC is found. -/
theorem search_finds_of_mac {search : Option String} {detail : EndpointDetail}
    (h : MacFinds search detail.mac) : SearchFinds search detail := by
  intro text hsearch _
  by_cases hblank : PyText.strip text = ""
  · left
    simp [hblank, PyText.lower_empty, contains]
  · exact Or.inl (h text hsearch hblank)

theorem mem_search_filter {search : Option String} {items : List EndpointDetail}
    {detail : EndpointDetail} :
    detail ∈ searchFilter search items ↔ detail ∈ items ∧ SearchFinds search detail := by
  unfold searchFilter SearchFinds
  cases search with
  | none => simp
  | some text =>
      by_cases hempty : text = ""
      · simp [hempty]
      · simp [hempty]

theorem search_filter_sublist (search : Option String) (items : List EndpointDetail) :
    (searchFilter search items).Sublist items := by
  unfold searchFilter
  cases search with
  | none => exact List.Sublist.refl _
  | some text =>
      simp only
      split
      · exact List.Sublist.refl _
      · exact List.filter_sublist

/-! ## Lists of endpoints -/

section Lists

variable {lookups : Lookups} {ise : IseServer}
  {P Q : EndpointId → RawEndpoint → Prop} {items others : List EndpointDetail}
  {endpointId : EndpointId} {raw : RawEndpoint} {detail : EndpointDetail}

/-- The detail is ISE's record of the endpoint, up to its key and its badge. -/
def Copies (lookups : Lookups) (endpointId : EndpointId) (raw : RawEndpoint)
    (detail : EndpointDetail) : Prop :=
  ∃ key stale, detail =
    { fetchEndpointDetail lookups endpointId raw with pskKey := key, cacheStale := stale }

theorem Copies.masked (h : Copies lookups endpointId raw detail) (isPskEditor stale : Bool) :
    Copies lookups endpointId raw (maskFor isPskEditor { detail with cacheStale := stale }) := by
  obtain ⟨key, _, rfl⟩ := h
  unfold maskFor maskPsk
  split
  · exact ⟨_, _, rfl⟩
  · split
    · exact ⟨_, _, rfl⟩
    · exact ⟨_, _, rfl⟩

/-- The list shows exactly the endpoints of ISE with the property, each once. -/
structure Lists (lookups : Lookups) (ise : IseServer) (P : EndpointId → RawEndpoint → Prop)
    (items : List EndpointDetail) : Prop where
  sound : ∀ detail ∈ items, ∃ endpointId raw, ise.endpoints endpointId = some raw ∧
    P endpointId raw ∧ Copies lookups endpointId raw detail
  complete : ∀ endpointId raw, ise.endpoints endpointId = some raw → P endpointId raw →
    ∃ detail ∈ items, Copies lookups endpointId raw detail
  nodup : (items.map EndpointDetail.id).Nodup

theorem Lists.filter (h : Lists lookups ise P items) (hsub : others.Sublist items)
    (hmem : ∀ detail ∈ items, ∀ endpointId raw, Copies lookups endpointId raw detail →
      (detail ∈ others ↔ Q endpointId raw)) :
    Lists lookups ise (fun endpointId raw => P endpointId raw ∧ Q endpointId raw) others where
  sound := by
    intro detail hdetail
    obtain ⟨endpointId, raw, hraw, hP, hcopies⟩ := h.sound detail (hsub.subset hdetail)
    exact ⟨endpointId, raw, hraw,
      ⟨hP, (hmem detail (hsub.subset hdetail) endpointId raw hcopies).mp hdetail⟩, hcopies⟩
  complete := by
    intro endpointId raw hraw hPQ
    obtain ⟨detail, hdetail, hcopies⟩ := h.complete endpointId raw hraw hPQ.1
    exact ⟨detail, (hmem detail hdetail endpointId raw hcopies).mpr hPQ.2, hcopies⟩
  nodup := h.nodup.sublist (hsub.map _)

theorem Lists.congr (h : Lists lookups ise P items)
    (hiff : ∀ endpointId raw, P endpointId raw ↔ Q endpointId raw) : Lists lookups ise Q items := by
  have hsame : P = Q := funext fun endpointId => funext fun raw => propext (hiff endpointId raw)
  rwa [← hsame]

theorem Lists.perm (h : Lists lookups ise P items) (hperm : others.Perm items) :
    Lists lookups ise P others where
  sound := fun detail hdetail => h.sound detail (hperm.mem_iff.mp hdetail)
  complete := by
    intro endpointId raw hraw hP
    obtain ⟨detail, hdetail, hcopies⟩ := h.complete endpointId raw hraw hP
    exact ⟨detail, hperm.mem_iff.mpr hdetail, hcopies⟩
  nodup := (hperm.map _).nodup_iff.mpr h.nodup

/-- The search leaves what it finds. -/
theorem Lists.search (h : Lists lookups ise P items) (search : Option String) :
    Lists lookups ise (fun endpointId raw => P endpointId raw ∧
      SearchFinds search (fetchEndpointDetail lookups endpointId raw))
      (searchFilter search items) := by
  refine h.filter (search_filter_sublist search items) ?_
  intro detail hdetail endpointId raw hcopies
  rw [mem_search_filter]
  obtain ⟨key, stale, rfl⟩ := hcopies
  exact and_iff_right hdetail

theorem Lists.sort (h : Lists lookups ise P items) : Lists lookups ise P (sortDetails items) :=
  h.perm (List.mergeSort_perm _ _)

/-- The ids of a list, under ISE's own ids. -/
theorem Lists.mem_ids {accepts : String → RawEndpoint → Bool} (h : Lists lookups ise P items)
    (hise : ListsBy ise accepts) :
    endpointId ∈ items.map EndpointDetail.id ↔
      ∃ raw, ise.endpoints endpointId = some raw ∧ P endpointId raw := by
  have hid : ∀ detail other raw, ise.endpoints other = some raw →
      Copies lookups other raw detail → detail.id = other := by
    rintro detail other raw hraw ⟨key, stale, rfl⟩
    exact hise.ownId other raw hraw
  constructor
  · intro hmem
    obtain ⟨detail, hdetail, hsame⟩ := List.mem_map.mp hmem
    obtain ⟨other, raw, hraw, hP, hcopies⟩ := h.sound detail hdetail
    have hother : other = endpointId := (hid detail other raw hraw hcopies).symm.trans hsame
    subst hother
    exact ⟨raw, hraw, hP⟩
  · rintro ⟨raw, hraw, hP⟩
    obtain ⟨detail, hdetail, hcopies⟩ := h.complete endpointId raw hraw hP
    exact List.mem_map.mpr ⟨detail, hdetail, hid detail endpointId raw hraw hcopies⟩

end Lists

/-! ## The paths -/

variable [DetailCodec] {lookups : Lookups} {portal : PortalState}
  {accepts : String → RawEndpoint → Bool} {isPskEditor : Bool}

/-- The cache is on and holds ISE's endpoints as they are now. -/
structure Mirrors (lookups : Lookups) (portal : PortalState) : Prop where
  enabled : portal.cfg.cacheEnabled = true
  rep : RepInv portal.cache
  complete : ∀ endpointId raw, portal.ise.endpoints endpointId = some raw →
    endpointId ∈ portal.cache.details.keys
  live : ∀ endpointId entry, portal.cache.details.get? endpointId = some entry →
    entry.fromDisk = false
  fresh : ∀ endpointId entry, portal.cache.details.get? endpointId = some entry →
    portal.now - entry.fetchedAt ≤ effectiveTtlForEntry entry portal.cfg.cacheTtlSeconds
  same : ∀ endpointId entry, portal.cache.details.get? endpointId = some entry →
    ∃ raw, portal.ise.endpoints endpointId = some raw ∧
      entry.value = fetchEndpointDetail lookups endpointId raw

/-- The same portal after its cache has been lost. -/
def PortalState.cold (portal : PortalState) : PortalState := { portal with cache := {} }

/-- The caller may see the endpoint; without effective roles there is no scope. -/
def Sees (effectiveRoles : Option (List String)) (detail : EndpointDetail) : Prop :=
  ∀ roles, effectiveRoles = some roles → endpointVisible detail roles = true

theorem sees_none {detail : EndpointDetail} : Sees none detail :=
  fun _ hroles => by cases hroles

theorem sees_some {roles : List String} {detail : EndpointDetail} :
    Sees (some roles) detail ↔ endpointVisible detail roles = true := by
  constructor
  · intro hsees
    exact hsees roles rfl
  · intro hvisible _ hroles
    cases hroles
    exact hvisible

/-- A cached endpoint of a mirror has ISE's record of it for its value. -/
theorem Mirrors.copies (h : Mirrors lookups portal) {endpointId : EndpointId}
    {entry : CachedEntry EndpointDetail}
    (hentry : portal.cache.details.get? endpointId = some entry) {raw : RawEndpoint}
    (hraw : portal.ise.endpoints endpointId = some raw) :
    entry.value = fetchEndpointDetail lookups endpointId raw := by
  obtain ⟨other, hother, hvalue⟩ := h.same endpointId entry hentry
  rw [hraw] at hother
  cases hother
  exact hvalue

/-- The portal answers for each endpoint of ISE, from its cache or from ISE. -/
def Answers (lookups : Lookups) (portal : PortalState) (isPskEditor : Bool) : Prop :=
  ∀ endpointId raw, portal.ise.endpoints endpointId = some raw →
    ∃ detail, portal.getEndpoint lookups endpointId none isPskEditor false = .ok detail ∧
      Copies lookups endpointId raw detail

theorem Mirrors.answers (h : Mirrors lookups portal) : Answers lookups portal isPskEditor := by
  intro endpointId raw hraw
  obtain ⟨entry, hentry⟩ := Dict.mem_keys_iff.mp (h.complete endpointId raw hraw)
  have hvalue := h.copies hentry hraw
  have hread : portal.getDetail lookups endpointId false = .ok { detail := entry.value } := by
    simp only [PortalState.getDetail, h.enabled, hentry, h.live endpointId entry hentry,
      h.fresh endpointId entry hentry, Bool.not_false, decide_true, Bool.and_self, ↓reduceIte]
  refine ⟨_, by rw [PortalState.getEndpoint, hread]; rfl, ?_⟩
  have hcopies : Copies lookups endpointId raw entry.value := by
    rw [hvalue]
    exact ⟨_, _, rfl⟩
  exact hcopies.masked isPskEditor _

theorem cold_answers (hise : ListsBy portal.ise accepts)
    (henabled : portal.cfg.cacheEnabled = true) : Answers lookups portal.cold isPskEditor := by
  intro endpointId raw hraw
  change portal.ise.endpoints endpointId = some raw at hraw
  have hget : portal.cold.fetchDetail lookups endpointId =
      .ok (fetchEndpointDetail lookups endpointId raw) := by
    have hcall : portal.ise.get endpointId = .ok raw := by
      unfold IseServer.get IseServer.call
      rw [hise.answersGets, hraw]
    show (portal.ise.get endpointId).map _ = _
    rw [hcall]
    rfl
  have hread : portal.cold.getDetail lookups endpointId false =
      .ok { detail := fetchEndpointDetail lookups endpointId raw, stored := true } := by
    have hnone : portal.cold.cache.details.get? endpointId = none := rfl
    have hon : portal.cold.cfg.cacheEnabled = true := henabled
    simp only [PortalState.getDetail, hon, ↓reduceIte, hnone, hget, Except.map]
  refine ⟨_, by rw [PortalState.getEndpoint, hread]; rfl, ?_⟩
  have hcopies : Copies lookups endpointId raw (fetchEndpointDetail lookups endpointId raw) :=
    ⟨_, _, rfl⟩
  exact hcopies.masked isPskEditor _

/-- The rows ISE lists, looked up one by one. -/
theorem lists_fetched (hise : ListsBy portal.ise accepts)
    (hanswers : Answers lookups portal isPskEditor) (filters : List String) :
    Lists lookups portal.ise (fun _ raw => ∀ filter ∈ filters, accepts filter raw = true)
      ((portal.ise.fullListing filters).map (portal.fetchOne lookups isPskEditor)) := by
  have hrow : ∀ row ∈ portal.ise.fullListing filters, ∃ raw,
      portal.ise.endpoints row.id = some raw ∧
        (∀ filter ∈ filters, accepts filter raw = true) ∧
          Copies lookups row.id raw (portal.fetchOne lookups isPskEditor row) := by
    intro row hmem
    obtain ⟨raw, hraw, haccepts⟩ :=
      (hise.listed filters row.id).mp (List.mem_map.mpr ⟨row, hmem, rfl⟩)
    obtain ⟨detail, hget, hcopies⟩ := hanswers row.id raw hraw
    refine ⟨raw, hraw, haccepts, ?_⟩
    rw [PortalState.fetchOne, hget]
    exact hcopies
  refine ⟨?_, ?_, ?_⟩
  · intro detail hdetail
    obtain ⟨row, hmem, rfl⟩ := List.mem_map.mp hdetail
    obtain ⟨raw, hraw, haccepts, hcopies⟩ := hrow row hmem
    exact ⟨row.id, raw, hraw, haccepts, hcopies⟩
  · intro endpointId raw hraw haccepts
    obtain ⟨row, hmem, rfl⟩ :=
      List.mem_map.mp ((hise.listed filters endpointId).mpr ⟨raw, hraw, haccepts⟩)
    obtain ⟨other, hother, _, hcopies⟩ := hrow row hmem
    rw [hraw] at hother
    cases hother
    exact ⟨_, List.mem_map.mpr ⟨row, hmem, rfl⟩, hcopies⟩
  · have hids : ((portal.ise.fullListing filters).map
        (portal.fetchOne lookups isPskEditor)).map EndpointDetail.id =
          (portal.ise.fullListing filters).map RawSummary.id := by
      rw [List.map_map]
      refine List.map_congr_left fun row hmem => ?_
      obtain ⟨raw, hraw, _, key, stale, hcopy⟩ := hrow row hmem
      show (portal.fetchOne lookups isPskEditor row).id = row.id
      rw [hcopy]
      exact hise.ownId row.id raw hraw
    rw [hids]
    exact hise.once filters

/-- The visible part of a list. -/
theorem Lists.visible {ise : IseServer} {P : EndpointId → RawEndpoint → Prop}
    {items : List EndpointDetail} (h : Lists lookups ise P items) (roles : List String) :
    Lists lookups ise (fun endpointId raw => P endpointId raw ∧
      endpointVisible (fetchEndpointDetail lookups endpointId raw) roles = true)
      (items.filter (endpointVisible · roles)) := by
  refine h.filter List.filter_sublist ?_
  intro detail hdetail endpointId raw hcopies
  rw [List.mem_filter]
  obtain ⟨key, stale, rfl⟩ := hcopies
  exact and_iff_right hdetail

/-- Every entry of a mirror, shown in some way. -/
theorem lists_cached (h : Mirrors lookups portal) (hise : ListsBy portal.ise accepts)
    (render : CachedEntry EndpointDetail → EndpointDetail)
    (hrender : ∀ entry endpointId raw, Copies lookups endpointId raw entry.value →
      Copies lookups endpointId raw (render entry)) :
    Lists lookups portal.ise (fun _ _ => True)
      (portal.cache.details.entries.map fun entry => render entry.2) := by
  have hentry : ∀ entry ∈ portal.cache.details.entries, ∃ raw,
      portal.ise.endpoints entry.1 = some raw ∧ Copies lookups entry.1 raw (render entry.2) := by
    intro entry hmem
    have hget : portal.cache.details.get? entry.1 = some entry.2 := Dict.get?_eq_some_iff.mpr hmem
    obtain ⟨raw, hraw, hvalue⟩ := h.same entry.1 entry.2 hget
    refine ⟨raw, hraw, hrender _ _ _ ?_⟩
    rw [hvalue]
    exact ⟨_, _, rfl⟩
  refine ⟨?_, ?_, ?_⟩
  · intro detail hdetail
    obtain ⟨entry, hmem, rfl⟩ := List.mem_map.mp hdetail
    obtain ⟨raw, hraw, hcopies⟩ := hentry entry hmem
    exact ⟨entry.1, raw, hraw, trivial, hcopies⟩
  · intro endpointId raw hraw _
    obtain ⟨entry, hget⟩ := Dict.mem_keys_iff.mp (h.complete endpointId raw hraw)
    have hmem := Dict.get?_eq_some_iff.mp hget
    obtain ⟨other, hother, hcopies⟩ := hentry (endpointId, entry) hmem
    rw [hraw] at hother
    cases hother
    exact ⟨_, List.mem_map.mpr ⟨_, hmem, rfl⟩, hcopies⟩
  · have hids : (portal.cache.details.entries.map fun entry => render entry.2).map
        EndpointDetail.id = portal.cache.details.entries.map Prod.fst := by
      rw [List.map_map]
      refine List.map_congr_left fun entry hmem => ?_
      obtain ⟨raw, hraw, key, stale, hcopy⟩ := hentry entry hmem
      show (render entry.2).id = entry.1
      rw [hcopy]
      exact hise.ownId entry.1 raw hraw
    rw [hids]
    exact portal.cache.details.nodup

/-- The entries the roles index names, shown in some way. -/
theorem lists_indexed (h : Mirrors lookups portal) (hise : ListsBy portal.ise accepts)
    (horder : EnumeratesSets lookups) (roles : List String)
    (render : EndpointId → Option EndpointDetail)
    (hrender : ∀ endpointId raw, portal.ise.endpoints endpointId = some raw →
      ∃ detail, render endpointId = some detail ∧ Copies lookups endpointId raw detail) :
    Lists lookups portal.ise (fun endpointId raw =>
      endpointVisible (fetchEndpointDetail lookups endpointId raw) roles = true)
      ((lookups.setOrder (portal.cache.getIdsForRoles roles)).filterMap render) := by
  have hmem : ∀ endpointId, endpointId ∈ lookups.setOrder (portal.cache.getIdsForRoles roles) ↔
      ∃ raw, portal.ise.endpoints endpointId = some raw ∧
        endpointVisible (fetchEndpointDetail lookups endpointId raw) roles = true := by
    intro endpointId
    rw [horder.mem, mem_get_ids_for_roles_iff h.rep]
    constructor
    · rintro ⟨entry, hentry, hvisible⟩
      obtain ⟨raw, hraw, hvalue⟩ := h.same endpointId entry hentry
      exact ⟨raw, hraw, hvalue ▸ hvisible⟩
    · rintro ⟨raw, hraw, hvisible⟩
      obtain ⟨entry, hentry⟩ := Dict.mem_keys_iff.mp (h.complete endpointId raw hraw)
      exact ⟨entry, hentry, (h.copies hentry hraw) ▸ hvisible⟩
  refine ⟨?_, ?_, ?_⟩
  · intro detail hdetail
    obtain ⟨endpointId, hid, hrendered⟩ := List.mem_filterMap.mp hdetail
    obtain ⟨raw, hraw, hvisible⟩ := (hmem endpointId).mp hid
    obtain ⟨other, hother, hcopies⟩ := hrender endpointId raw hraw
    rw [hrendered] at hother
    cases hother
    exact ⟨endpointId, raw, hraw, hvisible, hcopies⟩
  · intro endpointId raw hraw hvisible
    obtain ⟨detail, hrendered, hcopies⟩ := hrender endpointId raw hraw
    exact ⟨detail, List.mem_filterMap.mpr
      ⟨endpointId, (hmem endpointId).mpr ⟨raw, hraw, hvisible⟩, hrendered⟩, hcopies⟩
  · have hids : ∀ ids : List EndpointId,
        (∀ endpointId ∈ ids, ∃ raw, portal.ise.endpoints endpointId = some raw) →
          (ids.filterMap render).map EndpointDetail.id = ids := by
      intro ids hall
      induction ids with
      | nil => rfl
      | cons first rest ih =>
          obtain ⟨raw, hraw⟩ := hall first List.mem_cons_self
          obtain ⟨detail, hrendered, key, stale, hcopy⟩ := hrender first raw hraw
          have hid : detail.id = first := by
            rw [hcopy]
            exact hise.ownId first raw hraw
          rw [List.filterMap_cons_some hrendered, List.map_cons, hid,
            ih fun endpointId hid => hall endpointId (List.mem_cons_of_mem _ hid)]
    rw [hids _ fun endpointId hid => by
      obtain ⟨raw, hraw, _⟩ := (hmem endpointId).mp hid
      exact ⟨raw, hraw⟩]
    exact horder.nodup _

/-! ## Pages -/

omit [PyText] [DetailCodec] in
/-- The first pages together are the beginning of the list. -/
theorem flatMap_pages {α : Type*} (items : List α) (size count : Nat) :
    (List.range count).flatMap (fun index => (items.drop (index * size)).take size) =
      items.take (count * size) := by
  induction count with
  | zero => simp
  | succ count ih =>
      rw [List.range_succ, List.flatMap_append, ih, List.flatMap_singleton, Nat.succ_mul,
        List.take_add]

/-- The pages of a listing one after the other, as many as the total of the first one asks for. -/
def allPages (page : Nat → PaginatedEndpointDetails) (size : Nat) : List EndpointDetail :=
  (List.range (((page 1).total + size - 1) / size)).flatMap fun index => (page (index + 1)).items

omit [PyText] [DetailCodec] in
theorem all_pages_eq {page : Nat → PaginatedEndpointDetails} {size : Nat} (hsize : 0 < size)
    {items : List EndpointDetail} (htotal : ∀ number, (page number).total = items.length)
    (hitems : ∀ number, (page number).items = (items.drop ((number - 1) * size)).take size) :
    allPages page size = items := by
  have hslices : allPages page size = (List.range ((items.length + size - 1) / size)).flatMap
      fun index => (items.drop (index * size)).take size := by
    unfold allPages
    rw [htotal]
    refine List.flatMap_congr fun index _ => ?_
    rw [hitems, Nat.add_sub_cancel]
  rw [hslices, flatMap_pages]
  refine List.take_of_length_le ?_
  have hdiv := Nat.div_add_mod (items.length + size - 1) size
  have hmod := Nat.mod_lt (items.length + size - 1) hsize
  have hcomm := Nat.mul_comm size ((items.length + size - 1) / size)
  omega

/-! ## What each path lists -/

variable {effectiveRoles : Option (List String)} {search : Option String} {filters : List String}
  {size : Nat}

/-- What a listing makes of ISE's answer to its filters. -/
def PortalState.fromIse (lookups : Lookups) (portal : PortalState) (search : Option String)
    (filters : List String) (effectiveRoles : Option (List String)) (isPskEditor : Bool) :
    List EndpointDetail :=
  let items := (portal.ise.fullListing (combineFilters search filters)).map
    (portal.fetchOne lookups isPskEditor)
  match effectiveRoles with
  | none => items
  | some roles => items.filter (endpointVisible · roles)

/-- A listing from ISE: what all filters accept and the caller sees. -/
theorem lists_from_ise (hise : ListsBy portal.ise accepts)
    (hanswers : Answers lookups portal isPskEditor) (search : Option String)
    (filters : List String) (effectiveRoles : Option (List String)) :
    Lists lookups portal.ise (fun endpointId raw =>
      (FiltersAccept accepts filters raw ∧ MacFinds search raw.macOrName) ∧
        Sees effectiveRoles (fetchEndpointDetail lookups endpointId raw))
      (portal.fromIse lookups search filters effectiveRoles isPskEditor) := by
  have hfetched := (lists_fetched hise hanswers (combineFilters search filters)).congr
    fun _ raw => combine_filters_accept hise.macContains search filters raw
  cases effectiveRoles with
  | none => exact hfetched.congr fun _ _ => (and_iff_left sees_none).symm
  | some roles => exact (hfetched.visible roles).congr fun _ _ => and_congr Iff.rfl sees_some.symm

/-- Where neither of the cached paths is taken, the listing is made from ISE's answer. -/
theorem PortalState.list_all_from_ise (hlists : portal.ise.refusal .listEndpoints = none)
    (hpath : ¬ ((effectiveRoles.isNone && filters.isEmpty &&
      decide (0 < portal.cache.details.size)) = true))
    (hroles : ¬ ((effectiveRoles.isSome && decide (0 < portal.cache.details.size)) = true)) :
    portal.listAllEndpointDetails lookups search filters effectiveRoles isPskEditor none =
      portal.fromIse lookups search filters effectiveRoles isPskEditor := by
  have hlisting : portal.ise.listAll (combineFilters search filters) =
      .ok (portal.ise.fullListing (combineFilters search filters)) := by
    unfold IseServer.listAll IseServer.call
    rw [hlists]
  unfold PortalState.listAllEndpointDetails
  rw [if_neg hpath, if_neg hroles, hlisting]
  rfl

/-- The listing of a cold cache. -/
theorem lists_cold (hise : ListsBy portal.ise accepts)
    (henabled : portal.cfg.cacheEnabled = true) (search : Option String) (filters : List String)
    (effectiveRoles : Option (List String)) (isPskEditor : Bool) :
    Lists lookups portal.ise (fun endpointId raw =>
      (FiltersAccept accepts filters raw ∧ MacFinds search raw.macOrName) ∧
        Sees effectiveRoles (fetchEndpointDetail lookups endpointId raw))
      (portal.cold.listAllEndpointDetails lookups search filters effectiveRoles isPskEditor
        none) := by
  have hanswers : Answers lookups portal.cold isPskEditor := cold_answers hise henabled
  have hempty : decide (0 < portal.cold.cache.details.size) = false := rfl
  have hcold : ListsBy portal.cold.ise accepts := hise
  rw [PortalState.list_all_from_ise hcold.answersLists (by simp [hempty]) (by simp [hempty])]
  exact lists_from_ise hcold hanswers search filters effectiveRoles

/-- The listing of a mirror: from ISE for an admin with filters, from the cache otherwise. -/
theorem lists_warm (h : Mirrors lookups portal) (hise : ListsBy portal.ise accepts)
    (horder : EnumeratesSets lookups) (search : Option String) (filters : List String)
    (effectiveRoles : Option (List String)) (isPskEditor : Bool) :
    Lists lookups portal.ise (fun endpointId raw =>
      if effectiveRoles = none ∧ filters ≠ [] ∨ portal.cache.details.size = 0 then
        (FiltersAccept accepts filters raw ∧ MacFinds search raw.macOrName) ∧
          Sees effectiveRoles (fetchEndpointDetail lookups endpointId raw)
      else
        Sees effectiveRoles (fetchEndpointDetail lookups endpointId raw) ∧
          SearchFinds search (fetchEndpointDetail lookups endpointId raw))
      (portal.listAllEndpointDetails lookups search filters effectiveRoles isPskEditor none) := by
  by_cases hpath : effectiveRoles = none ∧ filters ≠ [] ∨ portal.cache.details.size = 0
  · rw [PortalState.list_all_from_ise hise.answersLists]
    · refine (lists_from_ise hise h.answers search filters effectiveRoles).congr fun _ _ => ?_
      rw [if_pos hpath]
    · rcases hpath with ⟨_, hfilters⟩ | hsize
      · simp [hfilters]
      · simp [hsize]
    · rcases hpath with ⟨hroles, _⟩ | hsize
      · simp [hroles]
      · simp [hsize]
  · have hsize : 0 < portal.cache.details.size := by
      refine Nat.pos_of_ne_zero fun hzero => hpath (Or.inr hzero)
    cases effectiveRoles with
    | none =>
        have hfilters : filters = [] := by
          by_contra hne
          exact hpath (Or.inl ⟨rfl, hne⟩)
        have hlist : portal.listAllEndpointDetails lookups search filters none isPskEditor none =
            sortDetails (searchFilter search (portal.cache.details.entries.map fun entry =>
              maskFor isPskEditor entry.2.value)) := by
          unfold PortalState.listAllEndpointDetails
          rw [hfilters, decide_eq_true hsize]
          rfl
        rw [hlist]
        refine ((lists_cached h hise (fun entry => maskFor isPskEditor entry.value) ?_).search
          search).sort.congr fun _ _ => ?_
        · rintro entry endpointId raw ⟨key, stale, hcopy⟩
          have hcopies : Copies lookups endpointId raw entry.value := ⟨key, stale, hcopy⟩
          exact hcopies.masked isPskEditor entry.value.cacheStale
        · rw [if_neg hpath, true_and]
          exact (and_iff_right sees_none).symm
    | some roles =>
        have hlist : portal.listAllEndpointDetails lookups search filters (some roles) isPskEditor
            none = sortDetails (searchFilter search
              ((lookups.setOrder (portal.cache.getIdsForRoles roles)).filterMap fun endpointId =>
                (portal.getEndpoint lookups endpointId none isPskEditor false).toOption)) := by
          unfold PortalState.listAllEndpointDetails
          rw [decide_eq_true hsize]
          rfl
        rw [hlist]
        refine ((lists_indexed h hise horder roles _ ?_).search search).sort.congr fun _ _ => ?_
        · intro endpointId raw hraw
          obtain ⟨detail, hget, hcopies⟩ := h.answers endpointId raw hraw
          exact ⟨detail, by rw [hget]; rfl, hcopies⟩
        · rw [if_neg hpath]
          exact and_congr sees_some.symm Iff.rfl

/-- The pages of a mirror are cut from one list: what the caller sees and the search finds. -/
theorem pages_warm (h : Mirrors lookups portal) (hise : ListsBy portal.ise accepts)
    (horder : EnumeratesSets lookups) (search : Option String) (filters : List String)
    (effectiveRoles : Option (List String)) (isPskEditor : Bool) (size : Nat) :
    ∃ items, Lists lookups portal.ise (fun endpointId raw =>
        Sees effectiveRoles (fetchEndpointDetail lookups endpointId raw) ∧
          SearchFinds search (fetchEndpointDetail lookups endpointId raw)) items ∧
      (∀ number, (portal.listEndpointDetails lookups number size search filters effectiveRoles
        isPskEditor).total = items.length) ∧
      ∀ number, (portal.listEndpointDetails lookups number size search filters effectiveRoles
        isPskEditor).items = (items.drop ((number - 1) * size)).take size := by
  by_cases hsize : 0 < portal.cache.details.size
  · cases effectiveRoles with
    | none =>
        have hpage : ∀ number, portal.listEndpointDetails lookups number size search filters none
            isPskEditor = buildDetailPage portal.snapshotAllDetails number size isPskEditor
              search := fun number => if_pos hsize
        refine ⟨_, ?_, fun number => by rw [hpage]; rfl, fun number => by rw [hpage]; rfl⟩
        rw [PortalState.snapshotAllDetails, List.map_map]
        refine ((lists_cached h hise (fun entry => maskFor isPskEditor
          { entry.value with cacheStale := portal.isStale entry }) ?_).search search).sort.congr
            fun _ _ => ?_
        · intro entry endpointId raw hcopies
          exact hcopies.masked isPskEditor _
        · rw [true_and]
          exact (and_iff_right sees_none).symm
    | some roles =>
        have hpage : ∀ number, portal.listEndpointDetails lookups number size search filters
            (some roles) isPskEditor = buildDetailPage (portal.snapshotDetailsForRoles lookups
              roles) number size isPskEditor search := fun number => if_pos hsize
        refine ⟨_, ?_, fun number => by rw [hpage]; rfl, fun number => by rw [hpage]; rfl⟩
        rw [PortalState.snapshotDetailsForRoles, List.map_filterMap]
        refine ((lists_indexed h hise horder roles _ ?_).search search).sort.congr
          fun _ _ => and_congr sees_some.symm Iff.rfl
        intro endpointId raw hraw
        obtain ⟨entry, hentry⟩ := Dict.mem_keys_iff.mp (h.complete endpointId raw hraw)
        have hcopies : Copies lookups endpointId raw entry.value :=
          ⟨_, _, h.copies hentry hraw⟩
        exact ⟨_, by rw [hentry]; rfl, hcopies.masked isPskEditor (portal.isStale entry)⟩
  · have hnone : ∀ endpointId, portal.ise.endpoints endpointId = none := by
      intro endpointId
      cases hraw : portal.ise.endpoints endpointId with
      | none => rfl
      | some raw =>
          have hkeys := List.length_pos_of_mem (h.complete endpointId raw hraw)
          rw [Dict.keys, List.length_map] at hkeys
          exact absurd hkeys hsize
    have hrows : ∀ filters, portal.ise.fullListing filters = [] := by
      intro filters
      refine List.eq_nil_iff_forall_not_mem.mpr fun row hrow => ?_
      obtain ⟨raw, hraw, _⟩ := (hise.listed filters row.id).mp (List.mem_map.mpr ⟨row, hrow, rfl⟩)
      rw [hnone] at hraw
      cases hraw
    have hpage : ∀ number, portal.listEndpointDetails lookups number size search filters
        effectiveRoles isPskEditor = { items := [], total := 0, page := number, size := size } := by
      intro number
      have hlisting : portal.ise.listPage number (min size 100) (combineFilters search filters) =
          .ok ([], 0) := by
        unfold IseServer.listPage IseServer.call
        rw [hise.answersLists, hise.paged, hrows]
        simp
      unfold PortalState.listEndpointDetails
      rw [if_neg hsize, hlisting]
      cases effectiveRoles <;> rfl
    refine ⟨[], ⟨?_, ?_, List.nodup_nil⟩, fun number => by rw [hpage]; rfl,
      fun number => by rw [hpage]; simp⟩
    · intro detail hdetail
      cases hdetail
    · intro endpointId raw hraw
      rw [hnone] at hraw
      cases hraw

/-! ## Agreement -/

/-- The two listings of the portal show the endpoints a cold cache shows, and every page reports
their number. -/
structure ListsAgree (lookups : Lookups) (portal : PortalState) (search : Option String)
    (filters : List String) (effectiveRoles : Option (List String)) (isPskEditor : Bool)
    (size : Nat) : Prop where
  all : ∀ endpointId,
    endpointId ∈ (portal.listAllEndpointDetails lookups search filters effectiveRoles isPskEditor
        none).map EndpointDetail.id ↔
      endpointId ∈ (portal.cold.listAllEndpointDetails lookups search filters effectiveRoles
        isPskEditor none).map EndpointDetail.id
  pages : ∀ endpointId,
    endpointId ∈ (allPages (fun number => portal.listEndpointDetails lookups number size search
        filters effectiveRoles isPskEditor) size).map EndpointDetail.id ↔
      endpointId ∈ (portal.cold.listAllEndpointDetails lookups search filters effectiveRoles
        isPskEditor none).map EndpointDetail.id
  total : ∀ number,
    (portal.listEndpointDetails lookups number size search filters effectiveRoles
        isPskEditor).total =
      ((portal.cold.listAllEndpointDetails lookups search filters effectiveRoles isPskEditor
        none).map EndpointDetail.id).toFinset.card

/-- Warm and cold lists agree exactly when every endpoint the caller sees and the search finds is
found by its MAC and let through by all explicit filters. -/
theorem warm_cold_agree_iff (h : Mirrors lookups portal) (hise : ListsBy portal.ise accepts)
    (horder : EnumeratesSets lookups) (search : Option String) (filters : List String)
    (effectiveRoles : Option (List String)) (isPskEditor : Bool) (hsize : 0 < size) :
    ListsAgree lookups portal search filters effectiveRoles isPskEditor size ↔
      ∀ endpointId raw, portal.ise.endpoints endpointId = some raw →
        Sees effectiveRoles (fetchEndpointDetail lookups endpointId raw) →
          SearchFinds search (fetchEndpointDetail lookups endpointId raw) →
            MacFinds search raw.macOrName ∧ FiltersAccept accepts filters raw := by
  obtain ⟨items, hitems, htotal, hslices⟩ :=
    pages_warm h hise horder search filters effectiveRoles isPskEditor size
  have hpages := all_pages_eq hsize htotal hslices
  have hwarm := lists_warm h hise horder search filters effectiveRoles isPskEditor
  have hcold : Lists lookups portal.ise _ (portal.cold.listAllEndpointDetails lookups search
    filters effectiveRoles isPskEditor none) :=
      lists_cold hise h.enabled search filters effectiveRoles isPskEditor
  constructor
  · intro hagree endpointId raw hraw hsees hfinds
    have hcoldId := (hagree.pages endpointId).mp
      (hpages ▸ (hitems.mem_ids hise).mpr ⟨raw, hraw, hsees, hfinds⟩)
    obtain ⟨other, hother, ⟨haccept, hmac⟩, _⟩ := (hcold.mem_ids hise).mp hcoldId
    rw [hraw] at hother
    cases hother
    exact ⟨hmac, haccept⟩
  · intro hgood
    have hsame : ∀ endpointId raw, portal.ise.endpoints endpointId = some raw →
        ((Sees effectiveRoles (fetchEndpointDetail lookups endpointId raw) ∧
          SearchFinds search (fetchEndpointDetail lookups endpointId raw)) ↔
        (FiltersAccept accepts filters raw ∧ MacFinds search raw.macOrName) ∧
          Sees effectiveRoles (fetchEndpointDetail lookups endpointId raw)) := by
      intro endpointId raw hraw
      constructor
      · rintro ⟨hsees, hfinds⟩
        obtain ⟨hmac, haccept⟩ := hgood endpointId raw hraw hsees hfinds
        exact ⟨⟨haccept, hmac⟩, hsees⟩
      · rintro ⟨⟨_, hmac⟩, hsees⟩
        exact ⟨hsees, search_finds_of_mac hmac⟩
    have hpageIds : ∀ endpointId, endpointId ∈ items.map EndpointDetail.id ↔
        endpointId ∈ (portal.cold.listAllEndpointDetails lookups search filters effectiveRoles
          isPskEditor none).map EndpointDetail.id := by
      intro endpointId
      rw [hitems.mem_ids hise, hcold.mem_ids hise]
      exact exists_congr fun raw => and_congr_right fun hraw => hsame endpointId raw hraw
    refine ⟨fun endpointId => ?_, fun endpointId => ?_, fun number => ?_⟩
    · rw [hwarm.mem_ids hise, hcold.mem_ids hise]
      refine exists_congr fun raw => and_congr_right fun hraw => ?_
      split
      · exact Iff.rfl
      · exact hsame endpointId raw hraw
    · rw [hpages]
      exact hpageIds endpointId
    · rw [htotal, ← List.length_map EndpointDetail.id, ← List.toFinset_card_of_nodup hitems.nodup]
      exact congrArg Finset.card (Finset.ext fun endpointId => by
        rw [List.mem_toFinset, List.mem_toFinset]
        exact hpageIds endpointId)

end Agreement

/-! ## One printer -/

section Examples

local instance listText : PyText := asciiText

local instance listCodec : DetailCodec := plainJson

def printer : RawEndpoint :=
  { name := "AA:BB:CC:00:00:01", description := some "Printer, first floor" }

/-- ISE's filters, of which the example only has those on the MAC. -/
def acceptsMac (filter : String) (raw : RawEndpoint) : Bool :=
  "mac.CONTAINS.".toList.isPrefixOf filter.toList &&
    contains (PyText.lower (String.ofList (filter.toList.drop "mac.CONTAINS.".length)))
      (PyText.lower raw.macOrName)

def printerRows (filters : List String) : List RawSummary :=
  if filters.all (acceptsMac · printer) then [{ id := "ep-1", name := printer.name }] else []

def printerIse : IseServer where
  endpoints endpointId := if endpointId = "ep-1" then some printer else none
  fullListing := printerRows
  listing page size filters :=
    (((printerRows filters).drop ((page - 1) * size)).take size, (printerRows filters).length)

def sortedLookups : Lookups := { setOrder := fun endpointIds => endpointIds.sort (· ≤ ·) }

def printerPortal : PortalState where
  now := 110
  ise := printerIse
  cache := EndpointCache.putDetail {} 100 {} "ep-1"
    (fetchEndpointDetail sortedLookups "ep-1" printer) false

theorem printer_lists : ListsBy printerIse acceptsMac where
  answersLists := rfl
  answersGets _ := rfl
  ownId := by
    intro endpointId raw hraw
    simp only [printerIse] at hraw
    split at hraw
    · cases hraw
      rfl
    · cases hraw
  listed := by
    intro filters endpointId
    by_cases hall : filters.all (acceptsMac · printer) = true
    · have haccepts := List.all_eq_true.mp hall
      by_cases hid : endpointId = "ep-1"
      · simpa [printerIse, printerRows, hall, hid] using haccepts
      · simp [printerIse, printerRows, hall, hid]
    · have haccepts : ¬ ∀ filter ∈ filters, acceptsMac filter printer = true :=
        fun h => hall (List.all_eq_true.mpr h)
      by_cases hid : endpointId = "ep-1"
      · simp [printerIse, printerRows, hall, hid, haccepts]
      · simp [printerIse, printerRows, hall, hid]
  once := by
    intro filters
    simp only [printerIse, printerRows]
    split <;> simp
  paged _ _ _ := rfl
  macContains := by
    intro text raw
    have hlength : "mac.CONTAINS.".length = 13 := rfl
    simp [acceptsMac, hlength]

theorem sorted_enumerates : EnumeratesSets sortedLookups where
  mem _ _ := Finset.mem_sort _
  nodup _ := Finset.sort_nodup _ _

/-- What the cache holds. -/
def printerEntry : CachedEntry EndpointDetail where
  value := fetchEndpointDetail sortedLookups "ep-1" printer
  fetchedAt := 100
  fromDisk := false
  sizeBytes := 770
  changeEma := 0
  valueHash := "Printer, first floor"

theorem printer_mirrors : Mirrors sortedLookups printerPortal := by
  have hentries : printerPortal.cache.details.entries = [("ep-1", printerEntry)] := rfl
  have hentry : ∀ endpointId entry, printerPortal.cache.details.get? endpointId = some entry →
      endpointId = "ep-1" ∧ entry = printerEntry := by
    intro endpointId entry hget
    have hmem := Dict.get?_eq_some_iff.mp hget
    rw [hentries, List.mem_singleton, Prod.mk.injEq] at hmem
    exact hmem
  refine ⟨rfl, put_detail_rep {} 100 _ false rep_of_empty, ?_, ?_, ?_, ?_⟩
  · intro endpointId raw hraw
    rw [Dict.keys, hentries]
    simp only [printerPortal, printerIse] at hraw
    split at hraw
    · rename_i hid
      exact List.mem_singleton.mpr hid
    · cases hraw
  · intro endpointId entry hget
    rw [(hentry endpointId entry hget).2]
    rfl
  · intro endpointId entry hget
    rw [(hentry endpointId entry hget).2]
    with_unfolding_all decide
  · intro endpointId entry hget
    obtain ⟨rfl, rfl⟩ := hentry endpointId entry hget
    exact ⟨printer, rfl, rfl⟩

/-- Without search and filters an admin is shown the same. -/
theorem warm_cold_agree_iff_unfiltered :
    ListsAgree sortedLookups printerPortal none [] none true 50 := by
  refine (warm_cold_agree_iff printer_mirrors printer_lists sorted_enumerates none [] none true
    (by decide)).mpr fun _ _ _ _ _ => ⟨?_, ?_⟩
  · intro _ hsearch
    cases hsearch
  · intro _ hfilter
    cases hfilter

/-- A warm page ignores the filters, and finds descriptions that ISE does not search. -/
theorem warm_cold_disagree :
    ¬ ListsAgree sortedLookups printerPortal none ["mac.CONTAINS.FF"] none true 50 ∧
      ¬ ListsAgree sortedLookups printerPortal (some "printer") [] none true 50 := by
  constructor
  · intro h
    exact absurd (h.total 1) (by with_unfolding_all decide)
  · intro h
    exact absurd (h.total 1) (by with_unfolding_all decide)

end Examples

end IsePortal
