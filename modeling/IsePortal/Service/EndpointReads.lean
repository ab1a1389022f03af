import IsePortal.Api.Deps
import IsePortal.Audit.AuditStore
import IsePortal.Cache.EndpointCache

/-!
# Reading endpoints

The reads of `EndpointService` (`app/services/endpoint_service.py`): one endpoint through the
cache, the listings from the roles index or the whole cache, and the listings from ISE while the
cache is empty. Every exit masks the PSK key for itself. A read sees the cache and ISE as the
request finds them; the refresh a stale entry starts in the background ends after the answer.
-/

namespace IsePortal

open Library EndpointCache

/-- What a detail takes from the other stores and caches of the portal, and the order in which
the runtime goes through a set. -/
structure Lookups where
  groupName : String → String := fun _ => ""
  profilerName : String → String := fun _ => ""
  profilerNameSync : String → String := fun _ => ""
  ouiVendor : String → String := fun _ => ""
  auditCreateTime : EndpointId → String := fun _ => ""
  firstSeen : String → EndpointId → String → Option Time := fun _ _ _ => none
  setOrder : Finset EndpointId → List EndpointId

/-- `EndpointSummary` -/
structure EndpointSummary where
  id : EndpointId
  name : String
  description : Option String := none
  vendor : String := ""
  deriving DecidableEq

/-- `PaginatedEndpointDetails` -/
structure PaginatedEndpointDetails where
  items : List EndpointDetail := []
  total : Nat := 0
  page : Nat := 1
  size : Nat := 100
  deriving DecidableEq

/-- `_mask_psk` -/
def maskPsk (detail : EndpointDetail) : EndpointDetail :=
  if detail.pskKey ≠ "" ∧ detail.pskKey ≠ pskMasked then { detail with pskKey := pskMasked }
  else detail

/-- A detail as a user may see it. -/
def maskFor (isPskEditor : Bool) (detail : EndpointDetail) : EndpointDetail :=
  if isPskEditor then detail else maskPsk detail

/-- `d.mac or d.name`, the key of the listings' order. -/
def sortKey (detail : EndpointDetail) : String := orElse detail.mac detail.name

/-- `items.sort(key=lambda d: d.mac or d.name)` -/
def sortDetails (items : List EndpointDetail) : List EndpointDetail :=
  items.mergeSort fun first second => decide (sortKey first ≤ sortKey second)

section Reads

variable [PyText]

/-- `low in text` -/
def contains (low text : String) : Bool := decide (low.toList <:+: text.toList)

/-- `_parse_roles_csv` -/
def parseRolesCsv (csv : String) : List String :=
  if csv = "" then []
  else
    ((csv.toList.splitOn ',').map fun role => PyText.strip (String.ofList role)).filter (· ≠ "")

/-- `_fetch_endpoint_detail`: the detail made of ISE's record. -/
def fetchEndpointDetail (lookups : Lookups) (endpointId : EndpointId) (raw : RawEndpoint) :
    EndpointDetail :=
  let ca := raw.customAttributes
  let profileId := orElse raw.profileId raw.endpointProfileId
  let profilerName := orElse raw.endpointProfile (lookups.profilerName profileId)
  let registeredAt := ca.attr registeredAtAttr
  { id := raw.id.getD endpointId
    name := raw.name
    mac := raw.macOrName
    description := raw.description
    groupId := some raw.groupId
    groupName := if raw.groupId = "" then "" else lookups.groupName raw.groupId
    staticGroup := raw.staticGroupAssignment
    endpointType := ca.attr "Type"
    owner := ca.attr "Owner"
    lokation := ca.attr "Lokation"
    authzVlan := ca.attr "AuthzVlan"
    authzAcl := ca.attr "AuthzACL"
    platformType := ca.attr "PlatformType"
    registretBy := ca.attr "RegistretBy"
    guestRegistration := ca.attr guestRegistrationAttr
    hypervision := ca.attr hiddenAttr
    roles := parseRolesCsv (ca.attr rolesAttr)
    profileId := profileId
    profilerName := profilerName
    staticProfile := raw.staticProfileAssignment
    portalUser := raw.portalUser
    identityStore := raw.identityStore
    identityStoreId := raw.identityStoreId
    vendor := orElse profilerName (lookups.ouiVendor raw.macOrName)
    pskMode := PyText.lower (ca.attr pskModeAttr) = "true"
    pskKey := pskDecode (ca.attr pskKeyAttr)
    createTime :=
      orElse raw.createTime (orElse raw.createdAt
        (orElse registeredAt (lookups.auditCreateTime endpointId)))
    updateTime := orElse raw.updateTime raw.updatedAt
    firstSeenAt := lookups.firstSeen raw.macOrName endpointId registeredAt
    status := ca.attr "HypervisionStatus"
    activeStatus := ca.attr activeAttr
    guestExperyDate := ca.attr guestExperyDateAttr
    guestAccessExpire := ca.attr guestAccessExpireAttr }

/-- The row a listing falls back on for an endpoint ISE does not answer for. -/
def summaryDetail (lookups : Lookups) (row : RawSummary) : EndpointDetail :=
  { id := row.id
    name := row.name
    mac := row.name
    description := row.description
    vendor := orElse (lookups.profilerNameSync row.profileId) (lookups.ouiVendor row.name) }

/-! ## Filters -/

/-- The test `if search` with the filter on MAC and description behind it. -/
def searchFilter (search : Option String) (items : List EndpointDetail) : List EndpointDetail :=
  match search with
  | none => items
  | some search =>
      if search = "" then items
      else
        let low := PyText.lower (PyText.strip search)
        items.filter fun detail =>
          contains low (PyText.lower detail.mac) ||
            contains low (PyText.lower (detail.description.getD ""))

/-- `_full_text_filter` -/
def fullTextFilter (items : List EndpointDetail) (q : String) : List EndpointDetail :=
  let low := PyText.lower (PyText.strip q)
  if low = "" then items
  else
    items.filter fun detail =>
      [detail.mac, detail.name, detail.description.getD "", detail.groupName,
        detail.profilerName, detail.vendor, detail.owner, detail.lokation, detail.endpointType,
        detail.platformType].any fun text => contains low (PyText.lower text)

/-- The test `if full_text_q` with the filter behind it. -/
def fullTextQuery (q : Option String) (items : List EndpointDetail) : List EndpointDetail :=
  match q with
  | none => items
  | some q => if q = "" then items else fullTextFilter items q

/-- `_combine_filters` -/
def combineFilters (search : Option String) (explicit : List String) : List String :=
  explicit.filter (fun filter => PyText.strip filter ≠ "") ++
    match search with
    | none => []
    | some search =>
        if PyText.strip search = "" then [] else ["mac.CONTAINS." ++ PyText.strip search]

/-! ## The service -/

variable [DetailCodec]

/-- What a read of an endpoint sees. -/
structure PortalState where
  cfg : CacheSettings := {}
  now : Time
  cache : EndpointCache EndpointDetail := {}
  ise : IseServer
  audit : List AuditRow := []

/-- What `cache.get_detail` returns; `stored` says that it was read from ISE and stored, in place
of the entry there was. -/
structure DetailRead where
  detail : EndpointDetail
  stored : Bool := false

namespace PortalState

variable (lookups : Lookups) (portal : PortalState)

omit [DetailCodec] in
/-- `_fetch_endpoint_detail` -/
def fetchDetail (endpointId : EndpointId) : Except IseApiError EndpointDetail :=
  (portal.ise.get endpointId).map (fetchEndpointDetail lookups endpointId)

/-- `cache.get_detail` -/
def getDetail (endpointId : EndpointId) (forceFresh : Bool) : Except IseApiError DetailRead :=
  if portal.cfg.cacheEnabled then
    match portal.cache.details.get? endpointId with
    | some entry =>
        if !forceFresh && !entry.fromDisk &&
            decide (portal.now - entry.fetchedAt ≤
              effectiveTtlForEntry entry portal.cfg.cacheTtlSeconds) then
          .ok { detail := entry.value }
        else if !forceFresh && entry.fromDisk then
          .ok { detail := { entry.value with cacheStale := true } }
        else if !forceFresh && portal.cfg.cacheStaleWhileRevalidate &&
            staleServable portal.cfg portal.now entry then
          .ok { detail := entry.value }
        else
          match portal.fetchDetail lookups endpointId with
          | .ok detail => .ok { detail := detail, stored := true }
          -- a fetch that fails falls back on the entry, however old it is
          | .error _ => .ok { detail := { entry.value with cacheStale := true } }
    | none =>
        (portal.fetchDetail lookups endpointId).map fun detail =>
          { detail := detail, stored := true }
  else
    (portal.fetchDetail lookups endpointId).map fun detail => { detail := detail }

/-- The end of `get_endpoint`: the scope, then the mask. No effective roles mean no scope. -/
def scopedDetail (endpointId : EndpointId) (effectiveRoles : Option (List String))
    (isPskEditor : Bool) (detail : EndpointDetail) : Except IseApiError EndpointDetail :=
  match effectiveRoles with
  | none => .ok (maskFor isPskEditor detail)
  | some roles =>
      if endpointVisible detail roles then .ok (maskFor isPskEditor detail)
      else .error { statusCode := 404, message := "Endpoint " ++ endpointId ++ " not found" }

/-- `get_endpoint` -/
def getEndpoint (endpointId : EndpointId) (effectiveRoles : Option (List String))
    (isPskEditor forceFresh : Bool) : Except IseApiError EndpointDetail :=
  match portal.getDetail lookups endpointId forceFresh with
  | .error exc => .error exc
  | .ok read =>
      scopedDetail endpointId effectiveRoles isPskEditor
        { read.detail with cacheStale := !read.stored && portal.cache.isFromDisk endpointId }

/-! ## Listings -/

omit [PyText] [DetailCodec] in
/-- The stale flag of a snapshot. -/
def isStale (entry : CachedEntry EndpointDetail) : Bool :=
  entry.fromDisk ||
    decide (portal.now - entry.fetchedAt >
      effectiveTtlForEntry entry portal.cfg.cacheTtlSeconds)

omit [PyText] [DetailCodec] in
/-- `snapshot_all_details`: the cached values with their stale flags. -/
def snapshotAllDetails : List (EndpointDetail × Bool) :=
  portal.cache.details.entries.map fun entry => (entry.2.value, portal.isStale entry.2)

omit [DetailCodec] in
/-- `snapshot_details_for_roles` -/
def snapshotDetailsForRoles (effectiveRoles : List String) : List (EndpointDetail × Bool) :=
  (lookups.setOrder (portal.cache.getIdsForRoles effectiveRoles)).filterMap fun endpointId =>
    (portal.cache.details.get? endpointId).map fun entry => (entry.value, portal.isStale entry)

/-- `fetch_one` of the listings from ISE. -/
def fetchOne (isPskEditor : Bool) (row : RawSummary) : EndpointDetail :=
  match portal.getEndpoint lookups row.id none isPskEditor false with
  | .ok detail => detail
  | .error _ => summaryDetail lookups row

end PortalState

omit [DetailCodec] in
/-- `_build_detail_page` -/
def buildDetailPage (raw : List (EndpointDetail × Bool)) (page size : Nat) (isPskEditor : Bool)
    (search : Option String) : PaginatedEndpointDetails :=
  let items := raw.map fun entry => maskFor isPskEditor { entry.1 with cacheStale := entry.2 }
  let items := sortDetails (searchFilter search items)
  { items := (items.drop ((page - 1) * size)).take size
    total := items.length
    page := page
    size := size }

namespace PortalState

variable (lookups : Lookups) (portal : PortalState)

/-- `list_endpoint_details` -/
def listEndpointDetails (page size : Nat) (search : Option String) (filters : List String)
    (effectiveRoles : Option (List String)) (isPskEditor : Bool) : PaginatedEndpointDetails :=
  if 0 < portal.cache.details.size then
    match effectiveRoles with
    | some roles =>
        buildDetailPage (portal.snapshotDetailsForRoles lookups roles) page size isPskEditor search
    | none => buildDetailPage portal.snapshotAllDetails page size isPskEditor search
  else
    match portal.ise.listPage page (min size 100) (combineFilters search filters) with
    -- an empty cache and ISE out of reach: an empty page rather than an error
    | .error _ => { items := [], total := 0, page := page, size := size }
    | .ok (rows, total) =>
        let items := rows.map (portal.fetchOne lookups isPskEditor)
        match effectiveRoles with
        | none => { items := items, total := total, page := page, size := size }
        | some roles =>
            let visible := items.filter (endpointVisible · roles)
            { items := visible, total := visible.length, page := page, size := size }

/-- `list_all_endpoint_details` -/
def listAllEndpointDetails (search : Option String) (filters : List String)
    (effectiveRoles : Option (List String)) (isPskEditor : Bool) (fullTextQ : Option String) :
    List EndpointDetail :=
  if effectiveRoles.isNone && filters.isEmpty && decide (0 < portal.cache.details.size) then
    let items := portal.cache.details.entries.map fun entry => maskFor isPskEditor entry.2.value
    sortDetails (fullTextQuery fullTextQ (searchFilter search items))
  else if effectiveRoles.isSome && decide (0 < portal.cache.details.size) then
    let allIds := lookups.setOrder (portal.cache.getIdsForRoles (effectiveRoles.getD []))
    let items := allIds.filterMap fun endpointId =>
      (portal.getEndpoint lookups endpointId none isPskEditor false).toOption
    sortDetails (fullTextQuery fullTextQ (searchFilter search items))
  else
    match portal.ise.listAll (combineFilters search filters) with
    | .error _ => []
    | .ok rows =>
        let items := rows.map (portal.fetchOne lookups isPskEditor)
        let visible :=
          match effectiveRoles with
          | none => items
          | some roles => items.filter (endpointVisible · roles)
        fullTextQuery fullTextQ visible

/-- `list_endpoints` -/
def listEndpoints (page size : Nat) (search : Option String) (filters : List String)
    (effectiveRoles : Option (List String)) : Except IseApiError (List EndpointSummary) :=
  match effectiveRoles with
  | some roles =>
      let details := portal.listEndpointDetails lookups page size search filters (some roles) false
      .ok (details.items.map fun detail =>
        { id := detail.id, name := detail.name, description := detail.description,
          vendor := detail.vendor })
  | none =>
      (portal.ise.listPage page size (combineFilters search filters)).map fun listed =>
        listed.1.map fun row =>
          { id := row.id, name := row.name, description := row.description,
            vendor := (summaryDetail lookups row).vendor }

end PortalState

end Reads

end IsePortal
