import IsePortal.Service.EndpointReads

/-!
# Details without their keys

The reads of the service as functions of what they cover: masking a read is masking the details
it returns (`shows_masked`), and reading a portal whose stored PSK keys are taken out is taking
the keys out of what is read (`shows_redacted`). Both are cases of one relation, `Shows`, under
which the listings select, filter and order the same endpoints.
-/

namespace IsePortal

open Library EndpointCache

/-! ## Two lists under the same view -/

section Views

variable {α β γ δ : Type*} {rest : α → β} {shown : α → γ} {hidden : α → δ}

/-- Where two values of the same rest show the same exactly when they hide the same, so do two
lists. -/
theorem map_eq_map_iff
    (h : ∀ first second, rest first = rest second →
      (shown first = shown second ↔ hidden first = hidden second))
    {firsts seconds : List α} (hrest : firsts.map rest = seconds.map rest) :
    firsts.map shown = seconds.map shown ↔ firsts.map hidden = seconds.map hidden := by
  induction firsts generalizing seconds with
  | nil =>
      cases seconds with
      | nil => simp
      | cons second seconds => cases hrest
  | cons first firsts ih =>
      cases seconds with
      | nil => cases hrest
      | cons second seconds =>
          rw [List.map_cons, List.map_cons, List.cons.injEq] at hrest
          simp only [List.map_cons, List.cons.injEq, h first second hrest.1, ih hrest.2]

/-- The same for a value that may be missing. -/
theorem eq_iff_of_map_eq
    (h : ∀ first second, rest first = rest second →
      (first = second ↔ hidden first = hidden second))
    {first second : Option α} (hrest : first.map rest = second.map rest) :
    first = second ↔ first.map hidden = second.map hidden := by
  cases first with
  | none =>
      cases second with
      | none => simp
      | some second => cases hrest
  | some first =>
      cases second with
      | none => cases hrest
      | some second => simpa using h first second (Option.some.inj hrest)

end Views

/-! ## Changing the key of a detail -/

/-- The detail with another key. -/
def rekey (f : String → String) (detail : EndpointDetail) : EndpointDetail :=
  { detail with pskKey := f detail.pskKey }

/-- What the mask makes of a key. -/
def maskKey (key : String) : String := if key = "" then "" else pskMasked

/-- A detail without its key. -/
def redactDetail (detail : EndpointDetail) : EndpointDetail := rekey (fun _ => "") detail

/-- There is a key to mask. -/
def hasKey (detail : EndpointDetail) : Bool := detail.pskKey ≠ ""

/-- A key that stays leaves the detail as it is. -/
theorem rekey_eq_self {f : String → String} {detail : EndpointDetail}
    (h : f detail.pskKey = detail.pskKey) : rekey f detail = detail := by
  unfold rekey
  rw [h]

theorem maskPsk_eq (detail : EndpointDetail) : maskPsk detail = rekey maskKey detail := by
  by_cases hempty : detail.pskKey = ""
  · rw [rekey_eq_self (by simp [maskKey, hempty]), maskPsk, if_neg (by simp [hempty])]
  · by_cases hmasked : detail.pskKey = pskMasked
    · rw [rekey_eq_self (by simp [maskKey, hmasked]), maskPsk, if_neg (by simp [hmasked])]
    · rw [maskPsk, if_pos ⟨hempty, hmasked⟩]
      simp [rekey, maskKey, hempty]

theorem hasKey_maskPsk (detail : EndpointDetail) : hasKey (maskPsk detail) = hasKey detail := by
  rw [maskPsk_eq]
  unfold hasKey rekey maskKey
  by_cases hempty : detail.pskKey = ""
  · simp [hempty]
  · simp [hempty, pskMasked]

/-- The mask shows the rest of a detail, and whether it has a key. -/
theorem maskPsk_eq_iff {detail other : EndpointDetail}
    (hrest : redactDetail detail = redactDetail other) :
    maskPsk detail = maskPsk other ↔ hasKey detail = hasKey other := by
  constructor
  · intro h
    rw [← hasKey_maskPsk detail, h, hasKey_maskPsk]
  · intro h
    have hmask (detail : EndpointDetail) : maskPsk detail =
        { redactDetail detail with pskKey := if hasKey detail then pskMasked else "" } := by
      rw [maskPsk_eq]
      unfold rekey maskKey redactDetail hasKey rekey
      by_cases hempty : detail.pskKey = "" <;> simp [hempty]
    rw [hmask, hmask, hrest, h]

theorem map_maskPsk_eq_iff {details others : List EndpointDetail}
    (hrest : details.map redactDetail = others.map redactDetail) :
    details.map maskPsk = others.map maskPsk ↔ details.map hasKey = others.map hasKey :=
  map_eq_map_iff (fun _ _ => maskPsk_eq_iff) hrest

/-! ## What the listings do does not depend on the keys -/

section Selection

variable (f : String → String)

theorem sortDetails_map (items : List EndpointDetail) :
    sortDetails (items.map (rekey f)) = (sortDetails items).map (rekey f) := by
  unfold sortDetails
  exact (List.map_mergeSort (f := rekey f) fun _ _ _ _ => rfl).symm

variable [PyText]

theorem searchFilter_map (search : Option String) (items : List EndpointDetail) :
    searchFilter search (items.map (rekey f)) = (searchFilter search items).map (rekey f) := by
  unfold searchFilter
  cases search with
  | none => rfl
  | some search =>
      by_cases hempty : search = ""
      · simp [hempty]
      · simp only [hempty, ↓reduceIte, List.filter_map]
        rfl

theorem fullTextQuery_map (q : Option String) (items : List EndpointDetail) :
    fullTextQuery q (items.map (rekey f)) = (fullTextQuery q items).map (rekey f) := by
  unfold fullTextQuery
  cases q with
  | none => rfl
  | some q =>
      by_cases hempty : q = ""
      · simp [hempty]
      · simp only [hempty, ↓reduceIte, fullTextFilter]
        by_cases hlow : PyText.lower (PyText.strip q) = ""
        · simp [hlow]
        · simp only [hlow, ↓reduceIte, List.filter_map]
          rfl

variable [DetailCodec]

theorem endpointVisible_rekey (detail : EndpointDetail) (roles : List String) :
    endpointVisible (rekey f detail) roles = endpointVisible detail roles := rfl

theorem filter_visible_map (roles : List String) (items : List EndpointDetail) :
    (items.map (rekey f)).filter (endpointVisible · roles) =
      (items.filter (endpointVisible · roles)).map (rekey f) := by
  rw [List.filter_map]
  rfl

end Selection

/-! ## Two portals that show the same but for the keys -/

/-- The page with other details on it. -/
def PaginatedEndpointDetails.mapItems (g : EndpointDetail → EndpointDetail)
    (page : PaginatedEndpointDetails) : PaginatedEndpointDetails :=
  { page with items := page.items.map g }

section Shows

variable [PyText] [DetailCodec]

/-- What a user may see of a cached entry: its value and its stale flag. -/
def PortalState.view (portal : PortalState) (g : EndpointDetail → EndpointDetail)
    (entry : CachedEntry EndpointDetail) : EndpointDetail × Bool :=
  (g entry.value, portal.isStale entry)

/-- One portal shows, with this flag, what the other shows unmasked, up to a change of keys: the
same endpoints behind the same roles and listings, the same entries, the same single reads. -/
structure Shows (f : String → String) (lookups : Lookups) (portal shown : PortalState)
    (isPskEditor : Bool) : Prop where
  keyless : f "" = ""
  endpoint : ∀ endpointId scope fresh,
    shown.getEndpoint lookups endpointId scope isPskEditor fresh =
      (portal.getEndpoint lookups endpointId scope true fresh).map (rekey f)
  entries : shown.cache.details.entries.map
      (fun entry => (entry.1, shown.view (maskFor isPskEditor) entry.2)) =
    portal.cache.details.entries.map (fun entry => (entry.1, portal.view (rekey f) entry.2))
  rolesIndex : shown.cache.rolesIndex = portal.cache.rolesIndex
  listPage : shown.ise.listPage = portal.ise.listPage
  listAll : shown.ise.listAll = portal.ise.listAll

namespace Shows

variable {f : String → String} {lookups : Lookups} {portal shown : PortalState}
  {isPskEditor : Bool}

theorem size (h : Shows f lookups portal shown isPskEditor) :
    shown.cache.details.size = portal.cache.details.size := by
  have hlength := congrArg List.length h.entries
  rw [List.length_map, List.length_map] at hlength
  exact hlength

theorem getIdsForRoles (h : Shows f lookups portal shown isPskEditor) (roles : List String) :
    shown.cache.getIdsForRoles roles = portal.cache.getIdsForRoles roles := by
  unfold EndpointCache.getIdsForRoles
  rw [h.rolesIndex]

/-- The entry under an id is shown as the entries are. -/
theorem get? (h : Shows f lookups portal shown isPskEditor) (endpointId : EndpointId) :
    (shown.cache.details.get? endpointId).map (shown.view (maskFor isPskEditor)) =
      (portal.cache.details.get? endpointId).map (portal.view (rekey f)) := by
  rw [← Dict.get?_mapValues, ← Dict.get?_mapValues]
  show List.lookup endpointId _ = List.lookup endpointId _
  exact congrArg (List.lookup endpointId) h.entries

theorem snapshotAll (h : Shows f lookups portal shown isPskEditor) :
    shown.snapshotAllDetails.map (fun entry => (maskFor isPskEditor entry.1, entry.2)) =
      portal.snapshotAllDetails.map (fun entry => (rekey f entry.1, entry.2)) := by
  have hsnd := congrArg (List.map Prod.snd) h.entries
  rw [List.map_map, List.map_map] at hsnd
  unfold PortalState.snapshotAllDetails
  rw [List.map_map, List.map_map]
  exact hsnd

theorem snapshotForRoles (h : Shows f lookups portal shown isPskEditor) (roles : List String) :
    (shown.snapshotDetailsForRoles lookups roles).map
        (fun entry => (maskFor isPskEditor entry.1, entry.2)) =
      (portal.snapshotDetailsForRoles lookups roles).map
        (fun entry => (rekey f entry.1, entry.2)) := by
  unfold PortalState.snapshotDetailsForRoles
  rw [h.getIdsForRoles, List.map_filterMap, List.map_filterMap]
  refine List.filterMap_congr fun endpointId _ => ?_
  rw [Option.map_map, Option.map_map]
  exact h.get? endpointId

theorem fetchOne (h : Shows f lookups portal shown isPskEditor) (row : RawSummary) :
    shown.fetchOne lookups isPskEditor row = rekey f (portal.fetchOne lookups true row) := by
  unfold PortalState.fetchOne
  rw [h.endpoint]
  cases portal.getEndpoint lookups row.id none true false with
  | ok detail => rfl
  | error exc => exact (rekey_eq_self h.keyless).symm

end Shows

omit [DetailCodec] in
/-- The mask, like the change of a key, commutes with the stale flag. -/
theorem buildDetailPage_rekey {f : String → String} {raw other : List (EndpointDetail × Bool)}
    {isPskEditor : Bool}
    (h : other.map (fun entry => (maskFor isPskEditor entry.1, entry.2)) =
      raw.map (fun entry => (rekey f entry.1, entry.2)))
    (page size : Nat) (search : Option String) :
    buildDetailPage other page size isPskEditor search =
      (buildDetailPage raw page size true search).mapItems (rekey f) := by
  -- the page sets the stale flag before it masks
  have hitems : other.map (fun entry =>
        maskFor isPskEditor { entry.1 with cacheStale := entry.2 }) =
      (raw.map fun entry => { entry.1 with cacheStale := entry.2 }).map (rekey f) := by
    have hstale (detail : EndpointDetail) (stale : Bool) :
        maskFor isPskEditor { detail with cacheStale := stale } =
          { maskFor isPskEditor detail with cacheStale := stale } := by
      unfold maskFor
      cases isPskEditor with
      | true => rfl
      | false =>
          simp only [Bool.false_eq_true, ↓reduceIte, maskPsk_eq]
          rfl
    have hmap := congrArg (List.map fun entry : EndpointDetail × Bool =>
      { entry.1 with cacheStale := entry.2 }) h
    rw [List.map_map, List.map_map] at hmap
    rw [List.map_map]
    exact (List.map_congr_left fun entry _ => hstale entry.1 entry.2).trans hmap
  have hraw : raw.map (fun entry => maskFor true { entry.1 with cacheStale := entry.2 }) =
      raw.map fun entry => { entry.1 with cacheStale := entry.2 } := rfl
  unfold buildDetailPage PaginatedEndpointDetails.mapItems
  simp only [hitems, hraw, searchFilter_map, sortDetails_map, List.length_map, List.map_take,
    List.map_drop]

namespace Shows

variable {f : String → String} {lookups : Lookups} {portal shown : PortalState}
  {isPskEditor : Bool}

theorem map_fetchOne (h : Shows f lookups portal shown isPskEditor) (rows : List RawSummary) :
    rows.map (shown.fetchOne lookups isPskEditor) =
      (rows.map (portal.fetchOne lookups true)).map (rekey f) := by
  rw [List.map_map]
  exact List.map_congr_left fun row _ => h.fetchOne row

theorem listEndpointDetails (h : Shows f lookups portal shown isPskEditor) (page size : Nat)
    (search : Option String) (filters : List String) (scope : Option (List String)) :
    shown.listEndpointDetails lookups page size search filters scope isPskEditor =
      (portal.listEndpointDetails lookups page size search filters scope true).mapItems
        (rekey f) := by
  unfold PortalState.listEndpointDetails
  rw [h.size, h.listPage]
  by_cases hwarm : 0 < portal.cache.details.size
  · -- a snapshot of the cache
    rw [if_pos hwarm, if_pos hwarm]
    cases scope with
    | none => exact buildDetailPage_rekey h.snapshotAll page size search
    | some roles => exact buildDetailPage_rekey (h.snapshotForRoles roles) page size search
  · -- a page of ISE, with a read for each of its rows
    rw [if_neg hwarm, if_neg hwarm]
    cases portal.ise.listPage page (min size 100) (combineFilters search filters) with
    | error exc => rfl
    | ok listed =>
        obtain ⟨rows, total⟩ := listed
        cases scope with
        | none =>
            dsimp only
            rw [h.map_fetchOne]
            rfl
        | some roles =>
            dsimp only
            rw [h.map_fetchOne, filter_visible_map, List.length_map]
            rfl

theorem listAllEndpointDetails (h : Shows f lookups portal shown isPskEditor)
    (search : Option String) (filters : List String) (scope : Option (List String))
    (q : Option String) :
    shown.listAllEndpointDetails lookups search filters scope isPskEditor q =
      (portal.listAllEndpointDetails lookups search filters scope true q).map (rekey f) := by
  unfold PortalState.listAllEndpointDetails
  rw [h.size, h.listAll, h.getIdsForRoles]
  split
  · -- the values of the cache
    have hvalues := congrArg (List.map fun entry => entry.2.1) h.entries
    rw [List.map_map, List.map_map] at hvalues
    have hitems : shown.cache.details.entries.map (fun entry => maskFor isPskEditor entry.2.value) =
        (portal.cache.details.entries.map fun entry => entry.2.value).map (rekey f) := by
      rw [List.map_map]
      exact hvalues
    show sortDetails _ = _
    rw [hitems, searchFilter_map, fullTextQuery_map, sortDetails_map]
    rfl
  · split
    · -- the reads of the endpoints behind the roles
      have hitems (ids : List EndpointId) : ids.filterMap (fun endpointId =>
            (shown.getEndpoint lookups endpointId none isPskEditor false).toOption) =
          (ids.filterMap fun endpointId =>
            (portal.getEndpoint lookups endpointId none true false).toOption).map (rekey f) := by
        rw [List.map_filterMap]
        refine List.filterMap_congr fun endpointId _ => ?_
        rw [h.endpoint]
        cases portal.getEndpoint lookups endpointId none true false <;> rfl
      dsimp only
      rw [hitems, searchFilter_map, fullTextQuery_map, sortDetails_map]
    · -- the list of ISE, with a read for each of its rows
      cases portal.ise.listAll (combineFilters search filters) with
      | error exc => rfl
      | ok rows =>
          dsimp only
          rw [h.map_fetchOne]
          cases scope with
          | none => exact fullTextQuery_map f q _
          | some roles =>
              dsimp only
              rw [filter_visible_map, fullTextQuery_map]

end Shows

/-! ## The two instances: the mask, and the portal without keys -/

omit [PyText] [DetailCodec] in
theorem maskFor_rekey (detail : EndpointDetail) : maskFor false detail = rekey maskKey detail :=
  maskPsk_eq detail

theorem scopedDetail_masked (endpointId : EndpointId) (scope : Option (List String))
    (detail : EndpointDetail) :
    PortalState.scopedDetail endpointId scope false detail =
      (PortalState.scopedDetail endpointId scope true detail).map (rekey maskKey) := by
  unfold PortalState.scopedDetail
  rw [maskFor_rekey]
  cases scope with
  | none => rfl
  | some roles => by_cases hvisible : endpointVisible detail roles <;> simp [hvisible] <;> rfl

theorem scopedDetail_rekey (f : String → String) (endpointId : EndpointId)
    (scope : Option (List String)) (detail : EndpointDetail) :
    PortalState.scopedDetail endpointId scope true (rekey f detail) =
      (PortalState.scopedDetail endpointId scope true detail).map (rekey f) := by
  unfold PortalState.scopedDetail
  cases scope with
  | none => rfl
  | some roles =>
      simp only [endpointVisible_rekey]
      by_cases hvisible : endpointVisible detail roles <;> simp [hvisible] <;> rfl

/-- A portal shows masked what it shows unmasked. -/
theorem shows_masked (lookups : Lookups) (portal : PortalState) :
    Shows maskKey lookups portal portal false where
  keyless := rfl
  endpoint endpointId scope fresh := by
    unfold PortalState.getEndpoint
    cases portal.getDetail lookups endpointId fresh with
    | error exc => rfl
    | ok read => exact scopedDetail_masked endpointId scope _
  entries := List.map_congr_left fun entry _ => by
    simp only [PortalState.view, maskFor_rekey]
  rolesIndex := rfl
  listPage := rfl
  listAll := rfl

/-- A snapshot without its key. -/
def AuditSnapshot.redact : AuditSnapshot → AuditSnapshot
  | .detail value => .detail (redactDetail value)
  | .created mac groupId description staticGroupAssignment customAttributes =>
      .created mac groupId description staticGroupAssignment
        (customAttributes.modify pskKeyAttr fun _ => "")
  | .fields values => .fields values

/-- The key in a snapshot. -/
def AuditSnapshot.key : AuditSnapshot → Option String
  | .detail value => some value.pskKey
  | .created _ _ _ _ customAttributes => customAttributes.get? pskKeyAttr
  | .fields _ => none

/-- A row without the keys of its snapshots. -/
def AuditRow.redact (row : AuditRow) : AuditRow :=
  { row with before := row.before.map AuditSnapshot.redact
             after := row.after.map AuditSnapshot.redact }

/-- The keys in the snapshots of a row. -/
def AuditRow.keys (row : AuditRow) : Option (Option String) × Option (Option String) :=
  (row.before.map AuditSnapshot.key, row.after.map AuditSnapshot.key)

/-- ISE's record without its key. -/
def RawEndpoint.redact (raw : RawEndpoint) : RawEndpoint :=
  { raw with customAttributes := raw.customAttributes.modify pskKeyAttr fun _ => "" }

/-- A cached entry without the key of its value, and what is computed from the value. -/
def redactEntry (entry : CachedEntry EndpointDetail) : CachedEntry EndpointDetail :=
  { entry with value := redactDetail entry.value, sizeBytes := 0, valueHash := "" }

/-- The portal without the stored keys, and what is computed from them. -/
def PortalState.redact (portal : PortalState) : PortalState :=
  { portal with
    cache := { portal.cache with
      details := portal.cache.details.mapValues redactEntry, totalBytes := 0 }
    ise := { portal.ise with
      endpoints := fun endpointId => (portal.ise.endpoints endpointId).map RawEndpoint.redact }
    audit := portal.audit.map AuditRow.redact }

omit [PyText] [DetailCodec] in
theorem attr_modify_key (ca : Attrs) {name : String} (hname : name ≠ pskKeyAttr) :
    Attrs.attr (ca.modify pskKeyAttr fun _ => "") name = ca.attr name := by
  unfold Attrs.attr
  rw [Dict.get?_modify, if_neg hname]

omit [PyText] [DetailCodec] in
theorem attr_modify_key_self (ca : Attrs) :
    Attrs.attr (ca.modify pskKeyAttr fun _ => "") pskKeyAttr = "" := by
  unfold Attrs.attr
  rw [Dict.get?_modify, if_pos rfl]
  cases ca.get? pskKeyAttr <;> rfl

omit [DetailCodec] in
theorem fetchEndpointDetail_redact (lookups : Lookups) (endpointId : EndpointId)
    (raw : RawEndpoint) : fetchEndpointDetail lookups endpointId raw.redact =
      redactDetail (fetchEndpointDetail lookups endpointId raw) := by
  have hother (name : String) (hname : name ≠ pskKeyAttr) :
      Attrs.attr raw.redact.customAttributes name = raw.customAttributes.attr name :=
    attr_modify_key _ hname
  have hkey : pskDecode (Attrs.attr raw.redact.customAttributes pskKeyAttr) = "" := by
    show pskDecode (Attrs.attr (raw.customAttributes.modify pskKeyAttr fun _ => "") _) = ""
    rw [attr_modify_key_self]
    rfl
  unfold fetchEndpointDetail redactDetail rekey
  dsimp only
  rw [hkey, hother "Type" (by decide), hother "Owner" (by decide), hother "Lokation" (by decide),
    hother "AuthzVlan" (by decide), hother "AuthzACL" (by decide),
    hother "PlatformType" (by decide), hother "RegistretBy" (by decide),
    hother guestRegistrationAttr (by decide), hother hiddenAttr (by decide),
    hother rolesAttr (by decide), hother pskModeAttr (by decide),
    hother registeredAtAttr (by decide), hother "HypervisionStatus" (by decide),
    hother activeAttr (by decide), hother guestExperyDateAttr (by decide),
    hother guestAccessExpireAttr (by decide)]
  rfl

omit [DetailCodec] in
theorem fetchDetail_redact (lookups : Lookups) (portal : PortalState) (endpointId : EndpointId) :
    portal.redact.fetchDetail lookups endpointId =
      (portal.fetchDetail lookups endpointId).map redactDetail := by
  have hget : portal.redact.ise.get endpointId =
      (portal.ise.get endpointId).map RawEndpoint.redact := IseServer.call_map rfl _ _ _
  unfold PortalState.fetchDetail
  rw [hget]
  cases portal.ise.get endpointId with
  | error exc => rfl
  | ok raw => exact congrArg Except.ok (fetchEndpointDetail_redact ..)

/-- What a read through the cache finds, without the key. -/
def DetailRead.redact (read : DetailRead) : DetailRead :=
  { read with detail := redactDetail read.detail }

omit [DetailCodec] in
theorem getDetail_redact (lookups : Lookups) (portal : PortalState) (endpointId : EndpointId)
    (fresh : Bool) : portal.redact.getDetail lookups endpointId fresh =
      (portal.getDetail lookups endpointId fresh).map DetailRead.redact := by
  unfold PortalState.getDetail
  rw [fetchDetail_redact]
  show (if portal.cfg.cacheEnabled then _ else _) = _
  by_cases henabled : portal.cfg.cacheEnabled = true
  · rw [if_pos henabled, if_pos henabled]
    have hentry : portal.redact.cache.details.get? endpointId =
        (portal.cache.details.get? endpointId).map redactEntry := Dict.get?_mapValues ..
    rw [hentry]
    cases portal.cache.details.get? endpointId with
    | none => cases portal.fetchDetail lookups endpointId <;> rfl
    | some entry =>
        -- times, flags and the EMA choose the branch, and none of them is redacted
        have hdisk : (redactEntry entry).fromDisk = entry.fromDisk := rfl
        have hfetched : (redactEntry entry).fetchedAt = entry.fetchedAt := rfl
        have httl (ttl : Rat) :
            effectiveTtlForEntry (redactEntry entry) ttl = effectiveTtlForEntry entry ttl := rfl
        have hservable : staleServable portal.cfg portal.now (redactEntry entry) =
            staleServable portal.cfg portal.now entry := rfl
        have hcfg : portal.redact.cfg = portal.cfg := rfl
        have hnow : portal.redact.now = portal.now := rfl
        dsimp only [Option.map_some]
        rw [hcfg, hnow, hdisk, hfetched, httl, hservable]
        split_ifs
        · rfl
        · rfl
        · rfl
        · cases portal.fetchDetail lookups endpointId <;> rfl
  · rw [if_neg henabled, if_neg henabled]
    cases portal.fetchDetail lookups endpointId <;> rfl

omit [PyText] [DetailCodec] in
theorem isFromDisk_redact (portal : PortalState) (endpointId : EndpointId) :
    portal.redact.cache.isFromDisk endpointId = portal.cache.isFromDisk endpointId := by
  have hentry : portal.redact.cache.details.get? endpointId =
      (portal.cache.details.get? endpointId).map redactEntry := Dict.get?_mapValues ..
  unfold EndpointCache.isFromDisk
  rw [hentry]
  cases portal.cache.details.get? endpointId <;> rfl

/-- A portal without keys shows what the portal shows, less the keys. -/
theorem shows_redacted (lookups : Lookups) (portal : PortalState) :
    Shows (fun _ => "") lookups portal portal.redact true where
  keyless := rfl
  endpoint endpointId scope fresh := by
    unfold PortalState.getEndpoint
    rw [getDetail_redact, isFromDisk_redact]
    cases portal.getDetail lookups endpointId fresh with
    | error exc => rfl
    | ok read =>
        exact scopedDetail_rekey (fun _ => "") endpointId scope
          { read.detail with cacheStale := !read.stored && portal.cache.isFromDisk endpointId }
  entries := by
    show (portal.cache.details.mapValues redactEntry).entries.map _ = _
    unfold Dict.mapValues
    rw [List.map_map]
    rfl
  rolesIndex := rfl
  listPage := rfl
  listAll := rfl

end Shows

end IsePortal
