import IsePortal.Library.InvertedIndex
import IsePortal.Schema.Endpoint
import Mathlib.Data.List.MinMax
import Mathlib.Data.Rat.Defs
import Mathlib.Algebra.Order.Ring.Unbundled.Rat

/-!
# The endpoint cache

`EndpointCache` of `app/core/endpoint_cache.py`: the entries, the roles index, the tier EMAs
that survive an invalidation, and the two counters that avoid iterating the entries. Settings
are read at every call, so each operation takes the settings in force. Metrics and the hit
statistics are left out: no decision reads them.
-/

namespace IsePortal

open Library

/-- `TIER_HOT_EMA` -/
def tierHotEma : Rat := 3 / 10
/-- `TIER_COLD_EMA` -/
def tierColdEma : Rat := 1 / 20
/-- `TIER_HOT_FACTOR` -/
def tierHotFactor : Rat := 1 / 2
/-- `TIER_COLD_FACTOR` -/
def tierColdFactor : Rat := 3
/-- `EMA_ALPHA` -/
def emaAlpha : Rat := 1 / 5
/-- `STALE_MAX_FACTOR` -/
def staleMaxFactor : Rat := 30

/-- The settings the cache reads through `config.settings`. -/
structure CacheSettings where
  cacheEnabled : Bool := true
  cacheTtlSeconds : Rat := 60
  cacheStaleWhileRevalidate : Bool := true
  cacheMaxEntries : Int := 5000
  cacheMaxMemoryMb : Int := 300

/-- What the cache asks of a cached value: its roles, the size `_estimate_size` gives it, the
digest `_hash_value` gives it, and the copy with `cache_stale` set. -/
class CacheValue (α : Type*) where
  roles : α → List String
  estimateSize : α → Nat
  hashValue : α → String
  setCacheStale : Bool → α → α

/-- `CachedEntry` -/
structure CachedEntry (α : Type*) where
  value : α
  fetchedAt : Time
  fromDisk : Bool := false
  sizeBytes : Nat := 0
  changeEma : Rat := 0
  valueHash : String := ""

/-- The state of an `EndpointCache`, without the tasks in flight. -/
structure EndpointCache (α : Type*) where
  details : Dict EndpointId (CachedEntry α) := Dict.empty
  groups : Option (CachedEntry (List EndpointGroupSummary)) := none
  rolesIndex : InvertedIndex String EndpointId := Dict.empty
  tierEmas : Dict EndpointId Rat := Dict.empty
  diskStaleCount : Int := 0
  totalBytes : Int := 0

namespace EndpointCache

variable [PyText] {α : Type*} [CacheValue α]

/-! ## Roles -/

/-- `_add_to_roles_index`: file the id under every non-empty role, in lower case. -/
def addToRolesIndex (index : InvertedIndex String EndpointId) (endpointId : EndpointId)
    (value : α) : InvertedIndex String EndpointId :=
  (CacheValue.roles value).foldl (fun index role =>
    if role = "" then index
    else InvertedIndex.insertAt index (PyText.lower role) endpointId) index

/-- `_remove_from_roles_index`: take the id out of the bucket of every non-empty role. -/
def removeFromRolesIndex (index : InvertedIndex String EndpointId) (endpointId : EndpointId)
    (value : α) : InvertedIndex String EndpointId :=
  (CacheValue.roles value).foldl (fun index role =>
    if role = "" then index
    else InvertedIndex.discardAt index (PyText.lower role) endpointId) index

omit [CacheValue α] in
/-- `get_ids_for_roles`: the union of the buckets of the non-empty roles. -/
def getIdsForRoles (cache : EndpointCache α) (roles : List String) : Finset EndpointId :=
  roles.foldl (fun result role =>
    if role = "" then result
    else
      match cache.rolesIndex.get? (PyText.lower role) with
      | none => result
      | some bucket => result ∪ bucket) ∅

/-- `_endpoint_visible`: the value's roles meet the effective roles, whatever their case. -/
def endpointVisible (value : α) (effectiveRoles : List String) : Bool :=
  if effectiveRoles = [] then false
  else
    let userSet := (effectiveRoles.filter (· ≠ "")).map PyText.lower
    (CacheValue.roles value).any fun role =>
      decide (role ≠ "") && decide (PyText.lower role ∈ userSet)

/-! ## Freshness -/

omit [PyText] [CacheValue α] in
/-- `_effective_ttl_for_entry` -/
def effectiveTtlForEntry (entry : CachedEntry α) (baseTtl : Rat) : Rat :=
  if entry.changeEma ≥ tierHotEma then baseTtl * tierHotFactor
  else if entry.changeEma < tierColdEma then baseTtl * tierColdFactor
  else baseTtl

omit [PyText] [CacheValue α] in
/-- `_stale_servable` -/
def staleServable (cfg : CacheSettings) (now : Time) (entry : CachedEntry α) : Bool :=
  decide (now - entry.fetchedAt ≤ cfg.cacheTtlSeconds * staleMaxFactor)

omit [PyText] [CacheValue α] in
/-- `is_from_disk` -/
def isFromDisk (cache : EndpointCache α) (endpointId : EndpointId) : Bool :=
  match cache.details.get? endpointId with
  | none => false
  | some entry => entry.fromDisk

/-! ## Storing and dropping entries -/

/-- `_max_memory_bytes` -/
def maxMemoryBytes (cfg : CacheSettings) : Int :=
  if cfg.cacheMaxMemoryMb > 0 then cfg.cacheMaxMemoryMb * 1024 * 1024 else 0

omit [PyText] [CacheValue α] in
/-- The key with the oldest `fetched_at`, the first one in insertion order on a tie. -/
def oldestId (cache : EndpointCache α) : Option EndpointId :=
  (cache.details.entries.argmin fun entry => entry.2.fetchedAt).map Prod.fst

/-- `1` for an entry loaded from disk: its share of the disk-stale counter. -/
def diskWeight (entry : CachedEntry α) : Int := if entry.fromDisk then 1 else 0

/-- The size of an entry: its share of `_total_bytes`. -/
def sizeWeight (entry : CachedEntry α) : Int := entry.sizeBytes

/-- `_evict_oldest`: the empty cache, where `min` raises, is left as it is. -/
def evictOldest (cache : EndpointCache α) : EndpointCache α :=
  match cache.oldestId with
  | none => cache
  | some oldestId =>
      match cache.details.get? oldestId with
      | none => cache
      | some oldestEntry =>
          { cache with
            details := cache.details.erase oldestId
            rolesIndex := removeFromRolesIndex cache.rolesIndex oldestId oldestEntry.value
            diskStaleCount := cache.diskStaleCount - diskWeight oldestEntry
            totalBytes := cache.totalBytes - sizeWeight oldestEntry }

omit [PyText] [CacheValue α] in
/-- The test of the eviction loop: an entry is left and one of the two limits is exceeded. -/
def overLimits (cfg : CacheSettings) (sizeBytes : Nat) (cache : EndpointCache α) : Bool :=
  decide (0 < cache.details.size) &&
    ((decide (cfg.cacheMaxEntries > 0) &&
        decide ((cache.details.size : Int) ≥ cfg.cacheMaxEntries)) ||
      (decide (maxMemoryBytes cfg > 0) &&
        decide (cache.totalBytes + sizeBytes > maxMemoryBytes cfg)))

/-- The eviction loop of `put_detail`. Every pass drops one entry, so the number of entries
bounds the number of passes. -/
def evictWhileOver (cfg : CacheSettings) (sizeBytes : Nat) :
    Nat → EndpointCache α → EndpointCache α
  | 0, cache => cache
  | passes + 1, cache =>
      if overLimits cfg sizeBytes cache then
        evictWhileOver cfg sizeBytes passes cache.evictOldest
      else cache

/-- The EMA of the entry `put_detail` stores: an observation when both digests are known,
otherwise the one inherited from the old entry or from `_tier_emas`. -/
def nextEma (cache : EndpointCache α) (endpointId : EndpointId) (fromDisk : Bool)
    (newHash : String) : Rat :=
  match cache.details.get? endpointId with
  | some old =>
      if !fromDisk && old.valueHash ≠ "" && newHash ≠ "" then
        emaAlpha * (if old.valueHash ≠ newHash then 1 else 0) + (1 - emaAlpha) * old.changeEma
      else old.changeEma
  | none => (cache.tierEmas.get? endpointId).getD 0

/-- The bookkeeping of `put_detail` before the entry is stored: the entry it replaces is
unfiled, or room is made for a new one. -/
def makeRoom (cfg : CacheSettings) (cache : EndpointCache α) (endpointId : EndpointId)
    (sizeBytes : Nat) : EndpointCache α :=
  match cache.details.get? endpointId with
  | some old =>
      { cache with
        rolesIndex := removeFromRolesIndex cache.rolesIndex endpointId old.value
        diskStaleCount := cache.diskStaleCount - diskWeight old
        totalBytes := cache.totalBytes - sizeWeight old }
  | none => evictWhileOver cfg sizeBytes cache.details.size cache

/-- `put_detail` -/
def putDetail (cfg : CacheSettings) (now : Time) (cache : EndpointCache α)
    (endpointId : EndpointId) (value : α) (fromDisk : Bool) : EndpointCache α :=
  if cfg.cacheEnabled then
    let sizeBytes := CacheValue.estimateSize value
    let newHash := if fromDisk then "" else CacheValue.hashValue value
    let newEma := nextEma cache endpointId fromDisk newHash
    let room := makeRoom cfg cache endpointId sizeBytes
    { room with
      diskStaleCount := if fromDisk then room.diskStaleCount + 1 else room.diskStaleCount
      details := room.details.set endpointId
        { value := value, fetchedAt := now, fromDisk := fromDisk, sizeBytes := sizeBytes,
          changeEma := newEma, valueHash := newHash }
      totalBytes := room.totalBytes + sizeBytes
      rolesIndex := addToRolesIndex room.rolesIndex endpointId value }
  else cache

/-- `invalidate_detail` -/
def invalidateDetail (cache : EndpointCache α) (endpointId : EndpointId) : EndpointCache α :=
  match cache.details.get? endpointId with
  | none => cache
  | some entry =>
      { cache with
        details := cache.details.erase endpointId
        tierEmas := cache.tierEmas.set endpointId entry.changeEma
        rolesIndex := removeFromRolesIndex cache.rolesIndex endpointId entry.value
        diskStaleCount := cache.diskStaleCount - diskWeight entry
        totalBytes := cache.totalBytes - sizeWeight entry }

omit [PyText] [CacheValue α] in
/-- `invalidate_all` -/
def invalidateAll (cache : EndpointCache α) : EndpointCache α :=
  if cache.details.size ≠ 0 || cache.groups.isSome then
    { details := Dict.empty
      groups := none
      rolesIndex := Dict.empty
      tierEmas := cache.details.entries.foldl
        (fun emas entry => emas.set entry.1 entry.2.changeEma) cache.tierEmas
      diskStaleCount := 0
      totalBytes := 0 }
  else cache

/-! ## Change frequency -/

omit [PyText] [CacheValue α] in
/-- `mark_changed` -/
def markChanged (cache : EndpointCache α) (endpointId : EndpointId) : EndpointCache α :=
  let oldEma :=
    match cache.details.get? endpointId with
    | some entry => entry.changeEma
    | none => (cache.tierEmas.get? endpointId).getD 0
  let newEma := emaAlpha * 1 + (1 - emaAlpha) * oldEma
  { cache with
    tierEmas := cache.tierEmas.set endpointId newEma
    details := cache.details.modify endpointId fun entry => { entry with changeEma := newEma } }

omit [PyText] [CacheValue α] in
/-- `forget_tier_ema` -/
def forgetTierEma (cache : EndpointCache α) (endpointId : EndpointId) : EndpointCache α :=
  { cache with tierEmas := cache.tierEmas.erase endpointId }

omit [PyText] [CacheValue α] in
/-- `set_fetch_backoff` -/
def setFetchBackoff (cfg : CacheSettings) (now : Time) (cache : EndpointCache α)
    (endpointId : EndpointId) : EndpointCache α :=
  { cache with
    details := cache.details.modify endpointId fun entry =>
      { entry with fetchedAt := now - cfg.cacheTtlSeconds + 60 } }

/-! ## Disk cache -/

/-- One entry of the disk file. `none` stands for content on which reading that field raises:
`EndpointDetail.model_validate` on `value`, `float` on the two numbers. -/
structure DiskEntry (α : Type*) where
  value : Option α
  fetchedAt : Option Time := some 0
  changeEma : Option Rat := some 0
  valueHash : String := ""

/-- The parsed disk file. `tierEmas` is `none` where it is no JSON object, a value of it is
`none` where `float` raises; `entries` likewise. -/
structure DiskPayload (α : Type*) where
  version : Int
  tierEmas : Option (List (EndpointId × Option Rat)) := some []
  entries : Option (List (EndpointId × DiskEntry α)) := some []
  groups : Option (List EndpointGroupSummary) := none

/-- What `load_from_disk` finds at its path. -/
inductive DiskFile (α : Type*) where
  | missing
  | unreadable
  | payload (content : DiskPayload α)

omit [PyText] [CacheValue α] in
/-- Restore the EMAs that are not known yet, up to the first value that is no number. The flag
says whether the loop reached its end. -/
def restoreTierEmas : List (EndpointId × Option Rat) → EndpointCache α → EndpointCache α × Bool
  | [], cache => (cache, true)
  | (endpointId, ema) :: rest, cache =>
      if endpointId ∈ cache.tierEmas.keys then restoreTierEmas rest cache
      else
        match ema with
        | none => (cache, false)
        | some ema =>
            restoreTierEmas rest
              { cache with tierEmas := cache.tierEmas.set endpointId ema }

/-- One pass of the entry loop of `load_from_disk`. A live entry takes precedence; an entry
whose `change_ema` is no number has been stored by then and keeps its own timestamp. -/
def loadEntry (cfg : CacheSettings) (now : Time) (cache : EndpointCache α)
    (endpointId : EndpointId) (raw : DiskEntry α) : EndpointCache α :=
  if endpointId ∈ cache.details.keys then cache
  else
    match raw.value, raw.fetchedAt with
    | some value, some fetchedAt =>
        let stored := putDetail cfg now cache endpointId
          (CacheValue.setCacheStale true value) true
        { stored with
          details := stored.details.modify endpointId fun entry =>
            match raw.changeEma with
            | none => { entry with fetchedAt := fetchedAt }
            | some changeEma =>
                { entry with
                  fetchedAt := fetchedAt, changeEma := changeEma, valueHash := raw.valueHash } }
    | _, _ => cache

/-- `load_from_disk`, without the number of entries it reports. -/
def loadFromDisk (cfg : CacheSettings) (now : Time) (cache : EndpointCache α)
    (file : DiskFile α) : EndpointCache α :=
  match file with
  | .missing | .unreadable => cache
  | .payload content =>
      if content.version = 4 ∨ content.version = 5 then
        match content.tierEmas with
        | none => cache
        | some savedEmas =>
            let (restored, complete) := restoreTierEmas savedEmas cache
            match complete, content.entries with
            | true, some entries =>
                let loaded := entries.foldl
                  (fun cache entry => loadEntry cfg now cache entry.1 entry.2) restored
                match loaded.groups, content.groups with
                | none, some groups =>
                    { loaded with groups := some { value := groups, fetchedAt := now } }
                | _, _ => loaded
            | _, _ => restored
      else cache

end EndpointCache

/-! ## Cached endpoint details -/

/-- The JSON encoder of the runtime: the length of `model_dump_json` in bytes, and the digest
`_hash_value` takes of the dump. -/
class DetailCodec where
  jsonSize : EndpointDetail → Nat
  jsonDigest : EndpointDetail → String

/-- The encoder on a detail whose text is all in its description. -/
@[reducible] def plainJson : DetailCodec where
  jsonSize detail := 750 + (detail.description.getD "").length
  jsonDigest detail := detail.description.getD ""

/-- The digest leaves out `cache_stale`. -/
instance [DetailCodec] : CacheValue EndpointDetail where
  roles := EndpointDetail.roles
  estimateSize := DetailCodec.jsonSize
  hashValue detail := DetailCodec.jsonDigest { detail with cacheStale := false }
  setCacheStale stale detail := { detail with cacheStale := stale }

end IsePortal
