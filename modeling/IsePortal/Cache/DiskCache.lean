import IsePortal.Cache.Eviction

/-!
# The disk cache

A load first restores EMAs, then goes through the saved entries, then takes over the groups.
`load_from_disk_eq` takes `load_from_disk` apart into these, and `load_from_disk_induction` is
the rule for what every single step of a load keeps. `save_to_disk` writes the entries that were
not themselves loaded from disk. A file stands for what `json.loads` gives back of it.
-/

namespace IsePortal

open Library

namespace EndpointCache

variable [PyText] {α : Type*} [CacheValue α] {cfg : CacheSettings} {now : Time}
  {cache : EndpointCache α} {endpointId : EndpointId}

/-! ## Saving -/

/-- `DISK_CACHE_VERSION` -/
def diskCacheVersion : Int := 5

omit [PyText] [CacheValue α] in
/-- The record `_save_snapshot` writes for an entry. -/
def savedEntry (entry : CachedEntry α) : DiskEntry α :=
  { value := some entry.value
    fetchedAt := some entry.fetchedAt
    changeEma := some entry.changeEma
    valueHash := entry.valueHash }

omit [PyText] [CacheValue α] in
/-- `save_to_disk`: the loop of `_save_snapshot` skips the entries loaded from disk. -/
def saveToDisk (cache : EndpointCache α) : DiskFile α :=
  .payload
    { version := diskCacheVersion
      tierEmas := some (cache.tierEmas.entries.map fun saved => (saved.1, some saved.2))
      entries := some ((cache.details.entries.filter fun entry => !entry.2.fromDisk).map
        fun entry => (entry.1, savedEntry entry.2))
      groups := cache.groups.map CachedEntry.value }

/-! ## The steps of a load -/

/-- The EMAs a load finds in a file it can read. -/
def savedEmas : DiskFile α → List (EndpointId × Option Rat)
  | .missing | .unreadable => []
  | .payload content =>
      if content.version = 4 ∨ content.version = 5 then content.tierEmas.getD [] else []

omit [PyText] [CacheValue α] in
/-- The entries a load goes through: none unless the loop over the EMAs before them ends. -/
def entriesRead (cache : EndpointCache α) : DiskFile α → List (EndpointId × DiskEntry α)
  | .missing | .unreadable => []
  | .payload content =>
      if content.version = 4 ∨ content.version = 5 then
        match content.tierEmas with
        | none => []
        | some saved =>
            if (restoreTierEmas saved cache).2 then content.entries.getD [] else []
      else []

/-- The entry loop of `load_from_disk`. -/
def loadEntries (cfg : CacheSettings) (now : Time) (entries : List (EndpointId × DiskEntry α))
    (cache : EndpointCache α) : EndpointCache α :=
  entries.foldl (fun cache entry => loadEntry cfg now cache entry.1 entry.2) cache

/-- A load restores EMAs, goes through the entries and takes over the groups. -/
theorem load_from_disk_eq (cfg : CacheSettings) (now : Time) (cache : EndpointCache α)
    (file : DiskFile α) :
    ∃ groups, loadFromDisk cfg now cache file =
      { loadEntries cfg now (entriesRead cache file)
          (restoreTierEmas (savedEmas file) cache).1 with groups := groups } := by
  cases file with
  | missing => exact ⟨cache.groups, rfl⟩
  | unreadable => exact ⟨cache.groups, rfl⟩
  | payload content =>
      by_cases hversion : content.version = 4 ∨ content.version = 5
      · simp only [loadFromDisk, entriesRead, savedEmas, hversion, ↓reduceIte]
        cases content.tierEmas with
        | none => exact ⟨cache.groups, rfl⟩
        | some saved =>
            simp only [Option.getD_some]
            cases (restoreTierEmas saved cache).2 with
            | false => exact ⟨(restoreTierEmas saved cache).1.groups, rfl⟩
            | true =>
                cases content.entries with
                | none => exact ⟨(restoreTierEmas saved cache).1.groups, rfl⟩
                | some entries =>
                    simp only
                    split
                    · exact ⟨_, rfl⟩
                    · exact ⟨_, rfl⟩
      · simp only [loadFromDisk, entriesRead, savedEmas, hversion, ↓reduceIte]
        exact ⟨cache.groups, rfl⟩

omit [PyText] [CacheValue α] in
/-- What is kept by each EMA that a load stores for an id it does not know, the loop keeps. -/
theorem restore_tier_emas_induction {P : EndpointCache α → Prop}
    {saved : List (EndpointId × Option Rat)}
    (hema : ∀ cache endpointId ema, (endpointId, some ema) ∈ saved →
      endpointId ∉ cache.tierEmas.keys → P cache →
        P { cache with tierEmas := cache.tierEmas.set endpointId ema })
    (h : P cache) : P (restoreTierEmas saved cache).1 := by
  induction saved generalizing cache with
  | nil => exact h
  | cons first rest ih =>
      obtain ⟨endpointId, ema⟩ := first
      have hrest := fun cache endpointId ema hmem =>
        hema cache endpointId ema (List.mem_cons_of_mem _ hmem)
      unfold restoreTierEmas
      split
      · exact ih hrest h
      · rename_i hnew
        cases ema with
        | none => exact h
        | some ema => exact ih hrest (hema cache endpointId ema List.mem_cons_self hnew h)

omit [PyText] [CacheValue α] in
/-- Restoring EMAs touches nothing but the EMAs. -/
theorem restore_tier_emas_frame (saved : List (EndpointId × Option Rat))
    (cache : EndpointCache α) :
    ∃ emas, (restoreTierEmas saved cache).1 = { cache with tierEmas := emas } := by
  refine restore_tier_emas_induction
    (P := fun restored => ∃ emas, restored = { cache with tierEmas := emas }) ?_ ⟨_, rfl⟩
  intro restored endpointId ema _ _ hrestored
  obtain ⟨emas, rfl⟩ := hrestored
  exact ⟨_, rfl⟩

theorem load_entries_induction {P : EndpointCache α → Prop}
    {entries : List (EndpointId × DiskEntry α)}
    (hentry : ∀ cache, ∀ entry ∈ entries, P cache → P (loadEntry cfg now cache entry.1 entry.2))
    (h : P cache) : P (loadEntries cfg now entries cache) := by
  induction entries generalizing cache with
  | nil => exact h
  | cons first rest ih =>
      exact ih (fun cache entry hmem => hentry cache entry (List.mem_cons_of_mem _ hmem))
        (hentry cache first List.mem_cons_self h)

/-- What every single step of a load keeps, the load keeps. -/
theorem load_from_disk_induction {P : EndpointCache α → Prop} {file : DiskFile α}
    (hema : ∀ cache endpointId ema, (endpointId, some ema) ∈ savedEmas file →
      endpointId ∉ cache.tierEmas.keys → P cache →
        P { cache with tierEmas := cache.tierEmas.set endpointId ema })
    (hentry : ∀ restored, ∀ entry ∈ entriesRead cache file, P restored →
      P (loadEntry cfg now restored entry.1 entry.2))
    (hgroups : ∀ cache groups, P cache → P { cache with groups := groups })
    (h : P cache) : P (loadFromDisk cfg now cache file) := by
  obtain ⟨groups, heq⟩ := load_from_disk_eq cfg now cache file
  rw [heq]
  exact hgroups _ groups (load_entries_induction hentry (restore_tier_emas_induction hema h))

/-! ## One entry -/

/-- The entry a load leaves behind for a record it stores. -/
def loadedEntry (cache : EndpointCache α) (endpointId : EndpointId) (value : α)
    (fetchedAt : Time) (raw : DiskEntry α) : CachedEntry α :=
  let stale := CacheValue.setCacheStale true value
  { value := stale
    fetchedAt := fetchedAt
    fromDisk := true
    sizeBytes := CacheValue.estimateSize stale
    changeEma := raw.changeEma.getD ((cache.tierEmas.get? endpointId).getD 0)
    valueHash := if raw.changeEma.isSome then raw.valueHash else "" }

/-- What a load does with one entry of the file: it is skipped while the cache is off, when the id
is cached or when the record cannot be read. Otherwise room is made and it is stored. -/
theorem load_entry_cases (cfg : CacheSettings) (now : Time) (cache : EndpointCache α)
    (endpointId : EndpointId) (raw : DiskEntry α) :
    (loadEntry cfg now cache endpointId raw = cache ∧
      (cfg.cacheEnabled = true → cache.details.get? endpointId = none →
        raw.value = none ∨ raw.fetchedAt = none)) ∨
    ∃ value fetchedAt, cfg.cacheEnabled = true ∧ cache.details.get? endpointId = none ∧
      raw.value = some value ∧ raw.fetchedAt = some fetchedAt ∧
      loadEntry cfg now cache endpointId raw =
        let stale := CacheValue.setCacheStale true value
        let room := makeRoom cfg cache endpointId (CacheValue.estimateSize stale)
        { room with
          diskStaleCount := room.diskStaleCount + 1
          details := room.details.set endpointId
            (loadedEntry cache endpointId value fetchedAt raw)
          totalBytes := room.totalBytes + CacheValue.estimateSize stale
          rolesIndex := addToRolesIndex room.rolesIndex endpointId stale } := by
  by_cases hcached : endpointId ∈ cache.details.keys
  · obtain ⟨entry, hentry⟩ := Dict.mem_keys_iff.mp hcached
    left
    refine ⟨?_, fun _ habsent => ?_⟩
    · rw [loadEntry, if_pos hcached]
    · rw [hentry] at habsent
      cases habsent
  · have habsent := Dict.get?_eq_none_iff.mpr hcached
    rw [loadEntry, if_neg hcached]
    cases hvalue : raw.value with
    | none => exact Or.inl ⟨rfl, fun _ _ => Or.inl rfl⟩
    | some value =>
        cases hfetched : raw.fetchedAt with
        | none => exact Or.inl ⟨rfl, fun _ _ => Or.inr rfl⟩
        | some fetchedAt =>
            cases hon : cfg.cacheEnabled with
            | false =>
                left
                refine ⟨?_, fun h => by cases h⟩
                simp [putDetail, hon, Dict.modify, habsent]
            | true =>
                right
                refine ⟨value, fetchedAt, rfl, habsent, rfl, rfl, ?_⟩
                simp only [putDetail, hon, ↓reduceIte, Dict.modify_set]
                cases hema : raw.changeEma <;> simp [loadedEntry, nextEma, habsent, hema]

/-- Loading an entry leaves the EMAs of the other endpoints alone. -/
theorem tier_emas_load_entry (cfg : CacheSettings) (now : Time) (cache : EndpointCache α)
    (endpointId : EndpointId) (raw : DiskEntry α) :
    (loadEntry cfg now cache endpointId raw).tierEmas = cache.tierEmas := by
  rcases load_entry_cases cfg now cache endpointId raw with
    ⟨hskip, _⟩ | ⟨value, fetchedAt, _, _, _, _, heq⟩
  · rw [hskip]
  · rw [heq]
    exact tier_emas_make_room endpointId

/-- An id that does not come in the entries does not get into the cache. -/
theorem load_entries_absent {entries : List (EndpointId × DiskEntry α)}
    (hnew : endpointId ∉ entries.map Prod.fst) (h : cache.details.get? endpointId = none) :
    (loadEntries cfg now entries cache).details.get? endpointId = none := by
  refine load_entries_induction (P := fun cache => cache.details.get? endpointId = none) ?_ h
  intro current entry hentry habsent
  have hne : endpointId ≠ entry.1 := fun heq =>
    hnew (List.mem_map.mpr ⟨entry, hentry, heq.symm⟩)
  rcases load_entry_cases cfg now current entry.1 entry.2 with
    ⟨hskip, _⟩ | ⟨value, fetchedAt, _, hentryAbsent, _, _, heq⟩
  · rw [hskip]
    exact habsent
  · rw [heq, Dict.get?_set_ne _ _ hne]
    exact make_room_induction (P := fun room => room.details.get? endpointId = none) hentryAbsent
      (fun _ _ hroom => evict_oldest_absent hroom) habsent

end EndpointCache

end IsePortal
