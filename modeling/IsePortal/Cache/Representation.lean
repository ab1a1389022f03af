import IsePortal.Cache.EndpointCache

/-!
# The representation invariant of the endpoint cache

The roles index and the two counters are redundant: each of them is a function of the
entries. `RepOf` states what they have to be, `RepOf.drop` and `RepOf.store` say how taking an
entry out and putting one in moves all three together, and every operation is one of the two
or a change that touches neither roles, origin nor size. `cache_representation` is the result
over whole histories; non-admin visibility follows in `mem_get_ids_for_roles_iff`.
-/

namespace IsePortal

open Library

namespace EndpointCache

variable [PyText] {α : Type*} [CacheValue α]

/-- The index keys of a value: its non-empty roles in lower case. -/
def roleKeys (value : α) : List String :=
  ((CacheValue.roles value).filter (· ≠ "")).map PyText.lower

theorem mem_role_keys_iff {value : α} {key : String} :
    key ∈ roleKeys value ↔
      ∃ role ∈ CacheValue.roles value, role ≠ "" ∧ PyText.lower role = key := by
  simp only [roleKeys, List.mem_map, List.mem_filter, decide_eq_true_eq]
  constructor
  · intro hgiven
    obtain ⟨role, ⟨hrole, hne⟩, hkey⟩ := hgiven
    exact ⟨role, hrole, hne, hkey⟩
  · intro hgiven
    obtain ⟨role, hrole, hne, hkey⟩ := hgiven
    exact ⟨role, ⟨hrole, hne⟩, hkey⟩

omit [CacheValue α] in
/-- A loop that skips the empty roles is a loop over the index keys. -/
theorem foldl_roles_eq (file : InvertedIndex String EndpointId → String →
    InvertedIndex String EndpointId) (roles : List String)
    (index : InvertedIndex String EndpointId) :
    roles.foldl (fun index role =>
        if role = "" then index else file index (PyText.lower role)) index =
      ((roles.filter (· ≠ "")).map PyText.lower).foldl file index := by
  induction roles generalizing index with
  | nil => rfl
  | cons role rest ih =>
      rw [List.foldl_cons, ih]
      by_cases h : role = "" <;> simp [h]

theorem add_to_roles_index_eq (index : InvertedIndex String EndpointId)
    (endpointId : EndpointId) (value : α) :
    addToRolesIndex index endpointId value =
      InvertedIndex.insertAll index (roleKeys value) endpointId :=
  foldl_roles_eq (fun index key => InvertedIndex.insertAt index key endpointId) _ index

theorem remove_from_roles_index_eq (index : InvertedIndex String EndpointId)
    (endpointId : EndpointId) (value : α) :
    removeFromRolesIndex index endpointId value =
      InvertedIndex.discardAll index (roleKeys value) endpointId :=
  foldl_roles_eq (fun index key => InvertedIndex.discardAt index key endpointId) _ index

/-- `id` is cached with a value that carries a role whose lower-case form is `key`. -/
def Carries (details : Dict EndpointId (CachedEntry α)) (id : EndpointId) (key : String) :
    Prop :=
  ∃ entry, details.get? id = some entry ∧ key ∈ roleKeys entry.value

/-- What the redundant state has to be for the entries `details`. -/
structure RepOf (details : Dict EndpointId (CachedEntry α))
    (rolesIndex : InvertedIndex String EndpointId) (diskStaleCount totalBytes : Int) :
    Prop where
  roles : InvertedIndex.Represents rolesIndex (Carries details)
  disk : diskStaleCount = details.sumBy diskWeight
  bytes : totalBytes = details.sumBy sizeWeight

/-- The representation invariant of a cache. -/
def RepInv (cache : EndpointCache α) : Prop :=
  RepOf cache.details cache.rolesIndex cache.diskStaleCount cache.totalBytes

theorem rep_of_empty : RepOf (Dict.empty : Dict EndpointId (CachedEntry α)) Dict.empty 0 0 where
  roles := InvertedIndex.represents_empty.congr (by simp [Carries])
  disk := by simp
  bytes := by simp

/-! ## Taking an entry out and putting one in -/

variable {details : Dict EndpointId (CachedEntry α)}
  {rolesIndex : InvertedIndex String EndpointId} {diskStaleCount totalBytes : Int}
  {endpointId : EndpointId}

/-- Taking an entry out: its id leaves the buckets of its roles, its weights leave the
counters. -/
theorem RepOf.drop {entry : CachedEntry α}
    (h : RepOf details rolesIndex diskStaleCount totalBytes)
    (hentry : details.get? endpointId = some entry) :
    RepOf (details.erase endpointId)
      (removeFromRolesIndex rolesIndex endpointId entry.value)
      (diskStaleCount - diskWeight entry) (totalBytes - sizeWeight entry) where
  roles := by
    rw [remove_from_roles_index_eq]
    refine (InvertedIndex.represents_discardAll h.roles _ endpointId).congr fun id key => ?_
    simp only [Carries, Dict.get?_erase]
    by_cases hid : id = endpointId
    · subst hid
      simp [hentry]
    · simp [hid]
  disk := by rw [Dict.sumBy_erase, h.disk, Dict.weightAt, hentry]
  bytes := by rw [Dict.sumBy_erase, h.bytes, Dict.weightAt, hentry]

/-- A key that is not there can be erased for free. -/
theorem RepOf.erase_absent (h : RepOf details rolesIndex diskStaleCount totalBytes)
    (habsent : details.get? endpointId = none) :
    RepOf (details.erase endpointId) rolesIndex diskStaleCount totalBytes where
  roles := h.roles.congr fun id key => by
    simp only [Carries, Dict.get?_erase]
    by_cases hid : id = endpointId
    · subst hid
      simp [habsent]
    · simp [hid]
  disk := by simp [Dict.sumBy_erase, h.disk, Dict.weightAt, habsent]
  bytes := by simp [Dict.sumBy_erase, h.bytes, Dict.weightAt, habsent]

/-- Putting an entry in, once whatever was stored under its id has been taken out. -/
theorem RepOf.store (endpointId : EndpointId)
    (h : RepOf (details.erase endpointId) rolesIndex diskStaleCount totalBytes)
    (entry : CachedEntry α) :
    RepOf (details.set endpointId entry)
      (addToRolesIndex rolesIndex endpointId entry.value)
      (diskStaleCount + diskWeight entry) (totalBytes + sizeWeight entry) where
  roles := by
    rw [add_to_roles_index_eq]
    refine (InvertedIndex.represents_insertAll h.roles _ endpointId).congr fun id key => ?_
    simp only [Carries, Dict.get?_erase, Dict.get?_set]
    by_cases hid : id = endpointId
    · subst hid
      simp
    · simp [hid]
  disk := by rw [Dict.sumBy_set, h.disk, Dict.sumBy_erase]
  bytes := by rw [Dict.sumBy_set, h.bytes, Dict.sumBy_erase]

/-- A change in place that keeps value, origin and size keeps everything. -/
theorem RepOf.modify (h : RepOf details rolesIndex diskStaleCount totalBytes)
    {change : CachedEntry α → CachedEntry α}
    (hchange : ∀ entry, (change entry).value = entry.value ∧
      (change entry).fromDisk = entry.fromDisk ∧ (change entry).sizeBytes = entry.sizeBytes) :
    RepOf (details.modify endpointId change) rolesIndex diskStaleCount totalBytes where
  roles := h.roles.congr fun id key => by
    simp only [Carries, Dict.get?_modify]
    by_cases hid : id = endpointId
    · subst hid
      cases details.get? id <;> simp [(hchange _).1]
    · simp [hid]
  disk := by
    rw [h.disk, Dict.sumBy_modify]
    intro entry
    simp [diskWeight, (hchange entry).2.1]
  bytes := by
    rw [h.bytes, Dict.sumBy_modify]
    intro entry
    simp [sizeWeight, (hchange entry).2.2]

/-! ## The operations -/

variable {cache : EndpointCache α}

theorem evict_oldest_rep (h : RepInv cache) : RepInv cache.evictOldest := by
  unfold evictOldest
  cases cache.oldestId with
  | none => exact h
  | some oldestId =>
      cases hentry : cache.details.get? oldestId with
      | none => simpa [hentry] using h
      | some entry => simpa [hentry, RepInv] using h.drop hentry

/-- Eviction adds no entry. -/
theorem evict_oldest_absent (habsent : cache.details.get? endpointId = none) :
    cache.evictOldest.details.get? endpointId = none := by
  unfold evictOldest
  cases cache.oldestId with
  | none => exact habsent
  | some oldestId =>
      cases hentry : cache.details.get? oldestId with
      | none => simpa [hentry] using habsent
      | some entry =>
          have hgoal : (cache.details.erase oldestId).get? endpointId = none := by
            rw [Dict.get?_erase, habsent]
            exact ite_self none
          simpa [hentry] using hgoal

theorem evict_while_over_rep (cfg : CacheSettings) (sizeBytes passes : Nat)
    (h : RepInv cache) (habsent : cache.details.get? endpointId = none) :
    RepInv (evictWhileOver cfg sizeBytes passes cache) ∧
      (evictWhileOver cfg sizeBytes passes cache).details.get? endpointId = none := by
  induction passes generalizing cache with
  | zero => exact ⟨h, habsent⟩
  | succ passes ih =>
      unfold evictWhileOver
      split
      · exact ih (evict_oldest_rep h) (evict_oldest_absent habsent)
      · exact ⟨h, habsent⟩

/-- After `makeRoom` the redundant state describes the entries without the id about to be
stored, whether that id replaces an entry or is new. -/
theorem make_room_rep (cfg : CacheSettings) (sizeBytes : Nat) (h : RepInv cache) :
    RepOf ((makeRoom cfg cache endpointId sizeBytes).details.erase endpointId)
      (makeRoom cfg cache endpointId sizeBytes).rolesIndex
      (makeRoom cfg cache endpointId sizeBytes).diskStaleCount
      (makeRoom cfg cache endpointId sizeBytes).totalBytes := by
  unfold makeRoom
  cases hold : cache.details.get? endpointId with
  | none =>
      -- the id was absent before the eviction, so it still is
      obtain ⟨hrep, habsent⟩ :=
        evict_while_over_rep cfg sizeBytes cache.details.size h hold
      exact hrep.erase_absent habsent
  | some old => exact h.drop hold

theorem put_detail_rep (cfg : CacheSettings) (now : Time) (value : α) (fromDisk : Bool)
    (h : RepInv cache) : RepInv (putDetail cfg now cache endpointId value fromDisk) := by
  unfold putDetail
  split
  · have hstored := RepOf.store endpointId (make_room_rep cfg (CacheValue.estimateSize value) h)
      { value := value, fetchedAt := now, fromDisk := fromDisk,
        sizeBytes := CacheValue.estimateSize value,
        changeEma := nextEma cache endpointId fromDisk
          (if fromDisk then "" else CacheValue.hashValue value),
        valueHash := if fromDisk then "" else CacheValue.hashValue value }
    cases fromDisk <;> simpa [RepInv, diskWeight, sizeWeight] using hstored
  · exact h

theorem invalidate_detail_rep (h : RepInv cache) :
    RepInv (invalidateDetail cache endpointId) := by
  unfold invalidateDetail
  cases hentry : cache.details.get? endpointId with
  | none => exact h
  | some entry => exact h.drop hentry

theorem invalidate_all_rep (h : RepInv cache) : RepInv cache.invalidateAll := by
  unfold invalidateAll
  split
  · exact rep_of_empty
  · exact h

theorem mark_changed_rep (h : RepInv cache) : RepInv (markChanged cache endpointId) :=
  RepOf.modify h fun _ => ⟨rfl, rfl, rfl⟩

theorem forget_tier_ema_rep (h : RepInv cache) : RepInv (forgetTierEma cache endpointId) := h

theorem set_fetch_backoff_rep (cfg : CacheSettings) (now : Time) (h : RepInv cache) :
    RepInv (setFetchBackoff cfg now cache endpointId) :=
  RepOf.modify h fun _ => ⟨rfl, rfl, rfl⟩

theorem restore_tier_emas_rep (saved : List (EndpointId × Option Rat)) (h : RepInv cache) :
    RepInv (restoreTierEmas saved cache).1 := by
  induction saved generalizing cache with
  | nil => exact h
  | cons first rest ih =>
      obtain ⟨endpointId, ema⟩ := first
      unfold restoreTierEmas
      split
      · exact ih h
      · cases ema with
        | none => exact h
        | some ema => exact ih h

theorem load_entry_rep (cfg : CacheSettings) (now : Time) (raw : DiskEntry α)
    (h : RepInv cache) : RepInv (loadEntry cfg now cache endpointId raw) := by
  unfold loadEntry
  split
  · exact h
  · split
    · -- the rewrite of the stored entry touches its timestamp, EMA and digest only
      refine RepOf.modify (put_detail_rep cfg now _ true h) fun entry => ?_
      cases raw.changeEma <;> exact ⟨rfl, rfl, rfl⟩
    · exact h

theorem load_entries_rep (cfg : CacheSettings) (now : Time)
    (entries : List (EndpointId × DiskEntry α)) (h : RepInv cache) :
    RepInv (entries.foldl (fun cache entry => loadEntry cfg now cache entry.1 entry.2) cache) := by
  induction entries generalizing cache with
  | nil => exact h
  | cons first rest ih => exact ih (load_entry_rep cfg now first.2 h)

theorem load_from_disk_rep (cfg : CacheSettings) (now : Time) (file : DiskFile α)
    (h : RepInv cache) : RepInv (loadFromDisk cfg now cache file) := by
  cases file with
  | missing => exact h
  | unreadable => exact h
  | payload content =>
      simp only [loadFromDisk]
      split
      · cases content.tierEmas with
        | none => exact h
        | some saved =>
            have hrestored := restore_tier_emas_rep saved h
            simp only
            split
            · rename_i entries _ _
              have hloaded := load_entries_rep cfg now entries hrestored
              split <;> exact hloaded
            · exact hrestored
      · exact h

/-! ## Histories -/

/-- The operations that change a cache. -/
inductive CacheOp (α : Type*) where
  | putDetail (cfg : CacheSettings) (now : Time) (endpointId : EndpointId) (value : α)
      (fromDisk : Bool)
  | evictOldest
  | invalidateDetail (endpointId : EndpointId)
  | invalidateAll
  | loadFromDisk (cfg : CacheSettings) (now : Time) (file : DiskFile α)
  | markChanged (endpointId : EndpointId)
  | setFetchBackoff (cfg : CacheSettings) (now : Time) (endpointId : EndpointId)
  | forgetTierEma (endpointId : EndpointId)

/-- Perform one operation. -/
def applyOp (cache : EndpointCache α) : CacheOp α → EndpointCache α
  | .putDetail cfg now endpointId value fromDisk =>
      cache.putDetail cfg now endpointId value fromDisk
  | .evictOldest => cache.evictOldest
  | .invalidateDetail endpointId => cache.invalidateDetail endpointId
  | .invalidateAll => cache.invalidateAll
  | .loadFromDisk cfg now file => cache.loadFromDisk cfg now file
  | .markChanged endpointId => cache.markChanged endpointId
  | .setFetchBackoff cfg now endpointId => cache.setFetchBackoff cfg now endpointId
  | .forgetTierEma endpointId => cache.forgetTierEma endpointId

/-- Every operation keeps the representation invariant. -/
theorem apply_op_rep (op : CacheOp α) (h : RepInv cache) : RepInv (applyOp cache op) := by
  cases op with
  | putDetail cfg now endpointId value fromDisk => exact put_detail_rep cfg now value fromDisk h
  | evictOldest => exact evict_oldest_rep h
  | invalidateDetail endpointId => exact invalidate_detail_rep h
  | invalidateAll => exact invalidate_all_rep h
  | loadFromDisk cfg now file => exact load_from_disk_rep cfg now file h
  | markChanged endpointId => exact mark_changed_rep h
  | setFetchBackoff cfg now endpointId => exact set_fetch_backoff_rep cfg now h
  | forgetTierEma endpointId => exact forget_tier_ema_rep h

/-- The cache after a history of operations on the empty cache. -/
def afterOps (ops : List (CacheOp α)) : EndpointCache α :=
  ops.foldl applyOp {}

theorem after_ops_rep (ops : List (CacheOp α)) : RepInv (afterOps ops) := by
  have hfold : ∀ (ops : List (CacheOp α)) (cache : EndpointCache α), RepInv cache →
      RepInv (ops.foldl applyOp cache) := by
    intro ops
    induction ops with
    | nil => exact fun _ h => h
    | cons op rest ih => exact fun cache h => ih _ (apply_op_rep op h)
  exact hfold ops {} rep_of_empty

/-! ## What the invariant gives -/

omit [PyText] [CacheValue α] in
/-- The disk-stale weight of the entries is the number of entries loaded from disk. -/
theorem sum_disk_weight_eq (entries : List (EndpointId × CachedEntry α)) :
    (entries.map fun entry => diskWeight entry.2).sum =
      (entries.countP fun entry => entry.2.fromDisk : Nat) := by
  induction entries with
  | nil => rfl
  | cons first rest ih =>
      rw [List.map_cons, List.sum_cons, ih, List.countP_cons]
      cases h : first.2.fromDisk
      · simp [diskWeight, h]
      · simp only [diskWeight, h, ↓reduceIte]
        omega

omit [CacheValue α] in
theorem get_ids_for_roles_eq (cache : EndpointCache α) (roles : List String) :
    cache.getIdsForRoles roles =
      InvertedIndex.union cache.rolesIndex ((roles.filter (· ≠ "")).map PyText.lower) := by
  unfold getIdsForRoles InvertedIndex.union
  generalize (∅ : Finset EndpointId) = acc
  induction roles generalizing acc with
  | nil => rfl
  | cons role rest ih =>
      rw [List.foldl_cons, ih]
      by_cases h : role = ""
      · simp [h]
      · cases hb : cache.rolesIndex.get? (PyText.lower role) with
        | none =>
            have hunion : acc ∪ InvertedIndex.bucket cache.rolesIndex (PyText.lower role) =
                acc := by rw [InvertedIndex.bucket, hb]; exact Finset.union_empty acc
            simp [h, hunion]
        | some bucket => simp [h, InvertedIndex.bucket_of_get? hb]

theorem endpoint_visible_iff (value : α) (effectiveRoles : List String) :
    endpointVisible value effectiveRoles = true ↔
      ∃ key ∈ (effectiveRoles.filter (· ≠ "")).map PyText.lower, key ∈ roleKeys value := by
  unfold endpointVisible
  by_cases hnil : effectiveRoles = []
  · simp [hnil]
  · simp only [hnil, ↓reduceIte, List.any_eq_true, Bool.and_eq_true, decide_eq_true_eq,
      mem_role_keys_iff]
    constructor
    · intro hgiven
      obtain ⟨role, hrole, hne, hmem⟩ := hgiven
      exact ⟨_, hmem, role, hrole, hne, rfl⟩
    · intro hgiven
      obtain ⟨key, hkey, role, hrole, hne, rfl⟩ := hgiven
      exact ⟨role, hrole, hne, hkey⟩

/-- Under the invariant the index answers a role query with exactly the cached endpoints
`endpointVisible` accepts. -/
theorem mem_get_ids_for_roles_iff (h : RepInv cache) (roles : List String) (id : EndpointId) :
    id ∈ cache.getIdsForRoles roles ↔
      ∃ entry, cache.details.get? id = some entry ∧ endpointVisible entry.value roles = true := by
  rw [get_ids_for_roles_eq, InvertedIndex.mem_union]
  constructor
  · intro hgiven
    obtain ⟨key, hkey, hid⟩ := hgiven
    obtain ⟨entry, hentry, hcarries⟩ := (h.roles.mem_bucket key id).mp hid
    exact ⟨entry, hentry, (endpoint_visible_iff _ _).mpr ⟨key, hkey, hcarries⟩⟩
  · intro hgiven
    obtain ⟨entry, hentry, hvisible⟩ := hgiven
    obtain ⟨key, hkey, hcarries⟩ := (endpoint_visible_iff _ _).mp hvisible
    exact ⟨key, hkey, (h.roles.mem_bucket key id).mpr ⟨entry, hentry, hcarries⟩⟩

/-- After any history the roles index holds exactly the lower-case non-empty roles of the
cached values with exactly the ids carrying them, the counters are the number of entries from
disk and the sum of the sizes, and a role query answers exactly the visible endpoints. -/
theorem cache_representation (ops : List (CacheOp α)) :
    (∀ key id, id ∈ InvertedIndex.bucket (afterOps ops).rolesIndex key ↔
      ∃ entry, (afterOps ops).details.get? id = some entry ∧
        ∃ role ∈ CacheValue.roles entry.value, role ≠ "" ∧ PyText.lower role = key) ∧
    (∀ key bucket, (afterOps ops).rolesIndex.get? key = some bucket → bucket.Nonempty) ∧
    (afterOps ops).diskStaleCount =
      ((afterOps ops).details.entries.countP fun entry => entry.2.fromDisk : Nat) ∧
    (afterOps ops).totalBytes =
      ((afterOps ops).details.entries.map fun entry => (entry.2.sizeBytes : Int)).sum ∧
    ∀ roles id, id ∈ (afterOps ops).getIdsForRoles roles ↔
      ∃ entry, (afterOps ops).details.get? id = some entry ∧
        endpointVisible entry.value roles = true := by
  have h := after_ops_rep ops
  refine ⟨fun key id => ?_, h.roles.noEmptyBucket, ?_, h.bytes, mem_get_ids_for_roles_iff h⟩
  · rw [h.roles.mem_bucket]
    simp only [Carries, mem_role_keys_iff]
  · rw [h.disk, Dict.sumBy, sum_disk_weight_eq]

end EndpointCache

end IsePortal
