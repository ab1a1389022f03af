import IsePortal.Cache.Representation

/-!
# The eviction loop

Before it stores a new entry, `put_detail` drops the entry with the oldest `fetched_at` until both
limits leave room or nothing is left. `evict_oldest_of_argmin` says what one pass does,
`evict_while_over_induction` carries a property through the loop, and `room_after_evict` is what
the loop ends with.
-/

namespace IsePortal

open Library

namespace EndpointCache

variable [PyText] {α : Type*} [CacheValue α] {cfg : CacheSettings} {cache : EndpointCache α}
  {sizeBytes : Nat}

/-- Both limits leave room for one more entry of this size next to so many entries and bytes. -/
def Room (cfg : CacheSettings) (count : Nat) (bytes : Int) (sizeBytes : Nat) : Prop :=
  (cfg.cacheMaxEntries > 0 → (count : Int) < cfg.cacheMaxEntries) ∧
    (maxMemoryBytes cfg > 0 → bytes + sizeBytes ≤ maxMemoryBytes cfg)

instance (count : Nat) (bytes : Int) (sizeBytes : Nat) :
    Decidable (Room cfg count bytes sizeBytes) :=
  inferInstanceAs (Decidable (_ ∧ _))

omit [PyText] in
theorem Room.mono {count fewer : Nat} {bytes less : Int}
    (h : Room cfg count bytes sizeBytes) (hcount : fewer ≤ count) (hbytes : less ≤ bytes) :
    Room cfg fewer less sizeBytes := by
  refine ⟨fun hlimit => ?_, fun hlimit => ?_⟩
  · have hlt := h.1 hlimit
    omega
  · have hle := h.2 hlimit
    omega

omit [PyText] [CacheValue α] in
theorem over_limits_eq_false_iff :
    overLimits cfg sizeBytes cache = false ↔
      cache.details.size = 0 ∨ Room cfg cache.details.size cache.totalBytes sizeBytes := by
  simp only [overLimits, Room, Bool.and_eq_false_iff, Bool.or_eq_false_iff, decide_eq_false_iff_not]
  constructor
  · intro hnot
    rcases hnot with hsize | ⟨hcount, hbytes⟩
    · left
      omega
    · right
      refine ⟨fun hlimit => ?_, fun hlimit => ?_⟩
      · rcases hcount with hoff | hge <;> omega
      · rcases hbytes with hoff | hgt <;> omega
  · intro hroom
    rcases hroom with hsize | ⟨hcount, hbytes⟩
    · left
      omega
    · right
      refine ⟨?_, ?_⟩
      · by_cases hlimit : cfg.cacheMaxEntries > 0
        · have hlt := hcount hlimit
          right
          omega
        · left
          exact hlimit
      · by_cases hlimit : maxMemoryBytes cfg > 0
        · have hle := hbytes hlimit
          right
          omega
        · left
          exact hlimit

/-! ## One pass -/

/-- `fetched_at`, the key `_evict_oldest` compares. -/
def fetchedKey (entry : EndpointId × CachedEntry α) : Time := entry.2.fetchedAt

/-- A pass drops the oldest entry and what the index and the counters hold for it. -/
theorem evict_oldest_of_argmin {oldest : EndpointId × CachedEntry α}
    (h : cache.details.entries.argmin fetchedKey = some oldest) :
    cache.details.get? oldest.1 = some oldest.2 ∧
      cache.evictOldest =
        { cache with
          details := cache.details.erase oldest.1
          rolesIndex := removeFromRolesIndex cache.rolesIndex oldest.1 oldest.2.value
          diskStaleCount := cache.diskStaleCount - diskWeight oldest.2
          totalBytes := cache.totalBytes - sizeWeight oldest.2 } := by
  have hmem : (oldest.1, oldest.2) ∈ cache.details.entries := List.argmin_mem h
  have hget := Dict.get?_eq_some_iff.mpr hmem
  have hid : cache.oldestId = some oldest.1 := by
    show (cache.details.entries.argmin fetchedKey).map Prod.fst = some oldest.1
    rw [h]
    rfl
  refine ⟨hget, ?_⟩
  unfold evictOldest
  rw [hid]
  simp only [hget]

omit [PyText] [CacheValue α] in
theorem exists_argmin (h : 0 < cache.details.size) :
    ∃ oldest, cache.details.entries.argmin fetchedKey = some oldest := by
  refine Option.ne_none_iff_exists'.mp fun hnone => ?_
  rw [List.argmin_eq_none] at hnone
  simp [Dict.size, hnone] at h

/-- A pass over a cache with entries leaves one entry less. -/
theorem size_evict_oldest (h : 0 < cache.details.size) :
    cache.evictOldest.details.size + 1 = cache.details.size := by
  obtain ⟨oldest, holdest⟩ := exists_argmin h
  obtain ⟨hget, heq⟩ := evict_oldest_of_argmin holdest
  rw [heq]
  exact Dict.size_erase_of_mem (Dict.mem_keys_iff.mpr ⟨_, hget⟩)

theorem tier_emas_evict_oldest (cache : EndpointCache α) :
    cache.evictOldest.tierEmas = cache.tierEmas := by
  unfold evictOldest
  split
  · rfl
  · split <;> rfl

/-- What is cached after a pass was cached before it. -/
theorem get?_evict_oldest {endpointId : EndpointId} {entry : CachedEntry α}
    (h : cache.evictOldest.details.get? endpointId = some entry) :
    cache.details.get? endpointId = some entry := by
  rcases Nat.eq_zero_or_pos cache.details.size with hempty | hpos
  · have hnil := List.eq_nil_of_length_eq_zero hempty
    simpa [evictOldest, oldestId, hnil] using h
  · obtain ⟨oldest, holdest⟩ := exists_argmin hpos
    rw [(evict_oldest_of_argmin holdest).2, Dict.get?_erase] at h
    split at h
    · cases h
    · exact h

/-! ## The loop -/

/-- What every pass over a cache that is over the limits keeps, the loop keeps. -/
theorem evict_while_over_induction {P : EndpointCache α → Prop}
    (hpass : ∀ cache, overLimits cfg sizeBytes cache = true → P cache → P cache.evictOldest)
    (passes : Nat) (h : P cache) : P (evictWhileOver cfg sizeBytes passes cache) := by
  induction passes generalizing cache with
  | zero => exact h
  | succ passes ih =>
      unfold evictWhileOver
      split
      · rename_i hover
        exact ih (hpass cache hover h)
      · exact h

/-- The loop ends within the limits: every pass takes an entry, and there is one for each. -/
theorem evict_while_over_done (passes : Nat) (h : cache.details.size ≤ passes) :
    overLimits cfg sizeBytes (evictWhileOver cfg sizeBytes passes cache) = false := by
  induction passes generalizing cache with
  | zero =>
      rw [over_limits_eq_false_iff]
      left
      exact Nat.le_zero.mp h
  | succ passes ih =>
      unfold evictWhileOver
      split
      · rename_i hover
        have hpos : 0 < cache.details.size := by
          simp only [overLimits, Bool.and_eq_true, decide_eq_true_eq] at hover
          exact hover.1
        have hsize := size_evict_oldest hpos
        exact ih (by omega)
      · rename_i hover
        simpa using hover

/-- Where there is room, nothing is dropped. -/
theorem make_room_of_room {endpointId : EndpointId}
    (habsent : cache.details.get? endpointId = none)
    (hroom : Room cfg cache.details.size cache.totalBytes sizeBytes) :
    makeRoom cfg cache endpointId sizeBytes = cache := by
  have hwithin := over_limits_eq_false_iff.mpr (Or.inr hroom)
  unfold makeRoom
  rw [habsent]
  simp only
  cases cache.details.size with
  | zero => rfl
  | succ passes => rw [evictWhileOver, hwithin, if_neg (by decide)]

/-- Where nothing is cached, nothing is dropped. -/
theorem make_room_of_empty {endpointId : EndpointId} (hempty : cache.details.size = 0) :
    makeRoom cfg cache endpointId sizeBytes = cache := by
  have habsent : cache.details.get? endpointId = none := by
    rw [Dict.get?, List.eq_nil_of_length_eq_zero hempty]
    rfl
  unfold makeRoom
  rw [habsent, hempty]
  rfl

/-- Before a new entry is stored, there is room for it or nothing else is left. -/
theorem room_after_evict {endpointId : EndpointId}
    (habsent : cache.details.get? endpointId = none) :
    (makeRoom cfg cache endpointId sizeBytes).details.size = 0 ∨
      Room cfg (makeRoom cfg cache endpointId sizeBytes).details.size
        (makeRoom cfg cache endpointId sizeBytes).totalBytes sizeBytes := by
  unfold makeRoom
  rw [habsent]
  exact over_limits_eq_false_iff.mp (evict_while_over_done _ (le_refl _))

/-- What every pass over a cache that is over the limits keeps, making room for a new entry
keeps. -/
theorem make_room_induction {P : EndpointCache α → Prop} {endpointId : EndpointId}
    (habsent : cache.details.get? endpointId = none)
    (hpass : ∀ cache, overLimits cfg sizeBytes cache = true → P cache → P cache.evictOldest)
    (h : P cache) : P (makeRoom cfg cache endpointId sizeBytes) := by
  unfold makeRoom
  rw [habsent]
  exact evict_while_over_induction hpass _ h

/-- What is cached once room has been made was cached before. -/
theorem get?_make_room {endpointId other : EndpointId} {entry : CachedEntry α}
    (h : (makeRoom cfg cache endpointId sizeBytes).details.get? other = some entry) :
    cache.details.get? other = some entry := by
  cases hold : cache.details.get? endpointId with
  | none =>
      revert h
      exact make_room_induction (P := fun room => room.details.get? other = some entry →
        cache.details.get? other = some entry) hold
        (fun _ _ hroom hentry => hroom (get?_evict_oldest hentry)) id
  | some old =>
      unfold makeRoom at h
      rw [hold] at h
      exact h

/-- Making room leaves the EMAs of the endpoints alone that are not cached. -/
theorem tier_emas_make_room (endpointId : EndpointId) :
    (makeRoom cfg cache endpointId sizeBytes).tierEmas = cache.tierEmas := by
  cases hold : cache.details.get? endpointId with
  | none =>
      exact make_room_induction (P := fun room => room.tierEmas = cache.tierEmas) hold
        (fun room _ hroom => (tier_emas_evict_oldest room).trans hroom) rfl
  | some old =>
      unfold makeRoom
      rw [hold]

end EndpointCache

end IsePortal
