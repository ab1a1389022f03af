import IsePortal.Cache.DiskCache
import IsePortal.Library.Runs

/-!
# The limits of the endpoint cache

`put_detail` enforces `cache_max_entries` and `cache_max_memory_mb` when it stores an entry under
a new id, and so does every entry a load stores. A value that replaces another one is stored
whatever its size. So the number of entries is always within its limit, and the bytes are exactly
as long as no replacement takes them over (`limits_hold_iff`).
-/

namespace IsePortal

open Library

namespace EndpointCache

variable [PyText] {α : Type*} [CacheValue α] {cfg : CacheSettings}
  {cache room stored : EndpointCache α} {endpointId : EndpointId} {entry : CachedEntry α}

/-- An entry of the ids in question is larger than the memory limit on its own. -/
def Oversized (cfg : CacheSettings) (cache : EndpointCache α)
    (among : EndpointId → Prop) : Prop :=
  ∃ endpointId entry, among endpointId ∧ cache.details.get? endpointId = some entry ∧
    maxMemoryBytes cfg < entry.sizeBytes

/-- Both limits hold; the memory limit makes an exception for an entry that is larger than it. -/
structure WithinLimits (cfg : CacheSettings) (cache : EndpointCache α) : Prop where
  entries : (cache.details.size : Int) ≤ cfg.cacheMaxEntries
  bytes : cache.totalBytes ≤ maxMemoryBytes cfg ∨ Oversized cfg cache fun _ => True

/-- The operations of a history under fixed settings. -/
inductive CacheCall (α : Type*) where
  | putDetail (now : Time) (endpointId : EndpointId) (value : α) (fromDisk : Bool)
  | invalidateDetail (endpointId : EndpointId)
  | invalidateAll
  | loadFromDisk (now : Time) (file : DiskFile α)

/-- The operation under the settings. -/
def CacheCall.under (cfg : CacheSettings) : CacheCall α → CacheOp α
  | .putDetail now endpointId value fromDisk => .putDetail cfg now endpointId value fromDisk
  | .invalidateDetail endpointId => .invalidateDetail endpointId
  | .invalidateAll => .invalidateAll
  | .loadFromDisk now file => .loadFromDisk cfg now file

/-- One step of a history; every operation is possible in every state. -/
def callStep (cfg : CacheSettings) (cache : EndpointCache α) (call : CacheCall α) :
    Option (EndpointCache α) :=
  some (applyOp cache (call.under cfg))

/-- What stays when an entry is replaced or taken out fits within the memory limit, next to the
bytes that take its place, or leaves an oversized entry. -/
def FitsWithout (cfg : CacheSettings) (cache : EndpointCache α) (endpointId : EndpointId)
    (sizeBytes : Nat) : Prop :=
  ∀ old, cache.details.get? endpointId = some old →
    cache.totalBytes - old.sizeBytes + sizeBytes ≤ maxMemoryBytes cfg ∨
      maxMemoryBytes cfg < sizeBytes ∨ Oversized cfg cache (· ≠ endpointId)

/-- The call takes the bytes over the limit at no cached entry: a replacement by `put_detail`
fits, and so does what an `invalidate_detail` leaves. -/
def KeepsBytes (cfg : CacheSettings) (cache : EndpointCache α) : CacheCall α → Prop
  | .putDetail _ endpointId value _ =>
      cfg.cacheEnabled = true → FitsWithout cfg cache endpointId (CacheValue.estimateSize value)
  | .invalidateDetail endpointId => FitsWithout cfg cache endpointId 0
  | .invalidateAll | .loadFromDisk _ _ => True

/-! ## Storing in a room -/

omit [PyText] [CacheValue α] in
/-- An entry stored under a new id, where there is room for it or nothing else is left. -/
theorem within_limits_of_room (hentries : 0 < cfg.cacheMaxEntries)
    (hmemory : 0 < maxMemoryBytes cfg) (habsent : room.details.get? endpointId = none)
    (hroom : room.details.size = 0 ∧ room.totalBytes = 0 ∨
      Room cfg room.details.size room.totalBytes entry.sizeBytes)
    (hdetails : stored.details = room.details.set endpointId entry)
    (hbytes : stored.totalBytes = room.totalBytes + entry.sizeBytes) :
    WithinLimits cfg stored := by
  have hsize : stored.details.size = room.details.size + 1 := by
    rw [hdetails, Dict.size_set_of_not_mem entry (Dict.get?_eq_none_iff.mp habsent)]
  rcases hroom with ⟨hempty, hnone⟩ | hroom
  · refine ⟨by omega, ?_⟩
    by_cases hfits : (entry.sizeBytes : Int) ≤ maxMemoryBytes cfg
    · left
      omega
    · right
      refine ⟨endpointId, entry, trivial, ?_, by omega⟩
      rw [hdetails, Dict.get?_set_self]
  · have hcount := hroom.1 hentries
    have hleft := hroom.2 hmemory
    exact ⟨by omega, Or.inl (by omega)⟩

/-- After `makeRoom` for a new id, that id is still absent and there is room for it, or nothing is
left. -/
theorem make_room_spec (h : RepInv cache) (habsent : cache.details.get? endpointId = none)
    (sizeBytes : Nat) :
    (makeRoom cfg cache endpointId sizeBytes).details.get? endpointId = none ∧
      ((makeRoom cfg cache endpointId sizeBytes).details.size = 0 ∧
          (makeRoom cfg cache endpointId sizeBytes).totalBytes = 0 ∨
        Room cfg (makeRoom cfg cache endpointId sizeBytes).details.size
          (makeRoom cfg cache endpointId sizeBytes).totalBytes sizeBytes) := by
  obtain ⟨hrep, hstill⟩ : RepInv (makeRoom cfg cache endpointId sizeBytes) ∧
      (makeRoom cfg cache endpointId sizeBytes).details.get? endpointId = none :=
    make_room_induction (P := fun room => RepInv room ∧ room.details.get? endpointId = none)
      habsent
      (fun room _ hroom => ⟨evict_oldest_rep hroom.1, evict_oldest_absent hroom.2⟩) ⟨h, habsent⟩
  refine ⟨hstill, (room_after_evict habsent).imp_left fun hempty => ⟨hempty, ?_⟩⟩
  have hnil := List.eq_nil_of_length_eq_zero hempty
  rw [hrep.bytes, Dict.sumBy, hnil]
  rfl

/-! ## The operations -/

theorem put_new_within_limits (hentries : 0 < cfg.cacheMaxEntries)
    (hmemory : 0 < maxMemoryBytes cfg) (h : RepInv cache) (hon : cfg.cacheEnabled = true)
    (habsent : cache.details.get? endpointId = none) (now : Time) (value : α)
    (fromDisk : Bool) : WithinLimits cfg (putDetail cfg now cache endpointId value fromDisk) := by
  obtain ⟨hstill, hroom⟩ := make_room_spec h habsent (CacheValue.estimateSize value)
  unfold putDetail
  rw [if_pos hon]
  exact within_limits_of_room hentries hmemory hstill hroom rfl rfl

/-- Replacing an entry keeps the number of entries, and keeps the bytes exactly when the new value
fits in the place of the old one. -/
theorem replace_within_limits_iff (h : WithinLimits cfg cache) (hon : cfg.cacheEnabled = true)
    {old : CachedEntry α} (hold : cache.details.get? endpointId = some old) (now : Time)
    (value : α) (fromDisk : Bool) :
    WithinLimits cfg (putDetail cfg now cache endpointId value fromDisk) ↔
      FitsWithout cfg cache endpointId (CacheValue.estimateSize value) := by
  have hroom : makeRoom cfg cache endpointId (CacheValue.estimateSize value) =
      { cache with
        rolesIndex := removeFromRolesIndex cache.rolesIndex endpointId old.value
        diskStaleCount := cache.diskStaleCount - diskWeight old
        totalBytes := cache.totalBytes - sizeWeight old } := by
    unfold makeRoom
    rw [hold]
  have hsize : (putDetail cfg now cache endpointId value fromDisk).details.size =
      cache.details.size := by
    simp only [putDetail, hon, ↓reduceIte, hroom]
    exact Dict.size_set_of_mem _ (Dict.mem_keys_iff.mpr ⟨old, hold⟩)
  have hbytes : (putDetail cfg now cache endpointId value fromDisk).totalBytes =
      cache.totalBytes - old.sizeBytes + CacheValue.estimateSize value := by
    simp only [putDetail, hon, ↓reduceIte, hroom, sizeWeight]
  have hover : Oversized cfg (putDetail cfg now cache endpointId value fromDisk) (fun _ => True) ↔
      maxMemoryBytes cfg < (CacheValue.estimateSize value : Int) ∨
        Oversized cfg cache (· ≠ endpointId) := by
    simp only [Oversized, putDetail, hon, ↓reduceIte, hroom, Dict.get?_set, true_and]
    constructor
    · rintro ⟨other, entry, hentry, hlarge⟩
      split at hentry
      · cases hentry
        exact Or.inl hlarge
      · rename_i hother
        exact Or.inr ⟨other, entry, hother, hentry, hlarge⟩
    · rintro (hlarge | ⟨other, entry, hother, hentry, hlarge⟩)
      · exact ⟨endpointId, _, if_pos rfl, hlarge⟩
      · exact ⟨other, entry, by rw [if_neg hother, hentry], hlarge⟩
  constructor
  · intro hafter held hheld
    cases hold.symm.trans hheld
    rw [← hover, ← hbytes]
    exact hafter.bytes
  · intro hfits
    refine ⟨hsize ▸ h.entries, ?_⟩
    rw [hover, hbytes]
    exact hfits old hold

theorem invalidate_within_limits_iff (h : WithinLimits cfg cache)
    (hmemory : 0 < maxMemoryBytes cfg) :
    WithinLimits cfg (invalidateDetail cache endpointId) ↔
      FitsWithout cfg cache endpointId 0 := by
  unfold invalidateDetail
  cases hold : cache.details.get? endpointId with
  | none =>
      refine iff_of_true h fun old hheld => ?_
      rw [hold] at hheld
      cases hheld
  | some old =>
      have hsize := Dict.size_erase_of_mem (Dict.mem_keys_iff.mpr ⟨old, hold⟩)
      have hover : Oversized cfg (invalidateDetail cache endpointId) (fun _ => True) ↔
          Oversized cfg cache (· ≠ endpointId) := by
        simp only [Oversized, invalidateDetail, hold, Dict.get?_erase, true_and]
        constructor
        · rintro ⟨other, entry, hentry, hlarge⟩
          split at hentry
          · cases hentry
          · rename_i hother
            exact ⟨other, entry, hother, hentry, hlarge⟩
        · rintro ⟨other, entry, hother, hentry, hlarge⟩
          exact ⟨other, entry, by rw [if_neg hother, hentry], hlarge⟩
      simp only [invalidateDetail, hold] at hover
      constructor
      · intro hafter held hheld
        cases hold.symm.trans hheld
        rcases hafter.bytes with hbytes | hlarge
        · left
          simpa [sizeWeight] using hbytes
        · exact Or.inr (Or.inr (hover.mp hlarge))
      · intro hfits
        have hentries := h.entries
        refine ⟨by simp only; omega, ?_⟩
        rcases hfits old hold with hbytes | hlarge | hlarge
        · left
          simpa [sizeWeight] using hbytes
        · omega
        · exact Or.inr (hover.mpr hlarge)

theorem load_entry_within_limits (hentries : 0 < cfg.cacheMaxEntries)
    (hmemory : 0 < maxMemoryBytes cfg) (now : Time) (raw : DiskEntry α) (hrep : RepInv cache)
    (h : WithinLimits cfg cache) : WithinLimits cfg (loadEntry cfg now cache endpointId raw) := by
  rcases load_entry_cases cfg now cache endpointId raw with
    ⟨hskip, _⟩ | ⟨value, fetchedAt, _, habsent, _, _, hstored⟩
  · rw [hskip]
    exact h
  · obtain ⟨hstill, hroom⟩ := make_room_spec hrep habsent
      (CacheValue.estimateSize (CacheValue.setCacheStale true value))
    rw [hstored]
    exact within_limits_of_room hentries hmemory hstill hroom rfl rfl

/-- A load keeps both limits, whatever the file. -/
theorem load_from_disk_within_limits (hentries : 0 < cfg.cacheMaxEntries)
    (hmemory : 0 < maxMemoryBytes cfg) (now : Time) (file : DiskFile α) (hrep : RepInv cache)
    (h : WithinLimits cfg cache) : WithinLimits cfg (loadFromDisk cfg now cache file) := by
  refine (load_from_disk_induction (P := fun cache => RepInv cache ∧ WithinLimits cfg cache)
    ?_ ?_ ?_ ⟨hrep, h⟩).2
  · exact fun _ _ _ _ _ hkept => ⟨hkept.1, hkept.2.entries, hkept.2.bytes⟩
  · exact fun _ entry _ hkept => ⟨load_entry_rep cfg now entry.2 hkept.1,
      load_entry_within_limits hentries hmemory now entry.2 hkept.1 hkept.2⟩
  · exact fun _ _ hkept => ⟨hkept.1, hkept.2.entries, hkept.2.bytes⟩

/-! ## Histories -/

/-- From a state within the limits, a call leads to one within them exactly when it takes the
bytes over the limit at no cached entry. -/
theorem call_within_limits_iff (hentries : 0 < cfg.cacheMaxEntries)
    (hmemory : 0 < maxMemoryBytes cfg) (hrep : RepInv cache) (h : WithinLimits cfg cache)
    (call : CacheCall α) :
    WithinLimits cfg (applyOp cache (call.under cfg)) ↔ KeepsBytes cfg cache call := by
  cases call with
  | putDetail now endpointId value fromDisk =>
      show WithinLimits cfg (putDetail cfg now cache endpointId value fromDisk) ↔
        (cfg.cacheEnabled = true → _)
      cases hon : cfg.cacheEnabled with
      | false =>
          refine iff_of_true ?_ fun h => by cases h
          simpa [putDetail, hon] using h
      | true =>
          rw [eq_self_iff_true, true_imp_iff]
          cases hold : cache.details.get? endpointId with
          | none =>
              refine iff_of_true
                (put_new_within_limits hentries hmemory hrep hon hold now value fromDisk)
                fun old hheld => ?_
              rw [hold] at hheld
              cases hheld
          | some old => exact replace_within_limits_iff h hon hold now value fromDisk
  | invalidateDetail endpointId => exact invalidate_within_limits_iff h hmemory
  | invalidateAll =>
      refine iff_of_true ?_ trivial
      show WithinLimits cfg cache.invalidateAll
      unfold invalidateAll
      split
      · refine ⟨?_, Or.inl ?_⟩
        · show ((0 : Nat) : Int) ≤ cfg.cacheMaxEntries
          omega
        · show (0 : Int) ≤ maxMemoryBytes cfg
          omega
      · exact h
  | loadFromDisk now file =>
      exact iff_of_true (load_from_disk_within_limits hentries hmemory now file hrep h) trivial

/-- Under fixed positive limits, a history keeps both of them throughout exactly when every value
that replaces another one fits in its place, and everything an invalidation leaves fits, an
oversized entry apart. -/
theorem limits_hold_iff (cfg : CacheSettings) (hentries : 0 < cfg.cacheMaxEntries)
    (hmemory : 0 < cfg.cacheMaxMemoryMb) (calls : List (CacheCall α)) :
    Always (callStep cfg) (WithinLimits cfg) ({} : EndpointCache α) calls ↔
      Guarded (callStep cfg) (KeepsBytes cfg) ({} : EndpointCache α) calls := by
  have hbytes : 0 < maxMemoryBytes cfg := by
    unfold maxMemoryBytes
    rw [if_pos hmemory]
    omega
  refine always_iff_guarded (I := RepInv) ?_ ?_ rep_of_empty ?_
  · intro before call after hstep hrep
    cases hstep
    exact apply_op_rep _ hrep
  · intro before call after hstep hrep h
    cases hstep
    exact call_within_limits_iff hentries hbytes hrep h call
  · refine ⟨?_, Or.inl ?_⟩
    · show ((0 : Nat) : Int) ≤ cfg.cacheMaxEntries
      omega
    · show (0 : Int) ≤ maxMemoryBytes cfg
      omega

end EndpointCache

section Examples

open EndpointCache

local instance sizedText : PyText := asciiText

local instance sizedCodec : DetailCodec := plainJson

/-- A detail with a description of so many characters. -/
def described (endpointId : EndpointId) (length : Nat) : EndpointDetail :=
  { id := endpointId, name := endpointId
    description := some (String.ofList (List.replicate length 'x')) }

theorem estimate_size_described (endpointId : EndpointId) (length : Nat) :
    CacheValue.estimateSize (described endpointId length) = 750 + length := by
  simp [CacheValue.estimateSize, DetailCodec.jsonSize, described]

/-- The smallest memory limit there is. -/
def oneMegabyte : CacheSettings := { cacheMaxMemoryMb := 1 }

/-- Two endpoints, and then a long description for the first one. -/
def growing : List (CacheCall EndpointDetail) :=
  [.putDetail 0 "ep-1" (described "ep-1" 10) false,
   .putDetail 1 "ep-2" (described "ep-2" 600000) false,
   .putDetail 2 "ep-1" (described "ep-1" 600000) false]

/-- The ids and sizes of the cached entries. -/
def sizes (cache : EndpointCache EndpointDetail) : List (EndpointId × Nat) :=
  cache.details.entries.map fun entry => (entry.1, entry.2.sizeBytes)

theorem map_fst_sizes (cache : EndpointCache EndpointDetail) :
    (sizes cache).map Prod.fst = cache.details.keys := by
  rw [sizes, List.map_map]
  rfl

/-- A new endpoint with room for it. -/
theorem sizes_put_new (cache : EndpointCache EndpointDetail) (endpointId : EndpointId)
    (now : Time) (length : Nat) (hnew : endpointId ∉ (sizes cache).map Prod.fst)
    (hroom : Room oneMegabyte (sizes cache).length cache.totalBytes (750 + length)) :
    sizes (putDetail oneMegabyte now cache endpointId (described endpointId length) false) =
        sizes cache ++ [(endpointId, 750 + length)] ∧
      (putDetail oneMegabyte now cache endpointId (described endpointId length) false).totalBytes =
        cache.totalBytes + (750 + length : Nat) := by
  rw [map_fst_sizes] at hnew
  rw [sizes, List.length_map] at hroom
  have hkeep : makeRoom oneMegabyte cache endpointId (750 + length) = cache :=
    make_room_of_room (Dict.get?_eq_none_iff.mpr hnew) hroom
  have hon : oneMegabyte.cacheEnabled = true := rfl
  simp only [putDetail, hon, ↓reduceIte, estimate_size_described, hkeep, sizes,
    Dict.entries_set_of_not_mem _ hnew, List.map_append, and_true]
  rfl

/-- A new value for the endpoint that stands first. -/
theorem sizes_replace_first (cache : EndpointCache EndpointDetail) {endpointId : EndpointId}
    {old : Nat} {rest : List (EndpointId × Nat)} (now : Time) (length : Nat)
    (hsizes : sizes cache = (endpointId, old) :: rest) :
    sizes (putDetail oneMegabyte now cache endpointId (described endpointId length) false) =
        (endpointId, 750 + length) :: rest ∧
      (putDetail oneMegabyte now cache endpointId (described endpointId length) false).totalBytes =
        cache.totalBytes - old + (750 + length : Nat) := by
  obtain ⟨first, tail, hentries, hfirst, htail⟩ := List.map_eq_cons_iff.mp hsizes
  obtain ⟨rfl, rfl⟩ := Prod.mk.inj hfirst
  have hmem : (first.1, first.2) ∈ cache.details.entries := by
    rw [hentries]
    exact List.mem_cons_self
  have hold := Dict.get?_eq_some_iff.mpr hmem
  have hnodup := cache.details.nodup
  rw [hentries, List.map_cons, List.nodup_cons] at hnodup
  have hon : oneMegabyte.cacheEnabled = true := rfl
  simp only [putDetail, hon, ↓reduceIte, estimate_size_described, makeRoom, hold, sizes,
    Dict.entries_set_of_mem _ (Dict.mem_keys_iff.mpr ⟨_, hold⟩), sizeWeight, and_true]
  rw [hentries, Dict.replaceList, List.map_cons, if_pos rfl, ← Dict.replaceList,
    Dict.replaceList_of_not_mem _ hnodup.1, List.map_cons, htail]

theorem limits_hold_iff_growing :
    0 < oneMegabyte.cacheMaxEntries ∧ 0 < oneMegabyte.cacheMaxMemoryMb ∧
      (Always (callStep oneMegabyte) (WithinLimits oneMegabyte) {} growing ↔
        Guarded (callStep oneMegabyte) (KeepsBytes oneMegabyte) {} growing) :=
  ⟨by decide, by decide, limits_hold_iff oneMegabyte (by decide) (by decide) growing⟩

theorem growing_sizes :
    ∃ cache, run (callStep oneMegabyte) {} growing = some cache ∧
      sizes cache = [("ep-1", 600750), ("ep-2", 600750)] ∧ cache.totalBytes = 1201500 := by
  refine ⟨_, rfl, ?_⟩
  simp only [applyOp, CacheCall.under]
  have hone := sizes_put_new {} "ep-1" 0 10 (by decide) (by decide)
  generalize putDetail oneMegabyte 0 ({} : EndpointCache EndpointDetail) "ep-1"
    (described "ep-1" 10) false = one at hone ⊢
  have hsizes : sizes one = [("ep-1", 760)] := hone.1
  have htwo := sizes_put_new one "ep-2" 1 600000 (by rw [hsizes]; decide)
    (by rw [hsizes, hone.2]; decide)
  generalize putDetail oneMegabyte 1 one "ep-2" (described "ep-2" 600000) false = two at htwo ⊢
  rw [hsizes] at htwo
  have hthree := sizes_replace_first two 2 600000 htwo.1
  rw [htwo.2, hone.2] at hthree
  exact hthree

/-- Neither endpoint is larger than a megabyte, both together are. -/
theorem limits_exceeded :
    ¬ Always (callStep oneMegabyte) (WithinLimits oneMegabyte) {} growing := by
  intro h
  obtain ⟨cache, hrun, hsizes, hbytes⟩ := growing_sizes
  rcases (h.last hrun).bytes with hle | ⟨endpointId, entry, _, hentry, hlarge⟩
  · rw [hbytes] at hle
    revert hle
    decide
  · have hmem : (endpointId, entry.sizeBytes) ∈ sizes cache :=
      List.mem_map.mpr ⟨_, Dict.get?_eq_some_iff.mp hentry, rfl⟩
    have hsize : entry.sizeBytes = 600750 := by
      simp only [hsizes, List.mem_cons, Prod.mk.injEq, List.not_mem_nil, or_false] at hmem
      rcases hmem with ⟨_, hsize⟩ | ⟨_, hsize⟩ <;> exact hsize
    rw [hsize] at hlarge
    revert hlarge
    decide

end Examples

end IsePortal
