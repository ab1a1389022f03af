import IsePortal.Cache.DiskCache

/-!
# Loading into a cache with live entries

A load overwrites no entry, but each entry it stores goes through the eviction loop, which goes by
`fetched_at` alone: an entry of the file that is newer than a live one can push it out. While the
live entries are all there, the cache is those followed by what the load has stored (`Beside`),
and the loop drops a live entry exactly when the new entry finds no room next to what the loop
does not reach before one (`live_kept_or_lost`). `load_keeps_live_iff` says it of the whole load.
-/

namespace IsePortal

open Library

namespace EndpointCache

variable [PyText] {α : Type*} [CacheValue α] {cfg : CacheSettings} {now : Time}
  {cache current : EndpointCache α} {endpointId : EndpointId}

/-- Every cached entry is still there, with everything it holds. -/
def Keeps (before after : EndpointCache α) : Prop :=
  ∀ endpointId entry, before.details.get? endpointId = some entry →
    after.details.get? endpointId = some entry

/-- The ids of a file are the keys of one JSON object, so no id comes twice. -/
def DistinctIds : DiskFile α → Prop
  | .missing | .unreadable => True
  | .payload content => ((content.entries.getD []).map Prod.fst).Nodup

/-- What a load stores for a record of the file: nothing while the cache is off, when the id was
cached before or when the record cannot be read. -/
def storedFrom (cfg : CacheSettings) (cache : EndpointCache α) (endpointId : EndpointId)
    (raw : DiskEntry α) : Option (α × Time) :=
  if cfg.cacheEnabled ∧ endpointId ∉ cache.details.keys then
    match raw.value, raw.fetchedAt with
    | some value, some fetchedAt => some (CacheValue.setCacheStale true value, fetchedAt)
    | _, _ => none
  else none

/-- Every entry a load stores finds room next to `count` entries of `bytes` bytes: what was cached
before, and what the load has stored in the meantime that is not older than `oldest`. -/
def LoadFits (cfg : CacheSettings) (cache : EndpointCache α) (oldest : Time) :
    Nat → Int → List (EndpointId × DiskEntry α) → Prop
  | _, _, [] => True
  | count, bytes, (endpointId, raw) :: rest =>
      match storedFrom cfg cache endpointId raw with
      | none => LoadFits cfg cache oldest count bytes rest
      | some (stale, fetchedAt) =>
          Room cfg count bytes (CacheValue.estimateSize stale) ∧
            if fetchedAt < oldest then LoadFits cfg cache oldest count bytes rest
            else
              LoadFits cfg cache oldest (count + 1) (bytes + CacheValue.estimateSize stale) rest

/-- The file fits beside the cached entries, as far as the eviction loop cannot drop entries of
the file that are older than all of them. -/
def FitsBesideLive (cfg : CacheSettings) (cache : EndpointCache α) (file : DiskFile α) : Prop :=
  ∀ oldest, cache.details.entries.argmin fetchedKey = some oldest →
    LoadFits cfg cache oldest.2.fetchedAt cache.details.size cache.totalBytes
      (entriesRead cache file)

/-! ## Live entries followed by loaded ones -/

omit [PyText] in
/-- The first minimum of a list that is followed by another one. -/
theorem argmin_append {β κ : Type*} [LinearOrder κ] {f : β → κ} {first second : List β} {m : β}
    (h : (first ++ second).argmin f = some m) :
    first.argmin f = some m ∨ m ∈ second ∧ ∀ x ∈ first, f m < f x := by
  induction second using List.reverseRecOn generalizing m with
  | nil =>
      left
      simpa using h
  | append_singleton second last ih =>
      rw [← List.append_assoc, List.argmin_concat] at h
      cases hmin : (first ++ second).argmin f with
      | none =>
          rw [List.argmin_eq_none, List.append_eq_nil_iff] at hmin
          obtain ⟨rfl, rfl⟩ := hmin
          right
          simpa using h.symm
      | some c =>
          rw [hmin] at h
          simp only at h
          split at h
          · rename_i hlt
            cases h
            right
            refine ⟨by simp, fun x hx => ?_⟩
            exact lt_of_lt_of_le hlt (List.le_of_mem_argmin (List.mem_append_left _ hx) hmin)
          · cases h
            rcases ih hmin with hfirst | ⟨hsecond, hlt⟩
            · exact Or.inl hfirst
            · exact Or.inr ⟨List.mem_append_left _ hsecond, hlt⟩

/-- The entries not older than the moment. -/
def youngOf (oldest : Time) (loaded : List (EndpointId × CachedEntry α)) :
    List (EndpointId × CachedEntry α) :=
  loaded.filter fun entry => !decide (entry.2.fetchedAt < oldest)

/-- The bytes of the entries. -/
def bytesOf (loaded : List (EndpointId × CachedEntry α)) : Int :=
  (loaded.map fun entry => sizeWeight entry.2).sum

/-- The cached entries are all there, followed by entries of the load; `count` and `bytes` are
those of the cached entries and of the loaded ones that are not older than `oldest`. -/
structure Beside (cache : EndpointCache α) (oldest : Time) (count : Nat) (bytes : Int)
    (current : EndpointCache α) (loaded : List (EndpointId × CachedEntry α)) : Prop where
  entries : current.details.entries = cache.details.entries ++ loaded
  total : current.totalBytes = cache.totalBytes + bytesOf loaded
  count_eq : count = cache.details.size + (youngOf oldest loaded).length
  bytes_eq : bytes = cache.totalBytes + bytesOf (youngOf oldest loaded)

/-- An entry that was cached is gone, or has been replaced by one of the file. -/
def Lost (cache current : EndpointCache α) : Prop :=
  ∃ endpointId, endpointId ∈ cache.details.keys ∧
    ∀ entry, current.details.get? endpointId = some entry → entry.fromDisk = true

variable {oldest : EndpointId × CachedEntry α} {count : Nat} {bytes : Int} {sizeBytes : Nat}
  {loaded : List (EndpointId × CachedEntry α)}

section Loaded

omit [PyText] [CacheValue α]

theorem bytes_of_append (first second : List (EndpointId × CachedEntry α)) :
    bytesOf (first ++ second) = bytesOf first + bytesOf second := by
  simp [bytesOf]

theorem bytes_young_le (time : Time) (loaded : List (EndpointId × CachedEntry α)) :
    bytesOf (youngOf time loaded) ≤ bytesOf loaded := by
  induction loaded with
  | nil => exact le_refl _
  | cons first rest ih =>
      have hweight : 0 ≤ sizeWeight first.2 := Int.natCast_nonneg _
      simp only [youngOf, bytesOf, List.filter_cons] at ih ⊢
      split
      · simpa using ih
      · rw [List.map_cons, List.sum_cons]
        omega

theorem Beside.size_eq {time : Time} (h : Beside cache time count bytes current loaded) :
    current.details.size = cache.details.size + loaded.length := by
  rw [Dict.size, h.entries, List.length_append]
  rfl

theorem Beside.count_le {time : Time} (h : Beside cache time count bytes current loaded) :
    count ≤ current.details.size ∧ bytes ≤ current.totalBytes := by
  have hlength : (youngOf time loaded).length ≤ loaded.length := List.length_filter_le _ _
  have hbytes := bytes_young_le time loaded
  rw [h.size_eq, h.total, h.count_eq, h.bytes_eq]
  exact ⟨by omega, by omega⟩

/-- While all live entries are there, they are cached as they were. -/
theorem Beside.keeps {time : Time} (h : Beside cache time count bytes current loaded) :
    Keeps cache current := by
  intro endpointId entry hentry
  rw [Dict.get?_eq_some_iff] at hentry ⊢
  rw [h.entries]
  exact List.mem_append_left _ hentry

/-- Where nothing loaded is older, the counts are those of the whole cache. -/
theorem Beside.exists_older {time : Time} (h : Beside cache time count bytes current loaded)
    (hroom : Room cfg count bytes sizeBytes) (hover : overLimits cfg sizeBytes current = true) :
    ∃ entry ∈ loaded, entry.2.fetchedAt < time := by
  by_contra hnone
  have hall : youngOf time loaded = loaded := by
    refine List.filter_eq_self.mpr fun entry hentry => ?_
    have hnot : ¬ entry.2.fetchedAt < time := fun hlt => hnone ⟨entry, hentry, hlt⟩
    simpa using hnot
  have hcount : count = current.details.size := by
    rw [h.size_eq, h.count_eq, hall]
  have hbytes : bytes = current.totalBytes := by
    rw [h.total, h.bytes_eq, hall]
  rw [hcount, hbytes] at hroom
  rw [over_limits_eq_false_iff.mpr (Or.inr hroom)] at hover
  cases hover

end Loaded

/-! ## The eviction loop beside live entries -/

/-- A pass drops a live entry, or a loaded one older than all of them. -/
theorem Beside.evict (h : Beside cache oldest.2.fetchedAt count bytes current loaded)
    (hlive : cache.details.entries.argmin fetchedKey = some oldest)
    {dropped : EndpointId × CachedEntry α}
    (hdropped : current.details.entries.argmin fetchedKey = some dropped) :
    dropped ∈ cache.details.entries ∨
      dropped.2.fetchedAt < oldest.2.fetchedAt ∧
        Beside cache oldest.2.fetchedAt count bytes current.evictOldest
          (loaded.filter fun entry => entry.1 ≠ dropped.1) := by
  have hsplit := hdropped
  rw [h.entries] at hsplit
  rcases argmin_append hsplit with hfirst | ⟨hsecond, hlt⟩
  · exact Or.inl (List.argmin_mem hfirst)
  · right
    have hold : dropped.2.fetchedAt < oldest.2.fetchedAt := hlt oldest (List.argmin_mem hlive)
    obtain ⟨hget, heq⟩ := evict_oldest_of_argmin hdropped
    have hnodup := current.details.nodup
    rw [h.entries, List.map_append, List.nodup_append] at hnodup
    obtain ⟨_, hloaded, hdisjoint⟩ := hnodup
    have houtside : dropped.1 ∉ cache.details.entries.map Prod.fst := fun hmem =>
      hdisjoint _ hmem _ (List.mem_map.mpr ⟨dropped, hsecond, rfl⟩) rfl
    -- what is dropped is older than the moment, so the younger entries stay the same
    have hyoung : youngOf oldest.2.fetchedAt (loaded.filter fun entry => entry.1 ≠ dropped.1) =
        youngOf oldest.2.fetchedAt loaded := by
      rw [youngOf, youngOf, List.filter_filter]
      refine List.filter_congr fun entry hentry => ?_
      by_cases hid : entry.1 = dropped.1
      · have hsame : entry = dropped := by
          have hfound : loaded.lookup entry.1 = some entry.2 :=
            Dict.lookup_eq_some_of_mem hloaded hentry
          have hfound' : loaded.lookup dropped.1 = some dropped.2 :=
            Dict.lookup_eq_some_of_mem hloaded hsecond
          rw [hid, hfound'] at hfound
          exact Prod.ext hid (Option.some.inj hfound.symm)
        simp [hsame, hold]
      · simp [hid]
    refine ⟨hold, ?_, ?_, ?_, ?_⟩
    · rw [heq]
      show (current.details.entries.filter fun entry => entry.1 ≠ dropped.1) = _
      rw [h.entries, List.filter_append, Dict.filter_ne_of_not_mem houtside]
    · have hsum : bytesOf (loaded.filter fun entry => entry.1 ≠ dropped.1) =
          bytesOf loaded - sizeWeight dropped.2 :=
        Dict.sum_filter_ne sizeWeight hloaded hsecond
      rw [heq, hsum]
      simp only
      rw [h.total]
      omega
    · rw [hyoung]
      exact h.count_eq
    · rw [hyoung]
      exact h.bytes_eq

theorem lost_evict (h : Lost cache current) : Lost cache current.evictOldest := by
  obtain ⟨endpointId, hlive, hdisk⟩ := h
  exact ⟨endpointId, hlive, fun entry hentry => hdisk entry (get?_evict_oldest hentry)⟩

/-- Making room keeps the live entries when there is room next to what the loop cannot reach. -/
theorem Beside.make_room (h : Beside cache oldest.2.fetchedAt count bytes current loaded)
    (hlive : cache.details.entries.argmin fetchedKey = some oldest)
    (habsent : current.details.get? endpointId = none) (hroom : Room cfg count bytes sizeBytes) :
    ∃ kept, (∀ entry ∈ kept, entry ∈ loaded) ∧
      Beside cache oldest.2.fetchedAt count bytes
        (makeRoom cfg current endpointId sizeBytes) kept := by
  refine make_room_induction (P := fun room => ∃ kept, (∀ entry ∈ kept, entry ∈ loaded) ∧
    Beside cache oldest.2.fetchedAt count bytes room kept) habsent ?_ ⟨loaded, fun _ h => h, h⟩
  rintro room hover ⟨kept, hsub, hkept⟩
  obtain ⟨older, holder, hlt⟩ := hkept.exists_older hroom hover
  have hmem : older ∈ room.details.entries := by
    rw [hkept.entries]
    exact List.mem_append_right _ holder
  obtain ⟨dropped, hdropped⟩ := exists_argmin (List.length_pos_of_mem hmem)
  have hle : fetchedKey dropped ≤ fetchedKey older := List.le_of_mem_argmin hmem hdropped
  rcases hkept.evict hlive hdropped with hfirst | ⟨_, hnext⟩
  · -- a live entry is not older than the oldest of them
    have hge : fetchedKey oldest ≤ fetchedKey dropped := List.le_of_mem_argmin hfirst hlive
    exact absurd (lt_of_le_of_lt hge (lt_of_le_of_lt hle hlt)) (lt_irrefl _)
  · exact ⟨_, fun entry hentry => hsub entry (List.mem_of_mem_filter hentry), hnext⟩

/-- Otherwise it drops one of them. -/
theorem Beside.lost_of_no_room
    (h : Beside cache oldest.2.fetchedAt count bytes current loaded)
    (hlive : cache.details.entries.argmin fetchedKey = some oldest)
    (habsent : current.details.get? endpointId = none)
    (hroom : ¬ Room cfg count bytes sizeBytes) :
    Lost cache (makeRoom cfg current endpointId sizeBytes) := by
  have hkept : Lost cache (makeRoom cfg current endpointId sizeBytes) ∨
      ∃ kept, Beside cache oldest.2.fetchedAt count bytes
        (makeRoom cfg current endpointId sizeBytes) kept := by
    refine make_room_induction (P := fun room => Lost cache room ∨
      ∃ kept, Beside cache oldest.2.fetchedAt count bytes room kept) habsent ?_
      (Or.inr ⟨loaded, h⟩)
    rintro room hover (hlost | ⟨kept, hkept⟩)
    · exact Or.inl (lost_evict hlost)
    · have hpos : 0 < room.details.size := by
        simp only [overLimits, Bool.and_eq_true, decide_eq_true_eq] at hover
        exact hover.1
      obtain ⟨dropped, hdropped⟩ := exists_argmin hpos
      rcases hkept.evict hlive hdropped with hfirst | ⟨_, hnext⟩
      · left
        refine ⟨dropped.1, List.mem_map.mpr ⟨dropped, hfirst, rfl⟩, fun entry hentry => ?_⟩
        rw [(evict_oldest_of_argmin hdropped).2, Dict.get?_erase_self] at hentry
        cases hentry
      · exact Or.inr ⟨_, hnext⟩
  rcases hkept with hlost | ⟨kept, hkept⟩
  · exact hlost
  · have hpos : 0 < cache.details.size := List.length_pos_of_mem (List.argmin_mem hlive)
    rcases room_after_evict habsent with hempty | hleft
    · rw [hkept.size_eq] at hempty
      omega
    · exact absurd (hleft.mono hkept.count_le.1 hkept.count_le.2) hroom

/-! ## Passes of the load -/

/-- A record that stores nothing leaves the cache as it is. -/
theorem load_entry_of_none {raw : DiskEntry α} (hkeep : Keeps cache current)
    (hnone : storedFrom cfg cache endpointId raw = none) :
    loadEntry cfg now current endpointId raw = current := by
  rcases load_entry_cases cfg now current endpointId raw with
    ⟨hskip, _⟩ | ⟨value, fetchedAt, hon, habsent, hvalue, hfetched, _⟩
  · exact hskip
  · have hnew : endpointId ∉ cache.details.keys := fun hmem => by
      obtain ⟨entry, hentry⟩ := Dict.mem_keys_iff.mp hmem
      rw [hkeep endpointId entry hentry] at habsent
      cases habsent
    rw [storedFrom, if_pos ⟨hon, hnew⟩, hvalue, hfetched] at hnone
    cases hnone

omit [PyText] in
theorem stored_from_eq_some {raw : DiskEntry α} {stale : α} {fetchedAt : Time}
    (h : storedFrom cfg cache endpointId raw = some (stale, fetchedAt)) :
    cfg.cacheEnabled = true ∧ endpointId ∉ cache.details.keys ∧
      ∃ value, raw.value = some value ∧ raw.fetchedAt = some fetchedAt ∧
        stale = CacheValue.setCacheStale true value := by
  unfold storedFrom at h
  split at h
  · rename_i hnew
    split at h
    · rename_i value time hvalue htime
      cases h
      exact ⟨hnew.1, hnew.2, value, hvalue, htime, rfl⟩
    · cases h
  · cases h

/-- A record that is stored, under an id that is not cached by then. -/
theorem load_entry_of_some (now : Time) {raw : DiskEntry α} {stale : α} {fetchedAt : Time}
    (hsome : storedFrom cfg cache endpointId raw = some (stale, fetchedAt))
    (habsent : current.details.get? endpointId = none) :
    ∃ entry, entry.fetchedAt = fetchedAt ∧ entry.fromDisk = true ∧
      entry.sizeBytes = CacheValue.estimateSize stale ∧
      (loadEntry cfg now current endpointId raw).details =
        (makeRoom cfg current endpointId (CacheValue.estimateSize stale)).details.set
          endpointId entry ∧
      (loadEntry cfg now current endpointId raw).totalBytes =
        (makeRoom cfg current endpointId (CacheValue.estimateSize stale)).totalBytes +
          CacheValue.estimateSize stale := by
  obtain ⟨hon, _, value, hvalue, hfetched, rfl⟩ := stored_from_eq_some hsome
  rcases load_entry_cases cfg now current endpointId raw with
    ⟨_, hread⟩ | ⟨value', fetchedAt', _, _, hvalue', hfetched', heq⟩
  · rcases hread hon habsent with hnone | hnone
    · rw [hvalue] at hnone
      cases hnone
    · rw [hfetched] at hnone
      cases hnone
  · cases hvalue.symm.trans hvalue'
    cases hfetched.symm.trans hfetched'
    exact ⟨loadedEntry current endpointId value fetchedAt raw, rfl, rfl, rfl, by rw [heq],
      by rw [heq]⟩

omit [PyText] [CacheValue α] in
/-- Storing an entry of the file after the live and the loaded ones. -/
theorem Beside.store {stored : EndpointCache α} {entry : CachedEntry α} {time : Time}
    (h : Beside cache time count bytes current loaded)
    (hnew : endpointId ∉ current.details.keys)
    (hdetails : stored.details = current.details.set endpointId entry)
    (hbytes : stored.totalBytes = current.totalBytes + entry.sizeBytes) :
    Beside cache time (if entry.fetchedAt < time then count else count + 1)
      (if entry.fetchedAt < time then bytes else bytes + entry.sizeBytes) stored
      (loaded ++ [(endpointId, entry)]) := by
  have hyoung : youngOf time (loaded ++ [(endpointId, entry)]) =
      youngOf time loaded ++ if entry.fetchedAt < time then [] else [(endpointId, entry)] := by
    rw [youngOf, List.filter_append, List.filter_singleton, ← youngOf]
    by_cases hlt : entry.fetchedAt < time <;> simp [hlt]
  have hsingle : bytesOf [(endpointId, entry)] = entry.sizeBytes := by
    simp [bytesOf, sizeWeight]
  refine ⟨?_, ?_, ?_, ?_⟩
  · rw [hdetails, Dict.entries_set_of_not_mem entry hnew, h.entries, List.append_assoc]
  · rw [hbytes, h.total, bytes_of_append, hsingle]
    omega
  · rw [hyoung, h.count_eq]
    by_cases hlt : entry.fetchedAt < time
    · simp [hlt]
    · simp [hlt]
      omega
  · rw [hyoung, h.bytes_eq, bytes_of_append]
    by_cases hlt : entry.fetchedAt < time
    · simp [hlt, bytesOf]
    · simp only [hlt, ↓reduceIte, hsingle]
      omega

omit [PyText] [CacheValue α] in
/-- Storing an entry of the file does not bring a live one back. -/
theorem Lost.store {stored : EndpointCache α} {entry : CachedEntry α} (h : Lost cache current)
    (hdisk : entry.fromDisk = true)
    (hdetails : stored.details = current.details.set endpointId entry) : Lost cache stored := by
  obtain ⟨lostId, hlive, hlost⟩ := h
  refine ⟨lostId, hlive, fun found hfound => ?_⟩
  rw [hdetails, Dict.get?_set] at hfound
  split at hfound
  · cases hfound
    exact hdisk
  · exact hlost found hfound

theorem lost_load_entry {raw : DiskEntry α} (h : Lost cache current) :
    Lost cache (loadEntry cfg now current endpointId raw) := by
  rcases load_entry_cases cfg now current endpointId raw with
    ⟨hskip, _⟩ | ⟨value, fetchedAt, _, habsent, _, _, heq⟩
  · rw [hskip]
    exact h
  · have hroom : Lost cache (makeRoom cfg current endpointId
        (CacheValue.estimateSize (CacheValue.setCacheStale true value))) :=
      make_room_induction (P := Lost cache) habsent (fun _ _ hlost => lost_evict hlost) h
    have hdetails : (loadEntry cfg now current endpointId raw).details =
        (makeRoom cfg current endpointId
          (CacheValue.estimateSize (CacheValue.setCacheStale true value))).details.set endpointId
            (loadedEntry current endpointId value fetchedAt raw) := by
      rw [heq]
    exact hroom.store rfl hdetails

/-- From a cache with all live entries, going through the rest of the file keeps them exactly when
what it stores fits; otherwise one is lost. -/
theorem live_kept_or_lost (hlive : cache.details.entries.argmin fetchedKey = some oldest)
    (rest : List (EndpointId × DiskEntry α)) (hdistinct : (rest.map Prod.fst).Nodup)
    (hapart : ∀ entry ∈ loaded, entry.1 ∉ rest.map Prod.fst)
    (h : Beside cache oldest.2.fetchedAt count bytes current loaded) :
    (LoadFits cfg cache oldest.2.fetchedAt count bytes rest →
      Keeps cache (loadEntries cfg now rest current)) ∧
    (¬ LoadFits cfg cache oldest.2.fetchedAt count bytes rest →
      Lost cache (loadEntries cfg now rest current)) := by
  induction rest generalizing current count bytes loaded with
  | nil => exact ⟨fun _ => h.keeps, fun hnot => absurd trivial hnot⟩
  | cons first rest ih =>
      obtain ⟨endpointId, raw⟩ := first
      obtain ⟨hfirst, hrest⟩ := List.nodup_cons.mp hdistinct
      have hapart' : ∀ entry ∈ loaded, entry.1 ∉ rest.map Prod.fst := fun entry hentry hmem =>
        hapart entry hentry (List.mem_cons_of_mem _ hmem)
      show (LoadFits cfg cache oldest.2.fetchedAt count bytes ((endpointId, raw) :: rest) →
          Keeps cache (loadEntries cfg now rest (loadEntry cfg now current endpointId raw))) ∧
        (¬ LoadFits cfg cache oldest.2.fetchedAt count bytes ((endpointId, raw) :: rest) →
          Lost cache (loadEntries cfg now rest (loadEntry cfg now current endpointId raw)))
      rw [LoadFits]
      cases hsome : storedFrom cfg cache endpointId raw with
      | none =>
          rw [load_entry_of_none h.keeps hsome]
          exact ih hrest hapart' h
      | some stored =>
          obtain ⟨stale, fetchedAt⟩ := stored
          have hnew : ∀ kept, (∀ entry ∈ kept, entry ∈ loaded) →
              endpointId ∉ (cache.details.entries ++ kept).map Prod.fst := by
            intro kept hsub hmem
            obtain ⟨entry, hentry, hid⟩ := List.mem_map.mp hmem
            rcases List.mem_append.mp hentry with hcached | hkept
            · exact (stored_from_eq_some hsome).2.1 (List.mem_map.mpr ⟨entry, hcached, hid⟩)
            · refine hapart entry (hsub entry hkept) ?_
              rw [hid]
              exact List.mem_cons_self
          have habsent : current.details.get? endpointId = none := by
            rw [Dict.get?_eq_none_iff, Dict.keys, h.entries]
            exact hnew loaded fun _ hentry => hentry
          obtain ⟨entry, hfetched, hdisk, hsize, hdetails, hbytes⟩ :=
            load_entry_of_some now hsome habsent
          by_cases hroom : Room cfg count bytes (CacheValue.estimateSize stale)
          · obtain ⟨kept, hsub, hkept⟩ := h.make_room hlive habsent hroom
            have hroomy : endpointId ∉ (makeRoom cfg current endpointId
                (CacheValue.estimateSize stale)).details.keys := by
              rw [Dict.keys, hkept.entries]
              exact hnew kept hsub
            rw [← hsize] at hbytes hdetails hroomy hkept
            have hnext := hkept.store hroomy hdetails hbytes
            have hapart'' : ∀ other ∈ kept ++ [(endpointId, entry)],
                other.1 ∉ rest.map Prod.fst := by
              intro other hother
              rcases List.mem_append.mp hother with hold | hadded
              · exact hapart' other (hsub other hold)
              · rw [List.mem_singleton.mp hadded]
                exact hfirst
            have hloop := ih hrest hapart'' hnext
            rw [hfetched, hsize] at hloop
            by_cases hlt : fetchedAt < oldest.2.fetchedAt
            · simpa [hroom, hlt] using hloop
            · simpa [hroom, hlt] using hloop
          · refine ⟨fun hfits => absurd hfits.1 hroom, fun _ => ?_⟩
            have hlost := (h.lost_of_no_room hlive habsent hroom).store hdisk hdetails
            exact load_entries_induction (fun _ _ _ hkept => lost_load_entry hkept) hlost

omit [PyText] [CacheValue α] in
theorem distinct_entries_read {file : DiskFile α} (hdistinct : DistinctIds file) :
    ((entriesRead cache file).map Prod.fst).Nodup := by
  cases file with
  | missing => exact List.nodup_nil
  | unreadable => exact List.nodup_nil
  | payload content =>
      simp only [entriesRead]
      split
      · cases content.tierEmas with
        | none => exact List.nodup_nil
        | some saved =>
            simp only
            split
            · exact hdistinct
            · exact List.nodup_nil
      · exact List.nodup_nil

/-- The same for the whole load, which restores EMAs before and groups after it. -/
theorem load_kept_or_lost (cfg : CacheSettings) (now : Time) {file : DiskFile α}
    (hdistinct : DistinctIds file)
    (hlive : cache.details.entries.argmin fetchedKey = some oldest) :
    (LoadFits cfg cache oldest.2.fetchedAt cache.details.size cache.totalBytes
        (entriesRead cache file) → Keeps cache (loadFromDisk cfg now cache file)) ∧
      (¬ LoadFits cfg cache oldest.2.fetchedAt cache.details.size cache.totalBytes
        (entriesRead cache file) → Lost cache (loadFromDisk cfg now cache file)) := by
  obtain ⟨groups, heq⟩ := load_from_disk_eq cfg now cache file
  obtain ⟨emas, hrestored⟩ := restore_tier_emas_frame (savedEmas file) cache
  have hbeside : Beside cache oldest.2.fetchedAt cache.details.size cache.totalBytes
      { cache with tierEmas := emas } [] :=
    ⟨by simp, by simp [bytesOf], by simp [youngOf], by simp [youngOf, bytesOf]⟩
  rw [heq, hrestored]
  exact live_kept_or_lost hlive (entriesRead cache file) (distinct_entries_read hdistinct)
    (fun _ hmem => by cases hmem) hbeside

/-- Whatever is cached, a load keeps every entry as it is when the file fits beside them. And into
a cache of live entries only, it keeps them just then. -/
theorem load_keeps_live_iff (cfg : CacheSettings) (now : Time) (cache : EndpointCache α)
    (file : DiskFile α) (hdistinct : DistinctIds file) :
    (FitsBesideLive cfg cache file → Keeps cache (loadFromDisk cfg now cache file)) ∧
      ((∀ endpointId entry, cache.details.get? endpointId = some entry →
          entry.fromDisk = false) →
        Keeps cache (loadFromDisk cfg now cache file) → FitsBesideLive cfg cache file) := by
  constructor
  · intro hfits
    cases hlive : cache.details.entries.argmin fetchedKey with
    | none =>
        rw [List.argmin_eq_none] at hlive
        intro endpointId entry hentry
        rw [Dict.get?_eq_some_iff, hlive] at hentry
        cases hentry
    | some oldest => exact (load_kept_or_lost cfg now hdistinct hlive).1 (hfits oldest hlive)
  · intro hfresh hkeeps oldest hlive
    by_contra hnot
    obtain ⟨endpointId, hcached, hlost⟩ := (load_kept_or_lost cfg now hdistinct hlive).2 hnot
    obtain ⟨entry, hentry⟩ := Dict.mem_keys_iff.mp hcached
    have hdisk := hlost entry (hkeeps endpointId entry hentry)
    rw [hfresh endpointId entry hentry] at hdisk
    cases hdisk

end EndpointCache

section Examples

open EndpointCache

local instance liveText : PyText := asciiText

local instance liveCodec : DetailCodec := plainJson

/-- Two places in the cache. -/
def twoEntries : CacheSettings := { cacheMaxEntries := 2 }

def plainDetail (endpointId : EndpointId) : EndpointDetail :=
  { id := endpointId, name := endpointId }

/-- Two endpoints read from ISE at 1000 and at 1010. -/
def liveCache : EndpointCache EndpointDetail :=
  putDetail twoEntries 1010 (putDetail twoEntries 1000 {} "ep-1" (plainDetail "ep-1") false) "ep-2"
    (plainDetail "ep-2") false

/-- A file with one other endpoint, saved at 500. -/
def otherFile : DiskFile EndpointDetail :=
  .payload { version := 5, entries := some [("ep-3",
    { value := some (plainDetail "ep-3"), fetchedAt := some 500 })] }

theorem load_keeps_live_iff_other :
    DistinctIds otherFile ∧
      (FitsBesideLive twoEntries liveCache otherFile →
        Keeps liveCache (loadFromDisk twoEntries 1020 liveCache otherFile)) ∧
      ((∀ endpointId entry, liveCache.details.get? endpointId = some entry →
          entry.fromDisk = false) →
        Keeps liveCache (loadFromDisk twoEntries 1020 liveCache otherFile) →
          FitsBesideLive twoEntries liveCache otherFile) :=
  have hdistinct : DistinctIds otherFile := by simp [DistinctIds, otherFile]
  ⟨hdistinct, load_keeps_live_iff twoEntries 1020 liveCache otherFile hdistinct⟩

/-- The entry from the file takes the place of the older live one. -/
theorem load_evicts_live :
    ¬ Keeps liveCache (loadFromDisk twoEntries 1020 liveCache otherFile) := by
  intro h
  have hgone : (loadFromDisk twoEntries 1020 liveCache otherFile).details.get? "ep-1" = none := by
    decide
  have hcached : (liveCache.details.get? "ep-1").isSome = true := by decide
  obtain ⟨entry, hentry⟩ := Option.isSome_iff_exists.mp hcached
  rw [h "ep-1" entry hentry] at hgone
  cases hgone

end Examples

end IsePortal
