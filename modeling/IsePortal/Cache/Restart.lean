import IsePortal.Cache.DiskCache

/-!
# A restart over the disk cache

A portal starts with what `load_from_disk` finds, works on it and saves at shutdown; the next start
loads that file. `save_to_disk` leaves out the entries that are still the ones loaded at the start,
and a load drops the oldest entries when the stale copies take more memory than the limit. What
the entries themselves hold, and the EMAs of the endpoints that are not cached, come back as they
were. `restart_survives_iff` is the result over every start, every sequence of calls and every
file.
-/

namespace IsePortal

open Library

namespace EndpointCache

variable [PyText] {α : Type*} [CacheValue α] {cfg : CacheSettings} {now : Time}
  {cache current : EndpointCache α} {endpointId : EndpointId}

/-! ## The portal between two starts -/

/-- The calls that change the cache while the portal runs. -/
inductive LiveCall (α : Type*) where
  | putDetail (now : Time) (endpointId : EndpointId) (value : α)
  | invalidateDetail (endpointId : EndpointId)
  | markChanged (endpointId : EndpointId)

/-- Perform one call; a `put_detail` stores what was just read from ISE. -/
def applyLive (cfg : CacheSettings) (cache : EndpointCache α) : LiveCall α → EndpointCache α
  | .putDetail now endpointId value => cache.putDetail cfg now endpointId value false
  | .invalidateDetail endpointId => cache.invalidateDetail endpointId
  | .markChanged endpointId => cache.markChanged endpointId

/-- The cache of a portal that started with the file and has performed the calls. -/
def afterStart (cfg : CacheSettings) (startedAt : Time) (file : DiskFile α)
    (calls : List (LiveCall α)) : EndpointCache α :=
  calls.foldl (applyLive cfg) (loadFromDisk cfg startedAt {} file)

/-- What a restart has to bring back of an entry; the value comes back marked as stale. -/
def remembered (entry : CachedEntry α) : α × Time × Rat × String :=
  (CacheValue.setCacheStale true entry.value, entry.fetchedAt, entry.changeEma, entry.valueHash)

/-- What an entry holds after a restart. -/
def recalled (entry : CachedEntry α) : α × Time × Rat × String :=
  (entry.value, entry.fetchedAt, entry.changeEma, entry.valueHash)

/-- The new cache has exactly the cached endpoints of the old one, with what they held, and the
same EMAs of endpoints that are not cached. -/
structure Survives (saved reloaded : EndpointCache α) : Prop where
  entries : ∀ endpointId, (reloaded.details.get? endpointId).map recalled =
    (saved.details.get? endpointId).map remembered
  emas : ∀ endpointId, reloaded.tierEmas.get? endpointId = saved.tierEmas.get? endpointId

/-- The size of the copy a load makes of an entry. -/
def staleSize (entry : CachedEntry α) : Nat :=
  CacheValue.estimateSize (CacheValue.setCacheStale true entry.value)

/-- Nothing cached comes from disk, and the stale copies fit within the memory limit, unless there
is one only. -/
structure SavesAll (cfg : CacheSettings) (cache : EndpointCache α) : Prop where
  live : ∀ endpointId entry, cache.details.get? endpointId = some entry → entry.fromDisk = false
  fits : 0 < maxMemoryBytes cfg → cache.details.size ≤ 1 ∨
    cache.details.sumBy (fun entry => staleSize entry) ≤ maxMemoryBytes cfg

/-! ## Reloading what was saved -/

/-- The record of an entry. -/
def recordOf (entry : EndpointId × CachedEntry α) : EndpointId × DiskEntry α :=
  (entry.1, savedEntry entry.2)

/-- The entry a load makes of that record. -/
def reloadedOf (entry : CachedEntry α) : CachedEntry α :=
  { value := CacheValue.setCacheStale true entry.value
    fetchedAt := entry.fetchedAt
    fromDisk := true
    sizeBytes := staleSize entry
    changeEma := entry.changeEma
    valueHash := entry.valueHash }

/-- The copies find room one after the other, the first one in the empty cache. -/
def ReloadFits (cfg : CacheSettings) : Nat → Int → List (EndpointId × CachedEntry α) → Prop
  | _, _, [] => True
  | count, bytes, entry :: rest =>
      (count = 0 ∨ Room cfg count bytes (staleSize entry.2)) ∧
        ReloadFits cfg (count + 1) (bytes + staleSize entry.2) rest

/-- The bytes of the copies. -/
def staleBytes (entries : List (EndpointId × CachedEntry α)) : Int :=
  (entries.map fun entry => (staleSize entry.2 : Int)).sum

omit [PyText] in
theorem stale_bytes_nonneg (entries : List (EndpointId × CachedEntry α)) :
    0 ≤ staleBytes entries := by
  induction entries with
  | nil => exact le_refl _
  | cons first rest ih =>
      simp only [staleBytes, List.map_cons, List.sum_cons] at ih ⊢
      omega

omit [PyText] in
/-- Into a cache that is not empty, the copies fit when all of them do together. -/
theorem reload_fits_iff {count : Nat} {bytes : Int} (hpos : 0 < count)
    (entries : List (EndpointId × CachedEntry α)) :
    ReloadFits cfg count bytes entries ↔
      entries = [] ∨
        (cfg.cacheMaxEntries > 0 → (count + entries.length : Nat) ≤ cfg.cacheMaxEntries) ∧
          (maxMemoryBytes cfg > 0 → bytes + staleBytes entries ≤ maxMemoryBytes cfg) := by
  induction entries generalizing count bytes with
  | nil => simp [ReloadFits]
  | cons first rest ih =>
      have hrest := stale_bytes_nonneg rest
      have hsum : staleBytes (first :: rest) = staleSize first.2 + staleBytes rest := by
        simp [staleBytes]
      rw [ReloadFits, ih (Nat.succ_pos count), hsum, List.length_cons]
      constructor
      · rintro ⟨hzero | hroom, hfits⟩
        · omega
        · right
          rcases hfits with rfl | hfits
          · refine ⟨fun hlimit => ?_, fun hlimit => ?_⟩
            · have hlt := hroom.1 hlimit
              simp only [List.length_nil]
              omega
            · have hle := hroom.2 hlimit
              simp only [staleBytes, List.map_nil, List.sum_nil]
              omega
          · refine ⟨fun hlimit => ?_, fun hlimit => ?_⟩
            · have hle := hfits.1 hlimit
              omega
            · have hle := hfits.2 hlimit
              omega
      · rintro (hnil | hfits)
        · cases hnil
        · refine ⟨Or.inr ⟨fun hlimit => ?_, fun hlimit => ?_⟩,
            Or.inr ⟨fun hlimit => ?_, fun hlimit => ?_⟩⟩
          · have hle := hfits.1 hlimit
            omega
          · have hle := hfits.2 hlimit
            omega
          · have hle := hfits.1 hlimit
            omega
          · have hle := hfits.2 hlimit
            omega

/-- Loading the record of an entry under an id that is not cached. -/
theorem load_record (hon : cfg.cacheEnabled = true) (now : Time)
    (entry : EndpointId × CachedEntry α) (habsent : current.details.get? entry.1 = none) :
    (loadEntry cfg now current (recordOf entry).1 (recordOf entry).2).details =
        (makeRoom cfg current entry.1 (staleSize entry.2)).details.set entry.1
          (reloadedOf entry.2) ∧
      (loadEntry cfg now current (recordOf entry).1 (recordOf entry).2).totalBytes =
        (makeRoom cfg current entry.1 (staleSize entry.2)).totalBytes + staleSize entry.2 := by
  rcases load_entry_cases cfg now current (recordOf entry).1 (recordOf entry).2 with
    ⟨_, hread⟩ | ⟨value, fetchedAt, _, _, hvalue, hfetched, heq⟩
  · rcases hread hon habsent with hnone | hnone <;> cases hnone
  · cases hvalue
    cases hfetched
    rw [heq]
    exact ⟨rfl, rfl⟩

/-- A new entry that finds no room pushes out one that was there. -/
theorem evicts_of_no_room {sizeBytes : Nat} (hpos : 0 < current.details.size)
    (habsent : current.details.get? endpointId = none)
    (hroom : ¬ Room cfg current.details.size current.totalBytes sizeBytes) :
    ∃ lostId ∈ current.details.keys,
      (makeRoom cfg current endpointId sizeBytes).details.get? lostId = none := by
  have hkept : makeRoom cfg current endpointId sizeBytes = current ∨
      ∃ lostId ∈ current.details.keys,
        (makeRoom cfg current endpointId sizeBytes).details.get? lostId = none := by
    refine make_room_induction (P := fun room => room = current ∨
      ∃ lostId ∈ current.details.keys, room.details.get? lostId = none) habsent ?_ (Or.inl rfl)
    rintro room _ (rfl | ⟨lostId, hcached, hlost⟩)
    · obtain ⟨dropped, hdropped⟩ := exists_argmin hpos
      obtain ⟨hget, heq⟩ := evict_oldest_of_argmin hdropped
      exact Or.inr ⟨dropped.1, Dict.mem_keys_iff.mpr ⟨_, hget⟩, by
        rw [heq]
        exact Dict.get?_erase_self _ _⟩
    · exact Or.inr ⟨lostId, hcached, evict_oldest_absent hlost⟩
  rcases hkept with hsame | hlost
  · rcases room_after_evict habsent with hempty | hleft
    · rw [hsame] at hempty
      omega
    · rw [hsame] at hleft
      exact absurd hleft hroom
  · exact hlost

/-- Reloading entries under new ids: when they find room one after the other they are all there,
in their order; otherwise one is lost. -/
theorem reload_loop (hon : cfg.cacheEnabled = true) (now : Time)
    (saved : List (EndpointId × CachedEntry α)) (hdistinct : (saved.map Prod.fst).Nodup)
    (hapart : ∀ entry ∈ saved, entry.1 ∉ current.details.keys) :
    (ReloadFits cfg current.details.size current.totalBytes saved →
      (loadEntries cfg now (saved.map recordOf) current).details.entries =
        current.details.entries ++ saved.map fun entry => (entry.1, reloadedOf entry.2)) ∧
    (¬ ReloadFits cfg current.details.size current.totalBytes saved →
      ∃ lostId ∈ current.details.keys ++ saved.map Prod.fst,
        (loadEntries cfg now (saved.map recordOf) current).details.get? lostId = none) := by
  induction saved generalizing current with
  | nil => exact ⟨fun _ => (List.append_nil _).symm, fun hnot => absurd trivial hnot⟩
  | cons first rest ih =>
      obtain ⟨hfirst, hrest⟩ := List.nodup_cons.mp hdistinct
      have hnew : first.1 ∉ current.details.keys := hapart first List.mem_cons_self
      have habsent := Dict.get?_eq_none_iff.mpr hnew
      obtain ⟨hdetails, hbytes⟩ := load_record hon now first habsent
      have hrecords : (rest.map recordOf).map Prod.fst = rest.map Prod.fst := by
        rw [List.map_map]
        rfl
      show (ReloadFits cfg current.details.size current.totalBytes (first :: rest) →
          (loadEntries cfg now (rest.map recordOf) (loadEntry cfg now current (recordOf first).1
            (recordOf first).2)).details.entries = _) ∧
        (_ → ∃ lostId ∈ _, (loadEntries cfg now (rest.map recordOf) (loadEntry cfg now current
          (recordOf first).1 (recordOf first).2)).details.get? lostId = none)
      generalize loadEntry cfg now current (recordOf first).1 (recordOf first).2 = next
        at hdetails hbytes ⊢
      by_cases hfits : current.details.size = 0 ∨
          Room cfg current.details.size current.totalBytes (staleSize first.2)
      · have hroom : makeRoom cfg current first.1 (staleSize first.2) = current := by
          rcases hfits with hempty | hroom
          · exact make_room_of_empty hempty
          · exact make_room_of_room habsent hroom
        rw [hroom] at hdetails hbytes
        have hentries : next.details.entries =
            current.details.entries ++ [(first.1, reloadedOf first.2)] := by
          rw [hdetails, Dict.entries_set_of_not_mem _ hnew]
        have hsize : next.details.size = current.details.size + 1 := by
          rw [Dict.size, hentries, List.length_append]
          rfl
        have hkeys : next.details.keys = current.details.keys ++ [first.1] := by
          rw [Dict.keys, hentries, List.map_append]
          rfl
        have hapart' : ∀ entry ∈ rest, entry.1 ∉ next.details.keys := by
          intro entry hentry hmem
          rw [hkeys] at hmem
          rcases List.mem_append.mp hmem with hcached | hadded
          · exact hapart entry (List.mem_cons_of_mem _ hentry) hcached
          · rw [List.mem_singleton] at hadded
            exact hfirst (hadded ▸ List.mem_map.mpr ⟨entry, hentry, rfl⟩)
        have hloop := ih hrest hapart'
        rw [hsize, hbytes, hentries, hkeys] at hloop
        rw [ReloadFits]
        constructor
        · intro hall
          rw [hloop.1 hall.2, List.append_assoc]
          rfl
        · intro hnot
          obtain ⟨lostId, hmem, hlost⟩ := hloop.2 fun hall => hnot ⟨hfits, hall⟩
          refine ⟨lostId, ?_, hlost⟩
          simpa using hmem
      · refine ⟨fun hall => absurd hall.1 hfits, fun _ => ?_⟩
        have hpos : 0 < current.details.size := Nat.pos_of_ne_zero fun hzero => hfits (Or.inl hzero)
        obtain ⟨lostId, hcached, hlost⟩ :=
          evicts_of_no_room hpos habsent fun hroom => hfits (Or.inr hroom)
        refine ⟨lostId, List.mem_append_left _ hcached, load_entries_absent ?_ ?_⟩
        · rw [hrecords]
          intro hmem
          obtain ⟨entry, hentry, hid⟩ := List.mem_map.mp hmem
          exact hapart entry (List.mem_cons_of_mem _ hentry) (hid ▸ hcached)
        · have hne : lostId ≠ first.1 := fun heq => hnew (heq ▸ hcached)
          rw [hdetails, Dict.get?_set_ne _ _ hne]
          exact hlost

omit [PyText] [CacheValue α] in
/-- Into a cache without EMAs, the saved ones come back all and in their order. -/
theorem restore_saved_emas (emas : Dict EndpointId Rat) :
    restoreTierEmas (emas.entries.map fun saved => (saved.1, some saved.2))
      ({} : EndpointCache α) = ({ tierEmas := emas }, true) := by
  have hloop : ∀ (rest : List (EndpointId × Rat)) (current : EndpointCache α),
      emas.entries = current.tierEmas.entries ++ rest →
      restoreTierEmas (rest.map fun saved => (saved.1, some saved.2)) current =
        ({ current with tierEmas := emas }, true) := by
    intro rest
    induction rest with
    | nil =>
        intro current hentries
        have hsame : current.tierEmas = emas := by
          refine Dict.ext_entries ?_
          rw [hentries, List.append_nil]
        rw [← hsame]
        rfl
    | cons first rest ih =>
        intro current hentries
        have hnodup := emas.nodup
        rw [hentries, List.map_append, List.nodup_append] at hnodup
        have hnew : first.1 ∉ current.tierEmas.keys := fun hmem =>
          hnodup.2.2 _ hmem first.1 (List.mem_map.mpr ⟨first, List.mem_cons_self, rfl⟩) rfl
        rw [List.map_cons, restoreTierEmas, if_neg hnew]
        refine ih { current with tierEmas := current.tierEmas.set first.1 first.2 } ?_
        rw [Dict.entries_set_of_not_mem _ hnew, hentries, List.append_assoc]
        rfl
  exact hloop emas.entries {} rfl

/-! ## What the portal can have cached at the save -/

/-- The cache is empty while it is off, and within the limit on the number of entries. -/
structure Bounded (cfg : CacheSettings) (cache : EndpointCache α) : Prop where
  off : cfg.cacheEnabled = false → cache.details.size = 0
  count : 0 < cfg.cacheMaxEntries → (cache.details.size : Int) ≤ cfg.cacheMaxEntries

omit [PyText] [CacheValue α] in
theorem Bounded.of_size_le (h : Bounded cfg cache)
    (hle : current.details.size ≤ cache.details.size) :
    Bounded cfg current := by
  refine ⟨fun hoff => ?_, fun hlimit => ?_⟩
  · have hempty := h.off hoff
    omega
  · have hcount := h.count hlimit
    omega

/-- Storing an entry under a new id, once room has been made. -/
theorem bounded_store (hon : cfg.cacheEnabled = true)
    (habsent : cache.details.get? endpointId = none)
    (hstored : ∃ sizeBytes entry, current.details =
      (makeRoom cfg cache endpointId sizeBytes).details.set endpointId entry) :
    Bounded cfg current := by
  obtain ⟨sizeBytes, entry, hdetails⟩ := hstored
  have hafter : (makeRoom cfg cache endpointId sizeBytes).details.size = 0 ∨
      Room cfg (makeRoom cfg cache endpointId sizeBytes).details.size
        (makeRoom cfg cache endpointId sizeBytes).totalBytes sizeBytes := room_after_evict habsent
  have hstill : (makeRoom cfg cache endpointId sizeBytes).details.get? endpointId = none :=
    make_room_induction (P := fun room => room.details.get? endpointId = none) habsent
      (fun _ _ hroom => evict_oldest_absent hroom) habsent
  have hsize : current.details.size =
      (makeRoom cfg cache endpointId sizeBytes).details.size + 1 := by
    rw [hdetails, Dict.size_set_of_not_mem entry (Dict.get?_eq_none_iff.mp hstill)]
  refine ⟨fun hoff => ?_, fun hlimit => ?_⟩
  · rw [hon] at hoff
    cases hoff
  · rcases hafter with hempty | hroom
    · omega
    · have hcount := hroom.1 hlimit
      omega

theorem bounded_put_detail (h : Bounded cfg cache) (value : α) (fromDisk : Bool) :
    Bounded cfg (putDetail cfg now cache endpointId value fromDisk) := by
  cases hon : cfg.cacheEnabled with
  | false => simpa [putDetail, hon] using h
  | true =>
      cases hold : cache.details.get? endpointId with
      | none =>
          refine bounded_store hon hold ⟨CacheValue.estimateSize value, ?_⟩
          simp only [putDetail, hon, ↓reduceIte]
          exact ⟨_, rfl⟩
      | some old =>
          refine h.of_size_le (le_of_eq ?_)
          simp only [putDetail, hon, ↓reduceIte, makeRoom, hold]
          exact Dict.size_set_of_mem _ (Dict.mem_keys_iff.mpr ⟨old, hold⟩)

theorem bounded_load_entry {raw : DiskEntry α} (h : Bounded cfg cache) :
    Bounded cfg (loadEntry cfg now cache endpointId raw) := by
  rcases load_entry_cases cfg now cache endpointId raw with
    ⟨hskip, _⟩ | ⟨value, fetchedAt, hon, habsent, _, _, heq⟩
  · rw [hskip]
    exact h
  · rw [heq]
    exact bounded_store hon habsent ⟨_, _, rfl⟩

/-- After a start and any sequence of calls the cache is within the bounds. -/
theorem bounded_after_start (cfg : CacheSettings) (startedAt : Time) (file : DiskFile α)
    (calls : List (LiveCall α)) : Bounded cfg (afterStart cfg startedAt file calls) := by
  have hstart : Bounded cfg (loadFromDisk cfg startedAt ({} : EndpointCache α) file) := by
    refine load_from_disk_induction (fun _ _ _ _ _ h => ⟨h.off, h.count⟩)
      (fun _ _ _ h => bounded_load_entry h) (fun _ _ h => ⟨h.off, h.count⟩)
      ⟨fun _ => rfl, fun hlimit => ?_⟩
    show ((0 : Nat) : Int) ≤ cfg.cacheMaxEntries
    omega
  have hcalls : ∀ (calls : List (LiveCall α)) (cache : EndpointCache α), Bounded cfg cache →
      Bounded cfg (calls.foldl (applyLive cfg) cache) := by
    intro calls
    induction calls with
    | nil => exact fun _ h => h
    | cons call rest ih =>
        intro cache h
        refine ih _ ?_
        cases call with
        | putDetail now endpointId value => exact bounded_put_detail h value false
        | invalidateDetail endpointId =>
            refine h.of_size_le ?_
            show (cache.invalidateDetail endpointId).details.size ≤ _
            unfold invalidateDetail
            cases hentry : cache.details.get? endpointId with
            | none => exact le_refl _
            | some entry =>
                have hsize := Dict.size_erase_of_mem (Dict.mem_keys_iff.mpr ⟨entry, hentry⟩)
                simp only
                omega
        | markChanged endpointId =>
            exact h.of_size_le (le_of_eq (Dict.size_modify _ _ _))
  exact hcalls calls _ hstart

/-! ## The restart -/

/-- The entries `save_to_disk` writes. -/
def savedOf (cache : EndpointCache α) : List (EndpointId × CachedEntry α) :=
  cache.details.entries.filter fun entry => !entry.2.fromDisk

omit [PyText] [CacheValue α] in
theorem distinct_saved (cache : EndpointCache α) : ((savedOf cache).map Prod.fst).Nodup :=
  cache.details.nodup.sublist (List.filter_sublist.map Prod.fst)

/-- A start after a save restores the EMAs and goes through the saved entries. -/
theorem reload_eq (cfg : CacheSettings) (reloadedAt : Time) (cache : EndpointCache α) :
    (loadFromDisk cfg reloadedAt {} (saveToDisk cache)).tierEmas = cache.tierEmas ∧
      (loadFromDisk cfg reloadedAt {} (saveToDisk cache)).details =
        (loadEntries cfg reloadedAt ((savedOf cache).map recordOf)
          { tierEmas := cache.tierEmas }).details := by
  obtain ⟨groups, heq⟩ := load_from_disk_eq cfg reloadedAt {} (saveToDisk cache)
  have hentries : entriesRead {} (saveToDisk cache) = (savedOf cache).map recordOf := by
    simp only [entriesRead, saveToDisk, diskCacheVersion, restore_saved_emas]
    rfl
  have hemas : (restoreTierEmas (savedEmas (saveToDisk cache)) ({} : EndpointCache α)).1 =
      { tierEmas := cache.tierEmas } := by
    simp only [savedEmas, saveToDisk, diskCacheVersion, Option.getD_some]
    exact congrArg Prod.fst (restore_saved_emas cache.tierEmas)
  rw [heq, hentries, hemas]
  refine ⟨?_, rfl⟩
  exact load_entries_induction (P := fun current => current.tierEmas = cache.tierEmas)
    (fun current entry _ hkept =>
      (tier_emas_load_entry cfg reloadedAt current entry.1 entry.2).trans hkept) rfl

omit [PyText] in
/-- Into the empty cache, entries within the limit on their number fit when there is one only or
all of them fit together. -/
theorem reload_fits_start (cfg : CacheSettings) (entries : List (EndpointId × CachedEntry α))
    (hcount : 0 < cfg.cacheMaxEntries → (entries.length : Int) ≤ cfg.cacheMaxEntries) :
    ReloadFits cfg 0 0 entries ↔
      (0 < maxMemoryBytes cfg →
        entries.length ≤ 1 ∨ staleBytes entries ≤ maxMemoryBytes cfg) := by
  cases entries with
  | nil => simp [ReloadFits]
  | cons first rest =>
      have hsum : staleBytes (first :: rest) = staleSize first.2 + staleBytes rest := by
        simp [staleBytes]
      rw [List.length_cons] at hcount
      rw [ReloadFits, reload_fits_iff Nat.one_pos, hsum, List.length_cons]
      constructor
      · rintro ⟨_, rfl | hfits⟩ hlimit
        · exact Or.inl (le_refl _)
        · have hle := hfits.2 hlimit
          right
          omega
      · intro hfits
        refine ⟨Or.inl rfl, ?_⟩
        cases rest with
        | nil => exact Or.inl rfl
        | cons second rest =>
            right
            refine ⟨fun hlimit => ?_, fun hlimit => ?_⟩
            · have hle := hcount hlimit
              omega
            · rcases hfits hlimit with hone | hle
              · rw [List.length_cons] at hone
                omega
              · omega

omit [PyText] [CacheValue α] in
theorem saved_of_live
    (hlive : ∀ endpointId entry, cache.details.get? endpointId = some entry →
      entry.fromDisk = false) : savedOf cache = cache.details.entries := by
  refine List.filter_eq_self.mpr fun entry hentry => ?_
  rw [hlive entry.1 entry.2 (Dict.get?_eq_some_iff.mpr hentry)]
  rfl

/-- A cache within the bounds survives a save and a reload exactly when all of it is saved. -/
theorem survives_iff (h : Bounded cfg cache) (reloadedAt : Time) :
    Survives cache (loadFromDisk cfg reloadedAt {} (saveToDisk cache)) ↔ SavesAll cfg cache := by
  obtain ⟨hemas, hdetails⟩ := reload_eq cfg reloadedAt cache
  have hapart : ∀ entry ∈ savedOf cache,
      entry.1 ∉ ({ tierEmas := cache.tierEmas } : EndpointCache α).details.keys :=
    fun _ _ hmem => by cases hmem
  cases hon : cfg.cacheEnabled with
  | false =>
      have hnone (endpointId : EndpointId) : cache.details.get? endpointId = none := by
        rw [Dict.get?, List.eq_nil_of_length_eq_zero (h.off hon)]
        rfl
      have hnil : savedOf cache = [] := by
        rw [savedOf, List.eq_nil_of_length_eq_zero (h.off hon), List.filter_nil]
      refine iff_of_true ⟨fun endpointId => ?_, fun _ => by rw [hemas]⟩
        ⟨fun endpointId entry hentry => ?_, fun _ => Or.inl ?_⟩
      · rw [hdetails, hnil, hnone]
        rfl
      · rw [hnone] at hentry
        cases hentry
      · rw [h.off hon]
        exact Nat.zero_le 1
  | true =>
      have hloop := reload_loop hon reloadedAt (savedOf cache) (distinct_saved cache) hapart
      rw [← hdetails] at hloop
      have hfits := reload_fits_start cfg cache.details.entries h.count
      constructor
      · intro hsurvives
        have hback (endpointId : EndpointId) (entry : CachedEntry α)
            (hentry : cache.details.get? endpointId = some entry) :
            (loadFromDisk cfg reloadedAt {} (saveToDisk cache)).details.get? endpointId ≠
              none := by
          intro hnone
          have hsame := hsurvives.entries endpointId
          rw [hnone, hentry] at hsame
          cases hsame
        have hlive : ∀ endpointId entry, cache.details.get? endpointId = some entry →
            entry.fromDisk = false := by
          intro endpointId entry hentry
          by_contra hdisk
          rw [Bool.not_eq_false] at hdisk
          refine hback endpointId entry hentry ?_
          rw [hdetails]
          refine load_entries_absent (fun hmem => ?_) rfl
          -- the id is cached with this entry only, and that one is not saved
          rw [List.map_map] at hmem
          obtain ⟨saved, hsaved, hid⟩ := List.mem_map.mp hmem
          obtain ⟨hcached, hkept⟩ := List.mem_filter.mp hsaved
          have hsame := Dict.get?_eq_some_iff.mpr hcached
          have hid' : saved.1 = endpointId := hid
          rw [hid', hentry] at hsame
          cases hsame
          rw [hdisk] at hkept
          cases hkept
        refine ⟨hlive, ?_⟩
        rw [saved_of_live hlive] at hloop
        by_contra hnot
        obtain ⟨lostId, hmem, hlost⟩ := hloop.2 fun hall => hnot (hfits.mp hall)
        obtain ⟨entry, hentry⟩ := Dict.mem_keys_iff.mp (hmem : lostId ∈ cache.details.keys)
        exact hback lostId entry hentry hlost
      · intro hall
        rw [saved_of_live hall.live] at hloop
        have hentries := hloop.1 (hfits.mpr hall.fits)
        have hmapped : (loadFromDisk cfg reloadedAt {} (saveToDisk cache)).details =
            cache.details.mapValues reloadedOf := Dict.ext_entries hentries
        refine ⟨fun endpointId => ?_, fun _ => by rw [hemas]⟩
        rw [hmapped, Dict.get?_mapValues]
        cases cache.details.get? endpointId <;> rfl

/-- Whatever file the portal starts with and whatever it caches, drops and marks afterwards: the
next start finds all of it exactly when nothing in the cache is still what was loaded at the start
and the stale copies fit within the memory limit. -/
theorem restart_survives_iff (cfg : CacheSettings) (startedAt reloadedAt : Time)
    (file : DiskFile α) (calls : List (LiveCall α)) :
    Survives (afterStart cfg startedAt file calls)
        (loadFromDisk cfg reloadedAt {} (saveToDisk (afterStart cfg startedAt file calls))) ↔
      SavesAll cfg (afterStart cfg startedAt file calls) :=
  survives_iff (bounded_after_start cfg startedAt file calls) reloadedAt

end EndpointCache

section Examples

open EndpointCache

local instance restartText : PyText := asciiText

local instance restartCodec : DetailCodec := plainJson

/-- A file with one endpoint, saved at 500. -/
def oneSaved : DiskFile EndpointDetail :=
  .payload { version := 5, entries := some [("ep-1",
    { value := some { id := "ep-1", name := "AA:BB:CC:00:00:01" }, fetchedAt := some 500 })] }

/-- Started and stopped again before anything is read from ISE: the endpoint is gone. -/
theorem restart_empties_file :
    ¬ Survives (afterStart {} 1000 oneSaved [])
      (loadFromDisk {} 2000 {} (saveToDisk (afterStart {} 1000 oneSaved []))) := by
  intro h
  have hcached : ((afterStart {} 1000 oneSaved []).details.get? "ep-1").isSome = true := by
    decide
  have hgone : (loadFromDisk {} 2000 {} (saveToDisk
      (afterStart {} 1000 oneSaved []))).details.get? "ep-1" = none := by
    decide
  obtain ⟨entry, hentry⟩ := Option.isSome_iff_exists.mp hcached
  have hsame := h.entries "ep-1"
  rw [hgone, hentry] at hsame
  cases hsame

end Examples

end IsePortal
