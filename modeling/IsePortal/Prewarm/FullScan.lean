import IsePortal.Cache.EndpointCache
import IsePortal.Prewarm.FirstSeenStore

/-!
# The full scan

`_fetch_all_ids` and the step of `_full_scan` that drops what was deleted in ISE
(`app/services/cache_prewarm.py`). The scan reads ISE's endpoint list page by page; between
two page calls the list may change, so every call carries the complete list ISE had at that
moment next to what the call returned. `full_scan_never_deletes_live_iff` says for which
page results the deletion step only drops endpoints that ISE's list had lost.
-/

namespace IsePortal

open Library

/-! ## Reading the pages -/

/-- One call of `list_page`: the complete list ISE had at that moment, and what the call
returned, the `id` fields of the page (`""` where the field is missing) and the total. `none`
is a call that raised. -/
structure PageCall where
  listing : List EndpointId
  result : Option (List EndpointId × Int)
  deriving DecidableEq

/-- `_fetch_all_ids` from one page on. `calls page` is the call made for that page; the loop
has no bound of its own, so a scan that never meets an exit runs out of `fuel`. -/
def fetchAllIds (calls : Nat → PageCall) :
    Nat → Nat → List EndpointId → Option (List EndpointId)
  | 0, _, _ => none
  | fuel + 1, page, allIds =>
      match (calls page).result with
      -- the exception is logged and the loop left with what was read so far
      | none => some allIds
      | some (resources, total) =>
          let allIds := allIds ++ resources.filter (· ≠ "")
          if (allIds.length : Int) ≥ total ∨ resources = [] then some allIds
          else fetchAllIds calls fuel (page + 1) allIds

/-- The ids on the page a call returned. -/
def idsOn (call : PageCall) : List EndpointId :=
  match call.result with
  | none => []
  | some (resources, _) => resources.filter (· ≠ "")

/-- The ids on the first `pages` pages. -/
def idsRead (calls : Nat → PageCall) (pages : Nat) : List EndpointId :=
  (List.range pages).flatMap fun page => idsOn (calls (page + 1))

/-- A page after which no further page is asked for. -/
def StopsAt (calls : Nat → PageCall) (page : Nat) : Prop :=
  match (calls page).result with
  | none => True
  | some (resources, total) => ((idsRead calls page).length : Int) ≥ total ∨ resources = []

/-- The first page after which no further page is asked for. -/
structure LastPage (calls : Nat → PageCall) (page : Nat) : Prop where
  pos : 0 < page
  stops : StopsAt calls page
  earlier : ∀ other, 0 < other → other < page → ¬ StopsAt calls other

theorem idsRead_succ (calls : Nat → PageCall) (pages : Nat) :
    idsRead calls (pages + 1) = idsRead calls pages ++ idsOn (calls (pages + 1)) := by
  simp [idsRead, List.range_succ]

/-- One pass of the loop: it ends with the ids read when the page stops it, and goes on with
them otherwise. -/
theorem fetchAllIds_step (calls : Nat → PageCall) (fuel page : Nat) :
    (StopsAt calls (page + 1) →
      fetchAllIds calls (fuel + 1) (page + 1) (idsRead calls page) =
        some (idsRead calls (page + 1))) ∧
    (¬ StopsAt calls (page + 1) →
      fetchAllIds calls (fuel + 1) (page + 1) (idsRead calls page) =
        fetchAllIds calls fuel (page + 2) (idsRead calls (page + 1))) := by
  have hsucc := idsRead_succ calls page
  cases hresult : (calls (page + 1)).result with
  | none =>
      have hon : idsOn (calls (page + 1)) = [] := by simp [idsOn, hresult]
      have hread : idsRead calls (page + 1) = idsRead calls page := by simp [hsucc, hon]
      have hstops : StopsAt calls (page + 1) := by simp [StopsAt, hresult]
      refine ⟨fun _ => ?_, fun hgoes => absurd hstops hgoes⟩
      simp only [fetchAllIds, hresult, hread]
  | some answer =>
      obtain ⟨resources, total⟩ := answer
      have hon : idsOn (calls (page + 1)) = resources.filter (· ≠ "") := by
        simp [idsOn, hresult]
      have hstops : StopsAt calls (page + 1) ↔
          ((idsRead calls (page + 1)).length : Int) ≥ total ∨ resources = [] := by
        simp only [StopsAt, hresult]
      rw [fetchAllIds, hresult, hstops]
      dsimp only
      rw [← hon, ← hsucc]
      exact ⟨fun hstop => if_pos hstop, fun hgoes => if_neg hgoes⟩

/-- From any page up to the last one, the loop returns the ids of all pages read. -/
theorem fetchAllIds_from {calls : Nat → PageCall} {last : Nat} (hlast : LastPage calls last)
    (left : Nat) : ∀ fuel page, page + 1 + left = last → left < fuel →
      fetchAllIds calls fuel (page + 1) (idsRead calls page) = some (idsRead calls last) := by
  induction left with
  | zero =>
      intro fuel page hpage hfuel
      obtain ⟨fuel, rfl⟩ := Nat.exists_eq_succ_of_ne_zero (show fuel ≠ 0 by omega)
      obtain rfl : page + 1 = last := by omega
      exact (fetchAllIds_step calls fuel page).1 hlast.stops
  | succ left ih =>
      intro fuel page hpage hfuel
      obtain ⟨fuel, rfl⟩ := Nat.exists_eq_succ_of_ne_zero (show fuel ≠ 0 by omega)
      have hgoes : ¬ StopsAt calls (page + 1) := hlast.earlier _ (by omega) (by omega)
      rw [Nat.succ_eq_add_one, (fetchAllIds_step calls fuel page).2 hgoes]
      exact ih fuel (page + 1) (by omega) (by omega)

/-- The loop returns the ids of the pages up to the last one. -/
theorem fetchAllIds_eq {calls : Nat → PageCall} {last fuel : Nat} (hlast : LastPage calls last)
    (hfuel : last ≤ fuel) : fetchAllIds calls fuel 1 [] = some (idsRead calls last) := by
  have hpos := hlast.pos
  exact fetchAllIds_from hlast (last - 1) fuel 0 (by omega) (by omega)

/-- Without a page that stops it, the loop never returns. -/
theorem fetchAllIds_endless {calls : Nat → PageCall}
    (hgoes : ∀ page, 0 < page → ¬ StopsAt calls page) (fuel page : Nat) :
    fetchAllIds calls fuel (page + 1) (idsRead calls page) = none := by
  induction fuel generalizing page with
  | zero => rfl
  | succ fuel ih =>
      rw [(fetchAllIds_step calls fuel page).2 (hgoes (page + 1) (by omega))]
      exact ih (page + 1)

/-! ## Dropping what was deleted in ISE -/

section Deletion

variable [PyText] [DetailCodec]

/-- What the deletion step changes. -/
structure ScanState where
  cache : EndpointCache EndpointDetail := {}
  firstSeen : FirstSeenStore := Dict.empty

/-- The MAC the deletion step derives from a cached value: its `mac`, else its `name`. -/
def macOf (detail : EndpointDetail) : String :=
  if detail.mac ≠ "" then detail.mac else detail.name

/-- One pass of the deletion loop. `clock` gives the time of each pass. -/
def dropDeleted (clock : EndpointId → Time) (state : ScanState) (epId : EndpointId) :
    ScanState where
  firstSeen :=
    match state.cache.details.get? epId with
    | none => state.firstSeen
    | some entry =>
        if macOf entry.value ≠ "" then
          FirstSeenStore.delete (clock epId) state.firstSeen (macOf entry.value)
        else state.firstSeen
  cache := (state.cache.invalidateDetail epId).forgetTierEma epId

/-- The cached ids that are not in the list; Python gives the difference of the two sets no
order. -/
def deletedIds (cache : EndpointCache EndpointDetail) (allIds : List EndpointId) :
    List EndpointId :=
  cache.details.keys.filter (· ∉ allIds)

/-- The ids are read, and the cached ones that were not read are dropped. -/
def fullScan (calls : Nat → PageCall) (fuel : Nat) (clock : EndpointId → Time)
    (state : ScanState) : Option ScanState :=
  (fetchAllIds calls fuel 1 []).map fun allIds =>
    (deletedIds state.cache allIds).foldl (dropDeleted clock) state

/-! ## What one pass and the whole loop change -/

/-- The row of the first-seen store a cached value answers for, `""` where it has none. -/
def rowOf (detail : EndpointDetail) : String :=
  if macOf detail ≠ "" then FirstSeenStore.macKey (macOf detail) else ""

theorem details_dropDeleted (clock : EndpointId → Time) (state : ScanState)
    (epId id : EndpointId) :
    (dropDeleted clock state epId).cache.details.get? id =
      if id = epId then none else state.cache.details.get? id := by
  show (state.cache.invalidateDetail epId).details.get? id = _
  unfold EndpointCache.invalidateDetail
  cases hentry : state.cache.details.get? epId with
  | none =>
      by_cases hid : id = epId
      · simp [hid, hentry]
      · simp [hid]
  | some entry => exact Dict.get?_erase ..

theorem tierEmas_dropDeleted (clock : EndpointId → Time) (state : ScanState)
    (epId id : EndpointId) :
    (dropDeleted clock state epId).cache.tierEmas.get? id =
      if id = epId then none else state.cache.tierEmas.get? id := by
  show ((state.cache.invalidateDetail epId).tierEmas.erase epId).get? id = _
  rw [Dict.get?_erase]
  by_cases hid : id = epId
  · simp [hid]
  · unfold EndpointCache.invalidateDetail
    cases state.cache.details.get? epId with
    | none => rfl
    | some entry => simp [hid, Dict.get?_set]

theorem live_dropDeleted (clock : EndpointId → Time) (state : ScanState) (epId : EndpointId)
    (key : String) :
    FirstSeenStore.Live (dropDeleted clock state epId).firstSeen key ↔
      FirstSeenStore.Live state.firstSeen key ∧
        (key = "" ∨ ∀ entry, state.cache.details.get? epId = some entry →
          rowOf entry.value ≠ key) := by
  unfold dropDeleted
  cases hentry : state.cache.details.get? epId with
  | none => simp
  | some entry =>
      simp only [Option.some.injEq, forall_eq']
      by_cases hmac : macOf entry.value = ""
      · have hrow : rowOf entry.value = "" := by simp [rowOf, hmac]
        rw [if_neg (by simpa using hmac), hrow]
        have hany : key = "" ∨ "" ≠ key := (Classical.em (key = "")).imp_right Ne.symm
        exact (and_iff_left hany).symm
      · have hrow : rowOf entry.value = FirstSeenStore.macKey (macOf entry.value) := by
          simp [rowOf, hmac]
        rw [if_pos hmac, hrow, FirstSeenStore.live_delete, ne_comm]

/-- The loop drops the entries of its ids and no others. -/
theorem details_foldl_dropDeleted (clock : EndpointId → Time) (ids : List EndpointId)
    (state : ScanState) (id : EndpointId) :
    (ids.foldl (dropDeleted clock) state).cache.details.get? id =
      if id ∈ ids then none else state.cache.details.get? id := by
  induction ids generalizing state with
  | nil => simp
  | cons epId rest ih =>
      rw [List.foldl_cons, ih, details_dropDeleted]
      by_cases hid : id = epId <;> simp [hid]

/-- The loop drops the tier EMAs of its ids and no others. -/
theorem tierEmas_foldl_dropDeleted (clock : EndpointId → Time) (ids : List EndpointId)
    (state : ScanState) (id : EndpointId) :
    (ids.foldl (dropDeleted clock) state).cache.tierEmas.get? id =
      if id ∈ ids then none else state.cache.tierEmas.get? id := by
  induction ids generalizing state with
  | nil => simp
  | cons epId rest ih =>
      rw [List.foldl_cons, ih, tierEmas_dropDeleted]
      by_cases hid : id = epId <;> simp [hid]

/-- The loop stamps the rows its ids answer for and no others. -/
theorem live_foldl_dropDeleted (clock : EndpointId → Time) (ids : List EndpointId)
    (state : ScanState) (key : String) :
    FirstSeenStore.Live (ids.foldl (dropDeleted clock) state).firstSeen key ↔
      FirstSeenStore.Live state.firstSeen key ∧
        (key = "" ∨ ∀ id ∈ ids, ∀ entry, state.cache.details.get? id = some entry →
          rowOf entry.value ≠ key) := by
  induction ids generalizing state with
  | nil => simp
  | cons epId rest ih =>
      rw [List.foldl_cons, ih, live_dropDeleted]
      by_cases hkey : key = ""
      · simp [hkey]
      · simp only [hkey, false_or, List.forall_mem_cons, and_assoc, and_congr_right_iff]
        intro _ hfirst
        constructor
        · -- the first pass may have dropped the entry the later ones look at
          intro hrest id hid entry hentry
          by_cases hsame : id = epId
          · exact hfirst entry (hsame ▸ hentry)
          · refine hrest id hid entry ?_
            rw [details_dropDeleted, if_neg hsame]
            exact hentry
        · intro hrest id hid entry hentry
          rw [details_dropDeleted] at hentry
          by_cases hsame : id = epId
          · simp [hsame] at hentry
          · rw [if_neg hsame] at hentry
            exact hrest id hid entry hentry

/-! ## Live endpoints -/

/-- One of the page calls made up to `last` meets the condition. -/
def SomeCall (calls : Nat → PageCall) (last : Nat) (P : PageCall → Prop) : Prop :=
  ∃ page, 0 < page ∧ page ≤ last ∧ P (calls page)

/-- The scan took from a cached endpoint its entry, its tier EMA or its first-seen row. -/
def Lost (before after : ScanState) (id : EndpointId) (entry : CachedEntry EndpointDetail) :
    Prop :=
  after.cache.details.get? id = none ∨
    (before.cache.tierEmas.get? id ≠ none ∧ after.cache.tierEmas.get? id = none) ∨
      (FirstSeenStore.Live before.firstSeen (rowOf entry.value) ∧
        ¬ FirstSeenStore.Live after.firstSeen (rowOf entry.value))

/-- No entry, no tier EMA and no first-seen row was removed. -/
structure NothingRemoved (before after : ScanState) : Prop where
  entries : ∀ id, before.cache.details.get? id ≠ none → after.cache.details.get? id ≠ none
  emas : ∀ id, before.cache.tierEmas.get? id ≠ none → after.cache.tierEmas.get? id ≠ none
  rows : ∀ key, FirstSeenStore.Live before.firstSeen key →
    FirstSeenStore.Live after.firstSeen key

/-- The scan only takes something from cached endpoints that a complete list of ISE lacked
at one of its page calls, and nothing at all when a page call raised. -/
structure NeverDeletesLive (calls : Nat → PageCall) (last : Nat) (before after : ScanState) :
    Prop where
  absent : ∀ id entry, before.cache.details.get? id = some entry → Lost before after id entry →
    SomeCall calls last fun call => id ∉ call.listing
  failed : (SomeCall calls last fun call => call.result = none) → NothingRemoved before after

/-- The row of a cached endpoint is also the row of a cached endpoint on none of the pages. -/
def SharesRow (calls : Nat → PageCall) (last : Nat) (state : ScanState)
    (entry : CachedEntry EndpointDetail) : Prop :=
  FirstSeenStore.Live state.firstSeen (rowOf entry.value) ∧ rowOf entry.value ≠ "" ∧
    ∃ other otherEntry, state.cache.details.get? other = some otherEntry ∧
      other ∉ idsRead calls last ∧ rowOf otherEntry.value = rowOf entry.value

/-- The page results the deletion step is right for: every cached endpoint is on one of the
pages; or no call raised, and every cached endpoint that is on none of the pages, or shares
its row with one that is, was missing from ISE's complete list at one of the calls. -/
def Accurate (calls : Nat → PageCall) (last : Nat) (state : ScanState) : Prop :=
  (∀ id ∈ state.cache.details.keys, id ∈ idsRead calls last) ∨
    ((¬ SomeCall calls last fun call => call.result = none) ∧
      ∀ id entry, state.cache.details.get? id = some entry →
        id ∉ idsRead calls last ∨ SharesRow calls last state entry →
          SomeCall calls last fun call => id ∉ call.listing)

/-- What the scan leaves behind. -/
def afterScan (calls : Nat → PageCall) (last : Nat) (clock : EndpointId → Time)
    (state : ScanState) : ScanState :=
  (deletedIds state.cache (idsRead calls last)).foldl (dropDeleted clock) state

theorem fullScan_eq {calls : Nat → PageCall} {last fuel : Nat} (hlast : LastPage calls last)
    (hfuel : last ≤ fuel) (clock : EndpointId → Time) (state : ScanState) :
    fullScan calls fuel clock state = some (afterScan calls last clock state) := by
  rw [fullScan, fetchAllIds_eq hlast hfuel]
  rfl

omit [PyText] [DetailCodec] in
theorem mem_deletedIds {cache : EndpointCache EndpointDetail} {allIds : List EndpointId}
    {id : EndpointId} :
    id ∈ deletedIds cache allIds ↔ id ∉ allIds ∧ ∃ entry, cache.details.get? id = some entry := by
  simp [deletedIds, Dict.mem_keys_iff, and_comm]

/-- A cached endpoint loses something exactly when it is on none of the pages or shares its
row with one that is. -/
theorem lost_afterScan (calls : Nat → PageCall) (last : Nat) (clock : EndpointId → Time)
    (state : ScanState) {id : EndpointId} {entry : CachedEntry EndpointDetail}
    (hentry : state.cache.details.get? id = some entry) :
    Lost state (afterScan calls last clock state) id entry ↔
      id ∉ idsRead calls last ∨ SharesRow calls last state entry := by
  have hdeleted : id ∈ deletedIds state.cache (idsRead calls last) ↔ id ∉ idsRead calls last := by
    simp [mem_deletedIds, hentry]
  unfold Lost afterScan
  rw [details_foldl_dropDeleted, tierEmas_foldl_dropDeleted, live_foldl_dropDeleted]
  simp only [hdeleted]
  constructor
  · intro hlost
    -- entry, tier EMA or row
    obtain hgone | ⟨hknown, hgone⟩ | ⟨hlive, hgone⟩ := hlost
    · by_cases hread : id ∈ idsRead calls last
      · simp [hread, hentry] at hgone
      · exact Or.inl hread
    · by_cases hread : id ∈ idsRead calls last
      · simp only [hread, not_true_eq_false, ↓reduceIte] at hgone
        exact absurd hgone hknown
      · exact Or.inl hread
    · right
      simp only [hlive, true_and, not_or, not_forall, ne_eq, not_not] at hgone
      obtain ⟨hkey, other, hother, otherEntry, hcached, hrow⟩ := hgone
      exact ⟨hlive, hkey, other, otherEntry, hcached, (mem_deletedIds.mp hother).1, hrow⟩
  · intro hcase
    obtain hread | ⟨hlive, hkey, other, otherEntry, hcached, hread, hrow⟩ := hcase
    · exact Or.inl (if_pos hread)
    · refine Or.inr (Or.inr ⟨hlive, fun hkept => ?_⟩)
      obtain hempty | hother := hkept.2
      · exact hkey hempty
      · exact hother other (mem_deletedIds.mpr ⟨hread, otherEntry, hcached⟩) otherEntry hcached hrow

/-- Nothing is removed exactly when every cached endpoint is on one of the pages. -/
theorem nothingRemoved_afterScan (calls : Nat → PageCall) (last : Nat)
    (clock : EndpointId → Time) (state : ScanState) :
    NothingRemoved state (afterScan calls last clock state) ↔
      ∀ id ∈ state.cache.details.keys, id ∈ idsRead calls last := by
  constructor
  · intro hkept id hid
    obtain ⟨entry, hentry⟩ := Dict.mem_keys_iff.mp hid
    have hstays := hkept.entries id (by simp [hentry])
    by_contra hread
    refine hstays ?_
    rw [afterScan, details_foldl_dropDeleted, if_pos (mem_deletedIds.mpr ⟨hread, entry, hentry⟩)]
  · intro hread
    have hnone : deletedIds state.cache (idsRead calls last) = [] :=
      List.filter_eq_nil_iff.mpr fun id hid => by simp [hread id hid]
    have hsame : afterScan calls last clock state = state := by simp [afterScan, hnone]
    rw [hsame]
    exact ⟨fun _ h => h, fun _ h => h, fun _ h => h⟩

/-- A scan that reaches its last page ends, and it only drops endpoints ISE's list had lost
exactly for the accurate page results. -/
theorem full_scan_never_deletes_live_iff (calls : Nat → PageCall) (last fuel : Nat)
    (clock : EndpointId → Time) (before : ScanState) (hlast : LastPage calls last)
    (hfuel : last ≤ fuel) :
    ∃ after, fullScan calls fuel clock before = some after ∧
      (NeverDeletesLive calls last before after ↔ Accurate calls last before) := by
  refine ⟨afterScan calls last clock before, fullScan_eq hlast hfuel clock before, ?_⟩
  constructor
  · intro hsafe
    by_cases hfailed : SomeCall calls last fun call => call.result = none
    · exact Or.inl ((nothingRemoved_afterScan calls last clock before).mp (hsafe.failed hfailed))
    · refine Or.inr ⟨hfailed, fun id entry hentry hcase => ?_⟩
      exact hsafe.absent id entry hentry ((lost_afterScan calls last clock before hentry).mpr hcase)
  · intro haccurate
    refine ⟨fun id entry hentry hlost => ?_, fun hfailed => ?_⟩
    · have hcase := (lost_afterScan calls last clock before hentry).mp hlost
      obtain hread | ⟨-, habsent⟩ := haccurate
      · -- every cached endpoint was read, so no row is shared with one that was not
        obtain hmissed | ⟨-, -, other, otherEntry, hcached, hmissed, -⟩ := hcase
        · exact absurd (hread id (Dict.mem_keys_iff.mpr ⟨entry, hentry⟩)) hmissed
        · exact absurd (hread other (Dict.mem_keys_iff.mpr ⟨otherEntry, hcached⟩)) hmissed
      · exact habsent id entry hentry hcase
    · obtain hread | ⟨hnone, -⟩ := haccurate
      · exact (nothingRemoved_afterScan calls last clock before).mpr hread
      · exact absurd hfailed hnone

end Deletion

section Interrupted

local instance interruptedText : PyText := asciiText

local instance interruptedCodec : DetailCodec where
  jsonSize _ := 900
  jsonDigest detail := detail.mac

/-- Two pages of one endpoint each: the first arrives, the call for the second raises, and
ISE's complete list holds both endpoints all along. -/
def interruptedCalls (page : Nat) : PageCall where
  listing := ["id-1", "id-2"]
  result := if page = 1 then some (["id-1"], 2) else none

/-- Both endpoints are cached, and both have their first-seen row. -/
def interruptedState : ScanState where
  cache :=
    ((({} : EndpointCache EndpointDetail).putDetail {} 10 "id-1"
      { id := "id-1", name := "AA:BB:CC:00:00:01" } false).putDetail {} 20 "id-2"
      { id := "id-2", name := "AA:BB:CC:00:00:02" } false)
  firstSeen :=
    (((Dict.empty : FirstSeenStore).set "AA:BB:CC:00:00:01" { firstSeenAt := 10 }).set
      "AA:BB:CC:00:00:02" { firstSeenAt := 20 })

theorem interruptedCalls_last : LastPage interruptedCalls 2 where
  pos := by decide
  stops := trivial
  earlier other hpos hother := by
    obtain rfl : other = 1 := by omega
    simp [StopsAt, interruptedCalls, idsRead, idsOn]

theorem full_scan_never_deletes_live_interrupted :
    LastPage interruptedCalls 2 ∧
      ∃ after, fullScan interruptedCalls 2 (fun _ => 30) interruptedState = some after ∧
        (NeverDeletesLive interruptedCalls 2 interruptedState after ↔
          Accurate interruptedCalls 2 interruptedState) :=
  ⟨interruptedCalls_last,
    full_scan_never_deletes_live_iff interruptedCalls 2 2 (fun _ => 30) interruptedState
      interruptedCalls_last (by decide)⟩

/-- The second page's exception makes the scan drop an endpoint that ISE still lists. -/
theorem full_scan_deletes_live :
    ∃ after, fullScan interruptedCalls 2 (fun _ => 30) interruptedState = some after ∧
      "id-2" ∈ (interruptedCalls 1).listing ∧ "id-2" ∈ (interruptedCalls 2).listing ∧
        after.cache.details.get? "id-2" = none ∧
          ¬ FirstSeenStore.Live after.firstSeen "AA:BB:CC:00:00:02" ∧
            ¬ NeverDeletesLive interruptedCalls 2 interruptedState after := by
  have hunread : "id-2" ∉ idsRead interruptedCalls 2 := by decide
  have hcached : "id-2" ∈ interruptedState.cache.details.keys := by decide
  have hgone : "id-2" ∈ deletedIds interruptedState.cache (idsRead interruptedCalls 2) :=
    mem_deletedIds.mpr ⟨hunread, Dict.mem_keys_iff.mp hcached⟩
  refine ⟨afterScan interruptedCalls 2 (fun _ => 30) interruptedState,
    fullScan_eq interruptedCalls_last (by decide) _ _, by decide, by decide, ?_, ?_, ?_⟩
  · rw [afterScan, details_foldl_dropDeleted, if_pos hgone]
  · intro hlive
    rw [afterScan, live_foldl_dropDeleted] at hlive
    obtain hempty | hrow := hlive.2
    · exact absurd hempty (by decide)
    · obtain ⟨entry, hentry⟩ := Dict.mem_keys_iff.mp hcached
      refine hrow "id-2" hgone entry hentry ?_
      have hvalue : (interruptedState.cache.details.get? "id-2").map (fun e => rowOf e.value) =
          some "AA:BB:CC:00:00:02" := by decide
      simpa [hentry] using hvalue
  · intro hsafe
    have hfailed : SomeCall interruptedCalls 2 fun call => call.result = none :=
      ⟨2, by decide, by decide, rfl⟩
    have hread := (nothingRemoved_afterScan _ _ _ _).mp (hsafe.failed hfailed)
    exact hunread (hread "id-2" hcached)

end Interrupted

/-! ## A list that stands still -/

/-- Page `page` of a list in pages of a hundred, with the length of the list as total. -/
def stablePages (listing : List EndpointId) (page : Nat) : PageCall where
  listing := listing
  result := some ((listing.drop (100 * (page - 1))).take 100, listing.length)

/-- The first pages hold the beginning of the list. -/
theorem idsRead_stablePages {listing : List EndpointId} (hids : ∀ id ∈ listing, id ≠ "")
    (pages : Nat) : idsRead (stablePages listing) pages = listing.take (100 * pages) := by
  induction pages with
  | zero => simp [idsRead]
  | succ pages ih =>
      have hpage : idsOn (stablePages listing (pages + 1)) =
          (listing.drop (100 * pages)).take 100 := by
        refine List.filter_eq_self.mpr fun id hid => ?_
        have hmem := List.mem_of_mem_drop (List.mem_of_mem_take hid)
        simpa using hids id hmem
      rw [idsRead_succ, ih, hpage, ← List.take_add, Nat.mul_succ]

/-- The scan of a list that stands still and raises nothing reads the whole list. -/
theorem exists_last_stablePages {listing : List EndpointId} (hids : ∀ id ∈ listing, id ≠ "") :
    ∃ last ≤ listing.length / 100 + 1, LastPage (stablePages listing) last ∧
      idsRead (stablePages listing) last = listing := by
  have hstops (page : Nat) (hpos : 0 < page) :
      StopsAt (stablePages listing) page ↔ listing.length ≤ 100 * page := by
    have hread := idsRead_stablePages hids page
    simp only [StopsAt, stablePages] at hread ⊢
    simp only [hread, List.length_take]
    constructor
    · intro h
      obtain hcount | hempty := h
      · omega
      · have hlen := congrArg List.length hempty
        simp only [List.length_take, List.length_drop, List.length_nil] at hlen
        omega
    · intro h
      left
      omega
  refine ⟨(listing.length - 1) / 100 + 1, by omega, ⟨by omega, ?_, ?_⟩, ?_⟩
  · rw [hstops _ (by omega)]
    omega
  · intro other hpos hother
    rw [hstops _ hpos]
    omega
  · rw [idsRead_stablePages hids]
    exact List.take_of_length_le (by omega)

/-- A scan of a list that stands still ends. It leaves the cached endpoints that are in ISE, and
stamps the rows of the others and no more. -/
theorem full_scan_of_stable [PyText] [DetailCodec] {listing : List EndpointId}
    (hids : ∀ id ∈ listing, id ≠ "") {fuel : Nat} (hfuel : listing.length / 100 + 1 ≤ fuel)
    (clock : EndpointId → Time) (before : ScanState) :
    ∃ after, fullScan (stablePages listing) fuel clock before = some after ∧
      (∀ id, after.cache.details.get? id =
        if id ∈ listing then before.cache.details.get? id else none) ∧
      ∀ key ≠ "", FirstSeenStore.Live after.firstSeen key ↔
        FirstSeenStore.Live before.firstSeen key ∧
          ∀ id ∉ listing, ∀ entry, before.cache.details.get? id = some entry →
            rowOf entry.value ≠ key := by
  obtain ⟨last, hle, hlast, hread⟩ := exists_last_stablePages hids
  refine ⟨_, fullScan_eq hlast (hle.trans hfuel) clock before, fun id => ?_, fun key hkey => ?_⟩
  · rw [afterScan, details_foldl_dropDeleted, hread]
    by_cases hid : id ∈ listing
    · rw [if_pos hid, if_neg fun hgone => (mem_deletedIds.mp hgone).1 hid]
    · rw [if_neg hid, ite_eq_left_iff]
      intro hkept
      by_contra hcached
      exact hkept (mem_deletedIds.mpr ⟨hid, Option.ne_none_iff_exists'.mp hcached⟩)
  · rw [afterScan, live_foldl_dropDeleted, hread, or_iff_right hkey]
    refine and_congr_right fun _ => ⟨fun h id hid entry hentry => ?_, fun h id hid => ?_⟩
    · exact h id (mem_deletedIds.mpr ⟨hid, entry, hentry⟩) entry hentry
    · exact h id (mem_deletedIds.mp hid).1

/-- A list of one page. -/
theorem full_scan_of_stable_page :
    ∃ after, @fullScan interruptedText interruptedCodec (stablePages ["id-1"]) 1 (fun _ => 30)
      interruptedState = some after ∧ after.cache.details.get? "id-2" = none := by
  obtain ⟨after, hscan, hcached, -⟩ := @full_scan_of_stable interruptedText interruptedCodec
    ["id-1"] (by decide) 1 (by decide) (fun _ => 30) interruptedState
  exact ⟨after, hscan, hcached "id-2"⟩

end IsePortal
