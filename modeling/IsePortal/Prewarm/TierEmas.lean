import IsePortal.Cache.LiveEntries
import IsePortal.Library.Runs
import IsePortal.Prewarm.FullScan
import Mathlib.Tactic.Linarith
import Mathlib.Tactic.NormNum

/-!
# The life cycle of the change EMA

The EMA of an endpoint lives in its entry while it is cached and in `_tier_emas` afterwards.
`exits` and `starts` are kept for the statements only: with which EMA an endpoint left the cache,
changed by every `mark_changed` since, and with which it started again. An invalidation saves the
EMA (`Remembers`); an eviction does not, a scan forgets it, and a load takes the EMA of the file.
`delete_endpoint` saves the EMA of an endpoint that no scan will look at again.
-/

namespace IsePortal

open Library EndpointCache

/-- The EMA an endpoint left the cache with, and whether it left by an invalidation. -/
structure EmaExit where
  ema : Rat
  invalidated : Bool

/-- The cache, how the endpoints that are not cached have left it, the EMAs endpoints left and
started again with, and the list of the last full scan while it is the last thing that happened,
its own fetches apart. -/
structure EmaRun where
  cache : EndpointCache EndpointDetail := {}
  exits : EndpointId → Option EmaExit := fun _ => none
  starts : List (Rat × Rat) := []
  scanned : Option (List EndpointId) := none

/-- The operations that touch an EMA. -/
inductive EmaOp where
  | putDetail (cfg : CacheSettings) (now : Time) (endpointId : EndpointId)
      (value : EndpointDetail) (fromDisk : Bool)
  | markChanged (endpointId : EndpointId)
  | invalidateDetail (endpointId : EndpointId)
  | invalidateAll
  | evictOldest
  | loadFromDisk (cfg : CacheSettings) (now : Time) (file : DiskFile EndpointDetail)
  | deleteEndpoint (endpointId : EndpointId)
  | fullScan (clock : EndpointId → Time) (allIds : List EndpointId)

namespace EmaRun

variable [PyText] [DetailCodec]

/-! ## Steps -/

/-- How endpoints have left once the cache is the next one. -/
def exitsTo (state : EmaRun) (invalidated : Bool) (next : EndpointCache EndpointDetail) :
    EndpointId → Option EmaExit := fun endpointId =>
  match next.details.get? endpointId, state.cache.details.get? endpointId with
  | some _, _ => none
  | none, some entry => some { ema := entry.changeEma, invalidated := invalidated }
  | none, none => state.exits endpointId

/-- An endpoint that had left starts again in the next cache. -/
def startsTo (state : EmaRun) (endpointId : EndpointId) (next : EndpointCache EndpointDetail) :
    List (Rat × Rat) :=
  match state.exits endpointId, next.details.get? endpointId with
  | some exit, some entry => (exit.ema, entry.changeEma) :: state.starts
  | _, _ => state.starts

/-- The next cache, in which one endpoint may have been stored. -/
def store (state : EmaRun) (endpointId : EndpointId) (next : EndpointCache EndpointDetail) :
    EmaRun :=
  { state with
    cache := next
    exits := state.exitsTo false next
    starts := state.startsTo endpointId next }

/-- The next cache, in which nothing has been stored. -/
def drop (state : EmaRun) (invalidated : Bool) (next : EndpointCache EndpointDetail) : EmaRun :=
  { state with cache := next, exits := state.exitsTo invalidated next, scanned := none }

/-- `mark_changed` -/
def markChanged (state : EmaRun) (endpointId : EndpointId) : EmaRun :=
  { state with
    cache := state.cache.markChanged endpointId
    exits := fun other =>
      if other = endpointId then
        (state.exits other).map fun exit =>
          { exit with ema := emaAlpha * 1 + (1 - emaAlpha) * exit.ema }
      else state.exits other
    scanned := none }

/-- One pass of the entry loop of `load_from_disk`. -/
def loadEntry (cfg : CacheSettings) (now : Time) (state : EmaRun)
    (entry : EndpointId × DiskEntry EndpointDetail) : EmaRun :=
  state.store entry.1 (EndpointCache.loadEntry cfg now state.cache entry.1 entry.2)

/-- `load_from_disk`, without the groups. -/
def loadFromDisk (cfg : CacheSettings) (now : Time) (state : EmaRun)
    (file : DiskFile EndpointDetail) : EmaRun :=
  (entriesRead state.cache file).foldl (loadEntry cfg now)
    { state with
      cache := (restoreTierEmas (savedEmas file) state.cache).1
      scanned := none }

/-- The step of `_full_scan` that drops what was deleted in ISE, after the list has been read. What
it drops has left for good. -/
def fullScan (clock : EndpointId → Time) (state : EmaRun) (allIds : List EndpointId) : EmaRun :=
  let deleted := deletedIds state.cache allIds
  { state with
    cache := (deleted.foldl (dropDeleted clock) { cache := state.cache }).cache
    exits := fun endpointId => if endpointId ∈ deleted then none else state.exits endpointId
    scanned := some allIds }

/-- Perform one operation. `delete_endpoint` marks and invalidates once ISE has deleted. The
fetches of a scan are `put_detail` of their own. -/
def perform (state : EmaRun) : EmaOp → EmaRun
  | .putDetail cfg now endpointId value fromDisk =>
      state.store endpointId (state.cache.putDetail cfg now endpointId value fromDisk)
  | .markChanged endpointId => state.markChanged endpointId
  | .invalidateDetail endpointId => state.drop true (state.cache.invalidateDetail endpointId)
  | .invalidateAll => state.drop true state.cache.invalidateAll
  | .evictOldest => state.drop false state.cache.evictOldest
  | .loadFromDisk cfg now file => state.loadFromDisk cfg now file
  | .deleteEndpoint endpointId =>
      let marked := state.markChanged endpointId
      marked.drop true (marked.cache.invalidateDetail endpointId)
  | .fullScan clock allIds => state.fullScan clock allIds

/-- One step of a run; every operation is possible in every state. -/
def step (state : EmaRun) (op : EmaOp) : Option EmaRun := some (state.perform op)

/-! ## What a run has to keep -/

/-- The value is an EMA of zeros and ones. -/
def InUnit (ema : Rat) : Prop := 0 ≤ ema ∧ ema ≤ 1

/-- Every EMA lies between 0 and 1, an endpoint started again with the EMA it had left with, and
after a full scan no EMA is kept for an id that is not in its list. -/
structure LifeCycle (state : EmaRun) : Prop where
  cached : ∀ endpointId entry, state.cache.details.get? endpointId = some entry →
    InUnit entry.changeEma
  kept : ∀ endpointId ema, state.cache.tierEmas.get? endpointId = some ema → InUnit ema
  restarts : ∀ start ∈ state.starts, start.1 = start.2
  forgotten : ∀ allIds, state.scanned = some allIds → ∀ endpointId ema,
    state.cache.tierEmas.get? endpointId = some ema → endpointId ∈ allIds

/-- An endpoint that has left is not cached, and if it left by an invalidation its EMA has been
saved. -/
structure Remembers (state : EmaRun) : Prop where
  absent : ∀ endpointId exit, state.exits endpointId = some exit →
    state.cache.details.get? endpointId = none
  saved : ∀ endpointId exit, state.exits endpointId = some exit → exit.invalidated = true →
    state.cache.tierEmas.get? endpointId = some exit.ema

/-- The EMA `put_detail` starts a new entry with. -/
def savedEma (state : EmaRun) (endpointId : EndpointId) : Rat :=
  (state.cache.tierEmas.get? endpointId).getD 0

/-- The EMAs a load takes over lie between 0 and 1. -/
def RestoresProper : List (EndpointId × Option Rat) → EndpointCache EndpointDetail → Prop
  | [], _ => True
  | (endpointId, ema) :: rest, cache =>
      if endpointId ∈ cache.tierEmas.keys then RestoresProper rest cache
      else
        match ema with
        | none => True
        | some ema =>
            InUnit ema ∧
              RestoresProper rest
                { cache with tierEmas := cache.tierEmas.set endpointId ema }

/-- Every record a load stores has a proper EMA, and the one with which its endpoint left. -/
def LoadKeeps (cfg : CacheSettings) (now : Time) :
    EmaRun → List (EndpointId × DiskEntry EndpointDetail) → Prop
  | _, [] => True
  | state, entry :: rest =>
      ((storedFrom cfg state.cache entry.1 entry.2).isSome = true →
        InUnit (entry.2.changeEma.getD (state.savedEma entry.1)) ∧
          ∀ exit, state.exits entry.1 = some exit →
            exit.ema = entry.2.changeEma.getD (state.savedEma entry.1)) ∧
      LoadKeeps cfg now (state.loadEntry cfg now entry) rest

/-- An endpoint `put_detail` stores again left by an invalidation, or the EMA saved for it is the
one it left with; a load takes over proper EMAs only, and starts no endpoint with another one; a
full scan finds every saved EMA either in its list or cached. -/
def KeepsEmas (state : EmaRun) : EmaOp → Prop
  | .putDetail cfg _ endpointId _ _ =>
      cfg.cacheEnabled = true → ∀ exit, state.exits endpointId = some exit →
        exit.invalidated = true ∨ state.savedEma endpointId = exit.ema
  | .loadFromDisk cfg now file =>
      RestoresProper (savedEmas file) state.cache ∧
      LoadKeeps cfg now
        { state with cache := (restoreTierEmas (savedEmas file) state.cache).1, scanned := none }
        (entriesRead state.cache file)
  | .fullScan _ allIds =>
      ∀ endpointId ema, state.cache.tierEmas.get? endpointId = some ema →
        endpointId ∈ allIds ∨ endpointId ∈ state.cache.details.keys
  | _ => True

/-! ## EMAs between 0 and 1 -/

variable {state : EmaRun} {next : EndpointCache EndpointDetail} {endpointId : EndpointId}
  {cfg : CacheSettings} {now : Time}

omit [PyText] [DetailCodec] in
theorem in_unit_zero : InUnit 0 := ⟨le_refl _, by norm_num⟩

omit [PyText] [DetailCodec] in
/-- An observation keeps the EMA between 0 and 1. -/
theorem in_unit_observe {ema changed : Rat} (hchanged : InUnit changed) (hema : InUnit ema) :
    InUnit (emaAlpha * changed + (1 - emaAlpha) * ema) := by
  obtain ⟨hlow, hhigh⟩ := hchanged
  obtain ⟨hlow', hhigh'⟩ := hema
  unfold emaAlpha
  constructor <;> linarith

omit [PyText] [DetailCodec] in
theorem in_unit_one : InUnit 1 := ⟨by norm_num, le_refl _⟩

omit [PyText] [DetailCodec] in
theorem LifeCycle.saved_ema (h : LifeCycle state) (endpointId : EndpointId) :
    InUnit (state.savedEma endpointId) := by
  unfold savedEma
  cases hema : state.cache.tierEmas.get? endpointId with
  | none => exact in_unit_zero
  | some ema => exact h.kept endpointId ema hema

omit [PyText] [DetailCodec] in
/-- The EMA `put_detail` gives an entry. -/
theorem LifeCycle.next_ema (h : LifeCycle state) (fromDisk : Bool) (newHash : String) :
    InUnit (nextEma state.cache endpointId fromDisk newHash) := by
  unfold nextEma
  cases hold : state.cache.details.get? endpointId with
  | none => exact h.saved_ema endpointId
  | some old =>
      have hema := h.cached endpointId old hold
      simp only
      split
      · split
        · exact in_unit_observe in_unit_one hema
        · exact in_unit_observe in_unit_zero hema
      · exact hema

/-! ## Storing and dropping -/

omit [PyText] [DetailCodec] in
/-- Endpoints leave the cache with the EMA of their entry: what has been saved of it when they
leave by an invalidation. -/
theorem Remembers.exits_to (h : Remembers state) (invalidated : Bool)
    (hsaved : invalidated = true → ∀ endpointId entry,
      state.cache.details.get? endpointId = some entry → next.details.get? endpointId = none →
        next.tierEmas.get? endpointId = some entry.changeEma)
    (hsame : ∀ endpointId, state.cache.details.get? endpointId = none →
      next.tierEmas.get? endpointId = state.cache.tierEmas.get? endpointId)
    (starts : List (Rat × Rat)) (scanned : Option (List EndpointId)) :
    Remembers { cache := next, exits := state.exitsTo invalidated next, starts := starts,
                scanned := scanned } := by
  have hcases : ∀ endpointId exit, state.exitsTo invalidated next endpointId = some exit →
      next.details.get? endpointId = none ∧
        ((∃ entry, state.cache.details.get? endpointId = some entry ∧
            exit = { ema := entry.changeEma, invalidated := invalidated }) ∨
          state.cache.details.get? endpointId = none ∧ state.exits endpointId = some exit) := by
    intro endpointId exit hexit
    unfold exitsTo at hexit
    split at hexit
    · cases hexit
    · rename_i entry hnone hentry
      cases hexit
      exact ⟨hnone, Or.inl ⟨entry, hentry, rfl⟩⟩
    · rename_i hnone habsent
      exact ⟨hnone, Or.inr ⟨habsent, hexit⟩⟩
  refine ⟨fun endpointId exit hexit => (hcases endpointId exit hexit).1, ?_⟩
  intro endpointId exit hexit hinvalidated
  obtain ⟨hnone, ⟨entry, hentry, rfl⟩ | ⟨habsent, hold⟩⟩ := hcases endpointId exit hexit
  · exact hsaved hinvalidated endpointId entry hentry hnone
  · show next.tierEmas.get? endpointId = some exit.ema
    rw [hsame endpointId habsent]
    exact h.saved endpointId exit hold hinvalidated

omit [PyText] [DetailCodec] in
theorem Remembers.store (h : Remembers state)
    (hemas : next.tierEmas = state.cache.tierEmas) : Remembers (state.store endpointId next) :=
  h.exits_to false (fun hinvalidated => by cases hinvalidated) (fun _ _ => by rw [hemas])
    (state.startsTo endpointId next) state.scanned

omit [PyText] [DetailCodec] in
/-- Storing one entry with a proper EMA, the one with which its endpoint left. -/
theorem LifeCycle.store (h : LifeCycle state)
    (hemas : next.tierEmas = state.cache.tierEmas)
    (hothers : ∀ other entry, other ≠ endpointId → next.details.get? other = some entry →
      state.cache.details.get? other = some entry)
    (hnew : ∀ entry, next.details.get? endpointId = some entry → InUnit entry.changeEma ∧
      ∀ exit, state.exits endpointId = some exit → exit.ema = entry.changeEma) :
    LifeCycle (state.store endpointId next) where
  cached := by
    intro other entry hentry
    by_cases hother : other = endpointId
    · subst hother
      exact (hnew entry hentry).1
    · exact h.cached other entry (hothers other entry hother hentry)
  kept := by
    intro other ema hema
    exact h.kept other ema (hemas ▸ hema)
  restarts := by
    intro start hstart
    change start ∈ state.startsTo endpointId next at hstart
    unfold startsTo at hstart
    split at hstart
    · rename_i exit entry hexit hentry
      rcases List.mem_cons.mp hstart with rfl | hold
      · exact (hnew entry hentry).2 exit hexit
      · exact h.restarts start hold
    · exact h.restarts start hstart
  forgotten := by
    intro allIds hscanned other ema hema
    exact h.forgotten allIds hscanned other ema (hemas ▸ hema)

omit [PyText] [DetailCodec] in
/-- A store that does not take place starts no endpoint. -/
theorem LifeCycle.store_nothing (h : LifeCycle state) (hmemory : Remembers state)
    (hemas : next.tierEmas = state.cache.tierEmas)
    (hsame : ∀ other entry, next.details.get? other = some entry →
      state.cache.details.get? other = some entry) :
    LifeCycle (state.store endpointId next) := by
  refine h.store hemas (fun other entry _ hentry => hsame other entry hentry) ?_
  intro entry hentry
  have hkept := hsame endpointId entry hentry
  refine ⟨h.cached endpointId entry hkept, fun exit hexit => ?_⟩
  rw [hmemory.absent endpointId exit hexit] at hkept
  cases hkept

omit [PyText] [DetailCodec] in
theorem Remembers.drop (h : Remembers state) (invalidated : Bool)
    (hsaved : invalidated = true → ∀ endpointId entry,
      state.cache.details.get? endpointId = some entry → next.details.get? endpointId = none →
        next.tierEmas.get? endpointId = some entry.changeEma)
    (hsame : ∀ endpointId, state.cache.details.get? endpointId = none →
      next.tierEmas.get? endpointId = state.cache.tierEmas.get? endpointId) :
    Remembers (state.drop invalidated next) :=
  h.exits_to invalidated hsaved hsame state.starts none

omit [PyText] [DetailCodec] in
/-- A step that stores nothing, and saves no EMA but those of the entries it drops. -/
theorem LifeCycle.drop (h : LifeCycle state) (invalidated : Bool)
    (hdetails : ∀ other entry, next.details.get? other = some entry →
      state.cache.details.get? other = some entry)
    (hemas : ∀ other ema, next.tierEmas.get? other = some ema →
      state.cache.tierEmas.get? other = some ema ∨
        ∃ entry, state.cache.details.get? other = some entry ∧ ema = entry.changeEma) :
    LifeCycle (state.drop invalidated next) where
  cached := fun other entry hentry => h.cached other entry (hdetails other entry hentry)
  kept := by
    intro other ema hema
    rcases hemas other ema hema with hkept | ⟨entry, hentry, rfl⟩
    · exact h.kept other ema hkept
    · exact h.cached other entry hentry
  restarts := h.restarts
  forgotten := fun _ hscanned => by cases hscanned

/-! ## The operations -/

theorem put_detail_frame (cfg : CacheSettings) (now : Time) (cache : EndpointCache EndpointDetail)
    (endpointId : EndpointId) (value : EndpointDetail) (fromDisk : Bool) :
    (cache.putDetail cfg now endpointId value fromDisk).tierEmas = cache.tierEmas ∧
      ∀ other entry, other ≠ endpointId →
        (cache.putDetail cfg now endpointId value fromDisk).details.get? other = some entry →
          cache.details.get? other = some entry := by
  unfold putDetail
  split
  · refine ⟨tier_emas_make_room endpointId, fun other entry hother hentry => ?_⟩
    rw [Dict.get?_set_ne _ _ hother] at hentry
    exact get?_make_room hentry
  · exact ⟨rfl, fun _ _ _ hentry => hentry⟩

theorem keeps_put_detail (h : LifeCycle state) (hmemory : Remembers state) (now : Time)
    (value : EndpointDetail) (fromDisk : Bool)
    (hgood : cfg.cacheEnabled = true → ∀ exit, state.exits endpointId = some exit →
      exit.invalidated = true ∨ state.savedEma endpointId = exit.ema) :
    LifeCycle (state.store endpointId
      (state.cache.putDetail cfg now endpointId value fromDisk)) := by
  obtain ⟨hemas, hothers⟩ := put_detail_frame cfg now state.cache endpointId value fromDisk
  cases hon : cfg.cacheEnabled with
  | false =>
      refine h.store_nothing hmemory hemas fun other entry hentry => ?_
      simpa [putDetail, hon] using hentry
  | true =>
      refine h.store hemas hothers ?_
      intro entry hentry
      simp only [putDetail, hon, ↓reduceIte, Dict.get?_set_self, Option.some.injEq] at hentry
      subst hentry
      refine ⟨h.next_ema fromDisk _, fun exit hexit => ?_⟩
      have habsent := hmemory.absent endpointId exit hexit
      have hstart : nextEma state.cache endpointId fromDisk
          (if fromDisk then "" else CacheValue.hashValue value) = state.savedEma endpointId := by
        unfold nextEma
        rw [habsent]
        rfl
      show exit.ema = nextEma state.cache endpointId fromDisk _
      rw [hstart]
      rcases hgood hon exit hexit with hinvalidated | hsame
      · unfold savedEma
        rw [hmemory.saved endpointId exit hexit hinvalidated]
        rfl
      · exact hsame.symm

omit [PyText] [DetailCodec] in
theorem remembers_mark_changed (h : Remembers state) (endpointId : EndpointId) :
    Remembers (state.markChanged endpointId) where
  absent := by
    intro other exit hexit
    have hexits : ∃ before, state.exits other = some before := by
      simp only [markChanged] at hexit
      split at hexit
      · obtain ⟨before, hbefore, _⟩ := Option.map_eq_some_iff.mp hexit
        exact ⟨before, hbefore⟩
      · exact ⟨exit, hexit⟩
    obtain ⟨before, hbefore⟩ := hexits
    have habsent := h.absent other before hbefore
    show (state.cache.details.modify endpointId _).get? other = none
    rw [Dict.get?_modify]
    split
    · rename_i hother
      rw [← hother, habsent]
      rfl
    · exact habsent
  saved := by
    intro other exit hexit hinvalidated
    show (state.cache.tierEmas.set endpointId _).get? other = some exit.ema
    rw [Dict.get?_set]
    simp only [markChanged] at hexit
    split at hexit
    · rename_i hother
      obtain ⟨before, hbefore, rfl⟩ := Option.map_eq_some_iff.mp hexit
      have habsent := h.absent other before hbefore
      have hsaved := h.saved other before hbefore hinvalidated
      rw [if_pos hother, ← hother, habsent, hsaved]
      rfl
    · rename_i hother
      rw [if_neg hother]
      exact h.saved other exit hexit hinvalidated

omit [PyText] [DetailCodec] in
/-- `mark_changed` counts one change more, in the entry and in the saved EMA alike. -/
theorem mark_changed_eq (cache : EndpointCache EndpointDetail) (endpointId : EndpointId) :
    ∃ old, ((cache.details.get? endpointId = none ∧
          old = (cache.tierEmas.get? endpointId).getD 0) ∨
        ∃ entry, cache.details.get? endpointId = some entry ∧ old = entry.changeEma) ∧
      cache.markChanged endpointId =
        { cache with
          tierEmas := cache.tierEmas.set endpointId (emaAlpha * 1 + (1 - emaAlpha) * old)
          details := cache.details.modify endpointId fun entry =>
            { entry with changeEma := emaAlpha * 1 + (1 - emaAlpha) * old } } := by
  unfold EndpointCache.markChanged
  cases hentry : cache.details.get? endpointId with
  | none => exact ⟨_, Or.inl ⟨rfl, rfl⟩, rfl⟩
  | some entry => exact ⟨_, Or.inr ⟨entry, rfl, rfl⟩, rfl⟩

omit [PyText] [DetailCodec] in
theorem keeps_mark_changed (h : LifeCycle state) (endpointId : EndpointId) :
    LifeCycle (state.markChanged endpointId) := by
  obtain ⟨old, hold, hnext⟩ := mark_changed_eq state.cache endpointId
  have hunit : InUnit old := by
    obtain ⟨_, rfl⟩ | ⟨entry, hentry, rfl⟩ := hold
    · exact h.saved_ema endpointId
    · exact h.cached endpointId entry hentry
  have hmarked := in_unit_observe in_unit_one hunit
  refine ⟨?_, ?_, h.restarts, fun _ hscanned => by cases hscanned⟩
  · intro other entry hentry
    change (state.cache.markChanged endpointId).details.get? other = some entry at hentry
    rw [hnext, Dict.get?_modify] at hentry
    split at hentry
    · obtain ⟨before, _, rfl⟩ := Option.map_eq_some_iff.mp hentry
      exact hmarked
    · exact h.cached other entry hentry
  · intro other ema hema
    change (state.cache.markChanged endpointId).tierEmas.get? other = some ema at hema
    rw [hnext, Dict.get?_set] at hema
    split at hema
    · cases hema
      exact hmarked
    · exact h.kept other ema hema

/-- An invalidation drops the entry and saves its EMA. -/
theorem invalidate_detail_get? (cache : EndpointCache EndpointDetail)
    (endpointId other : EndpointId) :
    (cache.invalidateDetail endpointId).details.get? other =
        (if other = endpointId then none else cache.details.get? other) ∧
      (cache.invalidateDetail endpointId).tierEmas.get? other =
        (if other = endpointId then
          ((cache.details.get? other).map CachedEntry.changeEma).or (cache.tierEmas.get? other)
        else cache.tierEmas.get? other) := by
  cases hentry : cache.details.get? endpointId with
  | none =>
      have hsame : cache.invalidateDetail endpointId = cache := by
        simp only [invalidateDetail, hentry]
      rw [hsame]
      by_cases hother : other = endpointId
      · subst hother
        rw [if_pos rfl, if_pos rfl, hentry]
        exact ⟨rfl, rfl⟩
      · rw [if_neg hother, if_neg hother]
        exact ⟨rfl, rfl⟩
  | some entry =>
      simp only [invalidateDetail, hentry]
      refine ⟨Dict.get?_erase _ _ _, ?_⟩
      rw [Dict.get?_set]
      by_cases hother : other = endpointId
      · subst hother
        rw [if_pos rfl, if_pos rfl, hentry]
        rfl
      · rw [if_neg hother, if_neg hother]

omit [PyText] [DetailCodec] in
/-- Dropping entries and saving the EMA of each of them. -/
theorem keeps_invalidated (h : LifeCycle state) (hmemory : Remembers state)
    (dropped : EndpointId → Prop) [DecidablePred dropped]
    (hget : ∀ other,
      next.details.get? other =
          (if dropped other then none else state.cache.details.get? other) ∧
        next.tierEmas.get? other =
          if dropped other then
            ((state.cache.details.get? other).map CachedEntry.changeEma).or
              (state.cache.tierEmas.get? other)
          else state.cache.tierEmas.get? other) :
    LifeCycle (state.drop true next) ∧ Remembers (state.drop true next) := by
  refine ⟨h.drop true (fun other entry hentry => ?_) (fun other ema hema => ?_),
    hmemory.drop true (fun _ other entry hentry hnone => ?_) (fun other habsent => ?_)⟩
  · rw [(hget other).1] at hentry
    split at hentry
    · cases hentry
    · exact hentry
  · rw [(hget other).2] at hema
    split at hema
    · cases hentry : state.cache.details.get? other with
      | none =>
          rw [hentry] at hema
          exact Or.inl hema
      | some entry =>
          rw [hentry] at hema
          cases hema
          exact Or.inr ⟨entry, rfl, rfl⟩
    · exact Or.inl hema
  · rw [(hget other).1, hentry] at hnone
    rw [(hget other).2, hentry]
    split at hnone
    · rename_i hother
      rw [if_pos hother]
      rfl
    · cases hnone
  · rw [(hget other).2, habsent]
    split <;> rfl

theorem keeps_invalidate_detail (h : LifeCycle state) (hmemory : Remembers state)
    (endpointId : EndpointId) :
    LifeCycle (state.drop true (state.cache.invalidateDetail endpointId)) ∧
      Remembers (state.drop true (state.cache.invalidateDetail endpointId)) :=
  keeps_invalidated h hmemory (· = endpointId) (invalidate_detail_get? state.cache endpointId)

omit [PyText] [DetailCodec] in
/-- `invalidate_all` saves the EMA of every entry, if there is anything to drop. -/
theorem invalidate_all_get? (cache : EndpointCache EndpointDetail) (other : EndpointId) :
    cache.invalidateAll.details.get? other = none ∧
      cache.invalidateAll.tierEmas.get? other =
        ((cache.details.get? other).map CachedEntry.changeEma).or (cache.tierEmas.get? other) := by
  unfold invalidateAll
  split
  · refine ⟨rfl, ?_⟩
    have hmerge : cache.details.entries.foldl
        (fun emas entry => emas.set entry.1 entry.2.changeEma) cache.tierEmas =
          cache.tierEmas.merge (cache.details.mapValues CachedEntry.changeEma) := by
      unfold Dict.merge Dict.mapValues
      rw [List.foldl_map]
    show (cache.details.entries.foldl _ cache.tierEmas).get? other = _
    rw [hmerge, Dict.get?_merge, Dict.get?_mapValues]
  · rename_i hempty
    have hnil : cache.details.entries = [] := by
      have hsize : cache.details.size = 0 := by
        by_contra hne
        exact hempty (by simp [hne])
      exact List.eq_nil_of_length_eq_zero hsize
    have hnone : cache.details.get? other = none := by
      rw [Dict.get?, hnil]
      rfl
    exact ⟨hnone, by rw [hnone]; rfl⟩

omit [PyText] [DetailCodec] in
theorem keeps_invalidate_all (h : LifeCycle state) (hmemory : Remembers state) :
    LifeCycle (state.drop true state.cache.invalidateAll) ∧
      Remembers (state.drop true state.cache.invalidateAll) :=
  keeps_invalidated h hmemory (fun _ => True) fun other => by
    simpa only [if_true] using invalidate_all_get? state.cache other

theorem keeps_evict_oldest (h : LifeCycle state) (hmemory : Remembers state) :
    LifeCycle (state.drop false state.cache.evictOldest) ∧
      Remembers (state.drop false state.cache.evictOldest) := by
  have hemas := tier_emas_evict_oldest state.cache
  refine ⟨h.drop false (fun _ _ hentry => get?_evict_oldest hentry) (fun other ema hema => ?_),
    hmemory.drop false (fun hinvalidated => by cases hinvalidated) (fun _ _ => by rw [hemas])⟩
  rw [hemas] at hema
  exact Or.inl hema

/-! ## Loading and scanning -/

omit [PyText] [DetailCodec] in
/-- An EMA that is taken over belongs to an id without one, so none that was saved is lost. -/
theorem keeps_restored {saved : List (EndpointId × Option Rat)}
    (hproper : RestoresProper saved state.cache) (h : LifeCycle state)
    (hmemory : Remembers state) :
    LifeCycle { state with cache := (restoreTierEmas saved state.cache).1, scanned := none } ∧
      Remembers
        { state with cache := (restoreTierEmas saved state.cache).1, scanned := none } := by
  induction saved generalizing state with
  | nil =>
      exact ⟨⟨h.cached, h.kept, h.restarts, fun _ hscanned => by cases hscanned⟩,
        hmemory.absent, hmemory.saved⟩
  | cons first rest ih =>
      obtain ⟨endpointId, ema⟩ := first
      unfold RestoresProper at hproper
      unfold restoreTierEmas
      split at hproper
      · rename_i hknown
        rw [if_pos hknown]
        exact ih hproper h hmemory
      · rename_i hnew
        rw [if_neg hnew]
        cases ema with
        | none =>
            exact ⟨⟨h.cached, h.kept, h.restarts, fun _ hscanned => by cases hscanned⟩,
              hmemory.absent, hmemory.saved⟩
        | some ema =>
            let taken : EmaRun :=
              { state with
                cache := { state.cache with tierEmas := state.cache.tierEmas.set endpointId ema }
                scanned := none }
            have htaken : LifeCycle taken := by
              refine ⟨h.cached, fun other kept hkept => ?_, h.restarts,
                fun _ hscanned => by cases hscanned⟩
              change (state.cache.tierEmas.set endpointId ema).get? other = some kept at hkept
              rw [Dict.get?_set] at hkept
              split at hkept
              · cases hkept
                exact hproper.1
              · exact h.kept other kept hkept
            have hsaved : Remembers taken := by
              refine ⟨hmemory.absent, fun other exit hexit hinvalidated => ?_⟩
              have hold := hmemory.saved other exit hexit hinvalidated
              have hother : other ≠ endpointId := by
                rintro rfl
                exact hnew (Dict.mem_keys_iff.mpr ⟨_, hold⟩)
              show (state.cache.tierEmas.set endpointId ema).get? other = some exit.ema
              rw [Dict.get?_set_ne _ _ hother]
              exact hold
            exact ih hproper.2 htaken hsaved

theorem keeps_load_entry (h : LifeCycle state) (hmemory : Remembers state)
    (entry : EndpointId × DiskEntry EndpointDetail)
    (hgood : (storedFrom cfg state.cache entry.1 entry.2).isSome = true →
      InUnit (entry.2.changeEma.getD (state.savedEma entry.1)) ∧
        ∀ exit, state.exits entry.1 = some exit →
          exit.ema = entry.2.changeEma.getD (state.savedEma entry.1)) :
    LifeCycle (state.loadEntry cfg now entry) ∧ Remembers (state.loadEntry cfg now entry) := by
  have hemas := tier_emas_load_entry cfg now state.cache entry.1 entry.2
  refine ⟨?_, hmemory.store hemas⟩
  obtain ⟨hskip, _⟩ | ⟨value, fetchedAt, hon, habsent, hvalue, hfetched, hload⟩ :=
    load_entry_cases cfg now state.cache entry.1 entry.2
  · unfold loadEntry
    rw [hskip]
    exact h.store_nothing hmemory rfl fun _ _ hentry => hentry
  · have hstored : (storedFrom cfg state.cache entry.1 entry.2).isSome = true := by
      have hnew : entry.1 ∉ state.cache.details.keys := fun hmem => by
        obtain ⟨cached, hcached⟩ := Dict.mem_keys_iff.mp hmem
        rw [habsent] at hcached
        cases hcached
      unfold storedFrom
      rw [if_pos ⟨hon, hnew⟩, hvalue, hfetched]
      rfl
    refine h.store hemas ?_ ?_
    · intro other cached hother hcached
      rw [hload] at hcached
      simp only at hcached
      rw [Dict.get?_set_ne _ _ hother] at hcached
      exact get?_make_room hcached
    · intro cached hcached
      rw [hload] at hcached
      simp only [Dict.get?_set_self, Option.some.injEq] at hcached
      subst hcached
      exact hgood hstored

theorem keeps_load_entries {entries : List (EndpointId × DiskEntry EndpointDetail)}
    (hgood : LoadKeeps cfg now state entries) (h : LifeCycle state) (hmemory : Remembers state) :
    LifeCycle (entries.foldl (loadEntry cfg now) state) ∧
      Remembers (entries.foldl (loadEntry cfg now) state) := by
  induction entries generalizing state with
  | nil => exact ⟨h, hmemory⟩
  | cons first rest ih =>
      obtain ⟨hfirst, hrest⟩ := hgood
      have hnext : LifeCycle (state.loadEntry cfg now first) ∧
          Remembers (state.loadEntry cfg now first) := keeps_load_entry h hmemory first hfirst
      exact ih hrest hnext.1 hnext.2

/-- A scan drops entries and EMAs of the same ids, and only of cached ones. -/
theorem keeps_full_scan (h : LifeCycle state) (hmemory : Remembers state)
    (clock : EndpointId → Time) (allIds : List EndpointId)
    (hgood : ∀ endpointId ema, state.cache.tierEmas.get? endpointId = some ema →
      endpointId ∈ allIds ∨ endpointId ∈ state.cache.details.keys) :
    LifeCycle (state.fullScan clock allIds) ∧ Remembers (state.fullScan clock allIds) := by
  have hdetails : ∀ endpointId, (state.fullScan clock allIds).cache.details.get? endpointId = _ :=
    details_foldl_dropDeleted clock (deletedIds state.cache allIds) { cache := state.cache }
  have hemas : ∀ endpointId, (state.fullScan clock allIds).cache.tierEmas.get? endpointId = _ :=
    tierEmas_foldl_dropDeleted clock (deletedIds state.cache allIds) { cache := state.cache }
  refine ⟨⟨?_, ?_, h.restarts, ?_⟩, ⟨?_, ?_⟩⟩
  · intro endpointId entry hentry
    rw [hdetails] at hentry
    split at hentry
    · cases hentry
    · exact h.cached endpointId entry hentry
  · intro endpointId ema hema
    rw [hemas] at hema
    split at hema
    · cases hema
    · exact h.kept endpointId ema hema
  · intro _ hscanned endpointId ema hema
    cases hscanned
    rw [hemas] at hema
    split at hema
    · cases hema
    · rename_i hnot
      rcases hgood endpointId ema hema with hlisted | hcached
      · exact hlisted
      · by_contra hunlisted
        exact hnot (mem_deletedIds.mpr ⟨hunlisted, Dict.mem_keys_iff.mp hcached⟩)
  · intro endpointId exit hexit
    simp only [fullScan] at hexit
    split at hexit
    · cases hexit
    · rename_i hnot
      rw [hdetails, if_neg hnot]
      exact hmemory.absent endpointId exit hexit
  · intro endpointId exit hexit hinvalidated
    simp only [fullScan] at hexit
    split at hexit
    · cases hexit
    · rename_i hnot
      rw [hemas, if_neg hnot]
      exact hmemory.saved endpointId exit hexit hinvalidated

/-! ## Runs -/

/-- What one step keeps when it meets the condition. -/
theorem keeps_step {op : EmaOp} {after : EmaRun} (hstep : state.step op = some after)
    (hgood : state.KeepsEmas op) (hkept : LifeCycle state ∧ Remembers state) :
    LifeCycle after ∧ Remembers after := by
  obtain ⟨h, hmemory⟩ := hkept
  cases hstep
  cases op with
  | putDetail cfg now endpointId value fromDisk =>
      exact ⟨keeps_put_detail h hmemory now value fromDisk hgood,
        hmemory.store (put_detail_frame cfg now state.cache endpointId value fromDisk).1⟩
  | markChanged endpointId =>
      exact ⟨keeps_mark_changed h endpointId, remembers_mark_changed hmemory endpointId⟩
  | invalidateDetail endpointId => exact keeps_invalidate_detail h hmemory endpointId
  | invalidateAll => exact keeps_invalidate_all h hmemory
  | evictOldest => exact keeps_evict_oldest h hmemory
  | loadFromDisk cfg now file =>
      obtain ⟨hproper, hentries⟩ := hgood
      obtain ⟨hrestored, hrestoredMemory⟩ := keeps_restored hproper h hmemory
      exact keeps_load_entries hentries hrestored hrestoredMemory
  | deleteEndpoint endpointId =>
      exact keeps_invalidate_detail (keeps_mark_changed h endpointId)
        (remembers_mark_changed hmemory endpointId) endpointId
  | fullScan clock allIds => exact keeps_full_scan h hmemory clock allIds hgood

omit [PyText] [DetailCodec] in
theorem life_cycle_empty : LifeCycle {} where
  cached := fun _ _ hentry => by cases hentry
  kept := fun _ _ hema => by cases hema
  restarts := fun _ hstart => by cases hstart
  forgotten := fun _ hscanned => by cases hscanned

omit [PyText] [DetailCodec] in
theorem remembers_empty : Remembers {} where
  absent := fun _ _ hexit => by cases hexit
  saved := fun _ _ hexit => by cases hexit

theorem guarded_cons {op : EmaOp} {ops : List EmaOp} :
    Guarded step KeepsEmas state (op :: ops) ↔
      state.KeepsEmas op ∧ Guarded step KeepsEmas (state.perform op) ops :=
  Iff.rfl

/-- From an empty cache the EMAs live on as long as every step meets the condition. -/
theorem change_ema_life_cycle (ops : List EmaOp) (hgood : Guarded step KeepsEmas {} ops) :
    Always step LifeCycle {} ops :=
  (always_of_guarded (P := fun state => LifeCycle state ∧ Remembers state)
    (fun _ _ _ hstep hmeets hkept => keeps_step hstep hmeets hkept) hgood
    ⟨life_cycle_empty, remembers_empty⟩).mono fun _ hkept => hkept.1

end EmaRun

/-! ## Runs that keep and lose an EMA -/

section Examples

open EmaRun

local instance emaText : PyText := asciiText

local instance emaCodec : DetailCodec := plainJson

def quietDetail : EndpointDetail :=
  { id := "ep-1", name := "printer", description := some "first floor" }

def movedDetail : EndpointDetail := { quietDetail with description := some "second floor" }

/-- An endpoint that changed, was invalidated and came back has its EMA. -/
theorem change_ema_life_cycle_invalidated :
    Always step LifeCycle {}
      [.putDetail {} 10 "ep-1" quietDetail false, .markChanged "ep-1",
        .invalidateDetail "ep-1", .markChanged "ep-1", .putDetail {} 20 "ep-1" quietDetail false,
        .fullScan (fun _ => 30) ["ep-1"]] := by
  refine change_ema_life_cycle _ ?_
  simp only [guarded_cons]
  refine ⟨?_, trivial, trivial, trivial, ?_, ?_, trivial⟩
  · intro _ exit hexit
    cases hexit
  · intro _ exit hexit
    cases hexit
    exact Or.inl rfl
  · intro endpointId ema hema
    have hkey := Dict.mem_keys_iff.mpr ⟨ema, hema⟩
    left
    exact hkey

/-- An endpoint that was evicted starts from nothing, one the portal deleted keeps its EMA after
the next scan, and a load takes over any number. -/
theorem change_ema_lost :
    ¬ Always step LifeCycle {}
        [.putDetail {} 10 "ep-1" quietDetail false,
          .putDetail {} 20 "ep-1" movedDetail false, .evictOldest,
          .putDetail {} 30 "ep-1" movedDetail false] ∧
      ¬ Always step LifeCycle {}
        [.putDetail {} 10 "ep-1" quietDetail false, .deleteEndpoint "ep-1",
          .fullScan (fun _ => 20) []] ∧
      ¬ Always step LifeCycle {}
        [.loadFromDisk {} 10 (.payload { version := 5, tierEmas := some [("ep-1", some 7)] })] := by
  refine ⟨fun h => ?_, fun h => ?_, fun h => ?_⟩
  · have hrestart := (h.last rfl).restarts (emaAlpha, 0) (by with_unfolding_all decide)
    exact absurd hrestart (by with_unfolding_all decide)
  · have hlisted := (h.last rfl).forgotten [] rfl "ep-1" emaAlpha (by with_unfolding_all decide)
    cases hlisted
  · have hunit := (h.last rfl).kept "ep-1" 7 (by decide)
    exact absurd hunit.2 (by decide)

end Examples

end IsePortal
