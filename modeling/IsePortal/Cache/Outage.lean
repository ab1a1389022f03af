import IsePortal.Cache.ReadYourWrites

/-!
# The cache while ISE is down

`CacheSyncWorker._sync_once` (`app/services/cache_sync.py`) beside the reads, the background
refreshes and the drip loop of `Traffic`, while every request to ISE fails: nothing is delivered,
and nobody writes. A reader falls back on the cached entry and the drip loop backs off, but a
refresh of the sync worker that fails drops its entry. `outage_keeps_iff` says that the cache keeps
every entry, and answers for it, exactly in the runs where no such refresh finds an entry to
drop.
-/

namespace IsePortal

open Library EndpointCache Traffic

/-- The portal during an outage. `due` and `refreshing` are the ids of a `_sync_once` that is going:
those that wait for its semaphore, and those whose refresh has begun. `raised` are the calls of
`get_detail` that found nothing to fall back on. -/
structure Outage (α : Type) where
  traffic : Traffic α
  due : List EndpointId := []
  refreshing : List EndpointId := []
  raised : List EndpointId := []

/-- The steps of an outage. -/
inductive OutageOp where
  /-- Time passes, a call of `get_detail`, a fetch, or what follows when it fails. -/
  | portal (op : TrafficOp)
  /-- `_sync_once` begins. -/
  | syncOnce
  /-- `refresh_one` takes the next id. -/
  | refreshOne
  /-- The fetch of `refresh_one` raises. -/
  | refreshFails (endpointId : EndpointId)

/-- What happens around the cache while every request fails and nobody writes. -/
def TrafficOp.InOutage : TrafficOp → Bool
  | .tick _ | .read .. | .refresh .. | .send _ | .fail _ | .fallBack _ => true
  | _ => false

namespace Outage

variable {α : Type} [PyText] [CacheValue α]

/-- The ids past half of their time to live. -/
def pastHalfTtl (cfg : CacheSettings) (now : Time) (cache : EndpointCache (Fetched α)) :
    List EndpointId :=
  (cache.details.entries.filter fun entry =>
    decide (now - entry.2.fetchedAt ≥ cfg.cacheTtlSeconds / 2)).map Prod.fst

/-- The endpoint of a reader that raises because nothing is cached for it. -/
def raises (traffic : Traffic α) : TrafficOp → List EndpointId
  | .fallBack readerId =>
      match traffic.readers.find? fun reader => reader.id = readerId ∧ reader.failed with
      | none => []
      | some reader =>
          if (traffic.cache.details.get? reader.endpointId).isSome then [] else [reader.endpointId]
  | _ => []

/-- One step. `_run` awaits `_sync_once`, so there is one at a time, and its semaphore lets eight
refreshes through. -/
def step (contents : EndpointId → Nat → α) (state : Outage α) : OutageOp → Option (Outage α)
  | .portal op =>
      if op.InOutage then
        (state.traffic.step contents op).map fun traffic =>
          { state with traffic, raised := state.raised ++ raises state.traffic op }
      else none
  | .syncOnce =>
      if state.due = [] ∧ state.refreshing = [] then
        some { state with
          due := pastHalfTtl state.traffic.cfg state.traffic.now state.traffic.cache }
      else none
  | .refreshOne =>
      match state.due with
      | [] => none
      | endpointId :: due =>
          if state.refreshing.length < 8 then
            some { state with due, refreshing := state.refreshing ++ [endpointId] }
          else none
  | .refreshFails endpointId =>
      if endpointId ∈ state.refreshing then
        some { state with
          traffic := { state.traffic with cache := state.traffic.cache.invalidateDetail endpointId }
          refreshing := state.refreshing.erase endpointId }
      else none

/-- The outage begins, with whatever is going on at that moment. -/
def begins (traffic : Traffic α) (due refreshing : List EndpointId) : Outage α :=
  { traffic := { traffic with answers := [] }, due, refreshing }

/-- Every entry from the beginning of the outage is still cached with its value, no call for one of
these endpoints has raised, and every answer is a value that was cached. -/
structure KeepsServing (start : EndpointCache (Fetched α)) (state : Outage α) : Prop where
  cached : ValuesFrom state.traffic.cache.details start.details
  answered : ∀ endpointId ∈ state.raised, start.details.get? endpointId = none
  fromCache : ∀ answer ∈ state.traffic.answers, ∃ entry,
    start.details.get? answer.endpointId = some entry ∧
      (answer.fetched = entry.value ∨ answer.fetched = CacheValue.setCacheStale true entry.value)

/-- A refresh of the sync worker that fails finds no entry to drop. -/
def DropsNone (state : Outage α) : OutageOp → Prop
  | .refreshFails endpointId => state.traffic.cache.details.get? endpointId = none
  | _ => True

/-! ## What the steps of the portal leave -/

variable {contents : EndpointId → Nat → α} {traffic next : Traffic α}

/-- An answer from the cache. -/
def ServesCached (traffic : Traffic α) (answer : DetailAnswer α) : Prop :=
  ∃ entry, traffic.cache.details.get? answer.endpointId = some entry ∧
    (answer.fetched = entry.value ∨ answer.fetched = CacheValue.setCacheStale true entry.value)

omit [PyText] in
theorem answers_getDetail (traffic : Traffic α) (endpointId : EndpointId) (forceFresh : Bool) :
    ∀ answer ∈ (traffic.getDetail endpointId forceFresh).answers,
      answer ∈ traffic.answers ∨ ServesCached traffic answer := by
  obtain ⟨fetches, nextId, hjoin⟩ := join_eq traffic endpointId
  have hmiss : ((traffic.getOrCreateInflight endpointId).1.await endpointId
      (traffic.getOrCreateInflight endpointId).2).answers = traffic.answers := by
    rw [await, hjoin]
  unfold getDetail
  split
  · cases hentry : traffic.cache.details.get? endpointId with
    | none =>
        dsimp only
        rw [hmiss]
        exact fun answer hanswer => Or.inl hanswer
    | some entry =>
        have hserved : ∀ fetched : Fetched α,
            (fetched = entry.value ∨ fetched = CacheValue.setCacheStale true entry.value) →
            ∀ answer ∈ (traffic.answer endpointId fetched).answers,
              answer ∈ traffic.answers ∨ ServesCached traffic answer := by
          intro fetched hfetched answer hanswer
          obtain rfl | hold := List.mem_cons.mp hanswer
          · exact Or.inr ⟨entry, hentry, hfetched⟩
          · exact Or.inl hold
        have hjoined : ∀ fetched : Fetched α,
            ((traffic.getOrCreateInflight endpointId).1.answer endpointId fetched).answers =
              (traffic.answer endpointId fetched).answers := by
          intro fetched
          rw [answer, hjoin]
          rfl
        dsimp only
        split
        · exact hserved _ (Or.inl rfl)
        · split
          · rw [hjoined]
            exact hserved _ (Or.inr rfl)
          · split
            · rw [hjoined]
              exact hserved _ (Or.inl rfl)
            · rw [hmiss]
              exact fun answer hanswer => Or.inl hanswer
  · exact fun answer hanswer => Or.inl hanswer

omit [PyText] in
theorem get_detail_cache (traffic : Traffic α) (endpointId : EndpointId)
    (forceFresh : Bool) : (traffic.getDetail endpointId forceFresh).cache = traffic.cache := by
  obtain ⟨fetches, nextId, hjoin⟩ := join_eq traffic endpointId
  rcases get_detail_cases traffic endpointId forceFresh with
    ⟨entry, fetched, _, _, heq | heq⟩ | heq | heq
  · rw [heq]
    rfl
  · rw [heq, hjoin]
    rfl
  · rw [heq, hjoin]
    rfl
  · rw [heq]
    rfl

omit [PyText] [CacheValue α] in
/-- A failed drip only changes the moment its entry counts as fetched. -/
theorem setFetchBackoff_keeps (cfg : CacheSettings) (now : Time)
    (cache : EndpointCache (Fetched α)) (endpointId : EndpointId) :
    ValuesFrom (setFetchBackoff cfg now cache endpointId).details cache.details := by
  intro other entry hentry
  show ∃ after, (cache.details.modify endpointId _).get? other = some after ∧ _
  rw [Dict.get?_modify]
  by_cases hother : other = endpointId
  · subst hother
    rw [if_pos rfl, hentry]
    exact ⟨_, rfl, rfl⟩
  · rw [if_neg hother]
    exact ⟨entry, hentry, rfl⟩

/-- A step of the portal keeps every entry, and answers from them. -/
theorem portal_keeps {op : TrafficOp} (hop : op.InOutage = true)
    (hstep : traffic.step contents op = some next) :
    ValuesFrom next.cache.details traffic.cache.details ∧
      ValuesFrom traffic.cache.details next.cache.details ∧
      ∀ answer ∈ next.answers, answer ∈ traffic.answers ∨ ServesCached traffic answer := by
  have hsame : ValuesFrom traffic.cache.details traffic.cache.details := ValuesFrom.refl _
  cases op with
  | tick now | refresh endpointId drip | send fetchId =>
      cases hstep
      exact ⟨hsame, hsame, fun answer hanswer => Or.inl hanswer⟩
  | read endpointId forceFresh =>
      cases hstep
      rw [get_detail_cache]
      exact ⟨hsame, hsame, answers_getDetail traffic endpointId forceFresh⟩
  | fail fetchId =>
      obtain ⟨fetch, rfl⟩ := fail_cases hstep
      refine ⟨?_, ?_, fun answer hanswer => Or.inl hanswer⟩
      · unfold giveUp
        dsimp only
        split
        · exact setFetchBackoff_keeps _ _ _ _
        · exact hsame
      · unfold giveUp
        dsimp only
        split
        · exact values_from_set_fetch_backoff _ _ _ _
        · exact hsame
  | fallBack readerId =>
      obtain ⟨reader, -, rfl⟩ := fall_back_cases hstep
      unfold fallBack
      cases hentry : traffic.cache.details.get? reader.endpointId with
      | none => exact ⟨hsame, hsame, fun answer hanswer => Or.inl hanswer⟩
      | some entry =>
          refine ⟨hsame, hsame, fun answer hanswer => ?_⟩
          obtain rfl | hold := List.mem_cons.mp hanswer
          · exact Or.inr ⟨entry, hentry, Or.inr rfl⟩
          · exact Or.inl hold
  | settings | deliver | cancel | change | commit | invalidate | finish | invalidateDetail
  | invalidateAll | markChanged | forgetTierEma => cases hop

omit [PyText] [CacheValue α] in
/-- Only a call for an endpoint that is not cached raises. -/
theorem not_cached_of_raises {op : TrafficOp} {endpointId : EndpointId}
    (hraised : endpointId ∈ raises traffic op) : traffic.cache.details.get? endpointId = none := by
  unfold raises at hraised
  split at hraised
  · split at hraised
    · cases hraised
    · split at hraised
      · cases hraised
      · next reader hcached =>
          rw [List.mem_singleton.mp hraised]
          simpa using hcached
  · cases hraised

/-! ## Runs -/

variable {start : EndpointCache (Fetched α)} {state after : Outage α} {op : OutageOp}

/-- No step brings a value into the cache. -/
theorem outage_step_values (hstep : state.step contents op = some after)
    (h : ValuesFrom start.details state.traffic.cache.details) :
    ValuesFrom start.details after.traffic.cache.details := by
  cases op with
  | portal op =>
      simp only [step] at hstep
      split at hstep
      · next hop =>
          obtain ⟨next, hnext, rfl⟩ := Option.map_eq_some_iff.mp hstep
          exact (portal_keeps hop hnext).2.1.trans h
      · cases hstep
  | syncOnce =>
      simp only [step] at hstep
      split at hstep
      · cases hstep
        exact h
      · cases hstep
  | refreshOne =>
      simp only [step] at hstep
      split at hstep
      · cases hstep
      · split at hstep
        · cases hstep
          exact h
        · cases hstep
  | refreshFails endpointId =>
      simp only [step] at hstep
      split at hstep
      · cases hstep
        exact (values_from_invalidate_detail _ endpointId).trans h
      · cases hstep

/-- A step keeps serving exactly when it drops no entry. -/
theorem keepsServing_step_iff (hstep : state.step contents op = some after)
    (hvalues : ValuesFrom start.details state.traffic.cache.details)
    (h : KeepsServing start state) : KeepsServing start after ↔ state.DropsNone op := by
  cases op with
  | portal op =>
      simp only [step] at hstep
      split at hstep
      · next hop =>
          obtain ⟨next, hnext, rfl⟩ := Option.map_eq_some_iff.mp hstep
          obtain ⟨hkept, -, hanswers⟩ := portal_keeps hop hnext
          refine iff_of_true ⟨h.cached.trans hkept, ?_, ?_⟩ trivial
          · intro endpointId hraised
            obtain hold | hnew := List.mem_append.mp hraised
            · exact h.answered endpointId hold
            · cases hentry : start.details.get? endpointId with
              | none => rfl
              | some entry =>
                  obtain ⟨kept, hcached, -⟩ := h.cached endpointId entry hentry
                  rw [not_cached_of_raises hnew] at hcached
                  cases hcached
          · intro answer hanswer
            obtain hold | ⟨entry, hentry, hserved⟩ := hanswers answer hanswer
            · exact h.fromCache answer hold
            · obtain ⟨first, hfirst, hvalue⟩ := hvalues answer.endpointId entry hentry
              exact ⟨first, hfirst, hvalue ▸ hserved⟩
      · cases hstep
  | syncOnce =>
      simp only [step] at hstep
      split at hstep
      · cases hstep
        exact iff_of_true ⟨h.cached, h.answered, h.fromCache⟩ trivial
      · cases hstep
  | refreshOne =>
      simp only [step] at hstep
      split at hstep
      · cases hstep
      · split at hstep
        · cases hstep
          exact iff_of_true ⟨h.cached, h.answered, h.fromCache⟩ trivial
        · cases hstep
  | refreshFails endpointId =>
      simp only [step] at hstep
      split at hstep
      · cases hstep
        constructor
        · intro hafter
          -- what is cached was cached when the outage began, and the refresh drops it
          cases hentry : state.traffic.cache.details.get? endpointId with
          | none => exact hentry
          | some entry =>
              obtain ⟨first, hfirst, -⟩ := hvalues endpointId entry hentry
              obtain ⟨kept, hkept, -⟩ := hafter.cached endpointId first hfirst
              rw [get?_invalidate_detail_self] at hkept
              cases hkept
        · intro hnone
          have hcache : state.traffic.cache.invalidateDetail endpointId = state.traffic.cache := by
            have hnone' : state.traffic.cache.details.get? endpointId = none := hnone
            rw [invalidateDetail, hnone']
          refine ⟨?_, h.answered, h.fromCache⟩
          show ValuesFrom (state.traffic.cache.invalidateDetail endpointId).details start.details
          rw [hcache]
          exact h.cached
      · cases hstep

/-- From any moment, the cache keeps every entry and answers for it throughout an outage exactly in
the runs where no failed refresh of the sync worker finds an entry to drop. -/
theorem outage_keeps_iff (contents : EndpointId → Nat → α) (traffic : Traffic α)
    (due refreshing : List EndpointId) (ops : List OutageOp) :
    Always (step contents) (KeepsServing traffic.cache) (begins traffic due refreshing) ops ↔
      Guarded (step contents) DropsNone (begins traffic due refreshing) ops := by
  have hstart : KeepsServing traffic.cache (begins traffic due refreshing) :=
    ⟨ValuesFrom.refl _, fun _ hraised => absurd hraised List.not_mem_nil,
      fun _ hanswer => absurd hanswer List.not_mem_nil⟩
  exact always_iff_guarded (I := fun state : Outage α =>
      ValuesFrom traffic.cache.details state.traffic.cache.details)
    (fun _ _ _ hstep h => outage_step_values hstep h)
    (fun _ _ _ hstep hvalues h => keepsServing_step_iff hstep hvalues h) (ValuesFrom.refl _) hstart

end Outage

/-! ## One refresh -/

namespace Outage

local instance outageText : PyText := asciiText

local instance outageCodec : DetailCodec := plainJson

/-- A printer that was cached a hundred seconds ago. -/
def printerCached : Traffic EndpointDetail where
  cfg := {}
  now := 100
  cache := putDetail {} 0 {} "ep-1"
    { value := { id := "ep-1", name := "AA:BB:CC:00:00:01" }, issued := 0 } false

/-- The sync worker refreshes it while ISE is down; then somebody opens it. -/
def syncedInOutage : List OutageOp :=
  [.syncOnce, .refreshOne, .refreshFails "ep-1", .portal (.read "ep-1" true), .portal (.send 0),
    .portal (.fail 0), .portal (.fallBack 1)]

theorem printer_raises :
    (run (step fun _ _ => { id := "ep-1", name := "AA:BB:CC:00:00:01" })
      (begins printerCached [] []) syncedInOutage).map raised = some ["ep-1"] := by
  with_unfolding_all decide

/-- The printer is dropped, and there is nothing to answer with. -/
theorem outage_drops_printer :
    ¬ Always (step fun _ _ => { id := "ep-1", name := "AA:BB:CC:00:00:01" })
      (KeepsServing printerCached.cache) (begins printerCached [] []) syncedInOutage := by
  intro h
  obtain ⟨final, hrun, hraised⟩ := Option.map_eq_some_iff.mp printer_raises
  have hnone := (h.last hrun).answered "ep-1" (by rw [hraised]; exact List.mem_singleton_self _)
  have hcached : (printerCached.cache.details.get? "ep-1").isSome = true := by decide
  rw [hnone] at hcached
  cases hcached

end Outage

end IsePortal
