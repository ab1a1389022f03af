import IsePortal.Cache.EndpointCache

/-!
# Fetches in flight

`get_detail`, `_fetch_and_store` and `_get_or_create_inflight` of `app/core/endpoint_cache.py` as
tasks, with what happens between two awaits as one step. A caller awaits the shared task without
`asyncio.shield`, so cancelling the caller cancels the task it waits for, and `except Exception`
does not catch the `CancelledError` the other callers get from it. With the cache off nothing is
shared. `Cache.Traffic` follows the same fetches against the writes of an endpoint.
-/

namespace IsePortal

open Library EndpointCache

/-- What a fetch ends with. -/
inductive FetchOutcome (α ε : Type*) where
  | value (value : α)
  | error (exc : ε)
  | cancelled

/-- The task of `_fetch_and_store`. A task that is cancelled before its first step never gets to
its `finally`. -/
inductive FetchPhase (α ε : Type*) where
  | created
  | fetching
  | cancelling (started : Bool)
  | done (outcome : FetchOutcome α ε)

/-- A task, with the endpoint it fetches. -/
structure FetchTask (α ε : Type*) where
  endpointId : EndpointId
  phase : FetchPhase α ε := .created

/-- What a caller of `get_detail` gets. -/
inductive CallerResult (α ε : Type*) where
  | value (value : α)
  /-- The cached entry, because the fetch failed. -/
  | fallback (value : α)
  | error (exc : ε)
  | cancelled

/-- A caller waits for a task, or has its result, from a task or from the cache at once. -/
inductive CallerPhase (α ε : Type*) where
  | waiting (task : Nat)
  | ended (task : Option Nat) (result : CallerResult α ε)

/-- A caller, with the endpoint it asked for. -/
structure FetchCaller (α ε : Type*) where
  endpointId : EndpointId
  cancelled : Bool := false
  phase : CallerPhase α ε

/-- The cache with `_inflight_detail`, all tasks and all callers there have been. -/
structure InflightRun (α ε : Type*) where
  cache : EndpointCache α := {}
  inflight : Dict EndpointId Nat := Dict.empty
  tasks : List (FetchTask α ε) := []
  callers : List (FetchCaller α ε) := []

/-- What happens next. -/
inductive FetchEvent (α ε : Type*) where
  | call (cfg : CacheSettings) (now : Time) (endpointId : EndpointId) (forceFresh : Bool)
  | begins (task : Nat)
  | fetched (cfg : CacheSettings) (now : Time) (task : Nat) (value : α)
  | fails (task : Nat) (exc : ε)
  | unwinds (task : Nat)
  | resumes (caller : Nat)
  | cancelCaller (caller : Nat)
  | stats
  /-- Any other operation on the entries. -/
  | otherwise (cache : EndpointCache α)

section Tasks

variable {α ε : Type*}

/-- `not t.done()` -/
def FetchTask.active (task : FetchTask α ε) : Bool :=
  match task.phase with
  | .done _ => false
  | _ => true

/-- The task has been cancelled. -/
def FetchTask.isCancelled (task : FetchTask α ε) : Bool :=
  match task.phase with
  | .cancelling _ | .done .cancelled => true
  | _ => false

end Tasks

namespace InflightRun

variable [PyText] {α ε : Type*} [CacheValue α] (state : InflightRun α ε)

/-! ## Steps -/

omit [PyText] [CacheValue α] in
/-- The task is in the next phase. -/
def setTask (index : Nat) (task : FetchTask α ε) (phase : FetchPhase α ε) : InflightRun α ε :=
  { state with tasks := state.tasks.set index { task with phase := phase } }

omit [PyText] [CacheValue α] in
/-- The `finally` of `_fetch_and_store`, and the end of the task. -/
def endTask (index : Nat) (task : FetchTask α ε) (outcome : FetchOutcome α ε) :
    InflightRun α ε :=
  { state.setTask index task (.done outcome) with
    inflight := state.inflight.erase task.endpointId }

omit [PyText] [CacheValue α] in
/-- `not existing.done()`, for what `_inflight_detail` has under an id. -/
def isActive (index : Nat) : Bool :=
  match state.tasks[index]? with
  | none => false
  | some task => task.active

omit [PyText] [CacheValue α] in
/-- `_get_or_create_inflight`, with the task it returns. -/
def getOrCreateInflight (endpointId : EndpointId) : InflightRun α ε × Nat :=
  let fresh : InflightRun α ε :=
    { state with
      tasks := state.tasks ++ [{ endpointId := endpointId }]
      inflight := state.inflight.set endpointId state.tasks.length }
  match state.inflight.get? endpointId with
  | none => (fresh, state.tasks.length)
  | some existing =>
      if state.isActive existing then (state, existing) else (fresh, state.tasks.length)

omit [PyText] [CacheValue α] in
/-- One caller more. -/
def addCaller (endpointId : EndpointId) (phase : CallerPhase α ε) : InflightRun α ε :=
  { state with callers := state.callers ++ [{ endpointId := endpointId, phase := phase }] }

omit [PyText] [CacheValue α] in
/-- `await task`, on the task there is or a new one. -/
def await (endpointId : EndpointId) : InflightRun α ε :=
  let (shared, task) := state.getOrCreateInflight endpointId
  shared.addCaller endpointId (.waiting task)

omit [PyText] [CacheValue α] in
/-- The value is served at once, beside a fetch in the background. -/
def serveStale (endpointId : EndpointId) (value : α) : InflightRun α ε :=
  (state.getOrCreateInflight endpointId).1.addCaller endpointId (.ended none (.value value))

omit [PyText] in
/-- `get_detail` up to its first await. -/
def getDetail (cfg : CacheSettings) (now : Time) (endpointId : EndpointId) (forceFresh : Bool) :
    InflightRun α ε :=
  match state.cache.details.get? endpointId with
  | none => state.await endpointId
  | some entry =>
      if !forceFresh && !entry.fromDisk &&
          decide (now - entry.fetchedAt ≤ effectiveTtlForEntry entry cfg.cacheTtlSeconds) then
        state.addCaller endpointId (.ended none (.value entry.value))
      else if !forceFresh && entry.fromDisk then
        state.serveStale endpointId (CacheValue.setCacheStale true entry.value)
      else if !forceFresh && cfg.cacheStaleWhileRevalidate && staleServable cfg now entry then
        state.serveStale endpointId entry.value
      else state.await endpointId

omit [PyText] in
/-- What `await task` gives a caller, its `except Exception` included. -/
def receive (endpointId : EndpointId) : FetchOutcome α ε → CallerResult α ε
  | .value value => .value value
  | .error exc =>
      match state.cache.details.get? endpointId with
      | none => .error exc
      | some fallback => .fallback (CacheValue.setCacheStale true fallback.value)
  | .cancelled => .cancelled

omit [PyText] in
/-- A caller goes on once the task it waits for is done. -/
def resume (index : Nat) (caller : FetchCaller α ε) : Option (InflightRun α ε) :=
  match caller.phase with
  | .ended _ _ => none
  | .waiting task =>
      match (state.tasks[task]?).map FetchTask.phase with
      | some (.done outcome) =>
          let result :=
            if caller.cancelled then .cancelled else state.receive caller.endpointId outcome
          some { state with
                 callers := state.callers.set index
                   { caller with phase := .ended (some task) result } }
      | _ => none

omit [PyText] [CacheValue α] in
/-- `Task.cancel` of a task: it has no effect on one that is done or being cancelled. -/
def cancelTask (index : Nat) : InflightRun α ε :=
  match state.tasks[index]? with
  | none => state
  | some task =>
      match task.phase with
      | .created => state.setTask index task (.cancelling false)
      | .fetching => state.setTask index task (.cancelling true)
      | .cancelling _ | .done _ => state

omit [PyText] [CacheValue α] in
/-- `Task.cancel` of a caller is passed on to the task it awaits. -/
def cancelCaller (index : Nat) (caller : FetchCaller α ε) : Option (InflightRun α ε) :=
  match caller.phase with
  | .ended _ _ => none
  | .waiting task =>
      some { state.cancelTask task with
             callers := state.callers.set index { caller with cancelled := true } }

/-- One step. -/
def step : FetchEvent α ε → Option (InflightRun α ε)
  | .call cfg now endpointId forceFresh =>
      if cfg.cacheEnabled then some (state.getDetail cfg now endpointId forceFresh) else none
  | .begins index => (state.tasks[index]?).bind fun task =>
      match task.phase with
      | .created => some (state.setTask index task .fetching)
      | _ => none
  | .fetched cfg now index value => (state.tasks[index]?).bind fun task =>
      match task.phase with
      | .fetching =>
          some { state.endTask index task (.value value) with
                 cache := state.cache.putDetail cfg now task.endpointId value false }
      | _ => none
  | .fails index exc => (state.tasks[index]?).bind fun task =>
      match task.phase with
      | .fetching => some (state.endTask index task (.error exc))
      | _ => none
  | .unwinds index => (state.tasks[index]?).bind fun task =>
      match task.phase with
      | .cancelling true => some (state.endTask index task .cancelled)
      | .cancelling false => some (state.setTask index task (.done .cancelled))
      | _ => none
  | .resumes index => (state.callers[index]?).bind (state.resume index)
  | .cancelCaller index => (state.callers[index]?).bind (state.cancelCaller index)
  | .stats => some { state with inflight := state.inflight.filterValues state.isActive }
  | .otherwise cache => some { state with cache := cache }

end InflightRun

end IsePortal
