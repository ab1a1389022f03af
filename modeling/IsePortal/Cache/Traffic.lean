import IsePortal.Cache.EndpointCache

/-!
# Reads, fetches and writes around the cache

The event loop of the portal as a step system over `EndpointCache`: calls of `get_detail`, the
fetches they start or join (`_get_or_create_inflight`), the fetches of the drip loop and the scan
(`app/services/cache_prewarm.py`), and the writes of `app/services/endpoint_service.py`, which
wait for ISE and then drop the cached entry. Nothing happens between two `await` of one of them,
so a step is what runs between two.

ISE is a store with versions: the version of an endpoint is the number of changes it has taken
for it, and `contents` says what each version reads as. Every fetch carries the version at the
moment its request was sent.
-/

namespace IsePortal

open Library EndpointCache

/-- A value read from ISE, with the version of the endpoint when the request was sent. -/
structure Fetched (α : Type) where
  value : α
  issued : Nat

instance {α : Type} [CacheValue α] : CacheValue (Fetched α) where
  roles fetched := CacheValue.roles fetched.value
  estimateSize fetched := CacheValue.estimateSize fetched.value
  hashValue fetched := CacheValue.hashValue fetched.value
  setCacheStale stale fetched :=
    { fetched with value := CacheValue.setCacheStale stale fetched.value }

/-- Who fetches: `_fetch_and_store` of a coalesced task, `_drip_one`, `fetch_one` of a scan, or
`get_detail` itself while the cache is off. -/
inductive FetchKind where
  | coalesced
  | drip
  | scan
  | bypass
  deriving DecidableEq

/-- A fetch in flight; its request may not have been sent yet. -/
structure Fetch where
  id : Nat
  endpointId : EndpointId
  kind : FetchKind
  issued : Option Nat := none
  deriving DecidableEq

/-- A call of `get_detail` that waits for a fetch, or has to fall back once it failed. `floor` is
the newest version among the writes that had returned when it was called. -/
structure Reader where
  id : Nat
  endpointId : EndpointId
  floor : Nat
  fetchId : Nat
  failed : Bool := false
  deriving DecidableEq

/-- A write ISE has taken, and whether the portal has dropped the entry since. -/
structure PortalWrite where
  id : Nat
  endpointId : EndpointId
  version : Nat
  invalidated : Bool := false
  deriving DecidableEq

/-- What a call of `get_detail` returned. -/
structure DetailAnswer (α : Type) where
  endpointId : EndpointId
  floor : Nat
  fetched : Fetched α

/-- The cache and everything on its way to or from ISE. `dropped` and `returned` are the newest
versions among the writes that have dropped their entry, and that have returned; together with
`answers` they only serve the statements. -/
structure Traffic (α : Type) where
  cfg : CacheSettings
  now : Time
  cache : EndpointCache (Fetched α)
  committed : EndpointId → Nat := fun _ => 0
  dropped : EndpointId → Nat := fun _ => 0
  returned : EndpointId → Nat := fun _ => 0
  fetches : List Fetch := []
  readers : List Reader := []
  writes : List PortalWrite := []
  answers : List (DetailAnswer α) := []
  nextId : Nat := 0

/-- The steps. -/
inductive TrafficOp where
  | tick (now : Time)
  | settings (cfg : CacheSettings)
  /-- `get_detail` is called. -/
  | read (endpointId : EndpointId) (forceFresh : Bool)
  /-- The drip loop or a scan starts a fetch. -/
  | refresh (endpointId : EndpointId) (drip : Bool)
  /-- The request of a fetch goes to ISE, for the first time or in a further attempt. -/
  | send (fetchId : Nat)
  /-- ISE's answer to a fetch arrives, read at this version. -/
  | deliver (fetchId version : Nat)
  /-- A fetch raises. -/
  | fail (fetchId : Nat)
  /-- A task is cancelled, and its readers with it. -/
  | cancel (fetchId : Nat)
  /-- A reader whose fetch raised goes on. -/
  | fallBack (readerId : Nat)
  /-- Someone else changes the endpoint in ISE. -/
  | change (endpointId : EndpointId)
  /-- ISE takes a write of the portal. -/
  | commit (endpointId : EndpointId)
  /-- The write goes on after ISE's answer; some writes also call `mark_changed`. -/
  | invalidate (writeId : Nat) (marked : Bool)
  /-- The write returns to its caller. -/
  | finish (writeId : Nat)
  /-- An entry is dropped for another reason. -/
  | invalidateDetail (endpointId : EndpointId)
  | invalidateAll
  /-- The bookkeeping of the tiers. -/
  | markChanged (endpointId : EndpointId)
  | forgetTierEma (endpointId : EndpointId)

/-- The count of one endpoint raised to a version. -/
def raise (counts : EndpointId → Nat) (endpointId : EndpointId) (version : Nat) :
    EndpointId → Nat :=
  fun id => if id = endpointId then max (counts id) version else counts id

namespace Traffic

variable {α : Type}

/-- Answer a call of `get_detail` at once. -/
def answer (traffic : Traffic α) (endpointId : EndpointId) (fetched : Fetched α) : Traffic α :=
  { traffic with
    answers :=
      { endpointId := endpointId, floor := traffic.returned endpointId, fetched := fetched } ::
        traffic.answers }

/-- `asyncio.create_task` or a direct call: a fetch that has not sent its request. -/
def startFetch (traffic : Traffic α) (endpointId : EndpointId) (kind : FetchKind) : Traffic α :=
  { traffic with
    fetches := { id := traffic.nextId, endpointId := endpointId, kind := kind } :: traffic.fetches
    nextId := traffic.nextId + 1 }

/-- The task under `_inflight_detail[endpoint_id]`: a task takes itself out of the dictionary
when it is done, so this is the coalesced fetch of the endpoint. -/
def inflight (traffic : Traffic α) (endpointId : EndpointId) : Option Fetch :=
  traffic.fetches.find? fun fetch =>
    fetch.endpointId = endpointId ∧ fetch.kind = .coalesced

/-- `_get_or_create_inflight`, with the id of the task. -/
def getOrCreateInflight (traffic : Traffic α) (endpointId : EndpointId) : Traffic α × Nat :=
  match traffic.inflight endpointId with
  | some existing => (traffic, existing.id)
  | none => (traffic.startFetch endpointId .coalesced, traffic.nextId)

/-- A call of `get_detail` waits for a fetch. -/
def await (traffic : Traffic α) (endpointId : EndpointId) (fetchId : Nat) : Traffic α :=
  { traffic with
    readers :=
      { id := traffic.nextId, endpointId := endpointId
        floor := traffic.returned endpointId, fetchId := fetchId } :: traffic.readers
    nextId := traffic.nextId + 1 }

variable [PyText] [CacheValue α]

/-- `get_detail` up to its first `await`. -/
def getDetail (traffic : Traffic α) (endpointId : EndpointId) (forceFresh : Bool) : Traffic α :=
  let joined := traffic.getOrCreateInflight endpointId
  -- a miss, or a read that has to be fresh, waits for the fetch in flight
  let miss := joined.1.await endpointId joined.2
  if traffic.cfg.cacheEnabled then
    match traffic.cache.details.get? endpointId with
    | none => miss
    | some entry =>
        if !forceFresh && !entry.fromDisk &&
            decide (traffic.now - entry.fetchedAt ≤
              effectiveTtlForEntry entry traffic.cfg.cacheTtlSeconds) then
          traffic.answer endpointId entry.value
        else if !forceFresh && entry.fromDisk then
          joined.1.answer endpointId (CacheValue.setCacheStale true entry.value)
        else if !forceFresh && traffic.cfg.cacheStaleWhileRevalidate &&
            staleServable traffic.cfg traffic.now entry then
          joined.1.answer endpointId entry.value
        else miss
  else (traffic.startFetch endpointId .bypass).await endpointId traffic.nextId

/-- The fetch is through: its value is stored, unless the cache was off when it started, and goes
to the readers that wait for it. -/
def store (contents : EndpointId → Nat → α) (traffic : Traffic α) (fetch : Fetch)
    (issued version : Nat) : Traffic α :=
  let fetched : Fetched α := { value := contents fetch.endpointId version, issued := issued }
  { traffic with
    cache := if fetch.kind = .bypass then traffic.cache
      else putDetail traffic.cfg traffic.now traffic.cache fetch.endpointId fetched false
    fetches := traffic.fetches.filter (·.id ≠ fetch.id)
    readers := traffic.readers.filter (·.fetchId ≠ fetch.id)
    answers := ((traffic.readers.filter (·.fetchId = fetch.id)).map fun reader =>
      { endpointId := reader.endpointId, floor := reader.floor, fetched := fetched }) ++
        traffic.answers }

/-- The fetch has raised: a coalesced one leaves its readers to fall back, a drip backs off. -/
def giveUp (traffic : Traffic α) (fetch : Fetch) : Traffic α :=
  { traffic with
    cache := if fetch.kind = .drip then
        setFetchBackoff traffic.cfg traffic.now traffic.cache fetch.endpointId
      else traffic.cache
    fetches := traffic.fetches.filter (·.id ≠ fetch.id)
    readers := if fetch.kind = .bypass then traffic.readers.filter (·.fetchId ≠ fetch.id)
      else traffic.readers.map fun reader =>
        if reader.fetchId = fetch.id then { reader with failed := true } else reader }

/-- A reader whose fetch raised answers with any cached entry; without one it raises too. -/
def fallBack (traffic : Traffic α) (reader : Reader) : Traffic α :=
  let rest := { traffic with readers := traffic.readers.filter (·.id ≠ reader.id) }
  match traffic.cache.details.get? reader.endpointId with
  | none => rest
  | some entry =>
      { rest with
        answers :=
          { endpointId := reader.endpointId, floor := reader.floor
            fetched := CacheValue.setCacheStale true entry.value } :: traffic.answers }

/-- The write continues after ISE's answer: `mark_changed`, where the write calls it, and
`invalidate_detail`. -/
def invalidate (traffic : Traffic α) (write : PortalWrite) (marked : Bool) : Traffic α :=
  let endpointId := write.endpointId
  { traffic with
    cache := invalidateDetail
      (if marked then traffic.cache.markChanged endpointId else traffic.cache) endpointId
    dropped := raise traffic.dropped endpointId write.version
    writes := traffic.writes.map fun other =>
      if other = write then { other with invalidated := true } else other }

omit [PyText] [CacheValue α] in
/-- The write returns to its caller. -/
def finish (traffic : Traffic α) (write : PortalWrite) : Traffic α :=
  { traffic with
    returned := raise traffic.returned write.endpointId write.version
    writes := traffic.writes.filter (·.id ≠ write.id) }

/-- One step; `none` is a step that is not possible. -/
def step (contents : EndpointId → Nat → α) (traffic : Traffic α) (op : TrafficOp) :
    Option (Traffic α) :=
  match op with
  | .tick now => some { traffic with now := now }
  | .settings cfg => some { traffic with cfg := cfg }
  | .read endpointId forceFresh => some (traffic.getDetail endpointId forceFresh)
  | .refresh endpointId drip =>
      some (traffic.startFetch endpointId (if drip then .drip else .scan))
  | .send fetchId =>
      some { traffic with
        fetches := traffic.fetches.map fun fetch =>
          if fetch.id = fetchId then
            { fetch with issued := some (traffic.committed fetch.endpointId) }
          else fetch }
  | .deliver fetchId version =>
      match traffic.fetches.find? (·.id = fetchId) with
      | none => none
      | some fetch =>
          match fetch.issued with
          | none => none
          | some issued =>
              -- ISE read the endpoint after the request was sent
              if issued ≤ version ∧ version ≤ traffic.committed fetch.endpointId then
                some (traffic.store contents fetch issued version)
              else none
  | .fail fetchId => (traffic.fetches.find? (·.id = fetchId)).map traffic.giveUp
  | .cancel fetchId =>
      some { traffic with
        fetches := traffic.fetches.filter (·.id ≠ fetchId)
        readers := traffic.readers.filter (·.fetchId ≠ fetchId) }
  | .fallBack readerId =>
      (traffic.readers.find? fun reader => reader.id = readerId ∧ reader.failed).map
        traffic.fallBack
  | .change endpointId =>
      some { traffic with
        committed := raise traffic.committed endpointId (traffic.committed endpointId + 1) }
  | .commit endpointId =>
      some { traffic with
        committed := raise traffic.committed endpointId (traffic.committed endpointId + 1)
        writes :=
          { id := traffic.nextId, endpointId := endpointId
            version := traffic.committed endpointId + 1 } :: traffic.writes
        nextId := traffic.nextId + 1 }
  | .invalidate writeId marked =>
      (traffic.writes.find? fun write => write.id = writeId ∧ !write.invalidated).map
        fun write => traffic.invalidate write marked
  | .finish writeId =>
      (traffic.writes.find? fun write => write.id = writeId ∧ write.invalidated).map
        traffic.finish
  | .invalidateDetail endpointId =>
      some { traffic with cache := traffic.cache.invalidateDetail endpointId }
  | .invalidateAll => some { traffic with cache := traffic.cache.invalidateAll }
  | .markChanged endpointId =>
      some { traffic with cache := traffic.cache.markChanged endpointId }
  | .forgetTierEma endpointId =>
      some { traffic with cache := traffic.cache.forgetTierEma endpointId }

/-- The portal before any of this, with what the cache holds from before. -/
def start (cfg : CacheSettings) (now : Time) (cache : EndpointCache (Fetched α)) : Traffic α :=
  { cfg := cfg, now := now, cache := cache }

end Traffic

end IsePortal
