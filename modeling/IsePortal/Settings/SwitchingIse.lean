import IsePortal.Cache.Traffic
import IsePortal.Ise.NetworkDevices
import IsePortal.Policy.SourcedReads

/-!
# Switching to another ISE

What the portal keeps of ISE around `update_backend_settings` of `services/settings_service.py`:
the endpoint cache with its groups, the policy caches of `services/policy_service.py` and the
network devices, the reads that are served from them, and the fetches on their way. A service is
built from the client of the moment (`get_ise_client`) and keeps it, so what it fetches comes from
the ISE of that moment. A step is what happens between two `await`.

Every value carries the target it was fetched from. `replaced` has the targets replaced by an update
that has gone through its invalidations, and says whether it has returned; a target that is set
again is no longer among them. It serves the statements only, as do the answers.
-/

namespace IsePortal.SwitchingIse

open Library EndpointCache PolicyReads

/-- What the settings say about ISE: `ise_base_url` and `ise_api_type`. -/
structure IseTarget where
  iseBaseUrl : String
  iseApiType : String := "ers"
  deriving DecidableEq

instance {ω α : Type} [CacheValue α] : CacheValue (Sourced ω α) where
  roles sourced := CacheValue.roles sourced.value
  estimateSize sourced := CacheValue.estimateSize sourced.value
  hashValue sourced := CacheValue.hashValue sourced.value
  setCacheStale stale sourced :=
    { sourced with value := CacheValue.setCacheStale stale sourced.value }

/-! ## The portal -/

/-- What a fetch brings. A group fetch that is not coalesced is made with the cache off. -/
inductive Wanted where
  | detail (endpointId : EndpointId) (kind : FetchKind)
  | groups (coalesced : Bool)
  deriving DecidableEq

/-- A fetch in flight, on a service built for this target. -/
structure Fetch where
  id : Nat
  service : IseTarget
  wanted : Wanted
  deriving DecidableEq

/-- A call that waits for a fetch. `failed` is the endpoint to fall back to once it has raised. -/
structure Reader where
  id : Nat
  fetchId : Nat
  failed : Option EndpointId := none
  deriving DecidableEq

/-- An `update_backend_settings` in flight: the target it replaces, and whether it has gone through
its invalidations. -/
structure SettingsUpdate where
  id : Nat
  replaces : Option IseTarget
  cleared : Bool := false
  deriving DecidableEq

/-- A target that an update has replaced. It has gone through its invalidations, and may have
returned. -/
structure Replaced where
  target : IseTarget
  returned : Bool := false
  deriving DecidableEq

/-- The targets whose update has gone through its invalidations. -/
def droppedTargets (replaced : List Replaced) : List IseTarget := replaced.map Replaced.target

/-- What a call returns. -/
inductive Given (α : Type) where
  | detail (value : α)
  | details (values : List (EndpointId × α × Bool))
  | groups (groups : List EndpointGroupSummary)
  | policy (result : PolicyResult)
  | device (info : Option DeviceInfo)
  | devices (devices : List DeviceInfo)

/-- A call that has returned, with the targets of all it was made from, and with the targets that
had been replaced by then. -/
structure Answer (α : Type) where
  given : Given α
  sources : List IseTarget
  replaced : List Replaced

/-- The portal: the settings, the client, the services built so far, the caches, and everything in
flight. `groupsFrom` is the target of the cached groups. -/
structure Backend (α : Type) where
  settings : IseTarget
  cfg : CacheSettings
  auditEnabled : Bool
  now : Time
  client : Option String := none
  services : List IseTarget := []
  endpoints : EndpointCache (Sourced IseTarget α)
  groupsFrom : IseTarget
  policy : PolicyStore IseTarget
  devices : NetworkDevices IseTarget
  fetches : List Fetch := []
  readers : List Reader := []
  policyWaits : List (PolicyWait IseTarget) := []
  loads : List (DeviceLoad IseTarget) := []
  updates : List SettingsUpdate := []
  replaced : List Replaced := []
  answers : List (Answer α) := []
  nextId : Nat := 0

/-- The steps. A call names the target its service was built for. -/
inductive Event (α : Type) where
  | tick (now : Time)
  /-- A service is built. -/
  | openService
  /-- `get_detail` -/
  | readDetail (service : IseTarget) (endpointId : EndpointId) (forceFresh : Bool)
  /-- A read that asks ISE without looking at the cache. -/
  | readDirect (service : IseTarget) (endpointId : EndpointId)
  /-- `snapshot_all_details`, or `snapshot_details_for_roles` -/
  | listDetails (effectiveRoles : Option (List String))
  /-- `get_groups` -/
  | readGroups (service : IseTarget)
  /-- The drip loop or a scan starts a fetch. -/
  | refresh (service : IseTarget) (endpointId : EndpointId) (drip : Bool)
  | deliverDetail (fetchId : Nat) (value : α)
  | deliverGroups (fetchId : Nat) (groups : List EndpointGroupSummary)
  /-- A fetch raises. -/
  | fail (fetchId : Nat)
  /-- A task is cancelled, and its readers with it. -/
  | cancel (fetchId : Nat)
  /-- A reader whose fetch raised goes on. -/
  | fallBack (readerId : Nat)
  | invalidateDetail (endpointId : EndpointId)
  | invalidateGroups
  | invalidateAll
  | markChanged (endpointId : EndpointId)
  | forgetTierEma (endpointId : EndpointId)
  | callPolicy (service : IseTarget) (query : PolicyQuery) (now : Time)
  | deliverPolicy (readId : Nat) (data : PolicyData) (now : Time)
  /-- A call of the policy service raises. -/
  | failPolicy (readId : Nat)
  /-- A mutation of a rule drops cached entries. -/
  | invalidatePolicy (policySetId : Option String)
  | ensureDevices
  /-- `force_reload` -/
  | reloadDevices
  /-- `_load_all` runs for the first time. -/
  | startLoad (loadId : Nat)
  /-- The last page of the device list is there. -/
  | listedDevices (loadId : Nat) (idNames : List (String × String))
  | loadedDevice (loadId : Nat) (device : Option NetworkDevice)
  | failLoad (loadId : Nat)
  /-- `get_device_info` -/
  | lookupDevice (ip : String)
  /-- A read of `_all_devices`. -/
  | listDevices
  /-- `update_backend_settings` up to its first `await`. -/
  | update (new : IseTarget) (cfg : CacheSettings)
  /-- The client is closed, and the update goes on. -/
  | closed (updateId : Nat)
  /-- The audit event is recorded, and the update returns. -/
  | recorded (updateId : Nat)
  /-- The update raises. -/
  | updateFails (updateId : Nat)

namespace Backend

variable {α : Type} (backend : Backend α)

/-! ### Answers and fetches -/

/-- A call returns. -/
def answer (sources : List IseTarget) (given : Given α) : Backend α :=
  { backend with
    answers :=
      { given := given, sources := sources, replaced := backend.replaced } :: backend.answers }

/-- A fetch starts. -/
def startFetch (service : IseTarget) (wanted : Wanted) : Backend α :=
  { backend with
    fetches := { id := backend.nextId, service := service, wanted := wanted } :: backend.fetches
    nextId := backend.nextId + 1 }

/-- A call waits for a fetch. -/
def await (fetchId : Nat) : Backend α :=
  { backend with
    readers := { id := backend.nextId, fetchId := fetchId } :: backend.readers
    nextId := backend.nextId + 1 }

/-- `_get_or_create_inflight` and `_get_or_create_groups_inflight`, with the id of the task. -/
def getOrCreateInflight (service : IseTarget) (wanted : Wanted) : Backend α × Nat :=
  match backend.fetches.find? (·.wanted = wanted) with
  | some existing => (backend, existing.id)
  | none => (backend.startFetch service wanted, backend.nextId)

/-- A call that is made without the cache. -/
def fetchDirectly (service : IseTarget) (wanted : Wanted) : Backend α :=
  (backend.startFetch service wanted).await backend.nextId

/-- The fetch is through, and goes to the calls that wait for it. -/
def handOut (fetch : Fetch) (given : Given α) : Backend α :=
  { backend with
    fetches := backend.fetches.filter (·.id ≠ fetch.id)
    readers := backend.readers.filter (·.fetchId ≠ fetch.id)
    answers := ((backend.readers.filter (·.fetchId = fetch.id)).map fun _ =>
      { given := given, sources := [fetch.service], replaced := backend.replaced }) ++
        backend.answers }

/-- What is asked now: the ISE of the client there is, or else of the settings, with the API type
of the settings. -/
def target : IseTarget :=
  { backend.settings with iseBaseUrl := backend.client.getD backend.settings.iseBaseUrl }

/-- `get_ise_client` -/
def getIseClient : Backend α := { backend with client := some backend.target.iseBaseUrl }

/-- A service is built. -/
def openService : Backend α :=
  { backend.getIseClient with services := backend.target :: backend.services }

/-! ### Endpoints -/

section Endpoints

variable [PyText] [CacheValue α]

/-- `get_detail` up to its first `await`. -/
def getDetail (service : IseTarget) (endpointId : EndpointId) (forceFresh : Bool) : Backend α :=
  let joined := backend.getOrCreateInflight service (.detail endpointId .coalesced)
  let miss := joined.1.await joined.2
  if backend.cfg.cacheEnabled then
    match backend.endpoints.details.get? endpointId with
    | none => miss
    | some entry =>
        if !forceFresh && !entry.fromDisk &&
            decide (backend.now - entry.fetchedAt ≤
              effectiveTtlForEntry entry backend.cfg.cacheTtlSeconds) then
          backend.answer [entry.value.source] (.detail entry.value.value)
        else if !forceFresh && entry.fromDisk then
          joined.1.answer [entry.value.source]
            (.detail (CacheValue.setCacheStale true entry.value.value))
        else if !forceFresh && backend.cfg.cacheStaleWhileRevalidate &&
            staleServable backend.cfg backend.now entry then
          joined.1.answer [entry.value.source] (.detail entry.value.value)
        else miss
  else backend.fetchDirectly service (.detail endpointId .bypass)

omit [PyText] [CacheValue α] in
/-- `get_groups` up to its first `await`. -/
def getGroups (service : IseTarget) : Backend α :=
  let joined := backend.getOrCreateInflight service (.groups true)
  let miss := joined.1.await joined.2
  if backend.cfg.cacheEnabled then
    match backend.endpoints.groups with
    | none => miss
    | some entry =>
        if decide (backend.now - entry.fetchedAt ≤ backend.cfg.cacheTtlSeconds) then
          backend.answer [backend.groupsFrom] (.groups entry.value)
        else if backend.cfg.cacheStaleWhileRevalidate then
          joined.1.answer [backend.groupsFrom] (.groups entry.value)
        else miss
  else backend.fetchDirectly service (.groups false)

omit [PyText] [CacheValue α] in
/-- The rows of a snapshot, with their stale flags. -/
def snapshot (entries : List (EndpointId × CachedEntry (Sourced IseTarget α))) : Backend α :=
  backend.answer (entries.map fun entry => entry.2.value.source)
    (.details (entries.map fun entry =>
      (entry.1, entry.2.value.value, entry.2.fromDisk ||
        decide (backend.now - entry.2.fetchedAt >
          effectiveTtlForEntry entry.2 backend.cfg.cacheTtlSeconds))))

/-- The entries a snapshot shows. -/
def snapshotEntries (effectiveRoles : Option (List String)) :
    List (EndpointId × CachedEntry (Sourced IseTarget α)) :=
  match effectiveRoles with
  | none => backend.endpoints.details.entries
  | some roles =>
      backend.endpoints.details.entries.filter fun entry =>
        decide (entry.1 ∈ backend.endpoints.getIdsForRoles roles)

/-- A detail is stored, unless the fetch was made without the cache. -/
def storeDetail (fetch : Fetch) (endpointId : EndpointId) (kind : FetchKind) (value : α) :
    Backend α :=
  let sourced : Sourced IseTarget α := { value := value, source := fetch.service }
  { backend with
    endpoints := if kind = .bypass then backend.endpoints
      else putDetail backend.cfg backend.now backend.endpoints endpointId sourced false }

omit [PyText] [CacheValue α] in
/-- The groups are stored, unless the fetch was made without the cache. -/
def storeGroups (fetch : Fetch) (coalesced : Bool) (groups : List EndpointGroupSummary) :
    Backend α :=
  if coalesced then
    { backend with
      endpoints := { backend.endpoints with
        groups := some { value := groups, fetchedAt := backend.now } }
      groupsFrom := fetch.service }
  else backend

omit [PyText] [CacheValue α] in
/-- The fetch has raised: the readers of a coalesced detail fall back, other readers raise, and a
drip backs off. -/
def giveUp (fetch : Fetch) : Backend α :=
  let rest := { backend with fetches := backend.fetches.filter (·.id ≠ fetch.id) }
  match fetch.wanted with
  | .detail endpointId .coalesced =>
      { rest with
        readers := backend.readers.map fun reader =>
          if reader.fetchId = fetch.id then { reader with failed := some endpointId } else reader }
  | .detail endpointId .drip =>
      { rest with
        endpoints := setFetchBackoff backend.cfg backend.now backend.endpoints endpointId }
  | _ => { rest with readers := backend.readers.filter (·.fetchId ≠ fetch.id) }

/-- A reader whose fetch raised answers with any cached entry; without one it raises too. -/
def fallBack (reader : Reader) (endpointId : EndpointId) : Backend α :=
  let rest := { backend with readers := backend.readers.filter (·.id ≠ reader.id) }
  match backend.endpoints.details.get? endpointId with
  | none => rest
  | some entry =>
      rest.answer [entry.value.source]
        (.detail (CacheValue.setCacheStale true entry.value.value))

end Endpoints

/-! ### Policy and devices -/

/-- A call of the policy service goes on: it returns, or waits for a lookup. -/
def continuePolicy (service : IseTarget) (plan : PolicyPlan) (used : List IseTarget)
    (now : Time) : Backend α :=
  let served := backend.policy.serve now plan used
  match served.2.result? with
  | some result => backend.answer served.1 (.policy result)
  | none =>
      { backend with
        policyWaits :=
          { id := backend.nextId, service := service, plan := served.2, startedAt := now
            used := served.1 } :: backend.policyWaits
        nextId := backend.nextId + 1 }

/-- ISE's answer to a lookup arrives. -/
def deliverPolicy (read : PolicyWait IseTarget) (data : PolicyData) (now : Time) :
    Option (Backend α) :=
  (backend.policy.resume read data).map fun resumed =>
    { backend with
      policy := resumed.1
      policyWaits := backend.policyWaits.filter (·.id ≠ read.id) }.continuePolicy
        read.service resumed.2 (read.usedWith data) now

/-- `ensure_loaded` -/
def ensureDevices : Backend α :=
  if backend.devices.allLoaded || backend.devices.loading then backend
  else
    { backend with
      devices := { backend.devices with loading := true }
      loads := { id := backend.nextId } :: backend.loads
      nextId := backend.nextId + 1 }

/-- A load is over; `loaded` when it got to its end. -/
def endLoad (load : DeviceLoad IseTarget) (loaded : Bool) : Backend α :=
  { backend with
    devices := { backend.devices with
      allLoaded := loaded || backend.devices.allLoaded
      loading := false }
    loads := backend.loads.filter (·.id ≠ load.id) }

/-- A load goes on with what it has left. -/
def keepLoad (load changed : DeviceLoad IseTarget) : Backend α :=
  { backend with
    loads := backend.loads.map fun other => if other.id = load.id then changed else other }

/-- The list of the devices is complete. -/
def listedDevices (load : DeviceLoad IseTarget) (idNames : List (String × String)) : Backend α :=
  if idNames = [] then backend.endLoad load true
  else backend.keepLoad load { load with pending := some idNames }

/-- The answer about the next device is there, or has raised. -/
def loadedDevice [PyText] (load : DeviceLoad IseTarget) (source : IseTarget) (listName : String)
    (rest : List (String × String)) (device : Option NetworkDevice) : Backend α :=
  let stored :=
    { backend with devices := backend.devices.storeDevice source listName device }
  if rest = [] then stored.endLoad load true
  else stored.keepLoad load { load with pending := some rest }

/-! ### Settings -/

/-- The update returns. -/
def finish (update : SettingsUpdate) : Backend α :=
  { backend with
    replaced := backend.replaced.map fun other =>
      if update.replaces = some other.target then { other with returned := true } else other
    updates := backend.updates.filter (·.id ≠ update.id) }

/-- The update goes on once the client is closed: `invalidate_all` of the endpoint cache and
`invalidate` of the network devices. It then waits for the audit event, unless auditing is off. -/
def clear (update : SettingsUpdate) : Backend α :=
  let cleared : SettingsUpdate := { update with cleared := true }
  let next :=
    { backend with
      client := none
      endpoints := backend.endpoints.invalidateAll
      devices := NetworkDevices.invalidate
      replaced :=
        (update.replaces.map fun target => { target := target }).toList ++ backend.replaced
      updates := backend.updates.map fun other => if other = update then cleared else other }
  if backend.auditEnabled then next else next.finish cleared

/-- The settings are saved and in force. An update in flight that replaces the target that is set
now has nothing to replace any more. -/
def switch (new : IseTarget) (cfg : CacheSettings) (update : SettingsUpdate) : Backend α :=
  { backend with
    settings := new
    cfg := cfg
    replaced := backend.replaced.filter (·.target ≠ new)
    updates := update :: backend.updates.map fun other =>
      if other.replaces = some new then { other with replaces := none } else other
    nextId := backend.nextId + 1 }

/-- `update_backend_settings` up to its first `await`: without a client there is none to close. -/
def update (new : IseTarget) (cfg : CacheSettings) : Backend α :=
  let update : SettingsUpdate :=
    { id := backend.nextId
      replaces := if backend.settings = new then none else some backend.settings }
  let switched := backend.switch new cfg update
  if backend.client = none then switched.clear update else switched

/-! ### Steps -/

section Step

variable [PyText] [PyRegex] [CacheValue α]

/-- One step; `none` is a step that is not possible. -/
def step (backend : Backend α) : Event α → Option (Backend α)
  | .tick now => some { backend with now := now }
  | .openService => some backend.openService
  | .readDetail service endpointId forceFresh =>
      if service ∈ backend.services then some (backend.getDetail service endpointId forceFresh)
      else none
  | .readDirect service endpointId =>
      if service ∈ backend.services then
        some (backend.fetchDirectly service (.detail endpointId .bypass))
      else none
  | .listDetails effectiveRoles =>
      some (backend.snapshot (backend.snapshotEntries effectiveRoles))
  | .readGroups service =>
      if service ∈ backend.services then some (backend.getGroups service) else none
  | .refresh service endpointId drip =>
      if service ∈ backend.services then
        some (backend.startFetch service (.detail endpointId (if drip then .drip else .scan)))
      else none
  | .deliverDetail fetchId value =>
      match backend.fetches.find? (·.id = fetchId) with
      | none => none
      | some fetch =>
          match fetch.wanted with
          | .detail endpointId kind =>
              some ((backend.storeDetail fetch endpointId kind value).handOut fetch (.detail value))
          | .groups _ => none
  | .deliverGroups fetchId groups =>
      match backend.fetches.find? (·.id = fetchId) with
      | none => none
      | some fetch =>
          match fetch.wanted with
          | .detail _ _ => none
          | .groups coalesced =>
              some ((backend.storeGroups fetch coalesced groups).handOut fetch (.groups groups))
  | .fail fetchId => (backend.fetches.find? (·.id = fetchId)).map backend.giveUp
  | .cancel fetchId =>
      some { backend with
        fetches := backend.fetches.filter (·.id ≠ fetchId)
        readers := backend.readers.filter (·.fetchId ≠ fetchId) }
  | .fallBack readerId =>
      match backend.readers.find? (·.id = readerId) with
      | none => none
      | some reader => reader.failed.map (backend.fallBack reader)
  | .invalidateDetail endpointId =>
      some { backend with endpoints := backend.endpoints.invalidateDetail endpointId }
  | .invalidateGroups =>
      some { backend with endpoints := { backend.endpoints with groups := none } }
  | .invalidateAll => some { backend with endpoints := backend.endpoints.invalidateAll }
  | .markChanged endpointId =>
      some { backend with endpoints := backend.endpoints.markChanged endpointId }
  | .forgetTierEma endpointId =>
      some { backend with endpoints := backend.endpoints.forgetTierEma endpointId }
  | .callPolicy service query now =>
      if service ∈ backend.services then some (backend.continuePolicy service query.plan [] now)
      else none
  | .deliverPolicy readId data now =>
      match backend.policyWaits.find? (·.id = readId) with
      | none => none
      | some read => backend.deliverPolicy read data now
  | .failPolicy readId =>
      some { backend with policyWaits := backend.policyWaits.filter (·.id ≠ readId) }
  | .invalidatePolicy policySetId =>
      some { backend with policy := backend.policy.invalidate policySetId }
  | .ensureDevices => some backend.ensureDevices
  | .reloadDevices =>
      some { backend with devices := NetworkDevices.invalidate }.ensureDevices
  | .startLoad loadId =>
      match backend.loads.find? fun load => load.id = loadId ∧ load.source = none with
      | none => none
      | some load =>
          some (backend.getIseClient.keepLoad load { load with source := some backend.target })
  | .listedDevices loadId idNames =>
      match backend.loads.find? fun load =>
          load.id = loadId ∧ load.source.isSome ∧ load.pending = none with
      | none => none
      | some load => some (backend.listedDevices load idNames)
  | .loadedDevice loadId device =>
      match backend.loads.find? (·.id = loadId) with
      | none => none
      | some load =>
          match load.source, load.pending with
          | some source, some (next :: rest) =>
              some (backend.loadedDevice load source next.2 rest device)
          | _, _ => none
  | .failLoad loadId =>
      (backend.loads.find? (·.id = loadId)).map fun load => backend.endLoad load false
  | .lookupDevice ip =>
      let found := backend.devices.getDeviceInfo ip
      some (backend.answer (found.map Sourced.source).toList (.device (found.map Sourced.value)))
  | .listDevices =>
      some (backend.answer (backend.devices.allDevices.map Sourced.source)
        (.devices (backend.devices.allDevices.map Sourced.value)))
  | .update new cfg => some (backend.update new cfg)
  | .closed updateId =>
      (backend.updates.find? fun update => update.id = updateId ∧ !update.cleared).map
        backend.clear
  | .recorded updateId =>
      (backend.updates.find? fun update => update.id = updateId ∧ update.cleared).map
        backend.finish
  | .updateFails updateId =>
      some { backend with updates := backend.updates.filter (·.id ≠ updateId) }

end Step

/-- The portal before any of this, with what its caches hold from before. -/
def start (settings : IseTarget) (cfg : CacheSettings) (auditEnabled : Bool) (now : Time)
    (endpoints : EndpointCache (Sourced IseTarget α)) (groupsFrom : IseTarget)
    (policy : PolicyStore IseTarget) (devices : NetworkDevices IseTarget) : Backend α :=
  { settings := settings, cfg := cfg, auditEnabled := auditEnabled, now := now
    endpoints := endpoints, groupsFrom := groupsFrom, policy := policy, devices := devices }

end Backend

end IsePortal.SwitchingIse
