import IsePortal.Library.OwnWrites
import IsePortal.Platform.Text

/-!
# The cached list of DACLs

`services/dacl_service.py` keeps the list of downloadable ACLs in three module-level variables: the
list, the time it was stored and the task that fetches it. `list_summaries` serves a list of at most
five minutes as it is, one of at most 150 minutes with a refresh behind it, and otherwise waits for
the fetch in flight or a new one. `create` drops the list once ISE has answered, `update` and
`delete` drop it before they write. A step is what happens between two `await`.

ISE counts the changes it has taken, and every list carries the count it knows.
-/

namespace IsePortal

open Library

/-- `_DACL_TTL` -/
def daclTtl : Time := 300

/-- `_DACL_SWR_MAX` -/
def daclSwrMax : Time := 300 * 30

structure DaclSummary where
  id : String
  name : String
  description : String := ""
  deriving DecidableEq

/-- An item of ISE's answer. -/
structure RawDacl where
  id : Option String := none
  name : String := ""
  description : Option String := none

/-- The summaries of the items that have an id. -/
def daclSummaries (raw : List RawDacl) : List DaclSummary :=
  (raw.filter fun r => r.id.getD "" ≠ "").map fun r =>
    { id := r.id.getD "", name := r.name, description := r.description.getD "" }

/-- The writing calls of the service. -/
inductive DaclChange where
  | create
  | update
  | delete
  deriving DecidableEq

/-- A writing call in flight: the count it has brought ISE to, and whether ISE's answer is there. -/
structure DaclMutation where
  id : Nat
  change : DaclChange
  version : Option Nat := none
  answered : Bool := false

/-- `_fetch_and_cache_dacls` in flight; its request may not have been sent yet. -/
structure ListTask where
  issued : Option Nat := none

/-- A call of `list_summaries` that has returned. `floor` has the mutations that had returned when
it was made; `stale` marks a list served beyond its time. -/
structure DaclAnswer where
  floor : List (OwnWrite DaclChange)
  stale : Bool
  list : Stamped (List DaclSummary)

/-- The service with everything on its way. A task that is done is no task, so those who wait, each
with its floor, all wait for the one in flight. `returned` and `answers` only serve the
statements. -/
structure DaclTraffic where
  now : Time
  cache : Option (Stamped (List DaclSummary)) := none
  cachedAt : Time := 0
  inflight : Option ListTask := none
  waiting : List (List (OwnWrite DaclChange)) := []
  iseChanges : Nat := 0
  mutations : List DaclMutation := []
  returned : List (OwnWrite DaclChange) := []
  answers : List DaclAnswer := []
  nextId : Nat := 0

/-- The steps. -/
inductive DaclStep where
  | tick (now : Time)
  /-- `list_summaries` is called. -/
  | list
  /-- The request for the first page goes to ISE, for the first time or in a further attempt. -/
  | send
  /-- The items of all pages are there; the oldest page knows so many changes. -/
  | deliver (version : Nat) (raw : List RawDacl)
  /-- The fetch raises or is cancelled, and those who wait for it raise too. -/
  | fail
  | begin (change : DaclChange)
  /-- ISE takes the write of a mutation. -/
  | commit (mutationId : Nat)
  /-- ISE's answer to it arrives. -/
  | answered (mutationId : Nat)
  /-- The mutation returns. -/
  | finish (mutationId : Nat)
  /-- The mutation raises. -/
  | abandon (mutationId : Nat)
  /-- Someone else changes a DACL in ISE. -/
  | change

namespace DaclTraffic

variable (traffic : DaclTraffic)

/-- `_dacl_age` -/
def daclAge : Time := traffic.now - traffic.cachedAt

/-- `invalidate_dacl_list_cache` -/
def invalidateDaclListCache : DaclTraffic := { traffic with cache := none, cachedAt := 0 }

/-- The task in flight, or a new one. -/
def ensureTask : DaclTraffic :=
  match traffic.inflight with
  | some _ => traffic
  | none => { traffic with inflight := some {} }

/-- A call is answered from the cache. -/
def serve (list : Stamped (List DaclSummary)) (stale : Bool) : DaclTraffic :=
  { traffic with
    answers := { floor := traffic.returned, stale := stale, list := list } :: traffic.answers }

/-- A call waits for the task in flight. -/
def await : DaclTraffic := { traffic with waiting := traffic.returned :: traffic.waiting }

/-- `list_summaries` up to its first `await`. -/
def listSummaries : DaclTraffic :=
  match traffic.cache with
  | some list =>
      if traffic.daclAge ≤ daclTtl then traffic.serve list false
      else if traffic.daclAge ≤ daclSwrMax then traffic.ensureTask.serve list true
      else traffic.ensureTask.await
  | none => traffic.ensureTask.await

/-- `_fetch_and_cache_dacls` stores what it was given and hands it to those who wait. -/
def fetchAndCacheDacls (version : Nat) (raw : List RawDacl) : DaclTraffic :=
  let list : Stamped (List DaclSummary) := { value := daclSummaries raw, version := version }
  { traffic with
    cache := some list
    cachedAt := traffic.now
    inflight := none
    waiting := []
    answers := (traffic.waiting.map fun floor =>
      { floor := floor, stale := false, list := list }) ++ traffic.answers }

/-- A mutation up to its first `await`: `update` and `delete` drop the list. -/
def begin (change : DaclChange) : DaclTraffic :=
  let dropped :=
    match change with
    | .create => traffic
    | .update | .delete => traffic.invalidateDaclListCache
  { dropped with
    mutations := { id := traffic.nextId, change := change } :: traffic.mutations
    nextId := traffic.nextId + 1 }

/-- The entry of a mutation replaced. -/
def setMutation (mutation : DaclMutation) : DaclTraffic :=
  { traffic with
    mutations := traffic.mutations.map fun other =>
      if other.id = mutation.id then mutation else other }

/-- ISE's answer to a mutation is there: `create` drops the list. -/
def answered (mutation : DaclMutation) : DaclTraffic :=
  let dropped :=
    match mutation.change with
    | .create => traffic.invalidateDaclListCache
    | .update | .delete => traffic
  dropped.setMutation { mutation with answered := true }

/-- A mutation returns. -/
def finish (mutation : DaclMutation) (version : Nat) : DaclTraffic :=
  { traffic with
    mutations := traffic.mutations.filter (·.id ≠ mutation.id)
    returned := { key := mutation.change, version := version } :: traffic.returned }

/-- One step; `none` is a step that is not possible. -/
def step (label : DaclStep) : Option DaclTraffic :=
  match label with
  | .tick now => some { traffic with now := now }
  | .list => some traffic.listSummaries
  | .send =>
      traffic.inflight.map fun _ =>
        { traffic with inflight := some { issued := some traffic.iseChanges } }
  | .deliver version raw =>
      match traffic.inflight.bind ListTask.issued with
      | none => none
      | some issued =>
          -- ISE read the first page after the request was sent
          if issued ≤ version ∧ version ≤ traffic.iseChanges then
            some (traffic.fetchAndCacheDacls version raw)
          else none
  | .fail => traffic.inflight.map fun _ => { traffic with inflight := none, waiting := [] }
  | .begin change => some (traffic.begin change)
  | .commit mutationId =>
      (traffic.mutations.find? fun mutation =>
          mutation.id = mutationId ∧ mutation.version = none).map fun mutation =>
        { traffic with iseChanges := traffic.iseChanges + 1 }.setMutation
          { mutation with version := some (traffic.iseChanges + 1) }
  | .answered mutationId =>
      (traffic.mutations.find? fun mutation =>
          mutation.id = mutationId ∧ mutation.version.isSome).map traffic.answered
  | .finish mutationId =>
      (traffic.mutations.find? fun mutation =>
          mutation.id = mutationId ∧ mutation.answered).bind fun mutation =>
        mutation.version.map (traffic.finish mutation)
  | .abandon mutationId =>
      some { traffic with mutations := traffic.mutations.filter (·.id ≠ mutationId) }
  | .change => some { traffic with iseChanges := traffic.iseChanges + 1 }

/-- The service when the module has been loaded. -/
def start (now : Time) : DaclTraffic := { now := now }

end DaclTraffic

end IsePortal
