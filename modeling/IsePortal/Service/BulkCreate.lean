import IsePortal.Api.EndpointRoutes
import IsePortal.Library.TaskPool

/-!
# Bulk create

`bulk_create` of `app/services/endpoint_service.py`: one task for each item behind a semaphore,
which creates the endpoint and, where ISE has it already, looks it up and overwrites it. The tasks
run in a pool, and the answers of ISE arrive in any order.
-/

namespace IsePortal

open Library

/-- `BulkCreateRequest` -/
structure BulkCreateRequest where
  items : List CreateEndpointRequest
  overwrite : Bool := false

/-- `BulkFailure` -/
structure BulkFailure where
  mac : String
  error : String
  deriving DecidableEq

/-- `BulkResult` -/
structure BulkResult where
  succeeded : List String := []
  skipped : List String := []
  overwritten : List String := []
  failed : List BulkFailure := []
  deriving DecidableEq

/-! ## Calls to ISE -/

/-- The exceptions of a call to ISE. -/
inductive CallError where
  | ise (exc : IseApiError)
  /-- A `ValueError`: the body of an answer is no JSON. -/
  | value (text : String)

/-- How a write to ISE ends for the client. -/
inductive CallReply where
  /-- The last attempt is lost in transport, or the circuit breaker lets none through. -/
  | unanswered (exc : IseApiError)
  | response (status : Nat) (message : String)
  /-- An answer of success whose body cannot be read. -/
  | unreadable (text : String)

/-- A write to ISE, which is made again when it is lost in transport. `lost` says of each attempt
that was lost whether ISE had taken it. -/
structure WriteCall where
  lost : List Bool := []
  reply : CallReply

/-- What the client makes of it. -/
def CallReply.answer : CallReply → Except CallError Unit
  | .unanswered exc => .error (.ise exc)
  | .response status message =>
      if 300 ≤ status then .error (.ise { statusCode := status, message := message }) else .ok ()
  | .unreadable text => .error (.value text)

namespace WriteCall

/-- ISE's success has reached the portal. -/
def confirmed (call : WriteCall) : Bool :=
  match call.reply.answer with
  | .ok () => true
  | .error _ => false

/-- The portal does not learn of an attempt that ISE has taken. -/
def unclear (call : WriteCall) : Bool :=
  call.lost.any id ||
    match call.reply with
    | .unreadable _ => true
    | _ => false

/-- ISE has taken the write, in one attempt or another. -/
def taken (call : WriteCall) : Bool := call.confirmed || call.unclear

end WriteCall

/-- ISE says that the endpoint exists: with 409, or with 500 and a text that says so. -/
def isConflict [PyText] (exc : IseApiError) : Bool :=
  exc.statusCode = 409 ||
    (exc.statusCode = 500 && contains "already exist" (PyText.lower exc.text))

/-! ## The task of an item -/

/-- Where a task waits. -/
inductive BulkStage where
  /-- `endpoints.create` -/
  | creating
  /-- `endpoints.get_by_mac` -/
  | locating
  /-- `endpoints.update` -/
  | updating (endpointId : EndpointId)

/-- `_process_one` in flight, with the writes that have been answered. -/
structure BulkTask where
  item : CreateEndpointRequest
  stage : BulkStage := .creating
  writes : List WriteCall := []

/-- What becomes of an item. An exception `_process_one` does not catch leaves it in no list. -/
inductive ItemOutcome where
  | succeeded
  | skipped
  | overwritten
  | failed (error : String)
  | raised (text : String)
  deriving DecidableEq

/-- A task that is over. -/
structure FinishedItem where
  item : CreateEndpointRequest
  outcome : ItemOutcome
  writes : List WriteCall

namespace FinishedItem

def mac (finished : FinishedItem) : String := finished.item.mac

/-- ISE has confirmed a write of the item. -/
def confirmed (finished : FinishedItem) : Bool := finished.writes.any WriteCall.confirmed

/-- ISE has taken a write of the item. -/
def taken (finished : FinishedItem) : Bool := finished.writes.any WriteCall.taken

/-- ISE has taken a write of the item without the portal learning of it. -/
def unclear (finished : FinishedItem) : Bool := finished.writes.any WriteCall.unclear

end FinishedItem

/-- The answer a task waits for. -/
inductive BulkAnswer where
  | created (call : WriteCall)
  | located (existing : Except CallError (Option RawEndpoint))
  | updated (call : WriteCall)

/-- What a call depends on beside the request. `stamp` is the registration date of the writes. -/
structure BulkContext where
  psk : PskSettings
  autoTagUsername : Option String := none
  stamp : String
  concurrency : Nat

section Tasks

variable [PyText]

/-- `create_endpoint` up to its write: a key that fails the check raises. -/
def BulkTask.begin (ctx : BulkContext) (item : CreateEndpointRequest) : BulkTask ⊕ FinishedItem :=
  match createAttrs ctx.psk item.customAttributes ctx.autoTagUsername ctx.stamp with
  | .error text => .inr { item := item, outcome := .raised text, writes := [] }
  | .ok _ => .inl { item := item }

/-- `_process_one` once the create has been answered. -/
def BulkTask.onCreated (overwrite : Bool) (task : BulkTask) (call : WriteCall) :
    BulkTask ⊕ FinishedItem :=
  let ended (outcome : ItemOutcome) : BulkTask ⊕ FinishedItem :=
    .inr { item := task.item, outcome := outcome, writes := task.writes ++ [call] }
  match call.reply.answer with
  | .ok () => ended .succeeded
  | .error (.value text) => ended (.raised text)
  | .error (.ise exc) =>
      if isConflict exc then
        if overwrite then
          .inl { task with stage := .locating, writes := task.writes ++ [call] }
        else ended .skipped
      else ended (.failed exc.text)

/-- `_overwrite_existing` up to its write. The attributes are checked as for the create; the
snapshot `update_endpoint` takes after the check decides nothing here. -/
def BulkTask.onLocated (ctx : BulkContext) (task : BulkTask)
    (existing : Except CallError (Option RawEndpoint)) : BulkTask ⊕ FinishedItem :=
  let failed (error : String) : BulkTask ⊕ FinishedItem :=
    .inr { item := task.item, outcome := .failed error, writes := task.writes }
  match existing with
  | .error (.ise exc) => failed ("overwrite fejlede: " ++ exc.text)
  | .error (.value text) => failed text
  | .ok none =>
      failed ("409 ved create, men endpoint med MAC " ++ task.item.mac ++ " blev ikke fundet")
  | .ok (some raw) =>
      let endpointId := raw.id.getD ""
      if endpointId = "" then
        failed ("eksisterende endpoint for " ++ task.item.mac ++ " har intet id")
      else
        match updateAttrs ctx.psk task.item.customAttributes ctx.autoTagUsername none
            ctx.stamp with
        | .error text => failed text
        | .ok _ => .inl { task with stage := .updating endpointId }

omit [PyText] in
/-- `_process_one` once the update has been answered. -/
def BulkTask.onUpdated (task : BulkTask) (call : WriteCall) : FinishedItem where
  item := task.item
  outcome :=
    match call.reply.answer with
    | .ok () => .overwritten
    | .error (.ise exc) => .failed ("overwrite fejlede: " ++ exc.text)
    | .error (.value text) => .failed text
  writes := task.writes ++ [call]

/-- The tasks of `bulk_create`. -/
def bulkProgram (ctx : BulkContext) (overwrite : Bool) :
    PoolProgram CreateEndpointRequest BulkTask FinishedItem BulkAnswer where
  limit := ctx.concurrency
  begin := BulkTask.begin ctx
  go task answer :=
    match task.stage, answer with
    | .creating, .created call => some (task.onCreated overwrite call)
    | .locating, .located existing => some (task.onLocated ctx existing)
    | .updating _, .updated call => some (.inr (task.onUpdated call))
    | _, _ => none

end Tasks

/-! ## The call -/

/-- An item is entered in the list it belongs to. -/
def BulkResult.record (result : BulkResult) (finished : FinishedItem) : BulkResult :=
  match finished.outcome with
  | .succeeded => { result with succeeded := result.succeeded ++ [finished.mac] }
  | .skipped => { result with skipped := result.skipped ++ [finished.mac] }
  | .overwritten => { result with overwritten := result.overwritten ++ [finished.mac] }
  | .failed error =>
      { result with failed := result.failed ++ [{ mac := finished.mac, error := error }] }
  | .raised _ => result

/-- The lists after these tasks, in the order they were over. -/
def bulkLists (ended : List FinishedItem) : BulkResult := ended.foldl BulkResult.record {}

/-- The exception `gather` passes on: the first one. -/
def firstRaised (ended : List FinishedItem) : Option String :=
  ended.findSome? fun finished =>
    match finished.outcome with
    | .raised text => some text
    | _ => none

/-- `bulk_create` in flight: its tasks, what it has returned or raised, and whether it has cleared
the cache. -/
structure BulkRun where
  pool : TaskPool CreateEndpointRequest BulkTask FinishedItem
  returned : Option (Except String BulkResult) := none
  invalidated : Bool := false

/-- A task goes on, or `gather` is through. -/
inductive BulkStep where
  | task (step : PoolStep BulkAnswer)
  | returns

namespace BulkRun

/-- The call as it begins. -/
def start (req : BulkCreateRequest) : BulkRun where
  pool := { waiting := req.items }

/-- `bulk_create` once `gather` is through: with the first exception of a task, while the others go
on, or when all tasks are over. -/
def finish (run : BulkRun) : Option BulkRun :=
  if run.returned.isSome then none
  else
    match firstRaised run.pool.ended with
    | some text => some { run with returned := some (.error text) }
    | none =>
        if run.pool.waiting = [] ∧ run.pool.running = [] then
          let result := bulkLists run.pool.ended
          some { run with
            returned := some (.ok result)
            invalidated := run.invalidated || !result.succeeded.isEmpty ||
              !result.overwritten.isEmpty }
        else none

/-- One step; `none` is a step that is not possible. -/
def step [PyText] (ctx : BulkContext) (overwrite : Bool) (run : BulkRun) :
    BulkStep → Option BulkRun
  | .task label =>
      (run.pool.step (bulkProgram ctx overwrite) label).map fun pool => { run with pool := pool }
  | .returns => run.finish

end BulkRun

end IsePortal
