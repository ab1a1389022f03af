import IsePortal.Service.EndpointHelpers

/-!
# The audit log

The events of `app/core/audit_store.py`, oldest first, with the snapshots as `json.loads` gives
them back. Searching the log and the source address are left out: no endpoint route uses them.
-/

namespace IsePortal

open Library

/-- A snapshot in an event about an endpoint. -/
inductive AuditSnapshot where
  /-- `EndpointDetail.model_dump()` -/
  | detail (detail : EndpointDetail)
  /-- What `create_endpoint` records. -/
  | created (mac groupId description : String) (staticGroupAssignment : Bool)
      (customAttributes : Attrs)
  /-- A record of the changed fields. -/
  | fields (values : List (String × String))

/-- One row of `audit_events`. -/
structure AuditRow where
  id : Nat
  ts : String
  actorUsername : String
  action : String
  resourceType : String
  resourceId : Option String
  before : Option AuditSnapshot := none
  after : Option AuditSnapshot := none

/-- The rows about one resource, newest first. -/
def resourceRows (rows : List AuditRow) (resourceType resourceId : String) : List AuditRow :=
  (rows.filter fun row =>
    row.resourceType = resourceType ∧ row.resourceId = some resourceId).reverse

/-- `query` for one resource: the first `limit` rows after `offset`, and how many there are. -/
def auditQuery (rows : List AuditRow) (resourceType resourceId : String) (limit offset : Nat) :
    List AuditRow × Nat :=
  (((resourceRows rows resourceType resourceId).drop offset).take limit,
    (resourceRows rows resourceType resourceId).length)

end IsePortal
