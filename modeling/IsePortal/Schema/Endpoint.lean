import IsePortal.Platform.Text

/-!
# Endpoint schemas

The records of `app/schemas/endpoint.py`. `EndpointDetail` is what every read of an endpoint
returns; `CustomAttrs` is the attribute block of a create or update request, where `none` is
a field that `model_dump(exclude_none=True)` leaves out.
-/

namespace IsePortal

/-- The id ISE gives an endpoint. -/
abbrev EndpointId := String

/-- `EndpointDetail`: the full view of one endpoint. -/
structure EndpointDetail where
  id : EndpointId
  name : String
  mac : String := ""
  description : Option String := none
  groupId : Option String := none
  groupName : String := ""
  staticGroup : Bool := false
  endpointType : String := ""
  owner : String := ""
  lokation : String := ""
  authzVlan : String := ""
  authzAcl : String := ""
  platformType : String := ""
  registretBy : String := ""
  guestRegistration : String := ""
  hypervision : String := ""
  roles : List String := []
  profileId : String := ""
  profilerName : String := ""
  staticProfile : Bool := false
  portalUser : String := ""
  identityStore : String := ""
  identityStoreId : String := ""
  vendor : String := ""
  pskMode : Bool := false
  pskKey : String := ""
  cacheStale : Bool := false
  createTime : String := ""
  updateTime : String := ""
  firstSeenAt : Option Time := none
  status : String := ""
  activeStatus : String := ""
  guestExperyDate : String := ""
  guestAccessExpire : String := ""
  deriving DecidableEq

/-- `EndpointGroupSummary`: one endpoint identity group. -/
structure EndpointGroupSummary where
  id : String
  name : String
  description : Option String := none
  deriving DecidableEq

/-- `CustomAttrs`: the attribute block of a create or update request. -/
structure CustomAttrs where
  type : String := ""
  owner : String := ""
  lokation : String := ""
  authzVlan : String := ""
  authzACL : String := ""
  platformType : String := ""
  registretBy : String := ""
  guestRegistration : String := ""
  hypervisionRoles : String := ""
  hypervisionStatus : Option String := none
  hypervisionActive : Option String := none
  pskMode : Option String := none
  pskKey : Option String := none
  guestExperyDate : Option String := none
  guestAccessExpire : Option String := none
  deriving DecidableEq

/-- `CreateEndpointRequest` -/
structure CreateEndpointRequest where
  mac : String
  groupId : String := ""
  description : String := ""
  staticGroupAssignment : Option Bool := none
  customAttributes : Option CustomAttrs := none

end IsePortal
