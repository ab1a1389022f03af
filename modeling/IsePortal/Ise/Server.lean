import IsePortal.Platform.Text
import IsePortal.Service.EndpointHelpers

/-!
# ISE as the portal calls it

The endpoint records of ISE and the answers of its interfaces (`app/ise/endpoints.py`,
`openapi_endpoints.py`, `coa.py`, `anc.py` and `profiling.py`). ISE is the state the calls read
and write; whether a call is refused, by ISE or on the way to it, is part of that state, so
that every result holds whatever ISE answers.
-/

namespace IsePortal

open Library

/-- `IseApiError`: a transport error has the status code 0. `payloadTitle` is the title of the
first message in ISE's answer. -/
structure IseApiError where
  statusCode : Nat
  message : String
  payloadTitle : String := ""
  deriving DecidableEq

/-- `str(exc)` -/
def IseApiError.text (exc : IseApiError) : String :=
  "ISE API " ++ toString exc.statusCode ++ ": " ++ exc.message

/-- One endpoint as ISE returns it, with the fields the portal reads; a missing key is the empty
text. The two interfaces of ISE name the profile and the timestamps differently. -/
structure RawEndpoint where
  id : Option EndpointId := none
  name : String := ""
  mac : String := ""
  description : Option String := none
  groupId : String := ""
  staticGroupAssignment : Bool := false
  profileId : String := ""
  endpointProfileId : String := ""
  endpointProfile : String := ""
  staticProfileAssignment : Bool := false
  portalUser : String := ""
  identityStore : String := ""
  identityStoreId : String := ""
  createTime : String := ""
  createdAt : String := ""
  updateTime : String := ""
  updatedAt : String := ""
  customAttributes : Attrs := Dict.empty
  probes : Dict String String := Dict.empty

/-- `first or second` on texts -/
def orElse (first second : String) : String := if first = "" then second else first

/-- `raw.get("mac") or raw.get("name")` -/
def RawEndpoint.macOrName (raw : RawEndpoint) : String := orElse raw.mac raw.name

/-- One endpoint in a listing of ISE, which has no custom attributes. -/
structure RawSummary where
  id : EndpointId
  name : String := ""
  description : Option String := none
  profileId : String := ""
  deriving DecidableEq

/-- The two calls of `app/ise/coa.py`. -/
inductive CoaAction where
  | reauth
  | disconnect
  deriving DecidableEq

/-- The calls ISE may refuse. -/
inductive IseCall where
  | getEndpoint (endpointId : EndpointId)
  | putEndpoint (endpointId : EndpointId)
  | deleteEndpoint (endpointId : EndpointId)
  | getProbes (endpointId : EndpointId)
  | getProfilerProfile (profileId : String)
  | listEndpoints
  | coa (action : CoaAction) (mac : String)
  | ancApply (mac policyName : String)
  | ancClear (mac : String)
  | ancAssignments
  deriving DecidableEq

/-- What ISE holds, and which calls it refuses. `mntAnswer` is the outcome `_call_mnt` reads off
an answer that did come. The listings are those of ISE for a page, a size and the filters, and
for the filters alone. -/
structure IseServer where
  endpoints : EndpointId → Option RawEndpoint
  profilerProfiles : String → Option (Dict String String) := fun _ => none
  ancAssignments : List (String × Option String) := []
  mntAnswer : CoaAction → String → Bool × String := fun _ _ => (true, "")
  listing : Nat → Nat → List String → List RawSummary × Nat := fun _ _ _ => ([], 0)
  fullListing : List String → List RawSummary := fun _ => []
  refusal : IseCall → Option IseApiError := fun _ => none

namespace IseServer

/-- A call ISE may refuse, or answer with 404 where it has nothing under the id. -/
def call {α : Type} (ise : IseServer) (request : IseCall) (answer : Option α) :
    Except IseApiError α :=
  match ise.refusal request with
  | some exc => .error exc
  | none =>
      match answer with
      | none => .error { statusCode := 404, message := "Not Found" }
      | some value => .ok value

/-- `endpoints.get` -/
def get (ise : IseServer) (endpointId : EndpointId) : Except IseApiError RawEndpoint :=
  ise.call (.getEndpoint endpointId) (ise.endpoints endpointId)

/-- `endpoints.update`: whether ISE takes it. -/
def put (ise : IseServer) (endpointId : EndpointId) : Except IseApiError Unit :=
  ise.call (.putEndpoint endpointId) ((ise.endpoints endpointId).map fun _ => ())

/-- `endpoints.delete`: whether ISE takes it. -/
def delete (ise : IseServer) (endpointId : EndpointId) : Except IseApiError Unit :=
  ise.call (.deleteEndpoint endpointId) ((ise.endpoints endpointId).map fun _ => ())

/-- `GET /api/v1/endpoint/{id}` -/
def getProbes (ise : IseServer) (endpointId : EndpointId) :
    Except IseApiError (Dict String String) :=
  ise.call (.getProbes endpointId) ((ise.endpoints endpointId).map RawEndpoint.probes)

/-- `GET /ers/config/profilerprofile/{id}` -/
def getProfilerProfile (ise : IseServer) (profileId : String) :
    Except IseApiError (Dict String String) :=
  ise.call (.getProfilerProfile profileId) (ise.profilerProfiles profileId)

/-- `endpoints.list_page` -/
def listPage (ise : IseServer) (page size : Nat) (filters : List String) :
    Except IseApiError (List RawSummary × Nat) :=
  ise.call .listEndpoints (some (ise.listing page size filters))

/-- `endpoints.list_all` -/
def listAll (ise : IseServer) (filters : List String) : Except IseApiError (List RawSummary) :=
  ise.call .listEndpoints (some (ise.fullListing filters))

/-- A server that refuses the same calls and holds the image of the answer. -/
theorem call_map {α β : Type} {ise other : IseServer} (hrefusal : other.refusal = ise.refusal)
    (f : α → β) (request : IseCall) (answer : Option α) :
    other.call request (answer.map f) = (ise.call request answer).map f := by
  unfold call
  rw [hrefusal]
  cases ise.refusal request with
  | some exc => rfl
  | none => cases answer <;> rfl

variable [PyText]

/-- `_normalize_mac` -/
def normalizeMac (mac : String) : String :=
  PyText.upper (PyText.strip (String.ofList (mac.toList.map fun c => if c = '-' then ':' else c)))

/-- `_call_mnt` -/
def callMnt (ise : IseServer) (action : CoaAction) (mac : String) :
    Except IseApiError (Bool × String) :=
  ise.call (.coa action (normalizeMac mac)) (some (ise.mntAnswer action (normalizeMac mac)))

/-- `anc.apply` and `anc.clear`, which answer a refusal with ISE's message. -/
def ancCall (ise : IseServer) (request : IseCall) (done : String) : Bool × String :=
  match ise.refusal request with
  | none => (true, done)
  | some exc => (false, orElse exc.payloadTitle exc.text)

/-- `anc.apply` -/
def ancApply (ise : IseServer) (mac policyName : String) : Bool × String :=
  ise.ancCall (.ancApply (normalizeMac mac) policyName)
    ("ANC policy '" ++ policyName ++ "' sat på " ++ normalizeMac mac)

/-- `anc.clear` -/
def ancClear (ise : IseServer) (mac : String) : Bool × String :=
  ise.ancCall (.ancClear (normalizeMac mac)) ("ANC karantæne fjernet fra " ++ normalizeMac mac)

/-- `anc.get_endpoint_status`: the first assignment of the MAC, none where ISE refuses. -/
def ancStatus (ise : IseServer) (mac : String) : Option String :=
  match ise.refusal .ancAssignments with
  | some _ => none
  | none =>
      (ise.ancAssignments.find? fun assignment =>
        normalizeMac assignment.1 = normalizeMac mac).bind Prod.snd

end IseServer

end IsePortal
