import IsePortal.Ise.Listings
import IsePortal.Service.EndpointReads

/-!
# Endpoints as JSON, in both interfaces

What the repositories of `app/ise/endpoints.py` and `app/ise/openapi_endpoints.py` send for a
create and an update, and what they and `_fetch_endpoint_detail` read of an answer. ERS has the
object under `ERSEndPoint` and its attributes in a block inside a block; the Open API has both flat,
and its reader adds the second block.
-/

namespace IsePortal.EndpointBodies

open Library

/-- `settings.ise_api_type` -/
inductive ApiType where
  | ers
  | openApi
  deriving DecidableEq

/-- A dictionary of attributes in a body. -/
def objectOf (attributes : Attrs) : JsonObject :=
  attributes.entries.map fun entry => (entry.1, .str entry.2)

/-- The value of `customAttributes` in a body. -/
def attributeBlock (api : ApiType) (block : JsonObject) : Json :=
  match api with
  | .ers => .obj [("customAttributes", .obj block)]
  | .openApi => .obj block

/-- The body around the object of an endpoint. -/
def payload (api : ApiType) (fields : JsonObject) : Json :=
  match api with
  | .ers => .obj [("ERSEndPoint", .obj fields)]
  | .openApi => .obj fields

/-! ## Writes -/

/-- The object `create` of either repository sends: empty attributes are left out. -/
def createFields (api : ApiType) (mac groupId description : String) (static : Bool)
    (customAttributes : Attrs) : JsonObject :=
  let ers : JsonObject := [("name", .str mac), ("description", .str description), ("mac", .str mac)]
  let ers :=
    if groupId ≠ "" then
      ers ++ [("groupId", .str groupId), ("staticGroupAssignment", .bool static)]
    else ers
  let nonEmpty := customAttributes.filterValues (· ≠ "")
  if nonEmpty.size ≠ 0 then
    ers ++ [("customAttributes", attributeBlock api (objectOf nonEmpty))]
  else ers

/-- The object `update` of either repository sends: empty attributes stay in it, to clear those of
ISE. -/
def updateFields (api : ApiType) (endpointId : EndpointId) (description groupId : Option String)
    (staticGroupAssignment : Option Bool) (customAttributes : Attrs) : JsonObject :=
  let fields : JsonObject := [("id", .str endpointId)]
  let fields :=
    match description with
    | none => fields
    | some description => fields ++ [("description", .str description)]
  let fields :=
    match groupId, staticGroupAssignment with
    | some groupId, static =>
        fields ++
          [("groupId", .str groupId), ("staticGroupAssignment", .bool (static.getD true))]
    | none, some static => fields ++ [("staticGroupAssignment", .bool static)]
    | none, none => fields
  if customAttributes.size ≠ 0 then
    fields ++ [("customAttributes", attributeBlock api (objectOf customAttributes))]
  else fields

/-! ## Reads -/

/-- `data.get("ERSEndPoint", {}) if data else {}` -/
def ersGet (data : Json) : Except PyError Json :=
  if data.truthy then
    match data with
    | .obj data => .ok (JsonObject.getD data "ERSEndPoint" (.obj []))
    | _ => .error .attributeError
  else .ok (.obj [])

/-- `get` of the Open API, some deployments of which wrap the object. -/
def openApiGet (data : Json) : Except PyError Json :=
  if data.truthy then
    match data with
    | .obj fields =>
        match fields.lookup "response", fields.lookup "ERSEndPoint" with
        | some (.obj response), _ => normalizeEndpoint (.obj response)
        | _, some (.obj endpoint) => normalizeEndpoint (.obj endpoint)
        | _, _ => normalizeEndpoint data
    | _ => normalizeEndpoint data
  else .ok (.obj [])

/-- `get` of either repository, on the answer of ISE. -/
def getEndpoint : ApiType → Json → Except PyError Json
  | .ers => ersGet
  | .openApi => openApiGet

/-- `str(v)` -/
def strOf [PyJson] : Json → String
  | .null => "None"
  | .bool value => if value then "True" else "False"
  | value => PyJson.str value

/-- `_extract_custom_attrs` -/
def extractCustomAttrs [PyJson] (endpoint : JsonObject) : List (String × String) :=
  match JsonObject.getD endpoint "customAttributes" (.obj []) with
  | .obj ca =>
      match JsonObject.getD ca "customAttributes" (.obj ca) with
      | .obj inner => inner.map fun field => (field.1, strOf field.2)
      | _ => []
  | _ => []

/-- `ca.get(name, "")` -/
def attrOf (ca : List (String × String)) (name : String) : String := (ca.lookup name).getD ""

/-- A field of type `str`, as pydantic takes it. -/
def asText : Json → Except PyError String
  | .str text => .ok text
  | _ => .error .valueError

/-- A field of type `str | None`. -/
def asOptionalText : Json → Except PyError (Option String)
  | .null => .ok none
  | .str text => .ok (some text)
  | _ => .error .valueError

section Fetch

variable [PyText] [PyJson]

/-- `_fetch_endpoint_detail`, from what `get` has returned. -/
def fetchDetail (lookups : Lookups) (endpointId : EndpointId) :
    Json → Except PyError EndpointDetail
  | .obj raw => do
      let ca := extractCustomAttrs raw
      let groupId ← asOptionalText (JsonObject.getD raw "groupId" (.str ""))
      let profileId ← asText (JsonObject.firstOf raw (.str "") ["profileId", "endpointProfileId"])
      let inlineName ← asText (JsonObject.firstOf raw (.str "") ["endpointProfile"])
      let profilerName := orElse inlineName (lookups.profilerName profileId)
      let mac ← asText (JsonObject.getOr raw "mac" "name")
      let registeredAt := attrOf ca registeredAtAttr
      let createTime ← asText (JsonObject.firstOf raw
        (.str (orElse registeredAt (lookups.auditCreateTime endpointId)))
        ["createTime", "createdAt"])
      let updateTime ← asText (JsonObject.firstOf raw (.str "") ["updateTime", "updatedAt"])
      let id ← asText (JsonObject.getD raw "id" (.str endpointId))
      let name ← asText (JsonObject.getD raw "name" (.str ""))
      let description ← asOptionalText (JsonObject.getD raw "description" .null)
      let portalUser ← asText (JsonObject.firstOf raw (.str "") ["portalUser"])
      let identityStore ← asText (JsonObject.firstOf raw (.str "") ["identityStore"])
      let identityStoreId ← asText (JsonObject.firstOf raw (.str "") ["identityStoreId"])
      return {
        id, name, mac, description, groupId
        groupName :=
          match groupId with
          | none => ""
          | some group => if group = "" then "" else lookups.groupName group
        staticGroup := (JsonObject.getD raw "staticGroupAssignment" (.bool false)).truthy
        endpointType := attrOf ca "Type"
        owner := attrOf ca "Owner"
        lokation := attrOf ca "Lokation"
        authzVlan := attrOf ca "AuthzVlan"
        authzAcl := attrOf ca "AuthzACL"
        platformType := attrOf ca "PlatformType"
        registretBy := attrOf ca "RegistretBy"
        guestRegistration := attrOf ca guestRegistrationAttr
        hypervision := attrOf ca hiddenAttr
        roles := parseRolesCsv (attrOf ca rolesAttr)
        profileId, profilerName
        staticProfile := (JsonObject.getD raw "staticProfileAssignment" (.bool false)).truthy
        portalUser, identityStore, identityStoreId
        vendor := orElse profilerName (lookups.ouiVendor mac)
        pskMode := PyText.lower (attrOf ca pskModeAttr) = "true"
        pskKey := pskDecode (attrOf ca pskKeyAttr)
        createTime, updateTime
        firstSeenAt := lookups.firstSeen mac endpointId registeredAt
        status := attrOf ca "HypervisionStatus"
        activeStatus := attrOf ca activeAttr
        guestExperyDate := attrOf ca guestExperyDateAttr
        guestAccessExpire := attrOf ca guestAccessExpireAttr }
  | _ => .error .attributeError

end Fetch

end IsePortal.EndpointBodies
