import IsePortal.Service.EndpointReads

/-!
# The endpoint routes

The routes of `app/api/endpoints.py` and `app/api/endpoints_ops.py` on endpoints that exist,
each with its role guard, the service function behind it and the writes ISE takes on its way.
`ReadRequest` are the reads that filter by the user's scope or show audit snapshots;
`EndpointRequest` are the routes keyed by an endpoint id or a list of ids. Logging and the audit
records of the writes are left out.
-/

namespace IsePortal

open Library

/-! ## Reads -/

/-- One event of the history of an endpoint. -/
structure HistoryEvent where
  id : Nat
  ts : String
  actorUsername : String
  action : String
  before : Option AuditSnapshot
  after : Option AuditSnapshot

/-- The event a row is shown as. -/
def AuditRow.event (row : AuditRow) : HistoryEvent :=
  { id := row.id, ts := row.ts, actorUsername := row.actorUsername, action := row.action,
    before := row.before, after := row.after }

/-- The rows `get_endpoint_history` asks for. -/
def historyRows (audit : List AuditRow) (endpointId : EndpointId) (limit : Nat) :
    List AuditRow × Nat :=
  auditQuery audit "endpoint" endpointId limit 0

/-- The cache headers of `get_endpoint`. -/
structure CacheHeaders where
  cacheEnabled : Bool
  fromCache : Bool
  cacheAgeSeconds : Option Rat := none
  deriving DecidableEq

/-- The read routes. -/
inductive ReadRequest where
  | getEndpoint (endpointId : EndpointId) (fresh : Bool)
  | listEndpoints (page size : Nat) (search : Option String) (filter : List String)
  | listEndpointDetails (page size : Nat) (search : Option String) (filter : List String)
  | listAllEndpointDetails (search q : Option String) (filter : List String)
  | getEndpointHistory (endpointId : EndpointId) (limit : Nat)

/-- The body of an answer to a read. -/
inductive ReadAnswer where
  | detail (detail : EndpointDetail) (headers : CacheHeaders)
  | summaries (items : List EndpointSummary)
  | page (page : PaginatedEndpointDetails)
  | details (items : List EndpointDetail)
  | history (events : List HistoryEvent) (total : Nat)

/-- The roles a read admits. -/
def ReadRequest.roles : ReadRequest → List Role
  | .listAllEndpointDetails .. => requireRegisterLookup
  | .getEndpointHistory .. => requireEditor
  | _ => requireAny

section Reads

variable [PyText] [DetailCodec]

/-- The headers of `get_endpoint`: what was cached before, and the age of what is now. -/
def cacheHeaders (lookups : Lookups) (portal : PortalState) (endpointId : EndpointId)
    (fresh : Bool) : CacheHeaders :=
  let ageBefore := (portal.cache.details.get? endpointId).map fun entry =>
    portal.now - entry.fetchedAt
  if portal.cfg.cacheEnabled then
    let stored :=
      match portal.getDetail lookups endpointId fresh with
      | .ok read => read.stored
      | .error _ => false
    { cacheEnabled := true
      fromCache := ageBefore.isSome
      cacheAgeSeconds := if stored then some 0 else ageBefore }
  else { cacheEnabled := false, fromCache := false }

/-- A read for a user with this scope, behind its guard. -/
def ReadRequest.run (lookups : Lookups) (portal : PortalState) (scope : Option (List String))
    (isPskEditor : Bool) : ReadRequest → Except HttpError ReadAnswer
  | .getEndpoint endpointId fresh =>
      match portal.getEndpoint lookups endpointId scope isPskEditor fresh with
      | .error exc => .error (iseHttpError exc)
      | .ok detail => .ok (.detail detail (cacheHeaders lookups portal endpointId fresh))
  | .listEndpoints page size search filter =>
      match portal.listEndpoints lookups page size search filter scope with
      | .error exc => .error (iseHttpError exc)
      | .ok items => .ok (.summaries items)
  | .listEndpointDetails page size search filter =>
      .ok (.page (portal.listEndpointDetails lookups page size search filter scope isPskEditor))
  | .listAllEndpointDetails search q filter =>
      .ok (.details (portal.listAllEndpointDetails lookups search filter scope isPskEditor q))
  | .getEndpointHistory endpointId limit =>
      let (rows, total) := historyRows portal.audit endpointId limit
      .ok (.history (rows.map AuditRow.event) total)

/-- The answer to a read of a user. -/
def respond (lookups : Lookups) (portal : PortalState) (user : User) (request : ReadRequest) :
    Except HttpError ReadAnswer :=
  guarded request.roles user
    (request.run lookups portal (scopeFor user) (isPskEditorFor user))

end Reads

/-! ## Writes -/

/-- The fields `endpoints.update` sends. -/
structure PutFields where
  description : Option String := none
  groupId : Option String := none
  staticGroupAssignment : Option Bool := none
  customAttributes : Attrs

/-- A write ISE took, with the endpoint it was made for. -/
inductive IseWrite where
  | put (endpointId : EndpointId) (fields : PutFields)
  | delete (endpointId : EndpointId)
  | coa (endpointId : EndpointId) (action : CoaAction) (mac : String)
  | ancApply (endpointId : EndpointId) (mac policyName : String)
  | ancClear (endpointId : EndpointId) (mac : String)

/-- The endpoint of a write. -/
def IseWrite.endpointId : IseWrite → EndpointId
  | .put endpointId _ | .delete endpointId | .coa endpointId _ _ | .ancApply endpointId _ _
  | .ancClear endpointId _ => endpointId

/-- What a service function did: the writes ISE took, and its result. -/
structure Performed (α : Type) where
  writes : List IseWrite := []
  result : Except IseApiError α

/-- `EndpointUpdate` -/
structure EndpointUpdate where
  description : Option String := none
  groupId : Option String := none
  staticGroupAssignment : Option Bool := none
  customAttributes : Option CustomAttrs := none

/-- The fields of a template; an empty text is left out of the write. -/
structure Template where
  name : String := ""
  groupId : String := ""
  description : String := ""
  staticGroupAssignment : Option Bool := none
  customAttributes : Attrs := Dict.empty

/-- The settings the routes read. -/
structure PortalSettings where
  psk : PskSettings
  decommSetAuthz : Bool := false
  decommAuthzVlan : String := "999"
  decommAuthzAcl : String := "deny_all_ipv4_traffic"
  selfregisterExpiryCoaEnabled : Bool := false
  selfregisterExpiryCoaType : String := "reauth"

/-- What a request works on: the portal as the request finds it and as it is once an update is
through, the templates, the registration date an update falls back on, and `repr` of a text. -/
structure RouteContext where
  settings : PortalSettings
  lookups : Lookups
  portal : PortalState
  afterUpdate : PortalState
  templates : String → Option Template := fun _ => none
  stamp : String := ""
  repr : String → String := id

/-- `value or None` -/
def orNone (value : String) : Option String := if value = "" then none else some value

/-- `endpoints.update` -/
def putEndpoint (ise : IseServer) (endpointId : EndpointId) (fields : PutFields) :
    Performed Unit :=
  match ise.put endpointId with
  | .error exc => { result := .error exc }
  | .ok () => { writes := [.put endpointId fields], result := .ok () }

/-- `delete_endpoint` -/
def deleteEndpoint (ise : IseServer) (endpointId : EndpointId) : Performed Unit :=
  match ise.delete endpointId with
  | .error exc => { result := .error exc }
  | .ok () => { writes := [.delete endpointId], result := .ok () }

/-- The attributes of `decommission_endpoint`. -/
def decommissionAttrs (settings : PortalSettings) : Attrs :=
  let ca := Dict.empty |>.set "HypervisionStatus" "Decommissioned" |>.set activeAttr "Inaktiv"
    |>.set hiddenAttr "true"
  if settings.decommSetAuthz then
    ca |>.set "AuthzVlan" settings.decommAuthzVlan |>.set "AuthzACL" settings.decommAuthzAcl
  else ca

/-- `decommission_endpoint` -/
def decommissionEndpoint (settings : PortalSettings) (ise : IseServer)
    (endpointId : EndpointId) : Performed Unit :=
  putEndpoint ise endpointId { customAttributes := decommissionAttrs settings }

/-- `undecommission_endpoint` -/
def undecommissionEndpoint (ise : IseServer) (endpointId : EndpointId) : Performed Unit :=
  putEndpoint ise endpointId
    { customAttributes := Dict.empty |>.set "HypervisionStatus" "" |>.set activeAttr "Aktiv"
        |>.set hiddenAttr "true" }

/-- `set_active_status`, once the status has been checked. -/
def setActiveStatus (ise : IseServer) (endpointId : EndpointId) (activeStatus : String) :
    Performed Unit :=
  putEndpoint ise endpointId
    { customAttributes := Dict.empty |>.set activeAttr activeStatus |>.set hiddenAttr "true" }

/-- The write of `bulk_apply_template` for one endpoint. -/
def applyTemplate (ise : IseServer) (template : Template) (endpointId : EndpointId) :
    Performed Unit :=
  putEndpoint ise endpointId
    { description := orNone template.description
      groupId := orNone template.groupId
      staticGroupAssignment := template.staticGroupAssignment
      customAttributes := template.customAttributes.set hiddenAttr "true" }

section Sessions

variable [PyText]

/-- An action on the MAC of an endpoint, which is read from ISE first: whether it was done, the
MAC and a message. -/
def onMac (ise : IseServer) (endpointId : EndpointId)
    (action : String → Except IseApiError (Bool × String)) (write : String → IseWrite) :
    Performed (Bool × String × String) :=
  match ise.get endpointId with
  | .error exc => { result := .error exc }
  | .ok raw =>
      let mac := raw.macOrName
      if mac = "" then { result := .ok (false, "", "Endpoint har ingen MAC-adresse") }
      else
        match action mac with
        | .error exc => { result := .error exc }
        | .ok (ok, message) =>
            { writes := if ok then [write mac] else [], result := .ok (ok, mac, message) }

/-- `coa_reauth` and `coa_disconnect` -/
def coa (ise : IseServer) (action : CoaAction) (endpointId : EndpointId) :
    Performed (Bool × String × String) :=
  onMac ise endpointId (ise.callMnt action) (.coa endpointId action)

/-- `coa_reauth` -/
def coaReauth (ise : IseServer) (endpointId : EndpointId) : Performed (Bool × String × String) :=
  coa ise .reauth endpointId

/-- `coa_disconnect` -/
def coaDisconnect (ise : IseServer) (endpointId : EndpointId) :
    Performed (Bool × String × String) :=
  coa ise .disconnect endpointId

/-- `anc_quarantine` -/
def ancQuarantine (ise : IseServer) (policyName : String) (endpointId : EndpointId) :
    Performed (Bool × String × String) :=
  onMac ise endpointId (fun mac => .ok (ise.ancApply mac policyName))
    (.ancApply endpointId · policyName)

/-- `anc_clear` -/
def ancClear (ise : IseServer) (endpointId : EndpointId) : Performed (Bool × String × String) :=
  onMac ise endpointId (fun mac => .ok (ise.ancClear mac)) (.ancClear endpointId)

/-- `anc_status` -/
def ancStatus (ise : IseServer) (endpointId : EndpointId) :
    Except IseApiError (String × Option String) :=
  (ise.get endpointId).map fun raw =>
    if raw.macOrName = "" then ("", none) else (raw.macOrName, ise.ancStatus raw.macOrName)

end Sessions

/-! ## Routes keyed by an endpoint -/

/-- One entry of the answer to a bulk request on attributes. -/
structure BulkItem where
  id : EndpointId
  error : Option String
  deriving DecidableEq

/-- One entry of the answer to `bulk_coa`. -/
structure BulkCoaItem where
  id : EndpointId
  ok : Bool
  mac : Option String
  message : String
  deriving DecidableEq

/-- One section of `profiling-data`. -/
structure ProbeSection where
  id : String
  label : String
  attributes : List (String × String)
  deriving DecidableEq

/-- The body of an answer. -/
inductive RouteAnswer where
  | updated
  | deleted
  | decommissioned (endpointId : EndpointId)
  | undecommissioned (endpointId : EndpointId)
  | activeStatus (endpointId : EndpointId) (activeStatus : String)
  | bulk (results : List BulkItem) (okCount : Nat)
  /-- `CoaReauthResponse` and `AncActionResponse` -/
  | action (ok : Bool) (mac message : String)
  | bulkCoa (results : List BulkCoaItem) (okCount : Nat)
  | history (events : List HistoryEvent) (total : Nat)
  | ancStatus (mac : String) (policy : Option String) (quarantined : Bool)
  | profilerProfile (endpointId : EndpointId) (profileId : Option String)
      (profile : Option (Dict String String))
  | profilingData (endpointId : EndpointId) (sections : List ProbeSection)

/-- What a request did: the writes ISE took, and the answer. -/
structure Outcome where
  writes : List IseWrite := []
  answer : Except HttpError RouteAnswer

/-- The routes keyed by an endpoint id or a list of ids. Three of the lists are checked to have
at most 200 ids when the request is read, and the limit of a history to be positive. -/
inductive EndpointRequest where
  | updateEndpoint (endpointId : EndpointId) (req : EndpointUpdate)
  | deleteEndpoint (endpointId : EndpointId)
  | decommissionEndpoint (endpointId : EndpointId)
  | undecommissionEndpoint (endpointId : EndpointId)
  | setActiveStatus (endpointId : EndpointId) (activeStatus : String)
  | bulkDecommission (endpointIds : List EndpointId) (hmax : endpointIds.length ≤ 200)
  | bulkUndecommission (endpointIds : List EndpointId) (hmax : endpointIds.length ≤ 200)
  | bulkApplyTemplate (endpointIds : List EndpointId) (hmax : endpointIds.length ≤ 200)
      (templateId : String)
  | coaReauth (endpointId : EndpointId)
  | coaDisconnect (endpointId : EndpointId)
  | bulkCoa (endpointIds : List EndpointId) (action : CoaAction)
  | ancQuarantine (endpointId : EndpointId) (policyName : String)
  | ancClear (endpointId : EndpointId)
  | getEndpointHistory (endpointId : EndpointId) (limit : Nat) (hlimit : 0 < limit)
  | ancStatus (endpointId : EndpointId)
  | getProfilerProfile (endpointId : EndpointId)
  | getEndpointProfilingData (endpointId : EndpointId)

namespace EndpointRequest

/-- The ids a request names. -/
def endpointIds : EndpointRequest → List EndpointId
  | .bulkDecommission endpointIds _ | .bulkUndecommission endpointIds _
  | .bulkApplyTemplate endpointIds _ _ | .bulkCoa endpointIds _ => endpointIds
  | .updateEndpoint endpointId _ | .deleteEndpoint endpointId
  | .decommissionEndpoint endpointId | .undecommissionEndpoint endpointId
  | .setActiveStatus endpointId _ | .coaReauth endpointId | .coaDisconnect endpointId
  | .ancQuarantine endpointId _ | .ancClear endpointId | .getEndpointHistory endpointId _ _
  | .ancStatus endpointId | .getProfilerProfile endpointId
  | .getEndpointProfilingData endpointId => [endpointId]

/-- The roles a route admits. -/
def roles : EndpointRequest → List Role
  | .updateEndpoint .. => requireEditEndpoint
  | .getProfilerProfile .. | .getEndpointProfilingData .. => requireAny
  | _ => requireEditor

end EndpointRequest

/-- The answer to what one service function did. -/
def Performed.outcome {α : Type} (performed : Performed α) (answer : α → RouteAnswer) :
    Outcome :=
  { writes := performed.writes
    answer :=
      match performed.result with
      | .error exc => .error (iseHttpError exc)
      | .ok value => .ok (answer value) }

/-- The answer to a bulk request: the first 200 ids, where one failure leaves the rest alone. -/
def bulkOutcome (endpointIds : List EndpointId) (one : EndpointId → Performed Unit) : Outcome :=
  let ids := endpointIds.take 200
  let results := ids.map fun endpointId =>
    { id := endpointId
      error :=
        match (one endpointId).result with
        | .error exc => some exc.text
        | .ok () => none : BulkItem }
  { writes := ids.flatMap fun endpointId => (one endpointId).writes
    answer := .ok (.bulk results (results.countP fun item => item.error.isNone)) }

/-- The known probe attributes by section, and the fields `profiling-data` leaves out. -/
def probeSections : List (String × String × List String) :=
  [("dhcp", "DHCP",
      ["dhcpClassIdentifier", "dhcpHostName", "dhcpParameterRequestList",
        "dhcpv6ClassIdentifier", "dhcpRequestedAddress", "dhcpMessageType",
        "dhcpClientIdentifier", "dhcpLeaseTime", "dhcpDomainName"]),
    ("http", "HTTP / User-Agent",
      ["httpUserAgent", "userAgent", "httpHostname", "httpContentType", "httpOperatingSystem",
        "httpSupplicant"]),
    ("network", "Netværk", ["ip", "ipv6", "staticIp", "natIp", "openPorts"]),
    ("mdm", "MDM",
      ["mdmAttributes", "mdmJailBroken", "mdmEnrolled", "mdmCompliant", "mdmServerName",
        "mdmImei", "mdmSerialNumber", "mdmModel", "mdmManufacturer", "mdmOs", "mdmOsVersion",
        "mdmPhoneNumber"]),
    ("profiler", "Profiler",
      ["profileId", "profilerVersion", "staticProfileAssignment", "endpointPolicy",
        "totalFailureCount", "failureReasonCode", "matchedPolicyId", "postureApplicable",
        "postureStatus", "profilerName"])]

/-- `_SKIP` -/
def probeSkip : List String :=
  ["id", "name", "mac", "description", "groupId", "staticGroupAssignment", "portalUser",
    "identityStore", "identityStoreId", "customAttributes", "link", "ers-attrs",
    "securityGroupTag"]

/-- `_categorize`: the non-empty sections, the attributes of no section in the last one. -/
def categorize (raw : Dict String String) : List ProbeSection :=
  let shown := raw.entries.filter fun entry => entry.1 ∉ probeSkip ∧ entry.2 ≠ ""
  let known := probeSections.map fun (id, label, keys) =>
    { id := id, label := label, attributes := shown.filter fun entry => entry.1 ∈ keys }
  let other : ProbeSection :=
    { id := "other", label := "Andre attributter"
      attributes := shown.filter fun entry =>
        entry.1 ∉ probeSections.flatMap fun (_, _, keys) => keys }
  (known ++ [other]).filter fun sect => sect.attributes ≠ []

section Handlers

variable [PyText]

/-- `bulk_coa`: a call that raises is reported without a MAC. -/
def bulkCoa (ise : IseServer) (endpointIds : List EndpointId) (action : CoaAction) : Outcome :=
  let ids := endpointIds.take 200
  let results := ids.map fun endpointId =>
    match (coa ise action endpointId).result with
    | .error exc => { id := endpointId, ok := false, mac := none, message := exc.text }
    | .ok (ok, mac, message) =>
        { id := endpointId, ok := ok, mac := some mac, message := message : BulkCoaItem }
  { writes := ids.flatMap fun endpointId => (coa ise action endpointId).writes
    answer := .ok (.bulkCoa results (results.countP BulkCoaItem.ok)) }

/-- `get_profiler_profile_for_endpoint` -/
def getProfilerProfile (ise : IseServer) (endpointId : EndpointId) : Outcome where
  answer :=
    match ise.get endpointId with
    | .error exc => .error (iseHttpError exc)
    | .ok raw =>
        if raw.profileId = "" then .ok (.profilerProfile endpointId none none)
        else
          match ise.getProfilerProfile raw.profileId with
          | .error exc => .error (iseHttpError exc)
          | .ok profile =>
              .ok (.profilerProfile endpointId (some raw.profileId) (some (profile.erase "link")))

variable [DetailCodec]

/-- The CoA `update_endpoint` sends once `GuestAccessExpire` is set; an endpoint out of the
user's scope gets none, and every failure is only logged. -/
def guestExpireCoa (ctx : RouteContext) (user : User) (endpointId : EndpointId)
    (req : EndpointUpdate) : List IseWrite :=
  let guestExpireSet :=
    match req.customAttributes with
    | none => false
    | some attrs => decide (PyText.lower (attrs.guestAccessExpire.getD "") = "true")
  if guestExpireSet && ctx.settings.selfregisterExpiryCoaEnabled then
    match ctx.afterUpdate.getEndpoint ctx.lookups endpointId (scopeFor user)
        (isPskEditorFor user) false with
    | .error _ => []
    | .ok detail =>
        let mac := orElse detail.mac detail.name
        let action := if ctx.settings.selfregisterExpiryCoaType = "disconnect"
          then CoaAction.disconnect else .reauth
        if mac = "" then []
        else
          match ctx.afterUpdate.ise.callMnt action mac with
          | .ok (true, _) => [.coa endpointId action mac]
          | _ => []
  else []

/-- `update_endpoint`: the check of the attributes, the write and the CoA. -/
def updateEndpoint (ctx : RouteContext) (user : User) (endpointId : EndpointId)
    (req : EndpointUpdate) : Outcome :=
  let before := (ctx.portal.getEndpoint ctx.lookups endpointId none true false).toOption
  match updateAttrs ctx.settings.psk req.customAttributes (autotagFor user) before ctx.stamp with
  | .error text => { answer := .error { statusCode := 422, detail := text } }
  | .ok ca =>
      let written := putEndpoint ctx.portal.ise endpointId
        { description := req.description, groupId := req.groupId
          staticGroupAssignment := req.staticGroupAssignment, customAttributes := ca }
      match written.result with
      | .error exc => { answer := .error (iseHttpError exc) }
      | .ok () =>
          { writes := written.writes ++ guestExpireCoa ctx user endpointId req
            answer := .ok .updated }

/-- The body of a route, behind its guard. -/
def EndpointRequest.run (ctx : RouteContext) (user : User) : EndpointRequest → Outcome
  | .updateEndpoint endpointId req => IsePortal.updateEndpoint ctx user endpointId req
  | .deleteEndpoint endpointId =>
      (IsePortal.deleteEndpoint ctx.portal.ise endpointId).outcome fun _ => .deleted
  | .decommissionEndpoint endpointId =>
      (IsePortal.decommissionEndpoint ctx.settings ctx.portal.ise endpointId).outcome
        fun _ => .decommissioned endpointId
  | .undecommissionEndpoint endpointId =>
      (IsePortal.undecommissionEndpoint ctx.portal.ise endpointId).outcome
        fun _ => .undecommissioned endpointId
  | .setActiveStatus endpointId activeStatus =>
      if activeStatus = "Aktiv" ∨ activeStatus = "Inaktiv" then
        (IsePortal.setActiveStatus ctx.portal.ise endpointId activeStatus).outcome
          fun _ => .activeStatus endpointId activeStatus
      else
        { answer := .error
            { statusCode := 422, detail := "Ugyldig active_status: " ++ ctx.repr activeStatus } }
  | .bulkDecommission endpointIds _ =>
      bulkOutcome endpointIds (IsePortal.decommissionEndpoint ctx.settings ctx.portal.ise)
  | .bulkUndecommission endpointIds _ =>
      bulkOutcome endpointIds (IsePortal.undecommissionEndpoint ctx.portal.ise)
  | .bulkApplyTemplate endpointIds _ templateId =>
      match ctx.templates templateId with
      | none =>
          { answer := .error
              { statusCode := 404
                detail := "Skabelon " ++ ctx.repr templateId ++ " ikke fundet" } }
      | some template => bulkOutcome endpointIds (applyTemplate ctx.portal.ise template)
  | .coaReauth endpointId =>
      (IsePortal.coaReauth ctx.portal.ise endpointId).outcome
        fun (ok, mac, message) => .action ok mac message
  | .coaDisconnect endpointId =>
      (IsePortal.coaDisconnect ctx.portal.ise endpointId).outcome
        fun (ok, mac, message) => .action ok mac message
  | .bulkCoa endpointIds action => IsePortal.bulkCoa ctx.portal.ise endpointIds action
  | .ancQuarantine endpointId policyName =>
      (IsePortal.ancQuarantine ctx.portal.ise policyName endpointId).outcome
        fun (ok, mac, message) => .action ok mac message
  | .ancClear endpointId =>
      (IsePortal.ancClear ctx.portal.ise endpointId).outcome
        fun (ok, mac, message) => .action ok mac message
  | .getEndpointHistory endpointId limit _ =>
      let (rows, total) := historyRows ctx.portal.audit endpointId limit
      { answer := .ok (.history (rows.map AuditRow.event) total) }
  | .ancStatus endpointId =>
      ({ result := IsePortal.ancStatus ctx.portal.ise endpointId : Performed _ }).outcome
        fun (mac, policy) => .ancStatus mac policy policy.isSome
  | .getProfilerProfile endpointId => IsePortal.getProfilerProfile ctx.portal.ise endpointId
  | .getEndpointProfilingData endpointId =>
      ({ result := ctx.portal.ise.getProbes endpointId : Performed _ }).outcome
        fun raw => .profilingData endpointId (categorize raw)

/-- What a request of a user does. -/
def handle (ctx : RouteContext) (user : User) (request : EndpointRequest) : Outcome :=
  match requireRoles request.roles user with
  | .error refused => { answer := .error refused }
  | .ok () => request.run ctx user

end Handlers

end IsePortal
