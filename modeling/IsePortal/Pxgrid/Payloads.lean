import IsePortal.Cache.EndpointCache
import IsePortal.Library.Aborting
import IsePortal.Platform.Bytes
import IsePortal.Platform.Json
import IsePortal.Pxgrid.SessionIsolation

/-!
# The bodies of pxGrid messages

`_handle_message_body` and `_handle_endpoint_body` take a body apart item by item. They look at the
type of the payload and of its items, but index and call methods on some fields of an item
without looking at theirs, and nothing catches the exception: it leaves the loop, and the rest of
the message with it. `payload_survives_iff` says which bodies are handled to their end.
-/

namespace IsePortal

open Library

variable [PyText] [PyJson]

/-- `json.loads(body.decode("utf-8", errors="replace"))` -/
def parseBody (body : Bytes) : Except PyError Json :=
  PyJson.loads (String.ofList (decodeReplace body))

/-- What both handlers do with a body: the items of the payload are read one after the other, and
each is acted on before the next is read. -/
def handleBody {σ β : Type*} (extract : Json → List JsonObject)
    (read : JsonObject → Except PyError β) (act : σ → β → σ) (state : σ) (body : Bytes) :
    σ × Option PyError :=
  if body = [] then (state, none)
  else
    match parseBody body with
    -- the one exception the handlers catch here
    | .error .jsonDecodeError => (state, none)
    | .error raised => (state, some raised)
    | .ok payload => foldUntil read act state (extract payload)

/-! ## Session events -/

/-- `_extract_sessions` -/
def extractSessions : Json → List JsonObject
  | .obj payload =>
      match payload.lookup "sessions", payload.lookup "session" with
      | some (.arr items), _ => Json.objects items
      | _, some (.obj session) => [session]
      | _, _ =>
          if (payload.lookup "macAddress").isSome || (payload.lookup "callingStationId").isSome then
            [payload]
          else []
  | .arr items => Json.objects items
  | _ => []

/-- `_parse_vlan` -/
def parseVlan (raw : String) : String :=
  let parts := (raw.toList.splitOnP isSpace).filter (· ≠ [])
  match parts.getLast? with
  | some last => if last.all PyText.isDigit then String.ofList last else PyText.strip raw
  | none => PyText.strip raw

/-- `ip_addrs[0] if ip_addrs else ""`, where a text counts as a list of itself: a dictionary has no
key `0`, and a number or `True` cannot be indexed. -/
def firstAddress : Json → Except PyError Json
  | .str text => .ok (.str text)
  | .arr (first :: _) => .ok first
  | .obj (_ :: _) => .error .keyError
  | value => if value.truthy then .error .typeError else .ok (.str "")

/-- The address of the client. `ipAddresses` is only looked at where the two other fields are
empty. -/
def framedIp (d : JsonObject) : Except PyError String :=
  let given := d.getOr "framedIpAddress" "framed_ip_address"
  let address :=
    if given.truthy then .ok given else firstAddress (d.getD "ipAddresses" (.arr []))
  address.map fun address => PyText.strip (PyJson.str (address.or (.str "")))

/-- `selectedAznProfiles` under its three names; a single profile may come as a text. -/
def authzProfiles (d : JsonObject) : List String :=
  let named : List Json :=
    match d.firstOf (.arr [])
        ["selectedAznProfiles", "selectedAuthzProfiles", "authorizationProfiles"] with
    | .str text => [.str text]
    | .arr items => items
    | _ => []
  (named.filter Json.truthy).map PyJson.str

/-- The text of the first of the fields that is not empty. -/
def textOf (d : JsonObject) (keys : List String) : String := PyJson.str (d.firstOf (.str "") keys)

/-- The address of the client's session, as every function on the cache normalizes it. -/
def sessionMacOf (d : JsonObject) : String :=
  SessionCache.norm (textOf d ["callingStationId", "macAddress", "mac"])

def stateOf (d : JsonObject) : String := PyJson.str (d.getOr "state" "sessionEvent")

def auditOf (d : JsonObject) : String := PyJson.str (d.getD "auditSessionId" (.str ""))

/-- `_build_session_info`, with the lookup of the name and the device type of a network device. -/
def readSession (nasDevice : String → String × String) (d : JsonObject) :
    Except PyError SessionPayload :=
  let nasIp := PyJson.str (d.getOr "nasIpAddress" "nasIp")
  (framedIp d).map fun framedIp =>
    { mac := sessionMacOf d
      state := stateOf d
      auditSessionId := auditOf d
      nasIp := nasIp
      userName := PyJson.str (d.getOr "userName" "username")
      policySetName := textOf d
        ["policySetName", "ISEPolicySetName", "isePolicySetName", "ise_policy_set_name"]
      authzProfiles := authzProfiles d
      authzRuleName := textOf d
        ["authorizationRuleName", "selectedAuthorizationRuleName", "azRuleName", "authzRuleName",
          "AuthorizationPolicyMatchedRule"]
      useCase := PyJson.str (d.getD "useCase" (.str ""))
      nasName := (nasDevice nasIp).1
      nasDeviceType := (nasDevice nasIp).2
      framedIp := framedIp
      endpointPolicy := textOf d ["endpointProfile", "endpointPolicy", "EndpointProfile"]
      dacl := textOf d ["dacl", "downloadedDacl", "coa_vpn_acl"]
      vlan := parseVlan (textOf d ["vlan", "tunnelPrivateGroupId"])
      ctsSecurityGroup := textOf d
        ["securityGroup", "ctsSecurityGroup", "cts_security_group", "sgt"] }

/-- `_handle_message_body` -/
def handleMessageBody (nasDevice : String → String × String) :
    SessionWorker → Bytes → SessionWorker × Option PyError :=
  handleBody extractSessions (readSession nasDevice) SessionWorker.onMessage

/-! ## Endpoint events -/

/-- `_extract_endpoints` -/
def extractEndpoints : Json → List JsonObject
  | .obj payload =>
      let nested := ["endpoints", "endpoint", "data"].findSome? fun key =>
        match payload.lookup key with
        | some (.arr items) => some (Json.objects items)
        | some (.obj item) => some [item]
        | _ => none
      match nested with
      | some items => items
      | none =>
          if ["id", "mac", "macAddress", "endpointId"].any
              fun key => (payload.lookup key).isSome then
            [payload]
          else []
  | .arr items => Json.objects items
  | _ => []

/-- `d.get("id") or d.get("endpointId") or d.get("operatingSystem", {}).get("id") or ""` -/
def readEndpointId (d : JsonObject) : Except PyError Json :=
  let given := (d.getD "id" .null).or (d.getD "endpointId" .null)
  if given.truthy then .ok given
  else
    match d.getD "operatingSystem" (.obj []) with
    | .obj operatingSystem => .ok ((JsonObject.getD operatingSystem "id" .null).or (.str ""))
    | _ => .error .attributeError

/-- `value.upper()` -/
def upperText : Json → Except PyError String
  | .str text => .ok (PyText.upper text)
  | _ => .error .attributeError

/-- What an endpoint event tells: the id as it is in the payload. -/
structure EndpointEvent where
  id : Json
  mac : String
  operation : String

/-- The three lookups of `_handle_endpoint_body`. -/
def readEndpoint (d : JsonObject) : Except PyError EndpointEvent := do
  let epId ← readEndpointId d
  let mac ← upperText (d.firstOf (.str "") ["mac", "macAddress", "name"])
  let operation ← upperText (d.firstOf (.str "") ["operation", "eventType", "action"])
  pure ⟨epId, mac, operation⟩

/-- The cache of the endpoints, and the `endpoint_changed` events broadcast so far. -/
structure EndpointFeed (α : Type*) where
  cache : EndpointCache α
  events : List EndpointEvent := []

variable {α : Type*} [CacheValue α]

/-- What `_handle_endpoint_body` does for one endpoint. -/
def EndpointFeed.onEvent (feed : EndpointFeed α) (event : EndpointEvent) : EndpointFeed α where
  cache :=
    if event.id.truthy then
      (feed.cache.invalidateDetail (PyJson.str event.id)).markChanged (PyJson.str event.id)
    else feed.cache.invalidateAll
  events := feed.events ++ [{ event with operation := orElse event.operation "UPDATE" }]

/-- `_handle_endpoint_body` -/
def handleEndpointBody : EndpointFeed α → Bytes → EndpointFeed α × Option PyError :=
  handleBody extractEndpoints readEndpoint EndpointFeed.onEvent

/-! ## Which messages are handled to their end -/

/-- A value that can be used as a list of addresses. -/
def Json.ListsAddresses : Json → Prop
  | .str _ => True
  | .arr _ => True
  | value => value.truthy = false

def Json.IsText : Json → Prop
  | .str _ => True
  | _ => False

def Json.IsObject : Json → Prop
  | .obj _ => True
  | _ => False

/-- A session with an address of its client, or with a list of such addresses. -/
def WellFormedSession (d : JsonObject) : Prop :=
  (d.getOr "framedIpAddress" "framed_ip_address").truthy = true ∨
    (d.getD "ipAddresses" (.arr [])).ListsAddresses

/-- An endpoint with an id, or with an object where it is looked for next; the address and the
operation, where there are any, are texts. -/
def WellFormedEndpoint (d : JsonObject) : Prop :=
  (((d.getD "id" .null).or (d.getD "endpointId" .null)).truthy = true ∨
      (d.getD "operatingSystem" (.obj [])).IsObject) ∧
    (d.firstOf (.str "") ["mac", "macAddress", "name"]).IsText ∧
    (d.firstOf (.str "") ["operation", "eventType", "action"]).IsText

instance (value : Json) : Decidable value.ListsAddresses :=
  match value with
  | .str _ => isTrue trivial
  | .arr _ => isTrue trivial
  | .null => isTrue rfl
  | .bool value => inferInstanceAs (Decidable (value = false))
  | .num value => inferInstanceAs (Decidable (Json.truthy (.num value) = false))
  | .nonFinite _ => isFalse fun h => absurd h Bool.noConfusion
  | .obj fields => inferInstanceAs (Decidable (Json.truthy (.obj fields) = false))

instance (d : JsonObject) : Decidable (WellFormedSession d) := inferInstanceAs (Decidable (_ ∨ _))

omit [PyText] [PyJson] in
theorem reads_firstAddress_iff (value : Json) :
    Reads firstAddress value ↔ value.ListsAddresses := by
  unfold Reads
  cases value with
  | null => exact iff_of_true ⟨_, rfl⟩ rfl
  | bool value => cases value <;> simp [firstAddress, Json.ListsAddresses, Json.truthy]
  | num value =>
      by_cases hzero : value = 0 <;>
        simp [firstAddress, Json.ListsAddresses, Json.truthy, hzero]
  | nonFinite name => simp [firstAddress, Json.ListsAddresses, Json.truthy]
  | str text => exact iff_of_true ⟨_, rfl⟩ trivial
  | arr items => cases items with
    | nil => exact iff_of_true ⟨_, rfl⟩ trivial
    | cons first rest => exact iff_of_true ⟨_, rfl⟩ trivial
  | obj fields => cases fields with
    | nil => exact iff_of_true ⟨_, rfl⟩ rfl
    | cons field rest => simp [firstAddress, Json.ListsAddresses, Json.truthy]

theorem reads_readSession_iff (nasDevice : String → String × String) (d : JsonObject) :
    Reads (readSession nasDevice) d ↔ WellFormedSession d := by
  have hread : Reads (readSession nasDevice) d ↔ Reads framedIp d := by
    unfold Reads readSession
    cases framedIp d with
    | error raised => exact iff_of_false (fun ⟨_, h⟩ => by cases h) fun ⟨_, h⟩ => by cases h
    | ok address => exact iff_of_true ⟨_, rfl⟩ ⟨_, rfl⟩
  rw [hread, WellFormedSession, ← reads_firstAddress_iff]
  unfold Reads framedIp
  dsimp only
  -- only without an address of its own is the list of addresses indexed
  cases (d.getOr "framedIpAddress" "framed_ip_address").truthy with
  | true => exact iff_of_true ⟨_, rfl⟩ (.inl rfl)
  | false =>
      rw [or_iff_right Bool.false_ne_true, if_neg Bool.false_ne_true]
      cases firstAddress (d.getD "ipAddresses" (.arr [])) with
      | error raised => exact iff_of_false (fun ⟨_, h⟩ => by cases h) fun ⟨_, h⟩ => by cases h
      | ok address => exact iff_of_true ⟨_, rfl⟩ ⟨_, rfl⟩

omit [PyText] [PyJson] in
theorem reads_readEndpointId_iff (d : JsonObject) :
    Reads readEndpointId d ↔
      ((d.getD "id" .null).or (d.getD "endpointId" .null)).truthy = true ∨
        (d.getD "operatingSystem" (.obj [])).IsObject := by
  unfold Reads readEndpointId
  dsimp only
  cases ((d.getD "id" .null).or (d.getD "endpointId" .null)).truthy with
  | true => exact iff_of_true ⟨_, rfl⟩ (.inl rfl)
  | false =>
      rw [or_iff_right Bool.false_ne_true, if_neg Bool.false_ne_true]
      cases d.getD "operatingSystem" (.obj []) with
      | obj fields => exact iff_of_true ⟨_, rfl⟩ trivial
      | _ => exact iff_of_false (fun ⟨_, h⟩ => by cases h) id

omit [PyJson] in
theorem reads_upperText_iff (value : Json) : Reads upperText value ↔ value.IsText := by
  unfold Reads
  cases value with
  | str text => exact iff_of_true ⟨_, rfl⟩ trivial
  | _ => exact iff_of_false (fun ⟨_, h⟩ => by cases h) id

omit [PyJson] in
theorem reads_readEndpoint_iff (d : JsonObject) :
    Reads readEndpoint d ↔ WellFormedEndpoint d := by
  rw [WellFormedEndpoint, ← reads_readEndpointId_iff, ← reads_upperText_iff,
    ← reads_upperText_iff]
  unfold Reads readEndpoint
  -- the three lookups come one after the other, the first fault ends the item
  cases readEndpointId d with
  | error raised => exact iff_of_false (fun ⟨_, h⟩ => by cases h) fun ⟨⟨_, h⟩, _⟩ => by cases h
  | ok epId =>
      cases upperText (d.firstOf (.str "") ["mac", "macAddress", "name"]) with
      | error raised =>
          exact iff_of_false (fun ⟨_, h⟩ => by cases h) fun ⟨_, ⟨_, h⟩, _⟩ => by cases h
      | ok mac =>
          cases upperText (d.firstOf (.str "") ["operation", "eventType", "action"]) with
          | error raised =>
              exact iff_of_false (fun ⟨_, h⟩ => by cases h) fun ⟨_, _, _, h⟩ => by cases h
          | ok operation => exact iff_of_true ⟨_, rfl⟩ ⟨⟨_, rfl⟩, ⟨_, rfl⟩, _, rfl⟩

/-- The items of the payload; a body that is no JSON has none. -/
def itemsOf (extract : Json → List JsonObject) (body : Bytes) : List JsonObject :=
  if body = [] then []
  else
    match parseBody body with
    | .ok payload => extract payload
    | .error _ => []

/-- The parser takes the body or raises what the handlers expect of it, and every item is as it
should be. -/
def Manageable (extract : Json → List JsonObject) (wellFormed : JsonObject → Prop)
    (body : Bytes) : Prop :=
  body = [] ∨ parseBody body = .error .jsonDecodeError ∨
    ∃ payload, parseBody body = .ok payload ∧ ∀ item ∈ extract payload, wellFormed item

omit [PyText] in
/-- A handler returns, having acted on every item that can be read, exactly when it can read all
the items. -/
theorem handleBody_iff {σ β : Type*} {extract : Json → List JsonObject}
    {read : JsonObject → Except PyError β} {act : σ → β → σ}
    {wellFormed : JsonObject → Prop} (hreads : ∀ d, Reads read d ↔ wellFormed d) (state : σ)
    (body : Bytes) :
    handleBody extract read act state body =
        ((readable read (itemsOf extract body)).foldl act state, none) ↔
      Manageable extract wellFormed body := by
  unfold handleBody itemsOf Manageable
  by_cases hbody : body = []
  · rw [if_pos hbody, if_pos hbody]
    exact iff_of_true rfl (.inl hbody)
  · rw [if_neg hbody, if_neg hbody, or_iff_right hbody]
    cases parseBody body with
    | error raised =>
        by_cases hraised : raised = .jsonDecodeError
        · subst hraised
          exact iff_of_true rfl (.inl rfl)
        · refine iff_of_false ?_ ?_
          · cases raised <;> simp_all
          · simpa using hraised
    | ok payload =>
        simp only [reduceCtorEq, false_or, Except.ok.injEq, exists_eq_left']
        rw [Prod.ext_iff]
        dsimp only
        have hall : (∀ item ∈ extract payload, wellFormed item) ↔
            ∀ item ∈ extract payload, Reads read item :=
          forall₂_congr fun item _ => (hreads item).symm
        rw [foldUntil_snd_eq_none_iff, hall]
        exact and_iff_right_of_imp fun h => foldUntil_fst_of_reads state h

/-- The two handlers return, with every item acted on that can be read, exactly on the bodies that
are JSON with nothing but well-formed items or that are no JSON at all. -/
theorem payload_survives_iff (nasDevice : String → String × String) (worker : SessionWorker)
    (feed : EndpointFeed α) (body : Bytes) :
    (handleMessageBody nasDevice worker body =
          ((readable (readSession nasDevice) (itemsOf extractSessions body)).foldl
            SessionWorker.onMessage worker, none) ↔
        Manageable extractSessions WellFormedSession body) ∧
      (handleEndpointBody feed body =
          ((readable readEndpoint (itemsOf extractEndpoints body)).foldl
            EndpointFeed.onEvent feed, none) ↔
        Manageable extractEndpoints WellFormedEndpoint body) :=
  ⟨handleBody_iff (reads_readSession_iff nasDevice) worker body,
    handleBody_iff reads_readEndpoint_iff feed body⟩

/-! ## A message that is not -/

/-- Two sessions, the first with its addresses by family. -/
def addressesByFamily : Json :=
  .obj [("sessions", .arr
    [.obj [("macAddress", .str "AA:BB:CC:00:00:01"),
        ("ipAddresses", .obj [("v4", .str "10.0.0.5")])],
      .obj [("macAddress", .str "AA:BB:CC:00:00:02"), ("state", .str "STARTED")]])]

/-- `addressesByFamily` as it is sent. -/
def addressesByFamilyText : String :=
  "\x7b\"sessions\": [\x7b\"macAddress\": \"AA:BB:CC:00:00:01\", " ++
    "\"ipAddresses\": \x7b\"v4\": \"10.0.0.5\"\x7d\x7d, " ++
    "\x7b\"macAddress\": \"AA:BB:CC:00:00:02\", \"state\": \"STARTED\"\x7d]\x7d"

/-- The parser on that text, and `str` on texts. -/
@[reducible] def addressesJson : PyJson :=
  .ofLoads fun text =>
    if text = addressesByFamilyText then .ok addressesByFamily else .error .jsonDecodeError

omit [PyText] [PyJson] in
/-- The second session is never looked at. -/
theorem addresses_by_family_raise :
    ¬ ∀ body : Bytes, @handleMessageBody asciiText addressesJson (fun _ => ("", "")) {} body =
      ((readable (@readSession asciiText addressesJson fun _ => ("", ""))
        (@itemsOf addressesJson extractSessions body)).foldl
          (@SessionWorker.onMessage asciiText) {}, none) := by
  intro h
  have hraised : (@handleMessageBody asciiText addressesJson (fun _ => ("", "")) {}
      (utf8 addressesByFamilyText.toList)).2 = some .keyError := by
    have hbody : utf8 addressesByFamilyText.toList ≠ [] := utf8_ne_nil (by decide +kernel)
    have hparse : @parseBody addressesJson (utf8 addressesByFamilyText.toList) =
        .ok addressesByFamily := by
      unfold parseBody
      rw [decodeReplace_utf8, String.ofList_toList]
      exact if_pos rfl
    unfold handleMessageBody handleBody
    rw [if_neg hbody, hparse]
    rfl
  rw [h] at hraised
  cases hraised

end IsePortal
