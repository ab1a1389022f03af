import IsePortal.Api.EndpointRoutes
import IsePortal.Ise.EndpointBodies

/-!
# What is written is what is read

An endpoint is created and updated through the portal, ISE keeps what it is sent, and
`_fetch_endpoint_detail` reads it back, over either interface. ISE has three ways to answer for an
attribute without a value: it leaves it out, it has null, or it has the empty text. Every value that
was written is read in both interfaces, and so is the lack of one, unless ISE answers with null:
`str` makes the text `None` of it. `written_is_read_iff`: the details are right exactly when no
attribute that is shown as a text comes as null.
-/

namespace IsePortal.EndpointBodies

open Library

/-! ## ISE -/

/-- How ISE answers for an attribute without a value. -/
inductive Blank where
  | absent
  | null
  | empty
  deriving DecidableEq

/-- What stands in the answer for it. -/
def Blank.json : Blank → Option Json
  | .absent => none
  | .null => some .null
  | .empty => some (.str "")

/-- The attributes of the portal that a detail shows as texts. -/
def textAttrs : List String :=
  ["Type", "Owner", "Lokation", "AuthzVlan", "AuthzACL", "PlatformType", "RegistretBy",
    guestRegistrationAttr, hiddenAttr, rolesAttr, pskKeyAttr, "HypervisionStatus", activeAttr,
    guestExperyDateAttr, guestAccessExpireAttr, registeredAtAttr]

/-- The attributes of the portal. -/
def portalAttrs : List String := pskModeAttr :: textAttrs

/-- The attributes in a value of `customAttributes`. -/
def readBlock : ApiType → Json → JsonObject
  | .ers, .obj outer =>
      match outer.lookup "customAttributes" with
      | some (.obj block) => block
      | _ => []
  | .openApi, .obj block => block
  | _, _ => []

/-- The attributes of an object. -/
def blockOf (api : ApiType) (fields : JsonObject) : JsonObject :=
  readBlock api (JsonObject.getD fields "customAttributes" .null)

/-- ISE stores the object of a create under an id. -/
def iseCreate (endpointId : EndpointId) (body : JsonObject) : JsonObject :=
  JsonObject.set body "id" (.str endpointId)

/-- ISE takes the keys of an update, and of the attributes those that are sent. -/
def iseUpdate (api : ApiType) (stored body : JsonObject) : JsonObject :=
  let merged := JsonObject.merge stored body
  if (body.lookup "customAttributes").isSome then
    JsonObject.set merged "customAttributes"
      (attributeBlock api (JsonObject.merge (blockOf api stored) (blockOf api body)))
  else merged

/-- What ISE shows of an attribute. -/
def shownValue (blank : String → Blank) (block : JsonObject) (name : String) : Option Json :=
  let value := JsonObject.getD block name (.str "")
  if value.truthy then some value else (blank name).json

/-- The attributes ISE shows: those that were sent and those of the portal. -/
def shownBlock (blank : String → Blank) (block : JsonObject) : JsonObject :=
  ((block.map Prod.fst) ++ portalAttrs).dedup.filterMap fun name =>
    (shownValue blank block name).map fun value => (name, value)

/-- The answer to a GET. -/
def iseAnswer (api : ApiType) (blank : String → Blank) (stored : JsonObject) : Json :=
  payload api (JsonObject.set stored "customAttributes"
    (attributeBlock api (shownBlock blank (blockOf api stored))))

/-! ## The calls of the portal -/

/-- A create through the portal: the request, and what the service adds to it. -/
structure CreateCall where
  req : CreateEndpointRequest
  psk : PskSettings
  autoTagUsername : Option String := none
  stamp : String

/-- An update through the portal. -/
structure UpdateCall where
  update : EndpointUpdate
  psk : PskSettings
  autoTagUsername : Option String := none
  before : Option EndpointDetail := none
  stamp : String

/-- What was written last. -/
structure Written where
  description : String
  groupId : Option String
  staticGroup : Option Bool
  attributes : Attrs

section Calls

variable [PyText]

/-- The attributes of a create, or the text of its `ValueError`. -/
def CreateCall.attrs (call : CreateCall) : Except String Attrs :=
  createAttrs call.psk call.req.customAttributes call.autoTagUsername call.stamp

/-- The attributes of an update, or the text of its `ValueError`. -/
def UpdateCall.attrs (call : UpdateCall) : Except String Attrs :=
  updateAttrs call.psk call.update.customAttributes call.autoTagUsername call.before call.stamp

omit [PyText] in
/-- What ISE holds after a create with the attributes. -/
def created (api : ApiType) (endpointId : EndpointId) (call : CreateCall) (ca : Attrs) :
    JsonObject :=
  iseCreate endpointId (createFields api call.req.mac call.req.groupId call.req.description
    (call.req.staticGroupAssignment.getD true) ca)

/-- What ISE holds after an update; one that raises sends nothing. -/
def updated (api : ApiType) (endpointId : EndpointId) (stored : JsonObject) (call : UpdateCall) :
    JsonObject :=
  match call.attrs with
  | .error _ => stored
  | .ok ca =>
      iseUpdate api stored (updateFields api endpointId call.update.description
        call.update.groupId call.update.staticGroupAssignment ca)

omit [PyText] in
/-- What a create writes: without a group it sends neither group nor flag. -/
def CreateCall.written (call : CreateCall) (ca : Attrs) : Written where
  description := call.req.description
  groupId := if call.req.groupId ≠ "" then some call.req.groupId else none
  staticGroup :=
    if call.req.groupId ≠ "" then some (call.req.staticGroupAssignment.getD true) else none
  attributes := ca

/-- What has been written after an update: a group is sent with the flag. -/
def Written.after (written : Written) (call : UpdateCall) : Written :=
  match call.attrs with
  | .error _ => written
  | .ok ca =>
      { description := call.update.description.getD written.description
        groupId := call.update.groupId.or written.groupId
        staticGroup :=
          (if call.update.groupId.isSome then some (call.update.staticGroupAssignment.getD true)
            else call.update.staticGroupAssignment).or written.staticGroup
        attributes := written.attributes.merge ca }

/-- The detail of what was written, where the texts of the attributes are given: what
`_fetch_endpoint_detail` ought to build. -/
def writtenDetail (lookups : Lookups) (endpointId : EndpointId) (mac : String) (written : Written)
    (text : String → String) : EndpointDetail where
  id := endpointId
  name := mac
  mac := mac
  description := some written.description
  groupId := some (written.groupId.getD "")
  groupName :=
    if written.groupId.getD "" = "" then "" else lookups.groupName (written.groupId.getD "")
  staticGroup := written.staticGroup.getD false
  endpointType := text "Type"
  owner := text "Owner"
  lokation := text "Lokation"
  authzVlan := text "AuthzVlan"
  authzAcl := text "AuthzACL"
  platformType := text "PlatformType"
  registretBy := text "RegistretBy"
  guestRegistration := text guestRegistrationAttr
  hypervision := text hiddenAttr
  roles := parseRolesCsv (text rolesAttr)
  profilerName := lookups.profilerName ""
  vendor := orElse (lookups.profilerName "") (lookups.ouiVendor mac)
  pskMode := PyText.lower (text pskModeAttr) = "true"
  pskKey := pskDecode (text pskKeyAttr)
  createTime := orElse (text registeredAtAttr) (lookups.auditCreateTime endpointId)
  firstSeenAt := lookups.firstSeen mac endpointId (text registeredAtAttr)
  status := text "HypervisionStatus"
  activeStatus := text activeAttr
  guestExperyDate := text guestExperyDateAttr
  guestAccessExpire := text guestAccessExpireAttr

/-- What `_fetch_endpoint_detail` builds over an interface, after a create and updates. -/
def fetched [PyJson] (lookups : Lookups) (blanks : ApiType → String → Blank)
    (endpointId : EndpointId) (call : CreateCall) (ca : Attrs) (updates : List UpdateCall)
    (api : ApiType) : Except PyError EndpointDetail := do
  let stored := updates.foldl (updated api endpointId) (created api endpointId call ca)
  let raw ← getEndpoint api (iseAnswer api (blanks api) stored)
  fetchDetail lookups endpointId raw

/-- Whatever the other stores of the portal hold, both interfaces give the detail of what was
written, and so equal details. -/
def ReadAsWritten [PyJson] (blanks : ApiType → String → Blank) (endpointId : EndpointId)
    (call : CreateCall) (ca : Attrs) (updates : List UpdateCall) : Prop :=
  ∀ lookups,
    (∀ api, fetched lookups blanks endpointId call ca updates api =
      .ok (writtenDetail lookups endpointId call.req.mac
        (updates.foldl Written.after (call.written ca))
        (updates.foldl Written.after (call.written ca)).attributes.attr)) ∧
    fetched lookups blanks endpointId call ca updates .ers =
      fetched lookups blanks endpointId call ca updates .openApi

end Calls

/-! ## Objects and blocks -/

theorem lookup_cons_if (name key : String) (value : Json) (rest : JsonObject) :
    ((name, value) :: rest).lookup key = if key = name then some value else rest.lookup key := by
  rw [List.lookup_cons]
  by_cases hkey : key = name
  · simp [hkey]
  · have hne : (key == name) = false := by simpa using hkey
    rw [hne, if_neg hkey]

theorem lookup_objectOf (attributes : Attrs) (name : String) :
    (objectOf attributes).lookup name = (attributes.get? name).map Json.str := by
  obtain ⟨entries, hnodup⟩ := attributes
  unfold objectOf Dict.get?
  dsimp only
  clear hnodup
  induction entries with
  | nil => rfl
  | cons entry rest ih =>
      obtain ⟨key, value⟩ := entry
      rw [List.map_cons, List.lookup_cons, List.lookup_cons]
      cases hname : name == key with
      | true => rfl
      | false => exact ih

theorem nodup_objectOf (attributes : Attrs) : ((objectOf attributes).map Prod.fst).Nodup := by
  have hkeys : (objectOf attributes).map Prod.fst = attributes.entries.map Prod.fst := by
    simp [objectOf, Function.comp_def]
  rw [hkeys]
  exact attributes.nodup

theorem readBlock_attributeBlock (api : ApiType) (block : JsonObject) :
    readBlock api (attributeBlock api block) = block := by
  cases api <;> rfl

theorem blockOf_set (api : ApiType) (fields block : JsonObject) :
    blockOf api (JsonObject.set fields "customAttributes" (attributeBlock api block)) = block := by
  rw [blockOf, JsonObject.getD, JsonObject.lookup_set, if_pos rfl, Option.getD_some,
    readBlock_attributeBlock]

/-- The text of an attribute in a block, empty where it holds no value. -/
def BlockTexts (block : JsonObject) (attributes : Attrs) : Prop :=
  ∀ name, JsonObject.getD block name (.str "") = .str (attributes.attr name)

/-- Leaving out the empty texts of a block leaves its texts. -/
theorem blockTexts_filterValues (attributes : Attrs) :
    BlockTexts (objectOf (attributes.filterValues (· ≠ ""))) attributes := by
  intro name
  rw [JsonObject.getD, lookup_objectOf, Attrs.attr, Dict.get?_filterValues]
  cases attributes.get? name with
  | none => rfl
  | some text => by_cases hempty : text = "" <;> simp [Option.filter, hempty]

/-- Merged block, merged attributes. -/
theorem BlockTexts.merge {block : JsonObject} {attributes : Attrs}
    (h : BlockTexts block attributes) (sent : Attrs) :
    BlockTexts (JsonObject.merge block (objectOf sent)) (attributes.merge sent) := by
  intro name
  rw [JsonObject.getD, JsonObject.lookup_merge_of_nodup (nodup_objectOf sent), lookup_objectOf,
    Attrs.attr_merge]
  cases sent.get? name with
  | none => exact h name
  | some text => rfl

/-! ## What ISE holds -/

/-- What the object of an endpoint has under the other keys. -/
def Written.field (written : Written) (endpointId : EndpointId) (mac key : String) : Option Json :=
  if key = "id" then some (.str endpointId)
  else if key = "description" then some (.str written.description)
  else if key = "groupId" then written.groupId.map .str
  else if key = "staticGroupAssignment" then written.staticGroup.map .bool
  else if key = "name" ∨ key = "mac" then some (.str mac)
  else none

/-- ISE holds what was written; no attribute is called like the block itself. -/
structure Holds (api : ApiType) (endpointId : EndpointId) (mac : String) (written : Written)
    (stored : JsonObject) : Prop where
  fields : ∀ key ≠ "customAttributes", stored.lookup key = written.field endpointId mac key
  texts : BlockTexts (blockOf api stored) written.attributes
  plain : (blockOf api stored).lookup "customAttributes" = none

section Calls

variable [PyText] {api : ApiType} {endpointId : EndpointId}

omit [PyText] in
/-- The attributes in the object of a create. -/
theorem blockOf_createFields (mac groupId description : String) (static : Bool) (ca : Attrs) :
    blockOf api (createFields api mac groupId description static ca) =
      objectOf (ca.filterValues (· ≠ "")) := by
  have hlookup : (createFields api mac groupId description static ca).lookup "customAttributes" =
      if (ca.filterValues (· ≠ "")).size ≠ 0 then
        some (attributeBlock api (objectOf (ca.filterValues (· ≠ ""))))
      else none := by
    unfold createFields
    dsimp only
    split_ifs <;> simp [lookup_cons_if]
  rw [blockOf, JsonObject.getD, hlookup]
  split
  · exact readBlock_attributeBlock api _
  · next hsize =>
      -- without an attribute there is no block
      have hempty : (ca.filterValues (· ≠ "")).entries = [] :=
        List.length_eq_zero_iff.mp (not_not.mp hsize)
      rw [objectOf, hempty]
      cases api <;> rfl

omit [PyText] in
/-- The attributes in the object of an update, and whether it has a block. -/
theorem blockOf_updateFields (api : ApiType) (endpointId : EndpointId)
    (description groupId : Option String) (static : Option Bool) (ca : Attrs) :
    blockOf api (updateFields api endpointId description groupId static ca) = objectOf ca ∧
      (((updateFields api endpointId description groupId static ca).lookup
        "customAttributes").isSome ↔ ca.size ≠ 0) := by
  have hlookup : (updateFields api endpointId description groupId static ca).lookup
      "customAttributes" =
        if ca.size ≠ 0 then some (attributeBlock api (objectOf ca)) else none := by
    unfold updateFields
    cases description <;> cases groupId <;> cases static <;> dsimp only <;> split_ifs <;>
      simp [lookup_cons_if]
  rw [blockOf, JsonObject.getD, hlookup]
  split
  · next hsize => exact ⟨readBlock_attributeBlock api _, iff_of_true rfl hsize⟩
  · next hsize =>
      have hempty : ca.entries = [] := List.length_eq_zero_iff.mp (not_not.mp hsize)
      refine ⟨?_, iff_of_false (by simp) hsize⟩
      rw [objectOf, hempty]
      cases api <;> rfl

omit [PyText] in
theorem nodup_updateFields (api : ApiType) (endpointId : EndpointId)
    (description groupId : Option String) (static : Option Bool) (ca : Attrs) :
    ((updateFields api endpointId description groupId static ca).map Prod.fst).Nodup := by
  unfold updateFields
  cases description <;> cases groupId <;> cases static <;> dsimp only <;> split_ifs <;> simp

omit [PyText] in
/-- The other keys in the object of an update. -/
theorem lookup_updateFields (description groupId : Option String) (static : Option Bool)
    (ca : Attrs) {key : String} (hkey : key ≠ "customAttributes") :
    (updateFields api endpointId description groupId static ca).lookup key =
      if key = "id" then some (.str endpointId)
      else if key = "description" then description.map .str
      else if key = "groupId" then groupId.map .str
      else if key = "staticGroupAssignment" then
        (if groupId.isSome then some (static.getD true) else static).map .bool
      else none := by
  unfold updateFields
  cases description <;> cases groupId <;> cases static <;> dsimp only <;> split_ifs <;>
    simp_all [lookup_cons_if]

omit [PyText] in
variable (api endpointId) in
theorem created_holds (call : CreateCall) {ca : Attrs}
    (hplain : ca.get? "customAttributes" = none) :
    Holds api endpointId call.req.mac (call.written ca) (created api endpointId call ca) := by
  have hblock : blockOf api (created api endpointId call ca) =
      objectOf (ca.filterValues (· ≠ "")) := by
    rw [← blockOf_createFields call.req.mac call.req.groupId call.req.description
      (call.req.staticGroupAssignment.getD true) ca]
    rw [blockOf, blockOf, JsonObject.getD, JsonObject.getD, created, iseCreate,
      JsonObject.lookup_set, if_neg (by decide)]
  constructor
  · intro key hkey
    simp only [created, iseCreate, createFields, JsonObject.lookup_set, Written.field,
      CreateCall.written]
    by_cases hid : key = "id"
    · simp [hid]
    by_cases hdescription : key = "description"
    · split_ifs <;> simp_all [lookup_cons_if]
    by_cases hgroup : key = "groupId"
    · split_ifs <;> simp_all [lookup_cons_if]
    by_cases hstatic : key = "staticGroupAssignment"
    · split_ifs <;> simp_all [lookup_cons_if]
    by_cases hname : key = "name"
    · split_ifs <;> simp_all
    by_cases hmac : key = "mac"
    · split_ifs <;> simp_all [lookup_cons_if]
    split_ifs <;> simp_all [lookup_cons_if]
  · rw [hblock]
    exact blockTexts_filterValues ca
  · rw [hblock, lookup_objectOf, Dict.get?_filterValues, hplain]
    rfl

section Update

variable (stored : JsonObject) (description groupId : Option String) (static : Option Bool)
  (ca : Attrs)

omit [PyText] in
/-- Every other key has what the update sends, or else what it had. -/
theorem lookup_iseUpdate {key : String} (hkey : key ≠ "customAttributes") :
    (iseUpdate api stored (updateFields api endpointId description groupId static ca)).lookup key =
      ((updateFields api endpointId description groupId static ca).lookup key).or
        (stored.lookup key) := by
  have hnodup := nodup_updateFields api endpointId description groupId static ca
  unfold iseUpdate
  dsimp only
  split
  · rw [JsonObject.lookup_set, if_neg hkey, JsonObject.lookup_merge_of_nodup hnodup]
  · rw [JsonObject.lookup_merge_of_nodup hnodup]

omit [PyText] in
/-- The attributes are merged key by key. -/
theorem blockOf_iseUpdate :
    blockOf api (iseUpdate api stored
        (updateFields api endpointId description groupId static ca)) =
      JsonObject.merge (blockOf api stored) (objectOf ca) := by
  obtain ⟨hblock, hsome⟩ := blockOf_updateFields api endpointId description groupId static ca
  unfold iseUpdate
  dsimp only
  split
  · rw [blockOf_set, hblock]
  · next hnone =>
      -- nothing is sent, and nothing is merged
      have hempty : objectOf ca = [] := by
        have hsize : ca.size = 0 := not_not.mp fun hsize => hnone (hsome.mpr hsize)
        rw [objectOf, List.length_eq_zero_iff.mp hsize, List.map_nil]
      rw [hempty, blockOf, blockOf, JsonObject.getD, JsonObject.getD,
        JsonObject.lookup_merge_of_nodup
          (nodup_updateFields api endpointId description groupId static ca),
        Option.not_isSome_iff_eq_none.mp hnone, Option.none_or]
      rfl

end Update

omit [PyText] in
theorem iseUpdate_holds {mac : String} {written : Written} {stored : JsonObject}
    (h : Holds api endpointId mac written stored) (update : EndpointUpdate) {ca : Attrs}
    (hplain : ca.get? "customAttributes" = none) :
    Holds api endpointId mac
      { description := update.description.getD written.description
        groupId := update.groupId.or written.groupId
        staticGroup :=
          (if update.groupId.isSome then some (update.staticGroupAssignment.getD true)
            else update.staticGroupAssignment).or written.staticGroup
        attributes := written.attributes.merge ca }
      (iseUpdate api stored (updateFields api endpointId update.description update.groupId
        update.staticGroupAssignment ca)) := by
  obtain ⟨description, groupId, static, -⟩ := update
  dsimp only
  constructor
  · intro key hkey
    rw [lookup_iseUpdate stored description groupId static ca hkey, h.fields key hkey,
      lookup_updateFields description groupId static ca hkey]
    simp only [Written.field]
    by_cases hid : key = "id"
    · simp [hid]
    by_cases hdescription : key = "description"
    · cases description <;> simp [hdescription]
    by_cases hgroup : key = "groupId"
    · simp [hgroup, Option.map_or]
    by_cases hstatic : key = "staticGroupAssignment"
    · simp [hstatic, Option.map_or]
    simp [hid, hdescription, hgroup, hstatic]
  · rw [blockOf_iseUpdate]
    exact h.texts.merge ca
  · rw [blockOf_iseUpdate, JsonObject.lookup_merge_of_nodup (nodup_objectOf ca), lookup_objectOf,
      hplain, h.plain]
    rfl

/-! ## The calls -/

omit [PyText] in
theorem plain_requestAttrs (attrs : Option CustomAttrs) :
    (requestAttrs attrs).get? "customAttributes" = none := by
  cases attrs with
  | none => rfl
  | some attrs =>
      simp [requestAttrs, modelDump, get?_setSome, Dict.get?_set, guestRegistrationAttr, rolesAttr,
        activeAttr, pskModeAttr, pskKeyAttr, guestExperyDateAttr, guestAccessExpireAttr]

/-- What the calls leave in ISE is what they write. -/
theorem stored_holds (call : CreateCall) {ca : Attrs} (hca : call.attrs = .ok ca)
    (updates : List UpdateCall) :
    Holds api endpointId call.req.mac (updates.foldl Written.after (call.written ca))
      (updates.foldl (updated api endpointId) (created api endpointId call ca)) := by
  have hplain : ca.get? "customAttributes" = none := by
    rw [get?_createAttrs hca (by decide), plain_requestAttrs]
  have hstep (mac : String) (written : Written) (stored : JsonObject)
      (h : Holds api endpointId mac written stored) (update : UpdateCall) :
      Holds api endpointId mac (written.after update) (updated api endpointId stored update) := by
    unfold Written.after updated
    cases hattrs : update.attrs with
    | error text => exact h
    | ok sent =>
        refine iseUpdate_holds h update.update ?_
        rw [get?_updateAttrs hattrs (by decide), plain_requestAttrs]
  have hstart := created_holds api endpointId call hplain
  generalize call.written ca = written at hstart ⊢
  generalize created api endpointId call ca = stored at hstart ⊢
  induction updates generalizing written stored with
  | nil => exact hstart
  | cons update rest ih => exact ih _ _ (hstep _ _ _ hstart update)

/-! ## The answer -/

omit [PyText] in
/-- In an object of the values there are for names. -/
theorem lookup_filterMap_self (names : List String) (f : String → Option Json) (name : String) :
    (names.filterMap fun other => (f other).map fun value => (other, value)).lookup name =
      if name ∈ names then f name else none := by
  induction names with
  | nil => rfl
  | cons first rest ih =>
      rw [List.filterMap_cons]
      by_cases hname : name = first
      · subst hname
        cases hvalue : f name with
        | none => simp [ih, hvalue]
        | some value => simp
      · have hmem : (name ∈ first :: rest) = (name ∈ rest) := by simp [hname]
        simp only [hmem]
        cases f first with
        | none => exact ih
        | some value =>
            rw [Option.map_some, lookup_cons_if, if_neg hname]
            exact ih

omit [PyText] in
theorem lookup_shownBlock (blank : String → Blank) (block : JsonObject) (name : String) :
    (shownBlock blank block).lookup name =
      if name ∈ block.map Prod.fst ++ portalAttrs then shownValue blank block name else none := by
  rw [shownBlock, lookup_filterMap_self]
  simp only [List.mem_dedup]

/-- The text the portal reads of an attribute: `str` of null is `None`. -/
def readText (blank : String → Blank) (attributes : Attrs) (name : String) : String :=
  if attributes.attr name ≠ "" then attributes.attr name
  else if blank name = .null then "None"
  else ""

omit [PyText] in
/-- What is read of an attribute of the portal. -/
theorem attrOf_shownBlock [PyJson] {blank : String → Blank} {block : JsonObject}
    {attributes : Attrs} (h : BlockTexts block attributes) {name : String}
    (hname : name ∈ portalAttrs) :
    attrOf ((shownBlock blank block).map fun field => (field.1, strOf field.2)) name =
      readText blank attributes name := by
  have hmap (fields : JsonObject) :
      (fields.map fun field => (field.1, strOf field.2)).lookup name =
        (fields.lookup name).map strOf := by
    induction fields with
    | nil => rfl
    | cons field rest ih =>
        rw [List.map_cons, List.lookup_cons, List.lookup_cons]
        cases name == field.1 with
        | true => rfl
        | false => exact ih
  rw [attrOf, hmap, lookup_shownBlock, if_pos (List.mem_append_right _ hname), shownValue, h name,
    readText]
  by_cases htext : attributes.attr name = ""
  · cases blank name <;> simp [htext, Json.truthy, Blank.json, strOf]
    exact PyJson.str_str ""
  · simp [htext, Json.truthy, strOf, PyJson.str_str]

omit [PyText] in
/-- Both repositories return the object with a block inside a block. -/
theorem getEndpoint_iseAnswer {mac : String} {written : Written} {stored : JsonObject}
    (h : Holds api endpointId mac written stored) (blank : String → Blank) :
    ∃ raw, getEndpoint api (iseAnswer api blank stored) = .ok (.obj raw) ∧
      (∀ key ≠ "customAttributes", raw.lookup key = written.field endpointId mac key) ∧
      raw.lookup "customAttributes" =
        some (.obj [("customAttributes", .obj (shownBlock blank (blockOf api stored)))]) := by
  have hfields (value : Json) (key : String) (hkey : key ≠ "customAttributes") :
      (JsonObject.set stored "customAttributes" value).lookup key =
        written.field endpointId mac key := by
    rw [JsonObject.lookup_set, if_neg hkey, h.fields key hkey]
  cases api with
  | ers =>
      refine ⟨_, rfl, hfields _, ?_⟩
      rw [JsonObject.lookup_set, if_pos rfl]
      rfl
  | openApi =>
      have hplain : (shownBlock blank (blockOf .openApi stored)).lookup "customAttributes" =
          none := by
        rw [lookup_shownBlock, if_neg]
        intro hmem
        rcases List.mem_append.mp hmem with hblock | hportal
        · obtain ⟨field, hfield, hkey⟩ := List.mem_map.mp hblock
          have hother := List.lookup_eq_none_iff.mp h.plain field hfield
          exact absurd hkey.symm (by simpa using hother)
        · exact absurd hportal (by decide)
      let shown := JsonObject.set stored "customAttributes"
        (.obj (shownBlock blank (blockOf .openApi stored)))
      have hshown : shown.lookup "customAttributes" =
          some (.obj (shownBlock blank (blockOf .openApi stored))) := by
        rw [JsonObject.lookup_set, if_pos rfl]
      have htruthy : (Json.obj shown).truthy = true := by
        cases hempty : shown with
        | nil => rw [hempty] at hshown; cases hshown
        | cons field rest => rfl
      have hresponse : shown.lookup "response" = none := hfields _ "response" (by decide)
      have hers : shown.lookup "ERSEndPoint" = none := hfields _ "ERSEndPoint" (by decide)
      refine ⟨JsonObject.set shown "customAttributes"
        (.obj [("customAttributes", .obj (shownBlock blank (blockOf .openApi stored)))]),
        ?_, ?_, ?_⟩
      · show openApiGet (.obj shown) = _
        rw [openApiGet, if_pos htruthy]
        simp only [hresponse, hers, normalizeEndpoint, htruthy, if_true, wrapAttributes, hshown,
          hplain, Option.isSome_none, Bool.false_eq_true, if_false]
      · intro key hkey
        rw [JsonObject.lookup_set, if_neg hkey]
        exact hfields _ key hkey
      · rw [JsonObject.lookup_set, if_pos rfl]

omit [PyText] in
theorem firstOf_of_none {raw : JsonObject} (default : Json) {keys : List String}
    (h : ∀ key ∈ keys, raw.lookup key = none) : JsonObject.firstOf raw default keys = default := by
  induction keys with
  | nil => rfl
  | cons key rest ih =>
      obtain ⟨hkey, hrest⟩ := List.forall_mem_cons.mp h
      rw [JsonObject.firstOf, ih hrest, JsonObject.getD, hkey]
      rfl

omit [PyText] in
/-- The keys nothing is written under. -/
theorem Written.field_eq_none (written : Written) (mac : String) :
    ∀ key ∈ ["profileId", "endpointProfileId", "endpointProfile", "createTime", "createdAt",
      "updateTime", "updatedAt", "portalUser", "identityStore", "identityStoreId",
      "staticProfileAssignment"],
      key ≠ "customAttributes" ∧ written.field endpointId mac key = none := by
  simp [Written.field]

/-- What `_fetch_endpoint_detail` makes of such an object. -/
theorem fetchDetail_of_fields [PyJson] {mac : String} {written : Written} {raw block : JsonObject}
    {text : String → String} (lookups : Lookups)
    (hfields : ∀ key ≠ "customAttributes", raw.lookup key = written.field endpointId mac key)
    (hblock : raw.lookup "customAttributes" =
      some (.obj [("customAttributes", .obj block)]))
    (htext : ∀ name ∈ portalAttrs,
      attrOf (block.map fun field => (field.1, strOf field.2)) name = text name) :
    fetchDetail lookups endpointId (.obj raw) =
      .ok (writtenDetail lookups endpointId mac written text) := by
  have hca : extractCustomAttrs raw = block.map fun field => (field.1, strOf field.2) := by
    simp only [extractCustomAttrs, JsonObject.getD, hblock, Option.getD_some, List.lookup_cons,
      beq_self_eq_true]
  have hid : raw.lookup "id" = some (.str endpointId) := hfields "id" (by decide)
  have hname : raw.lookup "name" = some (.str mac) := hfields "name" (by decide)
  have hmac : raw.lookup "mac" = some (.str mac) := hfields "mac" (by decide)
  have hdescription : raw.lookup "description" = some (.str written.description) :=
    hfields "description" (by decide)
  have hgroup : raw.lookup "groupId" = written.groupId.map .str := hfields "groupId" (by decide)
  have hstatic : raw.lookup "staticGroupAssignment" = written.staticGroup.map .bool :=
    hfields "staticGroupAssignment" (by decide)
  have hnone (key : String) (hkey : key ∈ ["profileId", "endpointProfileId", "endpointProfile",
      "createTime", "createdAt", "updateTime", "updatedAt", "portalUser", "identityStore",
      "identityStoreId", "staticProfileAssignment"]) : raw.lookup key = none := by
    obtain ⟨hother, hfield⟩ := written.field_eq_none mac key hkey
    rw [hfields key hother, hfield]
  have hfirst (default : Json) (keys : List String) (hkeys : ∀ key ∈ keys, key ∈ ["profileId",
      "endpointProfileId", "endpointProfile", "createTime", "createdAt", "updateTime",
      "updatedAt", "portalUser", "identityStore", "identityStoreId",
      "staticProfileAssignment"]) : JsonObject.firstOf raw default keys = default :=
    firstOf_of_none default fun key hkey => hnone key (hkeys key hkey)
  have hmacOrName : JsonObject.getOr raw "mac" "name" = .str mac := by
    simp [JsonObject.getOr, JsonObject.getD, hname, hmac, Json.or]
  have hgroupText : asOptionalText (JsonObject.getD raw "groupId" (.str "")) =
      .ok (some (written.groupId.getD "")) := by
    rw [JsonObject.getD, hgroup]
    cases written.groupId <;> rfl
  have hstaticFlag : (JsonObject.getD raw "staticGroupAssignment" (.bool false)).truthy =
      written.staticGroup.getD false := by
    rw [JsonObject.getD, hstatic]
    cases written.staticGroup <;> rfl
  have htexts (name : String) (hname : name ∈ portalAttrs) :
      attrOf (extractCustomAttrs raw) name = text name := by
    rw [hca]
    exact htext name hname
  have hprofile : (JsonObject.getD raw "staticProfileAssignment" (.bool false)).truthy = false := by
    rw [JsonObject.getD, hnone _ (by decide)]
    rfl
  simp (disch := decide) only [fetchDetail, hgroupText, hmacOrName, hstaticFlag, hprofile, hfirst]
  simp only [JsonObject.getD, hid, hname, hdescription, asText, asOptionalText, bind, Except.bind,
    pure, Except.pure, Option.getD_some, writtenDetail, orElse]
  simp (disch := decide) only [htexts, if_true]

/-- What is fetched is the detail of the texts that are read. -/
theorem fetched_eq [PyJson] (lookups : Lookups) (blanks : ApiType → String → Blank)
    (call : CreateCall) {ca : Attrs} (hca : call.attrs = .ok ca) (updates : List UpdateCall) :
    fetched lookups blanks endpointId call ca updates api =
      .ok (writtenDetail lookups endpointId call.req.mac
        (updates.foldl Written.after (call.written ca))
        (readText (blanks api) (updates.foldl Written.after (call.written ca)).attributes)) := by
  have hholds : Holds api endpointId _ _ _ := stored_holds call hca updates
  obtain ⟨raw, hraw, hfields, hblock⟩ := getEndpoint_iseAnswer hholds (blanks api)
  rw [fetched, hraw]
  exact fetchDetail_of_fields lookups hfields hblock fun name hname =>
    attrOf_shownBlock hholds.texts hname

/-! ## What a detail tells -/

theorem writtenDetail_congr {lookups : Lookups} {mac : String} {written : Written}
    {text other : String → String} (htext : ∀ name ∈ textAttrs, text name = other name)
    (hmode : PyText.lower (text pskModeAttr) = "true" ↔ PyText.lower (other pskModeAttr) = "true") :
    writtenDetail lookups endpointId mac written text =
      writtenDetail lookups endpointId mac written other := by
  simp (disch := decide) only [writtenDetail, htext, hmode]

/-- The text `None` in the place of an empty one is seen in every attribute that is shown. -/
theorem writtenDetail_ne [LawfulAscii] {mac : String} {written : Written}
    {text other : String → String} {name : String} (hname : name ∈ textAttrs)
    (htext : text name = "None") (hother : other name = "") :
    writtenDetail { setOrder := fun _ => [] } endpointId mac written text ≠
      writtenDetail { setOrder := fun _ => [] } endpointId mac written other := by
  intro hsame
  have hroles : parseRolesCsv "None" ≠ parseRolesCsv "" := by
    have hsplit : "None".toList.splitOn ',' = ["None".toList] := by decide
    have hstrip : PyText.strip "None" = "None" := LawfulAscii.strip_visible "None" (by decide)
    have hnone : parseRolesCsv "None" = ["None"] := by
      rw [parseRolesCsv, if_neg (by decide), hsplit, List.map_singleton, String.ofList_toList,
        hstrip]
      decide
    rw [hnone, parseRolesCsv, if_pos rfl]
    exact List.cons_ne_nil _ _
  have hkey : pskDecode "None" ≠ pskDecode "" := by decide
  simp only [writtenDetail, EndpointDetail.mk.injEq] at hsame
  simp only [textAttrs, List.mem_cons, List.not_mem_nil, or_false] at hname
  rcases hname with rfl | rfl | rfl | rfl | rfl | rfl | rfl | rfl | rfl | rfl | rfl | rfl | rfl |
    rfl | rfl | rfl
  all_goals simp_all [orElse]

/-- No attribute that is shown as a text, and holds no value, comes as null. -/
def NoNulls (blanks : ApiType → String → Blank) (attributes : Attrs) : Prop :=
  ∀ api, ∀ name ∈ textAttrs, attributes.attr name = "" → blanks api name ≠ .null

omit [PyText] in
theorem readText_of_ne {blank : String → Blank} {attributes : Attrs} {name : String}
    (h : attributes.attr name = "" → blank name ≠ .null) :
    readText blank attributes name = attributes.attr name := by
  unfold readText
  by_cases htext : attributes.attr name = ""
  · rw [if_neg (not_not.mpr htext), if_neg (h htext), htext]
  · rw [if_pos htext]

/-- For every create request and updates through the portal, and whatever ISE answers for the
attributes without a value: both interfaces give the detail of what was written exactly when no
attribute shown as a text comes as null. -/
theorem written_is_read_iff [PyJson] [LawfulAscii] (blanks : ApiType → String → Blank)
    (endpointId : EndpointId) (call : CreateCall) {ca : Attrs} (hca : call.attrs = .ok ca)
    (updates : List UpdateCall) :
    ReadAsWritten blanks endpointId call ca updates ↔
      NoNulls blanks (updates.foldl Written.after (call.written ca)).attributes := by
  constructor
  · intro hread api name hname hempty hnull
    have hsame := (hread { setOrder := fun _ => [] }).1 api
    rw [fetched_eq _ blanks call hca updates] at hsame
    refine writtenDetail_ne hname ?_ hempty (Except.ok.inj hsame)
    rw [readText, if_neg (not_not.mpr hempty), if_pos hnull]
  · intro hnone lookups
    have hwritten (api : ApiType) : fetched lookups blanks endpointId call ca updates api =
        .ok (writtenDetail lookups endpointId call.req.mac
          (updates.foldl Written.after (call.written ca))
          (updates.foldl Written.after (call.written ca)).attributes.attr) := by
      rw [fetched_eq lookups blanks call hca updates]
      refine congrArg Except.ok (writtenDetail_congr
        (fun name hname => readText_of_ne (hnone api name hname)) ?_)
      -- the mode is a flag, and neither of the texts is a yes
      have hyes : ¬ PyText.lower "None" = "true" := by
        rw [LawfulAscii.lower_ascii "None" (by decide)]
        decide
      have hempty : ¬ PyText.lower "" = "true" := by
        rw [PyText.lower_empty]
        decide
      unfold readText
      split_ifs with htext hnull
      · exact Iff.rfl
      · rw [not_not.mp htext]
        exact iff_of_false hyes hempty
      · rw [not_not.mp htext]
    exact ⟨hwritten, (hwritten .ers).trans (hwritten .openApi).symm⟩

end Calls

section Hall

local instance hallText : PyText := asciiText

local instance hallAscii : LawfulAscii := lawfulAscii_ascii

local instance hallJson : PyJson := .ofLoads fun _ => .error .jsonDecodeError

/-- A camera of the hall, with an owner and no roles. -/
def hallCamera : CreateCall where
  req :=
    { mac := "AA:BB:CC:00:11:22", groupId := "g-1", description := "hall"
      customAttributes := some { owner := "Anna", authzVlan := "20" } }
  psk := { policy := { minLength := 8, requireUppercase := false, requireNumbers := false
                       requireSpecial := false } }
  stamp := "2026-01-02T08:00:00Z"

/-- The owner is cleared, and the VLAN changes. -/
def hallMoves : UpdateCall where
  update := { customAttributes := some { authzVlan := "30" } }
  psk := hallCamera.psk
  stamp := "2026-01-03T08:00:00Z"

/-- ERS leaves out what holds no value, the Open API has the empty text. -/
def blankTexts : ApiType → String → Blank
  | .ers, _ => .absent
  | .openApi, _ => .empty

theorem written_is_read_hall :
    ∃ ca, hallCamera.attrs = .ok ca ∧ ReadAsWritten blankTexts "e-1" hallCamera ca [hallMoves] := by
  refine ⟨_, rfl, (written_is_read_iff blankTexts "e-1" hallCamera rfl [hallMoves]).mpr ?_⟩
  intro api name hname hempty
  cases api <;> exact Blank.noConfusion

/-- With null for the attributes without a value, the camera has the role `None`, and `None` for
an endpoint type. -/
theorem read_none_role :
    ∃ ca, hallCamera.attrs = .ok ca ∧
      ¬ ReadAsWritten (fun _ _ => .null) "e-1" hallCamera ca [] ∧
      ∃ detail, fetched { setOrder := fun _ => [] } (fun _ _ => .null) "e-1" hallCamera ca [] .ers =
        .ok detail ∧ detail.roles = ["None"] ∧ detail.endpointType = "None" := by
  refine ⟨_, rfl, fun hread => ?_, _, fetched_eq _ _ hallCamera rfl [], by decide,
    by decide⟩
  have hsame := (hread { setOrder := fun _ => [] }).1 .ers
  rw [fetched_eq _ _ hallCamera rfl []] at hsame
  have hroles : rolesAttr ∈ textAttrs := by decide
  exact writtenDetail_ne hroles (by decide) (by decide) (Except.ok.inj hsame)

end Hall

end IsePortal.EndpointBodies
