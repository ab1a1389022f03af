import IsePortal.Service.RegistrationDate

/-!
# The forms of an endpoint

The row of the table (`frontend/js/views/browse-table.js`) and the detail modal
(`browse-detail.js`): what the widgets hold once an endpoint is rendered, and the body of the `PUT`
a save makes of them. A widget holds what the browser makes of the value it is given: the value of
an attribute `esc` wrote, of a text or date input, of the selected option.
-/

namespace IsePortal.Frontend

open Library

/-! ## Widgets -/

/-- Newlines as the HTML parser reads them. -/
def normalizeNewlines : List Char → List Char
  | [] => []
  | '\r' :: '\n' :: rest => '\n' :: normalizeNewlines rest
  | '\r' :: rest => '\n' :: normalizeNewlines rest
  | char :: rest => char :: normalizeNewlines rest

/-- The character the parser puts for a null character. -/
def replacement : Char := '\uFFFD'

/-- The value of an attribute that `esc` wrote. -/
def attributeText (text : String) : String :=
  String.ofList ((normalizeNewlines text.toList).map fun char =>
    if char = '\x00' then replacement else char)

/-- The value of a text input: newlines are stripped. -/
def inputText (text : String) : String :=
  String.ofList (text.toList.filter fun char => char ≠ '\n' && char ≠ '\r')

/-- An `<option>` -/
structure OptionTag where
  value : String
  selected : Bool := false

/-- `value` of a `<select>` that is rendered with these options. -/
def selectValue (options : List OptionTag) : String :=
  match (options.filter OptionTag.selected).getLast?.or options.head? with
  | none => ""
  | some option => option.value

/-- `optionsHtml` -/
def optionsHtml (values : List String) (selected : String) : List OptionTag :=
  { value := "" } :: values.map fun v => { value := attributeText v, selected := v = selected }

/-- `groupHierarchyOptionsHtml`, but for the order of the groups, which is that of their labels. -/
def groupOptions (groups : List EndpointGroupSummary) (selected : Option String) :
    List OptionTag :=
  { value := "" } :: groups.map fun g =>
    { value := attributeText g.id, selected := some g.id = selected }

/-- `value` of a `<select>` that is set to a value. -/
def setSelect (options : List String) (value : String) : String :=
  if value ∈ options then value else ""

/-- Two digits, as `padStart(2, "0")` makes them. -/
def twoDigits (n : Nat) : String := if n < 10 then "0" ++ toString n else toString n

/-- The options of `#d-expery-hour-s` -/
def hours : List String := (List.range 24).map twoDigits

/-- The options of `#d-expery-min-s` -/
def minutes : List String := (List.range 60).map twoDigits

/-- The number a list of digits is. -/
def number (digits : List Char) : Nat :=
  digits.foldl (fun n char => n * 10 + (char.toNat - '0'.toNat)) 0

def daysInMonth (year month : Nat) : Nat :=
  if month = 2 then
    if year % 400 = 0 ∨ (year % 4 = 0 ∧ year % 100 ≠ 0) then 29 else 28
  else if month = 4 ∨ month = 6 ∨ month = 9 ∨ month = 11 then 30 else 31

/-- A valid date string of HTML. -/
def isDate (text : String) : Bool :=
  match text.toList.splitOn '-' with
  | [year, month, day] =>
      (year ++ month ++ day).all Char.isDigit && decide (4 ≤ year.length) &&
        decide (month.length = 2) && decide (day.length = 2) && decide (0 < number year) &&
        decide (1 ≤ number month) && decide (number month ≤ 12) && decide (1 ≤ number day) &&
        decide (number day ≤ daysInMonth (number year) (number month))
  | _ => false

/-- A date consists of digits and hyphens. -/
theorem date_chars {date : String} (h : isDate date = true) :
    ∀ char ∈ date.toList, char.isDigit = true ∨ char = '-' := by
  unfold isDate at h
  split at h
  · rename_i year month day hparts
    simp only [Bool.and_eq_true, List.all_eq_true] at h
    have hdigits := h.1.1.1.1.1.1.1.1
    have hjoin : date.toList = year ++ '-' :: (month ++ '-' :: day) := by
      have hwhole : ['-'].intercalate (date.toList.splitOn '-') = date.toList :=
        List.intercalate_splitOn '-'
      rw [← hwhole, hparts]
      simp [List.intercalate_cons_cons]
    intro char hchar
    rw [hjoin] at hchar
    have hplace : char ∈ year ++ month ++ day ∨ char = '-' := by
      simp only [List.mem_append, List.mem_cons] at hchar ⊢
      tauto
    exact hplace.imp_left (hdigits char)
  · cases h

/-- The value of a date input. -/
def dateText (text : String) : String := if isDate text then text else ""

/-! ## The page -/

/-- `state.caValues` -/
structure CaValues where
  type : List String := []
  owner : List String := []
  lokation : List String := []
  authzVlan : List String := []
  authzAcl : List String := []
  platformType : List String := []

/-- What the page knows: the values, groups and roles the server listed, whether the user edits PSK
keys, and `getNasPlatformType` over the sessions of pxGrid. `columns` are the keys of
`getOrderedColumns`. -/
structure Page where
  caValues : CaValues := {}
  groups : List EndpointGroupSummary := []
  roleCatalog : List String := []
  isPskEditor : Bool := false
  nasPlatformType : String → String := fun _ => ""
  columns : List String := []

/-- `r.mac || r.name` of the session lookup. -/
def Page.nasOf (page : Page) (detail : EndpointDetail) : String :=
  page.nasPlatformType (orElse detail.mac detail.name)

/-- The attributes with a widget of their own for a text. -/
inductive AttrField where
  | type
  | owner
  | lokation
  | authzVlan
  | authzAcl
  | platformType
  | registretBy
  | guestRegistration
  | guestExperyDate
  | guestAccessExpire
  deriving DecidableEq

/-- The field of an endpoint detail. -/
def AttrField.read (detail : EndpointDetail) : AttrField → String
  | .type => detail.endpointType
  | .owner => detail.owner
  | .lokation => detail.lokation
  | .authzVlan => detail.authzVlan
  | .authzAcl => detail.authzAcl
  | .platformType => detail.platformType
  | .registretBy => detail.registretBy
  | .guestRegistration => detail.guestRegistration
  | .guestExperyDate => detail.guestExperyDate
  | .guestAccessExpire => detail.guestAccessExpire

/-- The group with the name Unknown, where a group that is taken away leads. -/
def unknownGroup (toLowerCase : String → String) (page : Page) : Option EndpointGroupSummary :=
  page.groups.find? fun g => toLowerCase g.name = "unknown"

/-! ## The row of the table -/

/-- The widgets of a row, and what a bulk edit left in its `dataset`. -/
structure TableRow where
  description : String
  group : String
  attrs : AttrField → String
  pskMode : Bool
  beStaticGroup : Option Bool := none
  bePskKey : Option String := none
  beActiveStatus : Option String := none

/-- The cells of `renderRows` -/
def renderRow (page : Page) (r : EndpointDetail) : TableRow where
  description := inputText (attributeText (r.description.getD ""))
  group := selectValue (groupOptions page.groups r.groupId)
  attrs
    | .type => selectValue (optionsHtml page.caValues.type r.endpointType)
    | .owner => selectValue (optionsHtml page.caValues.owner r.owner)
    | .lokation => selectValue (optionsHtml page.caValues.lokation r.lokation)
    | .authzVlan => selectValue (optionsHtml page.caValues.authzVlan r.authzVlan)
    | .authzAcl => selectValue (optionsHtml page.caValues.authzAcl r.authzAcl)
    -- the platform of the switch, in a disabled widget
    | .platformType =>
        if page.nasOf r ≠ "" then
          selectValue (optionsHtml page.caValues.platformType (page.nasOf r))
        else selectValue (optionsHtml page.caValues.platformType r.platformType)
    | .registretBy => inputText (attributeText r.registretBy)
    | .guestRegistration => selectValue (optionsHtml ["true", "false"] r.guestRegistration)
    | .guestExperyDate => inputText (attributeText r.guestExperyDate)
    | .guestAccessExpire => selectValue (optionsHtml ["true", "false"] r.guestAccessExpire)
  pskMode := r.pskMode

/-- `tr.querySelector(".desc-input").value`: three cells have an input of that class, and the first
of the row is taken. -/
def TableRow.firstDescInput (row : TableRow) (columns : List String) : String :=
  match columns.find? (· ∈ ["description", "registret_by", "guest_expery_date"]) with
  | some "registret_by" => row.attrs .registretBy
  | some "guest_expery_date" => row.attrs .guestExperyDate
  | _ => row.description

/-- `group_id` and `static_group_assignment` for a group that has changed. -/
def changedGroup (toLowerCase : String → String) (page : Page) (selected : String)
    (static : Option Bool) : Option String × Option Bool :=
  if selected = "" then
    match unknownGroup toLowerCase page with
    | some unknown => (some unknown.id, some false)
    | none => (none, none)
  else (some selected, static)

/-- `buildSavePayload` for the row `r` of `state.allRows`. -/
def buildSavePayload (toLowerCase : String → String) (page : Page) (row : TableRow)
    (r : EndpointDetail) : EndpointUpdate :=
  let groupChanged := row.group ≠ r.groupId.getD ""
  let (groupId, static) :=
    if groupChanged then changedGroup toLowerCase page row.group none else (none, none)
  { description := some (row.firstDescInput page.columns)
    groupId := groupId
    staticGroupAssignment := row.beStaticGroup.or static
    customAttributes := some
      { type := row.attrs .type
        owner := row.attrs .owner
        lokation := row.attrs .lokation
        authzVlan := row.attrs .authzVlan
        authzACL := row.attrs .authzAcl
        platformType := row.attrs .platformType
        registretBy := row.attrs .registretBy
        guestRegistration := row.attrs .guestRegistration
        guestExperyDate := some (row.attrs .guestExperyDate)
        guestAccessExpire := some (row.attrs .guestAccessExpire)
        hypervisionRoles := ",".intercalate r.roles
        pskMode := if page.isPskEditor then some (if row.pskMode then "true" else "false") else none
        pskKey :=
          if page.isPskEditor then row.bePskKey.filter (· ≠ "****") else none
        hypervisionActive := row.beActiveStatus } }

/-! ## The detail modal -/

/-- The widgets of the modal, and what it keeps of the endpoint. In `attrs` the expiry is the date
input; hour and minute have a widget each. -/
structure DetailForm where
  description : String
  group : String
  staticGroup : Bool
  activeStatus : String
  attrs : AttrField → String
  expiryHour : String
  expiryMinute : String
  pskMode : Bool
  pskKey : String
  roles : List String
  originalGroupId : String
  originalRoles : List String

/-- `(expiryTimePart || "23:59").split(":")`, with the defaults behind it. -/
def timeParts (timePart : String) : String × String :=
  match (if timePart = "" then "23:59" else timePart).toList.splitOn ':' with
  | hour :: minute :: _ =>
      (orElse (String.ofList hour) "23", orElse (String.ofList minute) "59")
  | [hour] => (orElse (String.ofList hour) "23", "59")
  | [] => ("23", "59")

/-- The date and the time of an expiry, cut at its first colon unless it begins with it. -/
def expiryParts (rawExpiry : String) : String × String :=
  let datePart := rawExpiry.toList.takeWhile (· ≠ ':')
  if datePart.isEmpty then (rawExpiry, "")
  else (String.ofList datePart, String.ofList ((rawExpiry.toList.drop (datePart.length + 1))))

/-- The roles the catalog has, whatever their case. -/
def inCatalog (toLowerCase : String → String) (catalog : List String) (role : String) : Bool :=
  toLowerCase role ∈ catalog.map toLowerCase

/-- `openDetail`, once the endpoint has been fetched. -/
def openDetail (toLowerCase : String → String) (page : Page) (d : EndpointDetail) :
    DetailForm where
  description := inputText (d.description.getD "")
  group := selectValue (groupOptions page.groups d.groupId)
  staticGroup := d.staticGroup
  activeStatus := setSelect ["", "Aktiv", "Inaktiv"] d.activeStatus
  attrs
    | .type => selectValue (optionsHtml page.caValues.type d.endpointType)
    | .owner => selectValue (optionsHtml page.caValues.owner d.owner)
    | .lokation => selectValue (optionsHtml page.caValues.lokation d.lokation)
    | .authzVlan => selectValue (optionsHtml page.caValues.authzVlan d.authzVlan)
    | .authzAcl => selectValue (optionsHtml page.caValues.authzAcl d.authzAcl)
    | .platformType =>
        selectValue (optionsHtml page.caValues.platformType (orElse d.platformType (page.nasOf d)))
    | .registretBy => inputText d.registretBy
    | .guestRegistration => setSelect ["", "true", "false"] d.guestRegistration
    | .guestExperyDate => dateText (expiryParts d.guestExperyDate).1
    | .guestAccessExpire => setSelect ["", "true", "false"] d.guestAccessExpire
  expiryHour := setSelect hours (timeParts (expiryParts d.guestExperyDate).2).1
  expiryMinute := setSelect minutes (timeParts (expiryParts d.guestExperyDate).2).2
  pskMode := d.pskMode
  pskKey := inputText d.pskKey
  roles := (page.roleCatalog.filter (inCatalog toLowerCase d.roles)).map attributeText
  originalGroupId := d.groupId.getD ""
  originalRoles := d.roles

/-- `GuestExperyDate` of the save handler. -/
def DetailForm.expiry (form : DetailForm) : String :=
  if form.attrs .guestExperyDate = "" then ""
  else form.attrs .guestExperyDate ++ ":" ++ orElse form.expiryHour "23" ++ ":" ++
    orElse form.expiryMinute "59"

/-- The `click` handler of `#d-save` -/
def savePayload (toLowerCase : String → String) (page : Page) (form : DetailForm) :
    EndpointUpdate :=
  let groupChanged := form.group ≠ form.originalGroupId
  let (groupId, static) :=
    if groupChanged then changedGroup toLowerCase page form.group (some form.staticGroup)
    else (none, if form.group ≠ "" then some form.staticGroup else none)
  let externalRoles := form.originalRoles.filter fun role =>
    !inCatalog toLowerCase page.roleCatalog role
  { description := some form.description
    groupId := groupId
    staticGroupAssignment := static
    customAttributes := some
      { type := form.attrs .type
        owner := form.attrs .owner
        lokation := form.attrs .lokation
        authzVlan := form.attrs .authzVlan
        authzACL := form.attrs .authzAcl
        platformType := form.attrs .platformType
        registretBy := form.attrs .registretBy
        guestRegistration := form.attrs .guestRegistration
        guestExperyDate := some form.expiry
        guestAccessExpire := some (form.attrs .guestAccessExpire)
        hypervisionRoles := ",".intercalate (externalRoles ++ form.roles)
        pskMode :=
          if page.isPskEditor then some (if form.pskMode then "true" else "false") else none
        pskKey := if page.isPskEditor then some form.pskKey else none
        hypervisionActive := orNone form.activeStatus } }

end IsePortal.Frontend
