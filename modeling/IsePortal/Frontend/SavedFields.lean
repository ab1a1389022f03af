import IsePortal.Api.AutoTag
import IsePortal.Frontend.EndpointForms
import IsePortal.Service.PskWrites

/-!
# What a save leaves alone

A save sends every field of its form, as the widgets show them. `save_keeps_unedited` says what
becomes of the fields the user did not edit: a field whose widget can hold its value stays, but for
what the portal fills in by itself.
-/

namespace IsePortal.Frontend

open Library

/-! ## Edits -/

/-- The fields of an endpoint the portal writes: the attributes of `CustomAttrs`, the description,
the group and its static flag. -/
inductive Field where
  | attr (field : AttrField)
  | status
  | activeStatus
  | pskMode
  | pskKey
  | roles
  | description
  | group
  | staticGroup
  deriving DecidableEq

/-- A field is the same in two details. -/
def Field.Same (old new : EndpointDetail) : Field → Prop
  | .attr field => field.read new = field.read old
  | .status => new.status = old.status
  | .activeStatus => new.activeStatus = old.activeStatus
  | .pskMode => new.pskMode = old.pskMode
  | .pskKey => new.pskKey = old.pskKey
  | .roles => ∀ role, role ∈ new.roles ↔ role ∈ old.roles
  | .description => new.description.getD "" = old.description.getD ""
  | .group => new.groupId.getD "" = old.groupId.getD ""
  | .staticGroup => new.staticGroup = old.staticGroup

/-- An edit of one field of a row, in its cell or by a bulk edit. -/
inductive TableEdit where
  | attr (field : AttrField) (value : String)
  | description (value : String)
  | group (value : String)
  | pskMode (checked : Bool)
  | staticGroup (static : Bool)
  | pskKey (value : String)
  | activeStatus (value : String)

def TableEdit.field : TableEdit → Field
  | .attr field _ => .attr field
  | .description _ => .description
  | .group _ => .group
  | .pskMode _ => .pskMode
  | .staticGroup _ => .staticGroup
  | .pskKey _ => .pskKey
  | .activeStatus _ => .activeStatus

def TableRow.edit (row : TableRow) : TableEdit → TableRow
  | .attr field value =>
      { row with attrs := fun other => if other = field then value else row.attrs other }
  | .description value => { row with description := value }
  | .group value => { row with group := value }
  | .pskMode checked => { row with pskMode := checked }
  | .staticGroup static => { row with beStaticGroup := some static }
  | .pskKey value => { row with bePskKey := some value }
  | .activeStatus value => { row with beActiveStatus := some value }

/-- An edit of one field of the modal; the expiry has three widgets. -/
inductive DetailEdit where
  | attr (field : AttrField) (value : String)
  | expiryHour (value : String)
  | expiryMinute (value : String)
  | description (value : String)
  | group (value : String)
  | staticGroup (checked : Bool)
  | activeStatus (value : String)
  | pskMode (checked : Bool)
  | pskKey (value : String)
  | roles (selected : List String)

def DetailEdit.field : DetailEdit → Field
  | .attr field _ => .attr field
  | .expiryHour _ => .attr .guestExperyDate
  | .expiryMinute _ => .attr .guestExperyDate
  | .description _ => .description
  | .group _ => .group
  | .staticGroup _ => .staticGroup
  | .activeStatus _ => .activeStatus
  | .pskMode _ => .pskMode
  | .pskKey _ => .pskKey
  | .roles _ => .roles

def DetailForm.edit (form : DetailForm) : DetailEdit → DetailForm
  | .attr field value =>
      { form with attrs := fun other => if other = field then value else form.attrs other }
  | .expiryHour value => { form with expiryHour := value }
  | .expiryMinute value => { form with expiryMinute := value }
  | .description value => { form with description := value }
  | .group value => { form with group := value }
  | .staticGroup checked => { form with staticGroup := checked }
  | .activeStatus value => { form with activeStatus := value }
  | .pskMode checked => { form with pskMode := checked }
  | .pskKey value => { form with pskKey := value }
  | .roles selected => { form with roles := selected }

/-! ## What the portal fills in -/

/-- The static flag once the group is changed: taken away, it leads to Unknown with a dynamic
flag. -/
def movedStatic (toLowerCase : String → String) (page : Page) (d : EndpointDetail)
    (group : String) (static : Bool) : Bool :=
  if group = d.groupId.getD "" then d.staticGroup
  else if group = "" then
    if (unknownGroup toLowerCase page).isSome then false else d.staticGroup
  else static

/-- A group that is chosen in the table comes with the default of ISE's static flag. -/
def TableEdit.static (toLowerCase : String → String) (page : Page) (d : EndpointDetail) :
    TableEdit → Bool
  | .group value => movedStatic toLowerCase page d value true
  | _ => d.staticGroup

/-- A group that is chosen in the modal comes with the flag the modal shows. -/
def DetailEdit.static (toLowerCase : String → String) (page : Page) (d : EndpointDetail) :
    DetailEdit → Bool
  | .group value => movedStatic toLowerCase page d value d.staticGroup
  | _ => d.staticGroup

/-- A snapshot without an active status, for which `update_endpoint` puts one in. -/
def unsetStatus (before : Option EndpointDetail) : Bool :=
  before.any fun detail => detail.activeStatus = ""

section Filled

variable [PyText]

/-- An endpoint with what a save fills in: the platform of its switch, the status Aktiv and the role
of an auto-tag where it has none, and the static flag that goes with its group. -/
def filledIn (page : Page) (autoTag : Option String) (before : Option EndpointDetail)
    (static : Bool) (d : EndpointDetail) : EndpointDetail :=
  { d with
    platformType :=
      if d.platformType = "" ∧ page.nasOf d ∈ page.caValues.platformType then
        attributeText (page.nasOf d)
      else d.platformType
    activeStatus := if d.activeStatus = "" ∧ unsetStatus before = true then "Aktiv"
      else d.activeStatus
    roles := if d.roles = [] then (autoTag.map parseRolesCsv).getD [] else d.roles
    staticGroup := static }

/-! ## What the widgets can hold -/

omit [PyText] in
/-- A text the value of an attribute reads back as it is. -/
def Verbatim (text : String) : Prop := '\r' ∉ text.toList ∧ '\x00' ∉ text.toList

omit [PyText] in
/-- A text without a newline. -/
def OneLine (text : String) : Prop := '\n' ∉ text.toList ∧ '\r' ∉ text.toList

omit [PyText] in
/-- A value the options of a list have. -/
def Listed (values : List String) (text : String) : Prop :=
  text = "" ∨ text ∈ values ∧ Verbatim text

omit [PyText] in
/-- A group the options have, or one that goes nowhere without the group Unknown. -/
def GroupHeld (toLowerCase : String → String) (page : Page) (d : EndpointDetail) : Prop :=
  d.groupId.getD "" = "" ∨
    (d.groupId.getD "" ∈ page.groups.map EndpointGroupSummary.id ∧
      Verbatim (d.groupId.getD "")) ∨
    d.groupId.getD "" ∉ page.groups.map EndpointGroupSummary.id ∧
      unknownGroup toLowerCase page = none

omit [PyText] in
/-- An expiry the three widgets of the modal can show. -/
def ShownExpiry (text : String) : Prop :=
  text = "" ∨ ∃ date hour minute, isDate date = true ∧ hour ∈ hours ∧ minute ∈ minutes ∧
    text = date ++ ":" ++ hour ++ ":" ++ minute

omit [PyText] in
/-- The row can hold a field, while another is edited. -/
def TableHolds (toLowerCase : String → String) (page : Page) (before : Option EndpointDetail)
    (d : EndpointDetail) (edit : TableEdit) : Field → Prop
  | .attr .type => Listed page.caValues.type d.endpointType
  | .attr .owner => Listed page.caValues.owner d.owner
  | .attr .lokation => Listed page.caValues.lokation d.lokation
  | .attr .authzVlan => Listed page.caValues.authzVlan d.authzVlan
  | .attr .authzAcl => Listed page.caValues.authzAcl d.authzAcl
  -- the platform of the switch takes the place of the endpoint's own
  | .attr .platformType =>
      d.platformType = "" ∨ d.platformType ∈ page.caValues.platformType ∧
        Verbatim d.platformType ∧ (page.nasOf d = "" ∨ page.nasOf d = d.platformType)
  | .attr .registretBy => OneLine d.registretBy ∧ Verbatim d.registretBy
  | .attr .guestRegistration => Listed ["true", "false"] d.guestRegistration
  | .attr .guestExperyDate => OneLine d.guestExperyDate ∧ Verbatim d.guestExperyDate
  | .attr .guestAccessExpire => Listed ["true", "false"] d.guestAccessExpire
  | .description =>
      page.columns.find? (· ∈ ["description", "registret_by", "guest_expery_date"]) =
          some "description" ∧
        OneLine (d.description.getD "") ∧ Verbatim (d.description.getD "")
  | .group => GroupHeld toLowerCase page d
  | .staticGroup => (∃ value, edit = .group value) ∨ GroupHeld toLowerCase page d
  | .activeStatus => d.activeStatus = "" ∨ unsetStatus before = false
  | .status | .pskMode | .pskKey | .roles => True

/-- The modal can hold a field, while another is edited. -/
def ModalHolds (toLowerCase : String → String) (page : Page) (before : Option EndpointDetail)
    (d : EndpointDetail) (edit : DetailEdit) : Field → Prop
  | .attr .type => Listed page.caValues.type d.endpointType
  | .attr .owner => Listed page.caValues.owner d.owner
  | .attr .lokation => Listed page.caValues.lokation d.lokation
  | .attr .authzVlan => Listed page.caValues.authzVlan d.authzVlan
  | .attr .authzAcl => Listed page.caValues.authzAcl d.authzAcl
  | .attr .platformType => Listed page.caValues.platformType d.platformType
  | .attr .registretBy => OneLine d.registretBy
  | .attr .guestRegistration => d.guestRegistration ∈ ["", "true", "false"]
  | .attr .guestExperyDate => ShownExpiry d.guestExperyDate
  | .attr .guestAccessExpire => d.guestAccessExpire ∈ ["", "true", "false"]
  | .description => OneLine (d.description.getD "")
  | .group => GroupHeld toLowerCase page d
  | .staticGroup => (∃ value, edit = .group value) ∨ GroupHeld toLowerCase page d
  | .activeStatus => d.activeStatus ∈ ["", "Aktiv", "Inaktiv"] ∨ unsetStatus before = false
  | .pskKey => page.isPskEditor = true → OneLine d.pskKey ∧ hasPskPrefix d.pskKey = false
  -- a role of the catalog is sent as the catalog writes it
  | .roles =>
      (∀ role ∈ d.roles, inCatalog toLowerCase page.roleCatalog role = true →
        ∃ name ∈ page.roleCatalog, inCatalog toLowerCase d.roles name = true ∧
          role ∈ parseRolesCsv (attributeText name)) ∧
      ∀ name ∈ page.roleCatalog, inCatalog toLowerCase d.roles name = true →
        ∀ role ∈ parseRolesCsv (attributeText name), role ∈ d.roles
  | .status | .pskMode => True

end Filled

/-! ## Widgets -/

section Widgets

theorem normalize_newlines {chars : List Char} (h : '\r' ∉ chars) :
    normalizeNewlines chars = chars := by
  fun_induction normalizeNewlines chars with
  | case1 => rfl
  | case2 rest ih => exact absurd List.mem_cons_self h
  | case3 rest _ ih => exact absurd List.mem_cons_self h
  | case4 char rest _ _ ih => rw [ih (fun hmem => h (List.mem_cons_of_mem _ hmem))]

theorem attribute_text {text : String} (h : Verbatim text) : attributeText text = text := by
  have hmap : text.toList.map (fun char => if char = '\x00' then replacement else char) =
      text.toList.map id :=
    List.map_congr_left fun char hmem => if_neg fun (hnull : char = '\x00') => h.2 (hnull ▸ hmem)
  rw [attributeText, normalize_newlines h.1, hmap, List.map_id, String.ofList_toList]

theorem input_text {text : String} (h : OneLine text) : inputText text = text := by
  have hkeep : text.toList.filter (fun char => char ≠ '\n' && char ≠ '\r') = text.toList := by
    rw [List.filter_eq_self]
    intro char hmem
    have hnewline : char ≠ '\n' := fun hchar => h.1 (hchar ▸ hmem)
    have hreturn : char ≠ '\r' := fun hchar => h.2 (hchar ▸ hmem)
    simp [hnewline, hreturn]
  rw [inputText, hkeep, String.ofList_toList]

/-- A select shows the value its selected options share, and is empty without one. -/
theorem select_value {α : Type} (items : List α) (value : α → String) (chosen : α → Bool)
    {text : String} (hsame : ∀ item ∈ items, chosen item = true → value item = text) :
    selectValue ({ value := "" } ::
        items.map fun item => { value := value item, selected := chosen item }) =
      if items.any chosen then text else "" := by
  have hfilter : (({ value := "" } : OptionTag) ::
      items.map fun item => { value := value item, selected := chosen item }).filter
        OptionTag.selected =
      (items.filter chosen).map fun item => { value := value item, selected := chosen item } := by
    rw [List.filter_cons_of_neg (by decide), List.filter_map]
    rfl
  rw [selectValue, hfilter, List.getLast?_map]
  cases hlast : (items.filter chosen).getLast? with
  | none =>
      have hnone : items.any chosen = false := by
        rw [List.getLast?_eq_none_iff, List.filter_eq_nil_iff] at hlast
        simpa using hlast
      rw [hnone]
      rfl
  | some item =>
      obtain ⟨hmem, hchosen⟩ := List.mem_filter.mp (List.mem_of_getLast? hlast)
      rw [if_pos (List.any_eq_true.mpr ⟨item, hmem, hchosen⟩)]
      exact hsame item hmem hchosen

theorem select_options (values : List String) (text : String) :
    selectValue (optionsHtml values text) = if text ∈ values then attributeText text else "" := by
  have hany : values.any (fun v => decide (v = text)) = true ↔ text ∈ values := by simp
  have hsame : ∀ v ∈ values, decide (v = text) = true → attributeText v = attributeText text :=
    fun v _ hv => by rw [of_decide_eq_true hv]
  rw [optionsHtml, select_value values attributeText (fun v => decide (v = text)) hsame]
  by_cases hmem : text ∈ values
  · rw [if_pos (hany.mpr hmem), if_pos hmem]
  · rw [if_neg (fun h => hmem (hany.mp h)), if_neg hmem]

theorem select_listed {values : List String} {text : String} (h : Listed values text) :
    selectValue (optionsHtml values text) = text := by
  rw [select_options]
  rcases h with rfl | ⟨hmem, hverbatim⟩
  · split
    · rfl
    · rfl
  · rw [if_pos hmem, attribute_text hverbatim]

/-- A value that is not in the list is shown as none. -/
theorem select_unlisted {values : List String} {text : String} (h : text ∉ values) :
    selectValue (optionsHtml values text) = "" := by
  rw [select_options, if_neg h]

theorem select_group (groups : List EndpointGroupSummary) (groupId : String) :
    selectValue (groupOptions groups (some groupId)) =
      if groupId ∈ groups.map EndpointGroupSummary.id then attributeText groupId else "" := by
  have hany : groups.any (fun g => decide (some g.id = some groupId)) = true ↔
      groupId ∈ groups.map EndpointGroupSummary.id := by
    simp
  have hsame : ∀ g ∈ groups, decide (some g.id = some groupId) = true →
      attributeText g.id = attributeText groupId :=
    fun g _ hg => by rw [Option.some.inj (of_decide_eq_true hg)]
  rw [groupOptions, select_value groups (fun g => attributeText g.id)
    (fun g => decide (some g.id = some groupId)) hsame]
  by_cases hmem : groupId ∈ groups.map EndpointGroupSummary.id
  · rw [if_pos (hany.mpr hmem), if_pos hmem]
  · rw [if_neg (fun h => hmem (hany.mp h)), if_neg hmem]

/-! ### The expiry of a guest -/

theorem colon_not_mem_date {date : String} (h : isDate date = true) : ':' ∉ date.toList := by
  intro hcolon
  exact absurd (date_chars h ':' hcolon) (by decide)

theorem hours_plain : ∀ hour ∈ hours, ':' ∉ hour.toList ∧ hour ≠ "" := by decide

theorem minutes_plain : ∀ minute ∈ minutes, ':' ∉ minute.toList ∧ minute ≠ "" := by decide

theorem date_ne_empty {date : String} (h : isDate date = true) : date ≠ "" := by
  rintro rfl
  exact absurd h (by decide)

/-- The date and the time of an expiry in the form the modal writes. -/
theorem expiry_parts {date time : String} (hdate : isDate date = true) :
    expiryParts (date ++ ":" ++ time) = (date, time) := by
  have hcolon := colon_not_mem_date hdate
  have htake : (date ++ ":" ++ time).toList.takeWhile (· ≠ ':') = date.toList := by
    have hall : ∀ char ∈ date.toList, decide (char ≠ ':') = true := by
      intro char hmem
      exact decide_eq_true fun h => hcolon (h ▸ hmem)
    rw [String.toList_append, String.toList_append, List.append_assoc,
      List.takeWhile_append_of_pos hall]
    simp
  have hdrop : (date ++ ":" ++ time).toList.drop (date.toList.length + 1) = time.toList := by
    rw [String.toList_append, String.toList_append]
    have hlength : date.toList.length + 1 = (date.toList ++ ":".toList).length := by simp
    rw [hlength, List.drop_left]
  have hnonempty : date.toList.isEmpty = false := by
    cases hlist : date.toList with
    | nil => exact absurd (String.toList_eq_nil_iff.mp hlist) (date_ne_empty hdate)
    | cons first rest => rfl
  simp only [expiryParts, htake, hnonempty, hdrop, String.ofList_toList, Bool.false_eq_true,
    ↓reduceIte]

theorem time_parts {hour minute : String} (hhour : hour ∈ hours) (hminute : minute ∈ minutes) :
    timeParts (hour ++ ":" ++ minute) = (hour, minute) := by
  obtain ⟨hcolon, hne⟩ := hours_plain hour hhour
  obtain ⟨hcolonMinute, hneMinute⟩ := minutes_plain minute hminute
  have htext : hour ++ ":" ++ minute ≠ "" := by
    intro h
    have hlist := congrArg String.toList h
    simp at hlist
  have hsplit : (hour ++ ":" ++ minute).toList.splitOn ':' = [hour.toList, minute.toList] := by
    rw [String.toList_append, String.toList_append, List.append_assoc]
    show (hour.toList ++ ':' :: minute.toList).splitOn ':' = _
    rw [List.splitOn_append_cons_self_of_not_mem hcolon, List.splitOn_eq_singleton hcolonMinute]
  simp only [timeParts, if_neg htext, hsplit, String.ofList_toList, orElse, if_neg hne,
    if_neg hneMinute]

end Widgets

/-! ## Roles -/

section Roles

theorem mem_splitOn_intercalate {sep : Char} {parts : List (List Char)} {part : List Char}
    (hparts : parts ≠ []) :
    part ∈ ([sep].intercalate parts).splitOn sep ↔ ∃ whole ∈ parts, part ∈ whole.splitOn sep := by
  induction parts with
  | nil => exact absurd rfl hparts
  | cons first rest ih =>
      cases rest with
      | nil => simp [List.intercalate_singleton]
      | cons second rest =>
          have hjoin : [sep].intercalate (first :: second :: rest) =
              first ++ sep :: [sep].intercalate (second :: rest) := by
            simp [List.intercalate_cons_cons]
          rw [hjoin, List.splitOn_append_cons_self, List.mem_append, ih (List.cons_ne_nil _ _)]
          simp

variable [PyText]

/-- The roles of a joined text are those of its parts. -/
theorem mem_parse_join {texts : List String} {role : String} :
    role ∈ parseRolesCsv (",".intercalate texts) ↔ ∃ text ∈ texts, role ∈ parseRolesCsv text := by
  cases texts with
  | nil => simp [parseRolesCsv]
  | cons first rest =>
      have hjoin : (",".intercalate (first :: rest)).toList =
          [','].intercalate ((first :: rest).map String.toList) := String.toList_intercalate
      simp only [mem_parse_roles_csv]
      rw [hjoin]
      constructor
      · rintro ⟨part, hpart, hrole⟩
        obtain ⟨whole, hwhole, hmem⟩ := (mem_splitOn_intercalate (by simp)).mp hpart
        obtain ⟨text, htext, rfl⟩ := List.mem_map.mp hwhole
        exact ⟨text, htext, part, hmem, hrole⟩
      · rintro ⟨text, htext, part, hmem, hrole⟩
        exact ⟨part, (mem_splitOn_intercalate (by simp)).mpr
          ⟨_, List.mem_map_of_mem htext, hmem⟩, hrole⟩

/-- A role that was read is read again as it is. -/
theorem parse_read_role [LawfulText] [LawfulStrip] {csv role : String}
    (h : role ∈ parseRolesCsv csv) : parseRolesCsv role = [role] := by
  obtain ⟨part, hpart, hstrip, hne⟩ := mem_parse_roles_csv.mp h
  refine parse_roles_csv_whole hne ?_ ?_
  · have hpiece := LawfulText.strip_infix (String.ofList part)
    rw [hstrip, String.toList_ofList] at hpiece
    exact fun hcomma => not_mem_of_mem_splitOn part hpart (hpiece.subset hcomma)
  · rw [← hstrip, LawfulStrip.strip_strip]

/-- A blank text has no roles. -/
theorem parse_blank [LawfulStrip] {csv : String} (h : PyText.strip csv = "") :
    parseRolesCsv csv = [] := by
  rw [List.eq_nil_iff_forall_not_mem]
  intro role hrole
  obtain ⟨part, hpart, hstrip, hne⟩ := mem_parse_roles_csv.mp hrole
  have hpiece : (String.ofList part).toList <:+: csv.toList := by
    rw [String.toList_ofList]
    exact infix_of_mem_splitOn hpart
  exact hne (hstrip ▸ LawfulStrip.strip_part hpiece h)

/-- Of blank roles a tagged request has those of its tag. -/
theorem parse_tagged [LawfulStrip] (ca : Attrs) (autoTag : Option String) :
    parseRolesCsv ((applyAutoTag ca autoTag).attr rolesAttr) =
      if PyText.strip (ca.attr rolesAttr) = "" then (autoTag.map parseRolesCsv).getD []
      else parseRolesCsv (ca.attr rolesAttr) := by
  cases autoTag with
  | none =>
      show parseRolesCsv (ca.attr rolesAttr) = _
      split
      · rename_i hblank
        exact parse_blank hblank
      · rfl
  | some username =>
      by_cases hblank : PyText.strip (ca.attr rolesAttr) = ""
      · rw [if_pos hblank]
        by_cases hname : username = ""
        · rw [applyAutoTag, if_pos (Or.inl hname), parse_blank hblank, hname]
          rfl
        · rw [applyAutoTag_blank hname hblank, Attrs.attr, Dict.get?_set_self]
          rfl
      · rw [if_neg hblank, applyAutoTag, if_pos (Or.inr hblank)]

end Roles

/-! ## The endpoint after an update -/

/-- The attribute of ISE for a field. -/
def AttrField.name : AttrField → String
  | .type => "Type"
  | .owner => "Owner"
  | .lokation => "Lokation"
  | .authzVlan => "AuthzVlan"
  | .authzAcl => "AuthzACL"
  | .platformType => "PlatformType"
  | .registretBy => "RegistretBy"
  | .guestRegistration => guestRegistrationAttr
  | .guestExperyDate => guestExperyDateAttr
  | .guestAccessExpire => guestAccessExpireAttr

/-- What a request has for it. -/
def AttrField.sent (attrs : CustomAttrs) : AttrField → Option String
  | .type => some attrs.type
  | .owner => some attrs.owner
  | .lokation => some attrs.lokation
  | .authzVlan => some attrs.authzVlan
  | .authzAcl => some attrs.authzACL
  | .platformType => some attrs.platformType
  | .registretBy => some attrs.registretBy
  | .guestRegistration => some attrs.guestRegistration
  | .guestExperyDate => attrs.guestExperyDate
  | .guestAccessExpire => attrs.guestAccessExpire

/-- ISE's record after the `PUT` of an update. -/
def updatedRecord (raw : RawEndpoint) (update : EndpointUpdate) (ca : Attrs) : RawEndpoint :=
  raw.put
    { description := update.description, groupId := update.groupId
      staticGroupAssignment := update.staticGroupAssignment, customAttributes := ca }

section Update

variable {attrs : CustomAttrs} {name : String}

theorem get?_sent (field : AttrField) :
    (requestAttrs (some attrs)).get? field.name = field.sent attrs := by
  cases field <;>
    simp [requestAttrs, modelDump, get?_setSome, Dict.get?_set, AttrField.name, AttrField.sent,
      guestRegistrationAttr, rolesAttr, activeAttr, pskModeAttr, pskKeyAttr, guestExperyDateAttr,
      guestAccessExpireAttr]

theorem get?_request :
    (requestAttrs (some attrs)).get? "HypervisionStatus" = attrs.hypervisionStatus ∧
      (requestAttrs (some attrs)).get? activeAttr = attrs.hypervisionActive ∧
      (requestAttrs (some attrs)).get? pskModeAttr = attrs.pskMode ∧
      (requestAttrs (some attrs)).get? pskKeyAttr = attrs.pskKey ∧
      (requestAttrs (some attrs)).get? rolesAttr = some attrs.hypervisionRoles := by
  simp [requestAttrs, modelDump, get?_setSome, Dict.get?_set, guestRegistrationAttr, rolesAttr,
    activeAttr, pskModeAttr, pskKeyAttr, guestExperyDateAttr, guestAccessExpireAttr]

theorem untouched_name (field : AttrField) : Untouched field.name := by
  cases field <;> decide

variable [PyText] {lookups : Lookups} {psk : PskSettings} {autoTag : Option String}
  {before : Option EndpointDetail} {stamp : String} {ca : Attrs} {update : EndpointUpdate}
  {endpointId : EndpointId} {raw : RawEndpoint}

theorem read_detail (field : AttrField) :
    field.read (fetchEndpointDetail lookups endpointId raw) =
      raw.customAttributes.attr field.name := by
  cases field <;> rfl

/-- The status that is sent, or the one an update puts in for an endpoint without one. -/
theorem get?_sent_active (hca : updateAttrs psk (some attrs) autoTag before stamp = .ok ca) :
    ca.get? activeAttr =
      attrs.hypervisionActive.or (if unsetStatus before = true then some "Aktiv" else none) := by
  simp only [updateAttrs] at hca
  split at hca
  · cases hca
  · cases hca
    have hsent : (pskEncodeCa psk (applyAutoTag ((requestAttrs (some attrs)).set hiddenAttr "true")
        autoTag)).get? activeAttr = attrs.hypervisionActive := by
      rw [get?_pskEncodeCa_ne psk _ (by decide), get?_prepared (by decide) (by decide),
        get?_request.2.1]
    cases before with
    | none =>
        rw [stampFromSnapshot, get?_stampRegisteredAt_ne _ _ (by decide), hsent]
        simp [unsetStatus]
    | some detail =>
        simp only [stampFromSnapshot, unsetStatus, Option.any_some]
        rw [get?_stampRegisteredAt_ne _ _ (by decide), hsent]
        cases hactive : attrs.hypervisionActive with
        | some status =>
            rw [hactive] at hsent
            simp [hsent]
        | none =>
            rw [hactive] at hsent
            by_cases hempty : detail.activeStatus = ""
            · simp [hempty, Dict.get?_set_self]
            · simp [hempty, hsent]

/-- Some roles are always sent, those of the request or of the tag. -/
theorem get?_sent_roles (hca : updateAttrs psk (some attrs) autoTag before stamp = .ok ca) :
    ca.get? rolesAttr =
      some ((applyAutoTag ((requestAttrs (some attrs)).set hiddenAttr "true") autoTag).attr
        rolesAttr) := by
  have hrequest : ((requestAttrs (some attrs)).set hiddenAttr "true").get? rolesAttr =
      some attrs.hypervisionRoles := by
    rw [Dict.get?_set_ne _ _ (by decide), get?_request.2.2.2.2]
  have hsome : ∀ tag, ∃ roles, (applyAutoTag ((requestAttrs (some attrs)).set hiddenAttr "true")
      tag).get? rolesAttr = some roles := by
    intro tag
    cases tag with
    | none => exact ⟨_, hrequest⟩
    | some username =>
        simp only [applyAutoTag]
        split
        · exact ⟨_, hrequest⟩
        · exact ⟨username, Dict.get?_set_self _ _ _⟩
  simp only [updateAttrs] at hca
  split at hca
  · cases hca
  · cases hca
    obtain ⟨roles, hroles⟩ := hsome autoTag
    rw [get?_stampFromSnapshot_spared stamp (by decide) (fun h => absurd h (by decide)),
      get?_pskEncodeCa_ne psk _ (by decide), Attrs.attr, hroles]
    rfl

/-- What an accepted update makes of an endpoint. -/
structure SavedAs (psk : PskSettings) (autoTag : Option String) (before : Option EndpointDetail)
    (attrs : CustomAttrs) (held after : EndpointDetail) : Prop where
  attr : ∀ field : AttrField, field.read after = (field.sent attrs).getD (field.read held)
  status : after.status = attrs.hypervisionStatus.getD held.status
  activeStatus : after.activeStatus =
    (attrs.hypervisionActive.or (if unsetStatus before = true then some "Aktiv" else none)).getD
      held.activeStatus
  pskMode : after.pskMode =
    (attrs.pskMode.map fun mode => decide (PyText.lower mode = "true")).getD held.pskMode
  pskKey : after.pskKey =
    (attrs.pskKey.map fun key => pskDecode (pskEncode psk key)).getD held.pskKey
  roles : after.roles =
    if PyText.strip attrs.hypervisionRoles = "" then (autoTag.map parseRolesCsv).getD []
    else parseRolesCsv attrs.hypervisionRoles

variable (lookups endpointId raw) in
theorem update_saved_as [LawfulStrip] (hattrs : update.customAttributes = some attrs)
    (hca : updateAttrs psk update.customAttributes autoTag before stamp = .ok ca) :
    SavedAs psk autoTag before attrs (fetchEndpointDetail lookups endpointId raw)
      (fetchEndpointDetail lookups endpointId (updatedRecord raw update ca)) := by
  rw [hattrs] at hca
  have hmerged : ∀ name, (updatedRecord raw update ca).customAttributes.attr name =
      (ca.get? name).getD (raw.customAttributes.attr name) :=
    fun name => Attrs.attr_merge _ _ name
  have haccepted := update_accepted hca
  refine ⟨fun field => ?_, ?_, ?_, ?_, ?_, ?_⟩
  · rw [read_detail, read_detail, hmerged, get?_updateAttrs hca (untouched_name field), get?_sent]
  · show (updatedRecord raw update ca).customAttributes.attr "HypervisionStatus" = _
    rw [hmerged, get?_updateAttrs hca (by decide), get?_request.1]
    rfl
  · show (updatedRecord raw update ca).customAttributes.attr activeAttr = _
    rw [hmerged, get?_sent_active hca]
    rfl
  · show decide (PyText.lower ((updatedRecord raw update ca).customAttributes.attr pskModeAttr) =
      "true") = _
    rw [hmerged, haccepted.mode, get?_request.2.2.1]
    cases attrs.pskMode <;> rfl
  · show pskDecode ((updatedRecord raw update ca).customAttributes.attr pskKeyAttr) = _
    rw [hmerged, haccepted.key, get?_request.2.2.2.1]
    cases attrs.pskKey <;> rfl
  · show parseRolesCsv ((updatedRecord raw update ca).customAttributes.attr rolesAttr) = _
    rw [hmerged, get?_sent_roles hca, Option.getD_some, parse_tagged, Attrs.attr,
      Dict.get?_set_ne _ _ (by decide), get?_request.2.2.2.2]
    rfl

end Update

/-! ## The table -/

section Table

variable {toLowerCase : String → String} {page : Page} {d : EndpointDetail} {row : TableRow}
  {edit : TableEdit}

theorem TableRow.edit_attrs {field : AttrField} (h : edit.field ≠ .attr field) :
    (row.edit edit).attrs field = row.attrs field := by
  cases edit with
  | attr other value => exact if_neg fun (hsame : field = other) => h (hsame ▸ rfl)
  | _ => rfl

theorem TableRow.edit_description (h : edit.field ≠ .description) :
    (row.edit edit).description = row.description := by
  cases edit with
  | description value => exact absurd rfl h
  | _ => rfl

theorem TableRow.edit_group (h : edit.field ≠ .group) : (row.edit edit).group = row.group := by
  cases edit with
  | group value => exact absurd rfl h
  | _ => rfl

theorem TableRow.edit_pskMode (h : edit.field ≠ .pskMode) :
    (row.edit edit).pskMode = row.pskMode := by
  cases edit with
  | pskMode checked => exact absurd rfl h
  | _ => rfl

theorem TableRow.edit_beStaticGroup (h : edit.field ≠ .staticGroup) :
    (row.edit edit).beStaticGroup = row.beStaticGroup := by
  cases edit with
  | staticGroup static => exact absurd rfl h
  | _ => rfl

theorem TableRow.edit_bePskKey (h : edit.field ≠ .pskKey) :
    (row.edit edit).bePskKey = row.bePskKey := by
  cases edit with
  | pskKey value => exact absurd rfl h
  | _ => rfl

theorem TableRow.edit_beActiveStatus (h : edit.field ≠ .activeStatus) :
    (row.edit edit).beActiveStatus = row.beActiveStatus := by
  cases edit with
  | activeStatus value => exact absurd rfl h
  | _ => rfl

/-- The group shown for an endpoint whose group is held is its own, or none where nothing leads to
Unknown. -/
theorem shown_group {groupId : String} (hid : d.groupId = some groupId)
    (h : GroupHeld toLowerCase page d) :
    selectValue (groupOptions page.groups d.groupId) = groupId ∨
      selectValue (groupOptions page.groups d.groupId) = "" ∧
        unknownGroup toLowerCase page = none := by
  rw [GroupHeld, hid, Option.getD_some] at h
  rw [hid, select_group]
  rcases h with rfl | ⟨hmem, hverbatim⟩ | ⟨hunlisted, hunknown⟩
  · left
    split
    · rfl
    · rfl
  · rw [if_pos hmem]
    exact Or.inl (attribute_text hverbatim)
  · rw [if_neg hunlisted]
    exact Or.inr ⟨rfl, hunknown⟩

variable [PyText] {autoTag : Option String} {before : Option EndpointDetail} {static : Bool}

/-- A cell shows what it can hold, and the platform of the switch for none. -/
theorem cell_holds {field : AttrField}
    (h : TableHolds toLowerCase page before d edit (.attr field)) :
    (renderRow page d).attrs field = field.read (filledIn page autoTag before static d) := by
  cases field with
  | type | owner | lokation | authzVlan | authzAcl | guestRegistration | guestAccessExpire =>
      exact select_listed h
  | registretBy | guestExperyDate =>
      show inputText (attributeText _) = _
      rw [attribute_text h.2, input_text h.1]
      rfl
  | platformType =>
      show (if page.nasOf d ≠ "" then
          selectValue (optionsHtml page.caValues.platformType (page.nasOf d))
        else selectValue (optionsHtml page.caValues.platformType d.platformType)) =
          if d.platformType = "" ∧ page.nasOf d ∈ page.caValues.platformType then
            attributeText (page.nasOf d) else d.platformType
      by_cases hplatform : d.platformType = ""
      · by_cases hnas : page.nasOf d = ""
        · rw [if_neg (not_not_intro hnas), hnas, hplatform, select_listed (Or.inl rfl)]
          split
          · rfl
          · rfl
        · rw [if_pos hnas, select_options, hplatform]
          simp
      · obtain ⟨hmem, hverbatim, hnas⟩ := h.resolve_left hplatform
        have hown : (if d.platformType = "" ∧ page.nasOf d ∈ page.caValues.platformType then
            attributeText (page.nasOf d) else d.platformType) = d.platformType :=
          if_neg fun hboth => hplatform hboth.1
        have hshown := select_listed (Or.inr ⟨hmem, hverbatim⟩)
        rcases hnas with hnas | hnas
        · rw [hown, if_neg (not_not_intro hnas), hshown]
        · rw [hown, if_pos (hnas ▸ hplatform), hnas, hshown]

/-- Roles that are sent as texts with the same roles are those of the endpoint, or of the tag where
it has none. -/
theorem mem_saved_roles [LawfulStrip] {texts roles : List String}
    (hsame : ∀ role, (∃ text ∈ texts, role ∈ parseRolesCsv text) ↔ role ∈ roles)
    (hempty : roles = [] → texts = []) (role : String) :
    role ∈ (if PyText.strip (",".intercalate texts) = "" then (autoTag.map parseRolesCsv).getD []
        else parseRolesCsv (",".intercalate texts)) ↔
      role ∈ (if roles = [] then (autoTag.map parseRolesCsv).getD [] else roles) := by
  by_cases hnone : roles = []
  · have hblank : PyText.strip (",".intercalate texts) = "" := by
      rw [hempty hnone]
      exact PyText.strip_empty
    rw [if_pos hblank, if_pos hnone]
  · have htext : PyText.strip (",".intercalate texts) ≠ "" := by
      intro hblank
      obtain ⟨held, hheld⟩ := List.exists_mem_of_ne_nil roles hnone
      have hparsed := mem_parse_join.mpr ((hsame held).mpr hheld)
      rw [parse_blank hblank] at hparsed
      cases hparsed
    rw [if_neg htext, if_neg hnone, mem_parse_join]
    exact hsame role

/-- What is read of the roles of an endpoint are these roles. -/
theorem mem_parse_roles_of_detail [LawfulText] [LawfulStrip] {lookups : Lookups}
    {endpointId : EndpointId} {raw : RawEndpoint} {text role : String}
    (htext : text ∈ (fetchEndpointDetail lookups endpointId raw).roles) :
    role ∈ parseRolesCsv text ↔ role = text := by
  have hread : text ∈ parseRolesCsv (raw.customAttributes.attr rolesAttr) := htext
  rw [parse_read_role hread, List.mem_singleton]

omit [PyText] in
/-- A group that is held is not sent. -/
theorem table_group_unsent {groupId : String} (hid : d.groupId = some groupId)
    (h : GroupHeld toLowerCase page d) (hedit : edit.field ≠ .group) :
    (buildSavePayload toLowerCase page ((renderRow page d).edit edit) d).groupId = none ∧
      (buildSavePayload toLowerCase page ((renderRow page d).edit edit) d).staticGroupAssignment =
        ((renderRow page d).edit edit).beStaticGroup := by
  have hgroup : ((renderRow page d).edit edit).group =
      selectValue (groupOptions page.groups d.groupId) := TableRow.edit_group hedit
  have hnone : (if ((renderRow page d).edit edit).group ≠ d.groupId.getD "" then
      changedGroup toLowerCase page ((renderRow page d).edit edit).group none
        else (none, none)) = (none, none) := by
    rw [hgroup]
    rcases shown_group hid h with hshown | ⟨hshown, hunknown⟩
    · rw [hshown, hid]
      exact if_neg (not_not_intro rfl)
    · rw [hshown, changedGroup, if_pos rfl, hunknown]
      split
      · rfl
      · rfl
  constructor
  · exact congrArg Prod.fst hnone
  · have hstatic := congrArg (((renderRow page d).edit edit).beStaticGroup.or ·.2) hnone
    exact hstatic.trans Option.or_none

omit [PyText] in
/-- The static flag after a group is chosen, where a form that does not change the group sends
`kept`. -/
theorem group_static {value : String} {flag kept : Option Bool}
    (hkept : kept.getD d.staticGroup = d.staticGroup) :
    let sent := if value ≠ d.groupId.getD "" then changedGroup toLowerCase page value flag
      else (none, kept)
    sent.2.getD (if sent.1.isSome then true else d.staticGroup) =
      movedStatic toLowerCase page d value (flag.getD true) := by
  intro sent
  rw [movedStatic]
  by_cases hsame : value = d.groupId.getD ""
  · have hsent : sent = (none, kept) := if_neg (not_not_intro hsame)
    rw [hsent, if_pos hsame]
    exact hkept
  · have hsent : sent = changedGroup toLowerCase page value flag := if_pos hsame
    rw [hsent, if_neg hsame, changedGroup]
    by_cases hempty : value = ""
    · rw [if_pos hempty, if_pos hempty]
      cases unknownGroup toLowerCase page <;> rfl
    · rw [if_neg hempty, if_neg hempty]
      cases flag <;> rfl

variable [LawfulText] [LawfulStrip] [LawfulAscii] {lookups : Lookups} {psk : PskSettings}
  {stamp : String} {ca : Attrs} {endpointId : EndpointId} {raw : RawEndpoint} {field : Field}

omit [LawfulText] [LawfulStrip] in
/-- A mode that is sent is read again. -/
theorem mode_read (checked : Bool) :
    decide (PyText.lower (if checked then "true" else "false") = "true") = checked := by
  cases checked with
  | false =>
      rw [if_neg (by decide), LawfulAscii.lower_ascii "false" (by decide)]
      decide
  | true =>
      rw [if_pos rfl, LawfulAscii.lower_ascii "true" (by decide)]
      decide

/-- After a row is saved, a field the row can hold and the user did not edit is as the endpoint had
it, but for what the portal fills in. -/
theorem table_keeps (hd : fetchEndpointDetail lookups endpointId raw = d)
    (hca : updateAttrs psk
      (buildSavePayload toLowerCase page ((renderRow page d).edit edit) d).customAttributes
      autoTag before stamp = .ok ca)
    (hedit : field ≠ edit.field) (hholds : TableHolds toLowerCase page before d edit field) :
    field.Same (filledIn page autoTag before (edit.static toLowerCase page d) d)
      (fetchEndpointDetail lookups endpointId (updatedRecord raw
        (buildSavePayload toLowerCase page ((renderRow page d).edit edit) d) ca)) := by
  have hid : d.groupId = some raw.groupId := by rw [← hd]; rfl
  have hsaved := update_saved_as lookups endpointId raw rfl hca
  rw [hd] at hsaved
  cases field with
  | attr field =>
      have hcell : ((renderRow page d).edit edit).attrs field =
          field.read (filledIn page autoTag before (edit.static toLowerCase page d) d) :=
        (TableRow.edit_attrs hedit.symm).trans (cell_holds hholds)
      refine (hsaved.attr field).trans (Eq.trans ?_ hcell)
      cases field <;> rfl
  | status => exact hsaved.status
  | activeStatus =>
      refine hsaved.activeStatus.trans ?_
      have hnone : ((renderRow page d).edit edit).beActiveStatus = none :=
        TableRow.edit_beActiveStatus hedit.symm
      show (((renderRow page d).edit edit).beActiveStatus.or _).getD d.activeStatus =
        if d.activeStatus = "" ∧ unsetStatus before = true then "Aktiv" else d.activeStatus
      rw [hnone, Option.none_or]
      rcases hholds with hempty | hset
      · rw [hempty]
        cases unsetStatus before <;> rfl
      · rw [hset, if_neg (by simp), if_neg (by simp)]
        rfl
  | pskMode =>
      refine hsaved.pskMode.trans ?_
      have hmode : ((renderRow page d).edit edit).pskMode = d.pskMode :=
        TableRow.edit_pskMode hedit.symm
      show ((if page.isPskEditor then
          some (if ((renderRow page d).edit edit).pskMode then "true" else "false") else none).map
            fun mode => decide (PyText.lower mode = "true")).getD d.pskMode = d.pskMode
      rw [hmode]
      split
      · exact mode_read d.pskMode
      · rfl
  | pskKey =>
      refine hsaved.pskKey.trans ?_
      have hkey : ((renderRow page d).edit edit).bePskKey = none :=
        TableRow.edit_bePskKey hedit.symm
      show ((if page.isPskEditor then
          ((renderRow page d).edit edit).bePskKey.filter (· ≠ "****") else none).map
            fun key => pskDecode (pskEncode psk key)).getD d.pskKey = d.pskKey
      rw [hkey]
      split
      · rfl
      · rfl
  | roles =>
      intro role
      rw [hsaved.roles]
      refine mem_saved_roles (fun other => ?_) id role
      subst hd
      constructor
      · rintro ⟨text, htext, hother⟩
        exact (mem_parse_roles_of_detail htext).mp hother ▸ htext
      · intro hother
        exact ⟨other, hother, (mem_parse_roles_of_detail hother).mpr rfl⟩
  | description =>
      obtain ⟨hfirst, hline, hverbatim⟩ := hholds
      have hshown : ((renderRow page d).edit edit).description = d.description.getD "" := by
        rw [TableRow.edit_description hedit.symm]
        show inputText (attributeText _) = _
        rw [attribute_text hverbatim, input_text hline]
      have hinput : ((renderRow page d).edit edit).firstDescInput page.columns =
          ((renderRow page d).edit edit).description := by
        rw [TableRow.firstDescInput, hfirst]
        rfl
      exact hinput.trans hshown
  | group =>
      have hunsent := (table_group_unsent hid hholds hedit.symm).1
      show (buildSavePayload toLowerCase page ((renderRow page d).edit edit) d).groupId.getD
        raw.groupId = d.groupId.getD ""
      rw [hunsent, hid]
      rfl
  | staticGroup =>
      have hstatic : raw.staticGroupAssignment = d.staticGroup := by rw [← hd]; rfl
      by_cases hgroup : ∃ value, edit = .group value
      · obtain ⟨value, rfl⟩ := hgroup
        refine Eq.trans ?_ (@group_static toLowerCase page d value none none rfl)
        rw [← hstatic]
        rfl
      · have hheld := hholds.resolve_left hgroup
        have hother : edit.field ≠ .group := by
          intro hfield
          cases edit with
          | group value => exact hgroup ⟨value, rfl⟩
          | _ => cases hfield
        have hunmoved : edit.static toLowerCase page d = d.staticGroup := by
          cases edit with
          | group value => exact absurd rfl hother
          | _ => rfl
        obtain ⟨hsentGroup, hsentStatic⟩ := table_group_unsent hid hheld hother
        have hflag : ((renderRow page d).edit edit).beStaticGroup = none :=
          TableRow.edit_beStaticGroup hedit.symm
        show (buildSavePayload toLowerCase page ((renderRow page d).edit edit)
            d).staticGroupAssignment.getD (if (buildSavePayload toLowerCase page
              ((renderRow page d).edit edit) d).groupId.isSome then true
                else raw.staticGroupAssignment) = edit.static toLowerCase page d
        rw [hsentGroup, hsentStatic, hflag, hstatic, hunmoved]
        rfl

omit [LawfulText] [LawfulAscii] in
/-- A value outside the options of its cell is lost with any other edit. -/
theorem table_clears_unlisted {attrField : AttrField} {values : List String}
    (hcell : (renderRow page d).attrs attrField =
      selectValue (optionsHtml values (attrField.read d)))
    (hunlisted : attrField.read d ∉ values) (hedit : edit.field ≠ .attr attrField)
    (hca : updateAttrs psk
      (buildSavePayload toLowerCase page ((renderRow page d).edit edit) d).customAttributes
      autoTag before stamp = .ok ca) :
    attrField.read (fetchEndpointDetail lookups endpointId (updatedRecord raw
      (buildSavePayload toLowerCase page ((renderRow page d).edit edit) d) ca)) = "" := by
  have hshown : ((renderRow page d).edit edit).attrs attrField = "" :=
    (TableRow.edit_attrs hedit).trans (hcell.trans (select_unlisted hunlisted))
  refine ((update_saved_as lookups endpointId raw rfl hca).attr attrField).trans
    (Eq.trans ?_ hshown)
  cases attrField <;> rfl

end Table

/-! ## The modal -/

section Modal

variable {toLowerCase : String → String} {page : Page} {d : EndpointDetail} {form : DetailForm}
  {edit : DetailEdit}

theorem DetailForm.edit_attrs {field : AttrField} (h : edit.field ≠ .attr field) :
    (form.edit edit).attrs field = form.attrs field := by
  cases edit with
  | attr other value => exact if_neg fun (hsame : field = other) => h (hsame ▸ rfl)
  | _ => rfl

theorem DetailForm.edit_expiry (h : edit.field ≠ .attr .guestExperyDate) :
    (form.edit edit).expiry = form.expiry := by
  cases edit with
  | attr other value =>
      have hsame : (form.edit (.attr other value)).attrs .guestExperyDate =
          form.attrs .guestExperyDate := DetailForm.edit_attrs h
      simp only [DetailForm.expiry, hsame]
      rfl
  | expiryHour value => exact absurd rfl h
  | expiryMinute value => exact absurd rfl h
  | _ => rfl

theorem DetailForm.edit_description (h : edit.field ≠ .description) :
    (form.edit edit).description = form.description := by
  cases edit with
  | description value => exact absurd rfl h
  | _ => rfl

theorem DetailForm.edit_group (h : edit.field ≠ .group) :
    (form.edit edit).group = form.group := by
  cases edit with
  | group value => exact absurd rfl h
  | _ => rfl

theorem DetailForm.edit_staticGroup (h : edit.field ≠ .staticGroup) :
    (form.edit edit).staticGroup = form.staticGroup := by
  cases edit with
  | staticGroup checked => exact absurd rfl h
  | _ => rfl

theorem DetailForm.edit_activeStatus (h : edit.field ≠ .activeStatus) :
    (form.edit edit).activeStatus = form.activeStatus := by
  cases edit with
  | activeStatus value => exact absurd rfl h
  | _ => rfl

theorem DetailForm.edit_pskMode (h : edit.field ≠ .pskMode) :
    (form.edit edit).pskMode = form.pskMode := by
  cases edit with
  | pskMode checked => exact absurd rfl h
  | _ => rfl

theorem DetailForm.edit_pskKey (h : edit.field ≠ .pskKey) :
    (form.edit edit).pskKey = form.pskKey := by
  cases edit with
  | pskKey value => exact absurd rfl h
  | _ => rfl

theorem DetailForm.edit_roles (h : edit.field ≠ .roles) :
    (form.edit edit).roles = form.roles := by
  cases edit with
  | roles selected => exact absurd rfl h
  | _ => rfl

/-- No edit changes what the modal keeps of the endpoint. -/
theorem DetailForm.edit_original :
    (form.edit edit).originalGroupId = form.originalGroupId ∧
      (form.edit edit).originalRoles = form.originalRoles := by
  cases edit <;> exact ⟨rfl, rfl⟩

theorem shown_expiry (h : ShownExpiry d.guestExperyDate) :
    (openDetail toLowerCase page d).expiry = d.guestExperyDate := by
  have hdateInput : (openDetail toLowerCase page d).attrs .guestExperyDate =
      dateText (expiryParts d.guestExperyDate).1 := by
    simp only [openDetail]
  have hhourSelect : (openDetail toLowerCase page d).expiryHour =
      setSelect hours (timeParts (expiryParts d.guestExperyDate).2).1 := by
    simp only [openDetail]
  have hminuteSelect : (openDetail toLowerCase page d).expiryMinute =
      setSelect minutes (timeParts (expiryParts d.guestExperyDate).2).2 := by
    simp only [openDetail]
  rw [DetailForm.expiry, hdateInput, hhourSelect, hminuteSelect]
  rcases h with hempty | ⟨date, hour, minute, hdate, hhour, hminute, htext⟩
  · have hnone : dateText (expiryParts "").1 = "" := by decide
    rw [hempty, if_pos hnone]
  · have hassoc : date ++ ":" ++ hour ++ ":" ++ minute =
        date ++ ":" ++ (hour ++ ":" ++ minute) := by
      simp only [String.append_assoc]
    have hshownDate : dateText date = date := if_pos hdate
    have hshownHour : setSelect hours hour = hour := if_pos hhour
    have hshownMinute : setSelect minutes minute = minute := if_pos hminute
    rw [htext, hassoc, expiry_parts hdate, time_parts hhour hminute, hshownDate, hshownHour,
      hshownMinute, if_neg (date_ne_empty hdate), orElse, if_neg (hours_plain hour hhour).2, orElse,
      if_neg (minutes_plain minute hminute).2, ← hassoc]

variable [PyText] {autoTag : Option String} {before : Option EndpointDetail} {static : Bool}

/-- A widget shows what it can hold, and the platform of the switch for none. -/
theorem widget_holds {field : AttrField} (hfield : field ≠ .guestExperyDate)
    (h : ModalHolds toLowerCase page before d edit (.attr field)) :
    (openDetail toLowerCase page d).attrs field =
      field.read (filledIn page autoTag before static d) := by
  cases field with
  | type | owner | lokation | authzVlan | authzAcl => exact select_listed h
  | registretBy => exact input_text h
  | guestRegistration | guestAccessExpire => exact if_pos h
  | guestExperyDate => exact absurd rfl hfield
  | platformType =>
      show selectValue (optionsHtml page.caValues.platformType
          (orElse d.platformType (page.nasOf d))) =
        if d.platformType = "" ∧ page.nasOf d ∈ page.caValues.platformType then
          attributeText (page.nasOf d) else d.platformType
      by_cases hplatform : d.platformType = ""
      · rw [orElse, if_pos hplatform, select_options, hplatform]
        simp
      · rw [orElse, if_neg hplatform, select_listed h, if_neg (fun hboth => hplatform hboth.1)]

omit [PyText] in
/-- A group that is held is not sent, and its flag only as the modal shows it. -/
theorem modal_group_unsent {groupId : String} (hid : d.groupId = some groupId)
    (h : GroupHeld toLowerCase page d) (hedit : edit.field ≠ .group) :
    let form := (openDetail toLowerCase page d).edit edit
    (savePayload toLowerCase page form).groupId = none ∧
      ((savePayload toLowerCase page form).staticGroupAssignment = none ∨
        (savePayload toLowerCase page form).staticGroupAssignment = some form.staticGroup) := by
  intro form
  have hgroup : form.group = selectValue (groupOptions page.groups d.groupId) :=
    DetailForm.edit_group hedit
  have horiginal : form.originalGroupId = d.groupId.getD "" := DetailForm.edit_original.1
  have hsent : (if form.group ≠ form.originalGroupId then
      changedGroup toLowerCase page form.group (some form.staticGroup)
        else (none, if form.group ≠ "" then some form.staticGroup else none)).1 = none ∧
      ((if form.group ≠ form.originalGroupId then
        changedGroup toLowerCase page form.group (some form.staticGroup)
          else (none, if form.group ≠ "" then some form.staticGroup else none)).2 = none ∨
        (if form.group ≠ form.originalGroupId then
          changedGroup toLowerCase page form.group (some form.staticGroup)
            else (none, if form.group ≠ "" then some form.staticGroup else none)).2 =
              some form.staticGroup) := by
    by_cases hsame : form.group = form.originalGroupId
    · rw [if_neg (not_not_intro hsame)]
      by_cases hempty : form.group = ""
      · rw [if_neg (not_not_intro hempty)]
        exact ⟨rfl, Or.inl rfl⟩
      · rw [if_pos hempty]
        exact ⟨rfl, Or.inr rfl⟩
    · rw [if_pos hsame]
      rcases shown_group hid h with hshown | ⟨hshown, hunknown⟩
      · exact absurd (hgroup.trans (hshown.trans (by rw [horiginal, hid]; rfl))) hsame
      · rw [changedGroup, if_pos (hgroup.trans hshown), hunknown]
        exact ⟨rfl, Or.inl rfl⟩
  exact hsent

variable [LawfulText] [LawfulStrip] [LawfulAscii] {lookups : Lookups} {psk : PskSettings}
  {stamp : String} {ca : Attrs} {endpointId : EndpointId} {raw : RawEndpoint} {field : Field}

omit [PyText] [LawfulText] [LawfulStrip] [LawfulAscii] in
/-- The status of the modal, with the one an update puts in. -/
theorem shown_status {status : String} {unset : Bool}
    (h : status ∈ ["", "Aktiv", "Inaktiv"] ∨ unset = false) :
    ((orNone (setSelect ["", "Aktiv", "Inaktiv"] status)).or
        (if unset = true then some "Aktiv" else none)).getD status =
      if status = "" ∧ unset = true then "Aktiv" else status := by
  by_cases hempty : status = ""
  · rw [hempty]
    cases unset <;> rfl
  · have hown : (if status = "" ∧ unset = true then "Aktiv" else status) = status :=
      if_neg fun hboth => hempty hboth.1
    rw [hown]
    by_cases hlisted : status ∈ ["", "Aktiv", "Inaktiv"]
    · rw [setSelect, if_pos hlisted, orNone, if_neg hempty]
      rfl
    · rw [setSelect, if_neg hlisted, h.resolve_left hlisted]
      rfl

omit [LawfulAscii] in
/-- The roles outside the catalog and the selected ones have the roles of the endpoint. -/
theorem mem_sent_roles (hd : fetchEndpointDetail lookups endpointId raw = d)
    (h : ModalHolds toLowerCase page before d edit .roles) (role : String) :
    (∃ text ∈ (d.roles.filter fun role => !inCatalog toLowerCase page.roleCatalog role) ++
        (page.roleCatalog.filter (inCatalog toLowerCase d.roles)).map attributeText,
      role ∈ parseRolesCsv text) ↔ role ∈ d.roles := by
  obtain ⟨hread, hnames⟩ := h
  constructor
  · rintro ⟨text, htext, hrole⟩
    rcases List.mem_append.mp htext with hexternal | hselected
    · have hheld := (List.mem_filter.mp hexternal).1
      subst hd
      exact (mem_parse_roles_of_detail hheld).mp hrole ▸ hheld
    · obtain ⟨name, hname, rfl⟩ := List.mem_map.mp hselected
      obtain ⟨hmem, hcatalog⟩ := List.mem_filter.mp hname
      exact hnames name hmem hcatalog role hrole
  · intro hheld
    by_cases hcatalog : inCatalog toLowerCase page.roleCatalog role = true
    · obtain ⟨name, hmem, hname, hrole⟩ := hread role hheld hcatalog
      exact ⟨_, List.mem_append_right _ (List.mem_map_of_mem (List.mem_filter.mpr ⟨hmem, hname⟩)),
        hrole⟩
    · have hexternal : role ∈
          d.roles.filter fun role => !inCatalog toLowerCase page.roleCatalog role :=
        List.mem_filter.mpr ⟨hheld, by simpa using hcatalog⟩
      subst hd
      exact ⟨role, List.mem_append_left _ hexternal, (mem_parse_roles_of_detail hheld).mpr rfl⟩

/-- After the modal is saved, a field it can hold and the user did not edit is as the endpoint had
it, but for what the portal fills in. -/
theorem modal_keeps (hd : fetchEndpointDetail lookups endpointId raw = d)
    (hca : updateAttrs psk
      (savePayload toLowerCase page ((openDetail toLowerCase page d).edit edit)).customAttributes
      autoTag before stamp = .ok ca)
    (hedit : field ≠ edit.field) (hholds : ModalHolds toLowerCase page before d edit field) :
    field.Same (filledIn page autoTag before (edit.static toLowerCase page d) d)
      (fetchEndpointDetail lookups endpointId (updatedRecord raw
        (savePayload toLowerCase page ((openDetail toLowerCase page d).edit edit)) ca)) := by
  have hid : d.groupId = some raw.groupId := by rw [← hd]; rfl
  have hsaved := update_saved_as lookups endpointId raw rfl hca
  rw [hd] at hsaved
  cases field with
  | attr field =>
      refine (hsaved.attr field).trans ?_
      by_cases hexpiry : field = .guestExperyDate
      · subst hexpiry
        exact (DetailForm.edit_expiry hedit.symm).trans (shown_expiry hholds)
      · have hwidget : ((openDetail toLowerCase page d).edit edit).attrs field =
            field.read (filledIn page autoTag before (edit.static toLowerCase page d) d) :=
          (DetailForm.edit_attrs hedit.symm).trans (widget_holds hexpiry hholds)
        refine Eq.trans ?_ hwidget
        cases field with
        | guestExperyDate => exact absurd rfl hexpiry
        | _ => rfl
  | status => exact hsaved.status
  | activeStatus =>
      refine hsaved.activeStatus.trans ?_
      have hshown : ((openDetail toLowerCase page d).edit edit).activeStatus =
          setSelect ["", "Aktiv", "Inaktiv"] d.activeStatus :=
        DetailForm.edit_activeStatus hedit.symm
      show ((orNone ((openDetail toLowerCase page d).edit edit).activeStatus).or _).getD
          d.activeStatus =
        if d.activeStatus = "" ∧ unsetStatus before = true then "Aktiv" else d.activeStatus
      rw [hshown]
      exact shown_status hholds
  | pskMode =>
      refine hsaved.pskMode.trans ?_
      have hmode : ((openDetail toLowerCase page d).edit edit).pskMode = d.pskMode :=
        DetailForm.edit_pskMode hedit.symm
      show ((if page.isPskEditor then
          some (if ((openDetail toLowerCase page d).edit edit).pskMode then "true" else "false")
            else none).map fun mode => decide (PyText.lower mode = "true")).getD d.pskMode =
              d.pskMode
      rw [hmode]
      split
      · exact mode_read d.pskMode
      · rfl
  | pskKey =>
      refine hsaved.pskKey.trans ?_
      have hkey : ((openDetail toLowerCase page d).edit edit).pskKey = inputText d.pskKey :=
        DetailForm.edit_pskKey hedit.symm
      show ((if page.isPskEditor then some ((openDetail toLowerCase page d).edit edit).pskKey
          else none).map fun key => pskDecode (pskEncode psk key)).getD d.pskKey = d.pskKey
      rw [hkey]
      split
      · rename_i heditor
        obtain ⟨hline, hprefix⟩ := hholds heditor
        rw [input_text hline]
        exact decode_encode_iff.mpr hprefix
      · rfl
  | roles =>
      intro role
      have hselected : ((openDetail toLowerCase page d).edit edit).roles =
          (page.roleCatalog.filter (inCatalog toLowerCase d.roles)).map attributeText :=
        DetailForm.edit_roles hedit.symm
      have horiginal : ((openDetail toLowerCase page d).edit edit).originalRoles = d.roles :=
        DetailForm.edit_original.2
      rw [hsaved.roles, hselected, horiginal]
      refine mem_saved_roles (mem_sent_roles hd hholds) (fun hnone => ?_) role
      rw [hnone]
      simp [inCatalog]
  | description =>
      have hshown : ((openDetail toLowerCase page d).edit edit).description =
          inputText (d.description.getD "") := DetailForm.edit_description hedit.symm
      exact hshown.trans (input_text hholds)
  | group =>
      have hunsent := (modal_group_unsent hid hholds hedit.symm).1
      show (savePayload toLowerCase page ((openDetail toLowerCase page d).edit edit)).groupId.getD
        raw.groupId = d.groupId.getD ""
      rw [hunsent, hid]
      rfl
  | staticGroup =>
      have hstatic : raw.staticGroupAssignment = d.staticGroup := by rw [← hd]; rfl
      by_cases hgroup : ∃ value, edit = .group value
      · obtain ⟨value, rfl⟩ := hgroup
        have hkept : (if value ≠ "" then some d.staticGroup else none).getD d.staticGroup =
            d.staticGroup := by
          split <;> rfl
        subst hd
        exact @group_static toLowerCase page (fetchEndpointDetail lookups endpointId raw) value
          (some _) _ hkept
      · have hheld := hholds.resolve_left hgroup
        have hother : edit.field ≠ .group := by
          intro hfield
          cases edit with
          | group value => exact hgroup ⟨value, rfl⟩
          | _ => cases hfield
        have hunmoved : edit.static toLowerCase page d = d.staticGroup := by
          cases edit with
          | group value => exact absurd rfl hother
          | _ => rfl
        obtain ⟨hsentGroup, hsentStatic⟩ := modal_group_unsent hid hheld hother
        have hflag : ((openDetail toLowerCase page d).edit edit).staticGroup = d.staticGroup :=
          DetailForm.edit_staticGroup hedit.symm
        show (savePayload toLowerCase page
            ((openDetail toLowerCase page d).edit edit)).staticGroupAssignment.getD
              (if (savePayload toLowerCase page
                ((openDetail toLowerCase page d).edit edit)).groupId.isSome then true
                  else raw.staticGroupAssignment) = edit.static toLowerCase page d
        rw [hsentGroup, hstatic, hunmoved]
        rcases hsentStatic with hnone | hsome
        · rw [hnone]
          rfl
        · rw [hsome, hflag]
          rfl

end Modal

/-! ## Both forms -/

section Forms

variable {toLowerCase : String → String} {page : Page} {d : EndpointDetail}

/-- A detail for a user is the detail with another key. -/
theorem masked_key (isPskEditor : Bool) :
    ∃ key, maskFor isPskEditor d = { d with pskKey := key } := by
  unfold maskFor maskPsk
  split
  · exact ⟨d.pskKey, rfl⟩
  · split
    · exact ⟨pskMasked, rfl⟩
    · exact ⟨d.pskKey, rfl⟩

/-- The row neither shows nor sends the key. -/
theorem row_masked (isPskEditor : Bool) :
    renderRow page (maskFor isPskEditor d) = renderRow page d := by
  obtain ⟨key, hmasked⟩ := masked_key (d := d) isPskEditor
  rw [hmasked]
  rfl

theorem payload_masked (isPskEditor : Bool) (row : TableRow) :
    buildSavePayload toLowerCase page row (maskFor isPskEditor d) =
      buildSavePayload toLowerCase page row d := by
  obtain ⟨key, hmasked⟩ := masked_key (d := d) isPskEditor
  rw [hmasked]
  rfl

/-- The modal shows the key in one widget. -/
theorem modal_of_key (key : String) :
    openDetail toLowerCase page { d with pskKey := key } =
      { openDetail toLowerCase page d with pskKey := inputText key } := by
  simp only [openDetail, Page.nasOf]

/-- A key that is masked is not sent. -/
theorem modal_payload_masked (edit : DetailEdit) :
    savePayload toLowerCase page
        ((openDetail toLowerCase page (maskFor page.isPskEditor d)).edit edit) =
      savePayload toLowerCase page ((openDetail toLowerCase page d).edit edit) := by
  cases heditor : page.isPskEditor with
  | true => rfl
  | false =>
      have hkey : ∀ (form : DetailForm) (key : String),
          savePayload toLowerCase page ({ form with pskKey := key }.edit edit) =
            savePayload toLowerCase page (form.edit edit) := by
        intro form key
        cases edit <;> simp only [DetailForm.edit, savePayload, heditor] <;> rfl
      obtain ⟨key, hmasked⟩ := masked_key (d := d) false
      rw [hmasked, modal_of_key]
      exact hkey _ _

variable [PyText] [LawfulText] [LawfulStrip] [LawfulAscii]

/-- After a row or the modal is saved, every field the user did not edit and the form can hold is as
the endpoint had it when it was rendered, but for what the portal fills in by itself. -/
theorem save_keeps_unedited (toLowerCase : String → String) (page : Page) (lookups : Lookups)
    (psk : PskSettings) (autoTag : Option String) (before : Option EndpointDetail)
    (stamp : String) (endpointId : EndpointId) (raw : RawEndpoint) :
    let held := fetchEndpointDetail lookups endpointId raw
    let shown := maskFor page.isPskEditor held
    (∀ (edit : TableEdit) (ca : Attrs),
      let update := buildSavePayload toLowerCase page ((renderRow page shown).edit edit) shown
      updateAttrs psk update.customAttributes autoTag before stamp = .ok ca →
        ∀ field, field ≠ edit.field → TableHolds toLowerCase page before held edit field →
          field.Same (filledIn page autoTag before (edit.static toLowerCase page held) held)
            (fetchEndpointDetail lookups endpointId (updatedRecord raw update ca))) ∧
    ∀ (edit : DetailEdit) (ca : Attrs),
      let update := savePayload toLowerCase page ((openDetail toLowerCase page shown).edit edit)
      updateAttrs psk update.customAttributes autoTag before stamp = .ok ca →
        ∀ field, field ≠ edit.field → ModalHolds toLowerCase page before held edit field →
          field.Same (filledIn page autoTag before (edit.static toLowerCase page held) held)
            (fetchEndpointDetail lookups endpointId (updatedRecord raw update ca)) := by
  intro held shown
  constructor
  · intro edit ca update hca field hedit hholds
    have hupdate : update = buildSavePayload toLowerCase page ((renderRow page held).edit edit)
        held := by
      show buildSavePayload toLowerCase page ((renderRow page (maskFor page.isPskEditor held)).edit
        edit) (maskFor page.isPskEditor held) = _
      rw [payload_masked, row_masked]
    rw [hupdate] at hca ⊢
    exact table_keeps rfl hca hedit hholds
  · intro edit ca update hca field hedit hholds
    have hupdate : update = savePayload toLowerCase page
        ((openDetail toLowerCase page held).edit edit) :=
      modal_payload_masked edit
    rw [hupdate] at hca ⊢
    exact modal_keeps rfl hca hedit hholds

end Forms

/-! ## An endpoint without a status -/

section Examples

local instance formText : PyText := asciiText

local instance formLawfulText : LawfulText := lawful_ascii

local instance formLawfulStrip : LawfulStrip := lawfulStrip_ascii

local instance formLawfulAscii : LawfulAscii := lawfulAscii_ascii

/-- A page that knows printers and one group. -/
def printerPage : Page where
  caValues := { type := ["printer", "camera"] }
  groups := [{ id := "g-1", name := "Printers" }]
  columns := ["mac", "description", "registret_by"]

/-- A printer of no group, without a status. -/
def printerRecord : RawEndpoint where
  name := "AA:BB:CC:00:00:01"
  customAttributes := Dict.empty.set "Type" "printer"

def printerLookups : Lookups where
  setOrder := fun _ => []

def printerPsk : PskSettings where
  policy := { minLength := 8, requireUppercase := false, requireNumbers := false,
              requireSpecial := false }

/-- The printer as the server has it. -/
def printerDetail : EndpointDetail := fetchEndpointDetail printerLookups "ep-1" printerRecord

/-- A save of its row. -/
def savedRow (edit : TableEdit) : EndpointUpdate :=
  let shown := maskFor printerPage.isPskEditor printerDetail
  buildSavePayload id printerPage ((renderRow printerPage shown).edit edit) shown

/-- A save of the modal. -/
def savedModal (edit : DetailEdit) : EndpointUpdate :=
  savePayload id printerPage
    ((openDetail id printerPage (maskFor printerPage.isPskEditor printerDetail)).edit edit)

/-- ISE takes the update, and then the endpoint has a property. -/
def PrinterSaved (update : EndpointUpdate) (property : EndpointDetail → Prop) : Prop :=
  ∃ ca, updateAttrs printerPsk update.customAttributes none (some printerDetail) "today" = .ok ca ∧
    property (fetchEndpointDetail printerLookups "ep-1" (updatedRecord printerRecord update ca))

/-- An edit of the description leaves the type, in the row and in the modal. -/
theorem printer_type_kept :
    PrinterSaved (savedRow (.description "desk 4")) ((Field.attr .type).Same printerDetail) ∧
      PrinterSaved (savedModal (.description "desk 4"))
        ((Field.attr .type).Same printerDetail) := by
  have hkept := save_keeps_unedited id printerPage printerLookups printerPsk none
    (some printerDetail) "today" "ep-1" printerRecord
  have hlisted : Listed ["printer", "camera"] "printer" :=
    Or.inr ⟨by decide, by decide, by decide⟩
  constructor
  · exact ⟨_, rfl, hkept.1 (.description "desk 4") _ rfl (.attr .type) (by decide) hlisted⟩
  · exact ⟨_, rfl, hkept.2 (.description "desk 4") _ rfl (.attr .type) (by decide) hlisted⟩

/-- It fills in a status nobody chose, and a group chosen in the table comes with a static flag. -/
theorem printer_filled_in :
    PrinterSaved (savedRow (.description "desk 4"))
        (fun after => ¬ Field.activeStatus.Same printerDetail after) ∧
      PrinterSaved (savedModal (.description "desk 4"))
        (fun after => ¬ Field.activeStatus.Same printerDetail after) ∧
      PrinterSaved (savedRow (.group "g-1"))
        fun after => ¬ Field.staticGroup.Same printerDetail after := by
  have hstatus : ¬ ("Aktiv" : String) = "" := by decide
  have hstatic : ¬ true = false := by decide
  exact ⟨⟨_, rfl, hstatus⟩, ⟨_, rfl, hstatus⟩, ⟨_, rfl, hstatic⟩⟩

end Examples

end IsePortal.Frontend
