import IsePortal.Frontend.SavedFields
import IsePortal.Library.Runs

/-!
# Edits that are not saved yet

The table of the browse view between two saves: `renderRows`, `markDirty`, `revertDirtyRows` and
`runSaveLoop` of `frontend/js/views/browse-table.js`, and the bulk edit of `browse-bulk.js`. An
edit lives in the widgets of its row, and `state.dirtyIds` has the endpoints with such edits. What
carries the widgets over a rendering is a list of fields of its own, for the rows that stand in the
table. `edits_saved_or_pending` says when each edit is saved or still pending after Save all.
-/

namespace IsePortal.Frontend.DirtyRows

open Library

/-- What a user enters for an endpoint: an edit of a widget or a `dataset`, or the roles of a bulk
edit, which only changes what their cell shows. -/
inductive Entry where
  | widget (edit : TableEdit)
  | roles (selected : List String)

def Entry.field : Entry → Field
  | .widget edit => edit.field
  | .roles _ => .roles

/-- The table: `state.allRows`, the rows of `tbody` by their id, and `state.dirtyIds`. The columns
of `page` are those of the rows in `tbody`. `entered` only serves the statements: what was last
entered for each field since the last save or undo. -/
structure Table where
  page : Page
  allRows : List EndpointDetail := []
  tr : EndpointId → Option TableRow := fun _ => none
  dirtyIds : List EndpointId := []
  entered : EndpointId → Field → Option Entry := fun _ _ => none

/-! ## Widgets -/

/-- The values of the options of a select. -/
def optionValues (values : List String) : List String := "" :: values.map attributeText

/-- The widget of an attribute: a select with these options, or a text input. -/
def attrOptions (page : Page) : AttrField → Option (List String)
  | .type => some (optionValues page.caValues.type)
  | .owner => some (optionValues page.caValues.owner)
  | .lokation => some (optionValues page.caValues.lokation)
  | .authzVlan => some (optionValues page.caValues.authzVlan)
  | .authzAcl => some (optionValues page.caValues.authzAcl)
  | .platformType => some (optionValues page.caValues.platformType)
  | .guestRegistration | .guestAccessExpire => some (optionValues ["true", "false"])
  | .registretBy | .guestExperyDate => none

/-- The options of `.grp-select`. -/
def groupValues (page : Page) : List String := optionValues (page.groups.map (·.id))

/-- The value of the widget of an attribute once it is set. -/
def setAttr (page : Page) (field : AttrField) (value : String) : String :=
  match attrOptions page field with
  | some options => setSelect options value
  | none => inputText value

/-- The cell whose input `tr.querySelector(".desc-input")` finds. -/
def descCell (columns : List String) : Option String :=
  columns.find? (· ∈ ["description", "registret_by", "guest_expery_date"])

/-- `tr.querySelector(".desc-input").value = value` -/
def setDescInput (columns : List String) (row : TableRow) (value : String) : TableRow :=
  match descCell columns with
  | some "registret_by" => row.edit (.attr .registretBy (inputText value))
  | some "guest_expery_date" => row.edit (.attr .guestExperyDate (inputText value))
  | _ => row.edit (.description (inputText value))

/-- One field of a bulk edit, in a row. -/
def bulkSet (page : Page) (row : TableRow) : TableEdit → TableRow
  | .attr field value => row.edit (.attr field (setAttr page field value))
  | .description value => setDescInput page.columns row value
  | .group value => row.edit (.group (setSelect (groupValues page) value))
  | edit => row.edit edit

/-- The fields of the bulk-edit modal but for the roles. -/
def inBulk : TableEdit → Bool
  | .attr .registretBy _ | .attr .guestExperyDate _ | .attr .guestAccessExpire _ => false
  | _ => true

/-- A text input has one line. -/
def Typed : TableEdit → Prop
  | .attr .registretBy value | .attr .guestExperyDate value | .description value =>
      inputText value = value
  | _ => True

instance (edit : TableEdit) : Decidable (Typed edit) := by
  unfold Typed
  split <;> infer_instance

/-! ## Rendering -/

/-- `dirtySnap` of a row, set in the row that is rendered for it: the fields the snapshot has. -/
def restore (before page : Page) (old fresh : TableRow) : TableRow :=
  let described := setDescInput page.columns fresh (old.firstDescInput before.columns)
  { described with
    group := setSelect (groupValues page) old.group
    attrs := fun field =>
      match field with
      | .guestRegistration => described.attrs .guestRegistration
      | field => setAttr page field (old.attrs field)
    pskMode := old.pskMode
    beStaticGroup := old.beStaticGroup.or described.beStaticGroup
    bePskKey := old.bePskKey.or described.bePskKey
    beActiveStatus := old.beActiveStatus.or described.beActiveStatus }

/-- What `revertDirtyRows` makes of a row: every widget but the description is set by its own
class. -/
def revertRow (page : Page) (r : EndpointDetail) (row : TableRow) : TableRow :=
  { renderRow page r with
    description := (setDescInput page.columns row (r.description.getD "")).description
    attrs := fun field =>
      match field with
      | .registretBy => inputText r.registretBy
      | .guestExperyDate => inputText r.guestExperyDate
      | .platformType =>
          if page.nasOf r ≠ "" then setAttr page .platformType (page.nasOf r)
          else selectValue (optionsHtml page.caValues.platformType r.platformType)
      | field => (renderRow page r).attrs field }

/-- What the page knows by the time of a rendering: the sessions of pxGrid and the order of the
columns. -/
def pageAt (page : Page) (nas : String → String) (columns : List String) : Page :=
  { page with nasPlatformType := nas, columns := columns }

namespace Table

/-- `renderRows`, with the sessions and the order of the columns there are by then. -/
def renderRows (table : Table) (nas : String → String) (columns : List String)
    (rows : List EndpointDetail) : Table :=
  let page := pageAt table.page nas columns
  { table with
    page := page
    tr := fun id =>
      (rows.find? fun r => r.id = id).map fun r =>
        match table.tr id with
        | some old =>
            if id ∈ table.dirtyIds then restore table.page page old (renderRow page r)
            else renderRow page r
        | none => renderRow page r }

/-- `state.dirtyIds.add(id)` -/
def addDirty (dirtyIds : List EndpointId) (id : EndpointId) : List EndpointId :=
  if id ∈ dirtyIds then dirtyIds else dirtyIds ++ [id]

/-- Something is entered for an endpoint: its row is changed and marked, if it is there. -/
def enter (table : Table) (id : EndpointId) (entry : Entry) (change : TableRow → TableRow) :
    Table :=
  { table with
    tr := fun other => if other = id then (table.tr id).map change else table.tr other
    dirtyIds := if (table.tr id).isSome then addDirty table.dirtyIds id else table.dirtyIds
    entered := fun other field =>
      if other = id ∧ field = entry.field then some entry else table.entered other field }

/-- The handler of `#be-apply`: the fields and the roles that are checked, for the endpoints of
`getSelectedIds`. -/
def bulkApply (table : Table) (ids : List EndpointId) (fields : List TableEdit)
    (roles : Option (List String)) : Table :=
  ids.foldl
    (fun table id =>
      let edited := fields.foldl
        (fun table edit => table.enter id (.widget edit) (bulkSet table.page · edit)) table
      match roles with
      | none => edited
      | some selected => edited.enter id (.roles selected) fun row => row)
    table

/-- `revertDirtyRows` -/
def revertDirtyRows (table : Table) : Table :=
  { table with
    tr := fun id =>
      match table.allRows.find? fun r => r.id = id with
      | some r =>
          if id ∈ table.dirtyIds then (table.tr id).map (revertRow table.page r) else table.tr id
      | none => table.tr id
    dirtyIds := []
    entered := fun _ _ => none }

end Table

/-! ## Steps -/

/-- The steps: a user edits a row or applies a bulk edit; rows are rendered; `tbody` shows one line
while rows are fetched (`load`, unless it is silent, and `enterFilterMode`); `load` begins; rows
and what the page knows have been fetched; a user undoes the edits. -/
inductive Step where
  | edited (id : EndpointId) (edit : TableEdit)
  | bulkApplied (ids : List EndpointId) (fields : List TableEdit) (roles : Option (List String))
  | rendered (nas : String → String) (columns : List String) (rows : List EndpointDetail)
  | emptied
  | loading
  | fetched (page : Page) (allRows : List EndpointDetail)
  | undone

/-- One step: only a row that is there is edited, and an input takes one line. -/
def step (table : Table) : Step → Option Table
  | .edited id edit =>
      if (table.tr id).isSome ∧ Typed edit then
        some (table.enter id (.widget edit) (·.edit edit))
      else none
  | .bulkApplied ids fields roles =>
      if ∀ edit ∈ fields, Typed edit ∧ inBulk edit = true then
        some (table.bulkApply ids fields roles)
      else none
  | .rendered nas columns rows => some (table.renderRows nas columns rows)
  | .emptied => some { table with tr := fun _ => none }
  | .loading => some { table with dirtyIds := [] }
  | .fetched page allRows =>
      some { table with page := { page with columns := table.page.columns }, allRows := allRows }
  | .undone => some table.revertDirtyRows

/-! ## Saving -/

/-- `state.allRows.find((r) => r.id === id)`; without it a row has no group and no roles. -/
def Table.detail (table : Table) (id : EndpointId) : EndpointDetail :=
  (table.allRows.find? fun r => r.id = id).getD { id := id, name := "" }

/-- The update `runSaveLoop` sends for an endpoint, if its row is there. -/
def Table.update (toLowerCase : String → String) (table : Table) (id : EndpointId) :
    Option EndpointUpdate :=
  (table.tr id).map fun row => buildSavePayload toLowerCase table.page row (table.detail id)

/-- The table after `runSaveLoop` over `state.dirtyIds`; `ok` says which updates succeed. -/
def Table.saveAll (table : Table) (ok : EndpointId → Bool) : Table :=
  { table with
    dirtyIds := table.dirtyIds.filter fun id => !((table.tr id).isSome && ok id) }

/-- A row shows what was entered. -/
def Entry.Shown (row : TableRow) : Entry → Prop
  | .widget (.attr field value) => row.attrs field = value
  | .widget (.description value) => row.description = value
  | .widget (.group value) => row.group = value
  | .widget (.pskMode checked) => row.pskMode = checked
  | .widget (.staticGroup static) => row.beStaticGroup = some static
  | .widget (.pskKey value) => row.bePskKey = some value
  | .widget (.activeStatus value) => row.beActiveStatus = some value
  -- no widget holds the roles
  | .roles _ => False

/-- An update carries what was entered. A group that is the endpoint's own is not sent, and none
stands for Unknown. -/
def Entry.Carried (toLowerCase : String → String) (page : Page) (r : EndpointDetail)
    (update : EndpointUpdate) : Entry → Prop
  | .widget (.attr field value) =>
      ∃ attrs, update.customAttributes = some attrs ∧ field.sent attrs = some value
  | .widget (.description value) => update.description = some value
  | .widget (.group value) =>
      update.groupId = some value ∨ update.groupId = none ∧ value = r.groupId.getD "" ∨
        value = "" ∧ ∃ unknown, unknownGroup toLowerCase page = some unknown ∧
          update.groupId = some unknown.id
  | .widget (.pskMode checked) =>
      ∃ attrs, update.customAttributes = some attrs ∧
        attrs.pskMode = some (if checked then "true" else "false")
  | .widget (.staticGroup static) => update.staticGroupAssignment = some static
  | .widget (.pskKey value) =>
      ∃ attrs, update.customAttributes = some attrs ∧ attrs.pskKey = some value
  | .widget (.activeStatus value) =>
      ∃ attrs, update.customAttributes = some attrs ∧ attrs.hypervisionActive = some value
  | .roles selected =>
      ∃ attrs, update.customAttributes = some attrs ∧
        attrs.hypervisionRoles = ",".intercalate ((r.roles.filter fun role =>
          !inCatalog toLowerCase page.roleCatalog role) ++ selected)

/-- The endpoint is marked as having unsaved changes, and its row shows what was entered, now and
when it is rendered again, whatever rows and sessions there are by then. -/
def Table.Pending (table : Table) (id : EndpointId) (entry : Entry) : Prop :=
  id ∈ table.dirtyIds ∧ (∀ row, table.tr id = some row → entry.Shown row) ∧
    ∀ nas rows row, (table.renderRows nas table.page.columns rows).tr id = some row →
      entry.Shown row

/-- Save all has ISE take an update with what was entered, or leaves it pending. -/
def Table.SavedOrPending (toLowerCase : String → String) (table : Table) (ok : EndpointId → Bool)
    (id : EndpointId) (entry : Entry) : Prop :=
  (id ∈ table.dirtyIds ∧ ok id = true ∧ ∃ update, table.update toLowerCase id = some update ∧
    entry.Carried toLowerCase table.page (table.detail id) update) ∨
  (table.saveAll ok).Pending id entry

/-! ## The condition -/

/-- The description is what `.desc-input` finds. -/
def DescFirst (columns : List String) : Prop :=
  descCell columns ≠ some "registret_by" ∧ descCell columns ≠ some "guest_expery_date"

/-- A bulk edit sets the field to what was entered. -/
def Settable (page : Page) : TableEdit → Prop
  | .attr field value => ∀ options, attrOptions page field = some options → value ∈ options
  | .description _ => DescFirst page.columns
  | .group value => value ∈ groupValues page
  | _ => True

/-- The snapshot of a row carries what was entered over to columns of a page. -/
def Restorable (before page : Page) : Entry → Prop
  | .widget (.attr .guestRegistration _) => False
  | .widget (.description _) => DescFirst before.columns ∧ DescFirst page.columns
  | .widget edit => Settable page edit
  | .roles _ => False

/-- The payload of a save has what was entered. -/
def Sendable (toLowerCase : String → String) (page : Page) (r : EndpointDetail) : Entry → Prop
  | .widget (.description _) => DescFirst page.columns
  | .widget (.group value) =>
      value = "" → r.groupId.getD "" = "" ∨ (unknownGroup toLowerCase page).isSome
  | .widget (.pskMode _) => page.isPskEditor = true
  | .widget (.pskKey value) => page.isPskEditor = true ∧ value ≠ "****"
  | .widget _ => True
  | .roles _ => False

/-- The step loses no edit: a bulk edit has no roles, and the rows of its endpoints are there and
take what is entered; a rendering has the rows of all edited endpoints, and their snapshots carry
what was entered; the table is emptied and loaded only while nothing is edited. -/
def Table.Harmless (table : Table) : Step → Prop
  | .edited .. => True
  | .bulkApplied ids fields roles =>
      (ids ≠ [] → roles = none) ∧
        ∀ id ∈ ids, ∀ edit ∈ fields, (table.tr id).isSome ∧ Settable table.page edit
  | .rendered nas columns rows =>
      ∀ id field entry, table.entered id field = some entry → (∃ r ∈ rows, r.id = id) ∧
        Restorable table.page (pageAt table.page nas columns) entry
  | .emptied | .loading => ∀ id field, table.entered id field = none
  | .fetched .. => True
  | .undone => True

/-- Save all loses no edit: the payload has what was entered where the update succeeds, and the
snapshot of the row has it where the update fails. -/
def Table.SaveHarmless (toLowerCase : String → String) (table : Table) (ok : EndpointId → Bool) :
    Prop :=
  ∀ id field entry, table.entered id field = some entry →
    if ok id then Sendable toLowerCase table.page (table.detail id) entry
    else Restorable table.page table.page entry

/-! ## Rows -/

section Rows

variable {row old fresh : TableRow} {edit other : TableEdit} {page before : Page} {entry : Entry}

theorem shown_edit : (Entry.widget edit).Shown (row.edit edit) := by
  cases edit with
  | attr field value => exact if_pos rfl
  | _ => rfl

/-- Another field stays as it is shown. -/
theorem shown_edit_of_ne (hfield : other.field ≠ edit.field)
    (hshown : (Entry.widget edit).Shown row) : (Entry.widget edit).Shown (row.edit other) := by
  cases edit with
  | attr field value => exact (TableRow.edit_attrs hfield).trans hshown
  | description value => exact (TableRow.edit_description hfield).trans hshown
  | group value => exact (TableRow.edit_group hfield).trans hshown
  | pskMode checked => exact (TableRow.edit_pskMode hfield).trans hshown
  | staticGroup static => exact (TableRow.edit_beStaticGroup hfield).trans hshown
  | pskKey value => exact (TableRow.edit_bePskKey hfield).trans hshown
  | activeStatus value => exact (TableRow.edit_beActiveStatus hfield).trans hshown

/-- The widget of an attribute holds what it can be set to. -/
theorem setAttr_eq {field : AttrField} {value : String} (htyped : Typed (.attr field value))
    (hsettable : Settable page (.attr field value)) : setAttr page field value = value := by
  unfold setAttr
  cases hoptions : attrOptions page field with
  | some options => exact if_pos (hsettable options hoptions)
  | none =>
      cases field with
      | registretBy | guestExperyDate => exact htyped
      | _ => cases hoptions

theorem firstDescInput_eq {columns : List String} (h : DescFirst columns) :
    row.firstDescInput columns = row.description := by
  have hcell : row.firstDescInput columns =
      match descCell columns with
      | some "registret_by" => row.attrs .registretBy
      | some "guest_expery_date" => row.attrs .guestExperyDate
      | _ => row.description := rfl
  rw [hcell]
  split
  · exact absurd ‹_› h.1
  · exact absurd ‹_› h.2
  · rfl

theorem setDescInput_eq {columns : List String} (h : DescFirst columns) (value : String) :
    setDescInput columns row value = row.edit (.description (inputText value)) := by
  unfold setDescInput
  split
  · exact absurd ‹_› h.1
  · exact absurd ‹_› h.2
  · rfl

/-- A bulk edit of a field that can be set is an edit of it. -/
theorem bulkSet_eq (htyped : Typed edit) (hsettable : Settable page edit) :
    bulkSet page row edit = row.edit edit := by
  cases edit with
  | attr field value => rw [bulkSet, setAttr_eq htyped hsettable]
  | description value =>
      have hvalue : inputText value = value := htyped
      rw [bulkSet, setDescInput_eq hsettable, hvalue]
  | group value =>
      have hvalue : setSelect (groupValues page) value = value := if_pos hsettable
      rw [bulkSet, hvalue]
  | _ => rfl

/-- What the snapshot of a row carries is shown in the row that is rendered for it. -/
theorem shown_restore (htyped : Typed edit) (hshown : (Entry.widget edit).Shown old)
    (hrestorable : Restorable before page (.widget edit)) :
    (Entry.widget edit).Shown (restore before page old fresh) := by
  cases edit with
  | attr field value =>
      have hvalue : old.attrs field = value := hshown
      have hset : Settable page (.attr field value) →
          setAttr page field (old.attrs field) = value :=
        fun hsettable => hvalue.symm ▸ setAttr_eq htyped hsettable
      cases field with
      | guestRegistration => exact hrestorable.elim
      | _ => exact hset hrestorable
  | description value =>
      have hvalue : old.description = value := hshown
      have hline : inputText value = value := htyped
      show (setDescInput page.columns fresh (old.firstDescInput before.columns)).description = value
      rw [firstDescInput_eq hrestorable.1, setDescInput_eq hrestorable.2, hvalue, hline]
      rfl
  | group value =>
      have hvalue : old.group = value := hshown
      show setSelect (groupValues page) old.group = value
      rw [hvalue]
      exact if_pos hrestorable
  | pskMode checked => exact hshown
  | staticGroup static =>
      have hvalue : old.beStaticGroup = some static := hshown
      show old.beStaticGroup.or _ = some static
      rw [hvalue, Option.some_or]
  | pskKey value =>
      have hvalue : old.bePskKey = some value := hshown
      show old.bePskKey.or _ = some value
      rw [hvalue, Option.some_or]
  | activeStatus value =>
      have hvalue : old.beActiveStatus = some value := hshown
      show old.beActiveStatus.or _ = some value
      rw [hvalue, Option.some_or]

end Rows

/-! ## The invariant -/

namespace Table

variable {table after : Table} {id : EndpointId} {edit : TableEdit}

/-- Everything that was entered is an edit of a widget that its row shows, and its endpoint is
dirty. -/
def Kept (table : Table) : Prop :=
  ∀ id field entry, table.entered id field = some entry →
    ∃ edit row, entry = .widget edit ∧ edit.field = field ∧ Typed edit ∧ id ∈ table.dirtyIds ∧
      table.tr id = some row ∧ entry.Shown row

theorem kept_of_nothing (h : ∀ id field, table.entered id field = none) : table.Kept := by
  intro id field entry hentered
  rw [h id field] at hentered
  cases hentered

theorem mem_addDirty {dirtyIds : List EndpointId} {other : EndpointId} :
    other ∈ addDirty dirtyIds id ↔ other ∈ dirtyIds ∨ other = id := by
  unfold addDirty
  split
  case isTrue h => exact ⟨.inl, fun hor => hor.elim (fun hmem => hmem) fun heq => heq ▸ h⟩
  case isFalse h => rw [List.mem_append, List.mem_singleton]

theorem isSome_tr_enter {entry : Entry} {change : TableRow → TableRow} (other : EndpointId) :
    ((table.enter id entry change).tr other).isSome = (table.tr other).isSome := by
  simp only [enter]
  split
  case isTrue h => rw [Option.isSome_map, h]
  case isFalse => rfl

/-- An edit of a row that is there keeps the invariant. -/
theorem Kept.enter (h : table.Kept) (hrow : (table.tr id).isSome) (htyped : Typed edit)
    {change : TableRow → TableRow} (hchange : ∀ row, change row = row.edit edit) :
    (table.enter id (.widget edit) change).Kept := by
  obtain ⟨row, hrow⟩ := Option.isSome_iff_exists.mp hrow
  have hchanged : (table.enter id (.widget edit) change).tr id = some (row.edit edit) := by
    simp only [Table.enter, if_true, hrow, Option.map_some, hchange]
  have hdirty : ∀ other, (other ∈ table.dirtyIds ∨ other = id) →
      other ∈ (table.enter id (.widget edit) change).dirtyIds := by
    intro other hother
    simp only [Table.enter, hrow, Option.isSome_some, if_true]
    exact mem_addDirty.mpr hother
  intro other field entry hentered
  simp only [Table.enter] at hentered
  split at hentered
  case isTrue hsame =>
      obtain ⟨rfl, hfield⟩ := hsame
      cases hentered
      exact ⟨edit, row.edit edit, rfl, hfield.symm, htyped, hdirty other (.inr rfl), hchanged,
        shown_edit⟩
  case isFalse hother =>
      obtain ⟨earlier, old, rfl, hfield, hline, hmem, hold, hshown⟩ := h other field entry hentered
      by_cases hid : other = id
      · subst hid
        cases hrow.symm.trans hold
        refine ⟨earlier, row.edit edit, rfl, hfield, hline, hdirty other (.inr rfl), hchanged, ?_⟩
        exact shown_edit_of_ne (fun heq => hother ⟨rfl, hfield ▸ heq.symm⟩) hshown
      · refine ⟨earlier, old, rfl, hfield, hline, hdirty other (.inl hmem), ?_, hshown⟩
        simp only [Table.enter, hid, if_false]
        exact hold

/-- The fields of a bulk edit, in one row. -/
theorem Kept.enterAll (h : table.Kept) {fields : List TableEdit}
    (htyped : ∀ edit ∈ fields, Typed edit)
    (hset : ∀ edit ∈ fields, (table.tr id).isSome ∧ Settable table.page edit) :
    (fields.foldl
      (fun table edit =>
        table.enter id (.widget edit) (bulkSet table.page · edit)) table).Kept := by
  induction fields generalizing table with
  | nil => exact h
  | cons edit rest ih =>
      have hline := htyped edit List.mem_cons_self
      obtain ⟨hrow, hsettable⟩ := hset edit List.mem_cons_self
      refine ih (h.enter hrow hline fun row => bulkSet_eq hline hsettable)
        (fun other hother => htyped other (List.mem_cons_of_mem edit hother)) fun other hother => ?_
      refine ⟨?_, (hset other (List.mem_cons_of_mem edit hother)).2⟩
      rw [isSome_tr_enter]
      exact hrow

/-- A bulk edit changes neither the page nor which rows are there. -/
theorem enterAll_frame (fields : List TableEdit) (table : Table) (other : EndpointId) :
    (fields.foldl (fun table edit =>
        table.enter id (.widget edit) (bulkSet table.page · edit)) table).page = table.page ∧
      ((fields.foldl (fun table edit =>
        table.enter id (.widget edit) (bulkSet table.page · edit)) table).tr other).isSome =
        (table.tr other).isSome := by
  induction fields generalizing table with
  | nil => exact ⟨rfl, rfl⟩
  | cons edit rest ih =>
      refine ⟨(ih _).1, (ih _).2.trans ?_⟩
      exact isSome_tr_enter other

theorem Kept.bulkApply (h : table.Kept) {ids : List EndpointId} {fields : List TableEdit}
    (htyped : ∀ edit ∈ fields, Typed edit)
    (hset : ∀ id ∈ ids, ∀ edit ∈ fields, (table.tr id).isSome ∧ Settable table.page edit) :
    (table.bulkApply ids fields none).Kept := by
  unfold Table.bulkApply
  induction ids generalizing table with
  | nil => exact h
  | cons id rest ih =>
      refine ih (h.enterAll htyped (hset id List.mem_cons_self)) fun other hother edit hedit => ?_
      have hframe := @enterAll_frame id fields table other
      simp only [hframe.1, hframe.2]
      exact hset other (List.mem_cons_of_mem id hother) edit hedit

/-- A dirty row is rendered with what its snapshot carries. -/
theorem tr_renderRows {old : TableRow} (hrow : table.tr id = some old)
    (hdirty : id ∈ table.dirtyIds) (nas : String → String) (columns : List String)
    (rows : List EndpointDetail) :
    (table.renderRows nas columns rows).tr id =
      (rows.find? fun r => r.id = id).map fun r =>
        restore table.page (pageAt table.page nas columns) old
          (renderRow (pageAt table.page nas columns) r) := by
  simp only [renderRows, hrow, hdirty, if_true]

theorem Kept.renderRows (h : table.Kept) {nas : String → String} {columns : List String}
    {rows : List EndpointDetail} (hharmless : table.Harmless (.rendered nas columns rows)) :
    (table.renderRows nas columns rows).Kept := by
  intro id field entry hentered
  obtain ⟨edit, old, rfl, hfield, htyped, hdirty, hrow, hshown⟩ := h id field entry hentered
  obtain ⟨⟨r, hr, hid⟩, hrestorable⟩ := hharmless id field _ hentered
  obtain ⟨found, hfound⟩ : ∃ found, rows.find? (fun r => decide (r.id = id)) = some found := by
    refine Option.isSome_iff_exists.mp (List.find?_isSome.mpr ⟨r, hr, ?_⟩)
    exact decide_eq_true hid
  refine ⟨edit, restore table.page (pageAt table.page nas columns) old
    (renderRow (pageAt table.page nas columns) found), rfl, hfield, htyped, hdirty, ?_, ?_⟩
  · rw [tr_renderRows hrow hdirty, hfound, Option.map_some]
  · exact shown_restore htyped hshown hrestorable

/-- A step that loses no edit keeps the invariant. -/
theorem Kept.step {label : Step} (hstep : step table label = some after)
    (hharmless : table.Harmless label) (h : table.Kept) : after.Kept := by
  cases label with
  | edited id edit =>
      simp only [DirtyRows.step, Option.ite_none_right_eq_some] at hstep
      obtain ⟨⟨hrow, htyped⟩, hafter⟩ := hstep
      cases hafter
      exact h.enter hrow htyped fun row => rfl
  | bulkApplied ids fields roles =>
      simp only [DirtyRows.step, Option.ite_none_right_eq_some] at hstep
      obtain ⟨htyped, hafter⟩ := hstep
      cases hafter
      by_cases hids : ids = []
      · subst hids
        exact h
      · rw [hharmless.1 hids]
        exact h.bulkApply (fun edit hedit => (htyped edit hedit).1) hharmless.2
  | rendered nas columns rows =>
      cases hstep
      exact h.renderRows hharmless
  | emptied =>
      cases hstep
      exact kept_of_nothing hharmless
  | loading =>
      cases hstep
      exact kept_of_nothing hharmless
  | fetched page allRows =>
      cases hstep
      exact h
  | undone =>
      cases hstep
      exact kept_of_nothing fun _ _ => rfl

end Table

/-! ## Save all -/

section Save

variable {toLowerCase : String → String} {table : Table} {page : Page} {row : TableRow}
  {r : EndpointDetail} {edit : TableEdit} {ok : EndpointId → Bool} {id : EndpointId}

/-- The payload of a row has what it shows. -/
theorem carried_payload (hshown : (Entry.widget edit).Shown row)
    (hsendable : Sendable toLowerCase page r (.widget edit)) :
    (Entry.widget edit).Carried toLowerCase page r (buildSavePayload toLowerCase page row r) := by
  cases edit with
  | attr field value =>
      have hvalue : row.attrs field = value := hshown
      refine ⟨_, rfl, ?_⟩
      rw [← hvalue]
      cases field <;> rfl
  | description value =>
      have hvalue : row.description = value := hshown
      show some (row.firstDescInput page.columns) = some value
      rw [firstDescInput_eq hsendable, hvalue]
  | group value =>
      have hvalue : row.group = value := hshown
      have hgroup : (buildSavePayload toLowerCase page row r).groupId =
          (if row.group ≠ r.groupId.getD "" then changedGroup toLowerCase page row.group none
            else (none, none)).1 := rfl
      unfold Entry.Carried
      rw [hgroup, hvalue]
      by_cases hsame : value = r.groupId.getD ""
      · exact .inr (.inl ⟨by rw [if_neg (not_not_intro hsame)], hsame⟩)
      · rw [if_pos hsame, changedGroup]
        by_cases hnone : value = ""
        · have hunknown := (hsendable hnone).resolve_left fun hempty =>
            hsame (hnone.trans hempty.symm)
          obtain ⟨unknown, hunknown⟩ := Option.isSome_iff_exists.mp hunknown
          refine .inr (.inr ⟨hnone, unknown, hunknown, ?_⟩)
          rw [if_pos hnone, hunknown]
        · rw [if_neg hnone]
          exact .inl rfl
  | pskMode checked =>
      have hvalue : row.pskMode = checked := hshown
      have heditor : page.isPskEditor = true := hsendable
      refine ⟨_, rfl, ?_⟩
      simp only [heditor, if_true, hvalue]
  | staticGroup static =>
      have hvalue : row.beStaticGroup = some static := hshown
      show row.beStaticGroup.or _ = some static
      rw [hvalue, Option.some_or]
  | pskKey value =>
      have hvalue : row.bePskKey = some value := hshown
      refine ⟨_, rfl, ?_⟩
      simp [hsendable.1, hvalue, hsendable.2]
  | activeStatus value => exact ⟨_, rfl, hshown⟩

/-- An update that fails leaves what was entered pending. -/
theorem pending_saveAll {entry : Entry} {field : Field} (h : table.Kept)
    (hentered : table.entered id field = some entry) (hfails : ok id = false)
    (hrestorable : Restorable table.page table.page entry) :
    (table.saveAll ok).Pending id entry := by
  obtain ⟨edit, old, rfl, -, htyped, hdirty, hrow, hshown⟩ := h id field entry hentered
  have hstays : id ∈ (table.saveAll ok).dirtyIds :=
    List.mem_filter.mpr ⟨hdirty, by simp [hfails]⟩
  refine ⟨hstays, fun row hthere => ?_, fun nas rows row hthere => ?_⟩
  · cases hrow.symm.trans hthere
    exact hshown
  · rw [@Table.tr_renderRows (table.saveAll ok) id old hrow hstays] at hthere
    obtain ⟨r, -, rfl⟩ := Option.map_eq_some_iff.mp hthere
    -- The sessions do not matter to what a widget can be set to.
    refine shown_restore htyped hshown ?_
    cases edit <;> exact hrestorable

theorem savedOrPending {entry : Entry} {field : Field} (h : table.Kept)
    (hentered : table.entered id field = some entry) (hsave : table.SaveHarmless toLowerCase ok) :
    table.SavedOrPending toLowerCase ok id entry := by
  have hcondition := hsave id field entry hentered
  cases hok : ok id with
  | false =>
      rw [hok] at hcondition
      exact .inr (pending_saveAll h hentered hok hcondition)
  | true =>
      rw [hok] at hcondition
      obtain ⟨edit, row, rfl, -, -, hdirty, hrow, hshown⟩ := h id field entry hentered
      refine .inl ⟨hdirty, hok,
        buildSavePayload toLowerCase table.page row (table.detail id), ?_, ?_⟩
      · rw [Table.update, hrow, Option.map_some]
      · exact carried_payload hshown hcondition

end Save

/-! ## Runs -/

/-- After a run whose steps lose no edit, and a Save all that loses none, whatever was entered since
the last save or undo is saved or still pending. -/
theorem edits_saved_or_pending (toLowerCase : String → String) (page : Page)
    (allRows : List EndpointDetail) (steps : List Step) (final : Table) (ok : EndpointId → Bool)
    (hrun : run step { page, allRows } steps = some final)
    (hgood : Guarded step Table.Harmless { page, allRows } steps)
    (hsave : final.SaveHarmless toLowerCase ok) :
    ∀ id field entry, final.entered id field = some entry →
      final.SavedOrPending toLowerCase ok id entry := by
  have hstart : ({ page, allRows } : Table).Kept := Table.kept_of_nothing fun _ _ => rfl
  have hkept : final.Kept :=
    (always_of_guarded (fun _ _ _ hstep hharmless h => Table.Kept.step hstep hharmless h) hgood
      hstart).last hrun
  intro id field entry hentered
  exact savedOrPending hkept hentered hsave

/-- A page with one value for the owner. -/
def labPage : Page := { caValues := { owner := ["Lab"] } }

/-- An endpoint without attributes. -/
def bareEndpoint : EndpointDetail := { id := "e", name := "e" }

/-- The endpoint is rendered, gets an owner, and is rendered again. -/
def ownerSteps : List Step :=
  [.rendered (fun _ => "") [] [bareEndpoint], .edited "e" (.attr .owner "Lab"),
    .rendered (fun _ => "") [] [bareEndpoint]]

/-- What was entered in those steps. -/
theorem owner_entered {id : EndpointId} {field : Field} {entry : Entry}
    (h : (if id = "e" ∧ field = .attr .owner then some (.widget (.attr .owner "Lab"))
      else none : Option Entry) = some entry) :
    id = "e" ∧ entry = .widget (.attr .owner "Lab") := by
  split at h
  · cases h
    exact ⟨‹_ ∧ _›.1, rfl⟩
  · cases h

/-- The owner is sent. -/
theorem edits_saved_or_pending_owner :
    ∃ final, run step { page := labPage, allRows := [bareEndpoint] } ownerSteps = some final ∧
      final.SavedOrPending (fun text => text) (fun _ => true) "e"
        (.widget (.attr .owner "Lab")) := by
  refine ⟨_, rfl, edits_saved_or_pending _ labPage [bareEndpoint] ownerSteps _ _ rfl
    ⟨fun id field entry hentered => ?_, trivial, fun id field entry hentered => ?_, trivial⟩
    (fun id field entry hentered => ?_) "e" (.attr .owner) _ rfl⟩
  · cases hentered
  · obtain ⟨rfl, rfl⟩ := owner_entered hentered
    refine ⟨⟨bareEndpoint, List.mem_cons_self, rfl⟩, fun options hoptions => ?_⟩
    cases hoptions
    decide
  · obtain ⟨rfl, rfl⟩ := owner_entered hentered
    exact trivial

/-- `load` begins while an edit is pending, as it does when the table is refreshed: the endpoint is
no longer dirty, and Save all sends nothing. -/
theorem edit_lost :
    ¬ ∀ (toLowerCase : String → String) (page : Page) (allRows : List EndpointDetail)
      (steps : List Step) (final : Table) (ok : EndpointId → Bool),
      run step { page, allRows } steps = some final →
      ∀ id field entry, final.entered id field = some entry →
        final.SavedOrPending toLowerCase ok id entry := by
  intro h
  have hlost := h (fun text => text) labPage [bareEndpoint]
    [.rendered (fun _ => "") [] [bareEndpoint], .edited "e" (.attr .owner "Lab"), .loading] _
    (fun _ => true) rfl "e" (.attr .owner) _ rfl
  rcases hlost with ⟨hdirty, -⟩ | ⟨hdirty, -⟩
  · cases hdirty
  · cases hdirty

end IsePortal.Frontend.DirtyRows
