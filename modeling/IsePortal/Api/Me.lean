import IsePortal.Accounts.StoredService

/-!
# Preferences and saved views

The routes of `app/api/me.py`, for the user whose id `get_current_user` has answered with. A
TACACS user has a record only since its last login; `_ensure_shadow_record` is for the case that
it has none, and what it appends is no complete record.
-/

namespace IsePortal

open Library StoredUsers StoredService

/-! ## Cleaning preferences -/

/-- `1 <= len(k) <= 32` -/
def isColumnKey (key : String) : Bool := 1 ≤ key.length ∧ key.length ≤ 32

/-- `_safe_col_order` -/
def safeColOrder (raw : List String) : List String := (raw.filter isColumnKey).take 30

/-- `_safe_col_vis` -/
def safeColVis (raw : List (String × Bool)) : List (String × Bool) :=
  (raw.take 30).filter fun entry => isColumnKey entry.1

/-- `_safe_col_widths` -/
def safeColWidths (raw : List (String × Int)) : Option (List (String × Int)) :=
  let result := (raw.take 30).filter fun entry =>
    isColumnKey entry.1 ∧ 20 ≤ entry.2 ∧ entry.2 ≤ 2000
  if result = [] then none else some result

/-- `isinstance(x, str) and len(x) <= high` -/
def isShort (high : Nat) : Json → Bool
  | .str text => text.length ≤ high
  | _ => false

/-- The entries of a layout dictionary whose paths are short, at most 300. -/
def shortPaths (fields : JsonObject) : JsonObject :=
  (fields.take 300).filter fun entry => entry.1.length ≤ 1024

/-- One entry of `branchDim`. -/
def safeBranch (entry : String × Json) : Option (String × Json) :=
  if isShort 256 entry.2 then some entry else none

/-- One entry of `hidden`. -/
def safeHidden (entry : String × Json) : Option (String × Json) :=
  match entry.2 with
  | .arr items => some (entry.1, .arr ((items.filter (isShort 256)).take 200))
  | _ => none

/-- One entry of `merges`: groups of fewer than two are dropped. -/
def safeMerge (entry : String × Json) : Option (String × Json) :=
  match entry.2 with
  | .arr items =>
      let groups := (items.take 100).filterMap fun group =>
        match group with
        | .arr members => some ((members.filter (isShort 256)).take 100)
        | _ => none
      some (entry.1, .arr ((groups.filter fun group => 2 ≤ group.length).map .arr))
  | _ => none

/-- `groupBy` -/
def safeGroupBy (items : List Json) : List Json :=
  (items.filter fun key =>
    match key with
    | .str text => isColumnKey text
    | _ => false).take 20

/-- A part of the layout that is a dictionary, entry by entry. -/
def safePart (raw : JsonObject) (key : String) (safe : String × Json → Option (String × Json)) :
    JsonObject :=
  match raw.lookup key with
  | some (.obj fields) => [(key, .obj ((shortPaths fields).filterMap safe))]
  | _ => []

/-- `_safe_tree_layout` -/
def safeTreeLayout (raw : JsonObject) : Option JsonObject :=
  let groupBy :=
    match raw.lookup "groupBy" with
    | some (.arr items) => [("groupBy", Json.arr (safeGroupBy items))]
    | _ => []
  match groupBy ++ safePart raw "branchDim" safeBranch ++ safePart raw "merges" safeMerge ++
      safePart raw "hidden" safeHidden with
  | [] => none
  | out => some out

/-- The body of `PUT /me/prefs`: a field that is sent holds a value or `null`. -/
structure UserPrefsUpdate where
  language : Option (Option Language) := none
  colOrder : Option (Option (List String)) := none
  colVis : Option (Option (List (String × Bool))) := none
  colWidths : Option (Option (List (String × Int))) := none
  treeLayout : Option (Option JsonObject) := none

/-- What becomes of a stored preference: `null` drops it, a value that cleaning refuses leaves
it. -/
def mergePref {α : Type} (clean : α → Option α) (sent : Option (Option α)) (stored : Option α) :
    Option α :=
  match sent with
  | none => stored
  | some none => none
  | some (some value) => (clean value).or stored

/-- The preferences `update_my_prefs` stores; a layout that cleaning refuses is dropped. -/
def UserPrefsUpdate.merge (payload : UserPrefsUpdate) (prefs : UserPrefs) : UserPrefs where
  language := mergePref some payload.language prefs.language
  colOrder := mergePref (fun raw => some (safeColOrder raw)) payload.colOrder prefs.colOrder
  colVis := mergePref (fun raw => some (safeColVis raw)) payload.colVis prefs.colVis
  colWidths := mergePref safeColWidths payload.colWidths prefs.colWidths
  treeLayout :=
    match payload.treeLayout with
    | none => prefs.treeLayout
    | some sent => sent.bind safeTreeLayout

/-- `_prefs_response` -/
def prefsResponse (prefs : UserPrefs) : UserPrefs where
  language := prefs.language
  colOrder := prefs.colOrder.map safeColOrder
  colVis := prefs.colVis.map safeColVis
  colWidths := prefs.colWidths.bind safeColWidths
  treeLayout := prefs.treeLayout.bind safeTreeLayout

/-! ## The routes -/

namespace Me

/-- `MAX_VIEWS_PER_USER` -/
def maxViewsPerUser : Nat := 20

/-- What `_ensure_shadow_record` appends. -/
def bareShadow (userId : String) : StoredRecord where
  id := some userId
  userType := some .tacacsShadow
  prefs := some {}

/-- `_ensure_shadow_record`, for the user of a TACACS token. -/
def ensureShadowRecord (users : StoredUsers) (userId : String) : StoredUsers :=
  if isTacacsId userId ∧ users.findById userId = none then users ++ [bareShadow userId] else users

/-- `record["prefs"] = prefs` -/
def setPrefs (prefs : UserPrefs) (record : StoredRecord) : StoredRecord :=
  { record with prefs := some prefs }

/-- `record["saved_views"] = views` -/
def setViews (views : List SavedView) (record : StoredRecord) : StoredRecord :=
  { record with savedViews := some views }

/-- `update_my_prefs` from the lookup of the record on. -/
def savePrefs (users : StoredUsers) (userId : String) (payload : UserPrefsUpdate) :
    StoreM UserPrefs := do
  let record ← recordOf users userId
  let prefs := payload.merge (record.prefs.getD {})
  set (users.editFirst (hasId userId) (setPrefs prefs))
  return prefsResponse prefs

/-- `update_my_prefs` -/
def updateMyPrefs (userId : String) (payload : UserPrefsUpdate) : StoreM UserPrefs := do
  let users ← get
  savePrefs (ensureShadowRecord users userId) userId payload

/-- `create_my_view` from the lookup of the record on. -/
def addView (users : StoredUsers) (userId : String) (view : SavedView) : StoreM SavedView := do
  let record ← recordOf users userId
  let views := record.savedViews.getD []
  if maxViewsPerUser ≤ views.length then
    throw (.http ⟨400, "Maks 20 views pr. bruger — slet en eksisterende først"⟩)
  else
    set (users.editFirst (hasId userId) (setViews (views ++ [view])))
    return view

/-- `create_my_view` -/
def createMyView [PyText] (userId name : String) (query : JsonObject) (viewId now : String) :
    StoreM SavedView := do
  let users ← get
  addView (ensureShadowRecord users userId) userId
    { id := viewId, name := PyText.strip name, query, createdAt := now }

/-- The answer for an id without a view. -/
def viewNotFound : HttpError := ⟨404, "View ikke fundet"⟩

/-- The views with the change made to the first of the id, and that view; `none` where there is
no view of the id. -/
def changeView (viewId : String) (change : SavedView → SavedView) :
    List SavedView → Option (SavedView × List SavedView)
  | [] => none
  | view :: rest =>
      if view.id = viewId then some (change view, change view :: rest)
      else (changeView viewId change rest).map fun found => (found.1, view :: found.2)

/-- What `update_my_view` assigns to a view. -/
def editView [PyText] (name : Option String) (query : Option JsonObject) (view : SavedView) :
    SavedView :=
  { view with
    name := (name.map PyText.strip).getD view.name
    query := query.getD view.query }

/-- `update_my_view` -/
def updateMyView [PyText] (userId viewId : String) (name : Option String)
    (query : Option JsonObject) : StoreM SavedView := do
  let users ← get
  let record ← recordOf users userId
  match changeView viewId (editView name query) (record.savedViews.getD []) with
  | none => throw (.http viewNotFound)
  | some (target, views) => do
      set (users.editFirst (hasId userId) (setViews views))
      return target

/-- `delete_my_view` -/
def deleteMyView (userId viewId : String) : StoreM Unit := do
  let users ← get
  let record ← recordOf users userId
  let views := record.savedViews.getD []
  if views.all fun view => view.id ≠ viewId then
    throw (.http viewNotFound)
  else
    set (users.editFirst (hasId userId) (setViews (views.filter fun view => view.id ≠ viewId)))

/-! ## On well-formed records -/

/-- Preferences and views are no part of what a record is indexed with. -/
theorem wellFormed_setPrefs {users : StoredUsers} (h : users.WellFormed) (userId : String)
    (prefs : UserPrefs) : (users.editFirst (hasId userId) (setPrefs prefs)).WellFormed := by
  refine wellFormed_editFirst ?_ h
  exact fun _ hrecord => hrecord

theorem wellFormed_setViews {users : StoredUsers} (h : users.WellFormed) (userId : String)
    (views : List SavedView) :
    (users.editFirst (hasId userId) (setViews views)).WellFormed := by
  refine wellFormed_editFirst ?_ h
  exact fun _ hrecord => hrecord

theorem served_savePrefs {users : StoredUsers} (h : users.WellFormed) (userId : String)
    (payload : UserPrefsUpdate) : Served (savePrefs users userId payload) fun _ => True := by
  refine (served_recordOf h userId).bind fun record _ => ?_
  refine (Keeps.set (wellFormed_setPrefs h userId _)).bind fun _ _ => ?_
  exact Keeps.pure trivial

theorem served_addView {users : StoredUsers} (h : users.WellFormed) (userId : String)
    (view : SavedView) : Served (addView users userId view) fun _ => True := by
  refine (served_recordOf h userId).bind fun record _ => ?_
  refine Keeps.ite (fun _ => Keeps.throw ⟨_, rfl⟩) fun _ => ?_
  refine (Keeps.set (wellFormed_setViews h userId _)).bind fun _ _ => ?_
  exact Keeps.pure trivial

theorem served_updateMyView [PyText] (userId viewId : String) (name : Option String)
    (query : Option JsonObject) :
    Served (updateMyView userId viewId name query) fun _ => True := by
  refine Keeps.get.bind fun users husers => ?_
  refine (served_recordOf husers userId).bind fun record _ => ?_
  split
  · exact Keeps.throw ⟨_, rfl⟩
  · refine (Keeps.set (wellFormed_setViews husers userId _)).bind fun _ _ => ?_
    exact Keeps.pure trivial

theorem served_deleteMyView (userId viewId : String) :
    Served (deleteMyView userId viewId) fun _ => True := by
  refine Keeps.get.bind fun users husers => ?_
  refine (served_recordOf husers userId).bind fun record _ => ?_
  refine Keeps.ite (fun _ => Keeps.throw ⟨_, rfl⟩) fun _ => ?_
  exact Keeps.set (wellFormed_setViews husers userId _)

/-! ## The record that is made up -/

/-- The user has a record, or is none whose record is made up. -/
def HasRecord (users : StoredUsers) (userId : String) : Prop :=
  isTacacsId userId = true → (users.findById userId).isSome

instance (users : StoredUsers) (userId : String) : Decidable (HasRecord users userId) :=
  inferInstanceAs (Decidable (_ → _))

theorem ensureShadowRecord_of_hasRecord {users : StoredUsers} {userId : String}
    (h : HasRecord users userId) : ensureShadowRecord users userId = users := by
  unfold ensureShadowRecord
  split
  · next hnone =>
      have hsome := h hnone.1
      rw [hnone.2] at hsome
      cases hsome
  · rfl

theorem not_hasRecord_iff {users : StoredUsers} {userId : String} :
    ¬ HasRecord users userId ↔ isTacacsId userId = true ∧ users.findById userId = none := by
  unfold HasRecord
  rw [Classical.not_imp, Option.not_isSome_iff_eq_none]

/-- Behind a list without the id, its record is the one that is found and edited. -/
theorem findById_append {users : StoredUsers} {userId : String}
    (h : users.findById userId = none) {record : StoredRecord} (hid : record.id = some userId) :
    findById (users ++ [record]) userId = some record := by
  unfold findById at h ⊢
  rw [List.find?_append, h, Option.none_or, List.find?_cons]
  simp [hasId, hid]

theorem editFirst_append {users : StoredUsers} {userId : String}
    (h : users.findById userId = none) {record : StoredRecord} (hid : record.id = some userId)
    (edit : StoredRecord → StoredRecord) :
    editFirst (hasId userId) edit (users ++ [record]) = users ++ [edit record] := by
  induction users with
  | nil => simp [editFirst, hasId, hid]
  | cons first rest ih =>
      unfold findById at h
      rw [List.find?_cons] at h
      split at h
      · cases h
      · next hskip =>
          rw [List.cons_append, editFirst, hskip]
          simp only [Bool.false_eq_true, if_false, List.cons_append, List.cons.injEq, true_and]
          exact ih h

/-- A list with a record that is made up is not well formed, whatever is assigned to its
preferences and views. -/
theorem not_wellFormed_append {users : StoredUsers} {record : StoredRecord}
    (h : record.username = none) : ¬ WellFormed (users ++ [record]) := by
  intro hall
  have hcomplete := (hall record (List.mem_append_right users (List.mem_singleton_self record))).2.1
  rw [h] at hcomplete
  cases hcomplete

theorem after_savePrefs {users : StoredUsers} {userId : String} {record : StoredRecord}
    (h : users.findById userId = some record) (payload : UserPrefsUpdate) (stored : StoredUsers) :
    after (savePrefs users userId payload) stored =
      users.editFirst (hasId userId) (setPrefs (payload.merge (record.prefs.getD {}))) := by
  unfold savePrefs recordOf
  rw [h]
  rfl

theorem after_addView {users : StoredUsers} {userId : String} {record : StoredRecord}
    (h : users.findById userId = some record) (hnone : record.savedViews = none)
    (view : SavedView) (stored : StoredUsers) :
    after (addView users userId view) stored =
      users.editFirst (hasId userId) (setViews [view]) := by
  unfold addView recordOf
  rw [h]
  simp only [pure_bind, hnone, Option.getD_none, List.nil_append]
  rfl

/-- A route on the record of a user keeps the records well formed exactly when no record is made up
for the user. -/
theorem wellFormed_ensured_iff {α : Type} {users : StoredUsers} (h : users.WellFormed)
    (userId : String) (route : StoredUsers → StoreM α)
    (hserved : Served (route users) fun _ => True)
    (hmade : users.findById userId = none → ∃ record : StoredRecord, record.username = none ∧
      after (route (users ++ [bareShadow userId])) users = users ++ [record]) :
    (after (route (ensureShadowRecord users userId)) users).WellFormed ↔
      HasRecord users userId := by
  constructor
  · intro hafter
    by_contra hnone
    obtain ⟨htacacs, hmissing⟩ := not_hasRecord_iff.mp hnone
    obtain ⟨record, hname, hsaved⟩ := hmade hmissing
    have hensured : ensureShadowRecord users userId = users ++ [bareShadow userId] :=
      if_pos ⟨htacacs, hmissing⟩
    rw [hensured, hsaved] at hafter
    exact not_wellFormed_append hname hafter
  · intro hrecord
    rw [ensureShadowRecord_of_hasRecord hrecord]
    exact hserved.after h

/-- Saving preferences. -/
theorem wellFormed_updateMyPrefs_iff {users : StoredUsers} (h : users.WellFormed)
    (userId : String) (payload : UserPrefsUpdate) :
    (after (updateMyPrefs userId payload) users).WellFormed ↔ HasRecord users userId := by
  refine wellFormed_ensured_iff h userId (fun users => savePrefs users userId payload)
    (served_savePrefs h userId payload) fun hmissing => ?_
  have hfound : findById (users ++ [bareShadow userId]) userId = some (bareShadow userId) :=
    findById_append hmissing rfl
  have hsaved := after_savePrefs hfound payload users
  rw [editFirst_append hmissing rfl] at hsaved
  exact ⟨_, rfl, hsaved⟩

/-- Adding a view: it is the first one of a record that is made up. -/
theorem wellFormed_createMyView_iff [PyText] {users : StoredUsers} (h : users.WellFormed)
    (userId name : String) (query : JsonObject) (viewId now : String) :
    (after (createMyView userId name query viewId now) users).WellFormed ↔
      HasRecord users userId := by
  let view : SavedView := { id := viewId, name := PyText.strip name, query, createdAt := now }
  refine wellFormed_ensured_iff h userId (fun users => addView users userId view)
    (served_addView h userId view) fun hmissing => ?_
  have hfound : findById (users ++ [bareShadow userId]) userId = some (bareShadow userId) :=
    findById_append hmissing rfl
  have hsaved := after_addView hfound rfl view users
  rw [editFirst_append hmissing rfl] at hsaved
  exact ⟨_, rfl, hsaved⟩

theorem httpOnly_recordOf (users : StoredUsers) (userId : String) :
    Keeps (fun _ => True) Fault.IsHttp (recordOf users userId) fun _ => True := by
  unfold recordOf
  split
  · exact Keeps.throw ⟨_, rfl⟩
  · exact Keeps.pure trivial

/-- Neither route raises `KeyError`, whatever the records lack. -/
theorem httpOnly_updateMyPrefs (userId : String) (payload : UserPrefsUpdate) :
    Keeps (fun _ => True) Fault.IsHttp (updateMyPrefs userId payload) fun _ => True := by
  refine Keeps.get.bind fun users _ => ?_
  refine (httpOnly_recordOf _ userId).bind fun record _ => ?_
  exact (Keeps.set trivial).bind fun _ _ => Keeps.pure trivial

theorem httpOnly_createMyView [PyText] (userId name : String) (query : JsonObject)
    (viewId now : String) :
    Keeps (fun _ => True) Fault.IsHttp (createMyView userId name query viewId now)
      fun _ => True := by
  refine Keeps.get.bind fun users _ => ?_
  refine (httpOnly_recordOf _ userId).bind fun record _ => ?_
  refine Keeps.ite (fun _ => Keeps.throw ⟨_, rfl⟩) fun _ => ?_
  exact (Keeps.set trivial).bind fun _ _ => Keeps.pure trivial

end Me

end IsePortal
