import IsePortal.Api.Tokens
import IsePortal.Platform.Json

/-!
# The records of `users.json` as they are stored

A stored record is a dictionary, any of whose keys may be missing, and the list may hold one id
twice. `record["key"]` raises `KeyError` where `record.get("key")` answers `None`: `getItem` is the
first, a field is the second. The list of a `Users` is `Users.stored`.
-/

namespace IsePortal

/-- `Literal["da", "en"]` -/
inductive Language where
  | da
  | en
  deriving DecidableEq

/-- `SavedView` -/
structure SavedView where
  id : String
  name : String
  query : JsonObject
  createdAt : String

/-- The keys of `prefs` that are set. -/
structure UserPrefs where
  language : Option Language := none
  colOrder : Option (List String) := none
  colVis : Option (List (String × Bool)) := none
  colWidths : Option (List (String × Int)) := none
  treeLayout : Option JsonObject := none

/-- One dictionary of `users.json`; `none` is a key it does not have, for `lastLogin` also the
value `None`. -/
structure StoredRecord where
  id : Option String := none
  username : Option String := none
  passwordHash : Option String := none
  role : Option Role := none
  userType : Option UserType := none
  createdAt : Option String := none
  lastLogin : Option String := none
  tokenGen : Option Nat := none
  assignedEndpointRoles : Option (List String) := none
  assignedTemplates : Option (List String) := none
  savedViews : Option (List SavedView) := none
  prefs : Option UserPrefs := none

/-- What `load_users` returns. -/
abbrev StoredUsers := List StoredRecord

/-- What ends a call: the `KeyError` of a missing key, an `HTTPException`, or another exception. -/
inductive Fault where
  | keyError (key : String)
  | http (raised : HttpError)
  | other (raised : PyError)
  deriving DecidableEq

/-- The fault is an answer of the route. -/
def Fault.IsHttp (fault : Fault) : Prop := ∃ raised, fault = .http raised

/-- `record[key]`, where the record has this under the key. -/
def getItem {α : Type} (key : String) (stored : Option α) : Except Fault α :=
  match stored with
  | none => .error (.keyError key)
  | some value => .ok value

/-- `User`, as `_to_public` builds it. -/
structure PublicUser extends CurrentUser where
  userType : UserType

/-- `_to_public` -/
def StoredRecord.toPublic (record : StoredRecord) : Except Fault PublicUser := do
  let id ← getItem "id" record.id
  let username ← getItem "username" record.username
  let role ← getItem "role" record.role
  let createdAt ← getItem "created_at" record.createdAt
  return {
    id, username, role, createdAt
    userType := record.userType.getD .user
    lastLogin := record.lastLogin
    assignedEndpointRoles := record.assignedEndpointRoles.getD []
    assignedTemplates := record.assignedTemplates.getD [] }

/-- The record has what its readers index it with. -/
def StoredRecord.Complete (record : StoredRecord) : Prop :=
  record.id.isSome ∧ record.username.isSome ∧ record.role.isSome ∧ record.createdAt.isSome

instance (record : StoredRecord) : Decidable record.Complete :=
  inferInstanceAs (Decidable (_ ∧ _ ∧ _ ∧ _))

/-- A record can be shown exactly when it is complete. -/
theorem StoredRecord.toPublic_ok_iff {record : StoredRecord} :
    (∃ user, record.toPublic = .ok user) ↔ record.Complete := by
  unfold toPublic Complete
  cases record.id with
  | none => simp [getItem, bind, Except.bind]
  | some id =>
      cases record.username with
      | none => simp [getItem, bind, Except.bind]
      | some username =>
          cases record.role with
          | none => simp [getItem, bind, Except.bind]
          | some role =>
              cases record.createdAt with
              | none => simp [getItem, bind, Except.bind]
              | some createdAt => simp [getItem, bind, Except.bind, pure, Except.pure]

namespace StoredUsers

/-- `u.get("id") == user_id` -/
def hasId (userId : String) (record : StoredRecord) : Bool := record.id = some userId

/-- `find_by_id` -/
def findById (users : StoredUsers) (userId : String) : Option StoredRecord :=
  users.find? (hasId userId)

/-- `u.get("username", "").lower() == lowered` -/
def hasUsername [PyText] (username : String) (record : StoredRecord) : Bool :=
  PyText.lower (record.username.getD "") = PyText.lower username

/-- `find_by_username` -/
def findByUsername [PyText] (users : StoredUsers) (username : String) : Option StoredRecord :=
  users.find? (hasUsername username)

/-- Assign to keys of the first record of the kind; it is the one the `find_by_…` return. -/
def editFirst (wanted : StoredRecord → Bool) (edit : StoredRecord → StoredRecord) :
    StoredUsers → StoredUsers
  | [] => []
  | record :: rest =>
      if wanted record then edit record :: rest else record :: editFirst wanted edit rest

/-- `increment_token_gen` -/
def incrementTokenGen (users : StoredUsers) (userId : String) : StoredUsers :=
  users.editFirst (hasId userId) fun record =>
    { record with tokenGen := some (record.tokenGen.getD 0 + 1) }

/-- Every record has what its readers index it with. -/
def WellFormed (users : StoredUsers) : Prop := ∀ record ∈ users, record.Complete

instance (users : StoredUsers) : Decidable users.WellFormed :=
  inferInstanceAs (Decidable (∀ record ∈ users, record.Complete))

theorem wellFormed_append {users : StoredUsers} {record : StoredRecord}
    (h : users.WellFormed) (hrecord : record.Complete) : WellFormed (users ++ [record]) := by
  intro other hother
  rcases List.mem_append.mp hother with hold | hnew
  · exact h other hold
  · rw [List.mem_singleton.mp hnew]
    exact hrecord

theorem wellFormed_editFirst {wanted : StoredRecord → Bool}
    {edit : StoredRecord → StoredRecord} (hedit : ∀ record, record.Complete →
      (edit record).Complete) {users : StoredUsers} (h : users.WellFormed) :
    WellFormed (users.editFirst wanted edit) := by
  induction users with
  | nil => exact h
  | cons record rest ih =>
      obtain ⟨hrecord, hrest⟩ := List.forall_mem_cons.mp h
      rw [editFirst]
      split
      · exact List.forall_mem_cons.mpr ⟨hedit record hrecord, hrest⟩
      · exact List.forall_mem_cons.mpr ⟨hrecord, ih hrest⟩

theorem wellFormed_find {users : StoredUsers} (h : users.WellFormed)
    {wanted : StoredRecord → Bool} {record : StoredRecord}
    (hfound : users.find? wanted = some record) : record.Complete :=
  h record (List.mem_of_find?_eq_some hfound)

end StoredUsers

/-! ## The records of the typed store -/

/-- The dictionary of a record; it is shown to nobody what its preferences and views are. -/
def UserRecord.stored (userId : String) (record : UserRecord) : StoredRecord where
  id := some userId
  username := some record.username
  passwordHash := some record.passwordHash
  role := some record.role
  userType := record.userType
  createdAt := some record.createdAt
  lastLogin := record.lastLogin
  tokenGen := record.tokenGen
  assignedEndpointRoles := record.assignedEndpointRoles
  assignedTemplates := record.assignedTemplates

/-- The list of a store. -/
def Users.stored (users : Users) : StoredUsers :=
  users.entries.map fun entry => entry.2.stored entry.1

end IsePortal
