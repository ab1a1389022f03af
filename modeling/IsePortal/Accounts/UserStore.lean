import IsePortal.Library.Dict
import IsePortal.Platform.Text

/-!
# The user store

The records of `users.json` (`app/core/user_store.py`), in file order and by id; ids are drawn
at random or carry the prefix `tacacs:`, so none occurs twice. Preferences and saved views are
left out, only the pages of a user read them.

Every operation of the portal changes some fields of one record, creates one or deletes one.
`Change` is that, apart from the list it is applied to: an operation saves the list it loaded
with its change applied.
-/

namespace IsePortal

open Library

/-- `Role` -/
inductive Role where
  | admin
  | editor
  | editorPsk
  | viewer
  | registrant
  | registrantTemplet
  deriving DecidableEq

/-- `UserType` -/
inductive UserType where
  | user
  | operator
  | tacacsShadow
  deriving DecidableEq

/-- One record of `users.json`. `none` is a key the record does not have, for `lastLogin` also
the value `None`. -/
structure UserRecord where
  username : String
  passwordHash : String
  role : Role
  userType : Option UserType := none
  createdAt : String
  lastLogin : Option String := none
  tokenGen : Option Nat := none
  assignedEndpointRoles : Option (List String) := none
  assignedTemplates : Option (List String) := none
  deriving DecidableEq

/-- The content of `users.json`, by id. -/
abbrev Users := Dict String UserRecord

/-- `record.get("user_type", "user")` -/
def UserRecord.type (record : UserRecord) : UserType := record.userType.getD .user

namespace Users

/-- `find_by_id` -/
def findById (users : Users) (userId : String) : Option UserRecord := users.get? userId

/-- `find_by_username`: the first record with the name, whatever its case. -/
def findByUsername [PyText] (users : Users) (username : String) : Option (String × UserRecord) :=
  users.entries.find? fun entry =>
    PyText.lower entry.2.username = PyText.lower username

end Users

/-! ## What an operation changes -/

/-- New values for some fields of a record; `bumpTokenGen` is `increment_token_gen`. -/
structure FieldEdits where
  role : Option Role := none
  userType : Option UserType := none
  passwordHash : Option String := none
  bumpTokenGen : Bool := false
  assignedEndpointRoles : Option (List String) := none
  assignedTemplates : Option (List String) := none
  lastLogin : Option String := none
  deriving DecidableEq

/-- Set the fields that are edited. -/
def FieldEdits.apply (edits : FieldEdits) (record : UserRecord) : UserRecord where
  username := record.username
  passwordHash := edits.passwordHash.getD record.passwordHash
  role := edits.role.getD record.role
  userType := edits.userType.or record.userType
  createdAt := record.createdAt
  lastLogin := edits.lastLogin.or record.lastLogin
  tokenGen := if edits.bumpTokenGen then some (record.tokenGen.getD 0 + 1) else record.tokenGen
  assignedEndpointRoles := edits.assignedEndpointRoles.or record.assignedEndpointRoles
  assignedTemplates := edits.assignedTemplates.or record.assignedTemplates

/-- What one operation changes in the list it loaded. -/
inductive Change where
  /-- Some fields of one record. -/
  | edit (userId : String) (edits : FieldEdits)
  /-- A record is appended. -/
  | create (userId : String) (record : UserRecord)
  /-- A record is dropped. -/
  | delete (userId : String)
  /-- Some fields of one record, or the whole record where there is none. -/
  | upsert (userId : String) (edits : FieldEdits) (fresh : UserRecord)
  deriving DecidableEq

/-- The record a change is about. -/
def Change.target : Change → String
  | .edit userId _ => userId
  | .create userId _ => userId
  | .delete userId => userId
  | .upsert userId _ _ => userId

/-- The list with the change. -/
def Change.apply (change : Change) (users : Users) : Users :=
  match change with
  | .edit userId edits => users.modify userId edits.apply
  | .create userId record => users.set userId record
  | .delete userId => users.erase userId
  | .upsert userId edits fresh =>
      match users.findById userId with
      | none => users.set userId fresh
      | some record => users.set userId (edits.apply record)

/-- The record a change leaves under an id. -/
def Change.recordAt (change : Change) (id : String) (record : Option UserRecord) :
    Option UserRecord :=
  match change with
  | .edit userId edits => if id = userId then record.map edits.apply else record
  | .create userId created => if id = userId then some created else record
  | .delete userId => if id = userId then none else record
  | .upsert userId edits fresh =>
      if id = userId then some ((record.map edits.apply).getD fresh) else record

/-- A change acts on every record by itself. -/
theorem Change.get?_apply (change : Change) (users : Users) (id : String) :
    (change.apply users).get? id = change.recordAt id (users.get? id) := by
  cases change with
  | edit userId edits =>
      simp only [apply, recordAt, Dict.get?_modify]
      split
      · simp [*]
      · rfl
  | create userId record => exact Dict.get?_set ..
  | delete userId => exact Dict.get?_erase ..
  | upsert userId edits fresh =>
      simp only [apply, recordAt, Users.findById]
      cases hrecord : users.get? userId with
      | none =>
          rw [Dict.get?_set]
          split
          · simp [*]
          · rfl
      | some record =>
          rw [Dict.get?_set]
          split
          · simp [*]
          · rfl

/-- A change leaves every other record alone. -/
theorem Change.get?_apply_ne (change : Change) (users : Users) {userId : String}
    (hne : userId ≠ change.target) : (change.apply users).get? userId = users.get? userId := by
  rw [Change.get?_apply]
  cases change <;> exact if_neg hne

end IsePortal
