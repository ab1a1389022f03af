import IsePortal.Accounts.UserService
import IsePortal.Library.Runs

/-!
# Concurrent writers of the user store

Every `transaction()` block is one step, and so is every `load_users()` outside a block. A login
loads the list, waits for TACACS, and later saves the list it holds; `create_user` saves the
list of its first block once more in a second one. The ghost field `ledger` is the list to
which each operation has only applied what it itself changes. `no_lost_update_iff` says which
saves of a held list keep `users.json` equal to it.
-/

namespace IsePortal

open Library

/-- What an operation holds between two of its steps. -/
inductive HeldList where
  /-- `login` after `load_users()`. -/
  | login (loaded : Users) (username password : String)
  /-- `create_user` after its first block. -/
  | creation (saved : Users) (newId username : String)
  /-- `setup_first_admin` after `setup_required()`. -/
  | setup

/-- `users.json`, the lists held by running operations, and the ghost list of own changes. -/
structure UserPortal where
  file : Users
  held : Dict Nat HeldList := Dict.empty
  ledger : Users

/-- The steps of all operations; `task` names the operation that goes on. -/
inductive UserStep where
  | setEndpointRoles (catalog : List String) (userId : String) (roles : List String)
  | createUser (task : Nat) (tacacsMode : Bool) (payload : UserCreate) (newId newHash now : String)
  /-- The second block of `create_user`, where the catalogue has taken the name. -/
  | assignOwnRole (task : Nat)
  | updateUser (userId : String) (payload : UserUpdate) (newHash : String)
  | setUserTemplates (templates : List String) (userId : String) (templateIds : List String)
  | deleteUser (userId requesterId : String)
  | changePassword (userId : String) (payload : ChangePasswordRequest) (newHash : String)
  | setupRequired (task : Nat)
  | setupFirstAdmin (task : Nat) (username newId newHash now : String)
  | revokeTokens (userId : String)
  | loginLoad (task : Nat) (username password : String)
  | loginSave (task : Nat) (cfg : AuthConfig) (tacacs : TacacsAuthResult) (now : String)
  /-- An operation ends without a further save. -/
  | abandon (task : Nat)

/-- A fresh operation starts holding a list. -/
def UserPortal.hold (portal : UserPortal) (task : Nat) (list : HeldList) : Option UserPortal :=
  if portal.held.get? task = none then some { portal with held := portal.held.set task list }
  else none

/-- A block that loads, changes and saves. -/
def UserPortal.transact (portal : UserPortal) (answer : Except HttpError Change) : UserPortal :=
  match answer with
  | .error _ => portal
  | .ok change =>
      { portal with file := change.apply portal.file, ledger := change.apply portal.ledger }

/-- A block that only saves: the change is applied to the list the operation holds. -/
def UserPortal.saveHeld (portal : UserPortal) (task : Nat) (loaded : Users) (change : Change) :
    UserPortal where
  file := change.apply loaded
  held := portal.held.erase task
  ledger := change.apply portal.ledger

namespace UserPortal

section Steps

variable [PyText]

/-- The list a step saves without loading it in the same block, with the change it makes. -/
def staleSave (verify : String → String → Bool) (portal : UserPortal) (step : UserStep) :
    Option (Users × Change) :=
  match step with
  | .assignOwnRole task =>
      match portal.held.get? task with
      | some (.creation saved newId username) => some (saved, assignOwnRole newId username)
      | _ => none
  | .loginSave task cfg tacacs now =>
      match portal.held.get? task with
      | some (.login loaded username password) =>
          match login cfg tacacs verify loaded username password now with
          | .success change => some (loaded, change)
          | _ => none
      | _ => none
  | _ => none

/-- One step; `none` is a step no operation is ready for. -/
def step (verify : String → String → Bool) (portal : UserPortal) (label : UserStep) :
    Option UserPortal :=
  match label with
  | .setEndpointRoles catalog userId roles =>
      some (portal.transact (setEndpointRoles catalog portal.file userId roles))
  | .createUser task tacacsMode payload newId newHash now =>
      match createUser tacacsMode portal.file payload newId newHash now with
      | .error _ => some portal
      | .ok change =>
          (portal.transact (.ok change)).hold task
            (.creation (change.apply portal.file) newId payload.username)
  | .assignOwnRole task =>
      match portal.held.get? task with
      | some (.creation saved newId username) =>
          some (portal.saveHeld task saved (assignOwnRole newId username))
      | _ => none
  | .updateUser userId payload newHash =>
      some (portal.transact (updateUser portal.file userId payload newHash))
  | .setUserTemplates templates userId templateIds =>
      some (portal.transact (setUserTemplates templates portal.file userId templateIds))
  | .deleteUser userId requesterId =>
      some (portal.transact (deleteUser portal.file userId requesterId))
  | .changePassword userId payload newHash =>
      some (portal.transact (changePassword verify portal.file userId payload newHash))
  | .setupRequired task =>
      if setupRequired portal.file then portal.hold task .setup else some portal
  | .setupFirstAdmin task username newId newHash now =>
      match portal.held.get? task with
      | some .setup =>
          some { portal.transact (.ok (setupFirstAdmin username newId newHash now)) with
            held := portal.held.erase task }
      | _ => none
  | .revokeTokens userId => some (portal.transact (.ok (revokeTokens userId)))
  | .loginLoad task username password => portal.hold task (.login portal.file username password)
  | .loginSave task cfg tacacs now =>
      match portal.held.get? task with
      | some (.login loaded username password) =>
          match login cfg tacacs verify loaded username password now with
          | .success change => some (portal.saveHeld task loaded change)
          | _ => some { portal with held := portal.held.erase task }
      | _ => none
  | .abandon task => some { portal with held := portal.held.erase task }

end Steps

end UserPortal

/-! ## Equal up to the login time -/

/-- The record without its last login, which the login may lose by design. -/
def UserRecord.core (record : UserRecord) : UserRecord := { record with lastLogin := none }

/-- The two lists have the same records, up to the last logins. -/
def Users.Same (users other : Users) : Prop :=
  ∀ id, (users.get? id).map UserRecord.core = (other.get? id).map UserRecord.core

namespace Users

theorem Same.refl (users : Users) : Same users users := fun _ => rfl

theorem Same.symm {users other : Users} (h : Same users other) : Same other users :=
  fun id => (h id).symm

theorem Same.trans {users other third : Users} (h : Same users other) (h' : Same other third) :
    Same users third :=
  fun id => (h id).trans (h' id)

end Users

/-- What an edit leaves apart from the last login depends on nothing else. -/
theorem FieldEdits.core_apply (edits : FieldEdits) {record other : UserRecord}
    (h : record.core = other.core) : (edits.apply record).core = (edits.apply other).core := by
  obtain ⟨username, passwordHash, role, userType, createdAt, lastLogin, tokenGen, endpointRoles,
    templates⟩ := record
  obtain ⟨username', passwordHash', role', userType', createdAt', lastLogin', tokenGen',
    endpointRoles', templates'⟩ := other
  simp only [UserRecord.core, UserRecord.mk.injEq, true_and] at h
  obtain ⟨rfl, rfl, rfl, rfl, rfl, rfl, rfl, rfl⟩ := h
  rfl

theorem FieldEdits.map_core (edits : FieldEdits) {record other : Option UserRecord}
    (h : record.map UserRecord.core = other.map UserRecord.core) :
    (record.map edits.apply).map UserRecord.core = (other.map edits.apply).map UserRecord.core := by
  cases record with
  | none =>
      have hother : other = none := by simpa using h.symm
      rw [hother]
  | some record =>
      rw [Option.map_some] at h
      obtain ⟨record', hother, hcore⟩ := Option.map_eq_some_iff.mp h.symm
      rw [hother]
      exact congrArg some (edits.core_apply hcore.symm)

theorem UserRecord.core_getD (record : Option UserRecord) (fresh : UserRecord) :
    (record.getD fresh).core = (record.map UserRecord.core).getD fresh.core := by
  cases record with
  | none => rfl
  | some record => rfl

/-- A change does the same to lists with the same records. -/
theorem Change.apply_same (change : Change) {users other : Users} (h : users.Same other) :
    Users.Same (change.apply users) (change.apply other) := by
  intro id
  rw [Change.get?_apply, Change.get?_apply]
  have hid := h id
  cases change with
  | edit userId edits =>
      simp only [recordAt]
      split
      · exact edits.map_core hid
      · exact hid
  | create userId record =>
      simp only [recordAt]
      split
      · rfl
      · exact hid
  | delete userId =>
      simp only [recordAt]
      split
      · rfl
      · exact hid
  | upsert userId edits fresh =>
      simp only [recordAt]
      split
      · rw [Option.map_some, Option.map_some, UserRecord.core_getD, UserRecord.core_getD,
          edits.map_core hid]
      · exact hid

namespace UserPortal

section Property

variable [PyText]

omit [PyText] in
/-- `users.json` is the list every operation has only applied its own change to. -/
def NoLostUpdate (portal : UserPortal) : Prop := portal.file.Same portal.ledger

/-- Where a step saves a list it has held, `users.json` differs from that list at most in the
last logins and in what the step itself sets. -/
def StaleSaveFits (verify : String → String → Bool) (portal : UserPortal) (label : UserStep) :
    Prop :=
  ∀ loaded change, portal.staleSave verify label = some (loaded, change) →
    (change.apply loaded).Same (change.apply portal.file)

/-- A block that loads what it saves meets the condition. -/
theorem staleSaveFits_of_none {verify : String → String → Bool} {portal : UserPortal}
    {label : UserStep} (h : portal.staleSave verify label = none) :
    portal.StaleSaveFits verify label := by
  intro loaded change hsave
  rw [h] at hsave
  cases hsave

omit [PyText] in
theorem noLostUpdate_transact {portal : UserPortal} (h : portal.NoLostUpdate)
    (answer : Except HttpError Change) : (portal.transact answer).NoLostUpdate := by
  cases answer with
  | error raised => exact h
  | ok change => exact change.apply_same h

omit [PyText] in
theorem noLostUpdate_hold {portal next : UserPortal} {task : Nat} {list : HeldList}
    (h : portal.NoLostUpdate) (hhold : portal.hold task list = some next) :
    next.NoLostUpdate := by
  unfold hold at hhold
  split at hhold
  · cases hhold
    exact h
  · cases hhold

omit [PyText] in
/-- Saving a held list loses nothing exactly when the file has not moved under it. -/
theorem noLostUpdate_saveHeld {portal : UserPortal} (h : portal.NoLostUpdate) (task : Nat)
    (loaded : Users) (change : Change) :
    (portal.saveHeld task loaded change).NoLostUpdate ↔
      (change.apply loaded).Same (change.apply portal.file) := by
  have hown := change.apply_same h
  constructor
  · intro hsaved
    exact Users.Same.trans hsaved hown.symm
  · intro hfits
    exact Users.Same.trans hfits hown

/-- One step loses no update exactly under the condition. -/
theorem noLostUpdate_step {verify : String → String → Bool} {portal next : UserPortal}
    {label : UserStep} (hstep : portal.step verify label = some next)
    (h : portal.NoLostUpdate) : next.NoLostUpdate ↔ portal.StaleSaveFits verify label := by
  cases label with
  | setEndpointRoles catalog userId roles =>
      cases hstep
      exact iff_of_true (noLostUpdate_transact h _) (staleSaveFits_of_none rfl)
  | createUser task tacacsMode payload newId newHash now =>
      refine iff_of_true ?_ (staleSaveFits_of_none rfl)
      simp only [step] at hstep
      split at hstep
      · cases hstep
        exact h
      · exact noLostUpdate_hold (noLostUpdate_transact h _) hstep
  | assignOwnRole task =>
      -- one of the two steps that save a list from an earlier step
      simp only [step] at hstep
      split at hstep
      · rename_i saved newId username hheld
        cases hstep
        rw [noLostUpdate_saveHeld h]
        simp [StaleSaveFits, staleSave, hheld]
      · cases hstep
  | updateUser userId payload newHash =>
      cases hstep
      exact iff_of_true (noLostUpdate_transact h _) (staleSaveFits_of_none rfl)
  | setUserTemplates templates userId templateIds =>
      cases hstep
      exact iff_of_true (noLostUpdate_transact h _) (staleSaveFits_of_none rfl)
  | deleteUser userId requesterId =>
      cases hstep
      exact iff_of_true (noLostUpdate_transact h _) (staleSaveFits_of_none rfl)
  | changePassword userId payload newHash =>
      cases hstep
      exact iff_of_true (noLostUpdate_transact h _) (staleSaveFits_of_none rfl)
  | setupRequired task =>
      refine iff_of_true ?_ (staleSaveFits_of_none rfl)
      simp only [step] at hstep
      split at hstep
      · exact noLostUpdate_hold h hstep
      · cases hstep
        exact h
  | setupFirstAdmin task username newId newHash now =>
      refine iff_of_true ?_ (staleSaveFits_of_none rfl)
      simp only [step] at hstep
      split at hstep
      · cases hstep
        exact noLostUpdate_transact h (.ok (setupFirstAdmin username newId newHash now))
      · cases hstep
  | revokeTokens userId =>
      cases hstep
      exact iff_of_true (noLostUpdate_transact h _) (staleSaveFits_of_none rfl)
  | loginLoad task username password =>
      exact iff_of_true (noLostUpdate_hold h hstep) (staleSaveFits_of_none rfl)
  | loginSave task cfg tacacs now =>
      simp only [step] at hstep
      split at hstep
      · rename_i loaded username password hheld
        split at hstep
        · rename_i change hverdict
          cases hstep
          rw [noLostUpdate_saveHeld h]
          simp [StaleSaveFits, staleSave, hheld, hverdict]
        · -- a login that fails saves nothing
          rename_i verdict hverdict
          cases hstep
          refine iff_of_true h ?_
          intro saved change hsave
          simp only [staleSave, hheld] at hsave
          cases hsave
      · cases hstep
  | abandon task =>
      cases hstep
      exact iff_of_true h (staleSaveFits_of_none rfl)

omit [PyText] in
/-- Before the first step: no list is held, and nothing has been changed yet. -/
def start (users : Users) : UserPortal where
  file := users
  ledger := users

/-- In every interleaving, from any users, no committed change is lost in any state exactly when
every save of a held list fits. -/
theorem no_lost_update_iff (verify : String → String → Bool) (users : Users)
    (labels : List UserStep) :
    Always (step verify) NoLostUpdate (start users) labels ↔
      Guarded (step verify) (StaleSaveFits verify) (start users) labels :=
  always_iff_guarded (I := fun _ => True) (fun _ _ _ _ _ => trivial)
    (fun _ _ _ hstep _ h => noLostUpdate_step hstep h) trivial (Users.Same.refl users)

end Property

section SlowLogin

local instance slowLoginText : PyText := asciiText

/-- An admin and a viewer. -/
def adminAndViewer : Users :=
  (Dict.empty.set "u-1"
    { username := "alice", passwordHash := "Alice12345", role := .admin, createdAt := "" }).set
    "u-2" { username := "bob", passwordHash := "Bob1234567", role := .viewer, createdAt := "" }

/-- While the login of the admin is on its way, the admin deletes the viewer. -/
def deletionDuringLogin : List UserStep :=
  [.loginLoad 1 "alice" "Alice12345", .deleteUser "u-2" "u-1",
    .loginSave 1 {} { success := false } "2026-01-01T12:00:00Z"]

/-- The login saves the list it loaded before, and the deleted viewer is back. -/
theorem login_resurrects_deleted_user :
    ((run (step (· == ·)) (start adminAndViewer) deletionDuringLogin).map fun portal =>
        (portal.file.keys, portal.ledger.keys)) = some (["u-1", "u-2"], ["u-1"]) ∧
    ¬ Always (step (· == ·)) NoLostUpdate (start adminAndViewer) deletionDuringLogin := by
  have hrun : (run (step (· == ·)) (start adminAndViewer) deletionDuringLogin).map
      (fun portal => (portal.file.keys, portal.ledger.keys)) = some (["u-1", "u-2"], ["u-1"]) := by
    decide
  refine ⟨hrun, fun halways => ?_⟩
  obtain ⟨final, hfinal, hkeys⟩ := Option.map_eq_some_iff.mp hrun
  simp only [Prod.mk.injEq] at hkeys
  have hsame := halways.last hfinal "u-2"
  have hgone : final.ledger.get? "u-2" = none := by
    rw [Dict.get?_eq_none_iff, hkeys.2]
    decide
  have hback : "u-2" ∈ final.file.keys := by
    rw [hkeys.1]
    decide
  obtain ⟨record, hrecord⟩ := Dict.mem_keys_iff.mp hback
  rw [hgone, hrecord] at hsame
  cases hsame

end SlowLogin

end UserPortal

end IsePortal
