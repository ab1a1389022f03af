import IsePortal.Accounts.TypedStore
import IsePortal.Accounts.WellFormedUsers

/-!
# Runs on the typed store

A run of calls on `users.json` is a run of the typed operations, as long as its ids are new and no
record is made up: `storedAs_run`. The pages of a user and the reads leave the typed store as it is.
-/

namespace IsePortal

open Library StoredUsers StoredService Me

/-- The store after an operation; one that raises leaves it. -/
def Users.after (users : Users) : Except HttpError Users → Users
  | .ok changed => changed
  | .error _ => users

namespace UserOp

/-- The store after the call. -/
def onStore [PyText] (verify : String → String → Bool) (users : Users) : UserOp → Users
  | .setupFirstAdmin username newId newHash now _ =>
      users.after (if setupRequired users then
        .ok ((IsePortal.setupFirstAdmin username newId newHash now).apply users)
      else .error ⟨400, "Opsætning er allerede gennemført"⟩)
  | .createUser tacacsMode roleEnsured payload newId newHash now =>
      users.after ((saved users
        (IsePortal.createUser tacacsMode users payload newId newHash now)).map fun created =>
          if roleEnsured then (assignOwnRole newId payload.username).apply created else created)
  | .updateUser userId payload newHash =>
      users.after (saved users (IsePortal.updateUser users userId payload newHash))
  | .setEndpointRoles catalog userId roles =>
      users.after (saved users (IsePortal.setEndpointRoles catalog users userId roles))
  | .setUserTemplates templates userId templateIds =>
      users.after (saved users (IsePortal.setUserTemplates templates users userId templateIds))
  | .deleteUser userId requesterId =>
      users.after (saved users (IsePortal.deleteUser users userId requesterId))
  | .login cfg tacacs locked username password now _ =>
      users.after (loginSaved locked users
        (IsePortal.login cfg tacacs verify users username password now))
  | .revokeTokens userId => (IsePortal.revokeTokens userId).apply users
  | _ => users

/-- A new user has a new id, and no record is made up. -/
def Fits (users : Users) : UserOp → Prop
  | .createUser _ _ _ newId _ _ => newId ∉ users.keys
  | .updateMyPrefs userId _ => isTacacsId userId = true → (users.findById userId).isSome
  | .createMyView userId _ _ _ _ => isTacacsId userId = true → (users.findById userId).isSome
  | _ => True

end UserOp

/-- What a call leaves that performs an operation. -/
theorem Performs.after {α : Type} {call : StoreM α} {users : Users}
    {outcome : Except HttpError Users} (h : Performs call users outcome) {records : StoredUsers}
    (hstored : users.StoredAs records) :
    (users.after outcome).StoredAs (after (do let _ ← call) records) := by
  have hyields := h records hstored
  rw [after_discard]
  unfold Library.after
  cases outcome with
  | error raised =>
      rw [show call.run records = _ from hyields]
      exact hstored
  | ok changed =>
      obtain ⟨value, next, hrun, hnext⟩ := hyields
      rw [hrun]
      exact hnext

namespace StoredService

variable {users : Users} {records : StoredUsers}

/-- The calls that leave the store also leave its dictionaries, apart from preferences and views. -/
def KeepsStore {α : Type} (users : Users) (call : StoreM α) : Prop :=
  Keeps users.StoredAs (fun _ => True) call fun _ => True

theorem KeepsStore.after {α : Type} {call : StoreM α} (h : KeepsStore users call)
    (hstored : users.StoredAs records) : users.StoredAs (after (do let _ ← call) records) := by
  rw [after_discard]
  exact Keeps.after h hstored

theorem keepsStore_attempt {α : Type} (computed : Except Fault α) :
    KeepsStore users (attempt computed) := by
  cases computed with
  | error fault => exact Keeps.throw trivial
  | ok value => exact Keeps.pure trivial

theorem keepsStore_recordOf (records : StoredUsers) (userId : String) :
    KeepsStore users (recordOf records userId) := by
  unfold recordOf
  split
  · exact Keeps.throw trivial
  · exact Keeps.pure trivial

/-- An edit of preferences and views leaves the records. -/
theorem storesRecord_editPages {entries : List (String × UserRecord)}
    (h : List.Forall₂ StoresRecord records entries) (wanted : StoredRecord → Bool)
    {edit : StoredRecord → StoredRecord}
    (hedit : ∀ stored entry, StoresRecord stored entry → StoresRecord (edit stored) entry) :
    List.Forall₂ StoresRecord (records.editFirst wanted edit) entries := by
  induction h with
  | nil => exact .nil
  | @cons stored entry rest others hhead htail ih =>
      rw [editFirst]
      split
      · exact .cons (hedit stored entry hhead) htail
      · exact .cons hhead ih

theorem storedAs_setPrefs (h : users.StoredAs records) (userId : String) (prefs : UserPrefs) :
    users.StoredAs (records.editFirst (hasId userId) (setPrefs prefs)) := by
  refine storesRecord_editPages h _ ?_
  rintro _ entry ⟨views, old, rfl⟩
  exact ⟨views, some prefs, rfl⟩

theorem storedAs_setViews (h : users.StoredAs records) (userId : String)
    (views : List SavedView) :
    users.StoredAs (records.editFirst (hasId userId) (setViews views)) := by
  refine storesRecord_editPages h _ ?_
  rintro _ entry ⟨old, prefs, rfl⟩
  exact ⟨some views, prefs, rfl⟩

theorem hasRecord_of_storedAs (h : users.StoredAs records) {userId : String}
    (hmade : isTacacsId userId = true → (users.findById userId).isSome) :
    HasRecord records userId := by
  intro htacacs
  rw [isSome_of_rel (h.findById userId), Option.isSome_map]
  exact hmade htacacs

theorem keepsStore_updateMyPrefs (userId : String) (payload : UserPrefsUpdate)
    (hmade : isTacacsId userId = true → (users.findById userId).isSome) :
    KeepsStore users (updateMyPrefs userId payload) := by
  refine Keeps.get.bind fun records h => ?_
  rw [ensureShadowRecord_of_hasRecord (hasRecord_of_storedAs h hmade)]
  refine (keepsStore_recordOf records userId).bind fun record _ => ?_
  refine (Keeps.set (storedAs_setPrefs h userId _)).bind fun _ _ => ?_
  exact Keeps.pure trivial

theorem keepsStore_createMyView [PyText] (userId name : String) (query : JsonObject)
    (viewId now : String) (hmade : isTacacsId userId = true → (users.findById userId).isSome) :
    KeepsStore users (createMyView userId name query viewId now) := by
  refine Keeps.get.bind fun records h => ?_
  rw [ensureShadowRecord_of_hasRecord (hasRecord_of_storedAs h hmade)]
  refine (keepsStore_recordOf records userId).bind fun record _ => ?_
  refine Keeps.ite (fun _ => Keeps.throw trivial) fun _ => ?_
  refine (Keeps.set (storedAs_setViews h userId _)).bind fun _ _ => ?_
  exact Keeps.pure trivial

theorem keepsStore_updateMyView [PyText] (userId viewId : String) (name : Option String)
    (query : Option JsonObject) : KeepsStore users (updateMyView userId viewId name query) := by
  refine Keeps.get.bind fun records h => ?_
  refine (keepsStore_recordOf records userId).bind fun record _ => ?_
  split
  · exact Keeps.throw trivial
  · refine (Keeps.set (storedAs_setViews h userId _)).bind fun _ _ => ?_
    exact Keeps.pure trivial

theorem keepsStore_deleteMyView (userId viewId : String) :
    KeepsStore users (deleteMyView userId viewId) := by
  refine Keeps.get.bind fun records h => ?_
  refine (keepsStore_recordOf records userId).bind fun record _ => ?_
  refine Keeps.ite (fun _ => Keeps.throw trivial) fun _ => ?_
  exact Keeps.set (storedAs_setViews h userId _)

theorem keepsStore_listUsers : KeepsStore users listUsers :=
  Keeps.get.bind fun _ _ => keepsStore_attempt _

theorem keepsStore_getUser (userId : String) : KeepsStore users (getUser userId) := by
  refine Keeps.get.bind fun records _ => ?_
  exact (keepsStore_recordOf records userId).bind fun _ _ => keepsStore_attempt _

variable [PyText]

/-- One call on the dictionaries is one operation on the store. -/
theorem storedAs_perform (verify : String → String → Bool) {op : UserOp} (hfits : op.Fits users)
    (h : users.StoredAs records) :
    (op.onStore verify users).StoredAs (after (op.perform verify) records) := by
  cases op with
  | setupFirstAdmin username newId newHash now seconds =>
      exact (performs_setupFirstAdmin users username newId newHash now seconds).after h
  | createUser tacacsMode roleEnsured payload newId newHash now =>
      exact (performs_createUser tacacsMode roleEnsured users payload hfits newHash now).after h
  | updateUser userId payload newHash =>
      exact (performs_updateUser users userId payload newHash).after h
  | setEndpointRoles catalog userId roles =>
      exact (performs_setEndpointRoles catalog users userId roles).after h
  | setUserTemplates templates userId templateIds =>
      exact (performs_setUserTemplates templates users userId templateIds).after h
  | deleteUser userId requesterId =>
      exact (performs_deleteUser users userId requesterId).after h
  | updateMyPrefs userId payload => exact (keepsStore_updateMyPrefs userId payload hfits).after h
  | createMyView userId name query viewId now =>
      exact (keepsStore_createMyView userId name query viewId now hfits).after h
  | updateMyView userId viewId name query =>
      exact (keepsStore_updateMyView userId viewId name query).after h
  | deleteMyView userId viewId => exact (keepsStore_deleteMyView userId viewId).after h
  | login cfg tacacs locked username password now seconds =>
      exact (performs_login cfg tacacs verify locked users username password now seconds).after h
  | revokeTokens userId => exact (performs_revokeTokens users userId).after h
  | listUsers => exact keepsStore_listUsers.after h
  | getUser userId => exact (keepsStore_getUser userId).after h

end StoredService

namespace Users

variable [PyText]

/-- One operation after the other. -/
def step (verify : String → String → Bool) (users : Users) (op : UserOp) : Option Users :=
  some (op.onStore verify users)

/-- A run on the dictionaries of a store is the run on the store: as long as new ids are drawn and
no record is made up, it ends with the dictionaries of the store the other ends with. -/
theorem storedAs_run (verify : String → String → Bool) {users : Users} {records : StoredUsers}
    (h : users.StoredAs records) {ops : List UserOp}
    (hops : Guarded (step verify) (fun users op => op.Fits users) users ops) :
    ∃ last final, run (step verify) users ops = some last ∧
      run (StoredUsers.step verify) records ops = some final ∧ last.StoredAs final := by
  induction ops generalizing users records with
  | nil => exact ⟨users, records, rfl, rfl, h⟩
  | cons op rest ih => exact ih (StoredService.storedAs_perform verify hops.1 h) hops.2

omit [PyText] in
/-- The portal is set up. -/
theorem storedAs_run_setup : ∃ last final,
    run (@step asciiText fun _ _ => true) Dict.empty
      [.setupFirstAdmin "admin" "id-1" "hash" "now" 0] = some last ∧
    run (@StoredUsers.step asciiText fun _ _ => true) []
      [.setupFirstAdmin "admin" "id-1" "hash" "now" 0] = some final ∧ last.StoredAs final :=
  @storedAs_run asciiText _ _ _ (storedAs_stored Dict.empty) _ ⟨trivial, trivial⟩

end Users

end IsePortal
