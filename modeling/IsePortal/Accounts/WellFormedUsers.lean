import IsePortal.Api.Me
import IsePortal.Library.Runs

/-!
# Well-formed user records

Whoever reads `users.json` indexes its records with `id`, `username`, `role` and `created_at`, and
`delete_user` does so with all of them. Every record is created with these keys but the one that
`_ensure_shadow_record` makes up for a TACACS user whose shadow record was deleted in the lifetime
of the token. `user_records_iff`: the records stay well formed, and nobody raises `KeyError`,
exactly in the runs where no record is made up.
-/

namespace IsePortal

open Library StoredUsers StoredService Me

/-- A call that reads or writes the records of the users. -/
inductive UserOp where
  | setupFirstAdmin (username newId newHash now : String) (seconds : Nat)
  | createUser (tacacsMode roleEnsured : Bool) (payload : UserCreate)
      (newId newHash now : String)
  | updateUser (userId : String) (payload : UserUpdate) (newHash : String)
  | setEndpointRoles (catalog : List String) (userId : String) (roles : List String)
  | setUserTemplates (templates : List String) (userId : String) (templateIds : List String)
  | deleteUser (userId requesterId : String)
  | updateMyPrefs (userId : String) (payload : UserPrefsUpdate)
  | createMyView (userId name : String) (query : JsonObject) (viewId now : String)
  | updateMyView (userId viewId : String) (name : Option String) (query : Option JsonObject)
  | deleteMyView (userId viewId : String)
  | login (cfg : AuthConfig) (tacacs : TacacsAuthResult) (locked : Option HttpError)
      (username password now : String) (seconds : Nat)
  | revokeTokens (userId : String)
  | listUsers
  | getUser (userId : String)

namespace UserOp

/-- The call, without what it answers. -/
def perform [PyText] (verify : String → String → Bool) : UserOp → StoreM Unit
  | .setupFirstAdmin username newId newHash now seconds => do
      let _ ← StoredService.setupFirstAdmin username newId newHash now seconds
  | .createUser tacacsMode roleEnsured payload newId newHash now => do
      let _ ← StoredService.createUser tacacsMode roleEnsured payload newId newHash now
  | .updateUser userId payload newHash => do
      let _ ← StoredService.updateUser userId payload newHash
  | .setEndpointRoles catalog userId roles => do
      let _ ← StoredService.setEndpointRoles catalog userId roles
  | .setUserTemplates templates userId templateIds => do
      let _ ← StoredService.setUserTemplates templates userId templateIds
  | .deleteUser userId requesterId => do
      let _ ← StoredService.deleteUser userId requesterId
  | .updateMyPrefs userId payload => do
      let _ ← Me.updateMyPrefs userId payload
  | .createMyView userId name query viewId now => do
      let _ ← Me.createMyView userId name query viewId now
  | .updateMyView userId viewId name query => do
      let _ ← Me.updateMyView userId viewId name query
  | .deleteMyView userId viewId => do
      let _ ← Me.deleteMyView userId viewId
  | .login cfg tacacs locked username password now seconds => do
      let _ ← StoredService.login cfg tacacs verify locked username password now seconds
  | .revokeTokens userId => do
      let _ ← StoredService.revokeTokens userId
  | .listUsers => do
      let _ ← StoredService.listUsers
  | .getUser userId => do
      let _ ← StoredService.getUser userId

/-- The call makes up no record. -/
def MakesUpNone (users : StoredUsers) : UserOp → Prop
  | .updateMyPrefs userId _ => HasRecord users userId
  | .createMyView userId _ _ _ _ => HasRecord users userId
  | _ => True

end UserOp

namespace StoredUsers

variable [PyText]

/-- One call after the other. -/
def step (verify : String → String → Bool) (users : StoredUsers) (op : UserOp) :
    Option StoredUsers :=
  some (after (op.perform verify) users)

/-- The records are well formed and no call raises `KeyError`. -/
def Intact (verify : String → String → Bool) (users : StoredUsers) : Prop :=
  users.WellFormed ∧
    ∀ (op : UserOp) (key : String), raises (op.perform verify) users ≠ some (.keyError key)

end StoredUsers

namespace StoredService

theorem after_discard {α : Type} (call : StoreM α) (users : StoredUsers) :
    after (do let _ ← call) users = after call users := by
  unfold after
  rw [EStateM.run_bind]
  cases call.run users <;> rfl

/-- What a served call does on well-formed records. -/
theorem Served.outcome {α : Type} {call : StoreM α} {kind : α → Prop} (h : Served call kind)
    {users : StoredUsers} (husers : users.WellFormed) :
    ((after (do let _ ← call) users).WellFormed ↔ True) ∧
      ∀ fault, raises (do let _ ← call) users = some fault → fault.IsHttp := by
  have hdiscard : Served (do let _ ← call) fun _ => True :=
    h.bind fun _ _ => Keeps.pure trivial
  exact ⟨iff_of_true (hdiscard.after husers) trivial, fun _ => hdiscard.raises husers⟩

/-- What a call does that may make up a record. -/
theorem outcome_of_http {α : Type} {call : StoreM α} {users : StoredUsers}
    {condition : Prop} (hafter : (after call users).WellFormed ↔ condition)
    (hhttp : Keeps (fun _ => True) Fault.IsHttp call fun _ => True) :
    ((after (do let _ ← call) users).WellFormed ↔ condition) ∧
      ∀ fault, raises (do let _ ← call) users = some fault → fault.IsHttp := by
  have hdiscard : Keeps (fun _ => True) Fault.IsHttp (do let _ ← call) fun _ => True :=
    hhttp.bind fun _ _ => Keeps.pure trivial
  rw [after_discard]
  exact ⟨hafter, fun _ => hdiscard.raises trivial⟩

variable [PyText]

/-- On well-formed records no call raises `KeyError`, and the records stay well formed exactly
when the call makes up none. -/
theorem perform_spec (verify : String → String → Bool) (op : UserOp) {users : StoredUsers}
    (h : users.WellFormed) :
    ((after (op.perform verify) users).WellFormed ↔ op.MakesUpNone users) ∧
      ∀ fault, raises (op.perform verify) users = some fault → fault.IsHttp := by
  cases op with
  | setupFirstAdmin username newId newHash now seconds =>
      exact (served_setupFirstAdmin username newId newHash now seconds).outcome h
  | createUser tacacsMode roleEnsured payload newId newHash now =>
      exact (served_createUser tacacsMode roleEnsured payload newId newHash now).outcome h
  | updateUser userId payload newHash => exact (served_updateUser userId payload newHash).outcome h
  | setEndpointRoles catalog userId roles =>
      exact (served_setEndpointRoles catalog userId roles).outcome h
  | setUserTemplates templates userId templateIds =>
      exact (served_setUserTemplates templates userId templateIds).outcome h
  | deleteUser userId requesterId => exact (served_deleteUser userId requesterId).outcome h
  | updateMyPrefs userId payload =>
      exact outcome_of_http (wellFormed_updateMyPrefs_iff h userId payload)
        (httpOnly_updateMyPrefs userId payload)
  | createMyView userId name query viewId now =>
      exact outcome_of_http (wellFormed_createMyView_iff h userId name query viewId now)
        (httpOnly_createMyView userId name query viewId now)
  | updateMyView userId viewId name query =>
      exact (served_updateMyView userId viewId name query).outcome h
  | deleteMyView userId viewId => exact (served_deleteMyView userId viewId).outcome h
  | login cfg tacacs locked username password now seconds =>
      exact (served_login cfg tacacs verify locked username password now seconds).outcome h
  | revokeTokens userId => exact (served_revokeTokens userId).outcome h
  | listUsers => exact served_listUsers.outcome h
  | getUser userId => exact (served_getUser userId).outcome h

end StoredService

namespace StoredUsers

variable [PyText]

/-- Well-formed records are intact. -/
theorem intact_iff {verify : String → String → Bool} {users : StoredUsers} :
    Intact verify users ↔ users.WellFormed := by
  refine ⟨And.left, fun h => ⟨h, fun op key hraised => ?_⟩⟩
  obtain ⟨raised, hhttp⟩ := (perform_spec verify op h).2 _ hraised
  cases hhttp

/-- From well-formed records, the records stay well formed and no call raises `KeyError` exactly
in the runs where no record is made up. -/
theorem user_records_iff (verify : String → String → Bool) {users : StoredUsers}
    (h : users.WellFormed) (ops : List UserOp) :
    Always (step verify) (Intact verify) users ops ↔
      Guarded (step verify) (fun users op => op.MakesUpNone users) users ops := by
  refine always_iff_guarded (I := fun _ => True) (fun _ _ _ _ _ => trivial) ?_ trivial
    (intact_iff.mpr h)
  intro before op next hstep _ hbefore
  cases hstep
  rw [intact_iff]
  exact (perform_spec verify op (intact_iff.mp hbefore)).1

end StoredUsers

/-! ## What a record that is made up costs -/

namespace StoredService

end StoredService

namespace StoredUsers

section Shadow

local instance shadowText : PyText := asciiText

/-- An admin and a viewer, both local. -/
def office : StoredUsers :=
  [{ id := some "u-root", username := some "root", role := some .admin
     createdAt := some "2026-01-01T08:00:00Z" },
   { id := some "u-bob", username := some "bob", role := some .viewer
     createdAt := some "2026-01-01T09:00:00Z" }]

/-- Alice logs in through TACACS. -/
def aliceLogin : UserOp :=
  .login { authMode := "tacacs", tacacsServerHost := "tacacs.local", tacacsSecret := "s3cret" }
    { success := true } none "alice" "Pa55word!x" "2026-01-02T08:00:00Z" 1767340800

/-- She chooses a language. -/
def aliceLanguage : UserOp := .updateMyPrefs "tacacs:alice" { language := some (some .da) }

theorem office_wellFormed : office.WellFormed := by decide

theorem user_records_shadow_kept :
    Always (step fun _ _ => false) (Intact fun _ _ => false) office
      [aliceLogin, aliceLanguage] := by
  refine (user_records_iff (fun _ _ => false) office_wellFormed _).mpr ⟨trivial, ?_, trivial⟩
  show HasRecord (after (aliceLogin.perform fun _ _ => false) office) "tacacs:alice"
  decide

/-- An admin deletes the shadow record of alice, who then chooses a language with the token she
has: her new record cannot be read, and nobody can be deleted any more. -/
theorem user_records_shadow_lost :
    office.WellFormed ∧
      ¬ Always (step fun _ _ => false) (Intact fun _ _ => false) office
        [aliceLogin, .deleteUser "tacacs:alice" "u-root", aliceLanguage] ∧
      ∃ final, run (step fun _ _ => false) office
          [aliceLogin, .deleteUser "tacacs:alice" "u-root", aliceLanguage] = some final ∧
        raises (StoredService.deleteUser "u-bob" "u-root") final = some (.keyError "role") := by
  let ops := [aliceLogin, .deleteUser "tacacs:alice" "u-root", aliceLanguage]
  have hrun : run (step fun _ _ => false) office ops =
      some ((run (step fun _ _ => false) office ops).getD []) := rfl
  have hbroken : ¬ WellFormed ((run (step fun _ _ => false) office ops).getD []) := by decide
  exact ⟨office_wellFormed, fun h => hbroken (h.last hrun).1, _, hrun, by decide⟩

end Shadow

end StoredUsers

end IsePortal
