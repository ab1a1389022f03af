import IsePortal.Accounts.UserService
import IsePortal.Library.Runs

/-!
# The last local admin

A local admin, a record with role `admin` and user type `user`, is the only account that logs in
without TACACS. `delete_user` refuses to delete the last admin, but counts the admins by role
alone; `update_user` has no such guard, and a TACACS login sets the role of its shadow record.
`local_admin_remains_iff` says which operations leave a local admin.
-/

namespace IsePortal

open Library

/-- One whole operation on the user store. -/
inductive AccountOp where
  | createUser (tacacsMode : Bool) (payload : UserCreate) (newId newHash now : String)
      (roleEnsured : Bool)
  | updateUser (userId : String) (payload : UserUpdate) (newHash : String)
  | deleteUser (userId requesterId : String)
  | setEndpointRoles (catalog : List String) (userId : String) (roles : List String)
  | login (cfg : AuthConfig) (tacacs : TacacsAuthResult) (username password now : String)
  deriving DecidableEq

namespace Users

section Steps

variable [PyText]

/-- Save the change of an operation that is accepted. -/
def save (users : Users) (answer : Except HttpError Change) : Users :=
  match answer with
  | .error _ => users
  | .ok change => change.apply users

/-- One operation, run to its end. A new id is one no record has. -/
def accountStep (verify : String → String → Bool) (users : Users) (op : AccountOp) :
    Option Users :=
  match op with
  | .createUser tacacsMode payload newId newHash now roleEnsured =>
      if users.get? newId = none then
        match createUser tacacsMode users payload newId newHash now with
        | .error _ => some users
        | .ok change =>
            if roleEnsured then
              some ((assignOwnRole newId payload.username).apply (change.apply users))
            else some (change.apply users)
      else none
  | .updateUser userId payload newHash =>
      some (users.save (IsePortal.updateUser users userId payload newHash))
  | .deleteUser userId requesterId =>
      some (users.save (IsePortal.deleteUser users userId requesterId))
  | .setEndpointRoles catalog userId roles =>
      some (users.save (IsePortal.setEndpointRoles catalog users userId roles))
  | .login cfg tacacs username password now =>
      match IsePortal.login cfg tacacs verify users username password now with
      | .success change => some (change.apply users)
      | _ => some users

end Steps

/-! ## Local admins -/

/-- The record is a local admin. -/
def IsLocalAdmin (record : UserRecord) : Prop := record.role = .admin ∧ record.type = .user

instance (record : UserRecord) : Decidable (IsLocalAdmin record) :=
  inferInstanceAs (Decidable (_ ∧ _))

/-- A local admin remains. -/
def HasLocalAdmin (users : Users) : Prop :=
  ∃ id record, users.get? id = some record ∧ IsLocalAdmin record

/-- The id is a local admin, and no other one is. -/
def OnlyLocalAdmin (users : Users) (userId : String) : Prop :=
  (∃ record, users.get? userId = some record ∧ IsLocalAdmin record) ∧
    ∀ id record, users.get? id = some record → IsLocalAdmin record → id = userId

/-- The operations that leave a local admin. An update of the only one keeps role and type. The
only one is deleted only where `delete_user` refuses: by its own request, or when no record has
the role `admin` besides. And a TACACS login whose shadow record was made the only local admin
grants the role `admin`. -/
def KeepsLocalAdmin [PyText] (users : Users) (op : AccountOp) : Prop :=
  match op with
  | .updateUser userId payload _ =>
      users.OnlyLocalAdmin userId →
        (payload.role = none ∨ payload.role = some .admin) ∧
          (payload.userType = none ∨ payload.userType = some .user)
  | .deleteUser userId requesterId =>
      users.OnlyLocalAdmin userId →
        userId = requesterId ∨
          ∀ id record, users.get? id = some record → record.role = .admin → id = userId
  | .login cfg tacacs username _ _ =>
      users.OnlyLocalAdmin (shadowId username) →
        useTacacs cfg (users.findByUsername username) = true → tacacs.success = true →
          ∀ grant, tacacsGrant users (profileName tacacs username) username = some grant →
            grant.1 = .admin
  | _ => True

/-- A change of one record leaves a local admin exactly when there is one besides, or the record
is one afterwards. -/
theorem hasLocalAdmin_local {users next : Users} {userId : String} (hadmin : users.HasLocalAdmin)
    (hother : ∀ id, id ≠ userId → next.get? id = users.get? id) :
    next.HasLocalAdmin ↔
      (users.OnlyLocalAdmin userId →
        ∃ record, next.get? userId = some record ∧ IsLocalAdmin record) := by
  constructor
  · intro hnext honly
    obtain ⟨id, record, hrecord, hlocal⟩ := hnext
    by_cases hid : id = userId
    · exact ⟨record, hid ▸ hrecord, hlocal⟩
    · -- the admin that is left was there before, and is another one
      rw [hother id hid] at hrecord
      exact absurd (honly.2 id record hrecord hlocal) hid
  · intro hkeeps
    by_cases honly : users.OnlyLocalAdmin userId
    · obtain ⟨record, hrecord, hlocal⟩ := hkeeps honly
      exact ⟨userId, record, hrecord, hlocal⟩
    · obtain ⟨id, record, hrecord, hlocal⟩ := hadmin
      by_cases hid : id = userId
      · -- the record is a local admin, so there is another one
        have hmore : ∃ other record, users.get? other = some record ∧ IsLocalAdmin record ∧
            other ≠ userId := by
          by_contra hnone
          refine honly ⟨⟨record, hid ▸ hrecord, hlocal⟩, fun other record' hrecord' hlocal' => ?_⟩
          by_contra hne
          exact hnone ⟨other, record', hrecord', hlocal', hne⟩
        obtain ⟨other, record', hrecord', hlocal', hne⟩ := hmore
        exact ⟨other, record', (hother other hne).trans hrecord', hlocal'⟩
      · exact ⟨id, record, (hother id hid).trans hrecord, hlocal⟩

theorem get?_edit_ne (users : Users) (userId : String) (edits : FieldEdits) {id : String}
    (hid : id ≠ userId) : (Change.apply (.edit userId edits) users).get? id = users.get? id := by
  rw [Change.get?_apply, Change.recordAt, if_neg hid]

/-- An edit of the fields besides role, user type and password leaves the local admins. -/
theorem hasLocalAdmin_edit {users : Users} (hadmin : users.HasLocalAdmin) (userId : String)
    {edits : FieldEdits} (hrole : edits.role = none) (htype : edits.userType = none) :
    HasLocalAdmin (Change.apply (.edit userId edits) users) := by
  rw [hasLocalAdmin_local hadmin fun id hid => get?_edit_ne users userId edits hid]
  intro honly
  obtain ⟨record, hrecord, hlocal⟩ := honly.1
  refine ⟨edits.apply record, ?_, ?_⟩
  · rw [Change.get?_apply, Change.recordAt, if_pos rfl, hrecord, Option.map_some]
  · unfold IsLocalAdmin UserRecord.type at hlocal ⊢
    simp [FieldEdits.apply, hrole, htype, hlocal]

section Steps

variable [PyText]

theorem hasLocalAdmin_updateUser {users : Users} (hadmin : users.HasLocalAdmin)
    (userId : String) (payload : UserUpdate) (newHash : String) :
    HasLocalAdmin (users.save (IsePortal.updateUser users userId payload newHash)) ↔
      users.KeepsLocalAdmin (.updateUser userId payload newHash) := by
  unfold IsePortal.updateUser findById
  cases hrecord : users.get? userId with
  | none =>
      refine iff_of_true hadmin fun honly => ?_
      obtain ⟨record, hsome, -⟩ := honly.1
      rw [hrecord] at hsome
      cases hsome
  | some record =>
      dsimp only [save]
      rw [hasLocalAdmin_local hadmin fun id hid => get?_edit_ne users userId _ hid]
      refine imp_congr_right fun honly => ?_
      obtain ⟨old, hold, hrole, htype⟩ := honly.1
      rw [hrecord, Option.some.injEq] at hold
      subst hold
      rw [Change.get?_apply, Change.recordAt, if_pos rfl, hrecord, Option.map_some]
      simp only [Option.some.injEq, exists_eq_left', IsLocalAdmin, FieldEdits.apply,
        UserRecord.type] at hrole htype ⊢
      refine and_congr ?_ ?_
      · cases payload.role with
        | none => simp [hrole]
        | some role => simp
      · cases payload.userType with
        | none => simpa using htype
        | some userType => simp

omit [PyText] in
theorem adminsLeft_eq_zero_iff {users : Users} {userId : String} :
    adminsLeft users userId = 0 ↔
      ∀ id record, users.get? id = some record → record.role = .admin → id = userId := by
  unfold adminsLeft
  rw [List.countP_eq_zero]
  constructor
  · intro hnone id record hrecord hrole
    have hmem := hnone (id, record) (Dict.get?_eq_some_iff.mp hrecord)
    simpa [hrole] using hmem
  · intro hall entry hentry
    have hid := hall entry.1 entry.2 (Dict.get?_eq_some_iff.mpr hentry)
    simpa using hid

theorem hasLocalAdmin_deleteUser {users : Users} (hadmin : users.HasLocalAdmin)
    (userId requesterId : String) :
    HasLocalAdmin (users.save (IsePortal.deleteUser users userId requesterId)) ↔
      users.KeepsLocalAdmin (.deleteUser userId requesterId) := by
  unfold IsePortal.deleteUser findById
  by_cases hself : userId = requesterId
  · rw [if_pos hself]
    exact iff_of_true hadmin fun _ => Or.inl hself
  · rw [if_neg hself]
    cases hrecord : users.get? userId with
    | none =>
        refine iff_of_true hadmin fun honly => ?_
        obtain ⟨record, hsome, -⟩ := honly.1
        rw [hrecord] at hsome
        cases hsome
    | some record =>
        dsimp only
        by_cases hguard : record.role = .admin ∧ adminsLeft users userId = 0
        · rw [if_pos hguard]
          exact iff_of_true hadmin fun _ => Or.inr (adminsLeft_eq_zero_iff.mp hguard.2)
        · rw [if_neg hguard]
          dsimp only [save]
          rw [hasLocalAdmin_local hadmin fun id hid => by
            rw [Change.get?_apply, Change.recordAt, if_neg hid]]
          refine imp_congr_right fun honly => ?_
          obtain ⟨old, hold, hrole, -⟩ := honly.1
          rw [hrecord, Option.some.injEq] at hold
          subst hold
          refine iff_of_false ?_ ?_
          · rw [Change.get?_apply, Change.recordAt, if_pos rfl]
            simp
          · intro hcase
            obtain hcase | hcase := hcase
            · exact hself hcase
            · exact hguard ⟨hrole, adminsLeft_eq_zero_iff.mpr hcase⟩

theorem hasLocalAdmin_createUser {users : Users} {verify : String → String → Bool}
    (hadmin : users.HasLocalAdmin) {tacacsMode : Bool} {payload : UserCreate}
    {newId newHash now : String} {roleEnsured : Bool} {next : Users}
    (hstep : accountStep verify users
      (.createUser tacacsMode payload newId newHash now roleEnsured) = some next) :
    next.HasLocalAdmin := by
  simp only [accountStep] at hstep
  split at hstep
  · rename_i hnew
    cases hanswer : IsePortal.createUser tacacsMode users payload newId newHash now with
    | error raised =>
        simp only [hanswer, Option.some.injEq] at hstep
        exact hstep ▸ hadmin
    | ok change =>
        have hcreated : HasLocalAdmin (change.apply users) := by
          obtain ⟨record, rfl⟩ := createUser_ok hanswer
          obtain ⟨id, admin, hget, hlocal⟩ := hadmin
          have hne : id ≠ newId := by
            intro hid
            rw [hid, hnew] at hget
            cases hget
          refine ⟨id, admin, ?_, hlocal⟩
          rw [Change.get?_apply, Change.recordAt, if_neg hne]
          exact hget
        simp only [hanswer] at hstep
        split at hstep
        · cases hstep
          exact hasLocalAdmin_edit hcreated newId rfl rfl
        · cases hstep
          exact hcreated
  · cases hstep

omit [PyText] in
/-- The upsert of a shadow record leaves a local admin unless it demotes the only one. -/
theorem hasLocalAdmin_upsertShadow {users : Users} (hadmin : users.HasLocalAdmin)
    (username : String) (role : Role) (endpointRoles templates : List String) (now : String) :
    HasLocalAdmin ((upsertShadow username role endpointRoles templates now).apply users) ↔
      (users.OnlyLocalAdmin (shadowId username) → role = .admin) := by
  rw [hasLocalAdmin_local hadmin fun id hid => by
    rw [Change.get?_apply, upsertShadow, Change.recordAt, if_neg hid]]
  refine imp_congr_right fun honly => ?_
  obtain ⟨record, hrecord, -, htype⟩ := honly.1
  rw [Change.get?_apply, upsertShadow, Change.recordAt, if_pos rfl, hrecord]
  simp only [Option.map_some, Option.getD_some, Option.some.injEq, exists_eq_left', IsLocalAdmin,
    FieldEdits.apply, UserRecord.type, Option.none_or] at htype ⊢
  exact and_iff_left htype

theorem hasLocalAdmin_login {users : Users} {verify : String → String → Bool}
    (hadmin : users.HasLocalAdmin) {cfg : AuthConfig} {tacacs : TacacsAuthResult}
    {username password now : String} {next : Users}
    (hstep : accountStep verify users (.login cfg tacacs username password now) = some next) :
    next.HasLocalAdmin ↔ users.KeepsLocalAdmin (.login cfg tacacs username password now) := by
  simp only [accountStep] at hstep
  split at hstep
  · rename_i change hverdict
    cases hstep
    obtain ⟨userId, rfl⟩ | ⟨htacacs, hsuccess, role, endpointRoles, templates, granted, hgrant,
      rfl⟩ := login_success hverdict
    · -- a local login changes no role, and it is none that TACACS accepted
      refine iff_of_true (hasLocalAdmin_edit hadmin userId rfl rfl) ?_
      intro _ htacacs hsuccess grant hgrant
      simp only [IsePortal.login, htacacs, hsuccess, ↓reduceIte, tacacsLogin, hgrant] at hverdict
      cases hverdict
    · rw [hasLocalAdmin_upsertShadow hadmin]
      simp [KeepsLocalAdmin, htacacs, hsuccess, hgrant]
  · -- a login that fails saves nothing, and TACACS cannot have granted a role
    rename_i hverdict
    cases hstep
    refine iff_of_true hadmin ?_
    intro _ htacacs hsuccess grant hgrant
    refine (hverdict (upsertShadow username grant.1
      (if username ∈ grant.2.1 then grant.2.1 else grant.2.1 ++ [username]) grant.2.2 now) ?_).elim
    simp only [IsePortal.login, htacacs, hsuccess, ↓reduceIte, tacacsLogin, hgrant]

/-- One operation leaves a local admin exactly under the condition. -/
theorem hasLocalAdmin_step {users next : Users} {verify : String → String → Bool}
    {op : AccountOp} (hstep : accountStep verify users op = some next)
    (hadmin : users.HasLocalAdmin) : next.HasLocalAdmin ↔ users.KeepsLocalAdmin op := by
  cases op with
  | createUser tacacsMode payload newId newHash now roleEnsured =>
      exact iff_of_true (hasLocalAdmin_createUser hadmin hstep) trivial
  | updateUser userId payload newHash =>
      cases hstep
      exact hasLocalAdmin_updateUser hadmin userId payload newHash
  | deleteUser userId requesterId =>
      cases hstep
      exact hasLocalAdmin_deleteUser hadmin userId requesterId
  | setEndpointRoles catalog userId roles =>
      cases hstep
      refine iff_of_true ?_ trivial
      cases hanswer : IsePortal.setEndpointRoles catalog users userId roles with
      | error raised => exact hadmin
      | ok change =>
          obtain ⟨resolved, rfl⟩ := setEndpointRoles_ok hanswer
          exact hasLocalAdmin_edit hadmin userId rfl rfl
  | login cfg tacacs username password now => exact hasLocalAdmin_login hadmin hstep

/-- In every run from users with a local admin, one remains in every state exactly when every
operation of the run leaves one. -/
theorem local_admin_remains_iff (verify : String → String → Bool) (users : Users)
    (ops : List AccountOp) (hadmin : users.HasLocalAdmin) :
    Always (accountStep verify) HasLocalAdmin users ops ↔
      Guarded (accountStep verify) KeepsLocalAdmin users ops :=
  always_iff_guarded (I := fun _ => True) (fun _ _ _ _ _ => trivial)
    (fun _ _ _ hstep _ h => hasLocalAdmin_step hstep h) trivial hadmin

end Steps

section Demoted

local instance demotedText : PyText := asciiText

/-- One local admin. -/
def oneAdmin : Users :=
  Dict.empty.set "u-1"
    { username := "alice", passwordHash := "Alice12345", role := .admin, createdAt := "" }

theorem oneAdmin_hasLocalAdmin : oneAdmin.HasLocalAdmin :=
  ⟨"u-1", _, rfl, by decide⟩

theorem local_admin_remains_demoted :
    oneAdmin.HasLocalAdmin ∧
      (Always (accountStep (· == ·)) HasLocalAdmin oneAdmin
          [.updateUser "u-1" { role := some .viewer } "hash"] ↔
        Guarded (accountStep (· == ·)) KeepsLocalAdmin oneAdmin
          [.updateUser "u-1" { role := some .viewer } "hash"]) :=
  ⟨oneAdmin_hasLocalAdmin, local_admin_remains_iff (· == ·) oneAdmin _ oneAdmin_hasLocalAdmin⟩

/-- The only admin is made a viewer, and no local admin is left. -/
theorem last_admin_demoted :
    oneAdmin.HasLocalAdmin ∧
      ¬ Always (accountStep (· == ·)) HasLocalAdmin oneAdmin
        [.updateUser "u-1" { role := some .viewer } "hash"] := by
  refine ⟨oneAdmin_hasLocalAdmin, fun halways => ?_⟩
  have hkeys : (oneAdmin.save (IsePortal.updateUser oneAdmin "u-1" { role := some .viewer }
      "hash")).entries.all (fun entry => ¬ IsLocalAdmin entry.2) = true := by decide
  obtain ⟨id, record, hrecord, hlocal⟩ := halways.2
  have hnone := List.all_eq_true.mp hkeys _ (Dict.get?_eq_some_iff.mp hrecord)
  simp [hlocal] at hnone

end Demoted

end Users

end IsePortal
