import IsePortal.Accounts.Lockout
import IsePortal.Accounts.StoredService
import IsePortal.Recovery.Passwords

/-!
# The portal on records of the recovery tool

`recover.py` writes the same `users.json` as the portal, but it also writes what the portal never
does: a role that is any text, and the key `active`. These are the readers of
`app/services/user_service.py` and `app/api/deps.py` on such records. No reader looks at `active`.
`LoginEnds` is everything a login can come to, `login_ok_iff` when it lets a local account in.
-/

namespace IsePortal.Recovery

open Library
open StoredService (LoginResponse)

/-- One record of `users.json`; `none` is a key it does not have, for `lastLogin` also the value
`None`. -/
structure AccountRecord where
  id : String
  username : String
  passwordHash : Option String := none
  role : String
  userType : Option UserType := none
  createdAt : String
  lastLogin : Option String := none
  tokenGen : Option Nat := none
  active : Option Bool := none
  assignedEndpointRoles : Option (List String) := none
  assignedTemplates : Option (List String) := none

namespace AccountRecord

/-- `record.get("user_type", "user")` -/
def type (record : AccountRecord) : UserType := record.userType.getD .user

/-- `record.get("token_gen", 0)` -/
def gen (record : AccountRecord) : Nat := record.tokenGen.getD 0

/-- `record.get("active", True)` -/
def isActive (record : AccountRecord) : Bool := record.active.getD true

/-- `u["token_gen"] = u.get("token_gen", 0) + 1` -/
def revoked (record : AccountRecord) : AccountRecord :=
  { record with tokenGen := some (record.gen + 1) }

end AccountRecord

/-- `ROLE_VALUES` -/
def roleValues : List Role :=
  [.admin, .editor, .editorPsk, .viewer, .registrant, .registrantTemplet]

/-- The role a text is the value of; `User` takes no other text. -/
def roleOf (text : String) : Option Role := roleValues.find? (·.value = text)

theorem roleOf_value (role : Role) : roleOf role.value = some role := by
  cases role <;> decide

/-- `_to_public`; a `ValidationError` of `User` is a `ValueError`. -/
def AccountRecord.toPublic (record : AccountRecord) : Except Fault PublicUser :=
  match roleOf record.role with
  | none => .error (.other .valueError)
  | some role =>
      .ok
        { id := record.id, username := record.username, role, userType := record.type
          createdAt := record.createdAt, lastLogin := record.lastLogin
          assignedEndpointRoles := record.assignedEndpointRoles.getD []
          assignedTemplates := record.assignedTemplates.getD [] }

/-- The record can be turned into the `User` model. -/
def AccountRecord.Converts (record : AccountRecord) : Prop := ∃ user, record.toPublic = .ok user

theorem AccountRecord.converts_iff {record : AccountRecord} :
    record.Converts ↔ (roleOf record.role).isSome := by
  unfold Converts toPublic
  cases roleOf record.role <;> simp

/-- `u.get("username", "").lower() == lowered` -/
def hasUsername [PyText] (username : String) (record : AccountRecord) : Bool :=
  PyText.lower record.username = PyText.lower username

/-- `u.get("id") == user_id` -/
def hasId (userId : String) (record : AccountRecord) : Bool := record.id = userId

/-- `find_by_username` -/
def findByUsername [PyText] (users : List AccountRecord) (username : String) :
    Option AccountRecord :=
  users.find? (hasUsername username)

/-- `find_by_id` -/
def findById (users : List AccountRecord) (userId : String) : Option AccountRecord :=
  users.find? (hasId userId)

/-- Assign to keys of the first record of the kind; it is the one the `find_by_…` return. -/
def editFirst (wanted : AccountRecord → Bool) (edit : AccountRecord → AccountRecord) :
    List AccountRecord → List AccountRecord
  | [] => []
  | record :: rest =>
      if wanted record then edit record :: rest else record :: editFirst wanted edit rest

/-- `users.json` and the lockout database. -/
structure Desk where
  users : List AccountRecord
  lockout : LockoutStore := {}

/-! ## Administration -/

/-- `list_users` -/
def listUsers (users : List AccountRecord) : Except Fault (List PublicUser) :=
  (users.filter fun record => record.userType ≠ some .tacacsShadow).mapM AccountRecord.toPublic

/-- What `update_user` assigns to a record. -/
def updated [KeyDerivation] (payload : UserUpdate) (salt : Bytes) (record : AccountRecord) :
    AccountRecord :=
  let roleChanged := payload.role.any (·.value ≠ record.role)
  let pwChanged := payload.password.any (· ≠ "")
  let assigned : AccountRecord :=
    { record with
      role := (payload.role.map Role.value).getD record.role
      userType := payload.userType.or record.userType
      passwordHash :=
        if pwChanged then payload.password.map (hashPassword · salt) else record.passwordHash }
  if roleChanged || pwChanged then assigned.revoked else assigned

/-- `update_user` -/
def updateUser [KeyDerivation] (users : List AccountRecord) (userId : String)
    (payload : UserUpdate) (salt : Bytes) : List AccountRecord × Except Fault PublicUser :=
  match findById users userId with
  | none => (users, .error (.http userNotFound))
  | some record =>
      (editFirst (hasId userId) (updated payload salt) users,
        (updated payload salt record).toPublic)

/-- `get_current_user` for a local token. -/
def checkToken (users : List AccountRecord) (payload : LocalToken) (now : Nat) :
    Except HttpError CurrentUser :=
  if payload.exp < now then .error ⟨401, "Ugyldigt eller udløbet token"⟩
  else
    match findById users payload.sub with
    | none => .error ⟨401, "Brugeren findes ikke længere"⟩
    | some record =>
        if record.role ≠ payload.role.value then .error ⟨401, "Rolle er ændret — login igen"⟩
        else if payload.gen ≠ record.gen then .error ⟨401, "Token er tilbagekaldt — log ind igen"⟩
        else
          .ok
            { id := record.id, username := record.username, role := payload.role
              createdAt := record.createdAt, lastLogin := record.lastLogin
              assignedEndpointRoles := record.assignedEndpointRoles.getD []
              assignedTemplates := record.assignedTemplates.getD [] }

/-! ## Login -/

/-- A local admin is always validated locally. -/
def isAdminUser (record : Option AccountRecord) : Bool :=
  record.any fun record => record.role = "admin" ∧ record.type = .user

/-- Whether the login goes to TACACS. -/
def useTacacs (cfg : AuthConfig) (record : Option AccountRecord) : Bool :=
  cfg.authMode = "tacacs" ∧ cfg.tacacsServerHost ≠ "" ∧ cfg.tacacsSecret ≠ "" ∧
    isAdminUser record = false

/-- The profile record: the first with exactly that name that is no shadow record. -/
def profileRecord (users : List AccountRecord) (name : String) : Option AccountRecord :=
  users.find? fun record => record.username = name ∧ record.userType ≠ some .tacacsShadow

/-- `any_operator_profiles` -/
def anyOperatorProfiles (users : List AccountRecord) : Bool :=
  users.any fun record => record.userType = some .operator

/-- What a TACACS login grants: the role, endpoint roles and templates of the profile, or the
viewer bootstrap while no operator profile exists. `none` where the login is refused. -/
def tacacsGrant (users : List AccountRecord) (name username : String) :
    Option (String × List String × List String) :=
  match profileRecord users name with
  | some profile =>
      some (profile.role, profile.assignedEndpointRoles.getD [],
        profile.assignedTemplates.getD [])
  | none => if anyOperatorProfiles users then none else some ("viewer", [username], [])

/-- The shadow record of a first TACACS login. -/
def shadowRecord (username : String) (role : Role) (endpointRoles templates : List String)
    (now : String) : AccountRecord where
  id := shadowId username
  username := username
  passwordHash := some ""
  userType := some .tacacsShadow
  role := role.value
  createdAt := now
  lastLogin := some now
  assignedEndpointRoles := some endpointRoles
  assignedTemplates := some templates

/-- What a later TACACS login assigns to the shadow record. -/
def refreshed (role : Role) (endpointRoles templates : List String) (now : String)
    (shadow : AccountRecord) : AccountRecord :=
  { shadow with
    role := role.value
    assignedEndpointRoles := some endpointRoles
    assignedTemplates := some templates
    lastLogin := some now }

/-- The upsert of the shadow record. -/
def upsertShadow (users : List AccountRecord) (username : String) (role : Role)
    (endpointRoles templates : List String) (now : String) : List AccountRecord :=
  match findById users (shadowId username) with
  | none => users ++ [shadowRecord username role endpointRoles templates now]
  | some _ =>
      editFirst (hasId (shadowId username)) (refreshed role endpointRoles templates now) users

/-- `int(time.time())` -/
def seconds (now : Time) : Nat := now.floor.toNat

/-- The failure of a login is recorded, unless the name is locked. -/
def Desk.refuse (desk : Desk) (attempt : LoginAttempt) : Desk × Except Fault LoginResponse :=
  let (lockout, raised) := checkAndRecordFailure desk.lockout attempt.username attempt.now
  ({ desk with lockout }, .error (.http (raised.getD wrongCredentials)))

/-- The branch of `login` after TACACS has accepted. -/
def tacacsLogin (desk : Desk) (attempt : LoginAttempt) : Desk × Except Fault LoginResponse :=
  let lockout := desk.lockout.clearLockout attempt.username
  let name := profileName attempt.tacacs attempt.username
  match tacacsGrant desk.users name attempt.username with
  | none => ({ desk with lockout }, .error (.http (noProfile name)))
  | some (text, granted, templates) =>
      match roleOf text with
      | none => ({ desk with lockout }, .error (.other .valueError))
      | some role =>
          let endpointRoles := withOwnRole granted attempt.username
          ({ users :=
              upsertShadow desk.users attempt.username role endpointRoles templates attempt.stamp
             lockout },
            .ok
              { token :=
                  .tacacs (createTacacsToken attempt.username role (some name) endpointRoles
                    (seconds attempt.now))
                user :=
                  { id := shadowId attempt.username, username := attempt.username, role
                    userType := .user
                    createdAt := ((profileRecord desk.users name).map (·.createdAt)).getD ""
                    lastLogin := some attempt.stamp, assignedEndpointRoles := endpointRoles
                    assignedTemplates := templates } })

/-- `record["last_login"] = _now_iso()` -/
def stamped (stamp : String) (record : AccountRecord) : AccountRecord :=
  { record with lastLogin := some stamp }

/-- The answer to a local login: where the record cannot be shown, the token is lost with it. -/
def localResponse (record : AccountRecord) (attempt : LoginAttempt) : Except Fault LoginResponse :=
  match (stamped attempt.stamp record).toPublic with
  | .error fault => .error fault
  | .ok user =>
      .ok
        { token :=
            .localUser (createToken record.id record.username user.role record.gen
              (seconds attempt.now))
          user }

/-- The local part of `login`. -/
def localLogin [PyText] [KeyDerivation] (desk : Desk) (attempt : LoginAttempt) :
    Desk × Except Fault LoginResponse :=
  match findByUsername desk.users attempt.username with
  | none => desk.refuse attempt
  | some record =>
      if record.userType = some .operator ∨ record.userType = some .tacacsShadow then
        (desk, .error (.http onlyTacacs))
      else if verifyPassword attempt.password (record.passwordHash.getD "") then
        ({ users := editFirst (hasUsername attempt.username) (stamped attempt.stamp) desk.users
           lockout := desk.lockout.clearLockout attempt.username },
          localResponse record attempt)
      else desk.refuse attempt

/-- `login`; the attempt holds the outcome of `authenticate_and_authorize`. -/
def login [PyText] [KeyDerivation] (cfg : AuthConfig) (desk : Desk) (attempt : LoginAttempt) :
    Desk × Except Fault LoginResponse :=
  if useTacacs cfg (findByUsername desk.users attempt.username) then
    if attempt.tacacs.success then tacacsLogin desk attempt
    else if cfg.tacacsFallbackToLocal then localLogin desk attempt
    else desk.refuse attempt
  else localLogin desk attempt

/-! ## Edits -/

/-- What the edit of the first record relates to itself, it relates in the whole list. -/
theorem forall₂_editFirst {R : AccountRecord → AccountRecord → Prop}
    (hrefl : ∀ record, R record record) {wanted : AccountRecord → Bool}
    {edit : AccountRecord → AccountRecord} {users : List AccountRecord}
    (hedit : ∀ record, users.find? wanted = some record → R record (edit record)) :
    List.Forall₂ R users (editFirst wanted edit users) := by
  induction users with
  | nil => exact .nil
  | cons record rest ih =>
      rw [editFirst]
      by_cases hwanted : wanted record = true
      · rw [if_pos hwanted]
        have hfound : (record :: rest).find? wanted = some record := by
          rw [List.find?_cons, hwanted]
        exact .cons (hedit record hfound) (List.forall₂_same.mpr fun other _ => hrefl other)
      · rw [if_neg hwanted]
        refine .cons (hrefl record) (ih fun other hother => hedit other ?_)
        rwa [List.find?_cons_of_neg hwanted]

/-- The edited record is found where the record was. -/
theorem find_editFirst {wanted : AccountRecord → Bool} {edit : AccountRecord → AccountRecord}
    (hkeeps : ∀ record, wanted (edit record) = wanted record) (users : List AccountRecord) :
    (editFirst wanted edit users).find? wanted = (users.find? wanted).map edit := by
  induction users with
  | nil => rfl
  | cons record rest ih =>
      rw [editFirst]
      by_cases hwanted : wanted record = true
      · rw [if_pos hwanted, List.find?_cons_of_pos (by rw [hkeeps, hwanted]),
          List.find?_cons_of_pos hwanted, Option.map_some]
      · rw [if_neg hwanted, List.find?_cons_of_neg hwanted, List.find?_cons_of_neg hwanted, ih]

/-- An accepted token has the generation of a record with its id. -/
theorem record_of_checkToken {users : List AccountRecord} {payload : LocalToken} {now : Nat}
    {user : CurrentUser} (h : checkToken users payload now = .ok user) :
    ∃ record ∈ users, record.id = payload.sub ∧ payload.gen = record.gen := by
  unfold checkToken at h
  split at h
  · cases h
  · split at h
    · cases h
    · next record hfound =>
        have hid : record.id = payload.sub := by simpa [hasId] using List.find?_some hfound
        refine ⟨record, List.mem_of_find?_eq_some hfound, hid, ?_⟩
        split at h
        · cases h
        · split at h
          · cases h
          · next hgen => exact not_not.mp hgen

/-- When all records convert, the list of the users is answered. -/
theorem listUsers_ok {users : List AccountRecord} (h : ∀ record ∈ users, record.Converts) :
    ∃ shown, listUsers users = .ok shown := by
  unfold listUsers
  have hkept : ∀ record ∈ users.filter fun record => record.userType ≠ some .tacacsShadow,
      record.Converts := fun record hrecord => h record (List.mem_filter.mp hrecord).1
  generalize users.filter (fun record => record.userType ≠ some .tacacsShadow) = kept at hkept
  induction kept with
  | nil => exact ⟨[], rfl⟩
  | cons record rest ih =>
      obtain ⟨hrecord, hrest⟩ := List.forall_mem_cons.mp hkept
      obtain ⟨user, huser⟩ := hrecord
      obtain ⟨others, hothers⟩ := ih hrest
      exact ⟨user :: others, by rw [List.mapM_cons, huser, hothers]; rfl⟩

/-! ## What a login comes to -/

section Logins

variable [PyText] [KeyDerivation] {cfg : AuthConfig} {desk : Desk} {attempt : LoginAttempt}

/-- Everything a login comes to on records that convert. -/
inductive LoginEnds (desk : Desk) (attempt : LoginAttempt) :
    Desk × Except Fault LoginResponse → Prop where
  /-- It is answered with an error, and at most the lockout tables change. -/
  | refused (lockout : LockoutStore) (raised : HttpError) :
      LoginEnds desk attempt ({ desk with lockout }, .error (.http raised))
  /-- The TACACS user has a session and a shadow record. -/
  | tacacs (role : Role) (endpointRoles templates : List String) (lockout : LockoutStore)
      (payload : TacacsToken) (user : PublicUser) :
      LoginEnds desk attempt
        ({ users :=
            upsertShadow desk.users attempt.username role endpointRoles templates attempt.stamp
           lockout },
          .ok { token := .tacacs payload, user })
  /-- The local account has a session. -/
  | localUser (record : AccountRecord) (role : Role) (lockout : LockoutStore) (user : PublicUser) :
      findByUsername desk.users attempt.username = some record → record.type = .user →
      LoginEnds desk attempt
        ({ users := editFirst (hasUsername attempt.username) (stamped attempt.stamp) desk.users
           lockout },
          .ok
            { token :=
                .localUser (createToken record.id record.username role record.gen
                  (seconds attempt.now))
              user })

/-- The login goes to TACACS, which accepts, and the portal has the profile or needs none. -/
def TacacsGrants (users : List AccountRecord) (attempt : LoginAttempt) : Prop :=
  (profileRecord users (profileName attempt.tacacs attempt.username)).isSome = true ∨
    anyOperatorProfiles users = false

omit [KeyDerivation] in
theorem refuse_ends : LoginEnds desk attempt (desk.refuse attempt) := .refused _ _

omit [PyText] [KeyDerivation] in
theorem refuse_not_ok (response : LoginResponse) : (desk.refuse attempt).2 ≠ .ok response :=
  fun h => by cases h

omit [PyText] [KeyDerivation] in
/-- The role of a grant is that of a record, or `viewer`. -/
theorem roleOf_grant (h : ∀ record ∈ desk.users, record.Converts) {name username text : String}
    {granted templates : List String}
    (hgrant : tacacsGrant desk.users name username = some (text, granted, templates)) :
    ∃ role, roleOf text = some role := by
  unfold tacacsGrant at hgrant
  split at hgrant
  · next profile hprofile =>
      cases hgrant
      have hconverts := h profile (List.mem_of_find?_eq_some hprofile)
      exact Option.isSome_iff_exists.mp (AccountRecord.converts_iff.mp hconverts)
  · split at hgrant
    · cases hgrant
    · cases hgrant
      exact ⟨.viewer, roleOf_value .viewer⟩

omit [KeyDerivation] in
theorem tacacsLogin_ends (h : ∀ record ∈ desk.users, record.Converts) :
    LoginEnds desk attempt (tacacsLogin desk attempt) ∧
      ((∃ response, (tacacsLogin desk attempt).2 = .ok response) ↔
        TacacsGrants desk.users attempt) := by
  have hgrants : TacacsGrants desk.users attempt ↔
      (tacacsGrant desk.users (profileName attempt.tacacs attempt.username)
        attempt.username).isSome = true := by
    unfold TacacsGrants tacacsGrant
    cases profileRecord desk.users (profileName attempt.tacacs attempt.username) with
    | some profile => simp
    | none => cases anyOperatorProfiles desk.users <;> simp
  rw [hgrants]
  unfold tacacsLogin
  dsimp only
  cases hgrant : tacacsGrant desk.users (profileName attempt.tacacs attempt.username)
      attempt.username with
  | none => exact ⟨.refused _ _, by simp⟩
  | some grant =>
      obtain ⟨text, granted, templates⟩ := grant
      obtain ⟨role, hrole⟩ := roleOf_grant h hgrant
      dsimp only
      rw [hrole]
      exact ⟨.tacacs _ _ _ _ _ _, by simp⟩

/-- The local part of a login under a name nobody has, or that of an account. -/
theorem localLogin_ends (h : ∀ record ∈ desk.users, record.Converts) :
    LoginEnds desk attempt (localLogin desk attempt) ∧
      ∀ record, findByUsername desk.users attempt.username = some record → record.type = .user →
        ((∃ response, (localLogin desk attempt).2 = .ok response) ↔
          verifyPassword attempt.password (record.passwordHash.getD "") = true) := by
  unfold localLogin
  cases hfound : findByUsername desk.users attempt.username with
  | none => exact ⟨refuse_ends, fun _ hrecord => by cases hrecord⟩
  | some record =>
      dsimp only
      by_cases htacacs : record.userType = some .operator ∨ record.userType = some .tacacsShadow
      · rw [if_pos htacacs]
        refine ⟨.refused _ _, fun other hother htype => ?_⟩
        cases hother
        rcases htacacs with hoperator | hshadow
        · simp [AccountRecord.type, hoperator] at htype
        · simp [AccountRecord.type, hshadow] at htype
      · rw [if_neg htacacs]
        have htype : record.type = .user := by
          unfold AccountRecord.type
          cases hkey : record.userType with
          | none => rfl
          | some kind => cases kind <;> simp_all
        obtain ⟨role, hrole⟩ := Option.isSome_iff_exists.mp
          (AccountRecord.converts_iff.mp (h record (List.mem_of_find?_eq_some hfound)))
        have hresponse : ∃ user, localResponse record attempt =
            .ok
              { token :=
                  .localUser (createToken record.id record.username role record.gen
                    (seconds attempt.now))
                user } := by
          simp [localResponse, AccountRecord.toPublic, stamped, hrole]
        obtain ⟨user, huser⟩ := hresponse
        by_cases hverify : verifyPassword attempt.password (record.passwordHash.getD "") = true
        · rw [if_pos hverify, huser]
          refine ⟨.localUser record role _ user hfound htype, fun other hother _ => ?_⟩
          cases hother
          exact iff_of_true ⟨_, rfl⟩ hverify
        · rw [if_neg hverify]
          refine ⟨refuse_ends, fun other hother _ => ?_⟩
          cases hother
          exact iff_of_false (fun ⟨response, hok⟩ => refuse_not_ok response hok) hverify

theorem login_ends (h : ∀ record ∈ desk.users, record.Converts) :
    LoginEnds desk attempt (login cfg desk attempt) := by
  unfold login
  split
  · split
    · exact (tacacsLogin_ends h).1
    · split
      · exact (localLogin_ends h).1
      · exact refuse_ends
  · exact (localLogin_ends h).1

/-- What lets a login into a local account: TACACS, or the password where TACACS is not asked or
refuses and the portal falls back. -/
def LetsIn (cfg : AuthConfig) (users : List AccountRecord) (record : AccountRecord)
    (attempt : LoginAttempt) : Prop :=
  if useTacacs cfg (some record) = true ∧ attempt.tacacs.success = true then
    TacacsGrants users attempt
  else
    (useTacacs cfg (some record) = true → cfg.tacacsFallbackToLocal = true) ∧
      verifyPassword attempt.password (record.passwordHash.getD "") = true

/-- When a login under the name of a local account succeeds. -/
theorem login_ok_iff (h : ∀ record ∈ desk.users, record.Converts) {record : AccountRecord}
    (hfound : findByUsername desk.users attempt.username = some record)
    (htype : record.type = .user) :
    (∃ response, (login cfg desk attempt).2 = .ok response) ↔
      LetsIn cfg desk.users record attempt := by
  have hlocal := (localLogin_ends h).2 record hfound htype
  unfold login LetsIn
  rw [hfound]
  cases useTacacs cfg (some record) with
  | false => simpa using hlocal
  | true =>
      cases attempt.tacacs.success with
      | true => simpa using (tacacsLogin_ends h).2
      | false =>
          cases cfg.tacacsFallbackToLocal with
          | true => simpa using hlocal
          | false =>
              refine iff_of_false (fun ⟨response, hok⟩ => ?_) (by simp)
              exact refuse_not_ok response hok

end Logins

end IsePortal.Recovery
