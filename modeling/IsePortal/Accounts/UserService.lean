import IsePortal.Accounts.UserStore

/-!
# The user service

The operations of `app/services/user_service.py` on the list of users they load: each answers
with the change it saves or with the `HTTPException` it raises. What comes from outside is an
argument: a fresh id, a password hash (salted, so drawn anew each time), the time, the outcome
of TACACS.
-/

namespace IsePortal

open Library

variable [PyText]

/-! ## Administration -/

/-- The loop of `set_endpoint_roles` over the wanted names. `seen` holds the lower-case names
that were taken, `resolved` the names in the spelling of the catalogue. -/
def resolveRoles (catalog : List String) :
    List String → List String → List String → Except HttpError (List String)
  | [], _, resolved => .ok resolved
  | raw :: rest, seen, resolved =>
      let name := PyText.strip raw
      if name = "" then resolveRoles catalog rest seen resolved
      else
        match catalog.find? fun entry => PyText.lower entry = PyText.lower name with
        | none => .error ⟨400, "Rollen '" ++ name ++ "' findes ikke i kataloget"⟩
        | some canonical =>
            if PyText.lower canonical ∈ seen then resolveRoles catalog rest seen resolved
            else
              resolveRoles catalog rest (PyText.lower canonical :: seen) (resolved ++ [canonical])

/-- The answer for an id without a record. -/
def userNotFound : HttpError := ⟨404, "Bruger ikke fundet"⟩

/-- `set_endpoint_roles` -/
def setEndpointRoles (catalog : List String) (users : Users) (userId : String)
    (roles : List String) : Except HttpError Change :=
  match users.findById userId with
  | none => .error userNotFound
  | some _ =>
      match resolveRoles catalog roles [] [] with
      | .error raised => .error raised
      | .ok resolved => .ok (.edit userId { assignedEndpointRoles := some resolved })

/-- The texts of `_validate_password_strength` for what a password lacks. -/
def passwordErrors (password : String) : List String :=
  (if password.length < 10 then ["mindst 10 tegn"] else []) ++
  (if password.toList.any PyText.isUpper then [] else ["mindst ét stort bogstav"]) ++
  (if password.toList.any PyText.isLower then [] else ["mindst ét lille bogstav"]) ++
  (if password.toList.any PyText.isDigit then [] else ["mindst ét tal"])

/-- `_validate_password_strength` -/
def validatePasswordStrength (password : String) : Except HttpError Unit :=
  match passwordErrors password with
  | [] => .ok ()
  | errors => .error ⟨400, "Password krav ikke opfyldt: " ++ ", ".intercalate errors ++ "."⟩

/-- `UserCreate` -/
structure UserCreate where
  username : String
  password : String := ""
  role : Role := .viewer
  deriving DecidableEq

/-- The first block of `create_user`. `newHash` is the hash of the password, or of a random
one for a user that logs in through TACACS. -/
def createUser (tacacsMode : Bool) (users : Users) (payload : UserCreate) (newId newHash : String)
    (now : String) : Except HttpError Change :=
  if (users.findByUsername payload.username).isSome then
    .error ⟨409, "Brugernavn findes allerede"⟩
  else
    let record : UserRecord :=
      { username := payload.username, passwordHash := newHash, role := payload.role,
        createdAt := now }
    if payload.password ≠ "" then
      match validatePasswordStrength payload.password with
      | .error raised => .error raised
      | .ok () => .ok (.create newId record)
    else if tacacsMode then .ok (.create newId record)
    else .error ⟨400, "Password er påkrævet i lokal auth-mode"⟩

omit [PyText] in
/-- The second block of `create_user`: the role that bears the user's name. -/
def assignOwnRole (newId username : String) : Change :=
  .edit newId { assignedEndpointRoles := some [username] }

/-- `UserUpdate` -/
structure UserUpdate where
  role : Option Role := none
  password : Option String := none
  userType : Option UserType := none
  deriving DecidableEq

omit [PyText] in
/-- `update_user`: a new role or a new password ends the user's tokens. -/
def updateUser (users : Users) (userId : String) (payload : UserUpdate) (newHash : String) :
    Except HttpError Change :=
  match users.findById userId with
  | none => .error userNotFound
  | some record =>
      let roleChanged := payload.role.any (· ≠ record.role)
      let pwChanged := payload.password.any (· ≠ "")
      .ok (.edit userId
        { role := payload.role, userType := payload.userType
          passwordHash := if pwChanged then some newHash else none
          bumpTokenGen := roleChanged || pwChanged })

omit [PyText] in
/-- `list(dict.fromkeys(names))`: the first occurrence of every name, in order. -/
def dedupe : List String → List String
  | [] => []
  | name :: rest => name :: (dedupe rest).filter (· ≠ name)

omit [PyText] in
/-- `set_user_templates` -/
def setUserTemplates (templates : List String) (users : Users) (userId : String)
    (templateIds : List String) : Except HttpError Change :=
  match users.findById userId with
  | none => .error userNotFound
  | some _ =>
      match templateIds.filter (· ∉ templates) with
      | [] => .ok (.edit userId { assignedTemplates := some (dedupe templateIds) })
      | invalid => .error ⟨400, "Ukendte skabelon-IDs: " ++ ", ".intercalate invalid⟩

omit [PyText] in
/-- The number of admins besides one id, as `delete_user` counts them: by role alone. -/
def adminsLeft (users : Users) (userId : String) : Nat :=
  users.entries.countP fun entry => entry.2.role = .admin ∧ entry.1 ≠ userId

omit [PyText] in
/-- `delete_user` -/
def deleteUser (users : Users) (userId requesterId : String) : Except HttpError Change :=
  if userId = requesterId then .error ⟨400, "Du kan ikke slette dig selv"⟩
  else
    match users.findById userId with
    | none => .error userNotFound
    | some record =>
        if record.role = .admin ∧ adminsLeft users userId = 0 then
          .error ⟨400, "Kan ikke slette sidste admin — opret en ny admin først"⟩
        else .ok (.delete userId)

/-- `ChangePasswordRequest` -/
structure ChangePasswordRequest where
  currentPassword : String
  newPassword : String
  deriving DecidableEq

/-- `change_password`; `verify` is `verify_password`. -/
def changePassword (verify : String → String → Bool) (users : Users) (userId : String)
    (payload : ChangePasswordRequest) (newHash : String) : Except HttpError Change :=
  match users.findById userId with
  | none => .error userNotFound
  | some record =>
      if verify payload.currentPassword record.passwordHash then
        match validatePasswordStrength payload.newPassword with
        | .error raised => .error raised
        | .ok () => .ok (.edit userId { passwordHash := some newHash, bumpTokenGen := true })
      else .error ⟨400, "Forkert nuværende password"⟩

omit [PyText] in
/-- `setup_required` -/
def setupRequired (users : Users) : Bool := users.size = 0

omit [PyText] in
/-- The block of `setup_first_admin`; the check `setup_required` comes before it. -/
def setupFirstAdmin (username newId newHash now : String) : Change :=
  .create newId
    { username := username, passwordHash := newHash, role := .admin, createdAt := now,
      lastLogin := some now }

omit [PyText] in
/-- The block of the route `logout`: the token of the user is revoked. -/
def revokeTokens (userId : String) : Change := .edit userId { bumpTokenGen := true }

/-! ## Login -/

/-- The part of `auth_config.json` the login reads. -/
structure AuthConfig where
  authMode : String := "local"
  tacacsServerHost : String := ""
  tacacsSecret : String := ""
  tacacsFallbackToLocal : Bool := true
  deriving DecidableEq

/-- `TacacsAuthResult` -/
structure TacacsAuthResult where
  success : Bool
  operatorProfileName : Option String := none
  deriving DecidableEq

/-- How a login ends. -/
inductive LoginVerdict where
  /-- The login succeeds and saves the change. -/
  | success (change : Change)
  /-- TACACS accepts, but the portal has no such operator profile: 401. -/
  | profileMissing (profileName : String)
  /-- TACACS refuses and there is no fallback: a failure is recorded, 401. -/
  | tacacsRefused
  /-- The account only logs in through TACACS: 401. -/
  | blocked
  /-- Unknown user or wrong password: a failure is recorded, 401. -/
  | badCredentials
  deriving DecidableEq

omit [PyText] in
/-- A local admin is always validated locally. -/
def isAdminUser (record : Option (String × UserRecord)) : Bool :=
  record.any fun entry => entry.2.role = .admin ∧ entry.2.type = .user

omit [PyText] in
/-- Whether the login goes to TACACS. -/
def useTacacs (cfg : AuthConfig) (record : Option (String × UserRecord)) : Bool :=
  cfg.authMode = "tacacs" ∧ cfg.tacacsServerHost ≠ "" ∧ cfg.tacacsSecret ≠ "" ∧
    isAdminUser record = false

omit [PyText] in
/-- `result.operator_profile_name or payload.username` -/
def profileName (result : TacacsAuthResult) (username : String) : String :=
  match result.operatorProfileName with
  | none => username
  | some name => if name = "" then username else name

omit [PyText] in
/-- The profile record: the first with exactly that name that is no shadow record. -/
def profileRecord (users : Users) (name : String) : Option UserRecord :=
  (users.entries.find? fun entry =>
    entry.2.username = name ∧ entry.2.userType ≠ some .tacacsShadow).map Prod.snd

omit [PyText] in
/-- Whether any operator profile exists. -/
def anyOperatorProfiles (users : Users) : Bool :=
  users.entries.any fun entry => entry.2.userType = some .operator

omit [PyText] in
/-- What a TACACS login grants: the role, endpoint roles and templates of the profile, or the
viewer bootstrap while no operator profile exists. `none` where the login is refused. -/
def tacacsGrant (users : Users) (name username : String) :
    Option (Role × List String × List String) :=
  match profileRecord users name with
  | some profile =>
      some (profile.role, profile.assignedEndpointRoles.getD [],
        profile.assignedTemplates.getD [])
  | none => if anyOperatorProfiles users then none else some (.viewer, [username], [])

omit [PyText] in
/-- The id of the shadow record of a TACACS user. -/
def shadowId (username : String) : String := "tacacs:" ++ username

omit [PyText] in
/-- The upsert of the shadow record. -/
def upsertShadow (username : String) (role : Role) (endpointRoles templates : List String)
    (now : String) : Change :=
  .upsert (shadowId username)
    { role := some role, assignedEndpointRoles := some endpointRoles
      assignedTemplates := some templates, lastLogin := some now }
    { username := username, passwordHash := "", userType := some .tacacsShadow, role := role
      createdAt := now, lastLogin := some now, assignedEndpointRoles := some endpointRoles
      assignedTemplates := some templates }

omit [PyText] in
/-- The branch of `login` after TACACS has accepted. -/
def tacacsLogin (users : Users) (result : TacacsAuthResult) (username now : String) :
    LoginVerdict :=
  let name := profileName result username
  match tacacsGrant users name username with
  | none => .profileMissing name
  | some (role, endpointRoles, templates) =>
      let endpointRoles :=
        if username ∈ endpointRoles then endpointRoles else endpointRoles ++ [username]
      .success (upsertShadow username role endpointRoles templates now)

omit [PyText] in
/-- The local part of `login`. -/
def localLogin (verify : String → String → Bool) (record : Option (String × UserRecord))
    (password now : String) : LoginVerdict :=
  match record with
  | none => .badCredentials
  | some (userId, record) =>
      if record.userType = some .operator ∨ record.userType = some .tacacsShadow then .blocked
      else if verify password record.passwordHash then
        .success (.edit userId { lastLogin := some now })
      else .badCredentials

/-- `login` on the list it loaded; `tacacs` is the outcome of `authenticate_and_authorize`. -/
def login (cfg : AuthConfig) (tacacs : TacacsAuthResult) (verify : String → String → Bool)
    (users : Users) (username password now : String) : LoginVerdict :=
  let record := users.findByUsername username
  if useTacacs cfg record then
    if tacacs.success then tacacsLogin users tacacs username now
    else if cfg.tacacsFallbackToLocal then localLogin verify record password now
    else .tacacsRefused
  else localLogin verify record password now

/-! ## What the operations save -/

theorem createUser_ok {tacacsMode : Bool} {users : Users} {payload : UserCreate}
    {newId newHash now : String} {change : Change}
    (h : createUser tacacsMode users payload newId newHash now = .ok change) :
    ∃ record, change = .create newId record := by
  simp only [createUser] at h
  split at h
  · cases h
  · split at h
    · split at h
      · cases h
      · cases h
        exact ⟨_, rfl⟩
    · -- without a password the user is for TACACS
      split at h
      · cases h
        exact ⟨_, rfl⟩
      · cases h

theorem setEndpointRoles_ok {catalog : List String} {users : Users} {userId : String}
    {roles : List String} {change : Change}
    (h : setEndpointRoles catalog users userId roles = .ok change) :
    ∃ resolved, change = .edit userId { assignedEndpointRoles := some resolved } := by
  unfold setEndpointRoles at h
  split at h
  · cases h
  · split at h
    · cases h
    · rename_i resolved hresolved
      cases h
      exact ⟨resolved, rfl⟩

omit [PyText] in
theorem updateUser_ok {users : Users} {userId : String} {payload : UserUpdate}
    {newHash : String} {change : Change}
    (h : updateUser users userId payload newHash = .ok change) :
    ∃ record, users.get? userId = some record ∧
      change = .edit userId
        { role := payload.role, userType := payload.userType
          passwordHash := if payload.password.any (· ≠ "") then some newHash else none
          bumpTokenGen := payload.role.any (· ≠ record.role) ||
            payload.password.any (· ≠ "") } := by
  unfold updateUser at h
  split at h
  · cases h
  · rename_i record hrecord
    cases h
    exact ⟨record, hrecord, rfl⟩

omit [PyText] in
theorem deleteUser_ok {users : Users} {userId requesterId : String} {change : Change}
    (h : deleteUser users userId requesterId = .ok change) : change = .delete userId := by
  unfold deleteUser at h
  split at h
  · cases h
  · split at h
    · cases h
    · -- an admin, with no other admin left, stays
      split at h
      · cases h
      · cases h
        rfl

theorem changePassword_ok {verify : String → String → Bool} {users : Users} {userId : String}
    {payload : ChangePasswordRequest} {newHash : String} {change : Change}
    (h : changePassword verify users userId payload newHash = .ok change) :
    (∃ record, users.get? userId = some record) ∧
      change = .edit userId { passwordHash := some newHash, bumpTokenGen := true } := by
  unfold changePassword at h
  split at h
  · cases h
  · rename_i record hrecord
    split at h
    · split at h
      · cases h
      · cases h
        exact ⟨⟨record, hrecord⟩, rfl⟩
    · cases h

omit [PyText] in
/-- A local login that succeeds only sets the login time. -/
theorem localLogin_success {verify : String → String → Bool}
    {record : Option (String × UserRecord)} {password now : String} {change : Change}
    (h : localLogin verify record password now = .success change) :
    ∃ userId, change = .edit userId { lastLogin := some now } := by
  simp only [localLogin] at h
  split at h
  · cases h
  · rename_i userId record
    split at h
    · cases h
    · -- the password has been verified or the answer is 401
      split at h
      · cases h
        exact ⟨userId, rfl⟩
      · cases h

/-- A login that succeeds sets the login time of a record, or grants a TACACS user what its
profile allows. -/
theorem login_success {cfg : AuthConfig} {tacacs : TacacsAuthResult}
    {verify : String → String → Bool} {users : Users} {username password now : String}
    {change : Change} (h : login cfg tacacs verify users username password now = .success change) :
    (∃ userId, change = .edit userId { lastLogin := some now }) ∨
      (useTacacs cfg (users.findByUsername username) = true ∧ tacacs.success = true ∧
        ∃ role endpointRoles templates granted,
          tacacsGrant users (profileName tacacs username) username =
            some (role, granted, templates) ∧
          change = upsertShadow username role endpointRoles templates now) := by
  simp only [login] at h
  split at h
  · rename_i htacacs
    split at h
    · rename_i hsuccess
      right
      refine ⟨htacacs, hsuccess, ?_⟩
      simp only [tacacsLogin] at h
      split at h
      · cases h
      · rename_i role granted templates hgrant
        cases h
        exact ⟨role, _, templates, granted, hgrant, rfl⟩
    · split at h
      · exact Or.inl (localLogin_success h)
      · cases h
  · exact Or.inl (localLogin_success h)

end IsePortal
