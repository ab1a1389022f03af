import IsePortal.Accounts.Records
import IsePortal.Library.Calls

/-!
# The user service on the stored records

The functions of `app/services/user_service.py` on `users.json` as it is: what they index may be
missing, and what they have saved stays saved when they raise afterwards. `StoreM` is a call that
reads and writes the file. `Served` is what holds of every call here: it keeps the records well
formed, and on well-formed records it never raises `KeyError`.
-/

namespace IsePortal

open Library StoredUsers

/-- A call on `users.json`: `get` is `load_users`, `set` is `save_users`. -/
abbrev StoreM := EStateM Fault StoredUsers

namespace StoredService

/-- What is computed from the loaded records may raise. -/
def attempt {α : Type} (computed : Except Fault α) : StoreM α :=
  match computed with
  | .error fault => throw fault
  | .ok value => pure value

/-- The same for what raises `HTTPException` only. -/
def checked {α : Type} (computed : Except HttpError α) : StoreM α :=
  match computed with
  | .error raised => throw (.http raised)
  | .ok value => pure value

/-- The record of the id, 404 where there is none. -/
def recordOf (users : StoredUsers) (userId : String) : StoreM StoredRecord :=
  match users.findById userId with
  | none => throw (.http userNotFound)
  | some record => pure record

/-! ## Administration -/

/-- `list_users` -/
def listUsers : StoreM (List PublicUser) := do
  let users ← get
  attempt ((users.filter fun record => record.userType ≠ some .tacacsShadow).mapM
    StoredRecord.toPublic)

/-- `get_user` -/
def getUser (userId : String) : StoreM PublicUser := do
  let users ← get
  let record ← recordOf users userId
  attempt record.toPublic

/-- The password of `create_user`, which only a user of TACACS may go without. -/
def checkPassword [PyText] (tacacsMode : Bool) (password : String) : Except HttpError Unit :=
  if password ≠ "" then validatePasswordStrength password
  else if tacacsMode then .ok ()
  else .error ⟨400, "Password er påkrævet i lokal auth-mode"⟩

/-- The record `create_user` appends. -/
def UserCreate.record (payload : UserCreate) (newId newHash now : String) : StoredRecord where
  id := some newId
  username := some payload.username
  passwordHash := some newHash
  role := some payload.role
  createdAt := some now

/-- `create_user`; `roleEnsured` is whether `ensure_user_role` has made the role of the name,
which is then assigned and saved a second time. -/
def createUser [PyText] (tacacsMode roleEnsured : Bool) (payload : UserCreate)
    (newId newHash now : String) : StoreM PublicUser := do
  let users ← get
  if (users.findByUsername payload.username).isSome then
    throw (.http ⟨409, "Brugernavn findes allerede"⟩)
  else
    checked (checkPassword tacacsMode payload.password)
    let record := UserCreate.record payload newId newHash now
    -- the record is saved before its role is known, and a second time with it
    set (users ++ [record])
    if roleEnsured then
      let assigned := { record with assignedEndpointRoles := some [payload.username] }
      set (users ++ [assigned])
      attempt assigned.toPublic
    else attempt record.toPublic

/-- What `update_user` assigns to a record with the role. -/
def UserUpdate.edit (payload : UserUpdate) (role : Role) (newHash : String)
    (record : StoredRecord) : StoredRecord :=
  let roleChanged := payload.role.any (· ≠ role)
  let pwChanged := payload.password.any (· ≠ "")
  { record with
    role := payload.role.or record.role
    userType := payload.userType.or record.userType
    passwordHash := if pwChanged then some newHash else record.passwordHash
    tokenGen :=
      if roleChanged || pwChanged then some (record.tokenGen.getD 0 + 1) else record.tokenGen }

/-- `update_user` -/
def updateUser (userId : String) (payload : UserUpdate) (newHash : String) :
    StoreM PublicUser := do
  let users ← get
  let record ← recordOf users userId
  let _ ← attempt (getItem "username" record.username)
  let role ← attempt (getItem "role" record.role)
  set (users.editFirst (hasId userId) (UserUpdate.edit payload role newHash))
  attempt (UserUpdate.edit payload role newHash record).toPublic

/-- The end of `set_endpoint_roles` and `set_user_templates`: the record is saved with what is
assigned, only then is it read for the log and the answer. -/
def assign (users : StoredUsers) (userId : String) (record : StoredRecord)
    (edit : StoredRecord → StoredRecord) : StoreM PublicUser := do
  set (users.editFirst (hasId userId) edit)
  let _ ← attempt (getItem "username" record.username)
  attempt (edit record).toPublic

/-- `set_endpoint_roles` -/
def setEndpointRoles [PyText] (catalog : List String) (userId : String) (roles : List String) :
    StoreM PublicUser := do
  let users ← get
  let record ← recordOf users userId
  let resolved ← checked (resolveRoles catalog roles [] [])
  assign users userId record fun record => { record with assignedEndpointRoles := some resolved }

/-- `set_user_templates` -/
def setUserTemplates (templates : List String) (userId : String) (templateIds : List String) :
    StoreM PublicUser := do
  let users ← get
  let record ← recordOf users userId
  let invalid := templateIds.filter (· ∉ templates)
  if invalid ≠ [] then
    throw (.http ⟨400, "Ukendte skabelon-IDs: " ++ ", ".intercalate invalid⟩)
  else
    assign users userId record fun record =>
      { record with assignedTemplates := some (dedupe templateIds) }

/-- `sum(1 for u in users if u["role"] == "admin" and u["id"] != user_id)` -/
def adminsLeft (userId : String) : StoredUsers → Except Fault Nat
  | [] => .ok 0
  | record :: rest => do
      let role ← getItem "role" record.role
      if role = .admin then
        let id ← getItem "id" record.id
        let others ← adminsLeft userId rest
        return if id ≠ userId then others + 1 else others
      else adminsLeft userId rest

/-- `[u for u in users if u["id"] != user_id]` -/
def without (userId : String) : StoredUsers → Except Fault StoredUsers
  | [] => .ok []
  | record :: rest => do
      let id ← getItem "id" record.id
      let others ← without userId rest
      return if id ≠ userId then record :: others else others

/-- `delete_user` -/
def deleteUser (userId requesterId : String) : StoreM Unit := do
  if userId = requesterId then
    throw (.http ⟨400, "Du kan ikke slette dig selv"⟩)
  else
    let users ← get
    let record ← recordOf users userId
    let admins ← attempt (adminsLeft userId users)
    let role ← attempt (getItem "role" record.role)
    if role = .admin ∧ admins = 0 then
      throw (.http ⟨400, "Kan ikke slette sidste admin — opret en ny admin først"⟩)
    else
      let _ ← attempt (getItem "username" record.username)
      let remaining ← attempt (without userId users)
      set remaining

/-- `LoginResponse` -/
structure LoginResponse where
  token : Token
  user : PublicUser

/-- `setup_first_admin` -/
def setupFirstAdmin (username newId newHash now : String) (seconds : Nat) :
    StoreM LoginResponse := do
  let users ← get
  if users.length ≠ 0 then
    throw (.http ⟨400, "Opsætning er allerede gennemført"⟩)
  else
    let record : StoredRecord :=
      { id := some newId, username := some username, passwordHash := some newHash
        role := some .admin, createdAt := some now, lastLogin := some now }
    set (users ++ [record])
    let user ← attempt record.toPublic
    return { token := .localUser (createToken newId username .admin 0 seconds), user }

/-- The block of the route `logout`: the tokens of the user are revoked. -/
def revokeTokens (userId : String) : StoreM Unit := do
  let users ← get
  set (users.incrementTokenGen userId)

/-! ## Login -/

/-- `_check_and_record_failure` and the 401 after it; `locked` is the 429 of a locked account. -/
def refuse {α : Type} (locked : Option HttpError) : StoreM α :=
  throw (.http (locked.getD ⟨401, "Forkert brugernavn eller password"⟩))

/-- A local admin is always validated locally. -/
def isAdminUser (record : Option StoredRecord) : Bool :=
  record.any fun record => record.role = some .admin ∧ record.userType.getD .user = .user

/-- Whether the login goes to TACACS. -/
def useTacacs (cfg : AuthConfig) (record : Option StoredRecord) : Bool :=
  cfg.authMode = "tacacs" ∧ cfg.tacacsServerHost ≠ "" ∧ cfg.tacacsSecret ≠ "" ∧
    isAdminUser record = false

/-- The profile record: the first with exactly that name that is no shadow record. -/
def profileRecord (users : StoredUsers) (name : String) : Option StoredRecord :=
  users.find? fun record =>
    record.username = some name ∧ record.userType ≠ some .tacacsShadow

/-- What a TACACS login grants: the role, endpoint roles and templates of the profile, or the
viewer bootstrap while no operator profile exists. -/
def tacacsGrant (users : StoredUsers) (name username : String) :
    StoreM (Role × List String × List String) :=
  match profileRecord users name with
  | some profile => do
      let role ← attempt (getItem "role" profile.role)
      return (role, profile.assignedEndpointRoles.getD [], profile.assignedTemplates.getD [])
  | none =>
      if users.any fun record => record.userType = some .operator then
        throw (.http ⟨401, "Operatørprofil '" ++ name ++ "' er ikke konfigureret i portalen. " ++
          "Kontakt din administrator."⟩)
      else pure (.viewer, [username], [])

/-- The shadow record of a first TACACS login. -/
def shadowRecord (username : String) (role : Role) (endpointRoles templates : List String)
    (now : String) : StoredRecord where
  id := some (shadowId username)
  username := some username
  passwordHash := some ""
  userType := some .tacacsShadow
  role := some role
  createdAt := some now
  lastLogin := some now
  assignedEndpointRoles := some endpointRoles
  assignedTemplates := some templates
  savedViews := some []
  prefs := some {}

/-- The upsert of the shadow record, so that the routes of `/me` work for TACACS users. -/
def upsertShadow (users : StoredUsers) (username : String) (role : Role)
    (endpointRoles templates : List String) (now : String) : StoredUsers :=
  match users.findById (shadowId username) with
  | none => users ++ [shadowRecord username role endpointRoles templates now]
  | some _ =>
      users.editFirst (hasId (shadowId username)) fun shadow =>
        { shadow with
          role := some role
          assignedEndpointRoles := some endpointRoles
          assignedTemplates := some templates
          lastLogin := some now }

/-- The branch of `login` after TACACS has accepted. -/
def tacacsLogin (users : StoredUsers) (result : TacacsAuthResult) (username now : String)
    (seconds : Nat) : StoreM LoginResponse := do
  let name := profileName result username
  let (role, granted, templates) ← tacacsGrant users name username
  let endpointRoles := withOwnRole granted username
  set (upsertShadow users username role endpointRoles templates now)
  return {
    token := .tacacs (createTacacsToken username role (some name) endpointRoles seconds)
    user :=
      { id := shadowId username, username, role
        createdAt := ((profileRecord users name).bind StoredRecord.createdAt).getD ""
        lastLogin := some now, assignedEndpointRoles := endpointRoles
        assignedTemplates := templates, userType := .user } }

/-- `record["last_login"] = _now_iso()` -/
def stampLogin (now : String) (record : StoredRecord) : StoredRecord :=
  { record with lastLogin := some now }

/-- The local part of `login`: the time is saved before the record is read for the token. -/
def localLogin [PyText] (verify : String → String → Bool) (locked : Option HttpError)
    (users : StoredUsers) (username password now : String) (seconds : Nat) :
    StoreM LoginResponse :=
  match users.findByUsername username with
  | none => refuse locked
  | some record =>
      if record.userType = some .operator ∨ record.userType = some .tacacsShadow then
        throw (.http ⟨401,
          "Denne konto autentificeres via TACACS+ og kan ikke bruges til lokal login."⟩)
      else if verify password (record.passwordHash.getD "") then do
        -- from here on the login time stays, also where a key is missing
        set (users.editFirst (hasUsername username) (stampLogin now))
        let id ← attempt (getItem "id" record.id)
        let name ← attempt (getItem "username" record.username)
        let role ← attempt (getItem "role" record.role)
        let user ← attempt (stampLogin now record).toPublic
        return {
          token := .localUser (createToken id name role (record.tokenGen.getD 0) seconds)
          user }
      else refuse locked

/-- `login`; `tacacs` is the outcome of `authenticate_and_authorize`. -/
def login [PyText] (cfg : AuthConfig) (tacacs : TacacsAuthResult)
    (verify : String → String → Bool) (locked : Option HttpError)
    (username password now : String) (seconds : Nat) : StoreM LoginResponse := do
  let users ← get
  if useTacacs cfg (users.findByUsername username) then
    if tacacs.success then tacacsLogin users tacacs username now seconds
    else if cfg.tacacsFallbackToLocal then
      localLogin verify locked users username password now seconds
    else refuse locked
  else localLogin verify locked users username password now seconds

/-! ## On well-formed records -/

/-- The call keeps the records well formed, and on well-formed records it raises nothing but
`HTTPException`; what it returns is of the kind. -/
def Served {α : Type} (call : StoreM α) (kind : α → Prop) : Prop :=
  Keeps WellFormed Fault.IsHttp call kind

theorem served_attempt {α : Type} {computed : Except Fault α}
    (h : ∃ value, computed = .ok value) : Served (attempt computed) (computed = .ok ·) := by
  obtain ⟨value, rfl⟩ := h
  exact Keeps.pure rfl

theorem served_checked {α : Type} (computed : Except HttpError α) :
    Served (checked computed) fun _ => True := by
  cases computed with
  | error raised => exact Keeps.throw ⟨raised, rfl⟩
  | ok value => exact Keeps.pure trivial

theorem served_recordOf {users : StoredUsers} (h : users.WellFormed) (userId : String) :
    Served (recordOf users userId) StoredRecord.Complete := by
  unfold recordOf
  split
  · exact Keeps.throw ⟨_, rfl⟩
  · next record hfound => exact Keeps.pure (wellFormed_find h hfound)

theorem getItem_ok {α : Type} (key : String) {stored : Option α} (h : stored.isSome) :
    ∃ value, getItem key stored = .ok value := by
  obtain ⟨value, rfl⟩ := Option.isSome_iff_exists.mp h
  exact ⟨value, rfl⟩

/-- A complete record is shown. -/
theorem served_toPublic {record : StoredRecord} (h : record.Complete) :
    Served (attempt record.toPublic) fun _ => True :=
  (served_attempt (StoredRecord.toPublic_ok_iff.mpr h)).mono fun _ _ => trivial

/-- All complete records are shown. -/
theorem mapM_toPublic_ok {users : StoredUsers} (h : users.WellFormed) :
    ∃ shown, users.mapM StoredRecord.toPublic = .ok shown := by
  induction users with
  | nil => exact ⟨[], rfl⟩
  | cons record rest ih =>
      obtain ⟨hrecord, hrest⟩ := List.forall_mem_cons.mp h
      obtain ⟨user, huser⟩ := StoredRecord.toPublic_ok_iff.mpr hrecord
      obtain ⟨others, hothers⟩ := ih hrest
      exact ⟨user :: others, by rw [List.mapM_cons, huser, hothers]; rfl⟩

theorem served_listUsers : Served listUsers fun _ => True := by
  refine Keeps.get.bind fun users husers => ?_
  have hlisted : WellFormed (users.filter fun record => record.userType ≠ some .tacacsShadow) :=
    fun record hrecord => husers record (List.mem_of_mem_filter hrecord)
  exact (served_attempt (mapM_toPublic_ok hlisted)).mono fun _ _ => trivial

theorem served_getUser (userId : String) : Served (getUser userId) fun _ => True := by
  refine Keeps.get.bind fun users husers => ?_
  refine (served_recordOf husers userId).bind fun record hrecord => ?_
  exact served_toPublic hrecord

theorem served_createUser [PyText] (tacacsMode roleEnsured : Bool) (payload : UserCreate)
    (newId newHash now : String) :
    Served (createUser tacacsMode roleEnsured payload newId newHash now) fun _ => True := by
  refine Keeps.get.bind fun users husers => ?_
  refine Keeps.ite (fun _ => Keeps.throw ⟨_, rfl⟩) fun _ => ?_
  refine (served_checked _).bind fun _ _ => ?_
  have hrecord : (UserCreate.record payload newId newHash now).Complete := ⟨rfl, rfl, rfl, rfl⟩
  refine (Keeps.set (wellFormed_append husers hrecord)).bind fun _ _ => ?_
  refine Keeps.ite (fun _ => ?_) fun _ => served_toPublic hrecord
  refine (Keeps.set (wellFormed_append husers ?_)).bind fun _ _ => served_toPublic ?_
  · exact hrecord
  · exact hrecord

/-- `update_user` takes nothing away from a record. -/
theorem complete_edit (payload : UserUpdate) (role : Role) (newHash : String)
    {record : StoredRecord} (h : record.Complete) :
    (UserUpdate.edit payload role newHash record).Complete := by
  obtain ⟨hid, hname, hrole, hcreated⟩ := h
  refine ⟨hid, hname, ?_, hcreated⟩
  simp only [UserUpdate.edit, Option.isSome_or, hrole, Bool.or_true]

theorem served_updateUser (userId : String) (payload : UserUpdate) (newHash : String) :
    Served (updateUser userId payload newHash) fun _ => True := by
  refine Keeps.get.bind fun users husers => ?_
  refine (served_recordOf husers userId).bind fun record hrecord => ?_
  refine (served_attempt (getItem_ok _ hrecord.2.1)).bind fun _ _ => ?_
  refine (served_attempt (getItem_ok _ hrecord.2.2.1)).bind fun role _ => ?_
  have hedit := fun (record : StoredRecord) (h : record.Complete) =>
    complete_edit payload role newHash h
  refine (Keeps.set (wellFormed_editFirst hedit husers)).bind fun _ _ => ?_
  exact served_toPublic (hedit record hrecord)

theorem served_assign {users : StoredUsers} (husers : users.WellFormed) (userId : String)
    {record : StoredRecord} (hrecord : record.Complete) {edit : StoredRecord → StoredRecord}
    (hedit : ∀ record, record.Complete → (edit record).Complete) :
    Served (assign users userId record edit) fun _ => True := by
  refine (Keeps.set (wellFormed_editFirst hedit husers)).bind fun _ _ => ?_
  refine (served_attempt (getItem_ok _ hrecord.2.1)).bind fun _ _ => ?_
  exact served_toPublic (hedit record hrecord)

theorem served_setEndpointRoles [PyText] (catalog : List String) (userId : String)
    (roles : List String) : Served (setEndpointRoles catalog userId roles) fun _ => True := by
  refine Keeps.get.bind fun users husers => ?_
  refine (served_recordOf husers userId).bind fun record hrecord => ?_
  refine (served_checked _).bind fun resolved _ => ?_
  exact served_assign husers userId hrecord fun _ h => h

theorem served_setUserTemplates (templates : List String) (userId : String)
    (templateIds : List String) :
    Served (setUserTemplates templates userId templateIds) fun _ => True := by
  refine Keeps.get.bind fun users husers => ?_
  refine (served_recordOf husers userId).bind fun record hrecord => ?_
  refine Keeps.ite (fun _ => Keeps.throw ⟨_, rfl⟩) fun _ => ?_
  exact served_assign husers userId hrecord fun _ h => h

/-- The admins among complete records are counted. -/
theorem adminsLeft_ok {users : StoredUsers} (h : users.WellFormed) (userId : String) :
    ∃ admins, adminsLeft userId users = .ok admins := by
  induction users with
  | nil => exact ⟨0, rfl⟩
  | cons record rest ih =>
      obtain ⟨hrecord, hrest⟩ := List.forall_mem_cons.mp h
      obtain ⟨role, hrole⟩ := getItem_ok "role" hrecord.2.2.1
      obtain ⟨id, hid⟩ := getItem_ok "id" hrecord.1
      obtain ⟨others, hothers⟩ := ih hrest
      simp only [adminsLeft, hrole, hid, hothers, bind, Except.bind]
      split
      · exact ⟨_, rfl⟩
      · exact ⟨others, rfl⟩

/-- What is left of complete records is complete. -/
theorem without_ok {users : StoredUsers} (h : users.WellFormed) (userId : String) :
    ∃ remaining, without userId users = .ok remaining ∧ remaining.WellFormed := by
  induction users with
  | nil => exact ⟨[], rfl, h⟩
  | cons record rest ih =>
      obtain ⟨hrecord, hrest⟩ := List.forall_mem_cons.mp h
      obtain ⟨id, hid⟩ := getItem_ok "id" hrecord.1
      obtain ⟨others, hothers, hcomplete⟩ := ih hrest
      refine ⟨if id ≠ userId then record :: others else others, ?_, ?_⟩
      · simp only [without, hid, hothers, bind, Except.bind]
        rfl
      · split
        · exact List.forall_mem_cons.mpr ⟨hrecord, hcomplete⟩
        · exact hcomplete

theorem served_deleteUser (userId requesterId : String) :
    Served (deleteUser userId requesterId) fun _ => True := by
  refine Keeps.ite (fun _ => Keeps.throw ⟨_, rfl⟩) fun _ => ?_
  refine Keeps.get.bind fun users husers => ?_
  refine (served_recordOf husers userId).bind fun record hrecord => ?_
  refine (served_attempt (adminsLeft_ok husers userId)).bind fun admins _ => ?_
  refine (served_attempt (getItem_ok _ hrecord.2.2.1)).bind fun role _ => ?_
  refine Keeps.ite (fun _ => Keeps.throw ⟨_, rfl⟩) fun _ => ?_
  refine (served_attempt (getItem_ok _ hrecord.2.1)).bind fun _ _ => ?_
  obtain ⟨remaining, hremaining, hcomplete⟩ := without_ok husers userId
  refine (served_attempt ⟨remaining, hremaining⟩).bind fun kept hkept => ?_
  rw [hremaining] at hkept
  cases hkept
  exact Keeps.set hcomplete

theorem served_setupFirstAdmin (username newId newHash now : String) (seconds : Nat) :
    Served (setupFirstAdmin username newId newHash now seconds) fun _ => True := by
  refine Keeps.get.bind fun users husers => ?_
  refine Keeps.ite (fun _ => Keeps.throw ⟨_, rfl⟩) fun _ => ?_
  refine (Keeps.set (wellFormed_append husers ?_)).bind fun _ _ => ?_
  · exact ⟨rfl, rfl, rfl, rfl⟩
  · refine (served_toPublic ?_).bind fun _ _ => Keeps.pure trivial
    exact ⟨rfl, rfl, rfl, rfl⟩

theorem served_revokeTokens (userId : String) :
    Served (revokeTokens userId) fun _ => True := by
  refine Keeps.get.bind fun users husers => Keeps.set ?_
  refine wellFormed_editFirst ?_ husers
  exact fun _ h => h

theorem served_tacacsGrant {users : StoredUsers} (husers : users.WellFormed)
    (name username : String) : Served (tacacsGrant users name username) fun _ => True := by
  unfold tacacsGrant
  split
  · next profile hprofile =>
      have hcomplete := wellFormed_find husers hprofile
      refine (served_attempt (getItem_ok _ hcomplete.2.2.1)).bind fun role _ => ?_
      exact Keeps.pure trivial
  · exact Keeps.ite (fun _ => Keeps.throw ⟨_, rfl⟩) fun _ => Keeps.pure trivial

/-- A TACACS login leaves a whole shadow record. -/
theorem wellFormed_upsertShadow {users : StoredUsers} (husers : users.WellFormed)
    (username : String) (role : Role) (endpointRoles templates : List String) (now : String) :
    (upsertShadow users username role endpointRoles templates now).WellFormed := by
  unfold upsertShadow
  split
  · exact wellFormed_append husers ⟨rfl, rfl, rfl, rfl⟩
  · refine wellFormed_editFirst ?_ husers
    exact fun _ h => ⟨h.1, h.2.1, rfl, h.2.2.2⟩

theorem served_tacacsLogin {users : StoredUsers} (husers : users.WellFormed)
    (result : TacacsAuthResult) (username now : String) (seconds : Nat) :
    Served (tacacsLogin users result username now seconds) fun _ => True := by
  refine (served_tacacsGrant husers _ username).bind fun granted _ => ?_
  refine (Keeps.set (wellFormed_upsertShadow husers _ _ _ _ _)).bind fun _ _ => ?_
  exact Keeps.pure trivial

theorem served_localLogin [PyText] (verify : String → String → Bool) (locked : Option HttpError)
    {users : StoredUsers} (husers : users.WellFormed) (username password now : String)
    (seconds : Nat) :
    Served (localLogin verify locked users username password now seconds) fun _ => True := by
  unfold localLogin
  split
  · exact Keeps.throw ⟨_, rfl⟩
  · next record hfound =>
      have hrecord := wellFormed_find husers hfound
      have hstamp : ∀ record : StoredRecord, record.Complete → (stampLogin now record).Complete :=
        fun _ h => h
      refine Keeps.ite (fun _ => Keeps.throw ⟨_, rfl⟩) fun _ => ?_
      refine Keeps.ite (fun _ => ?_) fun _ => Keeps.throw ⟨_, rfl⟩
      refine (Keeps.set (wellFormed_editFirst hstamp husers)).bind fun _ _ => ?_
      refine (served_attempt (getItem_ok _ hrecord.1)).bind fun id _ => ?_
      refine (served_attempt (getItem_ok _ hrecord.2.1)).bind fun name _ => ?_
      refine (served_attempt (getItem_ok _ hrecord.2.2.1)).bind fun role _ => ?_
      exact (served_toPublic (hstamp record hrecord)).bind fun _ _ => Keeps.pure trivial

theorem served_login [PyText] (cfg : AuthConfig) (tacacs : TacacsAuthResult)
    (verify : String → String → Bool) (locked : Option HttpError)
    (username password now : String) (seconds : Nat) :
    Served (login cfg tacacs verify locked username password now seconds) fun _ => True := by
  refine Keeps.get.bind fun users husers => ?_
  have hlocal := served_localLogin verify locked husers username password now seconds
  refine Keeps.ite (fun _ => ?_) fun _ => hlocal
  refine Keeps.ite (fun _ => served_tacacsLogin husers _ _ _ _) fun _ => ?_
  exact Keeps.ite (fun _ => hlocal) fun _ => Keeps.throw ⟨_, rfl⟩

end StoredService

end IsePortal
