import IsePortal.Accounts.UserService
import IsePortal.Api.Deps

/-!
# Session tokens

The tokens of `app/core/auth.py`, the check every request passes (`get_current_user` of
`app/api/deps.py`) and the routes of `app/api/auth.py` that mint or revoke them. Nobody but the
portal can sign a payload, so a `Token` is one the portal has signed. Tokens count the time in
whole seconds, `int(time.time())`.
-/

namespace IsePortal

open Library

/-- `TOKEN_TTL_SECONDS` -/
def tokenTtlSeconds : Nat := 3600

/-- The payload `create_token` signs. -/
structure LocalToken where
  sub : String
  username : String
  role : Role
  gen : Nat
  iat : Nat
  exp : Nat
  deriving DecidableEq

/-- The payload `create_tacacs_token` signs; its `sub` is the username. -/
structure TacacsToken where
  username : String
  role : Role
  operatorProfile : String
  endpointRoles : List String
  iat : Nat
  exp : Nat
  deriving DecidableEq

/-- A signed payload; the `auth_type` tells the two kinds apart. -/
inductive Token where
  | localUser (payload : LocalToken)
  | tacacs (payload : TacacsToken)
  deriving DecidableEq

/-- `create_token` -/
def createToken (userId username : String) (role : Role) (gen now : Nat) : LocalToken where
  sub := userId
  username := username
  role := role
  gen := gen
  iat := now
  exp := now + tokenTtlSeconds

/-- `create_tacacs_token` -/
def createTacacsToken (username : String) (role : Role) (operatorProfile : Option String)
    (endpointRoles : List String) (now : Nat) : TacacsToken where
  username := username
  role := role
  operatorProfile := operatorProfile.getD ""
  endpointRoles := endpointRoles
  iat := now
  exp := now + tokenTtlSeconds

/-- The last second of a token. -/
def Token.exp : Token → Nat
  | .localUser payload => payload.exp
  | .tacacs payload => payload.exp

/-- `verify_token`; the signature holds. -/
def verifyToken (now : Nat) (token : Token) : Option Token :=
  if token.exp < now then none else some token

/-- The user `get_current_user` answers with. -/
structure CurrentUser extends User where
  id : String
  createdAt : String
  lastLogin : Option String
  assignedTemplates : List String

/-- The user of a TACACS token: everything is in the token. -/
def TacacsToken.user (payload : TacacsToken) : CurrentUser where
  username := payload.username
  role := payload.role
  assignedEndpointRoles := payload.endpointRoles
  id := shadowId payload.username
  createdAt := ""
  lastLogin := none
  assignedTemplates := []

/-- The user of a record. -/
def UserRecord.currentUser (record : UserRecord) (userId : String) : CurrentUser where
  username := record.username
  role := record.role
  assignedEndpointRoles := record.assignedEndpointRoles.getD []
  id := userId
  createdAt := record.createdAt
  lastLogin := record.lastLogin
  assignedTemplates := record.assignedTemplates.getD []

/-- The local branch of `get_current_user`: the token must agree with the record of its user. -/
def localUser (users : Users) (payload : LocalToken) : Except HttpError CurrentUser :=
  match users.findById payload.sub with
  | none => .error ⟨401, "Brugeren findes ikke længere"⟩
  | some record =>
      if record.role ≠ payload.role then .error ⟨401, "Rolle er ændret — login igen"⟩
      else if payload.gen ≠ record.tokenGen.getD 0 then
        .error ⟨401, "Token er tilbagekaldt — log ind igen"⟩
      else .ok (record.currentUser payload.sub)

/-- `get_current_user` -/
def getCurrentUser (users : Users) (now : Nat) (presented : Option Token) :
    Except HttpError CurrentUser :=
  match presented with
  | none => .error ⟨401, "Manglende token"⟩
  | some token =>
      match verifyToken now token with
      | none => .error ⟨401, "Ugyldigt eller udløbet token"⟩
      | some (.tacacs payload) =>
          if payload.username = "" then .error ⟨401, "Ugyldigt TACACS+ token"⟩
          else .ok payload.user
      | some (.localUser payload) => localUser users payload

/-- `user.id.startswith("tacacs:")` -/
def isTacacsId (userId : String) : Bool := "tacacs:".toList.isPrefixOf userId.toList

/-- The route `refresh`: a new token for the user of an accepted one. -/
def refreshToken (users : Users) (user : CurrentUser) (now : Nat) : Token :=
  if isTacacsId user.id then
    .tacacs (createTacacsToken user.username user.role none user.assignedEndpointRoles now)
  else
    let currentGen := ((users.findById user.id).map fun record => record.tokenGen.getD 0).getD 0
    .localUser (createToken user.id user.username user.role currentGen now)

/-- The route `logout`: the user whose tokens are revoked. Neither the role nor the generation
of the token is looked at. -/
def logoutUser (now : Nat) (presented : Option Token) : Option String :=
  match presented.bind (verifyToken now) with
  | some (.localUser payload) => if payload.sub = "" then none else some payload.sub
  | _ => none

/-- The route `change_password`, for a user TACACS does not authenticate. -/
def changePasswordRoute [PyText] (verify : String → String → Bool) (users : Users) (now : Nat)
    (presented : Option Token) (payload : ChangePasswordRequest) (newHash : String) :
    Except HttpError Change :=
  match getCurrentUser users now presented with
  | .error raised => .error raised
  | .ok user =>
      if isTacacsId user.id then
        .error ⟨400, "TACACS+-autentiserede brugere kan ikke skifte password her — " ++
          "kontakt din netværksadministrator"⟩
      else changePassword verify users user.id payload newHash

/-- `next(u for u in users …)`: the entry of the operator profile a TACACS login uses. -/
def profileEntry (users : Users) (name : String) : Option (String × UserRecord) :=
  users.entries.find? fun entry =>
    entry.2.username = name ∧ entry.2.userType ≠ some .tacacsShadow

/-- The endpoint roles of a TACACS user: those of the profile and the username. -/
def withOwnRole (endpointRoles : List String) (username : String) : List String :=
  if username ∈ endpointRoles then endpointRoles else endpointRoles ++ [username]

/-- The token of a login that succeeds. -/
def loginToken [PyText] (cfg : AuthConfig) (tacacs : TacacsAuthResult) (users : Users)
    (username : String) (now : Nat) : Option Token :=
  let record := users.findByUsername username
  if useTacacs cfg record ∧ tacacs.success then
    let name := profileName tacacs username
    (tacacsGrant users name username).map fun grant =>
      .tacacs (createTacacsToken username grant.1 (some name)
        (withOwnRole grant.2.1 username) now)
  else
    record.map fun entry =>
      .localUser (createToken entry.1 entry.2.username entry.2.role (entry.2.tokenGen.getD 0) now)

/-! ## When a local token is accepted -/

/-- What a token must agree with: the role and the generation of the record. -/
def UserRecord.key (record : UserRecord) : Role × Nat := (record.role, record.tokenGen.getD 0)

/-- The role and generation a token carries. -/
def LocalToken.key (payload : LocalToken) : Role × Nat := (payload.role, payload.gen)

/-- A local token is accepted in its lifetime, while the record has its role and generation. -/
theorem getCurrentUser_localUser_iff {users : Users} {now : Nat} {payload : LocalToken}
    {user : CurrentUser} :
    getCurrentUser users now (some (.localUser payload)) = .ok user ↔
      now ≤ payload.exp ∧ ∃ record, users.get? payload.sub = some record ∧
        record.key = payload.key ∧ user = record.currentUser payload.sub := by
  have hverify : verifyToken now (.localUser payload) =
      if payload.exp < now then none else some (.localUser payload) := rfl
  simp only [getCurrentUser, hverify]
  by_cases hexp : payload.exp < now
  · simp only [hexp, if_true, reduceCtorEq, false_iff, not_and]
    omega
  · have hlife : now ≤ payload.exp := by omega
    simp only [hexp, if_false, hlife, true_and, localUser, Users.findById]
    cases hrecord : users.get? payload.sub with
    | none => simp
    | some record =>
        by_cases hrole : record.role = payload.role
        · by_cases hgen : payload.gen = record.tokenGen.getD 0
          · simp [hrole, hgen, UserRecord.key, LocalToken.key, eq_comm]
          · have hgen' : ¬ record.tokenGen.getD 0 = payload.gen := Ne.symm hgen
            simp [hrole, hgen, hgen', UserRecord.key, LocalToken.key]
        · simp [hrole, UserRecord.key, LocalToken.key]

/-- A TACACS token is accepted in its lifetime, whatever has become of its profile. -/
theorem getCurrentUser_tacacs_iff {users : Users} {now : Nat} {payload : TacacsToken}
    {user : CurrentUser} :
    getCurrentUser users now (some (.tacacs payload)) = .ok user ↔
      now ≤ payload.exp ∧ payload.username ≠ "" ∧ user = payload.user := by
  have hverify : verifyToken now (.tacacs payload) =
      if payload.exp < now then none else some (.tacacs payload) := rfl
  simp only [getCurrentUser, hverify]
  by_cases hexp : payload.exp < now
  · simp only [hexp, if_true, reduceCtorEq, false_iff, not_and]
    omega
  · have hlife : now ≤ payload.exp := by omega
    simp only [hexp, if_false, hlife, true_and]
    by_cases hname : payload.username = ""
    · simp [hname]
    · simp [hname, eq_comm]

/-! ## What the routes answer -/

@[simp] theorem isTacacsId_shadowId (username : String) :
    isTacacsId (shadowId username) = true := by
  rw [isTacacsId, shadowId, String.toList_append, List.isPrefixOf_iff_prefix]
  exact List.prefix_append _ _

/-- Only a local token of an existing record changes a password. -/
theorem changePasswordRoute_ok [PyText] {verify : String → String → Bool} {users : Users}
    {now : Nat} {token : Token} {payload : ChangePasswordRequest} {newHash : String}
    {change : Change}
    (h : changePasswordRoute verify users now (some token) payload newHash = .ok change) :
    ∃ presented record, token = .localUser presented ∧
      users.get? presented.sub = some record ∧
      change = .edit presented.sub { passwordHash := some newHash, bumpTokenGen := true } := by
  unfold changePasswordRoute at h
  split at h
  · cases h
  · rename_i user huser
    split at h
    · cases h
    · rename_i hid
      cases token with
      | tacacs presented =>
          obtain ⟨-, -, rfl⟩ := getCurrentUser_tacacs_iff.mp huser
          exact absurd (isTacacsId_shadowId presented.username) hid
      | localUser presented =>
          obtain ⟨-, record, hrecord, -, rfl⟩ := getCurrentUser_localUser_iff.mp huser
          exact ⟨presented, record, rfl, hrecord, (changePassword_ok h).2⟩

/-- The record a login finds is one of the store. -/
theorem get?_of_findByUsername [PyText] {users : Users} {username userId : String}
    {record : UserRecord} (h : users.findByUsername username = some (userId, record)) :
    users.get? userId = some record :=
  Dict.get?_eq_some_iff.mpr (List.mem_of_find?_eq_some h)

/-- A login that is not decided by TACACS mints a local token for the record it found. -/
theorem loginToken_local [PyText] {cfg : AuthConfig} {tacacs : TacacsAuthResult}
    {verify : String → String → Bool} {users : Users} {username password stamp : String}
    {change : Change} (htacacs : ¬ (useTacacs cfg (users.findByUsername username) ∧ tacacs.success))
    (h : login cfg tacacs verify users username password stamp = .success change) (now : Nat) :
    ∃ userId record, users.get? userId = some record ∧
      change = .edit userId { lastLogin := some stamp } ∧
      loginToken cfg tacacs users username now =
        some (.localUser
          (createToken userId record.username record.role (record.tokenGen.getD 0) now)) := by
  have hlocal : localLogin verify (users.findByUsername username) password stamp =
      .success change := by
    simp only [login] at h
    split at h
    · rename_i huse
      split at h
      · rename_i hsuccess
        exact absurd ⟨huse, hsuccess⟩ htacacs
      · split at h
        · exact h
        · cases h
    · exact h
  cases hfound : users.findByUsername username with
  | none =>
      rw [hfound] at hlocal
      cases hlocal
  | some entry =>
      obtain ⟨userId, record⟩ := entry
      rw [hfound] at hlocal
      refine ⟨userId, record, get?_of_findByUsername hfound, ?_, ?_⟩
      · simp only [localLogin] at hlocal
        split at hlocal
        · cases hlocal
        · split at hlocal
          · cases hlocal
            rfl
          · cases hlocal
      · rw [hfound] at htacacs
        simp only [loginToken, hfound, if_neg htacacs, Option.map_some]

/-- A login TACACS accepts upserts the shadow record with what its token carries. -/
theorem loginToken_tacacs [PyText] {cfg : AuthConfig} {tacacs : TacacsAuthResult}
    {verify : String → String → Bool} {users : Users} {username password stamp : String}
    {change : Change} (htacacs : useTacacs cfg (users.findByUsername username) ∧ tacacs.success)
    (h : login cfg tacacs verify users username password stamp = .success change) (now : Nat) :
    ∃ role granted templates,
      tacacsGrant users (profileName tacacs username) username =
        some (role, granted, templates) ∧
      change = upsertShadow username role (withOwnRole granted username) templates stamp ∧
      loginToken cfg tacacs users username now =
        some (.tacacs (createTacacsToken username role (some (profileName tacacs username))
          (withOwnRole granted username) now)) := by
  simp only [login, if_pos htacacs.1, if_pos htacacs.2, tacacsLogin] at h
  split at h
  · cases h
  · rename_i role granted templates hgrant
    cases h
    refine ⟨role, granted, templates, hgrant, rfl, ?_⟩
    simp only [loginToken, if_pos htacacs, hgrant, Option.map_some]

end IsePortal
