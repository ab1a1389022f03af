import IsePortal.Accounts.Records

/-!
# Two checks of one token

`GET /auth/status` decides whether a token is that of a session, and `get_current_user` whether a
call that carries it is served. The status route has its own test: it looks a local user up, but
compares neither the role nor the generation of the token with the record, and it takes a TACACS
token without a username. `auth_status_agrees_iff`: the two answer alike exactly on the tokens
where these tests make no difference.
-/

namespace IsePortal

open StoredUsers

/-! ## Token strings -/

/-- The secret of the portal: the signature of a payload, and what a signed payload says. -/
structure Signer where
  /-- `hmac.new(_secret(), payload_b64, sha256).hexdigest()` -/
  hexdigest : String → String
  /-- `json.loads(_b64url_decode(payload_b64))`; `none` where it raises `ValueError` or is no
  dictionary. -/
  loads : String → Option Token

/-- `token.split(".", 1)`; `none` where there is no dot to split at. -/
def splitToken (token : String) : Option (String × String) :=
  match token.toList.dropWhile (· ≠ '.') with
  | [] => none
  | _ :: sig => some (String.ofList (token.toList.takeWhile (· ≠ '.')), String.ofList sig)

/-- Whether `encode("ascii")` succeeds, and `compare_digest` takes the text. -/
def isAsciiText (text : String) : Bool := text.toList.all fun char => char.toNat < 128

/-- `verify_token` on a token string. -/
def Signer.verifyToken (signer : Signer) (now : Nat) (token : String) :
    Except Fault (Option Token) :=
  match splitToken token with
  | none => .ok none
  | some (payload, sig) =>
      if ¬ isAsciiText payload then .error (.other .valueError)
      -- `compare_digest` takes no text beyond ASCII
      else if ¬ isAsciiText sig then .error (.other .typeError)
      else if sig ≠ signer.hexdigest payload then .ok none
      else .ok ((signer.loads payload).bind (IsePortal.verifyToken now))

/-- Splitting undoes the joining of a payload without a dot. -/
theorem splitToken_join {payload : String} (hdot : '.' ∉ payload.toList) (sig : String) :
    splitToken (payload ++ "." ++ sig) = some (payload, sig) := by
  have hjoined : (payload ++ "." ++ sig).toList = payload.toList ++ '.' :: sig.toList := by
    simp [String.toList_append]
  have hkeep : ∀ char ∈ payload.toList, (fun char : Char => decide (char ≠ '.')) char = true := by
    intro char hchar
    simpa using fun heq : char = '.' => hdot (heq ▸ hchar)
  unfold splitToken
  rw [hjoined, List.dropWhile_append_of_pos hkeep, List.takeWhile_append_of_pos hkeep]
  simp

/-- A token the portal has signed is verified in its lifetime. -/
theorem Signer.verifyToken_signed (signer : Signer) (now : Nat) {payload : String}
    (hdot : '.' ∉ payload.toList) (hpayload : isAsciiText payload = true)
    (hsig : isAsciiText (signer.hexdigest payload) = true) :
    signer.verifyToken now (payload ++ "." ++ signer.hexdigest payload) =
      .ok ((signer.loads payload).bind (IsePortal.verifyToken now)) := by
  simp [verifyToken, splitToken_join hdot, hpayload, hsig]

/-! ## The two checks -/

/-- `get_current_user` once the token is verified, on the stored records. -/
def tokenUser (users : StoredUsers) : Token → Except Fault CurrentUser
  | .tacacs payload =>
      if payload.username = "" then .error (.http ⟨401, "Ugyldigt TACACS+ token"⟩)
      else .ok payload.user
  | .localUser payload =>
      match users.findById payload.sub with
      | none => .error (.http ⟨401, "Brugeren findes ikke længere"⟩)
      | some record => do
          let role ← getItem "role" record.role
          if role ≠ payload.role then .error (.http ⟨401, "Rolle er ændret — login igen"⟩)
          else if payload.gen ≠ record.tokenGen.getD 0 then
            .error (.http ⟨401, "Token er tilbagekaldt — log ind igen"⟩)
          else
            let user ← record.toPublic
            return user.toCurrentUser

/-- `get_current_user` -/
def currentUser (signer : Signer) (users : StoredUsers) (now : Nat) (presented : Option String) :
    Except Fault CurrentUser :=
  match presented with
  | none => .error (.http ⟨401, "Manglende token"⟩)
  | some text => do
      match ← signer.verifyToken now text with
      | none => .error (.http ⟨401, "Ugyldigt eller udløbet token"⟩)
      | some token => tokenUser users token

/-- `AuthStatus` -/
structure AuthStatus where
  setupRequired : Bool
  authenticated : Bool
  user : Option PublicUser
  defaultLanguage : Language

/-- The user `auth_status` finds for a verified token; the `except Exception` around it makes every
fault a session that is not authenticated. -/
def statusUser (users : StoredUsers) : Token → Option PublicUser
  | .tacacs payload => some { toCurrentUser := payload.user, userType := .user }
  | .localUser payload => (users.findById payload.sub).bind fun record => record.toPublic.toOption

/-- `auth_status` -/
def authStatus (signer : Signer) (users : StoredUsers) (now : Nat) (defaultLanguage : Language)
    (presented : Option String) : Except Fault AuthStatus :=
  let answer (setupRequired : Bool) (user : Option PublicUser) : AuthStatus :=
    { setupRequired, authenticated := user.isSome, user, defaultLanguage }
  match presented with
  | none => .ok (answer (users.length = 0) none)
  | some text =>
      if users.length = 0 then .ok (answer true none)
      else do
        let verified ← signer.verifyToken now text
        return answer false (verified.bind (statusUser users))

/-- What a check reports of a user. -/
def CurrentUser.identity (user : CurrentUser) : String × Role := (user.id, user.role)

/-- What the status route reports of an authenticated session. -/
def AuthStatus.reported (status : AuthStatus) : Option (String × Role) :=
  if status.authenticated then status.user.map fun user => user.identity else none

/-- The status route answers that the session is authenticated exactly where `get_current_user`
accepts the token, and then with the same id and role; `presented` is what `_extract_token` finds
in the request. -/
def ChecksAgree (signer : Signer) (users : StoredUsers) (now : Nat) (defaultLanguage : Language)
    (presented : Option String) : Prop :=
  (authStatus signer users now defaultLanguage presented).toOption.bind AuthStatus.reported =
    (currentUser signer users now presented).toOption.map CurrentUser.identity

/-- The tests the status route leaves out make no difference: a record that can be shown has the
role and the generation of the token, and a TACACS token has a username exactly where there are
users at all. -/
def Token.Fits (users : StoredUsers) : Token → Prop
  | .localUser payload =>
      ∀ record, users.findById payload.sub = some record → record.Complete →
        record.role = some payload.role ∧ record.tokenGen.getD 0 = payload.gen
  | .tacacs payload => users ≠ [] ↔ payload.username ≠ ""

/-! ## What they report -/

/-- A record is shown with its id and its role. -/
theorem StoredRecord.identity_of_toPublic {record : StoredRecord} {user : PublicUser}
    (h : record.toPublic = .ok user) :
    record.id = some user.id ∧ record.role = some user.role := by
  have hcomplete := StoredRecord.toPublic_ok_iff.mp ⟨user, h⟩
  obtain ⟨id, hid⟩ := Option.isSome_iff_exists.mp hcomplete.1
  obtain ⟨username, hname⟩ := Option.isSome_iff_exists.mp hcomplete.2.1
  obtain ⟨role, hrole⟩ := Option.isSome_iff_exists.mp hcomplete.2.2.1
  obtain ⟨createdAt, hcreated⟩ := Option.isSome_iff_exists.mp hcomplete.2.2.2
  simp only [toPublic, hid, hname, hrole, hcreated, getItem, bind, Except.bind] at h
  cases h
  exact ⟨hid, hrole⟩

/-- A record that cannot be shown is none the token can be accepted for. -/
theorem tokenUser_of_incomplete {users : StoredUsers} {payload : LocalToken}
    {record : StoredRecord} (hfound : users.findById payload.sub = some record)
    (h : ¬ record.Complete) : (tokenUser users (.localUser payload)).toOption = none := by
  simp only [tokenUser, hfound]
  cases hrole : record.role with
  | none => rfl
  | some role =>
      simp only [getItem, bind, Except.bind]
      split
      · rfl
      · split
        · rfl
        · cases hshown : record.toPublic with
          | error fault => rfl
          | ok user => exact absurd (StoredRecord.toPublic_ok_iff.mp ⟨user, hshown⟩) h

/-- A token is accepted for a record that can be shown where role and generation agree. -/
theorem tokenUser_of_shown {users : StoredUsers} {payload : LocalToken}
    {record : StoredRecord} {user : PublicUser}
    (hfound : users.findById payload.sub = some record) (h : record.toPublic = .ok user) :
    (tokenUser users (.localUser payload)).toOption =
      if record.role = some payload.role ∧ record.tokenGen.getD 0 = payload.gen
        then some user.toCurrentUser else none := by
  have hrole := (StoredRecord.identity_of_toPublic h).2
  simp only [tokenUser, hfound, hrole, getItem, h, bind, Except.bind]
  by_cases hsame : user.role = payload.role
  · by_cases hgen : record.tokenGen.getD 0 = payload.gen
    · simp [hsame, hgen, pure, Except.pure, Except.toOption]
    · have hgen' : payload.gen ≠ record.tokenGen.getD 0 := fun heq => hgen heq.symm
      simp [hsame, hgen, hgen', Except.toOption]
  · simp [hsame, Except.toOption]

/-- On a verified local token the checks agree exactly where it fits the record. -/
theorem localUser_agrees_iff (users : StoredUsers) (payload : LocalToken) :
    (statusUser users (.localUser payload)).map (fun user => user.identity) =
        (tokenUser users (.localUser payload)).toOption.map CurrentUser.identity ↔
      (Token.localUser payload).Fits users := by
  simp only [statusUser, Token.Fits]
  cases hfound : users.findById payload.sub with
  | none =>
      refine iff_of_true ?_ fun _ h => by cases h
      simp [tokenUser, hfound, Except.toOption]
  | some record =>
      cases hshown : record.toPublic with
      | error fault =>
          have hcomplete : ¬ record.Complete := by
            intro h
            obtain ⟨user, huser⟩ := StoredRecord.toPublic_ok_iff.mpr h
            rw [hshown] at huser
            cases huser
          -- a record that cannot be shown is refused by both
          refine iff_of_true ?_ ?_
          · rw [tokenUser_of_incomplete hfound hcomplete, Option.bind_some, hshown]
            rfl
          · intro other hother hcomplete'
            cases hother
            exact absurd hcomplete' hcomplete
      | ok user =>
          have hcomplete := StoredRecord.toPublic_ok_iff.mp ⟨user, hshown⟩
          rw [tokenUser_of_shown hfound hshown, Option.bind_some, hshown]
          constructor
          · intro hagree other hother _
            cases hother
            by_contra hdiffers
            rw [if_neg hdiffers] at hagree
            cases hagree
          · intro hfits
            rw [if_pos (hfits record rfl hcomplete)]
            rfl

/-- The same for a TACACS token, which the status route refuses only while there are no users. -/
theorem tacacs_agrees_iff (users : StoredUsers) (payload : TacacsToken) :
    (if users.length = 0 then none
      else (statusUser users (.tacacs payload)).map fun user => user.identity) =
        (tokenUser users (.tacacs payload)).toOption.map CurrentUser.identity ↔
      (Token.tacacs payload).Fits users := by
  simp only [statusUser, tokenUser, Token.Fits, List.length_eq_zero_iff]
  by_cases husers : users = [] <;> by_cases hname : payload.username = "" <;>
    simp [husers, hname, Except.toOption]

/-- On a verified token the checks agree exactly where it fits the records. -/
theorem token_agrees_iff (users : StoredUsers) (token : Token) :
    (if users.length = 0 then none
      else (statusUser users token).map fun user => user.identity) =
        (tokenUser users token).toOption.map CurrentUser.identity ↔ token.Fits users := by
  cases token with
  | tacacs payload => exact tacacs_agrees_iff users payload
  | localUser payload =>
      rw [← localUser_agrees_iff users payload]
      -- without users there is no record to look up
      split
      · next hempty =>
          rw [List.length_eq_zero_iff.mp hempty]
          rfl
      · exact Iff.rfl

/-- What the status route reports of the string of a token. -/
theorem reported_authStatus (signer : Signer) (users : StoredUsers) (now : Nat)
    (defaultLanguage : Language) (text : String) :
    (authStatus signer users now defaultLanguage (some text)).toOption.bind
        AuthStatus.reported =
      ((signer.verifyToken now text).toOption.bind id).bind fun token =>
        if users.length = 0 then none
        else (statusUser users token).map fun user => user.identity := by
  simp only [authStatus]
  by_cases hempty : users.length = 0
  · simp [hempty, Except.toOption, AuthStatus.reported]
  · simp only [hempty, if_false]
    cases signer.verifyToken now text with
    | error fault => rfl
    | ok verified =>
        cases verified with
        | none => rfl
        | some token =>
            cases huser : statusUser users token with
            | none => simp [huser, bind, Except.bind, pure, Except.pure, Except.toOption,
                AuthStatus.reported]
            | some user => simp [huser, bind, Except.bind, pure, Except.pure, Except.toOption,
                AuthStatus.reported]

/-- The user `get_current_user` accepts the string of a token for. -/
theorem toOption_currentUser (signer : Signer) (users : StoredUsers) (now : Nat)
    (text : String) :
    (currentUser signer users now (some text)).toOption =
      ((signer.verifyToken now text).toOption.bind id).bind fun token =>
        (tokenUser users token).toOption := by
  simp only [currentUser]
  cases signer.verifyToken now text with
  | error fault => rfl
  | ok verified => cases verified <;> rfl

/-- For every store, time and token string, signed by the portal or not: the status route and
`get_current_user` answer alike exactly where the token, if it is verified, fits the records. -/
theorem auth_status_agrees_iff (signer : Signer) (users : StoredUsers) (now : Nat)
    (defaultLanguage : Language) (presented : Option String) :
    ChecksAgree signer users now defaultLanguage presented ↔
      ∀ text token, presented = some text → signer.verifyToken now text = .ok (some token) →
        token.Fits users := by
  cases presented with
  | none => exact iff_of_true rfl fun text token h => by cases h
  | some text =>
      unfold ChecksAgree
      rw [reported_authStatus, toOption_currentUser]
      cases hverified : signer.verifyToken now text with
      | error fault =>
          refine iff_of_true rfl fun other token hother h => ?_
          cases hother
          rw [hverified] at h
          cases h
      | ok verified =>
          cases verified with
          | none =>
              refine iff_of_true rfl fun other token hother h => ?_
              cases hother
              rw [hverified] at h
              cases h
          | some token =>
              refine (token_agrees_iff users token).trans ⟨?_, ?_⟩
              · intro hfits other presented hother h
                cases hother
                rw [hverified] at h
                cases h
                exact hfits
              · intro hall
                exact hall text token rfl hverified

/-! ## A token that outlives a change of role -/

section Demoted

/-- The payload of a token for the admin anna. -/
def annaPayload : String :=
  "eyJzdWIiOiJ1LWFubmEiLCJ1c2VybmFtZSI6ImFubmEiLCJyb2xlIjoiYWRtaW4iLCJnZW4iOjAsImlhdCI6MTc2NzM0" ++
    "MDgwMCwiZXhwIjoxNzY3MzQ0NDAwfQ"

/-- Its signature. -/
def annaSignature : String := "83f2626c04f044462d97d4f98fd327575eb653b5e2789daf5d0f3c50e1290e6f"

/-- What the payload says. -/
def annaToken : LocalToken where
  sub := "u-anna"
  username := "anna"
  role := .admin
  gen := 0
  iat := 1767340800
  exp := 1767344400

/-- A portal that has signed the token of anna. -/
def annaSigner : Signer where
  hexdigest _ := annaSignature
  loads payload := if payload = annaPayload then some (.localUser annaToken) else none

/-- Anna has become a viewer since. -/
def annaDemoted : StoredUsers :=
  [{ id := some "u-anna", username := some "anna", role := some .viewer
     createdAt := some "2026-01-01T08:00:00Z", tokenGen := some 1 }]

/-- The page of anna stays logged in, while every call is refused. -/
theorem auth_status_of_demoted :
    ¬ ChecksAgree annaSigner annaDemoted 1767340900 .en
      (some (annaPayload ++ "." ++ annaSignature)) := by
  have hverified : annaSigner.verifyToken 1767340900 (annaPayload ++ "." ++ annaSignature) =
      .ok (some (.localUser annaToken)) := by
    refine (annaSigner.verifyToken_signed 1767340900 ?_ ?_ ?_).trans ?_
    · decide +kernel
    · decide +kernel
    · decide
    · rfl
  unfold ChecksAgree
  rw [reported_authStatus, toOption_currentUser, hverified]
  decide

end Demoted

end IsePortal
