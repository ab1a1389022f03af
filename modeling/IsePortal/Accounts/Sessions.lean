import IsePortal.Api.Tokens
import IsePortal.Library.Runs

/-!
# Runs of sessions

Logins, refreshes and logouts together with what admins do to accounts, one after another. The
state is `users.json`, the clock and every token minted so far; a request presents one of these,
named by its place in `issued`, since no other token carries the signature. A step is an
`Effect`: the change it saves and the token it mints. The journal is a ghost: which event logged
a user out, changed a password or a role, or deleted a record.
-/

namespace IsePortal

open Library

/-- What should end the tokens of a user. -/
inductive AccountEvent where
  | logout
  | passwordChanged
  | roleChanged
  | deleted
  deriving DecidableEq

/-- What a TACACS login was granted, by which record of `users.json` and when. -/
structure ProfileGrant where
  profileId : String
  role : Role
  endpointRoles : List String
  event : Nat
  deriving DecidableEq

/-- A minted token, with the second and the number of the event that minted it. `grant` is
handed on from the login to every refresh. -/
structure Minted where
  token : Token
  mintedAt : Nat
  event : Nat
  refreshed : Bool := false
  grant : Option ProfileGrant := none
  deriving DecidableEq

/-- An entry of the journal. -/
structure JournalEntry where
  event : Nat
  userId : String
  kind : AccountEvent
  deriving DecidableEq

/-- The accounts, the clock, and the history; `events` is the number of the next event. -/
structure SessionPortal where
  users : Users
  now : Nat
  events : Nat := 0
  issued : List Minted := []
  journal : List JournalEntry := []

/-- One event of a run. -/
inductive SessionEvent where
  | tick (seconds : Nat)
  | login (cfg : AuthConfig) (tacacs : TacacsAuthResult) (username password stamp : String)
  | refresh (number : Nat)
  | logout (number : Nat)
  | changePassword (number : Nat) (payload : ChangePasswordRequest) (newHash : String)
  | updateUser (userId : String) (payload : UserUpdate) (newHash : String)
  | deleteUser (userId requesterId : String)
  | setEndpointRoles (catalog : List String) (userId : String) (roles : List String)
  | createUser (tacacsMode : Bool) (payload : UserCreate) (newId newHash stamp : String)
  /-- The second block of `create_user`. -/
  | assignOwnRole (userId username : String)

/-- The record a local token belongs to. -/
def Token.localId : Token → Option String
  | .localUser payload => some payload.sub
  | .tacacs _ => none

/-- Whether a change raises a generation. -/
def Change.bumps : Change → Bool
  | .edit _ edits => edits.bumpTokenGen
  | .create _ _ => false
  | .delete _ => false
  | .upsert _ edits _ => edits.bumpTokenGen

/-- What becomes of a record in an event. -/
def recordEvents (before after : Option UserRecord) : List AccountEvent :=
  match before, after with
  | some record, some record' => if record'.role ≠ record.role then [.roleChanged] else []
  | some _, none => [.deleted]
  | none, _ => []

/-- What an event does: the change it saves, the token it mints, the time it takes. `ended` is
what the event is for a user apart from what happens to the record. -/
structure Effect where
  change : Option Change := none
  ended : List (String × AccountEvent) := []
  minted : Option Minted := none
  seconds : Nat := 0

namespace Effect

/-- `users.json` afterwards. -/
def users (effect : Effect) (users : Users) : Users :=
  match effect.change with
  | none => users
  | some change => change.apply users

/-- The entries of the journal. -/
def endings (effect : Effect) (users : Users) : List (String × AccountEvent) :=
  match effect.change with
  | none => effect.ended
  | some change =>
      effect.ended ++
        (recordEvents (users.get? change.target) ((change.apply users).get? change.target)).map
          fun kind => (change.target, kind)

end Effect

namespace SessionPortal

/-- A token minted in this event. -/
def mint (portal : SessionPortal) (token : Token) (refreshed : Bool)
    (grant : Option ProfileGrant) : Minted where
  token := token
  mintedAt := portal.now
  event := portal.events
  refreshed := refreshed
  grant := grant

/-- The state after an event. -/
def perform (portal : SessionPortal) (effect : Effect) : SessionPortal where
  users := effect.users portal.users
  now := portal.now + effect.seconds
  events := portal.events + 1
  issued := portal.issued ++ effect.minted.toList
  journal := portal.journal ++ (effect.endings portal.users).map fun ending =>
    { event := portal.events, userId := ending.1, kind := ending.2 }

/-- An operation of the user service saves its change or answers with an error. -/
def saves (answer : Except HttpError Change) : Effect :=
  match answer with
  | .error _ => {}
  | .ok change => { change := some change }

/-- The id has never been in use, as the fresh ids of `uuid4()`. -/
def Unused (portal : SessionPortal) (userId : String) : Prop :=
  portal.users.get? userId = none ∧
    ∀ minted ∈ portal.issued, minted.token.localId ≠ some userId

instance (portal : SessionPortal) (userId : String) : Decidable (portal.Unused userId) :=
  inferInstanceAs (Decidable (_ ∧ _))

section Steps

variable [PyText]

/-- Who grants a TACACS login what. -/
def loginGrant (cfg : AuthConfig) (tacacs : TacacsAuthResult) (portal : SessionPortal)
    (username : String) : Option ProfileGrant :=
  if useTacacs cfg (portal.users.findByUsername username) ∧ tacacs.success then
    (profileEntry portal.users (profileName tacacs username)).map fun entry =>
      { profileId := entry.1, role := entry.2.role
        endpointRoles := withOwnRole (entry.2.assignedEndpointRoles.getD []) username
        event := portal.events }
  else none

/-- What an event does; `none` for a token that was never minted and an id that is in use. -/
def effect (verify : String → String → Bool) (portal : SessionPortal) (label : SessionEvent) :
    Option Effect :=
  match label with
  | .tick seconds => some { seconds := seconds }
  | .login cfg tacacs username password stamp =>
      match login cfg tacacs verify portal.users username password stamp with
      | .success change =>
          some
            { change := some change
              minted := (loginToken cfg tacacs portal.users username portal.now).map fun token =>
                portal.mint token false (portal.loginGrant cfg tacacs username) }
      | _ => some {}
  | .refresh number =>
      match portal.issued[number]? with
      | none => none
      | some minted =>
          match getCurrentUser portal.users portal.now (some minted.token) with
          | .error _ => some {}
          | .ok user =>
              some
                { minted := some (portal.mint (refreshToken portal.users user portal.now) true
                    minted.grant) }
  | .logout number =>
      match portal.issued[number]? with
      | none => none
      | some minted =>
          match logoutUser portal.now (some minted.token) with
          | none => some {}
          | some userId =>
              some { change := some (revokeTokens userId), ended := [(userId, .logout)] }
  | .changePassword number payload newHash =>
      match portal.issued[number]? with
      | none => none
      | some minted =>
          match changePasswordRoute verify portal.users portal.now (some minted.token) payload
            newHash with
          | .error _ => some {}
          | .ok change =>
              some { change := some change, ended := [(change.target, .passwordChanged)] }
  | .updateUser userId payload newHash =>
      match updateUser portal.users userId payload newHash with
      | .error _ => some {}
      | .ok change =>
          some
            { change := some change
              ended :=
                if payload.password.any (· ≠ "") then [(userId, .passwordChanged)] else [] }
  | .deleteUser userId requesterId => some (saves (deleteUser portal.users userId requesterId))
  | .setEndpointRoles catalog userId roles =>
      some (saves (setEndpointRoles catalog portal.users userId roles))
  | .createUser tacacsMode payload newId newHash stamp =>
      if portal.Unused newId then
        some (saves (createUser tacacsMode portal.users payload newId newHash stamp))
      else none
  | .assignOwnRole userId username => some { change := some (assignOwnRole userId username) }

/-- One event. -/
def step (verify : String → String → Bool) (portal : SessionPortal) (label : SessionEvent) :
    Option SessionPortal :=
  (portal.effect verify label).map portal.perform

end Steps

/-- Before the first event: no token has been minted. -/
def start (users : Users) (now : Nat) : SessionPortal where
  users := users
  now := now

end SessionPortal

/-! ## What an effect does to the records -/

namespace Effect

theorem users_of_change {effect : Effect} {change : Change} (h : effect.change = some change)
    (users : Users) : effect.users users = change.apply users := by
  simp only [Effect.users, h]

/-- What an event ends apart from the record it changes. -/
theorem mem_endings_of_ended {effect : Effect} {users : Users}
    {ending : String × AccountEvent} (h : ending ∈ effect.ended) :
    ending ∈ effect.endings users := by
  unfold endings
  cases effect.change with
  | none => exact h
  | some change => exact List.mem_append_left _ h

theorem mem_endings_of_record {effect : Effect} {users : Users} {userId : String}
    {kind : AccountEvent}
    (h : kind ∈ recordEvents (users.get? userId) ((effect.users users).get? userId)) :
    (userId, kind) ∈ effect.endings users := by
  cases hchange : effect.change with
  | none =>
      -- without a change the record is the same before and after
      simp only [Effect.users, hchange] at h
      cases hrecord : users.get? userId with
      | none => simp [recordEvents, hrecord] at h
      | some record => simp [recordEvents, hrecord] at h
  | some change =>
      rw [users_of_change hchange] at h
      by_cases htarget : userId = change.target
      · subst htarget
        simp only [endings, hchange]
        exact List.mem_append_right _ (List.mem_map.mpr ⟨kind, h, rfl⟩)
      · rw [change.get?_apply_ne users htarget] at h
        cases hrecord : users.get? userId with
        | none => simp [recordEvents, hrecord] at h
        | some record => simp [recordEvents, hrecord] at h

/-- A record that disappears ends the sessions of its user. -/
theorem ending_of_gone {effect : Effect} {users : Users} {userId : String} {record : UserRecord}
    (hbefore : users.get? userId = some record)
    (hafter : (effect.users users).get? userId = none) :
    (userId, .deleted) ∈ effect.endings users := by
  apply mem_endings_of_record
  simp [recordEvents, hbefore, hafter]

/-- So does a record that gets another role. -/
theorem ending_of_role {effect : Effect} {users : Users} {userId : String}
    {record record' : UserRecord} (hbefore : users.get? userId = some record)
    (hafter : (effect.users users).get? userId = some record')
    (hrole : record'.role ≠ record.role) : (userId, .roleChanged) ∈ effect.endings users := by
  apply mem_endings_of_record
  simp [recordEvents, hbefore, hafter, hrole]

theorem ending_of_edit {effect : Effect} {users : Users} {userId : String} {record : UserRecord}
    {edits : FieldEdits} {role : Role} (hbefore : users.get? userId = some record)
    (hchange : effect.change = some (.edit userId edits)) (hrole : edits.role = some role)
    (hne : role ≠ record.role) : (userId, .roleChanged) ∈ effect.endings users := by
  have hafter : (effect.users users).get? userId = some (edits.apply record) := by
    rw [users_of_change hchange, Change.get?_apply, hbefore]
    simp [Change.recordAt]
  exact ending_of_role hbefore hafter (by simpa [FieldEdits.apply, hrole] using hne)

/-- An edit that leaves the role alone ends nothing by itself. -/
theorem endings_edit {effect : Effect} {userId : String} {edits : FieldEdits}
    (hchange : effect.change = some (.edit userId edits)) (hrole : edits.role = none)
    (users : Users) : effect.endings users = effect.ended := by
  simp only [endings, hchange, Change.target, Change.get?_apply, Change.recordAt, if_true]
  cases users.get? userId with
  | none => simp [recordEvents]
  | some record => simp [recordEvents, FieldEdits.apply, hrole]

end Effect

/-! ## What every event keeps -/

/-- A token that hands on a grant carries exactly what was granted. -/
def Minted.Carries (minted : Minted) : Prop :=
  ∀ grant, minted.grant = some grant → ∃ payload, minted.token = .tacacs payload ∧
    payload.role = grant.role ∧ payload.endpointRoles = grant.endpointRoles ∧
    grant.event ≤ minted.event

/-- What the history of a portal satisfies. -/
structure SessionPortal.Sound (portal : SessionPortal) : Prop where
  born : ∀ minted ∈ portal.issued, minted.event < portal.events
  lifetime : ∀ minted ∈ portal.issued, minted.token.exp = minted.mintedAt + tokenTtlSeconds
  carries : ∀ minted ∈ portal.issued, minted.Carries
  logged : ∀ entry ∈ portal.journal, entry.event < portal.events
  /-- The local tokens of an id without a record are older than the end of its sessions. -/
  orphans : ∀ minted ∈ portal.issued, ∀ userId, minted.token.localId = some userId →
    portal.users.get? userId = none →
      ∃ entry ∈ portal.journal, entry.userId = userId ∧ minted.event ≤ entry.event

/-- What an event promises in a state. -/
structure Effect.Fits (effect : Effect) (portal : SessionPortal) : Prop where
  /-- A record keeps its generation unless sessions of its user end. -/
  gens : ∀ userId record record', portal.users.get? userId = some record →
    (effect.users portal.users).get? userId = some record' →
      record'.tokenGen.getD 0 = record.tokenGen.getD 0 ∨
        ∃ kind, (userId, kind) ∈ effect.endings portal.users
  event : ∀ minted, effect.minted = some minted → minted.event = portal.events
  lifetime : ∀ minted, effect.minted = some minted →
    minted.token.exp = minted.mintedAt + tokenTtlSeconds
  carries : ∀ minted, effect.minted = some minted → minted.Carries
  /-- A local token is minted for a record that exists, and in an event that ends nothing. -/
  owned : ∀ minted, effect.minted = some minted → ∀ userId, minted.token.localId = some userId →
    (effect.users portal.users).get? userId ≠ none ∧
      ∀ kind, (userId, kind) ∉ effect.endings portal.users

namespace SessionPortal

theorem mem_issued_perform {portal : SessionPortal} {effect : Effect} {minted : Minted} :
    minted ∈ (portal.perform effect).issued ↔
      minted ∈ portal.issued ∨ effect.minted = some minted := by
  simp [perform]

theorem mem_journal_perform {portal : SessionPortal} {effect : Effect} {entry : JournalEntry} :
    entry ∈ (portal.perform effect).journal ↔
      entry ∈ portal.journal ∨ (entry.event = portal.events ∧
        (entry.userId, entry.kind) ∈ effect.endings portal.users) := by
  simp only [perform, List.mem_append, List.mem_map]
  constructor
  · intro h
    rcases h with h | ⟨ending, hmem, rfl⟩
    · exact Or.inl h
    · exact Or.inr ⟨rfl, hmem⟩
  · intro h
    rcases h with h | ⟨hevent, hmem⟩
    · exact Or.inl h
    · refine Or.inr ⟨_, hmem, ?_⟩
      rw [← hevent]

/-- Every event keeps the history sound. -/
theorem Sound.perform {portal : SessionPortal} (h : portal.Sound) {effect : Effect}
    (hfits : effect.Fits portal) : (portal.perform effect).Sound where
  born := by
    intro minted hmem
    show minted.event < portal.events + 1
    rcases mem_issued_perform.mp hmem with hold | hnew
    · have := h.born minted hold
      omega
    · have := hfits.event minted hnew
      omega
  lifetime := by
    intro minted hmem
    rcases mem_issued_perform.mp hmem with hold | hnew
    · exact h.lifetime minted hold
    · exact hfits.lifetime minted hnew
  carries := by
    intro minted hmem
    rcases mem_issued_perform.mp hmem with hold | hnew
    · exact h.carries minted hold
    · exact hfits.carries minted hnew
  logged := by
    intro entry hmem
    show entry.event < portal.events + 1
    rcases mem_journal_perform.mp hmem with hold | ⟨hevent, -⟩
    · have := h.logged entry hold
      omega
    · omega
  orphans := by
    intro minted hmem userId hid hgone
    rcases mem_issued_perform.mp hmem with hold | hnew
    · cases hrecord : portal.users.get? userId with
      | none =>
          obtain ⟨entry, hentry, howner, hle⟩ := h.orphans minted hold userId hid hrecord
          exact ⟨entry, mem_journal_perform.mpr (Or.inl hentry), howner, hle⟩
      | some record =>
          -- the record has just been deleted, and the token is older than this event
          have hdeleted := Effect.ending_of_gone hrecord hgone
          have hborn := h.born minted hold
          refine ⟨⟨portal.events, userId, .deleted⟩, ?_, rfl, Nat.le_of_lt hborn⟩
          exact mem_journal_perform.mpr (Or.inr ⟨rfl, hdeleted⟩)
    · exact absurd hgone (hfits.owned minted hnew userId hid).1

theorem sound_start (users : Users) (now : Nat) : (start users now).Sound where
  born := by simp [start]
  lifetime := by simp [start]
  carries := by simp [start]
  logged := by simp [start]
  orphans := by simp [start]

/-! ## Every event fits -/

theorem fits_idle (portal : SessionPortal) (seconds : Nat) :
    Effect.Fits { seconds := seconds } portal where
  gens := by
    intro userId record record' hbefore hafter
    have hsame : some record = some record' := hbefore.symm.trans hafter
    cases hsame
    exact Or.inl rfl
  event := by simp
  lifetime := by simp
  carries := by simp
  owned := by simp

/-- A change keeps generations, unless it raises one and sessions end. -/
theorem gens_change {portal : SessionPortal} {effect : Effect} {change : Change}
    (hchange : effect.change = some change)
    (hbump : change.bumps = true →
      ∃ kind, (change.target, kind) ∈ effect.endings portal.users)
    (hfresh : ∀ created, change = .create change.target created →
      portal.users.get? change.target = none)
    (userId : String) (record record' : UserRecord)
    (hbefore : portal.users.get? userId = some record)
    (hafter : (effect.users portal.users).get? userId = some record') :
    record'.tokenGen.getD 0 = record.tokenGen.getD 0 ∨
      ∃ kind, (userId, kind) ∈ effect.endings portal.users := by
  rw [Effect.users_of_change hchange] at hafter
  by_cases htarget : userId = change.target
  · subst htarget
    rw [Change.get?_apply, hbefore] at hafter
    cases change with
    | edit target edits =>
        simp only [Change.recordAt, Change.target, if_true] at hafter
        cases hafter
        cases hedits : edits.bumpTokenGen with
        | false => exact Or.inl (by simp [FieldEdits.apply, hedits])
        | true => exact Or.inr (hbump hedits)
    | create target created =>
        -- a created record replaces none
        rw [hfresh created rfl] at hbefore
        cases hbefore
    | delete target =>
        simp only [Change.recordAt, Change.target, if_true] at hafter
        cases hafter
    | upsert target edits fresh =>
        simp only [Change.recordAt, Change.target, if_true] at hafter
        cases hafter
        cases hedits : edits.bumpTokenGen with
        | false => exact Or.inl (by simp [FieldEdits.apply, hedits])
        | true => exact Or.inr (hbump hedits)
  · rw [change.get?_apply_ne portal.users htarget, hbefore] at hafter
    cases hafter
    exact Or.inl rfl

/-- An event that mints nothing and saves a change. -/
theorem fits_change {portal : SessionPortal} {effect : Effect} {change : Change}
    (hchange : effect.change = some change) (hminted : effect.minted = none)
    (hbump : change.bumps = true →
      ∃ kind, (change.target, kind) ∈ effect.endings portal.users)
    (hfresh : ∀ created, change = .create change.target created →
      portal.users.get? change.target = none) : effect.Fits portal where
  gens := gens_change hchange hbump hfresh
  event := by simp [hminted]
  lifetime := by simp [hminted]
  carries := by simp [hminted]
  owned := by simp [hminted]

section Events

variable [PyText]

/-- What each event can come to, with what must hold for it. -/
inductive Does (verify : String → String → Bool) (portal : SessionPortal) :
    SessionEvent → Effect → Prop
  | tick (seconds : Nat) : Does verify portal (.tick seconds) { seconds := seconds }
  | login {cfg : AuthConfig} {tacacs : TacacsAuthResult} {username password stamp : String}
      {change : Change} :
      login cfg tacacs verify portal.users username password stamp = .success change →
      Does verify portal (.login cfg tacacs username password stamp)
        { change := some change
          minted := (loginToken cfg tacacs portal.users username portal.now).map fun token =>
            portal.mint token false (portal.loginGrant cfg tacacs username) }
  | loginFailed {cfg : AuthConfig} {tacacs : TacacsAuthResult} {username password stamp : String} :
      (∀ change, IsePortal.login cfg tacacs verify portal.users username password stamp ≠
        .success change) →
      Does verify portal (.login cfg tacacs username password stamp) {}
  | refresh {number : Nat} {minted : Minted} {user : CurrentUser} :
      portal.issued[number]? = some minted →
      getCurrentUser portal.users portal.now (some minted.token) = .ok user →
      Does verify portal (.refresh number)
        { minted := some (portal.mint (refreshToken portal.users user portal.now) true
            minted.grant) }
  | refreshRefused {number : Nat} {minted : Minted} {raised : HttpError} :
      portal.issued[number]? = some minted →
      getCurrentUser portal.users portal.now (some minted.token) = .error raised →
      Does verify portal (.refresh number) {}
  | logout {number : Nat} {minted : Minted} {userId : String} :
      portal.issued[number]? = some minted →
      logoutUser portal.now (some minted.token) = some userId →
      Does verify portal (.logout number)
        { change := some (revokeTokens userId), ended := [(userId, .logout)] }
  | logoutNobody {number : Nat} {minted : Minted} :
      portal.issued[number]? = some minted →
      logoutUser portal.now (some minted.token) = none → Does verify portal (.logout number) {}
  | changePassword {number : Nat} {minted : Minted} {payload : ChangePasswordRequest}
      {newHash : String} {presented : LocalToken} {record : UserRecord} :
      portal.issued[number]? = some minted →
      changePasswordRoute verify portal.users portal.now (some minted.token) payload newHash =
        .ok (.edit presented.sub { passwordHash := some newHash, bumpTokenGen := true }) →
      portal.users.get? presented.sub = some record →
      Does verify portal (.changePassword number payload newHash)
        { change := some
            (.edit presented.sub { passwordHash := some newHash, bumpTokenGen := true })
          ended := [(presented.sub, .passwordChanged)] }
  | changePasswordFailed {number : Nat} {minted : Minted} {payload : ChangePasswordRequest}
      {newHash : String} {raised : HttpError} :
      portal.issued[number]? = some minted →
      changePasswordRoute verify portal.users portal.now (some minted.token) payload newHash =
        .error raised →
      Does verify portal (.changePassword number payload newHash) {}
  | updateUser {userId : String} {payload : UserUpdate} {newHash : String} {record : UserRecord} :
      portal.users.get? userId = some record →
      Does verify portal (.updateUser userId payload newHash)
        { change := some (.edit userId
            { role := payload.role, userType := payload.userType
              passwordHash := if payload.password.any (· ≠ "") then some newHash else none
              bumpTokenGen := payload.role.any (· ≠ record.role) ||
                payload.password.any (· ≠ "") })
          ended := if payload.password.any (· ≠ "") then [(userId, .passwordChanged)] else [] }
  | updateUserFailed {userId : String} {payload : UserUpdate} {newHash : String} :
      portal.users.get? userId = none →
      Does verify portal (.updateUser userId payload newHash) {}
  | deleteUser {userId requesterId : String} :
      Does verify portal (.deleteUser userId requesterId) { change := some (.delete userId) }
  | deleteUserFailed {userId requesterId : String} :
      Does verify portal (.deleteUser userId requesterId) {}
  | setEndpointRoles {catalog : List String} {userId : String} {roles resolved : List String} :
      Does verify portal (.setEndpointRoles catalog userId roles)
        { change := some (.edit userId { assignedEndpointRoles := some resolved }) }
  | setEndpointRolesFailed {catalog : List String} {userId : String} {roles : List String} :
      Does verify portal (.setEndpointRoles catalog userId roles) {}
  | createUser {tacacsMode : Bool} {payload : UserCreate} {newId newHash stamp : String}
      {record : UserRecord} : portal.Unused newId →
      Does verify portal (.createUser tacacsMode payload newId newHash stamp)
        { change := some (.create newId record) }
  | createUserFailed {tacacsMode : Bool} {payload : UserCreate} {newId newHash stamp : String} :
      Does verify portal (.createUser tacacsMode payload newId newHash stamp) {}
  | assignOwnRole {userId username : String} :
      Does verify portal (.assignOwnRole userId username)
        { change := some (assignOwnRole userId username) }

/-- The events come to nothing else. -/
theorem does_of_effect {verify : String → String → Bool} {portal : SessionPortal}
    {label : SessionEvent} {effect : Effect} (h : portal.effect verify label = some effect) :
    Does verify portal label effect := by
  cases label with
  | tick seconds =>
      cases h
      exact .tick seconds
  | login cfg tacacs username password stamp =>
      simp only [SessionPortal.effect] at h
      split at h
      · rename_i change hsuccess
        cases h
        exact .login hsuccess
      · rename_i hfailed
        cases h
        exact .loginFailed hfailed
  | refresh number =>
      simp only [SessionPortal.effect] at h
      split at h
      · cases h
      · rename_i minted hminted
        split at h
        · rename_i raised hrefused
          cases h
          exact .refreshRefused hminted hrefused
        · rename_i user haccepted
          cases h
          exact .refresh hminted haccepted
  | logout number =>
      simp only [SessionPortal.effect] at h
      split at h
      · cases h
      · rename_i minted hminted
        split at h
        · rename_i hlogout
          cases h
          exact .logoutNobody hminted hlogout
        · rename_i userId hlogout
          cases h
          exact .logout hminted hlogout
  | changePassword number payload newHash =>
      simp only [SessionPortal.effect] at h
      split at h
      · cases h
      · rename_i minted hminted
        split at h
        · rename_i raised hanswer
          cases h
          exact .changePasswordFailed hminted hanswer
        · rename_i change hanswer
          cases h
          obtain ⟨presented, record, -, hrecord, rfl⟩ := changePasswordRoute_ok hanswer
          exact .changePassword hminted hanswer hrecord
  | updateUser userId payload newHash =>
      simp only [SessionPortal.effect] at h
      split at h
      · rename_i raised hanswer
        cases h
        cases hrecord : portal.users.get? userId with
        | none => exact .updateUserFailed hrecord
        | some record =>
            simp only [IsePortal.updateUser, Users.findById, hrecord] at hanswer
            cases hanswer
      · rename_i change hanswer
        cases h
        obtain ⟨record, hrecord, rfl⟩ := updateUser_ok hanswer
        exact .updateUser hrecord
  | deleteUser userId requesterId =>
      cases h
      cases hanswer : IsePortal.deleteUser portal.users userId requesterId with
      | error raised => exact .deleteUserFailed
      | ok change =>
          have hchange := deleteUser_ok hanswer
          subst hchange
          exact .deleteUser
  | setEndpointRoles catalog userId roles =>
      cases h
      cases hanswer : IsePortal.setEndpointRoles catalog portal.users userId roles with
      | error raised => exact .setEndpointRolesFailed
      | ok change =>
          obtain ⟨resolved, rfl⟩ := setEndpointRoles_ok hanswer
          exact .setEndpointRoles
  | createUser tacacsMode payload newId newHash stamp =>
      simp only [SessionPortal.effect] at h
      split at h
      · rename_i hunused
        cases h
        cases hanswer :
          IsePortal.createUser tacacsMode portal.users payload newId newHash stamp with
        | error raised => exact .createUserFailed
        | ok change =>
            obtain ⟨record, rfl⟩ := createUser_ok hanswer
            exact .createUser hunused
      · cases h
  | assignOwnRole userId username =>
      cases h
      exact .assignOwnRole

omit [PyText] in
/-- A profile grants its role and its endpoint roles. -/
theorem tacacsGrant_profile {users : Users} {name username : String}
    {entry : String × UserRecord} (h : profileEntry users name = some entry) :
    tacacsGrant users name username =
      some (entry.2.role, entry.2.assignedEndpointRoles.getD [],
        entry.2.assignedTemplates.getD []) := by
  have hrecord : profileRecord users name = some entry.2 := by
    show (profileEntry users name).map Prod.snd = some entry.2
    rw [h]
    rfl
  simp only [tacacsGrant, hrecord]

/-- The token of a login carries what its profile grants. -/
theorem carries_login {cfg : AuthConfig} {tacacs : TacacsAuthResult} {portal : SessionPortal}
    {username : String} {token : Token}
    (h : loginToken cfg tacacs portal.users username portal.now = some token) :
    (portal.mint token false (portal.loginGrant cfg tacacs username)).Carries := by
  intro grant hgrant
  simp only [mint, loginGrant] at hgrant
  split at hgrant
  · rename_i htacacs
    obtain ⟨entry, hentry, rfl⟩ := Option.map_eq_some_iff.mp hgrant
    simp only [loginToken, if_pos htacacs, tacacsGrant_profile hentry, Option.map_some,
      Option.some.injEq] at h
    subst h
    exact ⟨_, rfl, rfl, rfl, Nat.le_refl _⟩
  · cases hgrant

/-- An event that logs in. -/
theorem fits_login {cfg : AuthConfig} {tacacs : TacacsAuthResult}
    {verify : String → String → Bool} {portal : SessionPortal}
    {username password stamp : String} {change : Change}
    (h : login cfg tacacs verify portal.users username password stamp = .success change) :
    Effect.Fits
      { change := some change
        minted := (loginToken cfg tacacs portal.users username portal.now).map fun token =>
          portal.mint token false (portal.loginGrant cfg tacacs username) } portal := by
  by_cases htacacs : useTacacs cfg (portal.users.findByUsername username) ∧ tacacs.success
  · obtain ⟨role, granted, templates, -, rfl, htoken⟩ := loginToken_tacacs htacacs h portal.now
    have hcarries := carries_login htoken
    rw [htoken, Option.map_some]
    constructor
    · exact gens_change rfl (by simp [upsertShadow, Change.bumps]) (by simp [upsertShadow])
    · intro minted hminted
      cases hminted
      rfl
    · intro minted hminted
      cases hminted
      rfl
    · intro minted hminted
      cases hminted
      exact hcarries
    · -- the token is none of a local user
      intro minted hminted userId hid
      cases hminted
      cases hid
  · obtain ⟨userId, record, hrecord, rfl, htoken⟩ := loginToken_local htacacs h portal.now
    have hcarries := carries_login htoken
    rw [htoken, Option.map_some]
    constructor
    · exact gens_change rfl (by simp [Change.bumps]) (by simp)
    · intro minted hminted
      cases hminted
      rfl
    · intro minted hminted
      cases hminted
      rfl
    · intro minted hminted
      cases hminted
      exact hcarries
    · intro minted hminted userId' hid
      cases hminted
      cases hid
      refine ⟨?_, ?_⟩
      · show (Effect.users _ portal.users).get? userId ≠ none
        rw [Effect.users_of_change rfl, Change.get?_apply, hrecord]
        simp [Change.recordAt]
      · rw [Effect.endings_edit rfl rfl]
        simp

omit [PyText] in
/-- An event that mints a token for the user of an accepted one. -/
theorem fits_refresh {portal : SessionPortal} {minted : Minted} {user : CurrentUser}
    (hcarries : minted.Carries) (hevent : minted.event < portal.events)
    (haccepted : getCurrentUser portal.users portal.now (some minted.token) = .ok user) :
    Effect.Fits
      { minted := some (portal.mint (refreshToken portal.users user portal.now) true
          minted.grant) } portal where
  gens := (fits_idle portal 0).gens
  event := by
    intro minted' hminted
    cases hminted
    rfl
  lifetime := by
    intro minted' hminted
    cases hminted
    show (refreshToken portal.users user portal.now).exp = portal.now + tokenTtlSeconds
    unfold refreshToken
    split
    · rfl
    · rfl
  carries := by
    intro minted' hminted grant hgrant
    cases hminted
    -- a grant is only handed on with a TACACS token, whose user stays one
    obtain ⟨payload, htoken, hrole, hroles, hle⟩ := hcarries grant hgrant
    rw [htoken] at haccepted
    obtain ⟨-, -, rfl⟩ := getCurrentUser_tacacs_iff.mp haccepted
    have hid : isTacacsId payload.user.id = true := isTacacsId_shadowId payload.username
    refine ⟨_, if_pos hid, hrole, hroles, ?_⟩
    show grant.event ≤ portal.events
    omega
  owned := by
    intro minted' hminted userId hid
    cases hminted
    refine ⟨?_, by simp [Effect.endings]⟩
    show portal.users.get? userId ≠ none
    simp only [mint, refreshToken] at hid
    split at hid
    · cases hid
    · cases hid
      rename_i hid
      -- the accepted token was a local one, so the record exists
      cases htoken : minted.token with
      | tacacs payload =>
          rw [htoken] at haccepted
          obtain ⟨-, -, rfl⟩ := getCurrentUser_tacacs_iff.mp haccepted
          exact absurd (isTacacsId_shadowId payload.username) hid
      | localUser payload =>
          rw [htoken] at haccepted
          obtain ⟨-, record, hrecord, -, rfl⟩ := getCurrentUser_localUser_iff.mp haccepted
          show portal.users.get? payload.sub ≠ none
          rw [hrecord]
          exact Option.some_ne_none record

/-- Every event fits. -/
theorem effect_fits {verify : String → String → Bool} {portal : SessionPortal}
    (hsound : portal.Sound) {label : SessionEvent} {effect : Effect}
    (h : portal.effect verify label = some effect) : effect.Fits portal := by
  cases does_of_effect h with
  | tick seconds => exact fits_idle portal seconds
  | login hsuccess => exact fits_login hsuccess
  | @refresh _ minted _ hminted haccepted =>
      have hmem : minted ∈ portal.issued := List.mem_of_getElem? hminted
      exact fits_refresh (hsound.carries minted hmem) (hsound.born minted hmem) haccepted
  | logout _ _ =>
      refine fits_change rfl rfl (fun _ => ⟨.logout, ?_⟩) (by simp [revokeTokens])
      exact Effect.mem_endings_of_ended (by simp [revokeTokens, Change.target])
  | changePassword _ _ _ =>
      refine fits_change rfl rfl (fun _ => ⟨.passwordChanged, ?_⟩) (by simp)
      exact Effect.mem_endings_of_ended (by simp [Change.target])
  | @updateUser userId payload newHash record hrecord =>
      refine fits_change rfl rfl ?_ (by simp)
      intro hbump
      -- the generation is raised for a new password or for a new role
      by_cases hpassword : payload.password.any (· ≠ "") = true
      · refine ⟨.passwordChanged, Effect.mem_endings_of_ended ?_⟩
        simp only [if_pos hpassword, Change.target, List.mem_singleton]
      · simp only [Change.bumps, hpassword, Bool.or_false] at hbump
        cases hrole : payload.role with
        | none => simp [hrole] at hbump
        | some role =>
            have hne : role ≠ record.role := by simpa [hrole] using hbump
            exact ⟨.roleChanged, Effect.ending_of_edit hrecord rfl rfl hne⟩
  | deleteUser => exact fits_change rfl rfl (by simp [Change.bumps]) (by simp)
  | setEndpointRoles => exact fits_change rfl rfl (by simp [Change.bumps]) (by simp)
  | createUser hunused =>
      exact fits_change rfl rfl (by simp [Change.bumps]) (fun _ _ => hunused.1)
  | assignOwnRole =>
      exact fits_change rfl rfl (by simp [assignOwnRole, Change.bumps]) (by simp [assignOwnRole])
  | loginFailed _ => exact fits_idle portal 0
  | refreshRefused _ _ => exact fits_idle portal 0
  | logoutNobody _ _ => exact fits_idle portal 0
  | changePasswordFailed _ _ => exact fits_idle portal 0
  | updateUserFailed _ => exact fits_idle portal 0
  | deleteUserFailed => exact fits_idle portal 0
  | setEndpointRolesFailed => exact fits_idle portal 0
  | createUserFailed => exact fits_idle portal 0

/-- An event takes a sound history to a sound one. -/
theorem sound_step {verify : String → String → Bool} {portal next : SessionPortal}
    {label : SessionEvent} (hstep : portal.step verify label = some next) (h : portal.Sound) :
    next.Sound := by
  obtain ⟨effect, heffect, rfl⟩ := Option.map_eq_some_iff.mp hstep
  exact h.perform (effect_fits h heffect)

end Events

end SessionPortal

end IsePortal
