import IsePortal.Accounts.UserService

/-!
# Mutations under read faults

`load_users` answers a file it cannot read, or whose content is no list, with the empty list,
and an operation that then saves writes the empty list back with its own change. A mutation is
followed here with the outcome of each of its reads; `accounts_survive_iff` says for which of
them the accounts on disk survive.
-/

namespace IsePortal

open Library

/-- How an attempt to read `users.json` ends: `OSError`, `ValueError` and a value that is no
list are the faults. -/
inductive ReadOutcome where
  | fine
  | unreadable
  | invalidJson
  | wrongShape
  deriving DecidableEq

/-- `load_users`; `none` is a file that does not exist. -/
def loadUsers (file : Option Users) (outcome : ReadOutcome) : Users :=
  match file with
  | none => Dict.empty
  | some users =>
      match outcome with
      | .fine => users
      | .unreadable => Dict.empty
      | .invalidJson => Dict.empty
      | .wrongShape => Dict.empty

/-- A mutation of the user store. `createUser` is told whether the catalogue takes the name of
the user, which makes it save a second time. -/
inductive Mutation where
  | setEndpointRoles (catalog : List String) (userId : String) (roles : List String)
  | createUser (tacacsMode : Bool) (payload : UserCreate) (newId newHash now : String)
      (named : Bool)
  | updateUser (userId : String) (payload : UserUpdate) (newHash : String)
  | setUserTemplates (templates : List String) (userId : String) (templateIds : List String)
  | deleteUser (userId requesterId : String)
  | changePassword (userId : String) (payload : ChangePasswordRequest) (newHash : String)
  | logout (userId : String)
  | login (cfg : AuthConfig) (tacacs : TacacsAuthResult) (username password now : String)
  | setupFirstAdmin (username newId newHash now : String)

/-- What a mutation that succeeds saves, with the record it is about. -/
structure SavedUsers where
  target : String
  users : Users

/-- A change saved on the list it was made for. -/
def Change.saved (change : Change) (users : Users) : SavedUsers where
  target := change.target
  users := change.apply users

/-- The change of an operation on the list it loaded. -/
def saveOk (users : Users) (answer : Except HttpError Change) : Option SavedUsers :=
  match answer with
  | .error _ => none
  | .ok change => some (change.saved users)

/-- No account is stored. -/
def NoAccounts (file : Option Users) : Prop :=
  ∀ users, file = some users → ∀ userId, users.get? userId = none

/-- No account besides this one is stored. -/
def NoOtherAccounts (file : Option Users) (target : String) : Prop :=
  ∀ users, file = some users → ∀ userId, userId ≠ target → users.get? userId = none

namespace Mutation

section Faults

variable [PyText]

/-- What a mutation saves, `none` where it fails. Only `setup_first_admin` reads twice. -/
def perform (verify : String → String → Bool) (file : Option Users)
    (first second : ReadOutcome) (mutation : Mutation) : Option SavedUsers :=
  let users := loadUsers file first
  match mutation with
  | .setEndpointRoles catalog userId roles =>
      saveOk users (IsePortal.setEndpointRoles catalog users userId roles)
  | .createUser tacacsMode payload newId newHash now named =>
      match IsePortal.createUser tacacsMode users payload newId newHash now with
      | .error _ => none
      | .ok change =>
          if named then
            some ((assignOwnRole newId payload.username).saved (change.apply users))
          else some (change.saved users)
  | .updateUser userId payload newHash =>
      saveOk users (IsePortal.updateUser users userId payload newHash)
  | .setUserTemplates templates userId templateIds =>
      saveOk users (IsePortal.setUserTemplates templates users userId templateIds)
  | .deleteUser userId requesterId => saveOk users (IsePortal.deleteUser users userId requesterId)
  | .changePassword userId payload newHash =>
      saveOk users (IsePortal.changePassword verify users userId payload newHash)
  | .logout userId => some ((revokeTokens userId).saved users)
  | .login cfg tacacs username password now =>
      match IsePortal.login cfg tacacs verify users username password now with
      | .success change => some (change.saved users)
      | _ => none
  | .setupFirstAdmin username newId newHash now =>
      if setupRequired users then
        some ((IsePortal.setupFirstAdmin username newId newHash now).saved
          (loadUsers file second))
      else none

omit [PyText] in
/-- The file after a mutation: only one that succeeds writes it. -/
def fileAfter (file : Option Users) (saved : Option SavedUsers) : Option Users :=
  match saved with
  | none => file
  | some saved => some saved.users

/-- Either the mutation fails and leaves the file as it was, or every other record is still
stored; and the first admin is never set up while there are accounts. -/
structure Survives (verify : String → String → Bool) (file : Option Users)
    (first second : ReadOutcome) (mutation : Mutation) : Prop where
  others : (mutation.perform verify file first second = none ∧
      fileAfter file (mutation.perform verify file first second) = file) ∨
    ∃ saved, mutation.perform verify file first second = some saved ∧
      ∀ users, file = some users → ∀ userId record, userId ≠ saved.target →
        users.get? userId = some record → saved.users.get? userId = some record
  setup : ∀ username newId newHash now, mutation = .setupFirstAdmin username newId newHash now →
    mutation.perform verify file first second ≠ none → NoAccounts file

/-- `create_user` on an empty list is refused for its password. -/
def passwordRefused (tacacsMode : Bool) (payload : UserCreate) : Prop :=
  (payload.password = "" ∧ tacacsMode = false) ∨
    (payload.password ≠ "" ∧ passwordErrors payload.password ≠ [])

/-- What keeps the accounts when the first read fails. -/
def Sheltered (file : Option Users) (mutation : Mutation) : Prop :=
  match mutation with
  | .createUser tacacsMode payload newId _ _ _ =>
      passwordRefused tacacsMode payload ∨ NoOtherAccounts file newId
  | .login cfg tacacs username _ _ =>
      ¬ (useTacacs cfg none ∧ tacacs.success) ∨ NoOtherAccounts file (shadowId username)
  | .logout userId => NoOtherAccounts file userId
  | .setupFirstAdmin _ _ _ _ => NoAccounts file
  | _ => True

/-! ## After a read without a fault -/

omit [PyText] in
/-- A saved change keeps the other records of the list it was made for. -/
theorem saved_keeps (change : Change) {users : Users} {userId : String} {record : UserRecord}
    (hne : userId ≠ change.target) (hrecord : users.get? userId = some record) :
    (change.saved users).users.get? userId = some record := by
  show (change.apply users).get? userId = some record
  rw [change.get?_apply_ne users hne]
  exact hrecord

omit [PyText] in
theorem saveOk_keeps {users : Users} {answer : Except HttpError Change} {saved : SavedUsers}
    (h : saveOk users answer = some saved) {userId : String} {record : UserRecord}
    (hne : userId ≠ saved.target) (hrecord : users.get? userId = some record) :
    saved.users.get? userId = some record := by
  cases answer with
  | error raised => cases h
  | ok change =>
      cases h
      exact saved_keeps change hne hrecord

/-- A mutation keeps the other records of the list it loads. -/
theorem perform_keeps {verify : String → String → Bool} {file : Option Users}
    {first second : ReadOutcome} {mutation : Mutation} {saved : SavedUsers}
    (h : mutation.perform verify file first second = some saved)
    (hsetup : ∀ username newId newHash now, mutation ≠ .setupFirstAdmin username newId newHash now)
    {userId : String} {record : UserRecord} (hne : userId ≠ saved.target)
    (hrecord : (loadUsers file first).get? userId = some record) :
    saved.users.get? userId = some record := by
  cases mutation with
  | setEndpointRoles catalog id roles => exact saveOk_keeps h hne hrecord
  | createUser tacacsMode payload newId newHash now named =>
      simp only [perform] at h
      split at h
      · cases h
      · rename_i change hanswer
        obtain ⟨created, rfl⟩ := createUser_ok hanswer
        cases named with
        | false =>
            cases h
            exact saved_keeps _ hne hrecord
        | true =>
            -- both saves are about the new record
            cases h
            exact saved_keeps _ hne (saved_keeps (.create newId created) hne hrecord)
  | updateUser id payload newHash => exact saveOk_keeps h hne hrecord
  | setUserTemplates templates id templateIds => exact saveOk_keeps h hne hrecord
  | deleteUser id requesterId => exact saveOk_keeps h hne hrecord
  | changePassword id payload newHash => exact saveOk_keeps h hne hrecord
  | logout id =>
      cases h
      exact saved_keeps _ hne hrecord
  | login cfg tacacs username password now =>
      simp only [perform] at h
      split at h
      · cases h
        exact saved_keeps _ hne hrecord
      · cases h
  | setupFirstAdmin username newId newHash now => exact absurd rfl (hsetup _ _ _ _)

omit [PyText] in
theorem loadUsers_fine {file : Option Users} {users : Users} (h : file = some users) :
    loadUsers file .fine = users := by
  rw [h]
  rfl

omit [PyText] in
/-- An empty list of accounts has no account. -/
theorem noAccounts_of_setupRequired {file : Option Users}
    (h : setupRequired (loadUsers file .fine) = true) : NoAccounts file := by
  intro users hfile userId
  rw [loadUsers_fine hfile] at h
  have hempty : users.entries = [] := by simpa [setupRequired, Dict.size] using h
  simp [Dict.get?, hempty]

/-- A mutation that fails writes nothing. -/
theorem survives_refused {verify : String → String → Bool} {file : Option Users}
    {first second : ReadOutcome} {mutation : Mutation}
    (h : mutation.perform verify file first second = none) :
    mutation.Survives verify file first second where
  others := by
    left
    rw [h]
    exact ⟨rfl, rfl⟩
  setup := fun _ _ _ _ _ hne => absurd h hne

/-- Without a fault the accounts survive every mutation. -/
theorem survives_fine (verify : String → String → Bool) (file : Option Users)
    (second : ReadOutcome) (mutation : Mutation) :
    mutation.Survives verify file .fine second := by
  cases hperform : mutation.perform verify file .fine second with
  | none => exact survives_refused hperform
  | some saved =>
      by_cases hsetup : ∃ username newId newHash now,
          mutation = .setupFirstAdmin username newId newHash now
      · obtain ⟨username, newId, newHash, now, rfl⟩ := hsetup
        have hnone : NoAccounts file := by
          simp only [perform] at hperform
          split at hperform
          · rename_i hrequired
            exact noAccounts_of_setupRequired hrequired
          · cases hperform
        refine ⟨Or.inr ⟨saved, hperform, ?_⟩, fun _ _ _ _ _ _ => hnone⟩
        intro users hfile userId record hne hrecord
        rw [hnone users hfile userId] at hrecord
        cases hrecord
      · refine ⟨Or.inr ⟨saved, hperform, ?_⟩, ?_⟩
        · intro users hfile userId record hne hrecord
          refine perform_keeps hperform ?_ hne (by rw [loadUsers_fine hfile, hrecord])
          intro username newId newHash now heq
          exact hsetup ⟨_, _, _, _, heq⟩
        · intro username newId newHash now heq
          exact absurd ⟨_, _, _, _, heq⟩ hsetup

/-! ## After a fault -/

omit [PyText] in
theorem loadUsers_fault (file : Option Users) {outcome : ReadOutcome} (h : outcome ≠ .fine) :
    loadUsers file outcome = Dict.empty := by
  cases file with
  | none => rfl
  | some users =>
      cases outcome with
      | fine => exact absurd rfl h
      | unreadable => rfl
      | invalidJson => rfl
      | wrongShape => rfl

omit [PyText] in
/-- A change made for the empty list leaves no other record. -/
theorem saved_empty (change : Change) {userId : String} (hne : userId ≠ change.target) :
    (change.saved Dict.empty).users.get? userId = none := by
  show (change.apply Dict.empty).get? userId = none
  rw [change.get?_apply_ne Dict.empty hne]
  rfl

/-- A mutation that writes back only the record it is about keeps the others exactly where there
are none. -/
theorem survives_wiped {verify : String → String → Bool} {file : Option Users}
    {first second : ReadOutcome} {mutation : Mutation} {saved : SavedUsers}
    (h : mutation.perform verify file first second = some saved)
    (hwiped : ∀ userId, userId ≠ saved.target → saved.users.get? userId = none)
    (hsetup : ∀ username newId newHash now,
      mutation ≠ .setupFirstAdmin username newId newHash now) :
    mutation.Survives verify file first second ↔ NoOtherAccounts file saved.target := by
  constructor
  · intro hsurvives users hfile userId hne
    rcases hsurvives.others with ⟨hnone, -⟩ | ⟨saved', hsaved, hkept⟩
    · rw [h] at hnone
      cases hnone
    · rw [h] at hsaved
      cases hsaved
      cases hrecord : users.get? userId with
      | none => rfl
      | some record =>
          have hstored := hkept users hfile userId record hne hrecord
          rw [hwiped userId hne] at hstored
          cases hstored
  · intro hnone
    refine ⟨Or.inr ⟨saved, h, ?_⟩, fun _ _ _ _ heq => absurd heq (hsetup _ _ _ _)⟩
    intro users hfile userId record hne hrecord
    rw [hnone users hfile userId hne] at hrecord
    cases hrecord

/-- On the empty list a user is created unless the password is refused. -/
theorem createUser_empty (tacacsMode : Bool) (payload : UserCreate) (newId newHash now : String) :
    (∃ raised, IsePortal.createUser tacacsMode Dict.empty payload newId newHash now =
      .error raised) ↔ passwordRefused tacacsMode payload := by
  have hnew : (Users.findByUsername Dict.empty payload.username).isSome = false := rfl
  simp only [IsePortal.createUser, hnew, Bool.false_eq_true, if_false, passwordRefused]
  by_cases hpassword : payload.password = ""
  · cases tacacsMode <;> simp [hpassword]
  · simp only [validatePasswordStrength, hpassword, ne_eq, not_false_eq_true, if_true, false_and,
      false_or, true_and]
    cases passwordErrors payload.password with
    | nil => simp
    | cons error rest => simp

/-- A login on the empty list only succeeds where TACACS accepts it, as the bootstrap viewer. -/
theorem login_empty (cfg : AuthConfig) (tacacs : TacacsAuthResult)
    (verify : String → String → Bool) (username password now : String) :
    IsePortal.login cfg tacacs verify Dict.empty username password now =
      if useTacacs cfg none ∧ tacacs.success then
        .success (upsertShadow username .viewer [username] [] now)
      else if useTacacs cfg none ∧ ¬ tacacs.success ∧ ¬ cfg.tacacsFallbackToLocal then
        .tacacsRefused
      else .badCredentials := by
  have hnew : Users.findByUsername Dict.empty username = none := rfl
  have hgrant : tacacsGrant Dict.empty (profileName tacacs username) username =
      some (.viewer, [username], []) := rfl
  simp only [IsePortal.login, hnew, tacacsLogin, hgrant, localLogin, List.mem_singleton, if_true]
  cases useTacacs cfg none <;> cases tacacs.success <;> cases cfg.tacacsFallbackToLocal <;> rfl

/-- After a fault the accounts survive exactly where the mutation cannot wipe them. -/
theorem survives_fault_iff (verify : String → String → Bool) (file : Option Users)
    {first : ReadOutcome} (hfault : first ≠ .fine) (second : ReadOutcome) (mutation : Mutation) :
    mutation.Survives verify file first second ↔ mutation.Sheltered file := by
  have hload := loadUsers_fault file hfault
  cases mutation with
  | setEndpointRoles catalog userId roles =>
      refine iff_of_true (survives_refused ?_) trivial
      rw [perform, hload]
      rfl
  | createUser tacacsMode payload newId newHash now named =>
      cases hanswer : IsePortal.createUser tacacsMode Dict.empty payload newId newHash now with
      | error raised =>
          refine iff_of_true (survives_refused ?_) (Or.inl ?_)
          · simp only [perform, hload, hanswer]
          · exact (createUser_empty ..).mp ⟨raised, hanswer⟩
      | ok change =>
          have haccepted : ¬ passwordRefused tacacsMode payload := by
            intro hrefused
            obtain ⟨raised, herror⟩ := (createUser_empty tacacsMode payload newId newHash now).mpr
              hrefused
            rw [hanswer] at herror
            cases herror
          obtain ⟨created, rfl⟩ := createUser_ok hanswer
          have hsheltered :
              Sheltered file (.createUser tacacsMode payload newId newHash now named) ↔
                NoOtherAccounts file newId := or_iff_right haccepted
          rw [hsheltered]
          cases named with
          | false =>
              have hperform : (createUser tacacsMode payload newId newHash now false).perform verify
                  file first second = some ((Change.create newId created).saved Dict.empty) := by
                simp only [perform, hload, hanswer]
                rfl
              exact survives_wiped hperform (fun userId hne => saved_empty _ hne) (by simp)
          | true =>
              have hperform : (createUser tacacsMode payload newId newHash now true).perform verify
                  file first second = some ((assignOwnRole newId payload.username).saved
                    ((Change.create newId created).apply Dict.empty)) := by
                simp only [perform, hload, hanswer]
                rfl
              refine survives_wiped hperform (fun userId hne => ?_) (by simp)
              show ((assignOwnRole newId payload.username).apply _).get? userId = none
              rw [Change.get?_apply_ne _ _ hne]
              exact saved_empty (.create newId created) hne
  | updateUser userId payload newHash =>
      refine iff_of_true (survives_refused ?_) trivial
      rw [perform, hload]
      rfl
  | setUserTemplates templates userId templateIds =>
      refine iff_of_true (survives_refused ?_) trivial
      rw [perform, hload]
      rfl
  | deleteUser userId requesterId =>
      refine iff_of_true (survives_refused ?_) trivial
      rw [perform, hload]
      show saveOk Dict.empty (if _ then _ else _) = none
      split
      · rfl
      · rfl
  | changePassword userId payload newHash =>
      refine iff_of_true (survives_refused ?_) trivial
      rw [perform, hload]
      rfl
  | logout userId =>
      have hperform : (logout userId).perform verify file first second =
          some ((revokeTokens userId).saved Dict.empty) := by
        rw [perform, hload]
      exact survives_wiped hperform (fun id hne => saved_empty _ hne) (by simp)
  | login cfg tacacs username password now =>
      by_cases htacacs : useTacacs cfg none ∧ tacacs.success
      · have hsheltered : Sheltered file (.login cfg tacacs username password now) ↔
            NoOtherAccounts file (shadowId username) := or_iff_right (not_not_intro htacacs)
        rw [hsheltered]
        have hperform : (login cfg tacacs username password now).perform verify file first second =
            some ((upsertShadow username .viewer [username] [] now).saved Dict.empty) := by
          simp only [perform, hload, login_empty, if_pos htacacs]
        exact survives_wiped hperform (fun userId hne => saved_empty _ hne) (by simp)
      · refine iff_of_true (survives_refused ?_) (Or.inl htacacs)
        simp only [perform, hload, login_empty, if_neg htacacs]
        split
        · rename_i change hsuccess
          split at hsuccess
          · cases hsuccess
          · cases hsuccess
        · rfl
  | setupFirstAdmin username newId newHash now =>
      have hperform : (Mutation.setupFirstAdmin username newId newHash now).perform verify file
          first second = some ((IsePortal.setupFirstAdmin username newId newHash now).saved
            (loadUsers file second)) := by
        simp only [perform, hload]
        rfl
      constructor
      · intro hsurvives
        exact hsurvives.setup _ _ _ _ rfl (by rw [hperform]; exact Option.some_ne_none _)
      · intro hnone
        refine ⟨Or.inr ⟨_, hperform, ?_⟩, fun _ _ _ _ _ _ => hnone⟩
        intro users hfile userId record hne hrecord
        rw [hnone users hfile userId] at hrecord
        cases hrecord

/-- For every file, every mutation and every outcome of its reads, the accounts survive exactly
when the first read has no fault or the mutation cannot wipe them. -/
theorem accounts_survive_iff (verify : String → String → Bool) (file : Option Users)
    (first second : ReadOutcome) (mutation : Mutation) :
    mutation.Survives verify file first second ↔ first = .fine ∨ mutation.Sheltered file := by
  by_cases hfine : first = .fine
  · subst hfine
    exact iff_of_true (survives_fine verify file second mutation) (Or.inl rfl)
  · rw [survives_fault_iff verify file hfine, or_iff_right hfine]

end Faults

section OpenSetup

local instance openSetupText : PyText := asciiText

/-- A store with its admin. -/
def storeOfAlice : Users :=
  Dict.empty.set "u-1"
    { username := "alice", passwordHash := "Alice12345", role := .admin, createdAt := "" }

/-- While the file cannot be read, a stranger sets up the portal anew. -/
theorem unreadable_store_is_set_up_again :
    ¬ (setupFirstAdmin "mallory" "u-2" "Mallory123" "2026-01-01T12:00:00Z").Survives (· == ·)
      (some storeOfAlice) .unreadable .unreadable := by
  intro hsurvives
  have hnone := hsurvives.setup _ _ _ _ rfl (by decide) storeOfAlice rfl "u-1"
  exact absurd hnone (by decide)

end OpenSetup

end Mutation

end IsePortal
