import IsePortal.Accounts.StoredService
import IsePortal.Library.Runs

/-!
# The password policy

The operations of `app/services/user_service.py` that hash a password somebody has chosen. Two of
them check it against `_validate_password_strength`, `update_user` and `setup_first_admin` do not;
their schemas ask for eight characters only. `stored_passwords_iff` says that the hashes in
`users.json` come from passwords of the policy exactly in the runs where these two are given such
passwords too.
-/

namespace IsePortal

open Library StoredUsers StoredService

namespace StoredService

/-- `change_password`; the record is saved with the new hash before its name is read for the
log. -/
def changePassword [PyText] (verify : String → String → Bool) (userId : String)
    (payload : ChangePasswordRequest) (newHash : String) : StoreM Unit := do
  let users ← get
  let record ← recordOf users userId
  let stored ← attempt (getItem "password_hash" record.passwordHash)
  if verify payload.currentPassword stored then
    checked (validatePasswordStrength payload.newPassword)
    let changed := users.editFirst (hasId userId) fun record =>
      { record with passwordHash := some newHash }
    set (changed.incrementTokenGen userId)
    let _ ← attempt (getItem "username" record.username)
  else throw (.http ⟨400, "Forkert nuværende password"⟩)

end StoredService

/-- `SetupRequest` -/
structure SetupRequest where
  username : String
  password : String
  deriving DecidableEq

/-- The operations that hash passwords. `salt` is the random salt of the hash, and `random` the
password of a user of TACACS, which nobody chooses. -/
inductive PasswordOp where
  | createUser (tacacsMode roleEnsured : Bool) (payload : UserCreate)
      (newId random salt now : String)
  | updateUser (userId : String) (payload : UserUpdate) (salt : String)
  | setupFirstAdmin (payload : SetupRequest) (newId salt now : String) (seconds : Nat)
  | changePassword (userId : String) (payload : ChangePasswordRequest) (salt : String)

namespace PasswordOp

/-- The password a person has chosen. -/
def chosen : PasswordOp → Option String
  | .createUser _ _ payload .. => if payload.password = "" then none else some payload.password
  | .updateUser _ payload _ => payload.password.filter (· ≠ "")
  | .setupFirstAdmin payload .. => some payload.password
  | .changePassword _ payload _ => some payload.newPassword

variable (hash : String → String → String)

/-- The hash that is stored: of the chosen password, else of the random one. -/
def newHash (op : PasswordOp) : String :=
  match op with
  | .createUser _ _ _ _ random salt _ => hash (op.chosen.getD random) salt
  | .updateUser _ _ salt => hash (op.chosen.getD "") salt
  | .setupFirstAdmin _ _ salt _ _ => hash (op.chosen.getD "") salt
  | .changePassword _ _ salt => hash (op.chosen.getD "") salt

/-- The call, without what it answers. -/
def perform [PyText] (verify : String → String → Bool) (op : PasswordOp) : StoreM Unit :=
  match op with
  | .createUser tacacsMode roleEnsured payload newId _ _ now => do
      let _ ← StoredService.createUser tacacsMode roleEnsured payload newId (op.newHash hash) now
  | .updateUser userId payload _ => do
      let _ ← StoredService.updateUser userId payload (op.newHash hash)
  | .setupFirstAdmin payload newId _ now seconds => do
      let _ ← StoredService.setupFirstAdmin payload.username newId (op.newHash hash) now seconds
  | .changePassword userId payload _ =>
      StoredService.changePassword verify userId payload (op.newHash hash)

end PasswordOp

/-! ## Where the hashes come from -/

/-- The password meets the policy. -/
def MeetsPolicy [PyText] (password : String) : Prop := passwordErrors password = []

instance [PyText] (password : String) : Decidable (MeetsPolicy password) :=
  inferInstanceAs (Decidable (_ = _))

theorem validatePasswordStrength_ok_iff [PyText] {password : String} :
    validatePasswordStrength password = .ok () ↔ MeetsPolicy password := by
  unfold validatePasswordStrength MeetsPolicy
  cases passwordErrors password <;> simp

/-- The hash and the token generation of each record: a new hash is stored with a new record or
raises the generation of an old one. -/
def credentials (users : StoredUsers) : List (Option String × Option Nat) :=
  users.map fun record => (record.passwordHash, record.tokenGen)

/-- `users.json`, and beside it which hashes have been stored in it for passwords somebody has
chosen, each with its password. -/
structure PasswordState where
  users : StoredUsers
  origins : List (String × String) := []

namespace PasswordState

variable [PyText] (verify : String → String → Bool) (hash : String → String → String)

/-- One operation after the other. -/
def step (state : PasswordState) (op : PasswordOp) : Option PasswordState :=
  let users := after (op.perform hash verify) state.users
  let stored := if credentials users = credentials state.users then [] else op.chosen.toList
  some { users, origins := state.origins ++ stored.map fun password => (op.newHash hash, password) }

/-- Every hash in `users.json` that was made from a chosen password was made from one that meets
the policy. -/
def PolicyKept (state : PasswordState) : Prop :=
  ∀ record ∈ state.users, ∀ stored, record.passwordHash = some stored →
    ∀ password, (stored, password) ∈ state.origins → MeetsPolicy password

end PasswordState

namespace PasswordOp

variable [PyText]

/-- Given a password that does not meet the policy, the operation fails and leaves `users.json` as
it is. -/
def Refuses (verify : String → String → Bool) (hash : String → String → String)
    (users : StoredUsers) (op : PasswordOp) : Prop :=
  ∀ password, op.chosen = some password → ¬ MeetsPolicy password →
    (∃ fault, raises (op.perform hash verify) users = some fault) ∧
      after (op.perform hash verify) users = users

/-- `update_user` and `setup_first_admin`, which do not look at the password, are given one that
meets the policy, or fail for another reason before they store anything. -/
def Checked (users : StoredUsers) (op : PasswordOp) : Prop :=
  match op with
  | .createUser .. | .changePassword .. => True
  | .updateUser userId .. =>
      (∀ password, op.chosen = some password → MeetsPolicy password) ∨
        ∀ record, users.findById userId = some record →
          record.username = none ∨ record.role = none
  | .setupFirstAdmin payload .. => MeetsPolicy payload.password ∨ users ≠ []

end PasswordOp

namespace PasswordOp

/-! ## Failing before anything is stored -/

section Fails

variable {users : StoredUsers} {α : Type}

theorem failsAt_attempt {computed : Except Fault α} {fault : Fault}
    (h : computed = .error fault) : FailsAt (attempt computed) users := by
  rw [h]
  exact FailsAt.throw fault

theorem failsAt_checked {computed : Except HttpError α} (raised : HttpError)
    (h : computed = .error raised) : FailsAt (checked computed) users := by
  rw [h]
  exact FailsAt.throw (Fault.http raised)

variable [PyText]

/-- A weaker password is refused with the text of the policy. -/
theorem validatePasswordStrength_weak {password : String} (hweak : ¬ MeetsPolicy password) :
    ∃ raised, validatePasswordStrength password = .error raised := by
  cases hchecked : validatePasswordStrength password with
  | error raised => exact ⟨raised, rfl⟩
  | ok value => exact absurd (validatePasswordStrength_ok_iff.mp hchecked) hweak

theorem failsAt_createUser (tacacsMode roleEnsured : Bool) {payload : UserCreate}
    (newId newHash now : String) (hgiven : payload.password ≠ "")
    (hweak : ¬ MeetsPolicy payload.password) :
    FailsAt (StoredService.createUser tacacsMode roleEnsured payload newId newHash now) users := by
  obtain ⟨raised, hraised⟩ := validatePasswordStrength_weak hweak
  refine FailsAt.next rfl (FailsAt.ite (fun _ => FailsAt.throw _) fun _ => ?_)
  refine FailsAt.first (failsAt_checked raised ?_)
  rw [checkPassword, if_pos hgiven, hraised]

theorem failsAt_changePassword (verify : String → String → Bool) (userId : String)
    {payload : ChangePasswordRequest} (newHash : String)
    (hweak : ¬ MeetsPolicy payload.newPassword) :
    FailsAt (StoredService.changePassword verify userId payload newHash) users := by
  obtain ⟨raised, hraised⟩ := validatePasswordStrength_weak hweak
  refine FailsAt.next rfl ?_
  unfold recordOf
  cases users.findById userId with
  | none => exact FailsAt.first (FailsAt.throw _)
  | some record =>
      refine FailsAt.next rfl ?_
      cases record.passwordHash with
      | none => exact FailsAt.first (failsAt_attempt rfl)
      | some stored =>
          refine FailsAt.next rfl (FailsAt.ite (fun _ => ?_) fun _ => FailsAt.throw _)
          exact FailsAt.first (failsAt_checked _ hraised)

omit [PyText] in
theorem failsAt_updateUser (userId : String) (payload : UserUpdate) (newHash : String)
    (hmissing : ∀ record, users.findById userId = some record →
      record.username = none ∨ record.role = none) :
    FailsAt (StoredService.updateUser userId payload newHash) users := by
  refine FailsAt.next rfl ?_
  unfold recordOf
  cases hfound : users.findById userId with
  | none => exact FailsAt.first (FailsAt.throw _)
  | some record =>
      refine FailsAt.next rfl ?_
      cases husername : record.username with
      | none => exact FailsAt.first (failsAt_attempt rfl)
      | some username =>
          have hrole : record.role = none :=
            (hmissing record hfound).resolve_left (by rw [husername]; exact Option.some_ne_none _)
          refine FailsAt.next rfl (FailsAt.first ?_)
          rw [hrole]
          exact failsAt_attempt rfl

omit [PyText] in
theorem failsAt_setupFirstAdmin (username newId newHash now : String) (seconds : Nat)
    (husers : users ≠ []) :
    FailsAt (StoredService.setupFirstAdmin username newId newHash now seconds) users := by
  have hlength : users.length ≠ 0 := fun h => husers (List.length_eq_zero_iff.mp h)
  exact FailsAt.next rfl (FailsAt.ite (fun _ => FailsAt.throw _) fun h => absurd hlength h)

/-- A weaker password makes an operation fail where it is checked. -/
theorem failsAt_perform (verify : String → String → Bool) (hash : String → String → String)
    {op : PasswordOp} (hchecked : op.Checked users) {password : String}
    (hchosen : op.chosen = some password) (hweak : ¬ MeetsPolicy password) :
    FailsAt (op.perform hash verify) users := by
  cases op with
  | createUser tacacsMode roleEnsured payload newId random salt now =>
      simp only [chosen] at hchosen
      split at hchosen
      · cases hchosen
      · next hgiven =>
          cases hchosen
          exact FailsAt.first (failsAt_createUser _ _ _ _ _ hgiven hweak)
  | updateUser userId payload salt =>
      obtain hmeets | hmissing := hchecked
      · exact absurd (hmeets password hchosen) hweak
      · exact FailsAt.first (failsAt_updateUser _ _ _ hmissing)
  | setupFirstAdmin payload newId salt now seconds =>
      cases hchosen
      obtain hmeets | husers := hchecked
      · exact absurd hmeets hweak
      · exact FailsAt.first (failsAt_setupFirstAdmin _ _ _ _ _ husers)
  | changePassword userId payload salt =>
      cases hchosen
      exact failsAt_changePassword verify userId _ hweak

end Fails

/-! ## Storing without a check -/

section Stores

variable {users : StoredUsers}

/-- The record of an id is edited where it is. -/
theorem mem_editFirst {wanted : StoredRecord → Bool} (edit : StoredRecord → StoredRecord)
    {record : StoredRecord} (hfound : users.find? wanted = some record) :
    edit record ∈ users.editFirst wanted edit := by
  induction users with
  | nil => cases hfound
  | cons first rest ih =>
      rw [List.find?_cons] at hfound
      rw [editFirst]
      cases hwanted : wanted first with
      | true =>
          rw [hwanted] at hfound
          cases hfound
          simp
      | false =>
          rw [hwanted] at hfound
          simp [ih hfound]

/-- An edit that changes the generation of a record changes the credentials. -/
theorem credentials_editFirst_ne {wanted : StoredRecord → Bool}
    {edit : StoredRecord → StoredRecord} {record : StoredRecord}
    (hedit : (edit record).tokenGen ≠ record.tokenGen)
    (hfound : users.find? wanted = some record) :
    credentials (users.editFirst wanted edit) ≠ credentials users := by
  induction users with
  | nil => cases hfound
  | cons first rest ih =>
      rw [List.find?_cons] at hfound
      rw [editFirst]
      cases hwanted : wanted first with
      | true =>
          rw [hwanted] at hfound
          cases hfound
          simp [credentials, hedit]
      | false =>
          rw [hwanted] at hfound
          simpa [credentials] using ih hfound

theorem after_attempt {α : Type} (computed : Except Fault α) (users : StoredUsers) :
    after (attempt computed) users = users := by
  cases computed <;> rfl

/-- What `update_user` stores, also when it raises afterwards. -/
theorem after_updateUser {userId : String} (payload : UserUpdate) (newHash : String)
    {record : StoredRecord} {username : String} {role : Role}
    (hfound : users.findById userId = some record) (husername : record.username = some username)
    (hrole : record.role = some role) :
    after (StoredService.updateUser userId payload newHash) users =
      users.editFirst (hasId userId) (UserUpdate.edit payload role newHash) := by
  have hrecord : (recordOf users userId).run users = .ok record users := by
    rw [recordOf, hfound]
    rfl
  have hname : (attempt (getItem "username" record.username)).run users = .ok username users := by
    rw [husername]
    rfl
  have hrun : (attempt (getItem "role" record.role)).run users = .ok role users := by
    rw [hrole]
    rfl
  have hget : (get : StoreM StoredUsers).run users = .ok users users := rfl
  have hset (edited : StoredUsers) :
      (set edited : StoreM PUnit).run users = .ok () edited := rfl
  unfold StoredService.updateUser
  rw [after_bind_ok hget, after_bind_ok hrecord, after_bind_ok hname, after_bind_ok hrun,
    after_bind_ok (hset _), after_attempt]

/-- What `setup_first_admin` stores in the empty file. -/
theorem after_setupFirstAdmin (username newId newHash now : String) (seconds : Nat) :
    ∃ record : StoredRecord, record.passwordHash = some newHash ∧
      after (StoredService.setupFirstAdmin username newId newHash now seconds) [] = [record] :=
  ⟨{ id := some newId, username := some username, passwordHash := some newHash
     role := some .admin, createdAt := some now, lastLogin := some now }, rfl, rfl⟩

variable [PyText] (verify : String → String → Bool) (hash : String → String → String)

/-- What an unchecked operation does: it stores the hash of the password. -/
def Stores (op : PasswordOp) (users : StoredUsers) : Prop :=
  credentials (after (op.perform hash verify) users) ≠ credentials users ∧
    ∃ record ∈ after (op.perform hash verify) users, record.passwordHash = some (op.newHash hash)

/-- An operation that is not checked is given a weaker password and stores its hash. -/
theorem stores_of_not_checked {op : PasswordOp} (hchecked : ¬ op.Checked users) :
    op.Stores verify hash users ∧
      ∃ password, op.chosen = some password ∧ ¬ MeetsPolicy password := by
  cases op with
  | createUser => exact absurd trivial hchecked
  | changePassword => exact absurd trivial hchecked
  | setupFirstAdmin payload newId salt now seconds =>
      simp only [Checked, not_or, ne_eq, not_not] at hchecked
      obtain ⟨hweak, rfl⟩ := hchecked
      obtain ⟨record, hhash, hafter⟩ := after_setupFirstAdmin payload.username newId
        ((setupFirstAdmin payload newId salt now seconds).newHash hash) now seconds
      refine ⟨?_, payload.password, rfl, hweak⟩
      rw [Stores, perform, after_bind_of_reads fun _ _ => rfl, hafter]
      exact ⟨List.cons_ne_nil _ _, record, List.mem_singleton_self record, hhash⟩
  | updateUser userId payload salt =>
      simp only [Checked, not_or, not_forall] at hchecked
      obtain ⟨⟨password, hchosen, hweak⟩, record, hfound, husername, hrole⟩ := hchecked
      obtain ⟨username, husername⟩ := Option.ne_none_iff_exists'.mp husername
      obtain ⟨role, hrole⟩ := Option.ne_none_iff_exists'.mp hrole
      have hchanged : payload.password.any (· ≠ "") = true := by
        obtain ⟨hgiven, hfilter⟩ := Option.filter_eq_some_iff.mp hchosen
        rw [hgiven]
        exact hfilter
      refine ⟨?_, password, hchosen, hweak⟩
      rw [Stores, perform, after_bind_of_reads fun _ _ => rfl,
        after_updateUser _ _ hfound husername hrole]
      refine ⟨credentials_editFirst_ne ?_ hfound, _, mem_editFirst _ hfound, ?_⟩
      · simp only [UserUpdate.edit, hchanged, Bool.or_true, if_true]
        cases record.tokenGen <;> simp
      · simp only [UserUpdate.edit, hchanged, if_true]

end Stores

end PasswordOp

/-! ## Runs -/

namespace PasswordState

variable [PyText] {verify : String → String → Bool} {hash : String → String → String}

/-- Every hash that was ever stored for a chosen password is of one that meets the policy. -/
def AllChecked (state : PasswordState) : Prop :=
  ∀ origin ∈ state.origins, MeetsPolicy origin.2

/-- A checked operation stores hashes of such passwords only. -/
theorem allChecked_step {state next : PasswordState} {op : PasswordOp}
    (hstep : step verify hash state op = some next) (hall : state.AllChecked)
    (hchecked : op.Checked state.users) : next.AllChecked := by
  cases hstep
  intro origin horigin
  obtain hold | hnew := List.mem_append.mp horigin
  · exact hall origin hold
  · obtain ⟨password, hpassword, rfl⟩ := List.mem_map.mp hnew
    by_contra hweak
    split at hpassword
    · cases hpassword
    · next hstored =>
        have hfails := PasswordOp.failsAt_perform verify hash hchecked
          (Option.mem_toList.mp hpassword) hweak
        exact hstored (by rw [hfails.after_eq])

/-- An operation that is not checked leaves the hash of a weaker password. -/
theorem checked_of_policyKept {state next : PasswordState} (op : PasswordOp)
    (hstep : step verify hash state op = some next) (hkept : next.PolicyKept) :
    op.Checked state.users := by
  cases hstep
  by_contra hchecked
  obtain ⟨⟨hstored, record, hmem, hhash⟩, password, hchosen, hweak⟩ :=
    PasswordOp.stores_of_not_checked verify hash hchecked
  refine hweak (hkept record hmem _ hhash password (List.mem_append_right _ ?_))
  rw [if_neg hstored, hchosen]
  exact List.mem_singleton_self _

/-- From any file, the hashes made from chosen passwords are of passwords that meet the policy in
exactly the runs whose operations are checked, and an operation refuses a weaker password exactly
where it is checked. -/
theorem stored_passwords_iff (verify : String → String → Bool) (hash : String → String → String) :
    (∀ users ops, Always (step verify hash) PolicyKept { users } ops ↔
      Guarded (step verify hash) (fun state op => op.Checked state.users) { users } ops) ∧
    ∀ users (op : PasswordOp), op.Refuses verify hash users ↔ op.Checked users := by
  constructor
  · intro users ops
    have hshown : ∀ state : PasswordState, state.AllChecked → state.PolicyKept :=
      fun state hall record _ stored _ password horigin => hall (stored, password) horigin
    have hstart : AllChecked { users } := fun origin horigin => absurd horigin List.not_mem_nil
    exact always_iff_guarded_of_stronger hshown
      (fun _ _ _ hstep hall hchecked => allChecked_step hstep hall hchecked)
      (fun _ _ _ hstep _ hkept => checked_of_policyKept _ hstep hkept) hstart
  · intro users op
    constructor
    · intro hrefuses
      by_contra hchecked
      obtain ⟨⟨hstored, -⟩, password, hchosen, hweak⟩ :=
        PasswordOp.stores_of_not_checked verify hash hchecked
      exact hstored (by rw [(hrefuses password hchosen hweak).2])
    · intro hchecked password hchosen hweak
      have hfails := PasswordOp.failsAt_perform verify hash hchecked hchosen hweak
      exact ⟨hfails.exists_raises, hfails.after_eq⟩

end PasswordState

namespace PasswordState

local instance policyText : PyText := asciiText

/-- The first administrator chooses eight lower-case letters, as the schema allows. -/
def weakSetup : PasswordOp :=
  .setupFirstAdmin { username := "admin", password := "aaaaaaaa" } "u-1" "5a17"
    "2026-01-01T08:00:00Z" 1767254400

/-- An administrator gives a user such a password. -/
def weakUpdate : PasswordOp := .updateUser "u-1" { password := some "bbbbbbbb" } "5a18"

/-- A file with one user, whose hash nobody knows the origin of. -/
def oneUser : StoredUsers :=
  [{ id := some "u-1", username := some "ann", passwordHash := some "5a16$x"
     role := some .viewer, createdAt := some "2026-01-01T08:00:00Z" }]

/-- Both passwords are stored. -/
theorem weak_password_stored :
    ¬ Always (step (fun _ _ => false) fun password salt => salt ++ "$" ++ password) PolicyKept
        { users := [] } [weakSetup] ∧
      ¬ Always (step (fun _ _ => false) fun password salt => salt ++ "$" ++ password) PolicyKept
        { users := oneUser } [weakUpdate] := by
  refine ⟨fun h => ?_, fun h => ?_⟩
  · obtain hmeets | hfull := checked_of_policyKept weakSetup rfl h.2
    · exact absurd hmeets (by decide)
    · exact hfull rfl
  · obtain hmeets | hmissing := checked_of_policyKept weakUpdate rfl h.2
    · exact absurd (hmeets "bbbbbbbb" rfl) (by decide)
    · obtain hname | hrole := hmissing _ rfl
      · cases hname
      · cases hrole

end PasswordState

end IsePortal
