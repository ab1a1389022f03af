import IsePortal.Library.Runs
import IsePortal.Recovery.Tool
import Mathlib.Data.Fintype.EquivFin

/-!
# The recovery tool and the portal

Whether `recover.py` and the portal agree on the users they share, in any order of their actions: a
deactivated local account stays out, every record can be shown, and a reset password lets its
account in. They disagree in three places: no reader of the portal looks at `active`, the tool takes
the admin role away by assigning `user`, which is no role of the portal, and a login may be one for
TACACS to decide. `agrees_iff`: a run shows the agreement exactly when it avoids these. What carries
it is `WellFormed`, where every token is at most as new as its account, and older than a deactivated
one.
-/

namespace IsePortal.Recovery

open Library

/-- The shared files, and the local tokens the portal has issued. -/
structure Portal extends Desk where
  issued : List LocalToken := []

/-- An action of the tool or an operation of the portal. -/
inductive Action where
  | resetPassword (username : String) (entries : List (String × String)) (salt : Bytes)
  | unlock (username : String) (now : Time)
  | createEmergencyAdmin (answer usernameIn : String) (entries : List (String × String))
      (newId createdAt : String) (salt : Bytes)
  | changeRole (username answer : String)
  | toggleActive (username answer : String)
  | login (attempt : LoginAttempt)
  | updateUser (userId : String) (payload : UserUpdate) (salt : Bytes)
  | listUsers
  | checkToken (payload : LocalToken) (now : Nat)

/-- The local token of an answer, where it is one. -/
def issuedToken : Except Fault StoredService.LoginResponse → List LocalToken
  | .ok { token := .localUser payload, .. } => [payload]
  | _ => []

/-- A local account the tool has deactivated. -/
def AccountRecord.Deactivated (record : AccountRecord) : Prop :=
  record.active = some false ∧ record.type = .user

/-- The ids are distinct, every role is one of the portal, and a token belongs to a record, whose
generation it does not exceed, and does not reach where the record is deactivated. -/
structure Portal.WellFormed (portal : Portal) : Prop where
  ids : (portal.users.map (·.id)).Nodup
  roles : ∀ record ∈ portal.users, (roleOf record.role).isSome
  owners : ∀ payload ∈ portal.issued, ∃ record ∈ portal.users, record.id = payload.sub
  tokens : ∀ payload ∈ portal.issued, ∀ record ∈ portal.users, record.id = payload.sub →
    payload.gen ≤ record.gen ∧ (record.active = some false → payload.gen < record.gen)

section System

variable [PyText] [KeyDerivation] (cfg : AuthConfig)

/-- The portal after an action. -/
def Portal.after (portal : Portal) : Action → Portal
  | .resetPassword username entries salt =>
      { portal with toDesk := cmdResetPassword portal.toDesk username entries salt }
  | .unlock username now => { portal with toDesk := cmdUnlock portal.toDesk username now }
  | .createEmergencyAdmin answer usernameIn entries newId createdAt salt =>
      { portal with
        toDesk :=
          cmdCreateEmergencyAdmin portal.toDesk answer usernameIn entries newId createdAt salt }
  | .changeRole username answer =>
      { portal with toDesk := cmdChangeRole portal.toDesk username answer }
  | .toggleActive username answer =>
      { portal with toDesk := cmdToggleActive portal.toDesk username answer }
  | .login attempt =>
      { toDesk := (login cfg portal.toDesk attempt).1
        issued := portal.issued ++ issuedToken (login cfg portal.toDesk attempt).2 }
  | .updateUser userId payload salt =>
      { portal with users := (updateUser portal.users userId payload salt).1 }
  | .listUsers => portal
  | .checkToken _ _ => portal

omit [PyText] [KeyDerivation] in
/-- What is drawn is new, and only what the portal has signed is presented. -/
def Portal.Possible (portal : Portal) : Action → Prop
  | .createEmergencyAdmin _ _ _ newId _ _ => newId ∉ portal.users.map (·.id)
  | .checkToken payload _ => payload ∈ portal.issued
  | _ => True

omit [PyText] [KeyDerivation] in
instance (portal : Portal) (action : Action) : Decidable (portal.Possible action) := by
  cases action <;> simp only [Portal.Possible] <;> infer_instance

/-- One action after the other. -/
def step (portal : Portal) (action : Action) : Option Portal :=
  if portal.Possible action then some (portal.after cfg action) else none

variable {cfg} in
theorem step_of_possible {portal : Portal} {action : Action} (h : portal.Possible action) :
    step cfg portal action = some (portal.after cfg action) := if_pos h

/-- What tool and portal agree on at an action: every record it leaves converts, and the action
itself ends as it must. -/
def Agrees (portal : Portal) (action : Action) : Prop :=
  (∀ record ∈ (portal.after cfg action).users, record.Converts) ∧
    match action with
    | .login attempt =>
        (∀ fault, (login cfg portal.toDesk attempt).2 = .error fault → fault.IsHttp) ∧
          ∀ record, findByUsername portal.users attempt.username = some record →
            record.Deactivated → ∀ response, (login cfg portal.toDesk attempt).2 ≠ .ok response
    | .checkToken payload now =>
        ∀ record ∈ portal.users, record.id = payload.sub → record.Deactivated →
          ∀ user, checkToken portal.users payload now ≠ .ok user
    | .listUsers => ∃ shown, listUsers portal.users = .ok shown
    | .resetPassword username entries _ =>
        ∀ target password, findByUsername portal.users username = some target →
          target.type = .user → chosenPassword entries = some password →
            (∀ attempt : LoginAttempt,
              attempt.username = target.username → attempt.password = password →
                ∃ response, (login cfg (portal.after cfg action).toDesk attempt).2 = .ok response) ∧
            ∀ payload ∈ portal.issued, payload.sub = target.id → ∀ now user,
              checkToken (portal.after cfg action).users payload now ≠ .ok user
    | _ => True

/-- TACACS cannot stand in the way of a password: it is not asked, or the portal falls back where
it refuses and needs no operator profile where it accepts. -/
def PasswordDecides (users : List AccountRecord) (record : AccountRecord) : Prop :=
  useTacacs cfg (some record) = false ∨
    cfg.tacacsFallbackToLocal = true ∧ anyOperatorProfiles users = false

/-- The action meets none of the three disagreements. -/
def Avoids (portal : Portal) : Action → Prop
  | .changeRole username answer =>
      ∀ target, findByUsername portal.users username = some target → confirms answer = true →
        target.role ≠ "admin"
  | .login attempt =>
      ∀ record, findByUsername portal.users attempt.username = some record →
        record.Deactivated → ¬ LetsIn cfg portal.users record attempt
  | .resetPassword username entries _ =>
      ∀ target, findByUsername portal.users username = some target → target.type = .user →
        (chosenPassword entries).isSome → PasswordDecides cfg portal.users target
  | _ => True

end System

/-! ## What an action may do to a record -/

/-- What becomes of a record: it keeps its id and a role of the portal, its generation only grows,
and it does when the record is deactivated. -/
structure AccountRecord.Follows (old new : AccountRecord) : Prop where
  id : new.id = old.id
  role : (roleOf old.role).isSome → (roleOf new.role).isSome
  gen : old.gen ≤ new.gen
  active : new.active = some false → old.active = some false ∨ old.gen < new.gen

namespace AccountRecord

theorem Follows.refl (record : AccountRecord) : record.Follows record :=
  ⟨rfl, fun hrole => hrole, le_refl _, Or.inl⟩

/-- An edit that leaves the generation and the flag alone. -/
theorem Follows.of_same {old new : AccountRecord} (hid : new.id = old.id)
    (hrole : (roleOf old.role).isSome → (roleOf new.role).isSome)
    (hgen : new.tokenGen = old.tokenGen) (hactive : new.active = old.active) :
    old.Follows new where
  id := hid
  role := hrole
  gen := by simp [AccountRecord.gen, hgen]
  active h := .inl (hactive ▸ h)

/-- An edit that ends the tokens may do anything to the flag. -/
theorem Follows.of_revoked {old new : AccountRecord} (hid : new.id = old.id)
    (hrole : (roleOf old.role).isSome → (roleOf new.role).isSome)
    (hgen : new.tokenGen = some (old.gen + 1)) : old.Follows new where
  id := hid
  role := hrole
  gen := by simp [AccountRecord.gen, hgen]
  active _ := .inr (by simp [AccountRecord.gen, hgen])

theorem follows_stamped (stamp : String) (record : AccountRecord) :
    record.Follows (stamped stamp record) :=
  .of_same rfl (fun hrole => hrole) rfl rfl

theorem follows_refreshed (role : Role) (endpointRoles templates : List String) (stamp : String)
    (record : AccountRecord) :
    record.Follows (refreshed role endpointRoles templates stamp record) :=
  .of_same rfl (fun _ => by simp [refreshed, roleOf_value]) rfl rfl

theorem follows_updated [KeyDerivation] (payload : UserUpdate) (salt : Bytes)
    (record : AccountRecord) : record.Follows (updated payload salt record) := by
  have hrole : (roleOf record.role).isSome →
      (roleOf ((payload.role.map Role.value).getD record.role)).isSome := by
    intro hold
    cases payload.role with
    | none => exact hold
    | some role => simp [roleOf_value]
  unfold updated
  dsimp only
  split
  · exact .of_revoked rfl hrole rfl
  · exact .of_same rfl hrole rfl rfl

theorem follows_withPassword [KeyDerivation] (password : String) (salt : Bytes)
    (record : AccountRecord) : record.Follows (withPassword password salt record) :=
  .of_revoked rfl (fun hrole => hrole) rfl

theorem follows_toggled (record : AccountRecord) : record.Follows (toggled record) :=
  .of_revoked rfl (fun hrole => hrole) rfl

/-- The other role is one of the portal only where it is the admin's. -/
theorem converts_withOtherRole_iff {record : AccountRecord} :
    (withOtherRole record).Converts ↔ record.role ≠ "admin" := by
  have hadminOk : (roleOf "admin").isSome = true := by decide
  have huserNone : (roleOf "user").isSome = false := by decide
  rw [converts_iff]
  by_cases hadmin : record.role = "admin"
  · simp [withOtherRole, hadmin, huserNone]
  · simp [withOtherRole, hadmin, hadminOk]

theorem follows_withOtherRole {record : AccountRecord} (h : record.role ≠ "admin") :
    record.Follows (withOtherRole record) :=
  .of_revoked rfl (fun _ => converts_iff.mp (converts_withOtherRole_iff.mpr h)) rfl

end AccountRecord

namespace Portal

open AccountRecord

theorem WellFormed.converts {portal : Portal} (h : portal.WellFormed) :
    ∀ record ∈ portal.users, record.Converts :=
  fun record hrecord => converts_iff.mpr (h.roles record hrecord)

/-- The records may all change as a record may. -/
theorem WellFormed.follows {portal : Portal} (h : portal.WellFormed) {users : List AccountRecord}
    (hfollows : List.Forall₂ Follows portal.users users) (lockout : LockoutStore) :
    WellFormed { portal with users, lockout } := by
  have hids : users.map (·.id) = portal.users.map (·.id) := by
    refine List.ext_getElem ?_ fun index hnew hold => ?_
    · simp [hfollows.length_eq]
    · simp only [List.getElem_map]
      exact (hfollows.get _ _).id
  have hold (record : AccountRecord) (hrecord : record ∈ users) :
      ∃ old ∈ portal.users, old.Follows record := by
    obtain ⟨index, hindex, rfl⟩ := List.getElem_of_mem hrecord
    have hlength : index < portal.users.length := by rw [hfollows.length_eq]; exact hindex
    exact ⟨_, List.getElem_mem hlength, hfollows.get hlength hindex⟩
  constructor
  · rw [hids]
    exact h.ids
  · intro record hrecord
    obtain ⟨old, hmem, hstep⟩ := hold record hrecord
    exact hstep.role (h.roles old hmem)
  · intro payload hpayload
    obtain ⟨record, hrecord, hid⟩ := h.owners payload hpayload
    have hsub : payload.sub ∈ users.map (·.id) := by
      rw [hids]
      exact List.mem_map.mpr ⟨record, hrecord, hid⟩
    obtain ⟨new, hnew, hsame⟩ := List.mem_map.mp hsub
    exact ⟨new, hnew, hsame⟩
  · intro payload hpayload record hrecord hid
    obtain ⟨old, hmem, hstep⟩ := hold record hrecord
    obtain ⟨hle, hlt⟩ := h.tokens payload hpayload old hmem (hstep.id ▸ hid)
    refine ⟨hle.trans hstep.gen, fun hinactive => ?_⟩
    rcases hstep.active hinactive with hwas | hgrew
    · exact (hlt hwas).trans_le hstep.gen
    · exact hle.trans_lt hgrew

/-- The first record of a kind may change as a record may. -/
theorem WellFormed.editFirst {portal : Portal} (h : portal.WellFormed)
    {wanted : AccountRecord → Bool} {edit : AccountRecord → AccountRecord}
    (hedit : ∀ record, portal.users.find? wanted = some record → record.Follows (edit record))
    (lockout : LockoutStore) :
    WellFormed { portal with users := Recovery.editFirst wanted edit portal.users, lockout } :=
  h.follows (forall₂_editFirst Follows.refl hedit) lockout

/-- A record with a new id and a role of the portal may be appended. -/
theorem WellFormed.append {portal : Portal} (h : portal.WellFormed) (record : AccountRecord)
    (hnew : record.id ∉ portal.users.map (·.id)) (hrole : (roleOf record.role).isSome)
    (lockout : LockoutStore) :
    WellFormed { portal with users := portal.users ++ [record], lockout } := by
  constructor
  · rw [List.map_append, List.map_singleton]
    exact List.nodup_append.mpr ⟨h.ids, List.nodup_singleton _, fun id hid other hother => by
      rw [List.mem_singleton.mp hother]
      exact fun heq => hnew (heq ▸ hid)⟩
  · intro other hother
    rcases List.mem_append.mp hother with hold | hsame
    · exact h.roles other hold
    · rw [List.mem_singleton.mp hsame]
      exact hrole
  · intro payload hpayload
    obtain ⟨owner, howner, hid⟩ := h.owners payload hpayload
    exact ⟨owner, List.mem_append_left _ howner, hid⟩
  · intro payload hpayload other hother hid
    rcases List.mem_append.mp hother with hold | hsame
    · exact h.tokens payload hpayload other hold hid
    · -- the tokens belong to the records there were before
      obtain ⟨owner, howner, hsub⟩ := h.owners payload hpayload
      rw [List.mem_singleton.mp hsame] at hid
      exact absurd (List.mem_map.mpr ⟨owner, howner, hsub.trans hid.symm⟩) hnew

/-- A token of the current generation may be issued to a record that is not deactivated. -/
theorem WellFormed.issue {portal : Portal} (h : portal.WellFormed) {record : AccountRecord}
    (hrecord : record ∈ portal.users) (hactive : record.active ≠ some false) {payload : LocalToken}
    (hsub : payload.sub = record.id) (hgen : payload.gen = record.gen) :
    WellFormed { portal with issued := portal.issued ++ [payload] } := by
  refine ⟨h.ids, h.roles, fun other hother => ?_, fun other hother owner howner hid => ?_⟩
  · rcases List.mem_append.mp hother with hold | hnew
    · exact h.owners other hold
    · rw [List.mem_singleton.mp hnew]
      exact ⟨record, hrecord, hsub.symm⟩
  · rcases List.mem_append.mp hother with hold | hnew
    · exact h.tokens other hold owner howner hid
    · rw [List.mem_singleton.mp hnew] at hid ⊢
      have hsame : owner = record :=
        List.inj_on_of_nodup_map h.ids howner hrecord (hid.trans hsub)
      rw [hsame, hgen]
      exact ⟨le_refl _, fun hinactive => absurd hinactive hactive⟩

theorem WellFormed.withLockout {portal : Portal} (h : portal.WellFormed) (lockout : LockoutStore) :
    WellFormed { portal with lockout } :=
  ⟨h.ids, h.roles, h.owners, h.tokens⟩

theorem WellFormed.upsertShadow {portal : Portal} (h : portal.WellFormed) (username : String)
    (role : Role) (endpointRoles templates : List String) (stamp : String)
    (lockout : LockoutStore) :
    WellFormed { portal with
      users := Recovery.upsertShadow portal.users username role endpointRoles templates stamp
      lockout } := by
  have hrole : (roleOf role.value).isSome := by rw [roleOf_value]; rfl
  unfold Recovery.upsertShadow
  split
  · next hnone =>
      refine h.append _ ?_ hrole lockout
      intro hmem
      obtain ⟨record, hrecord, hid⟩ := List.mem_map.mp hmem
      have hother := List.find?_eq_none.mp hnone record hrecord
      exact hother (by simpa [hasId, shadowRecord] using hid)
  · exact h.editFirst (fun record _ => follows_refreshed ..) lockout

end Portal

/-! ## What an action leaves -/

section Steps

variable [PyText] [KeyDerivation] {cfg : AuthConfig} {portal : Portal}

open AccountRecord

omit [KeyDerivation] in
/-- The tokens of a login that ended well belong to an account that is not deactivated. -/
theorem Portal.WellFormed.loginEnds (h : portal.WellFormed) {attempt : LoginAttempt}
    {outcome : Desk × Except Fault StoredService.LoginResponse}
    (hends : LoginEnds portal.toDesk attempt outcome)
    (hactive : ∀ record, findByUsername portal.users attempt.username = some record →
      record.Deactivated → ∀ response, outcome.2 ≠ .ok response) :
    Portal.WellFormed
      { toDesk := outcome.1, issued := portal.issued ++ issuedToken outcome.2 } := by
  cases hends with
  | refused lockout raised =>
      simp only [issuedToken, List.append_nil]
      exact h.withLockout lockout
  | tacacs role endpointRoles templates lockout payload user =>
      simp only [issuedToken, List.append_nil]
      exact h.upsertShadow _ _ _ _ _ _
  | localUser record role lockout user hfound htype =>
      have hissued : Portal.WellFormed
          { portal with
            issued := portal.issued ++
              [createToken record.id record.username role record.gen (seconds attempt.now)] } :=
        h.issue (List.mem_of_find?_eq_some hfound)
          (fun hinactive => hactive record hfound ⟨hinactive, htype⟩ _ rfl) rfl rfl
      exact hissued.editFirst (fun other _ => follows_stamped attempt.stamp other) lockout

theorem Portal.WellFormed.resetPassword (h : portal.WellFormed) (username : String)
    (entries : List (String × String)) (salt : Bytes) :
    Portal.WellFormed
      { portal with toDesk := cmdResetPassword portal.toDesk username entries salt } := by
  unfold cmdResetPassword
  split
  · exact h
  · split
    · exact h
    · next password _ =>
        exact h.editFirst (fun record _ => follows_withPassword password salt record) _

/-- An action that meets no disagreement keeps the files well formed. -/
theorem Portal.WellFormed.after (h : portal.WellFormed) {action : Action}
    (hpossible : portal.Possible action) (havoids : Avoids cfg portal action) :
    (portal.after cfg action).WellFormed := by
  cases action with
  | resetPassword username entries salt => exact h.resetPassword username entries salt
  | unlock username now =>
      simp only [Portal.after, cmdUnlock]
      split
      · exact h
      · split
        · exact h
        · split
          · exact h
          · exact h.withLockout _
  | createEmergencyAdmin answer usernameIn entries newId createdAt salt =>
      simp only [Portal.after, cmdCreateEmergencyAdmin]
      split
      · exact h
      · split
        · exact h
        · split
          · exact h
          · next password _ =>
              have hrole : (roleOf "admin").isSome := by decide
              exact h.append (emergencyRecord _ password newId createdAt salt) hpossible hrole _
  | changeRole username answer =>
      simp only [Portal.after, cmdChangeRole]
      split
      · exact h
      · next target hfound =>
          split
          · next hconfirmed =>
              exact h.editFirst (fun record hrecord =>
                follows_withOtherRole (havoids record hrecord hconfirmed)) _
          · exact h
  | toggleActive username answer =>
      simp only [Portal.after, cmdToggleActive]
      split
      · exact h
      · split
        · exact h.editFirst (fun record _ => follows_toggled record) _
        · exact h
  | login attempt =>
      refine h.loginEnds (login_ends h.converts) fun record hfound hdeactivated response hok => ?_
      exact havoids record hfound hdeactivated
        ((login_ok_iff h.converts hfound hdeactivated.2).mp ⟨response, hok⟩)
  | updateUser userId payload salt =>
      simp only [Portal.after, updateUser]
      split
      · exact h
      · exact h.editFirst (fun record _ => follows_updated payload salt record) _
  | listUsers => exact h
  | checkToken payload now => exact h

/-! ## The reset of a password -/

omit [PyText] [KeyDerivation] in
/-- A name no record has. -/
theorem exists_unusedName (users : List AccountRecord) :
    ∃ name, name ≠ "" ∧ ∀ record ∈ users, record.username ≠ name := by
  obtain ⟨name, hname⟩ :=
    Infinite.exists_notMem_finset (insert "" (users.map (·.username)).toFinset)
  rw [Finset.mem_insert, List.mem_toFinset, not_or] at hname
  exact ⟨name, hname.1, fun record hrecord heq =>
    hname.2 (List.mem_map.mpr ⟨record, hrecord, heq⟩)⟩

omit [PyText] [KeyDerivation] in
/-- What an edit leaves of every record, it leaves of their disjunction. -/
theorem any_editFirst {p wanted : AccountRecord → Bool} (edit : AccountRecord → AccountRecord)
    (hkeeps : ∀ record, p (edit record) = p record) (users : List AccountRecord) :
    (editFirst wanted edit users).any p = users.any p := by
  induction users with
  | nil => rfl
  | cons record rest ih =>
      rw [editFirst]
      split
      · rw [List.any_cons, List.any_cons, hkeeps]
      · rw [List.any_cons, List.any_cons, ih]

omit [PyText] in
/-- The verified password lets a login in, whatever TACACS answers, exactly where the password
decides. -/
theorem letsIn_iff {users : List AccountRecord} {record : AccountRecord} (name : String)
    {password : String}
    (hverify : verifyPassword password (record.passwordHash.getD "") = true) :
    (∀ attempt : LoginAttempt, attempt.username = name → attempt.password = password →
        LetsIn cfg users record attempt) ↔ PasswordDecides cfg users record := by
  unfold LetsIn PasswordDecides
  cases useTacacs cfg (some record) with
  | false => simpa using fun attempt hname hpassword => hpassword ▸ hverify
  | true =>
      simp only [true_and, Bool.true_eq_false, false_or, forall_const]
      constructor
      · intro h
        constructor
        · have hrefused := h { now := 0, username := name, password } rfl rfl
          simpa [hverify] using hrefused
        · -- TACACS accepts with a profile the portal does not have
          obtain ⟨unused, hnonempty, hunused⟩ := exists_unusedName users
          have hgrant := h
            { now := 0, username := name, password
              tacacs := { success := true, operatorProfileName := some unused } } rfl rfl
          have hnone : profileRecord users unused = none :=
            List.find?_eq_none.mpr fun other hother => by simp [hunused other hother]
          simpa [TacacsGrants, profileName, hnonempty, hnone] using hgrant
      · rintro ⟨hfallback, hoperators⟩ attempt - rfl
        split
        · exact .inr hoperators
        · exact ⟨hfallback, hverify⟩

omit [KeyDerivation] in
/-- A name finds the account an edit has left of the one it found. -/
theorem find_edited (edit : AccountRecord → AccountRecord)
    (hkeeps : ∀ record, (edit record).username = record.username) {users : List AccountRecord}
    {username : String} {target : AccountRecord}
    (hfound : findByUsername users username = some target) :
    findByUsername (editFirst (hasUsername username) edit users) username =
      some (edit target) := by
  have hwanted (record : AccountRecord) :
      hasUsername username (edit record) = hasUsername username record := by
    rw [hasUsername, hasUsername, hkeeps]
  unfold findByUsername at hfound ⊢
  rw [find_editFirst hwanted, hfound, Option.map_some]

/-- After a reset, the stored name finds the record with the new password. -/
theorem find_withPassword {username password : String} {salt : Bytes} {target : AccountRecord}
    {attempt : LoginAttempt} (hfound : findByUsername portal.users username = some target)
    (hname : attempt.username = target.username) :
    findByUsername (editFirst (hasUsername username) (withPassword password salt) portal.users)
      attempt.username = some (withPassword password salt target) := by
  have hspelling : PyText.lower target.username = PyText.lower username := by
    simpa [hasUsername] using List.find?_some hfound
  have hsame : hasUsername attempt.username = hasUsername username := by
    funext record
    rw [hasUsername, hasUsername, hname, hspelling]
  have hedited : findByUsername
      (editFirst (hasUsername username) (withPassword password salt) portal.users) username =
        some (withPassword password salt target) :=
    find_edited (withPassword password salt) (fun _ => rfl) hfound
  unfold findByUsername at hedited ⊢
  rw [hsame, hedited]

/-- A token from before a reset is older than the account. -/
theorem checkToken_reset (h : portal.WellFormed) {username password : String} {salt : Bytes}
    {target : AccountRecord} (hfound : findByUsername portal.users username = some target)
    {payload : LocalToken} (hpayload : payload ∈ portal.issued) (hsub : payload.sub = target.id)
    (now : Nat) (user : CurrentUser) :
    checkToken (editFirst (hasUsername username) (withPassword password salt) portal.users)
      payload now ≠ .ok user := by
  intro hok
  have hafter : Portal.WellFormed { portal with
      users := editFirst (hasUsername username) (withPassword password salt) portal.users } :=
    h.editFirst (fun record _ => follows_withPassword password salt record) portal.lockout
  obtain ⟨record, hrecord, hid, hgen⟩ := record_of_checkToken hok
  have hedited : findByUsername
      (editFirst (hasUsername username) (withPassword password salt) portal.users) username =
        some (withPassword password salt target) :=
    find_edited (withPassword password salt) (fun _ => rfl) hfound
  have hsame : record = withPassword password salt target :=
    List.inj_on_of_nodup_map hafter.ids hrecord (List.mem_of_find?_eq_some hedited)
      (hid.trans hsub)
  have hle := (h.tokens payload hpayload target (List.mem_of_find?_eq_some hfound) hsub.symm).1
  have hnew : record.gen = target.gen + 1 := by rw [hsame]; rfl
  omega

/-- After a reset every login with the stored name and the new password succeeds exactly where the
password decides. -/
theorem login_after_reset_iff (h : portal.WellFormed) {username password : String}
    {entries : List (String × String)} {salt : Bytes} {target : AccountRecord}
    (hfound : findByUsername portal.users username = some target) (htype : target.type = .user)
    (hchosen : chosenPassword entries = some password) :
    (∀ attempt : LoginAttempt, attempt.username = target.username → attempt.password = password →
        ∃ response,
          (login cfg (cmdResetPassword portal.toDesk username entries salt) attempt).2 =
            .ok response) ↔
      PasswordDecides cfg portal.users target := by
  have hconverts := (h.resetPassword username entries salt).converts
  have hdesk : cmdResetPassword portal.toDesk username entries salt =
      { users := editFirst (hasUsername username) (withPassword password salt) portal.users
        lockout := portal.lockout.clearLockout target.username } := by
    simp only [cmdResetPassword, hfound, hchosen]
  simp only [hdesk] at hconverts ⊢
  have hlets (attempt : LoginAttempt) (hname : attempt.username = target.username) :
      (∃ response,
        (login cfg
          { users := editFirst (hasUsername username) (withPassword password salt) portal.users
            lockout := portal.lockout.clearLockout target.username } attempt).2 =
          .ok response) ↔
        LetsIn cfg (editFirst (hasUsername username) (withPassword password salt) portal.users)
          (withPassword password salt target) attempt :=
    login_ok_iff hconverts (find_withPassword hfound hname) htype
  have hoperators : anyOperatorProfiles
      (editFirst (hasUsername username) (withPassword password salt) portal.users) =
        anyOperatorProfiles portal.users :=
    any_editFirst (withPassword password salt) (fun _ => rfl) portal.users
  have hdecides : PasswordDecides cfg
      (editFirst (hasUsername username) (withPassword password salt) portal.users)
        (withPassword password salt target) ↔ PasswordDecides cfg portal.users target := by
    have huse : useTacacs cfg (some (withPassword password salt target)) =
        useTacacs cfg (some target) := by
      have hadmin : isAdminUser (some (withPassword password salt target)) =
          isAdminUser (some target) := rfl
      rw [useTacacs, useTacacs, hadmin]
    unfold PasswordDecides
    rw [hoperators, huse]
  have hverify : verifyPassword password
      ((withPassword password salt target).passwordHash.getD "") = true := by
    simp only [withPassword, Option.getD_some]
    exact verify_hash password salt
  rw [← hdecides, ← letsIn_iff target.username hverify]
  exact forall_congr' fun attempt => forall_congr' fun hname => forall_congr' fun _ =>
    hlets attempt hname

/-! ## The agreement -/

omit [PyText] [KeyDerivation] in
/-- A deactivated account has no accepted token. -/
theorem checkToken_deactivated (h : portal.WellFormed) {payload : LocalToken}
    (hissued : payload ∈ portal.issued) {record : AccountRecord} (hrecord : record ∈ portal.users)
    (hid : record.id = payload.sub) (hdeactivated : record.Deactivated) (now : Nat)
    (user : CurrentUser) : checkToken portal.users payload now ≠ .ok user := by
  intro hok
  obtain ⟨other, hother, hsub, hgen⟩ := record_of_checkToken hok
  have hsame : other = record :=
    List.inj_on_of_nodup_map h.ids hother hrecord (hsub.trans hid.symm)
  have hless := (h.tokens payload hissued record hrecord hid).2 hdeactivated.1
  rw [hgen, hsame] at hless
  exact absurd hless (lt_irrefl _)

/-- A role change leaves a record that converts only where it was no admin's. -/
theorem avoids_of_agrees_changeRole {username answer : String}
    (h : Agrees cfg portal (.changeRole username answer)) :
    Avoids cfg portal (.changeRole username answer) := by
  intro target hfound hconfirmed
  have hedited : findByUsername (editFirst (hasUsername username) withOtherRole portal.users)
      username = some (withOtherRole target) :=
    find_edited withOtherRole (fun _ => rfl) hfound
  refine converts_withOtherRole_iff.mp (h.1 (withOtherRole target) ?_)
  simp only [Portal.after, cmdChangeRole, hfound, hconfirmed, if_true]
  exact List.mem_of_find?_eq_some hedited

/-- Tool and portal agree at an action exactly when it meets no disagreement. -/
theorem agrees_iff_avoids (h : portal.WellFormed) {action : Action}
    (hpossible : portal.Possible action) :
    Agrees cfg portal action ↔ Avoids cfg portal action := by
  have hconverts (havoids : Avoids cfg portal action) :
      ∀ record ∈ (portal.after cfg action).users, record.Converts :=
    (h.after hpossible havoids).converts
  cases action with
  | resetPassword username entries salt =>
      constructor
      · rintro ⟨-, hagrees⟩ target hfound htype hchosen
        obtain ⟨password, hchosen⟩ := Option.isSome_iff_exists.mp hchosen
        exact (login_after_reset_iff h hfound htype hchosen).mp
          (hagrees target password hfound htype hchosen).1
      · intro havoids
        refine ⟨hconverts havoids, fun target password hfound htype hchosen => ⟨?_, ?_⟩⟩
        · exact (login_after_reset_iff h hfound htype hchosen).mpr
            (havoids target hfound htype (by rw [hchosen]; rfl))
        · intro payload hpayload hsub now user
          simp only [Portal.after, cmdResetPassword, hfound, hchosen]
          exact checkToken_reset h hfound hpayload hsub now user
  | unlock username now => exact iff_of_true ⟨hconverts trivial, trivial⟩ trivial
  | createEmergencyAdmin answer usernameIn entries newId createdAt salt =>
      exact iff_of_true ⟨hconverts trivial, trivial⟩ trivial
  | changeRole username answer =>
      exact ⟨avoids_of_agrees_changeRole, fun havoids => ⟨hconverts havoids, trivial⟩⟩
  | toggleActive username answer => exact iff_of_true ⟨hconverts trivial, trivial⟩ trivial
  | login attempt =>
      constructor
      · rintro ⟨-, -, hagrees⟩ record hfound hdeactivated hlets
        obtain ⟨response, hok⟩ := (login_ok_iff h.converts hfound hdeactivated.2).mpr hlets
        exact hagrees record hfound hdeactivated response hok
      · intro havoids
        refine ⟨hconverts havoids, fun fault hfault => ?_,
          fun record hfound hdeactivated response hok => ?_⟩
        · have hends : LoginEnds portal.toDesk attempt (login cfg portal.toDesk attempt) :=
            login_ends h.converts
          generalize login cfg portal.toDesk attempt = outcome at hends hfault
          cases hends with
          | refused lockout raised =>
              cases hfault
              exact ⟨raised, rfl⟩
          | tacacs => cases hfault
          | localUser => cases hfault
        · exact havoids record hfound hdeactivated
            ((login_ok_iff h.converts hfound hdeactivated.2).mp ⟨response, hok⟩)
  | updateUser userId payload salt => exact iff_of_true ⟨hconverts trivial, trivial⟩ trivial
  | listUsers => exact iff_of_true ⟨hconverts trivial, listUsers_ok h.converts⟩ trivial
  | checkToken payload now =>
      refine iff_of_true ⟨hconverts trivial, fun record hrecord hid hdeactivated user => ?_⟩ trivial
      exact checkToken_deactivated h hpossible hrecord hid hdeactivated now user

end Steps

/-- From well-formed files, tool and portal agree at every action of a run exactly when no action
takes the admin role away, lets a deactivated local account in, or resets a password TACACS may
overrule. -/
theorem agrees_iff [PyText] [KeyDerivation] (cfg : AuthConfig) {start : Portal}
    (h : start.WellFormed) (actions : List Action) :
    Guarded (step cfg) (Agrees cfg) start actions ↔
      Guarded (step cfg) (Avoids cfg) start actions := by
  refine guarded_iff (I := Portal.WellFormed) ?_ ?_ h
  · intro portal action next hstep hportal havoids
    unfold step at hstep
    split at hstep
    · next hpossible =>
        cases hstep
        exact hportal.after hpossible havoids
    · cases hstep
  · intro portal action next hstep hportal
    unfold step at hstep
    split at hstep
    · next hpossible => exact agrees_iff_avoids hportal hpossible
    · cases hstep

section Office

local instance officeText : PyText := asciiText

/-- The key is the password and the salt. -/
local instance plainKeys : KeyDerivation := ⟨fun password salt _ => password ++ salt⟩

/-- An admin and a viewer. -/
def office : Portal where
  users :=
    [{ id := "u-1", username := "root", role := "admin", createdAt := "2026-01-01T08:00:00Z" },
     { id := "u-2", username := "anna", role := "viewer", createdAt := "2026-01-02T08:00:00Z"
       passwordHash := some (hashPassword "Anna12345" [7]) }]
  issued := [createToken "u-2" "anna" .viewer 0 0]

theorem office_wellFormed : office.WellFormed where
  ids := by decide
  roles := by decide
  owners := by decide
  tokens := by decide

/-- Anna is deactivated, given a new password and activated again. -/
def annaReturns : List Action :=
  [.toggleActive "Anna" "ja", .listUsers, .checkToken (createToken "u-2" "anna" .viewer 0 0) 10,
   .resetPassword "anna" [("kort", ""), ("Anna54321", "Anna54321")] [9],
   .toggleActive "anna" "Y", .listUsers]

theorem agrees_iff_annaReturns :
    office.WellFormed ∧ Guarded (step {}) (Agrees {}) office annaReturns := by
  refine ⟨office_wellFormed, (agrees_iff {} office_wellFormed annaReturns).mpr ?_⟩
  have hlocal : ∀ action ∈ annaReturns, ∀ portal, Avoids {} portal action := by
    intro action haction portal
    simp only [annaReturns, List.mem_cons, List.not_mem_nil, or_false] at haction
    rcases haction with rfl | rfl | rfl | rfl | rfl | rfl
    · trivial
    · trivial
    · trivial
    · exact fun target _ _ _ => .inl rfl
    · trivial
    · trivial
  exact guarded_of_guarded (I := fun _ => True)
    (fun portal action _ _ _ havoids => ⟨trivial, havoids portal⟩) (guarded_of_forall hlocal)
    trivial

/-- Anna's attempt with the right password. -/
def annaAttempt : LoginAttempt := { now := 60, username := "anna", password := "Anna12345" }

/-- The tool makes the last admin a `user`, and no list of the users is answered any more; and Anna
logs in although she is deactivated. -/
theorem tool_disagrees :
    office.WellFormed ∧
      ¬ Guarded (step {}) (Agrees {}) office [.changeRole "root" "ja"] ∧
      ¬ Guarded (step {}) (Agrees {}) office [.toggleActive "anna" "ja", .login annaAttempt] := by
  refine ⟨office_wellFormed, fun h => ?_, fun h => ?_⟩
  · have havoids := avoids_of_agrees_changeRole h.1
    exact havoids _ rfl (by decide) rfl
  · have hafter : (office.after {} (.toggleActive "anna" "ja")).WellFormed :=
      office_wellFormed.after trivial trivial
    have hpossible : office.Possible (.toggleActive "anna" "ja") := trivial
    rw [Guarded, step_of_possible hpossible] at h
    have hrefused := h.2.1.2.2
    have hfound : findByUsername (office.after {} (.toggleActive "anna" "ja")).users
        annaAttempt.username = some (toggled (office.users.get ⟨1, by decide⟩)) := rfl
    have htype : (toggled (office.users.get ⟨1, by decide⟩)).type = .user := rfl
    have hlets : LetsIn {} (office.after {} (.toggleActive "anna" "ja")).users
        (toggled (office.users.get ⟨1, by decide⟩)) annaAttempt := by
      rw [LetsIn, if_neg (by decide)]
      exact ⟨fun huse => absurd huse (by decide), verify_hash "Anna12345" [7]⟩
    obtain ⟨response, hresponse⟩ := (login_ok_iff hafter.converts hfound htype).mpr hlets
    exact hrefused _ hfound ⟨rfl, htype⟩ response hresponse

end Office

end IsePortal.Recovery
