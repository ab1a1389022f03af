import IsePortal.Accounts.Sessions

/-!
# Revocation of local tokens

A local token is accepted while the record of its user has the role and the generation it
carries. Whatever ends the sessions of a user must therefore leave the record with a pair that
no token carries. Raising the generation does that, until a record is created anew under an old
id; and a TACACS login sets the role of a shadow record without raising its generation.
`local_revocation_iff` says exactly which events leave a pair that is still carried.
-/

namespace IsePortal

open Library

namespace SessionPortal

/-- What an accepted token is good for: its user exists and gets the stored role, it is younger
than every end of the user's sessions, and it was minted at most an hour ago. -/
structure Current (portal : SessionPortal) (minted : Minted) (userId : String)
    (user : CurrentUser) : Prop where
  stored : ∃ record, portal.users.get? userId = some record ∧ user.id = userId ∧
    user.role = record.role
  since : ∀ entry ∈ portal.journal, entry.userId = userId → entry.event < minted.event
  lifetime : portal.now ≤ minted.mintedAt + tokenTtlSeconds

/-- Every local token that `get_current_user` accepts is current. -/
def RevocationHolds (portal : SessionPortal) : Prop :=
  ∀ minted ∈ portal.issued, ∀ payload user, minted.token = .localUser payload →
    getCurrentUser portal.users portal.now (some minted.token) = .ok user →
      portal.Current minted payload.sub user

/-- No local token of the user in its lifetime carries the role and the generation. -/
def NoneCarries (issued : List Minted) (now : Nat) (userId : String) (key : Role × Nat) : Prop :=
  ∀ minted ∈ issued, ∀ payload, minted.token = .localUser payload → payload.sub = userId →
    now ≤ payload.exp → payload.key ≠ key

section Rekeying

variable [PyText]

/-- The record in which an event ends sessions, or which it creates, with the role and the
generation it leaves there. -/
def rekeyed (verify : String → String → Bool) (portal : SessionPortal) (label : SessionEvent) :
    Option (String × Role × Nat) :=
  match label with
  | .login cfg tacacs username _ _ =>
      if useTacacs cfg (portal.users.findByUsername username) ∧ tacacs.success then
        match tacacsGrant portal.users (profileName tacacs username) username with
        | none => none
        | some grant =>
            match portal.users.get? (shadowId username) with
            | none => some (shadowId username, grant.1, 0)
            | some record =>
                if grant.1 = record.role then none
                else some (shadowId username, grant.1, record.tokenGen.getD 0)
      else none
  | .logout number =>
      match portal.issued[number]? with
      | none => none
      | some minted =>
          match logoutUser portal.now (some minted.token) with
          | none => none
          | some userId =>
              (portal.users.get? userId).map fun record =>
                (userId, record.role, record.tokenGen.getD 0 + 1)
  | .changePassword number payload newHash =>
      match portal.issued[number]? with
      | none => none
      | some minted =>
          match changePasswordRoute verify portal.users portal.now (some minted.token) payload
            newHash with
          | .error _ => none
          | .ok change =>
              (portal.users.get? change.target).map fun record =>
                (change.target, record.role, record.tokenGen.getD 0 + 1)
  | .updateUser userId payload _ =>
      match portal.users.get? userId with
      | none => none
      | some record =>
          if payload.role.any (· ≠ record.role) || payload.password.any (· ≠ "") then
            some (userId, payload.role.getD record.role, record.tokenGen.getD 0 + 1)
          else none
  | _ => none

/-- What an event leaves where sessions have ended is carried by no token. -/
def RekeysFresh (verify : String → String → Bool) (portal : SessionPortal)
    (label : SessionEvent) : Prop :=
  ∀ userId role gen, portal.rekeyed verify label = some (userId, role, gen) →
    NoneCarries portal.issued portal.now userId (role, gen)

end Rekeying

/-! ## One event -/

/-- Only the last end of sessions is not part of being accepted. -/
theorem revocationHolds_iff {portal : SessionPortal} (hsound : portal.Sound) :
    portal.RevocationHolds ↔
      ∀ minted ∈ portal.issued, ∀ payload, minted.token = .localUser payload →
        portal.now ≤ payload.exp →
          (∃ record, portal.users.get? payload.sub = some record ∧ record.key = payload.key) →
            ∀ entry ∈ portal.journal, entry.userId = payload.sub → entry.event < minted.event := by
  constructor
  · intro h minted hmem payload htoken hexp hkey
    obtain ⟨record, hrecord, hkey⟩ := hkey
    have haccepted : getCurrentUser portal.users portal.now (some minted.token) =
        .ok (record.currentUser payload.sub) := by
      rw [htoken]
      exact getCurrentUser_localUser_iff.mpr ⟨hexp, record, hrecord, hkey, rfl⟩
    exact (h minted hmem payload _ htoken haccepted).since
  · intro h minted hmem payload user htoken haccepted
    rw [htoken] at haccepted
    obtain ⟨hexp, record, hrecord, hkey, rfl⟩ := getCurrentUser_localUser_iff.mp haccepted
    refine ⟨⟨record, hrecord, rfl, rfl⟩,
      h minted hmem payload htoken hexp ⟨record, hrecord, hkey⟩, ?_⟩
    have hlife := hsound.lifetime minted hmem
    rw [htoken] at hlife
    exact hlife ▸ hexp

/-- What an event leaves where it created a record or ended sessions is carried by no token. -/
def LeavesFresh (portal : SessionPortal) (effect : Effect) : Prop :=
  ∀ userId record', (effect.users portal.users).get? userId = some record' →
    ((∃ kind, (userId, kind) ∈ effect.endings portal.users) ∨ portal.users.get? userId = none) →
    NoneCarries portal.issued (portal.now + effect.seconds) userId record'.key

/-- After an event the property holds exactly when what it leaves in a record that it created,
or whose sessions it ended, is carried by no token. -/
theorem revocationHolds_perform {portal : SessionPortal} (hsound : portal.Sound)
    (h : portal.RevocationHolds) {effect : Effect} (hfits : effect.Fits portal) :
    (portal.perform effect).RevocationHolds ↔ portal.LeavesFresh effect := by
  rw [revocationHolds_iff (hsound.perform hfits)]
  have hbefore := (revocationHolds_iff hsound).mp h
  constructor
  · intro hafter userId record' hrecord' hended minted hmem payload htoken hsub hexp hkey
    subst hsub
    have hsince := hafter minted (mem_issued_perform.mpr (Or.inl hmem)) payload htoken hexp
      ⟨record', hrecord', hkey.symm⟩
    have hborn := hsound.born minted hmem
    rcases hended with ⟨kind, hkind⟩ | hnone
    · -- the token is older than this event
      have hnew : portal.events < minted.event :=
        hsince ⟨portal.events, payload.sub, kind⟩
          (mem_journal_perform.mpr (Or.inr ⟨rfl, hkind⟩)) rfl
      omega
    · -- the token belongs to an earlier record with the id
      have hid : minted.token.localId = some payload.sub := by
        rw [htoken]
        rfl
      obtain ⟨entry, hentry, howner, hle⟩ := hsound.orphans minted hmem payload.sub hid hnone
      have := hsince entry (mem_journal_perform.mpr (Or.inl hentry)) howner
      omega
  · intro hfresh minted hmem payload htoken hexp hkey entry hentry howner
    obtain ⟨record', hrecord', hkey⟩ := hkey
    have hid : minted.token.localId = some payload.sub := by
      rw [htoken]
      rfl
    rcases mem_issued_perform.mp hmem with hold | hnew
    · by_cases hended : (∃ kind, (payload.sub, kind) ∈ effect.endings portal.users) ∨
          portal.users.get? payload.sub = none
      · exact absurd hkey.symm
          (hfresh payload.sub record' hrecord' hended minted hold payload htoken rfl hexp)
      · -- nothing has ended, so the token was accepted before
        rw [not_or] at hended
        obtain ⟨record, hrecord⟩ := Option.ne_none_iff_exists'.mp hended.2
        have hgen : record'.tokenGen.getD 0 = record.tokenGen.getD 0 :=
          (hfits.gens payload.sub record record' hrecord hrecord').resolve_right hended.1
        have hrole : record'.role = record.role := by
          by_contra hne
          exact hended.1 ⟨.roleChanged, Effect.ending_of_role hrecord hrecord' hne⟩
        have hsame : record.key = payload.key := by
          rw [← hkey, UserRecord.key, UserRecord.key, hgen, hrole]
        have hlife : portal.now ≤ payload.exp := Nat.le_trans (Nat.le_add_right _ _) hexp
        rcases mem_journal_perform.mp hentry with hpast | ⟨-, hending⟩
        · exact hbefore minted hold payload htoken hlife ⟨record, hrecord, hsame⟩ entry hpast howner
        · rw [howner] at hending
          exact absurd ⟨_, hending⟩ hended.1
    · -- the token is minted in this event, which ends nothing for its user
      have hevent := hfits.event minted hnew
      rcases mem_journal_perform.mp hentry with hpast | ⟨-, hending⟩
      · have := hsound.logged entry hpast
        omega
      · rw [howner] at hending
        exact absurd hending ((hfits.owned minted hnew payload.sub hid).2 entry.kind)

theorem leavesFresh_of_no_change (portal : SessionPortal) {effect : Effect}
    (hchange : effect.change = none) (hended : effect.ended = []) :
    portal.LeavesFresh effect := by
  intro userId record' hrecord' hcreated
  simp only [Effect.users, hchange] at hrecord'
  simp [Effect.endings, hchange, hended, hrecord'] at hcreated

/-- An event that changes one record only has to leave that one fresh. -/
theorem leavesFresh_iff_target {portal : SessionPortal} {effect : Effect} {change : Change}
    (hchange : effect.change = some change) (hseconds : effect.seconds = 0)
    (hended : ∀ ending ∈ effect.ended, ending.1 = change.target) :
    portal.LeavesFresh effect ↔
      ∀ record', change.recordAt change.target (portal.users.get? change.target) = some record' →
        (effect.ended ≠ [] ∨ recordEvents (portal.users.get? change.target) (some record') ≠ [] ∨
          portal.users.get? change.target = none) →
        NoneCarries portal.issued portal.now change.target record'.key := by
  have hown : ∀ record', (change.apply portal.users).get? change.target = some record' →
      ((∃ kind, (change.target, kind) ∈ effect.endings portal.users) ↔
        (effect.ended ≠ [] ∨
          recordEvents (portal.users.get? change.target) (some record') ≠ [])) := by
    intro record' hrecord'
    simp only [Effect.endings, hchange, hrecord']
    constructor
    · intro hending
      obtain ⟨kind, hkind⟩ := hending
      rcases List.mem_append.mp hkind with hkind | hkind
      · exact Or.inl (List.ne_nil_of_mem hkind)
      · obtain ⟨event, hevent, -⟩ := List.mem_map.mp hkind
        exact Or.inr (List.ne_nil_of_mem hevent)
    · intro hending
      rcases hending with hending | hending
      · obtain ⟨ending, hmem⟩ := List.exists_mem_of_ne_nil _ hending
        refine ⟨ending.2, List.mem_append_left _ ?_⟩
        rw [← hended ending hmem]
        exact hmem
      · obtain ⟨event, hmem⟩ := List.exists_mem_of_ne_nil _ hending
        exact ⟨event, List.mem_append_right _ (List.mem_map.mpr ⟨event, hmem, rfl⟩)⟩
  constructor
  · intro h record' hrecord' hcreated
    rw [← change.get?_apply] at hrecord'
    have hnow := h change.target record' (by rw [Effect.users_of_change hchange, hrecord'])
    rw [hseconds, Nat.add_zero] at hnow
    rcases hcreated with hended' | hevents | hnone
    · exact hnow (Or.inl ((hown record' hrecord').mpr (Or.inl hended')))
    · exact hnow (Or.inl ((hown record' hrecord').mpr (Or.inr hevents)))
    · exact hnow (Or.inr hnone)
  · intro h userId record' hrecord' hcreated
    rw [Effect.users_of_change hchange] at hrecord'
    rw [hseconds, Nat.add_zero]
    by_cases htarget : userId = change.target
    · subst htarget
      refine h record' (change.get?_apply portal.users _ ▸ hrecord') ?_
      rcases hcreated with hending | hnone
      · rcases (hown record' hrecord').mp hending with hended' | hevents
        · exact Or.inl hended'
        · exact Or.inr (Or.inl hevents)
      · exact Or.inr (Or.inr hnone)
    · -- another record stays, and nothing ends for its user
      rw [change.get?_apply_ne portal.users htarget] at hrecord'
      rcases hcreated with ⟨kind, hkind⟩ | hnone
      · simp only [Effect.endings, hchange] at hkind
        rcases List.mem_append.mp hkind with hkind | hkind
        · exact absurd (hended _ hkind) htarget
        · obtain ⟨event, -, heq⟩ := List.mem_map.mp hkind
          exact absurd (congrArg Prod.fst heq).symm htarget
      · rw [hrecord'] at hnone
        cases hnone

/-- An edit ends sessions with its own event or with another role. -/
theorem leavesFresh_edit {portal : SessionPortal} {effect : Effect} {userId : String}
    {edits : FieldEdits} (hchange : effect.change = some (.edit userId edits))
    (hseconds : effect.seconds = 0) (hended : ∀ ending ∈ effect.ended, ending.1 = userId) :
    portal.LeavesFresh effect ↔
      ∀ record, portal.users.get? userId = some record →
        (effect.ended ≠ [] ∨ (edits.apply record).role ≠ record.role) →
        NoneCarries portal.issued portal.now userId (edits.apply record).key := by
  rw [leavesFresh_iff_target hchange hseconds hended]
  simp only [Change.target, Change.recordAt, if_true]
  cases portal.users.get? userId with
  | none => simp
  | some record => simp [recordEvents]

/-- An edit that leaves the role alone ends nothing by itself. -/
theorem leavesFresh_quiet {portal : SessionPortal} {effect : Effect} {userId : String}
    {edits : FieldEdits} (hchange : effect.change = some (.edit userId edits))
    (hrole : edits.role = none) (hseconds : effect.seconds = 0) (hended : effect.ended = []) :
    portal.LeavesFresh effect := by
  refine (leavesFresh_edit hchange hseconds (by simp [hended])).mpr fun record _ hends => ?_
  simp [hended, FieldEdits.apply, hrole] at hends

theorem leavesFresh_upsert {portal : SessionPortal} {effect : Effect} {userId : String}
    {edits : FieldEdits} {fresh : UserRecord}
    (hchange : effect.change = some (.upsert userId edits fresh))
    (hseconds : effect.seconds = 0) (hended : effect.ended = []) :
    portal.LeavesFresh effect ↔
      (portal.users.get? userId = none →
        NoneCarries portal.issued portal.now userId fresh.key) ∧
      ∀ record, portal.users.get? userId = some record →
        (edits.apply record).role ≠ record.role →
        NoneCarries portal.issued portal.now userId (edits.apply record).key := by
  rw [leavesFresh_iff_target hchange hseconds (by simp [hended])]
  simp only [Change.target, Change.recordAt, if_true]
  cases portal.users.get? userId with
  | none => simp
  | some record => simp [recordEvents, hended]

/-- A new id is carried by no token. -/
theorem leavesFresh_create {portal : SessionPortal} {effect : Effect} {newId : String}
    {record : UserRecord} (hchange : effect.change = some (.create newId record))
    (hseconds : effect.seconds = 0) (hended : effect.ended = []) (hunused : portal.Unused newId) :
    portal.LeavesFresh effect := by
  rw [leavesFresh_iff_target hchange hseconds (by simp [hended])]
  intro record' _ _ minted hmem payload htoken hsub
  refine absurd ?_ (hunused.2 minted hmem)
  rw [htoken]
  exact congrArg some hsub

theorem leavesFresh_delete {portal : SessionPortal} {effect : Effect} {userId : String}
    (hchange : effect.change = some (.delete userId)) (hseconds : effect.seconds = 0)
    (hended : effect.ended = []) : portal.LeavesFresh effect := by
  rw [leavesFresh_iff_target hchange hseconds (by simp [hended])]
  intro record' hrecord'
  simp [Change.recordAt, Change.target] at hrecord'

section Events

variable [PyText]

/-- A login leaves a record fresh unless TACACS moves it to a role a token carries. -/
theorem leavesFresh_login {cfg : AuthConfig} {tacacs : TacacsAuthResult}
    {verify : String → String → Bool} {portal : SessionPortal}
    {username password stamp : String} {change : Change} {minted : Option Minted}
    (h : login cfg tacacs verify portal.users username password stamp = .success change) :
    portal.LeavesFresh { change := some change, minted := minted } ↔
      portal.RekeysFresh verify (.login cfg tacacs username password stamp) := by
  by_cases htacacs : useTacacs cfg (portal.users.findByUsername username) ∧ tacacs.success
  · obtain ⟨role, granted, templates, hgrant, rfl, -⟩ := loginToken_tacacs htacacs h portal.now
    rw [upsertShadow, leavesFresh_upsert rfl rfl rfl]
    simp only [RekeysFresh, rekeyed, if_pos htacacs, hgrant]
    cases hrecord : portal.users.get? (shadowId username) with
    | none => simp [UserRecord.key]
    | some record =>
        by_cases hrole : role = record.role
        · simp [FieldEdits.apply, hrole]
        · simp [FieldEdits.apply, UserRecord.key, hrole]
  · obtain ⟨userId, record, hrecord, rfl, -⟩ := loginToken_local htacacs h portal.now
    refine iff_of_true (leavesFresh_quiet rfl rfl rfl rfl) ?_
    intro userId' role gen hrekeyed
    simp [rekeyed, htacacs] at hrekeyed

/-- A login that fails leaves nothing, and one that TACACS accepts without a profile fails. -/
theorem rekeysFresh_of_failed {cfg : AuthConfig} {tacacs : TacacsAuthResult}
    {verify : String → String → Bool} {portal : SessionPortal}
    {username password stamp : String}
    (h : ∀ change, login cfg tacacs verify portal.users username password stamp ≠ .success change) :
    portal.RekeysFresh verify (.login cfg tacacs username password stamp) := by
  intro userId role gen hrekeyed
  simp only [rekeyed] at hrekeyed
  split at hrekeyed
  · rename_i htacacs
    split at hrekeyed
    · cases hrekeyed
    · rename_i grant hgrant
      refine absurd ?_ (h (upsertShadow username grant.1 (withOwnRole grant.2.1 username)
        grant.2.2 stamp))
      simp only [login, if_pos htacacs.1, if_pos htacacs.2, tacacsLogin, hgrant]
      rfl
  · cases hrekeyed

/-- What an event leaves is fresh exactly under the condition on it. -/
theorem leavesFresh_effect {verify : String → String → Bool} {portal : SessionPortal}
    {label : SessionEvent} {effect : Effect} (h : portal.effect verify label = some effect) :
    portal.LeavesFresh effect ↔ portal.RekeysFresh verify label := by
  have hidle : portal.LeavesFresh {} := leavesFresh_of_no_change portal rfl rfl
  cases does_of_effect h with
  | tick seconds =>
      exact iff_of_true (leavesFresh_of_no_change portal rfl rfl) (by simp [RekeysFresh, rekeyed])
  | login hsuccess => exact leavesFresh_login hsuccess
  | loginFailed hfailed => exact iff_of_true hidle (rekeysFresh_of_failed hfailed)
  | refresh _ _ =>
      exact iff_of_true (leavesFresh_of_no_change portal rfl rfl) (by simp [RekeysFresh, rekeyed])
  | refreshRefused _ _ => exact iff_of_true hidle (by simp [RekeysFresh, rekeyed])
  | @logout _ _ userId hminted hlogout =>
      rw [revokeTokens, leavesFresh_edit rfl rfl (by simp)]
      simp only [RekeysFresh, rekeyed, hminted, hlogout]
      cases portal.users.get? userId with
      | none => simp
      | some record => simp [FieldEdits.apply, UserRecord.key]
  | logoutNobody hminted hlogout =>
      exact iff_of_true hidle (by simp [RekeysFresh, rekeyed, hminted, hlogout])
  | changePassword hminted hanswer hrecord =>
      rw [leavesFresh_edit rfl rfl (by simp)]
      simp [RekeysFresh, rekeyed, hminted, hanswer, hrecord, FieldEdits.apply, UserRecord.key,
        Change.target]
  | changePasswordFailed hminted hanswer =>
      exact iff_of_true hidle (by simp [RekeysFresh, rekeyed, hminted, hanswer])
  | @updateUser _ payload _ record hrecord =>
      rw [leavesFresh_edit rfl rfl (by simp)]
      simp only [RekeysFresh, rekeyed, hrecord]
      -- the generation is raised for a new password or another role
      generalize payload.password.any (· ≠ "") = passwordSet
      cases passwordSet with
      | true => simp [FieldEdits.apply, UserRecord.key]
      | false =>
          cases hrole : payload.role with
          | none => simp [FieldEdits.apply]
          | some role =>
              by_cases hsame : role = record.role
              · simp [hsame, FieldEdits.apply]
              · simp [hsame, FieldEdits.apply, UserRecord.key]
  | updateUserFailed hrecord =>
      exact iff_of_true hidle (by simp [RekeysFresh, rekeyed, hrecord])
  | deleteUser =>
      exact iff_of_true (leavesFresh_delete rfl rfl rfl) (by simp [RekeysFresh, rekeyed])
  | deleteUserFailed => exact iff_of_true hidle (by simp [RekeysFresh, rekeyed])
  | setEndpointRoles =>
      exact iff_of_true (leavesFresh_quiet rfl rfl rfl rfl) (by simp [RekeysFresh, rekeyed])
  | setEndpointRolesFailed => exact iff_of_true hidle (by simp [RekeysFresh, rekeyed])
  | createUser hunused =>
      exact iff_of_true (leavesFresh_create rfl rfl rfl hunused) (by simp [RekeysFresh, rekeyed])
  | createUserFailed => exact iff_of_true hidle (by simp [RekeysFresh, rekeyed])
  | assignOwnRole =>
      exact iff_of_true (leavesFresh_quiet rfl rfl rfl rfl) (by simp [RekeysFresh, rekeyed])

/-- After one event the accepted tokens are current exactly under the condition. -/
theorem revocationHolds_step {verify : String → String → Bool} {portal next : SessionPortal}
    {label : SessionEvent} (hstep : portal.step verify label = some next) (hsound : portal.Sound)
    (h : portal.RevocationHolds) :
    next.RevocationHolds ↔ portal.RekeysFresh verify label := by
  obtain ⟨effect, heffect, rfl⟩ := Option.map_eq_some_iff.mp hstep
  rw [revocationHolds_perform hsound h (effect_fits hsound heffect)]
  exact leavesFresh_effect heffect

/-- In every run, from any users, every accepted local token is current in every state exactly
when no event creates a record, or ends sessions, and leaves a role and a generation that a
token still carries. -/
theorem local_revocation_iff (verify : String → String → Bool) (users : Users) (now : Nat)
    (labels : List SessionEvent) :
    Always (step verify) RevocationHolds (start users now) labels ↔
      Guarded (step verify) (RekeysFresh verify) (start users now) labels :=
  always_iff_guarded (fun _ _ _ hstep hsound => sound_step hstep hsound)
    (fun _ _ _ hstep hsound h => revocationHolds_step hstep hsound h)
    (sound_start users now) (by simp [RevocationHolds, start])

end Events

section ShadowRole

local instance shadowRoleText : PyText := asciiText

/-- An operator profile for viewers and one for editors. -/
def twoProfiles : Users :=
  (Dict.empty.set "p-1"
    { username := "netview", passwordHash := "", role := .viewer, userType := some .operator
      createdAt := "" }).set "p-2"
    { username := "netedit", passwordHash := "", role := .editor, userType := some .operator
      createdAt := "" }

/-- Logins go to TACACS and fall back to the local password. -/
def tacacsWithFallback : AuthConfig where
  authMode := "tacacs"
  tacacsServerHost := "10.0.0.5"
  tacacsSecret := "secret"

/-- A login of bob that TACACS accepts with a profile. -/
def bobByTacacs (profile : String) : SessionEvent :=
  .login tacacsWithFallback { success := true, operatorProfileName := some profile } "bob"
    "tacacs-pw" "2026-01-01T12:00:00Z"

/-- Bob gets a local password and logs in with it while TACACS is down; later TACACS makes him an
editor and a viewer again. -/
def roleThereAndBack : List SessionEvent :=
  [bobByTacacs "netview",
    .updateUser "tacacs:bob" { password := some "Bob1234567", userType := some .user } "Bob1234567",
    .login tacacsWithFallback { success := false } "bob" "Bob1234567" "2026-01-01T12:05:00Z",
    bobByTacacs "netedit", bobByTacacs "netview"]

/-- The local token from before both changes of the role is accepted again. -/
theorem role_there_and_back_revives_token :
    ¬ Always (step (· == ·)) RevocationHolds (start twoProfiles 1000) roleThereAndBack := by
  intro halways
  have hrun : (run (step (· == ·)) (start twoProfiles 1000) roleThereAndBack).map
      (fun portal => (portal.users.get? "tacacs:bob", portal.now, portal.issued[1]?,
        portal.journal.getLast?)) =
      some (some
        { username := "bob", passwordHash := "Bob1234567", role := .viewer, userType := some .user
          createdAt := "2026-01-01T12:00:00Z", lastLogin := some "2026-01-01T12:00:00Z"
          tokenGen := some 1, assignedEndpointRoles := some ["bob"]
          assignedTemplates := some [] }, 1000,
        some { token := .localUser ⟨"tacacs:bob", "bob", .viewer, 1, 1000, 4600⟩
               mintedAt := 1000, event := 2 },
        some { event := 4, userId := "tacacs:bob", kind := .roleChanged }) := by
    decide
  obtain ⟨final, hfinal, hstate⟩ := Option.map_eq_some_iff.mp hrun
  simp only [Prod.mk.injEq] at hstate
  obtain ⟨hrecord, hnow, htoken, hentry⟩ := hstate
  have haccepted := halways.last hfinal _ (List.mem_of_getElem? htoken) _ _ rfl
    (getCurrentUser_localUser_iff.mpr ⟨by rw [hnow]; decide, _, hrecord, rfl, rfl⟩)
  have hsince := haccepted.since _ (List.mem_of_getLast? hentry) rfl
  exact absurd hsince (by decide)

end ShadowRole

end SessionPortal

end IsePortal
