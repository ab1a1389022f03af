import IsePortal.Accounts.Sessions

/-!
# Refreshing TACACS sessions

A TACACS session carries the role and the endpoint roles of its operator profile in the token,
and a refresh copies them into a new one. The profile is never looked at again, so a session
that is refreshed in time outlives any change of it. `profile_freshness_iff`: the refreshed
tokens follow the profiles exactly in the runs that refresh no session after its profile got
another role or was deleted.
-/

namespace IsePortal

open Library

namespace SessionPortal

/-- The profile got another role, or was deleted, between two events. -/
def ProfileMoved (portal : SessionPortal) (grant : ProfileGrant) (event : Nat) : Prop :=
  ∃ entry ∈ portal.journal, entry.userId = grant.profileId ∧
    (entry.kind = .roleChanged ∨ entry.kind = .deleted) ∧
    grant.event < entry.event ∧ entry.event < event

/-- No token that was refreshed after the profile of its session had moved grants the role or
the endpoint roles of the login. -/
def ProfileFreshness (portal : SessionPortal) : Prop :=
  ∀ minted ∈ portal.issued, minted.refreshed = true →
    ∀ payload grant, minted.token = .tacacs payload → minted.grant = some grant →
      portal.ProfileMoved grant minted.event →
        payload.role ≠ grant.role ∧ payload.endpointRoles ≠ grant.endpointRoles

/-- A refresh that is accepted is one of a session whose profile has not moved since the
login. -/
def RefreshesUnmoved (portal : SessionPortal) (label : SessionEvent) : Prop :=
  match label with
  | .refresh number =>
      ∀ minted grant payload, portal.issued[number]? = some minted → minted.grant = some grant →
        minted.token = .tacacs payload → portal.now ≤ payload.exp → payload.username ≠ "" →
          ¬ portal.ProfileMoved grant portal.events
  | _ => True

/-- Up to an earlier event, an event adds nothing to what has moved. -/
theorem profileMoved_perform {portal : SessionPortal} {effect : Effect} {grant : ProfileGrant}
    {event : Nat} (hevent : event ≤ portal.events) :
    (portal.perform effect).ProfileMoved grant event ↔ portal.ProfileMoved grant event := by
  constructor
  · intro h
    obtain ⟨entry, hentry, howner, hkind, hafter, hbefore⟩ := h
    rcases mem_journal_perform.mp hentry with hpast | ⟨hnow, -⟩
    · exact ⟨entry, hpast, howner, hkind, hafter, hbefore⟩
    · omega
  · intro h
    obtain ⟨entry, hentry, howner, hkind, hafter, hbefore⟩ := h
    exact ⟨entry, mem_journal_perform.mpr (Or.inl hentry), howner, hkind, hafter, hbefore⟩

/-- After an event the property holds exactly when it holds of the token the event mints. -/
theorem profileFreshness_perform {portal : SessionPortal} (hsound : portal.Sound)
    (h : portal.ProfileFreshness) {effect : Effect} (hfits : effect.Fits portal) :
    (portal.perform effect).ProfileFreshness ↔
      ∀ minted, effect.minted = some minted → minted.refreshed = true →
        ∀ grant, minted.grant = some grant → ¬ portal.ProfileMoved grant portal.events := by
  constructor
  · intro hafter minted hminted hrefreshed grant hgrant hmoved
    obtain ⟨payload, htoken, hrole, -, -⟩ := hfits.carries minted hminted grant hgrant
    have hevent := hfits.event minted hminted
    have hmoved' : (portal.perform effect).ProfileMoved grant minted.event := by
      rw [hevent]
      exact (profileMoved_perform (Nat.le_refl _)).mpr hmoved
    have hmem : minted ∈ (portal.perform effect).issued :=
      mem_issued_perform.mpr (Or.inr hminted)
    exact (hafter minted hmem hrefreshed payload grant htoken hgrant hmoved').1 hrole
  · intro hnew minted hmem hrefreshed payload grant htoken hgrant hmoved
    rcases mem_issued_perform.mp hmem with hold | hminted
    · have hborn := hsound.born minted hold
      have hmoved' := (profileMoved_perform (Nat.le_of_lt hborn)).mp hmoved
      exact h minted hold hrefreshed payload grant htoken hgrant hmoved'
    · rw [hfits.event minted hminted] at hmoved
      have hmoved' := (profileMoved_perform (Nat.le_refl _)).mp hmoved
      exact absurd hmoved' (hnew minted hminted hrefreshed grant hgrant)

section Events

variable [PyText]

/-- After one event the refreshed tokens follow the profiles exactly under the condition. -/
theorem profileFreshness_step {verify : String → String → Bool} {portal next : SessionPortal}
    {label : SessionEvent} (hstep : portal.step verify label = some next) (hsound : portal.Sound)
    (h : portal.ProfileFreshness) : next.ProfileFreshness ↔ portal.RefreshesUnmoved label := by
  obtain ⟨effect, heffect, rfl⟩ := Option.map_eq_some_iff.mp hstep
  rw [profileFreshness_perform hsound h (effect_fits hsound heffect)]
  cases does_of_effect heffect with
  | @refresh _ minted _ hminted haccepted =>
      have hcarries := hsound.carries minted (List.mem_of_getElem? hminted)
      simp only [RefreshesUnmoved, hminted, Option.some.injEq]
      constructor
      · intro hnew minted' grant payload hnumber hgrant htoken hexp hname
        subst hnumber
        exact hnew _ rfl rfl grant hgrant
      · intro hguard minted' hminted' hrefreshed grant hgrant
        subst hminted'
        obtain ⟨payload, htoken, -, -, -⟩ := hcarries grant hgrant
        rw [htoken] at haccepted
        obtain ⟨hexp, hname, -⟩ := getCurrentUser_tacacs_iff.mp haccepted
        exact hguard minted grant payload rfl hgrant htoken hexp hname
  | refreshRefused hminted hrefused =>
      refine iff_of_true (by simp) ?_
      intro minted' grant payload hnumber hgrant htoken hexp hname
      rw [hminted] at hnumber
      cases hnumber
      rw [htoken, getCurrentUser_tacacs_iff.mpr ⟨hexp, hname, rfl⟩] at hrefused
      cases hrefused
  | login _ =>
      refine iff_of_true ?_ trivial
      intro minted hminted hrefreshed
      obtain ⟨token, -, rfl⟩ := Option.map_eq_some_iff.mp hminted
      cases hrefreshed
  | loginFailed _ => exact iff_of_true (by simp) trivial
  | tick _ => exact iff_of_true (by simp) trivial
  | logout _ _ => exact iff_of_true (by simp) trivial
  | logoutNobody _ _ => exact iff_of_true (by simp) trivial
  | changePassword _ _ _ => exact iff_of_true (by simp) trivial
  | changePasswordFailed _ _ => exact iff_of_true (by simp) trivial
  | updateUser _ => exact iff_of_true (by simp) trivial
  | updateUserFailed _ => exact iff_of_true (by simp) trivial
  | deleteUser => exact iff_of_true (by simp) trivial
  | deleteUserFailed => exact iff_of_true (by simp) trivial
  | setEndpointRoles => exact iff_of_true (by simp) trivial
  | setEndpointRolesFailed => exact iff_of_true (by simp) trivial
  | createUser _ => exact iff_of_true (by simp) trivial
  | createUserFailed => exact iff_of_true (by simp) trivial
  | assignOwnRole => exact iff_of_true (by simp) trivial

/-- In every run, from any users, no refreshed token grants what a profile granted before it got
another role or was deleted, exactly when no session is refreshed after its profile moved. -/
theorem profile_freshness_iff (verify : String → String → Bool) (users : Users) (now : Nat)
    (labels : List SessionEvent) :
    Always (step verify) ProfileFreshness (start users now) labels ↔
      Guarded (step verify) RefreshesUnmoved (start users now) labels :=
  always_iff_guarded (fun _ _ _ hstep hsound => sound_step hstep hsound)
    (fun _ _ _ hstep hsound h => profileFreshness_step hstep hsound h)
    (sound_start users now) (by simp [ProfileFreshness, start])

end Events

section Demotion

local instance demotionText : PyText := asciiText

/-- An admin profile. -/
def adminProfile : Users :=
  Dict.empty.set "p-1"
    { username := "netadmin", passwordHash := "", role := .admin, userType := some .operator
      createdAt := "" }

/-- Carol logs in through TACACS, her profile is demoted, and after half an hour she refreshes. -/
def demotedSession : List SessionEvent :=
  [.login { authMode := "tacacs", tacacsServerHost := "10.0.0.5", tacacsSecret := "secret" }
      { success := true, operatorProfileName := some "netadmin" } "carol" "tacacs-pw"
      "2026-01-01T12:00:00Z",
    .updateUser "p-1" { role := some .viewer } "", .tick 1800, .refresh 0]

/-- The new token is one of an admin. -/
theorem demoted_session_refreshes_as_admin :
    ¬ Always (step (· == ·)) ProfileFreshness (start adminProfile 1000) demotedSession := by
  intro halways
  have hrun : (run (step (· == ·)) (start adminProfile 1000) demotedSession).map
      (fun portal => (portal.issued[1]?, portal.journal)) =
      some (some
        { token := .tacacs ⟨"carol", .admin, "", ["carol"], 2800, 6400⟩
          mintedAt := 2800, event := 3, refreshed := true
          grant := some ⟨"p-1", .admin, ["carol"], 0⟩ },
        [{ event := 1, userId := "p-1", kind := .roleChanged }]) := by
    decide
  obtain ⟨final, hfinal, hstate⟩ := Option.map_eq_some_iff.mp hrun
  simp only [Prod.mk.injEq] at hstate
  obtain ⟨htoken, hjournal⟩ := hstate
  have hmoved : final.ProfileMoved ⟨"p-1", .admin, ["carol"], 0⟩ 3 :=
    ⟨⟨1, "p-1", .roleChanged⟩, by rw [hjournal]; exact List.mem_singleton_self _, rfl,
      Or.inl rfl, by decide, by decide⟩
  have hfresh := halways.last hfinal _ (List.mem_of_getElem? htoken) rfl _ _ rfl rfl hmoved
  exact hfresh.1 rfl

end Demotion

end SessionPortal

end IsePortal
