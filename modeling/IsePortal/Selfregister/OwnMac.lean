import Mathlib.Algebra.Order.Field.Rat
import Mathlib.Tactic.Linarith
import IsePortal.Library.Runs
import IsePortal.Selfregister.Portal

/-!
# Registrations act on the MAC address of their client

`selfregister_own_mac`: whatever the calls of the clients, every write and every CoA of a
registration is for a MAC address that MnT gave to a session call from the same address, at most ten
minutes before the registration read its binding.
-/

namespace IsePortal

open Library

namespace Selfregister

namespace RegisterPortal

/-- A session answer the MAC address of a registration comes from. -/
def ComesFrom (registration : Registration) (session : ReturnedSession) : Prop :=
  session.ip = registration.ip ∧ registration.mac = normalizeMac session.mac ∧
    registration.lookedUpAt < session.returnedAt + defaultTtlSeconds

/-- The MAC address comes from an answer that was there when the registration read it. -/
def Owned (registration : Registration) : Prop :=
  ∃ session ∈ registration.sessions, ComesFrom registration session

/-- What the table, the registrations in flight and the actions have in common. -/
structure Sound (portal : RegisterPortal) : Prop where
  bound : ∀ ip entry, portal.bindings.get? ip = some entry →
    ∃ session ∈ portal.returned, session.ip = ip ∧
      entry = (normalizeMac session.mac, session.returnedAt + defaultTtlSeconds)
  running : ∀ registration ∈ portal.registrations, Owned registration
  performed : ∀ performed ∈ portal.actions, Owned performed.1 ∧
    performed.2.mac = performed.1.mac

variable {portal next : RegisterPortal} {registration : Registration}

/-- A registration that goes on keeps its address, its MAC address and its sessions. -/
theorem Sound.advance (h : Sound portal) (hmem : registration ∈ portal.registrations)
    (stage : RegisterStage) : Sound (portal.advance registration stage) := by
  refine ⟨h.bound, fun other hother => ?_, h.performed⟩
  obtain ⟨before, hbefore, rfl⟩ := List.mem_map.mp hother
  split
  · exact h.running registration hmem
  · exact h.running before hbefore

theorem Sound.leave (h : Sound portal) (registration : Registration) :
    Sound (portal.leave registration) :=
  ⟨h.bound, fun other hother => h.running other (List.mem_of_mem_filter hother), h.performed⟩

theorem Sound.perform (h : Sound portal) (hmem : registration ∈ portal.registrations)
    (action : RegisterAction) (haction : action.mac = registration.mac) :
    Sound (portal.perform registration action) :=
  ⟨h.bound, h.running, List.forall_mem_cons.mpr ⟨⟨h.running registration hmem, haction⟩,
    h.performed⟩⟩

theorem Sound.finish (h : Sound portal) (registration : Registration) :
    Sound (portal.finish registration) :=
  ⟨fun ip entry hentry => h.bound ip entry (get?_erase_eq_some hentry),
    (h.leave registration).running, h.performed⟩

/-- MnT's answer is bound for the address of the call. -/
theorem Sound.mntAnswered (h : Sound portal) (call : SessionCall) (mac : Option String) :
    Sound (portal.mntAnswered call mac) := by
  unfold RegisterPortal.mntAnswered
  cases mac with
  | none => exact ⟨h.bound, h.running, h.performed⟩
  | some mac =>
      refine ⟨fun ip entry hentry => ?_, h.running, h.performed⟩
      rcases get?_bind_cases hentry with ⟨hip, hvalue⟩ | hold
      · exact ⟨_, List.mem_cons_self, hip.symm, hvalue⟩
      · obtain ⟨session, hsession, hfrom⟩ := h.bound ip entry hold
        exact ⟨session, List.mem_cons_of_mem _ hsession, hfrom⟩

section Steps

variable [PyText] [PyIpAddress]

theorem Sound.lookupSession (h : Sound portal) (request : PortalRequest) :
    Sound (portal.lookupSession request) := by
  unfold RegisterPortal.lookupSession
  split
  · exact h
  · split
    · exact ⟨h.bound, h.running, h.performed⟩
    · exact ⟨h.bound, h.running, h.performed⟩

/-- A registration that passes the checks reads a live binding, and that comes from an answer. -/
theorem Sound.post (h : Sound portal) (request : PortalRequest) (body : RegisterBody) :
    Sound (portal.post request body) := by
  have hbound : ∀ ip entry,
      (admission portal.settings portal.now portal.bindings request body).2.get? ip = some entry →
        ∃ session ∈ portal.returned, session.ip = ip ∧
          entry = (normalizeMac session.mac, session.returnedAt + defaultTtlSeconds) :=
    fun ip entry hentry => h.bound ip entry (get?_admission_eq_some hentry)
  unfold RegisterPortal.post
  dsimp only
  split
  · exact ⟨hbound, h.running, h.performed⟩
  · next ip mac hok =>
      obtain ⟨-, hlookup⟩ := admission_eq_ok hok
      obtain ⟨expiresAt, hentry, hlive⟩ := lookup_eq_some hlookup
      obtain ⟨session, hsession, hip, hvalue⟩ := h.bound ip _ hentry
      simp only [Prod.mk.injEq] at hvalue
      refine ⟨hbound, List.forall_mem_cons.mpr ⟨?_, h.running⟩, h.performed⟩
      exact ⟨session, hsession, hip, hvalue.1, hvalue.2 ▸ hlive⟩

omit [PyIpAddress] in
theorem Sound.found (h : Sound portal) (hmem : registration ∈ portal.registrations)
    (existing : Option KnownEndpoint) : Sound (portal.found registration existing) := by
  unfold RegisterPortal.found
  split
  · exact h.advance hmem _
  · split
    · exact h.leave registration
    · exact h.advance hmem _

omit [PyText] [PyIpAddress] in
theorem Sound.send (h : Sound portal) (hmem : registration ∈ portal.registrations)
    (existing : Option KnownEndpoint) : Sound (portal.send registration existing) := by
  unfold RegisterPortal.send
  cases existing with
  | none => exact (h.perform hmem (.create registration.mac) rfl).advance hmem _
  | some endpoint =>
      exact (h.perform hmem (.update endpoint.id registration.mac) rfl).advance hmem _

theorem sound_step {label : RegisterStep} (hstep : portal.step label = some next)
    (h : Sound portal) : Sound next := by
  cases portal.step_moves hstep with
  | tick | settings => exact ⟨h.bound, h.running, h.performed⟩
  | session request => exact h.lookupSession request
  | mntAnswered callId mac call => exact h.mntAnswered call mac
  | post request body => exact h.post request body
  | found existing hfound => exact h.found (portal.mem_of_registration? hfound) existing
  | send hfound => exact h.send (portal.mem_of_registration? hfound) _
  | taken hfound => exact h.advance (portal.mem_of_registration? hfound) _
  | sendCoa hfound =>
      have hmem := portal.mem_of_registration? hfound
      exact (h.perform hmem (.coa _) rfl).advance hmem _
  | finish => exact h.finish _
  | abort => exact h.leave _

end Steps

end RegisterPortal

end Selfregister

end IsePortal
