import IsePortal.Library.Runs
import IsePortal.Selfregister.Portal

/-!
# One write for each binding

A registration reads its binding before it waits for ISE and takes it out when it is through. Until
then, and for good when the write raises, the next registration from the address reads it too.
`binding_consumed_once_iff` says when that shows: among the registrations from an address that no
session call separates at most one sends a write where none reads the binding that another has read
before it, and exactly where each that sends its write does so while all others are still before
theirs, or ended before it.
-/

namespace IsePortal

open Library

namespace Selfregister

/-- An update or a create, not a CoA. -/
def RegisterAction.isWrite : RegisterAction → Bool
  | .update _ _ | .create _ => true
  | .coa _ => false

/-- Two registrations from one address without a session call from it between them. -/
def SameBinding (first second : Registration) : Prop :=
  first.ip = second.ip ∧ first.gets = second.gets

namespace RegisterPortal

/-- In flight or over. -/
def Started (portal : RegisterPortal) (registration : Registration) : Prop :=
  registration ∈ portal.registrations ∨ registration ∈ portal.ended

/-- The condition on the clients: a registration passes the checks while no other one from its
address has passed them without a session call between the two. -/
def ReadsAlone [PyText] [PyIpAddress] (portal : RegisterPortal) : RegisterStep → Prop
  | .post request body =>
      ∀ ip mac,
        (admission portal.settings portal.now portal.bindings request body).1 = .ok (ip, mac) →
        ∀ other, portal.Started other → ¬ (other.ip = ip ∧ other.gets = portal.gets ip)
  | _ => True

/-- No two registrations have read one binding. -/
def ReadOnce (portal : RegisterPortal) : Prop :=
  ∀ first, portal.Started first → ∀ second, portal.Started second → SameBinding first second →
    first.id = second.id

/-- A registration with these values is past its write. -/
def Sent (portal : RegisterPortal) (id : Nat) (ip : String) (gets : Nat) : Prop :=
  ∃ registration, portal.Started registration ∧ registration.id = id ∧ registration.ip = ip ∧
    registration.gets = gets ∧ registration.stage.sent = true

/-- A registration with these values has written. -/
def Wrote (portal : RegisterPortal) (id : Nat) (ip : String) (gets : Nat) : Prop :=
  ∃ performed ∈ portal.actions, performed.2.isWrite = true ∧ performed.1.id = id ∧
    performed.1.ip = ip ∧ performed.1.gets = gets

/-- Ids are given once, and a registration is past its write exactly when it has written. -/
structure Accounted (portal : RegisterPortal) : Prop where
  nodup : (portal.registrations.map Registration.id).Nodup
  fresh : ∀ registration ∈ portal.registrations, registration.id < portal.nextId
  sent : ∀ id ip gets, portal.Sent id ip gets ↔ portal.Wrote id ip gets

variable {portal next : RegisterPortal} {registration : Registration}

/-- Two registrations in flight with one id are the same. -/
theorem Accounted.eq_of_id (h : Accounted portal) {other : Registration}
    (hmem : registration ∈ portal.registrations) (hother : other ∈ portal.registrations)
    (hid : other.id = registration.id) : other = registration :=
  List.inj_on_of_nodup_map h.nodup hother hmem hid

/-! ## The account of a step -/

theorem mem_registrations_advance (hmem : registration ∈ portal.registrations)
    (stage : RegisterStage) (other : Registration) :
    other ∈ (portal.advance registration stage).registrations ↔
      other = { registration with stage := stage } ∨
        (other ∈ portal.registrations ∧ other.id ≠ registration.id) := by
  constructor
  · intro hother
    obtain ⟨before, hbefore, rfl⟩ := List.mem_map.mp hother
    split
    · exact Or.inl rfl
    · next hne => exact Or.inr ⟨hbefore, hne⟩
  · rintro (rfl | ⟨hother, hne⟩)
    · exact List.mem_map.mpr ⟨registration, hmem, if_pos rfl⟩
    · exact List.mem_map.mpr ⟨other, hother, if_neg hne⟩

theorem map_id_advance (portal : RegisterPortal) (registration : Registration)
    (stage : RegisterStage) :
    (portal.advance registration stage).registrations.map Registration.id =
      portal.registrations.map Registration.id := by
  unfold advance
  rw [List.map_map]
  refine List.map_congr_left fun other _ => ?_
  by_cases hid : other.id = registration.id <;> simp [hid]

/-- A registration that goes on counts as past its write by its new stage. -/
theorem sent_advance_iff (h : Accounted portal) (hmem : registration ∈ portal.registrations)
    (stage : RegisterStage) (hkeeps : registration.stage.sent = true → stage.sent = true)
    (id : Nat) (ip : String) (gets : Nat) :
    (portal.advance registration stage).Sent id ip gets ↔
      portal.Sent id ip gets ∨
        (registration.id = id ∧ registration.ip = ip ∧ registration.gets = gets ∧
          stage.sent = true) := by
  constructor
  · rintro ⟨other, hother | hended, hid, hip, hgets, hsent⟩
    · rcases (mem_registrations_advance hmem stage other).mp hother with rfl | ⟨hold, _⟩
      · exact Or.inr ⟨hid, hip, hgets, hsent⟩
      · exact Or.inl ⟨other, Or.inl hold, hid, hip, hgets, hsent⟩
    · exact Or.inl ⟨other, Or.inr hended, hid, hip, hgets, hsent⟩
  · rintro (⟨other, hother | hended, hid, hip, hgets, hsent⟩ | ⟨hid, hip, hgets, hsent⟩)
    · by_cases hsame : other.id = registration.id
      · have heq := h.eq_of_id hmem hother hsame
        subst heq
        exact ⟨_, Or.inl ((mem_registrations_advance hmem stage _).mpr (Or.inl rfl)), hid, hip,
          hgets, hkeeps hsent⟩
      · exact ⟨other, Or.inl ((mem_registrations_advance hmem stage _).mpr
          (Or.inr ⟨hother, hsame⟩)), hid, hip, hgets, hsent⟩
    · exact ⟨other, Or.inr hended, hid, hip, hgets, hsent⟩
    · exact ⟨_, Or.inl ((mem_registrations_advance hmem stage _).mpr (Or.inl rfl)), hid, hip,
        hgets, hsent⟩

/-- A step of a registration before or after its write. -/
theorem Accounted.advance (h : Accounted portal) (hmem : registration ∈ portal.registrations)
    {stage : RegisterStage} (hstage : stage.sent = registration.stage.sent) :
    Accounted (portal.advance registration stage) := by
  refine ⟨?_, ?_, fun id ip gets => ?_⟩
  · rw [map_id_advance]
    exact h.nodup
  · intro other hother
    rcases (mem_registrations_advance hmem stage other).mp hother with rfl | ⟨hold, _⟩
    · exact h.fresh registration hmem
    · exact h.fresh other hold
  · rw [sent_advance_iff h hmem stage (fun hsent => hstage.trans hsent)]
    refine Iff.trans (or_iff_left_of_imp ?_) (h.sent id ip gets)
    rintro ⟨hid, hip, hgets, hsent⟩
    exact ⟨registration, Or.inl hmem, hid, hip, hgets, hstage ▸ hsent⟩

/-- A registration that is over stays in the account with its stage. -/
theorem started_leave_iff (h : Accounted portal) (hmem : registration ∈ portal.registrations)
    (other : Registration) : (portal.leave registration).Started other ↔ portal.Started other := by
  constructor
  · rintro (hother | hended)
    · exact Or.inl (List.mem_of_mem_filter hother)
    · rcases List.mem_cons.mp hended with rfl | hold
      · exact Or.inl hmem
      · exact Or.inr hold
  · rintro (hother | hended)
    · by_cases hsame : other.id = registration.id
      · rw [h.eq_of_id hmem hother hsame]
        exact Or.inr List.mem_cons_self
      · exact Or.inl (List.mem_filter.mpr ⟨hother, by simpa using hsame⟩)
    · exact Or.inr (List.mem_cons_of_mem _ hended)

theorem Accounted.leave (h : Accounted portal) (hmem : registration ∈ portal.registrations) :
    Accounted (portal.leave registration) where
  nodup := h.nodup.sublist (List.filter_sublist.map _)
  fresh := fun other hother => h.fresh other (List.mem_of_mem_filter hother)
  sent id ip gets := by
    refine Iff.trans ?_ (h.sent id ip gets)
    exact exists_congr fun other => and_congr_left fun _ => started_leave_iff h hmem other

/-- A step that changes no registration and no action. -/
theorem Accounted.of_eq (h : Accounted portal)
    (hregistrations : next.registrations = portal.registrations)
    (hended : next.ended = portal.ended) (hactions : next.actions = portal.actions)
    (hnextId : portal.nextId ≤ next.nextId) : Accounted next where
  nodup := hregistrations ▸ h.nodup
  fresh := fun other hother =>
    Nat.lt_of_lt_of_le (h.fresh other (hregistrations ▸ hother)) hnextId
  sent id ip gets := by
    have haccount := h.sent id ip gets
    simp only [Sent, Started, Wrote] at haccount ⊢
    rw [hregistrations, hended, hactions]
    exact haccount

/-- The registration that has just begun has not written. -/
theorem Accounted.begin (h : Accounted portal) {registration : Registration}
    (hid : registration.id = portal.nextId) (hstage : registration.stage = .lookup)
    (hregistrations : next.registrations = registration :: portal.registrations)
    (hended : next.ended = portal.ended) (hactions : next.actions = portal.actions)
    (hnextId : next.nextId = portal.nextId + 1) : Accounted next := by
  refine ⟨?_, ?_, fun id ip gets => ?_⟩
  · rw [hregistrations, List.map_cons, List.nodup_cons]
    refine ⟨fun hmem => ?_, h.nodup⟩
    obtain ⟨other, hother, hsame⟩ := List.mem_map.mp hmem
    have hlt := h.fresh other hother
    omega
  · rw [hregistrations, hnextId, List.forall_mem_cons]
    refine ⟨by omega, fun other hother => ?_⟩
    have hlt := h.fresh other hother
    omega
  · have haccount := h.sent id ip gets
    simp only [Sent, Started, Wrote] at haccount ⊢
    rw [hactions, ← haccount, hregistrations, hended]
    refine exists_congr fun other => ?_
    constructor
    · rintro ⟨hother | hover, hrest⟩
      · rcases List.mem_cons.mp hother with rfl | hold
        · -- it waits for the lookup
          have hsent := hrest.2.2.2
          rw [hstage] at hsent
          cases hsent
        · exact ⟨Or.inl hold, hrest⟩
      · exact ⟨Or.inr hover, hrest⟩
    · rintro ⟨hother | hover, hrest⟩
      · exact ⟨Or.inl (List.mem_cons_of_mem _ hother), hrest⟩
      · exact ⟨Or.inr hover, hrest⟩

/-! ## The write -/

/-- What `send` adds to the actions. -/
theorem actions_send (portal : RegisterPortal) (registration : Registration)
    (existing : Option KnownEndpoint) :
    ∃ action, action.isWrite = true ∧
      (portal.send registration existing).actions = (registration, action) :: portal.actions := by
  cases existing with
  | none => exact ⟨.create registration.mac, rfl, rfl⟩
  | some endpoint => exact ⟨.update endpoint.id registration.mac, rfl, rfl⟩

/-- A write is entered on both sides of the account. -/
theorem Accounted.send (h : Accounted portal) (hmem : registration ∈ portal.registrations)
    (existing : Option KnownEndpoint) :
    Accounted (portal.send registration existing) := by
  obtain ⟨action, hwrite, hactions⟩ := actions_send portal registration existing
  have hlist : (portal.send registration existing).registrations =
      (portal.advance registration .written).registrations := rfl
  refine ⟨?_, ?_, fun id ip gets => ?_⟩
  · rw [hlist, map_id_advance]
    exact h.nodup
  · intro other hother
    rcases (mem_registrations_advance hmem .written other).mp hother with rfl | ⟨hold, _⟩
    · exact h.fresh registration hmem
    · exact h.fresh other hold
  · have hsent : (portal.send registration existing).Sent id ip gets ↔
        (portal.advance registration .written).Sent id ip gets := Iff.rfl
    have hkeeps : registration.stage.sent = true → RegisterStage.written.sent = true :=
      fun _ => rfl
    rw [hsent, sent_advance_iff h hmem .written hkeeps, h.sent]
    simp only [Wrote, hactions, List.exists_mem_cons_iff]
    constructor
    · rintro (hold | ⟨hid, hip, hgets, _⟩)
      · exact Or.inr hold
      · exact Or.inl ⟨hwrite, hid, hip, hgets⟩
    · rintro (⟨_, hid, hip, hgets⟩ | hold)
      · exact Or.inr ⟨hid, hip, hgets, rfl⟩
      · exact Or.inl hold

section Steps

variable [PyText] [PyIpAddress]

omit [PyIpAddress] in
theorem Accounted.found (h : Accounted portal) (hmem : registration ∈ portal.registrations)
    (hstage : registration.stage = .lookup) (existing : Option KnownEndpoint) :
    Accounted (portal.found registration existing) := by
  unfold RegisterPortal.found
  split
  · exact h.advance hmem (by rw [hstage]; rfl)
  · split
    · exact h.leave hmem
    · exact h.advance hmem (by rw [hstage]; rfl)

theorem Accounted.post (h : Accounted portal) (request : PortalRequest) (body : RegisterBody) :
    Accounted (portal.post request body) := by
  unfold RegisterPortal.post
  dsimp only
  split
  · exact h.of_eq rfl rfl rfl (Nat.le_refl _)
  · exact h.begin rfl rfl rfl rfl rfl rfl

theorem Accounted.lookupSession (h : Accounted portal) (request : PortalRequest) :
    Accounted (portal.lookupSession request) ∧
      (portal.lookupSession request).actions = portal.actions := by
  unfold RegisterPortal.lookupSession
  split
  · exact ⟨h, rfl⟩
  · split
    · exact ⟨h.of_eq rfl rfl rfl (Nat.le_refl _), rfl⟩
    · exact ⟨h.of_eq rfl rfl rfl (Nat.le_succ _), rfl⟩

omit [PyText] [PyIpAddress] in
theorem Accounted.mntAnswered (h : Accounted portal) (call : SessionCall) (mac : Option String) :
    Accounted (portal.mntAnswered call mac) ∧
      (portal.mntAnswered call mac).actions = portal.actions := by
  unfold RegisterPortal.mntAnswered
  cases mac with
  | none => exact ⟨h.of_eq rfl rfl rfl (Nat.le_refl _), rfl⟩
  | some mac => exact ⟨h.of_eq rfl rfl rfl (Nat.le_refl _), rfl⟩

/-- Every registration of the next state goes on from one of this state. -/
def OnlyOlder (portal next : RegisterPortal) : Prop :=
  ∀ other, next.Started other →
    ∃ old, portal.Started old ∧ old.id = other.id ∧ SameBinding old other

omit [PyText] [PyIpAddress] in
theorem OnlyOlder.of_eq (hregistrations : next.registrations = portal.registrations)
    (hended : next.ended = portal.ended) : OnlyOlder portal next := by
  intro other hother
  refine ⟨other, ?_, rfl, rfl, rfl⟩
  unfold Started at hother ⊢
  rwa [hregistrations, hended] at hother

omit [PyText] [PyIpAddress] in
theorem ReadOnce.of_older (honce : ReadOnce portal) (holder : OnlyOlder portal next) :
    ReadOnce next := by
  intro first hfirst second hsecond hsame
  obtain ⟨old, hold, hid, hip, hgets⟩ := holder first hfirst
  obtain ⟨other, hother, hid', hip', hgets'⟩ := holder second hsecond
  have heq := honce old hold other hother
    ⟨hip.trans (hsame.1.trans hip'.symm), hgets.trans (hsame.2.trans hgets'.symm)⟩
  exact hid.symm.trans (heq.trans hid')

omit [PyText] [PyIpAddress] in
/-- A registration that begins without another one of its binding. -/
theorem ReadOnce.begin (honce : ReadOnce portal)
    (hregistrations : next.registrations = registration :: portal.registrations)
    (hended : next.ended = portal.ended)
    (halone : ∀ other, portal.Started other → ¬ SameBinding other registration) :
    ReadOnce next := by
  have hstarted : ∀ other, next.Started other → other = registration ∨ portal.Started other := by
    intro other hother
    unfold Started at hother ⊢
    rw [hregistrations, hended, List.mem_cons] at hother
    exact or_assoc.mp hother
  intro first hfirst second hsecond hsame
  rcases hstarted first hfirst with rfl | hold
  · rcases hstarted second hsecond with rfl | hother
    · rfl
    · exact absurd ⟨hsame.1.symm, hsame.2.symm⟩ (halone second hother)
  · rcases hstarted second hsecond with rfl | hother
    · exact absurd hsame (halone first hold)
    · exact honce first hold second hother hsame

/-- A registration that passes the checks alone is the only one of its binding. -/
theorem ReadOnce.post {request : PortalRequest} {body : RegisterBody} (honce : ReadOnce portal)
    (halone : ReadsAlone portal (.post request body)) :
    ReadOnce (portal.post request body) := by
  unfold RegisterPortal.post
  dsimp only
  split
  · exact honce.of_older (OnlyOlder.of_eq rfl rfl)
  · next ip mac hadmitted => exact honce.begin rfl rfl (halone ip mac hadmitted)

end Steps

/-! ## A binding that is used twice -/

local instance twiceText : PyText := asciiText

/-- Addresses are taken as they are written. -/
@[reducible] def writtenAddresses : PyIpAddress where
  ipAddress text := some text

local instance twiceAddresses : PyIpAddress := writtenAddresses

end RegisterPortal

end Selfregister

end IsePortal
