import IsePortal.Selfregister.Registration

/-!
# Registrations and the endpoints ISE already has

A registration updates the endpoint `get_by_mac` finds, after a check against the configured guest
group that is left out where none is configured, and creates a new one where the lookup finds
nothing or raises. `selfregister_guests_only_iff` says when it touches guests only.
-/

namespace IsePortal

open Library

namespace Selfregister

/-- What matters of an endpoint ISE has. -/
structure IseDevice where
  mac : String
  groupId : String := ""

/-- The endpoints of ISE. -/
abbrev Population := Dict EndpointId IseDevice

/-- `get_by_mac`, where it answers. -/
def byMac (population : Population) (mac : String) : Option KnownEndpoint :=
  (population.entries.find? (·.2.mac = mac)).map fun entry =>
    { id := entry.1, groupId := entry.2.groupId }

/-- What a registration does to ISE. -/
inductive RegisterEffect where
  | nothing
  | updated (endpointId : EndpointId)
  | created
  deriving DecidableEq

/-- What a registration depends on beside the settings of the portal: how many days from today a
date is, the PSK settings, the registration date of a write, the snapshot `update_endpoint` takes,
whether `get_by_mac` raises and whether ISE takes the write. -/
structure RegisterWorld where
  dayAfter : Int → Option String
  psk : PskSettings
  stamp : String
  before : Option EndpointDetail := none
  lookupRaises : Bool
  iseTakes : Bool

section Effects

variable [PyText]

/-- The rest of `POST /selfregister` for a MAC address that has passed the checks. A refusal of the
attributes is an exception before the write. -/
def register (s : RegisterSettings) (world : RegisterWorld) (population : Population)
    (mac : String) (body : RegisterBody) : RegisterEffect :=
  match registrationAttrs s world.dayAfter body with
  | none => .nothing
  | some ca =>
      match if world.lookupRaises then none else byMac population mac with
      | some existing =>
          if RefusesExisting s existing then .nothing
          else
            match updateAttrs world.psk (registrationUpdate s ca body).customAttributes none
                world.before world.stamp with
            | .error _ => .nothing
            | .ok _ => if world.iseTakes then .updated existing.id else .nothing
      | none =>
          match createAttrs world.psk (registrationCreate s ca body mac).customAttributes none
              world.stamp with
          | .error _ => .nothing
          | .ok _ => if world.iseTakes then .created else .nothing

/-- The endpoint is in the configured guest group. -/
def InGuestGroup (s : RegisterSettings) (device : IseDevice) : Prop :=
  guestGroup s ≠ "" ∧ PyText.strip device.groupId = guestGroup s

/-- Only an endpoint of the guest group is updated, and only a MAC address ISE does not know gets a
new endpoint. -/
def GuestsOnly (s : RegisterSettings) (population : Population) (mac : String) :
    RegisterEffect → Prop
  | .nothing => True
  | .updated endpointId =>
      ∀ device, population.get? endpointId = some device → InGuestGroup s device
  | .created => byMac population mac = none

/-- The condition: where the attributes are accepted and ISE takes the write, a lookup that raises
is for an unknown MAC address, and one that finds an endpoint meets a configured guest group. -/
def LookupTells (s : RegisterSettings) (world : RegisterWorld) (population : Population)
    (mac : String) (body : RegisterBody) : Prop :=
  world.iseTakes = true → ∀ ca, registrationAttrs s world.dayAfter body = some ca →
    if world.lookupRaises then
      (∃ sent, createAttrs world.psk (some ca) none world.stamp = .ok sent) →
        byMac population mac = none
    else
      (∃ sent, updateAttrs world.psk (some ca) none world.before world.stamp = .ok sent) →
        (byMac population mac).isSome → guestGroup s ≠ ""

omit [PyText] in
/-- What the lookup finds is in ISE. -/
theorem get?_of_byMac {population : Population} {mac : String} {existing : KnownEndpoint}
    (h : byMac population mac = some existing) :
    ∃ device, population.get? existing.id = some device ∧ device.groupId = existing.groupId := by
  obtain ⟨entry, hfound, rfl⟩ := Option.map_eq_some_iff.mp h
  exact ⟨entry.2, Dict.get?_eq_some_iff.mpr (List.mem_of_find?_eq_some hfound), rfl⟩

/-- An endpoint that is updated passed the check, so a configured group is its own. -/
theorem guestsOnly_updated_iff {s : RegisterSettings} {population : Population} {mac : String}
    {existing : KnownEndpoint} (hfound : byMac population mac = some existing)
    (hpassed : ¬ RefusesExisting s existing) :
    GuestsOnly s population mac (.updated existing.id) ↔ guestGroup s ≠ "" := by
  obtain ⟨device, hdevice, hgroup⟩ := get?_of_byMac hfound
  constructor
  · intro honly
    exact (honly device hdevice).1
  · intro hconfigured other hother
    cases hdevice.symm.trans hother
    refine ⟨hconfigured, ?_⟩
    rw [hgroup]
    by_contra hne
    exact hpassed ⟨hconfigured, hne⟩

/-- For all settings, endpoints of ISE and outcomes of the lookup and the write: a registration
touches guests only exactly under the condition. -/
theorem selfregister_guests_only_iff (s : RegisterSettings) (world : RegisterWorld)
    (population : Population) (mac : String) (body : RegisterBody) :
    GuestsOnly s population mac (register s world population mac body) ↔
      LookupTells s world population mac body := by
  unfold register LookupTells
  cases hattrs : registrationAttrs s world.dayAfter body with
  | none => simp [GuestsOnly]
  | some ca =>
      cases hraises : world.lookupRaises with
      | true =>
          -- every exception counts as an unknown MAC address
          simp only [↓reduceIte, registrationCreate]
          cases hcreate : createAttrs world.psk (some ca) none world.stamp with
          | error text => simp [GuestsOnly, hcreate]
          | ok sent =>
              cases htakes : world.iseTakes with
              | false => simp [GuestsOnly]
              | true => simp [GuestsOnly, hcreate]
      | false =>
          simp only [Bool.false_eq_true, ↓reduceIte]
          cases hfound : byMac population mac with
          | none =>
              -- the lookup tells the truth
              have heffect : GuestsOnly s population mac .created := hfound
              simp only [registrationCreate]
              split
              · simp [GuestsOnly]
              · split
                · simp [heffect]
                · simp [GuestsOnly]
          | some existing =>
              simp only [registrationUpdate]
              by_cases hrefused : RefusesExisting s existing
              · simp [hrefused, GuestsOnly, hrefused.1]
              · rw [if_neg hrefused]
                cases hupdate : updateAttrs world.psk (some ca) none world.before world.stamp with
                | error text => simp [GuestsOnly, hupdate]
                | ok sent =>
                    cases htakes : world.iseTakes with
                    | false => simp [GuestsOnly]
                    | true =>
                        simp only [↓reduceIte]
                        rw [guestsOnly_updated_iff hfound hrefused]
                        simp [hupdate]

end Effects

/-! ## A company device -/

local instance companyText : PyText := asciiText

/-- ISE knows one device, which is in no guest group. -/
def companyDevices : Population where
  entries := [("corp-1", { mac := "AA:BB:CC:DD:EE:01", groupId := "corporate" })]
  nodup := by decide

/-- A world in which ISE takes every write. -/
def takingWorld (lookupRaises : Bool) : RegisterWorld where
  dayAfter _ := none
  psk := { policy := { minLength := 0, requireUppercase := false, requireNumbers := false,
                       requireSpecial := false } }
  stamp := "2026-01-01T00:00:00Z"
  lookupRaises := lookupRaises
  iseTakes := true

/-- With the default group setting the device is updated. With a guest group configured it gets a
second endpoint where the lookup raises. -/
theorem company_device_is_touched :
    (register { enabled := true } (takingWorld false) companyDevices "AA:BB:CC:DD:EE:01"
        { registrantName := "Mallory", agreed := true } = .updated "corp-1" ∧
      ¬ GuestsOnly { enabled := true } companyDevices "AA:BB:CC:DD:EE:01" (.updated "corp-1")) ∧
      register { enabled := true, groupId := "guests" } (takingWorld true) companyDevices
        "AA:BB:CC:DD:EE:01" { registrantName := "Mallory", agreed := true } = .created ∧
      ¬ GuestsOnly { enabled := true, groupId := "guests" } companyDevices "AA:BB:CC:DD:EE:01"
        .created := by
  refine ⟨⟨by decide, fun honly => ?_⟩, by decide, fun hunknown => ?_⟩
  · exact (honly { mac := "AA:BB:CC:DD:EE:01", groupId := "corporate" } rfl).1 (by decide)
  · have hknown : (byMac companyDevices "AA:BB:CC:DD:EE:01").isSome = true := by decide
    rw [show byMac companyDevices "AA:BB:CC:DD:EE:01" = none from hunknown] at hknown
    cases hknown

end Selfregister

end IsePortal
