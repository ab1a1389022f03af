import IsePortal.Api.EndpointRoutes
import IsePortal.Selfregister.Bindings
import IsePortal.Selfregister.ClientIp

/-!
# A self-registration

The parts of `POST /api/selfregister` between two `await` (`api/selfregister.py`): the checks up to
the lookup in ISE, the attributes of the guest, and the choice between an update of the endpoint
that was found and a new one.
-/

namespace IsePortal

open Library

namespace Selfregister

/-- The settings self-registration reads. -/
structure RegisterSettings where
  enabled : Bool := false
  trustedProxyIps : List String := ["127.0.0.1", "::1"]
  groupId : String := ""
  authzVlan : String := ""
  authzAcl : String := ""
  ipskEnabled : Bool := false
  expiryEnabled : Bool := false
  expiryMode : String := "period"
  expiryDays : Int := 30
  expiryDate : String := ""
  expiryTime : String := "23:59"

/-- `SelfRegisterRequest` -/
structure RegisterBody where
  mac : Option String := none
  registrantName : String
  agreed : Bool
  pskKey : Option String := none

/-- `str(ipaddress.ip_address(text))`; `none` where it raises `ValueError`. -/
class PyIpAddress where
  ipAddress : String → Option String

/-- What is read of the endpoint ISE has for a MAC address. -/
structure KnownEndpoint where
  id : EndpointId
  groupId : String := ""

section Checks

variable [PyText] [PyIpAddress]

/-- `_valid_ip` of the address of a request. -/
def validClientIp (s : RegisterSettings) (request : PortalRequest) : Option String :=
  PyIpAddress.ipAddress (PyText.strip (clientIp s.trustedProxyIps request))

/-- The request up to its first `await`: the address of the client and the MAC address bound to it,
or the refusal. -/
def admission (s : RegisterSettings) (now : Time) (bindings : Bindings) (request : PortalRequest)
    (body : RegisterBody) : Except HttpError (String × String) × Bindings :=
  if !s.enabled then (.error { statusCode := 503, detail := "Selvregistrering er deaktiveret" },
    bindings)
  else if !body.agreed then
    (.error { statusCode := 400, detail := "Vilkårene skal accepteres" }, bindings)
  else
    let ip := (validClientIp s request).getD ""
    let found := lookup now bindings ip
    match found.1 with
    -- `bind` stores no empty address, so `not mac` is this case
    | none =>
        (.error
          { statusCode := 409
            detail := "Din enhed er ikke bekræftet på netværket. Genindlæs siden og prøv igen." },
          found.2)
    | some mac =>
        let claimed := body.mac.getD ""
        if claimed ≠ "" ∧ normalizeMac (PyText.strip claimed) ≠ mac then
          (.error
            { statusCode := 403
              detail := "MAC-adressen matcher ikke din enhed. Genindlæs siden og prøv igen." },
            found.2)
        else if !macReMatches mac then
          (.error { statusCode := 502, detail := "Uventet MAC-format fra ISE" }, found.2)
        else (.ok (ip, mac), found.2)

end Checks

section Attributes

variable [PyText]

/-- The text of `GuestExperyDate`. `dayAfter` is today's date moved by so many days, in the form
`%Y-%m-%d`, and `none` where `timedelta` or the sum overflows. -/
def expiryText (s : RegisterSettings) (dayAfter : Int → Option String) : Option String :=
  let expTime := orElse s.expiryTime "23:59"
  let expDate :=
    if s.expiryMode = "date" ∧ s.expiryDate ≠ "" then some s.expiryDate
    else dayAfter (if s.expiryDays = 0 then 30 else s.expiryDays)
  expDate.map fun date => date ++ ":" ++ expTime

/-- The attributes of the guest; `none` where the date overflows. -/
def registrationAttrs (s : RegisterSettings) (dayAfter : Int → Option String)
    (body : RegisterBody) : Option CustomAttrs :=
  let pskKey := PyText.strip (body.pskKey.getD "")
  let ca : CustomAttrs :=
    { registretBy := PyText.strip body.registrantName
      guestRegistration := "true"
      hypervisionActive := some "Aktiv"
      authzVlan := s.authzVlan
      authzACL := s.authzAcl }
  let ca :=
    if pskKey ≠ "" ∧ s.ipskEnabled then { ca with pskMode := some "true", pskKey := some pskKey }
    else ca
  if s.expiryEnabled then
    (expiryText s dayAfter).map fun text =>
      { ca with guestExperyDate := some text, guestAccessExpire := some "false" }
  else some ca

/-- `guest_group` -/
def guestGroup (s : RegisterSettings) : String := PyText.strip s.groupId

/-- The endpoint that was found is refused: a guest group is configured and it is in another. -/
def RefusesExisting (s : RegisterSettings) (existing : KnownEndpoint) : Prop :=
  guestGroup s ≠ "" ∧ PyText.strip existing.groupId ≠ guestGroup s

instance (s : RegisterSettings) (existing : KnownEndpoint) :
    Decidable (RefusesExisting s existing) :=
  inferInstanceAs (Decidable (_ ∧ _))

/-- The update of an endpoint that was found. -/
def registrationUpdate (s : RegisterSettings) (ca : CustomAttrs) (body : RegisterBody) :
    EndpointUpdate where
  description := some ("Selvregistreret af " ++ PyText.strip body.registrantName)
  groupId := if s.groupId = "" then none else some s.groupId
  customAttributes := some ca

/-- The request for a new endpoint. -/
def registrationCreate (s : RegisterSettings) (ca : CustomAttrs) (body : RegisterBody)
    (mac : String) : CreateEndpointRequest where
  mac := mac
  groupId := s.groupId
  description := "Selvregistreret af " ++ PyText.strip body.registrantName
  customAttributes := some ca

end Attributes

/-! ## The checks -/

section Admitted

variable [PyText] [PyIpAddress] {s : RegisterSettings} {now : Time} {bindings : Bindings}
  {request : PortalRequest} {body body' : RegisterBody} {ip mac : String}

/-- Who passes the checks has a live binding for the address the request comes from. -/
theorem admission_eq_ok (h : (admission s now bindings request body).1 = .ok (ip, mac)) :
    (validClientIp s request).getD "" = ip ∧ (lookup now bindings ip).1 = some mac := by
  unfold admission at h
  split at h
  · cases h
  · split at h
    · cases h
    · dsimp only at h
      split at h
      · cases h
      · next found hfound =>
          split at h
          · cases h
          · split at h
            · cases h
            · cases h
              exact ⟨rfl, hfound⟩

/-- The checks only take expired bindings out. -/
theorem get?_admission_eq_some {other : String} {entry : String × Time}
    (h : (admission s now bindings request body).2.get? other = some entry) :
    bindings.get? other = some entry := by
  unfold admission at h
  split at h
  · exact h
  · split at h
    · exact h
    · dsimp only at h
      split at h
      · exact get?_lookup_eq_some h
      · split at h
        · exact get?_lookup_eq_some h
        · split at h
          · exact get?_lookup_eq_some h
          · exact get?_lookup_eq_some h

end Admitted

end Selfregister

end IsePortal
