import IsePortal.Selfregister.Registration

/-!
# Self-registration as a system

Calls of `GET /selfregister/session` and `POST /selfregister` from any number of clients, with the
table of bindings between them. A session lookup waits for MnT and then binds; a registration reads
its binding, waits for ISE to look the MAC address up, sends its write, sends the CoA and takes the
binding out. A step is what happens between two `await`.
-/

namespace IsePortal

open Library

namespace Selfregister

/-- An answer of `session_by_ip` with a session, and when it came. -/
structure ReturnedSession where
  ip : String
  mac : String
  returnedAt : Time

/-- A `GET /selfregister/session` that waits for MnT. -/
structure SessionCall where
  id : Nat
  ip : String

/-- Where a registration waits. -/
inductive RegisterStage where
  /-- `get_by_mac` -/
  | lookup
  /-- `update_endpoint` or `create_endpoint`, before the write is sent to ISE. -/
  | write (existing : Option KnownEndpoint)
  /-- The write has been sent. -/
  | written
  /-- `coa_reauth`, before the CoA is sent. -/
  | coa
  | coaSent

/-- The write has gone to ISE. -/
def RegisterStage.sent : RegisterStage → Bool
  | .lookup | .write _ => false
  | .written | .coa | .coaSent => true

/-- A registration in flight: the address it came from, the MAC address it read, when it read it and
the settings of that moment. `sessions` are the session answers up to then, and `gets` counts the
session calls from the address up to then, each at its start and at its end. -/
structure Registration where
  id : Nat
  ip : String
  mac : String
  lookedUpAt : Time
  settings : RegisterSettings
  sessions : List ReturnedSession
  gets : Nat
  stage : RegisterStage := .lookup

/-- What goes to ISE or MnT. -/
inductive RegisterAction where
  /-- The update of the endpoint ISE has for the MAC address. -/
  | update (endpointId : EndpointId) (mac : String)
  | create (mac : String)
  | coa (mac : String)
  deriving DecidableEq

def RegisterAction.mac : RegisterAction → String
  | .update _ mac | .create mac | .coa mac => mac

/-- The portal. `returned`, `gets`, `actions` and `ended` only serve the statements: the session
answers, the counts of session calls, what the registrations did, and the registrations that are
over, each in the stage it ended in. -/
structure RegisterPortal where
  settings : RegisterSettings
  now : Time
  bindings : Bindings := Dict.empty
  sessionCalls : List SessionCall := []
  registrations : List Registration := []
  nextId : Nat := 0
  returned : List ReturnedSession := []
  gets : String → Nat := fun _ => 0
  actions : List (Registration × RegisterAction) := []
  ended : List Registration := []

/-- The steps. -/
inductive RegisterStep where
  | tick (now : Time)
  | settings (settings : RegisterSettings)
  /-- `GET /selfregister/session` -/
  | session (request : PortalRequest)
  /-- MnT's answer: the MAC address of the session, `none` without one or where the call raises. -/
  | mntAnswered (callId : Nat) (mac : Option String)
  /-- `POST /selfregister` -/
  | post (request : PortalRequest) (body : RegisterBody)
  /-- The endpoint ISE has for the MAC address, `none` without one or where the lookup raises. -/
  | found (registrationId : Nat) (existing : Option KnownEndpoint)
  /-- The write goes to ISE. -/
  | send (registrationId : Nat)
  /-- ISE has taken it. -/
  | taken (registrationId : Nat)
  /-- The CoA goes to MnT. -/
  | sendCoa (registrationId : Nat)
  /-- MnT has answered, or the call has raised: the binding is used up. -/
  | finish (registrationId : Nat)
  /-- The registration raises or is cancelled, wherever it waits. -/
  | abort (registrationId : Nat)

namespace RegisterPortal

variable (portal : RegisterPortal)

/-- The registration with this id. -/
def registration? (registrationId : Nat) : Option Registration :=
  portal.registrations.find? (·.id = registrationId)

/-- A registration goes on to a stage. -/
def advance (registration : Registration) (stage : RegisterStage) : RegisterPortal :=
  { portal with
    registrations := portal.registrations.map fun other =>
      if other.id = registration.id then { registration with stage := stage } else other }

/-- A registration is over. -/
def leave (registration : Registration) : RegisterPortal :=
  { portal with
    registrations := portal.registrations.filter (·.id ≠ registration.id)
    ended := registration :: portal.ended }

/-- Something goes to ISE or MnT. -/
def perform (registration : Registration) (action : RegisterAction) : RegisterPortal :=
  { portal with actions := (registration, action) :: portal.actions }

/-- One more session call from the address has started or ended. -/
def countGet (ip : String) : RegisterPortal :=
  { portal with
    gets := fun other => if other = ip then portal.gets other + 1 else portal.gets other }

variable [PyText] [PyIpAddress]

/-- `lookup_session` up to its first `await`. -/
def lookupSession (request : PortalRequest) : RegisterPortal :=
  match validClientIp portal.settings request with
  | none => portal
  | some ip =>
      if !portal.settings.enabled then portal.countGet ip
      else
        { portal.countGet ip with
          sessionCalls := { id := portal.nextId, ip := ip } :: portal.sessionCalls
          nextId := portal.nextId + 1 }

omit [PyText] [PyIpAddress] in
/-- `lookup_session` after MnT's answer. -/
def mntAnswered (call : SessionCall) (mac : Option String) : RegisterPortal :=
  let rest := { portal.countGet call.ip with
    sessionCalls := portal.sessionCalls.filter (·.id ≠ call.id) }
  match mac with
  | none => rest
  | some mac =>
      { rest with
        bindings := bind portal.now portal.bindings call.ip (normalizeMac mac)
        returned :=
          { ip := call.ip, mac := mac, returnedAt := portal.now } :: portal.returned }

/-- `selfregister` up to its first `await`. -/
def post (request : PortalRequest) (body : RegisterBody) : RegisterPortal :=
  let checked := admission portal.settings portal.now portal.bindings request body
  let rest := { portal with bindings := checked.2 }
  match checked.1 with
  | .error _ => rest
  | .ok (ip, mac) =>
      { rest with
        registrations :=
          { id := portal.nextId, ip := ip, mac := mac, lookedUpAt := portal.now
            settings := portal.settings, sessions := portal.returned
            gets := portal.gets ip } :: portal.registrations
        nextId := portal.nextId + 1 }

omit [PyIpAddress] in
/-- `selfregister` once the lookup is done: an endpoint of another group is refused. -/
def found (registration : Registration) (existing : Option KnownEndpoint) : RegisterPortal :=
  match existing with
  | none => portal.advance registration (.write none)
  | some endpoint =>
      if RefusesExisting registration.settings endpoint then portal.leave registration
      else portal.advance registration (.write (some endpoint))

omit [PyText] [PyIpAddress] in
/-- The write of a registration. -/
def send (registration : Registration) (existing : Option KnownEndpoint) : RegisterPortal :=
  let action :=
    match existing with
    | none => RegisterAction.create registration.mac
    | some endpoint => .update endpoint.id registration.mac
  (portal.perform registration action).advance registration .written

omit [PyText] [PyIpAddress] in
/-- The end of a registration: its binding is taken out. -/
def finish (registration : Registration) : RegisterPortal :=
  { portal.leave registration with bindings := unbind portal.bindings registration.ip }

/-- One step; `none` is a step that is not possible. -/
def step (label : RegisterStep) : Option RegisterPortal :=
  match label with
  | .tick now => some { portal with now := now }
  | .settings settings => some { portal with settings := settings }
  | .session request => some (portal.lookupSession request)
  | .mntAnswered callId mac =>
      (portal.sessionCalls.find? (·.id = callId)).map fun call => portal.mntAnswered call mac
  | .post request body => some (portal.post request body)
  | .found registrationId existing =>
      (portal.registration? registrationId).bind fun registration =>
        match registration.stage with
        | .lookup => some (portal.found registration existing)
        | _ => none
  | .send registrationId =>
      (portal.registration? registrationId).bind fun registration =>
        match registration.stage with
        | .write existing => some (portal.send registration existing)
        | _ => none
  | .taken registrationId =>
      (portal.registration? registrationId).bind fun registration =>
        match registration.stage with
        | .written => some (portal.advance registration .coa)
        | _ => none
  | .sendCoa registrationId =>
      (portal.registration? registrationId).bind fun registration =>
        match registration.stage with
        | .coa =>
            some ((portal.perform registration (.coa registration.mac)).advance registration
              .coaSent)
        | _ => none
  | .finish registrationId =>
      (portal.registration? registrationId).bind fun registration =>
        match registration.stage with
        -- a CoA that cannot be sent raises, and is only logged
        | .coa | .coaSent => some (portal.finish registration)
        | _ => none
  | .abort registrationId => (portal.registration? registrationId).map portal.leave

/-! ## What a step does -/

omit [PyText] [PyIpAddress] in
theorem mem_of_registration? {registrationId : Nat} {registration : Registration}
    (h : portal.registration? registrationId = some registration) :
    registration ∈ portal.registrations := List.mem_of_find?_eq_some h

/-- Every step with what it leads to: a step of a registration works on the one with its id, at the
stage where it waits for that step. -/
inductive Moves : RegisterStep → RegisterPortal → Prop where
  | tick (now : Time) : Moves (.tick now) { portal with now := now }
  | settings (settings : RegisterSettings) :
      Moves (.settings settings) { portal with settings := settings }
  | session (request : PortalRequest) : Moves (.session request) (portal.lookupSession request)
  | mntAnswered (callId : Nat) (mac : Option String) (call : SessionCall) :
      Moves (.mntAnswered callId mac) (portal.mntAnswered call mac)
  | post (request : PortalRequest) (body : RegisterBody) :
      Moves (.post request body) (portal.post request body)
  | found {id : Nat} {registration : Registration} (existing : Option KnownEndpoint) :
      portal.registration? id = some registration → registration.stage = .lookup →
        Moves (.found id existing) (portal.found registration existing)
  | send {id : Nat} {registration : Registration} {existing : Option KnownEndpoint} :
      portal.registration? id = some registration → registration.stage = .write existing →
        Moves (.send id) (portal.send registration existing)
  | taken {id : Nat} {registration : Registration} :
      portal.registration? id = some registration → registration.stage = .written →
        Moves (.taken id) (portal.advance registration .coa)
  | sendCoa {id : Nat} {registration : Registration} :
      portal.registration? id = some registration → registration.stage = .coa →
        Moves (.sendCoa id)
          ((portal.perform registration (.coa registration.mac)).advance registration .coaSent)
  | finish {id : Nat} {registration : Registration} :
      portal.registration? id = some registration →
        Moves (.finish id) (portal.finish registration)
  | abort {id : Nat} {registration : Registration} :
      portal.registration? id = some registration →
        Moves (.abort id) (portal.leave registration)

theorem step_moves {next : RegisterPortal} {label : RegisterStep}
    (hstep : portal.step label = some next) : portal.Moves label next := by
  cases label with
  | tick now =>
      cases hstep
      exact .tick now
  | settings settings =>
      cases hstep
      exact .settings settings
  | session request =>
      cases hstep
      exact .session request
  | mntAnswered callId mac =>
      obtain ⟨call, -, rfl⟩ := Option.map_eq_some_iff.mp hstep
      exact .mntAnswered callId mac call
  | post request body =>
      cases hstep
      exact .post request body
  | found id existing =>
      obtain ⟨registration, hfound, hgo⟩ := Option.bind_eq_some_iff.mp hstep
      split at hgo
      · next hstage =>
          cases hgo
          exact .found existing hfound hstage
      · cases hgo
  | send id =>
      obtain ⟨registration, hfound, hgo⟩ := Option.bind_eq_some_iff.mp hstep
      split at hgo
      · next existing hstage =>
          cases hgo
          exact .send hfound hstage
      · cases hgo
  | taken id =>
      obtain ⟨registration, hfound, hgo⟩ := Option.bind_eq_some_iff.mp hstep
      split at hgo
      · next hstage =>
          cases hgo
          exact .taken hfound hstage
      · cases hgo
  | sendCoa id =>
      obtain ⟨registration, hfound, hgo⟩ := Option.bind_eq_some_iff.mp hstep
      split at hgo
      · next hstage =>
          cases hgo
          exact .sendCoa hfound hstage
      · cases hgo
  | finish id =>
      obtain ⟨registration, hfound, hgo⟩ := Option.bind_eq_some_iff.mp hstep
      split at hgo
      · cases hgo
        exact .finish hfound
      · cases hgo
        exact .finish hfound
      · cases hgo
  | abort id =>
      obtain ⟨registration, hfound, rfl⟩ := Option.map_eq_some_iff.mp hstep
      exact .abort hfound

end RegisterPortal

end Selfregister

end IsePortal
