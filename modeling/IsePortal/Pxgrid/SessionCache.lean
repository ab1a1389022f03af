import IsePortal.Ise.Server
import IsePortal.Library.Dict
import IsePortal.Platform.Text

/-!
# The session cache and its writers

`pxgrid/session_cache.py` keeps one `SessionInfo` for each MAC address; `session_worker.py` has
five functions that write it. Each is given here as a function of the cached entry and of what
arrived. Addresses are in the form `_norm` gives them, since every function normalizes
an address before the cache is touched; payloads are given after the lookup of their
alternative keys and `_parse_vlan`.
-/

namespace IsePortal

open Library

/-- A vlan, dacl or security group. The code only has the text. `session` is the audit session it
was reported for, or that ISE had for the address when MnT was asked; `none` when there
was no such session. -/
structure Reading where
  text : String
  session : Option String
  deriving DecidableEq

namespace Reading

/-- The default of the fields. -/
def unset : Reading := ⟨"", none⟩

/-- Python's `first or second`. -/
def orElse (first second : Reading) : Reading := if first.text = "" then second else first

/-- Empty, or not known to come from another audit session than `audit`. -/
def SafeFor (audit : String) (reading : Reading) : Prop :=
  reading.text = "" ∨ reading.session = none ∨ reading.session = some audit

theorem safeFor_orElse {audit : String} {first second : Reading} :
    (first.orElse second).SafeFor audit ↔
      first.SafeFor audit ∧ (first.text = "" → second.SafeFor audit) := by
  unfold orElse
  split
  · next h => exact ⟨fun hsecond => ⟨.inl h, fun _ => hsecond⟩, fun hboth => hboth.2 h⟩
  · next h => exact ⟨fun hfirst => ⟨hfirst, fun htext => absurd htext h⟩, fun hboth => hboth.1⟩

/-- The text alone. -/
def erase (reading : Reading) : Reading := ⟨reading.text, none⟩

theorem erase_orElse (first second : Reading) :
    (first.orElse second).erase = first.erase.orElse second.erase := by
  unfold orElse
  split
  · next h => rw [if_pos (show first.erase.text = "" from h)]
  · next h => rw [if_neg (show ¬ first.erase.text = "" from h)]

end Reading

structure SessionInfo where
  mac : String
  state : String := ""
  auditSessionId : String := ""
  nasIp : String := ""
  userName : String := ""
  policySetName : String := ""
  authzProfiles : List String := []
  authzRuleName : String := ""
  useCase : String := ""
  nasName : String := ""
  nasDeviceType : String := ""
  framedIp : String := ""
  endpointPolicy : String := ""
  dacl : Reading := .unset
  vlan : Reading := .unset
  ctsSecurityGroup : Reading := .unset
  identityGroup : String := ""
  authMethod : String := ""

/-- A session as pxGrid reports it, in an event or in the answer to `getSessions`. -/
structure SessionPayload where
  mac : String
  state : String := ""
  auditSessionId : String := ""
  nasIp : String := ""
  userName : String := ""
  policySetName : String := ""
  authzProfiles : List String := []
  authzRuleName : String := ""
  useCase : String := ""
  nasName : String := ""
  nasDeviceType : String := ""
  framedIp : String := ""
  endpointPolicy : String := ""
  dacl : String := ""
  vlan : String := ""
  ctsSecurityGroup : String := ""

/-- A value reported with an audit session id was reported for that session. -/
def SessionPayload.reading (payload : SessionPayload) (text : String) : Reading :=
  ⟨text, if payload.auditSessionId = "" then none else some payload.auditSessionId⟩

/-- `_build_session_info` -/
def buildSessionInfo (payload : SessionPayload) : SessionInfo where
  mac := payload.mac
  state := payload.state
  auditSessionId := payload.auditSessionId
  nasIp := payload.nasIp
  userName := payload.userName
  policySetName := payload.policySetName
  authzProfiles := payload.authzProfiles
  authzRuleName := payload.authzRuleName
  useCase := payload.useCase
  nasName := payload.nasName
  nasDeviceType := payload.nasDeviceType
  framedIp := payload.framedIp
  endpointPolicy := payload.endpointPolicy
  dacl := payload.reading payload.dacl
  vlan := payload.reading payload.vlan
  ctsSecurityGroup := payload.reading payload.ctsSecurityGroup

abbrev SessionCache := Dict String SessionInfo

/-- `_norm` -/
def SessionCache.norm [PyText] (mac : String) : String :=
  PyText.strip (String.ofList ((PyText.upper mac).toList.map fun c => if c = '-' then ':' else c))

namespace SessionInfo

/-- `is_new_session`: both have an audit session id, and not the same. -/
def isNewSession (info existing : SessionInfo) : Bool :=
  info.auditSessionId ≠ "" && existing.auditSessionId ≠ "" &&
    info.auditSessionId ≠ existing.auditSessionId

/-- What `_handle_message_body` keeps of the cached entry where the event is silent. -/
def backFill (info existing : SessionInfo) : SessionInfo :=
  { info with
    policySetName := orElse info.policySetName existing.policySetName
    authzRuleName := orElse info.authzRuleName existing.authzRuleName
    endpointPolicy := orElse info.endpointPolicy existing.endpointPolicy
    dacl := if isNewSession info existing then info.dacl else info.dacl.orElse existing.dacl
    vlan := if isNewSession info existing then info.vlan else info.vlan.orElse existing.vlan
    ctsSecurityGroup :=
      if isNewSession info existing then info.ctsSecurityGroup
      else info.ctsSecurityGroup.orElse existing.ctsSecurityGroup
    authMethod := orElse info.authMethod existing.authMethod
    identityGroup := orElse info.identityGroup existing.identityGroup
    authzProfiles :=
      if info.authzProfiles = [] then existing.authzProfiles else info.authzProfiles }

/-- An event after which MnT is asked at once. -/
def wantsEnrichment (info : SessionInfo) : Bool :=
  info.identityGroup = "" || info.endpointPolicy = "" || info.vlan.text = ""

end SessionInfo

/-- `"DISCONN" in state_upper or state_upper in ("STOPPED", "TERMINATED")` -/
def isDisconnect [PyText] (state : String) : Bool :=
  let stateUpper := PyText.upper state
  decide ("DISCONN".toList <:+: stateUpper.toList) || stateUpper = "STOPPED" ||
    stateUpper = "TERMINATED"

/-- The entry `_handle_message_body` stores for an event that is no disconnect. -/
def storedEntry (cache : SessionCache) (payload : SessionPayload) : SessionInfo :=
  let info := buildSessionInfo payload
  match cache.get? info.mac with
  | some existing => info.backFill existing
  | none => info

/-- `_handle_message_body` on one session of the message. -/
def handleSession [PyText] (cache : SessionCache) (payload : SessionPayload) : SessionCache :=
  if payload.mac = "" then cache
  else if isDisconnect payload.state then cache.erase payload.mac
  else cache.set payload.mac (storedEntry cache payload)

/-! ## The answer to `getSessions` -/

/-- `len(mac) == 17 and mac.count(":") == 5` -/
def looksLikeMac (mac : String) : Bool := mac.length = 17 && mac.toList.count ':' = 5

/-- `pg_by_mac` and `mnt_by_mac`: the last session of an address wins. -/
def sessionsByMac {α : Type} (macOf : α → String) (sessions : List α) : Dict String α :=
  sessions.foldl
    (fun byMac session =>
      if looksLikeMac (macOf session) then byMac.set (macOf session) session else byMac)
    Dict.empty

/-- The session of an address is the last one listed with it. -/
theorem get?_sessionsByMac {α : Type} (macOf : α → String) (sessions : List α) (mac : String) :
    (sessionsByMac macOf sessions).get? mac =
      if looksLikeMac mac then sessions.reverse.find? fun session => macOf session = mac
      else none := by
  have hfold : ∀ byMac : Dict String α,
      (sessions.foldl
        (fun byMac session =>
          if looksLikeMac (macOf session) then byMac.set (macOf session) session else byMac)
        byMac).get? mac =
        if looksLikeMac mac then
          (sessions.reverse.find? fun session => macOf session = mac).or (byMac.get? mac)
        else byMac.get? mac := by
    induction sessions with
    | nil => simp
    | cons session rest ih =>
        intro byMac
        rw [List.foldl_cons, ih, List.reverse_cons, List.find?_append, Option.or_assoc]
        by_cases hmac : macOf session = mac
        · subst hmac
          cases looksLikeMac (macOf session) with
          | false => rfl
          | true => simp
        · have hother : mac ≠ macOf session := fun h => hmac h.symm
          have hkept : (if looksLikeMac (macOf session) then byMac.set (macOf session) session
              else byMac).get? mac = byMac.get? mac := by
            split
            · exact Dict.get?_set_ne _ _ hother
            · rfl
          rw [hkept]
          simp [hmac]
  rw [sessionsByMac, hfold Dict.empty, Dict.get?_empty, Option.or_none]

theorem mem_of_get?_sessionsByMac {α : Type} {macOf : α → String} {sessions : List α}
    {mac : String} {session : α}
    (h : (sessionsByMac macOf sessions).get? mac = some session) :
    session ∈ sessions ∧ macOf session = mac ∧ looksLikeMac mac = true := by
  rw [get?_sessionsByMac, Option.ite_none_right_eq_some] at h
  obtain ⟨hvalid, hfound⟩ := h
  have hmac := List.find?_some hfound
  exact ⟨List.mem_reverse.mp (List.mem_of_find?_eq_some hfound), of_decide_eq_true hmac, hvalid⟩

/-- `info_with_mac`: the fields the answer leaves empty are those of the cached entry. -/
def infoWithMac (mac : String) (payload : SessionPayload) (existing : Option SessionInfo) :
    SessionInfo :=
  let info := buildSessionInfo payload
  let old := existing.getD { mac := mac }
  { mac := mac
    state := orElse info.state "STARTED"
    auditSessionId := info.auditSessionId
    nasIp := info.nasIp
    userName := info.userName
    policySetName := orElse info.policySetName old.policySetName
    authzProfiles := if info.authzProfiles = [] then old.authzProfiles else info.authzProfiles
    authzRuleName := orElse info.authzRuleName old.authzRuleName
    nasName := orElse info.nasName old.nasName
    nasDeviceType := orElse info.nasDeviceType old.nasDeviceType
    endpointPolicy := orElse info.endpointPolicy old.endpointPolicy
    dacl := info.dacl.orElse old.dacl
    vlan := info.vlan.orElse old.vlan
    ctsSecurityGroup := info.ctsSecurityGroup.orElse old.ctsSecurityGroup
    authMethod := orElse info.authMethod old.authMethod
    identityGroup := orElse info.identityGroup old.identityGroup }

/-- `new and new != old` -/
def Reading.changes (new old : Reading) : Bool := new.text ≠ "" && new.text ≠ old.text

/-- Whether a cached entry is written again: it lacked policy data or a device type that is
known now, or one of the session's fields has another value. -/
def refreshesEntry (info existing : SessionInfo) : Bool :=
  let newHasData := info.policySetName ≠ "" || info.authzProfiles ≠ []
  let existingLacksData := existing.policySetName = "" && existing.authzProfiles = []
  let nasImproved := info.nasDeviceType ≠ "" && existing.nasDeviceType = ""
  let sessionFieldsChanged := info.vlan.changes existing.vlan || info.dacl.changes existing.dacl ||
    info.ctsSecurityGroup.changes existing.ctsSecurityGroup
  (existingLacksData && newHasData) || nasImproved || sessionFieldsChanged

/-- What is stored for an address of the answer; `none` leaves the cached entry alone. -/
def reconciledEntry (cached : SessionCache) (mac : String) (payload : SessionPayload) :
    Option SessionInfo :=
  match cached.get? mac with
  | none => some (infoWithMac mac payload none)
  | some existing =>
      let info := infoWithMac mac payload (some existing)
      if refreshesEntry info existing then some info else none

/-- The entries whose address is not among those of the answer are evicted. -/
def evictOthers (cache : SessionCache) (macs : List String) : SessionCache :=
  ⟨cache.entries.filter fun entry => entry.1 ∈ macs,
    cache.nodup.sublist (List.filter_sublist.map Prod.fst)⟩

/-- `_reconcile_from_pxgrid` -/
def reconcileFromPxgrid (cache : SessionCache) (sessions : List SessionPayload) : SessionCache :=
  let byMac := sessionsByMac SessionPayload.mac sessions
  byMac.entries.foldl
    (fun entries session =>
      entries.setIfSome session.1 (reconciledEntry cache session.1 session.2))
    (evictOthers cache byMac.keys)

theorem get?_evictOthers (cache : SessionCache) (macs : List String) (mac : String) :
    (evictOthers cache macs).get? mac = if mac ∈ macs then cache.get? mac else none := by
  refine Option.ext fun info => ?_
  rw [Dict.get?_eq_some_iff]
  simp only [evictOthers, List.mem_filter, decide_eq_true_eq]
  split
  · next hmac => rw [Dict.get?_eq_some_iff, and_iff_left hmac]
  · next hmac => exact iff_of_false (fun h => hmac h.2) (fun h => by cases h)

/-- What a reconciliation leaves for an address: it goes over the addresses of the answer once,
and looks at the entries cached when it began. -/
theorem get?_reconcile {α : Type} (cache : SessionCache) (byMac : Dict String α)
    (entry : String → α → Option SessionInfo) (mac : String) :
    (byMac.entries.foldl
        (fun entries session => entries.setIfSome session.1 (entry session.1 session.2))
        (evictOthers cache byMac.keys)).get? mac =
      (byMac.get? mac).bind fun session => (entry mac session).or (cache.get? mac) := by
  rw [Dict.get?_foldl_setIfSome entry byMac.entries _ mac byMac.nodup, get?_evictOthers]
  show ((byMac.get? mac).bind (entry mac)).or _ = _
  cases hsession : byMac.get? mac with
  | none =>
      rw [if_neg (Dict.get?_eq_none_iff.mp hsession)]
      rfl
  | some session =>
      rw [if_pos (Dict.mem_keys_iff.mpr ⟨session, hsession⟩)]
      rfl

/-- A row of the active list of MnT. -/
structure ActiveSession where
  mac : String
  auditSessionId : String := ""
  nasIp : String := ""
  userName : String := ""
  policySetName : String := ""
  authzProfiles : List String := []
  authzRuleName : String := ""
  nasName : String := ""
  nasDeviceType : String := ""

/-- What the active list seeds for an address that is not cached. -/
def seededEntry (cached : SessionCache) (mac : String) (row : ActiveSession) :
    Option SessionInfo :=
  match cached.get? mac with
  | some _ => none
  | none => some
      { mac := mac
        state := "STARTED"
        auditSessionId := row.auditSessionId
        nasIp := row.nasIp
        userName := row.userName
        policySetName := row.policySetName
        authzProfiles := row.authzProfiles
        authzRuleName := row.authzRuleName
        nasName := row.nasName
        nasDeviceType := row.nasDeviceType }

/-- `_reconcile_from_mnt`, which runs where `getSessions` gives nothing. -/
def reconcileFromMnt (cache : SessionCache) (sessions : List ActiveSession) : SessionCache :=
  let byMac := sessionsByMac ActiveSession.mac sessions
  byMac.entries.foldl
    (fun entries session =>
      entries.setIfSome session.1 (seededEntry cache session.1 session.2))
    (evictOthers cache byMac.keys)

/-! ## MnT -/

/-- The fields of `Session/MACAddress`. -/
structure SessionDetail where
  endpointPolicy : String := ""
  dacl : String := ""
  vlan : String := ""
  ctsSecurityGroup : String := ""
  framedIp : String := ""

/-- One record of `AuthStatus/MACAddress`, newest first; `vlan` is taken from its AV pairs. -/
structure AuthStatusElement where
  authMethod : String := ""
  identityGroup : String := ""
  authzProfiles : List String := []
  vlan : String := ""
  endpointPolicy : String := ""
  ctsSecurityGroup : String := ""

/-- The answer to one of the two requests, with the audit session ISE had for the address. -/
structure Answer (α : Type) where
  body : α
  session : Option String

/-- What `fetch_session_by_mac` returns. -/
structure MntData where
  endpointPolicy : String
  dacl : Reading
  vlan : Reading
  ctsSecurityGroup : Reading
  authMethod : String
  identityGroup : String
  authzProfilesMnt : List String
  framedIp : String

/-- The first record with the field. -/
def firstField (field : AuthStatusElement → String) (elements : List AuthStatusElement) : String :=
  ((elements.map field).find? (· ≠ "")).getD ""

/-- `fetch_session_by_mac`; a request that failed has no answer. -/
def fetchSessionByMac (detail : Option (Answer SessionDetail))
    (status : Option (Answer (List AuthStatusElement))) : MntData :=
  let session := (detail.map Answer.body).getD {}
  let fromSession (text : String) : Reading := ⟨text, detail.bind Answer.session⟩
  let elements := (status.map Answer.body).getD []
  let fromStatus (text : String) : Reading := ⟨text, status.bind Answer.session⟩
  { endpointPolicy := orElse session.endpointPolicy (firstField (·.endpointPolicy) elements)
    dacl := fromSession session.dacl
    vlan := (fromStatus (firstField (·.vlan) elements)).orElse (fromSession session.vlan)
    ctsSecurityGroup := (fromSession session.ctsSecurityGroup).orElse
      (fromStatus (firstField (·.ctsSecurityGroup) elements))
    authMethod := firstField (·.authMethod) elements
    identityGroup := firstField (·.identityGroup) elements
    authzProfilesMnt := ((elements.map (·.authzProfiles)).find? (· ≠ [])).getD []
    framedIp := session.framedIp }

namespace MntData

/-- `any(data.values())` -/
def hasData (data : MntData) : Bool :=
  data.endpointPolicy ≠ "" || data.dacl.text ≠ "" || data.vlan.text ≠ "" ||
    data.ctsSecurityGroup.text ≠ "" || data.authMethod ≠ "" || data.identityGroup ≠ "" ||
    data.authzProfilesMnt ≠ [] || data.framedIp ≠ ""

end MntData

namespace SessionInfo

/-- The `updated` of `_enrich_single_from_mnt` and `_enrich_sessions_from_mnt`: the cached vlan
is preferred to that of MnT. `data` has no policy set, rule name, NAS address or user name. -/
def enriched (current : SessionInfo) (data : MntData) : SessionInfo :=
  { current with
    authzProfiles :=
      if current.authzProfiles = [] then data.authzProfilesMnt else current.authzProfiles
    endpointPolicy := orElse data.endpointPolicy current.endpointPolicy
    dacl := data.dacl.orElse current.dacl
    vlan := current.vlan.orElse data.vlan
    ctsSecurityGroup := data.ctsSecurityGroup.orElse current.ctsSecurityGroup
    authMethod := orElse data.authMethod current.authMethod
    identityGroup := orElse data.identityGroup current.identityGroup
    framedIp := orElse current.framedIp data.framedIp }

/-- Whether `_enrich_single_from_mnt` stores its result: the security group is not compared. -/
def enrichmentShows (updated current : SessionInfo) : Bool :=
  updated.identityGroup ≠ current.identityGroup || updated.authMethod ≠ current.authMethod ||
    updated.endpointPolicy ≠ current.endpointPolicy || updated.dacl.text ≠ current.dacl.text ||
    updated.vlan.text ≠ current.vlan.text || updated.authzProfiles ≠ current.authzProfiles

/-- The `updated` of `reconcile_stale_sessions`: here the vlan of MnT is preferred. -/
def restated (existing : SessionInfo) (data : MntData) : SessionInfo :=
  { enriched existing data with vlan := data.vlan.orElse existing.vlan }

/-- The `new_info` of `reconcile_stale_sessions`: it has no audit session id. -/
def fromMnt (mac : String) (data : MntData) : SessionInfo :=
  { mac := mac
    state := "STARTED"
    endpointPolicy := data.endpointPolicy
    dacl := data.dacl
    vlan := data.vlan
    ctsSecurityGroup := data.ctsSecurityGroup
    authMethod := data.authMethod
    identityGroup := data.identityGroup
    authzProfiles := data.authzProfilesMnt
    framedIp := data.framedIp }

end SessionInfo

/-- Who asked MnT. A sweep of `_enrich_sessions_from_mnt` still has some addresses to ask for. -/
inductive MntCaller where
  | single
  | batch (remaining : List String)
  | stale

/-- The entry a caller stores with the data it got; `none` when it stores nothing. -/
def mntEntry (cache : SessionCache) (mac : String) (data : MntData) :
    MntCaller → Option SessionInfo
  | .single =>
      if data.hasData then
        match cache.get? mac with
        | none => none
        | some current =>
            let updated := current.enriched data
            if updated.enrichmentShows current then some updated else none
      else none
  | .batch _ =>
      if data.hasData then (cache.get? mac).map fun current => current.enriched data else none
  | .stale =>
      if data.hasData then
        match cache.get? mac with
        | some existing => some (existing.restated data)
        | none => some (.fromMnt mac data)
      else none

/-! ## The sessions of the readings play no part -/

namespace SessionInfo

/-- The entry as the code has it: the readings are their texts. -/
def erase (info : SessionInfo) : SessionInfo :=
  { info with
    dacl := info.dacl.erase
    vlan := info.vlan.erase
    ctsSecurityGroup := info.ctsSecurityGroup.erase }

theorem erase_backFill (info existing : SessionInfo) :
    (info.backFill existing).erase = info.erase.backFill existing.erase := by
  have hnew : info.erase.isNewSession existing.erase = info.isNewSession existing := rfl
  rw [backFill, backFill, hnew]
  cases info.isNewSession existing with
  | true => rfl
  | false =>
      simp only [erase, Bool.false_eq_true, if_false, Reading.erase_orElse]
      rfl

theorem erase_enriched (current : SessionInfo) (data : MntData) :
    (current.enriched data).erase = current.erase.enriched
      { data with dacl := data.dacl.erase, vlan := data.vlan.erase,
                  ctsSecurityGroup := data.ctsSecurityGroup.erase } := by
  simp only [enriched, erase, Reading.erase_orElse]
  rfl

theorem erase_restated (existing : SessionInfo) (data : MntData) :
    (existing.restated data).erase = existing.erase.restated
      { data with dacl := data.dacl.erase, vlan := data.vlan.erase,
                  ctsSecurityGroup := data.ctsSecurityGroup.erase } := by
  simp only [restated, enriched, erase, Reading.erase_orElse]
  rfl

end SessionInfo

theorem erase_infoWithMac (mac : String) (payload : SessionPayload)
    (existing : Option SessionInfo) :
    (infoWithMac mac payload existing).erase =
      (infoWithMac mac payload (existing.map SessionInfo.erase)).erase := by
  cases existing with
  | none => rfl
  | some existing =>
      simp only [infoWithMac, SessionInfo.erase, Option.map_some, Option.getD_some,
        Reading.erase_orElse]
      rfl

end IsePortal
