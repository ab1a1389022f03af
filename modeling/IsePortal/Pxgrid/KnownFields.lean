import IsePortal.Pxgrid.SessionIsolation

/-!
# What is known of a session

Events, the answers to `getSessions` and those of MnT each know some fields of a session. Every
writer of the cache lists by hand the fields it takes over from the cached entry where its source
is silent, and the lists differ: an event forgets six fields, the answer to `getSessions` four.
`known_fields_kept_iff` says exactly which steps of a run within one audit session lose a field.
-/

namespace IsePortal

open Library

/-- The fields of an entry that describe its session. -/
inductive InfoField where
  | userName
  | nasIp
  | nasName
  | nasDeviceType
  | useCase
  | framedIp
  | policySetName
  | authzRuleName
  | authzProfiles
  | endpointPolicy
  | vlan
  | dacl
  | ctsSecurityGroup
  | identityGroup
  | authMethod
  deriving DecidableEq

namespace SessionInfo

/-- The field is not empty. -/
def knows (info : SessionInfo) : InfoField → Bool
  | .userName => info.userName ≠ ""
  | .nasIp => info.nasIp ≠ ""
  | .nasName => info.nasName ≠ ""
  | .nasDeviceType => info.nasDeviceType ≠ ""
  | .useCase => info.useCase ≠ ""
  | .framedIp => info.framedIp ≠ ""
  | .policySetName => info.policySetName ≠ ""
  | .authzRuleName => info.authzRuleName ≠ ""
  | .authzProfiles => info.authzProfiles ≠ []
  | .endpointPolicy => info.endpointPolicy ≠ ""
  | .vlan => info.vlan.text ≠ ""
  | .dacl => info.dacl.text ≠ ""
  | .ctsSecurityGroup => info.ctsSecurityGroup.text ≠ ""
  | .identityGroup => info.identityGroup ≠ ""
  | .authMethod => info.authMethod ≠ ""

/-- Everything the old entry knows, the new one knows too. -/
def Keeps (old new : SessionInfo) : Prop := ∀ field, old.knows field = true → new.knows field = true

end SessionInfo

/-- The event belongs to the audit session, as far as it is about the address. -/
def CarriesSession (mac audit : String) : SessionWorkerEvent → Prop
  | .message payload => payload.mac = mac → payload.auditSessionId = audit
  | .getSessions sessions =>
      ∀ payload ∈ sessions, payload.mac = mac → payload.auditSessionId = audit
  | .activeList rows => ∀ row ∈ rows, row.mac = mac → row.auditSessionId = audit
  | _ => True

/-- The event has what `_handle_message_body` does not take over. -/
def RepeatsUnmerged (payload : SessionPayload) (existing : SessionInfo) : Prop :=
  (existing.userName ≠ "" → payload.userName ≠ "") ∧
    (existing.nasIp ≠ "" → payload.nasIp ≠ "") ∧
    (existing.nasName ≠ "" → payload.nasName ≠ "") ∧
    (existing.nasDeviceType ≠ "" → payload.nasDeviceType ≠ "") ∧
    (existing.useCase ≠ "" → payload.useCase ≠ "") ∧
    (existing.framedIp ≠ "" → payload.framedIp ≠ "")

/-- The answer has what `_reconcile_from_pxgrid` does not take over, and there is none of the two
fields it does not even read. -/
def RepeatsUnreconciled (payload : SessionPayload) (existing : SessionInfo) : Prop :=
  (existing.userName ≠ "" → payload.userName ≠ "") ∧
    (existing.nasIp ≠ "" → payload.nasIp ≠ "") ∧ existing.useCase = "" ∧ existing.framedIp = ""

/-- The step loses no field of the entry cached for the address. -/
def LosesNothing [PyText] (mac : String) (worker : SessionWorker) : SessionWorkerEvent → Prop
  | .message payload =>
      payload.mac = mac → mac ≠ "" → isDisconnect payload.state = false →
        ∀ existing, worker.cache.get? mac = some existing → RepeatsUnmerged payload existing
  | .getSessions sessions =>
      ∀ payload existing, (sessionsByMac SessionPayload.mac sessions).get? mac = some payload →
        worker.cache.get? mac = some existing →
        refreshesEntry (infoWithMac mac payload (some existing)) existing = true →
          RepeatsUnreconciled payload existing
  | _ => True

/-! ## One entry -/

section Entries

variable {mac audit : String} {payload : SessionPayload} {existing current : SessionInfo}

theorem orElse_ne_empty {first second : String} (h : second ≠ "") : orElse first second ≠ "" := by
  unfold orElse
  split
  · exact h
  · assumption

theorem Reading.orElse_ne_empty {first second : Reading} (h : second.text ≠ "") :
    (first.orElse second).text ≠ "" := by
  unfold Reading.orElse
  split
  · exact h
  · assumption

theorem orElse_ne_empty_left {first second : String} (h : first ≠ "") :
    orElse first second ≠ "" := by
  unfold orElse
  rw [if_neg h]
  exact h

theorem Reading.orElse_ne_empty_left {first second : Reading} (h : first.text ≠ "") :
    (first.orElse second).text ≠ "" := by
  unfold Reading.orElse
  rw [if_neg h]
  exact h

/-- An event of the same session loses exactly what it does not repeat of the unmerged fields. -/
theorem keeps_backFill_iff (hsame : (buildSessionInfo payload).isNewSession existing = false) :
    existing.Keeps ((buildSessionInfo payload).backFill existing) ↔
      RepeatsUnmerged payload existing := by
  constructor
  · intro hkeeps
    exact ⟨fun h => of_decide_eq_true (hkeeps .userName (decide_eq_true h)),
      fun h => of_decide_eq_true (hkeeps .nasIp (decide_eq_true h)),
      fun h => of_decide_eq_true (hkeeps .nasName (decide_eq_true h)),
      fun h => of_decide_eq_true (hkeeps .nasDeviceType (decide_eq_true h)),
      fun h => of_decide_eq_true (hkeeps .useCase (decide_eq_true h)),
      fun h => of_decide_eq_true (hkeeps .framedIp (decide_eq_true h))⟩
  · rintro ⟨huser, hip, hname, htype, huse, hframed⟩ field hknown
    simp only [SessionInfo.backFill, hsame, Bool.false_eq_true, if_false]
    cases field <;> simp only [SessionInfo.knows, decide_eq_true_eq] at hknown ⊢
    case userName => exact huser hknown
    case nasIp => exact hip hknown
    case nasName => exact hname hknown
    case nasDeviceType => exact htype hknown
    case useCase => exact huse hknown
    case framedIp => exact hframed hknown
    case authzProfiles =>
      split
      · exact hknown
      · assumption
    case vlan | dacl | ctsSecurityGroup => exact Reading.orElse_ne_empty hknown
    all_goals exact orElse_ne_empty hknown

/-- A refreshed entry loses exactly what the answer does not repeat, the use case and the address of
the client in any case. -/
theorem keeps_infoWithMac_iff :
    existing.Keeps (infoWithMac mac payload (some existing)) ↔
      RepeatsUnreconciled payload existing := by
  constructor
  · intro hkeeps
    refine ⟨fun h => of_decide_eq_true (hkeeps .userName (decide_eq_true h)),
      fun h => of_decide_eq_true (hkeeps .nasIp (decide_eq_true h)), ?_, ?_⟩
    -- the answer has no field for the use case and the address: a refresh empties them
    · by_contra h
      exact absurd (hkeeps .useCase (decide_eq_true h)) Bool.false_ne_true
    · by_contra h
      exact absurd (hkeeps .framedIp (decide_eq_true h)) Bool.false_ne_true
  · rintro ⟨huser, hip, huse, hframed⟩ field hknown
    simp only [infoWithMac, Option.getD_some]
    cases field <;> simp only [SessionInfo.knows, decide_eq_true_eq] at hknown ⊢
    case userName => exact huser hknown
    case nasIp => exact hip hknown
    case useCase => exact absurd huse hknown
    case framedIp => exact absurd hframed hknown
    case authzProfiles =>
      split
      · exact hknown
      · assumption
    case vlan | dacl | ctsSecurityGroup => exact Reading.orElse_ne_empty hknown
    all_goals exact orElse_ne_empty hknown

/-- MnT only adds. -/
theorem keeps_enriched (current : SessionInfo) (data : MntData) :
    current.Keeps (current.enriched data) := by
  intro field hknown
  simp only [SessionInfo.enriched]
  cases field <;> simp only [SessionInfo.knows, decide_eq_true_eq] at hknown ⊢
  case userName | nasIp | nasName | nasDeviceType | useCase | policySetName | authzRuleName =>
    exact hknown
  -- the address and the vlan are only filled in, the other fields give way to what MnT answers
  case framedIp => exact orElse_ne_empty_left hknown
  case vlan => exact Reading.orElse_ne_empty_left hknown
  case dacl | ctsSecurityGroup => exact Reading.orElse_ne_empty hknown
  case authzProfiles =>
    rw [if_neg hknown]
    exact hknown
  all_goals exact orElse_ne_empty hknown

theorem keeps_restated (existing : SessionInfo) (data : MntData) :
    existing.Keeps (existing.restated data) := by
  intro field hknown
  cases field with
  | vlan =>
      simp only [SessionInfo.knows, decide_eq_true_eq] at hknown ⊢
      exact Reading.orElse_ne_empty hknown
  | _ => exact keeps_enriched existing data _ hknown

end Entries

/-! ## One step -/

section Steps

variable {mac audit : String} {cache : SessionCache}

/-- The entry of the address, where there is one, is of the audit session or of none. -/
def OfSession (mac audit : String) (cache : SessionCache) : Prop :=
  ∀ info, cache.get? mac = some info → info.auditSessionId = "" ∨ info.auditSessionId = audit

/-- What is cached for the address afterwards still knows what was known before. -/
def EntryKeeps (mac : String) (cache next : SessionCache) : Prop :=
  ∀ existing info, cache.get? mac = some existing → next.get? mac = some info →
    existing.Keeps info

theorem entryKeeps_of_same {next : SessionCache} (h : next.get? mac = cache.get? mac) :
    EntryKeeps mac cache next := by
  intro existing info hexisting hinfo
  rw [h, hexisting] at hinfo
  cases hinfo
  exact fun field hknown => hknown

/-- What a message leaves for the address. -/
theorem get?_handleSession [PyText] (cache : SessionCache) (payload : SessionPayload)
    (mac : String) :
    (handleSession cache payload).get? mac =
      if payload.mac = mac ∧ mac ≠ "" then
        if isDisconnect payload.state then none else some (storedEntry cache payload)
      else cache.get? mac := by
  unfold handleSession
  by_cases hmac : payload.mac = mac
  · subst hmac
    by_cases hempty : payload.mac = ""
    · have hnot : ¬ (payload.mac = payload.mac ∧ payload.mac ≠ "") := fun h => h.2 hempty
      rw [if_pos hempty, if_neg hnot]
    · have hboth : payload.mac = payload.mac ∧ payload.mac ≠ "" := ⟨rfl, hempty⟩
      rw [if_neg hempty, if_pos hboth]
      cases isDisconnect payload.state with
      | true => exact Dict.get?_erase_self _ _
      | false => exact Dict.get?_set_self _ _ _
  · have hother : mac ≠ payload.mac := fun h => hmac h.symm
    have hnot : ¬ (payload.mac = mac ∧ mac ≠ "") := fun h => hmac h.1
    rw [if_neg hnot]
    by_cases hempty : payload.mac = ""
    · rw [if_pos hempty]
    · rw [if_neg hempty]
      cases isDisconnect payload.state with
      | true => exact Dict.get?_erase_ne _ hother
      | false => exact Dict.get?_set_ne _ _ hother

theorem auditSessionId_storedEntry (cache : SessionCache) (payload : SessionPayload) :
    (storedEntry cache payload).auditSessionId = payload.auditSessionId := by
  unfold storedEntry
  dsimp only
  split <;> rfl

/-- What MnT's answer to a caller is stored as is of the session of the entry, or of none. -/
theorem auditSessionId_mntEntry {data : MntData} {caller : MntCaller} {info : SessionInfo}
    (hentry : mntEntry cache mac data caller = some info) :
    info.auditSessionId = "" ∨
      ∃ current, cache.get? mac = some current ∧
        info.auditSessionId = current.auditSessionId := by
  cases caller with
  | single =>
      simp only [mntEntry] at hentry
      split at hentry
      · split at hentry
        · cases hentry
        · next current hcurrent =>
            split at hentry
            · cases hentry
              exact .inr ⟨current, hcurrent, rfl⟩
            · cases hentry
      · cases hentry
  | batch remaining =>
      simp only [mntEntry] at hentry
      split at hentry
      · obtain ⟨current, hcurrent, rfl⟩ := Option.map_eq_some_iff.mp hentry
        exact .inr ⟨current, hcurrent, rfl⟩
      · cases hentry
  | stale =>
      simp only [mntEntry] at hentry
      -- a stale address is restated, one that is not cached gets an entry of no session
      split at hentry
      · split at hentry
        · next existing hexisting =>
            cases hentry
            exact .inr ⟨existing, hexisting, rfl⟩
        · cases hentry
          exact .inl rfl
      · cases hentry

/-- MnT's answer loses nothing of a cached entry. -/
theorem keeps_mntEntry {data : MntData} {caller : MntCaller} {existing info : SessionInfo}
    (hexisting : cache.get? mac = some existing)
    (hentry : mntEntry cache mac data caller = some info) : existing.Keeps info := by
  cases caller with
  | single =>
      simp only [mntEntry, hexisting] at hentry
      split at hentry
      · split at hentry
        · cases hentry
          exact keeps_enriched existing data
        · cases hentry
      · cases hentry
  | batch remaining =>
      simp only [mntEntry, hexisting, Option.map_some] at hentry
      split at hentry
      · cases hentry
        exact keeps_enriched existing data
      · cases hentry
  | stale =>
      simp only [mntEntry, hexisting] at hentry
      split at hentry
      · cases hentry
        exact keeps_restated existing data
      · cases hentry

/-- The events of the session lose exactly what they do not repeat. -/
theorem entryKeeps_handleSession_iff [PyText] {payload : SessionPayload}
    (hcarries : payload.mac = mac → payload.auditSessionId = audit)
    (hsession : OfSession mac audit cache) :
    EntryKeeps mac cache (handleSession cache payload) ↔
      (payload.mac = mac → mac ≠ "" → isDisconnect payload.state = false →
        ∀ existing, cache.get? mac = some existing → RepeatsUnmerged payload existing) := by
  have hnext := get?_handleSession cache payload mac
  by_cases hmac : payload.mac = mac
  · by_cases hempty : mac = ""
    · have hnot : ¬ (payload.mac = mac ∧ mac ≠ "") := fun h => h.2 hempty
      rw [if_neg hnot] at hnext
      exact iff_of_true (entryKeeps_of_same hnext) fun _ hne => absurd hempty hne
    · have hboth : payload.mac = mac ∧ mac ≠ "" := ⟨hmac, hempty⟩
      rw [if_pos hboth] at hnext
      cases hstate : isDisconnect payload.state with
      | true =>
          rw [hstate, if_pos rfl] at hnext
          refine iff_of_true (fun existing info _ hinfo => ?_) fun _ _ h => Bool.noConfusion h
          rw [hnext] at hinfo
          cases hinfo
      | false =>
          rw [hstate, if_neg Bool.false_ne_true] at hnext
          unfold EntryKeeps
          simp only [hnext, Option.some.injEq, hmac, hempty, ne_eq, not_false_eq_true,
            forall_true_left]
          refine forall_congr' fun existing => ?_
          have hstored : ∀ hexisting : cache.get? mac = some existing,
              storedEntry cache payload = (buildSessionInfo payload).backFill existing := by
            intro hexisting
            have hget : cache.get? (buildSessionInfo payload).mac = some existing := by
              rw [← hexisting, ← hmac]
              rfl
            rw [storedEntry]
            simp only [hget]
          -- both ids are known here: that of the event, and that of the entry or none
          have hsame : ∀ hexisting : cache.get? mac = some existing,
              (buildSessionInfo payload).isNewSession existing = false := by
            intro hexisting
            have haudit : (buildSessionInfo payload).auditSessionId = audit := hcarries hmac
            rcases hsession existing hexisting with hnone | hid
            · simp [SessionInfo.isNewSession, hnone]
            · simp [SessionInfo.isNewSession, haudit, hid]
          constructor
          · intro hkeeps hexisting
            have h := hkeeps _ hexisting rfl
            rw [hstored hexisting, keeps_backFill_iff (hsame hexisting)] at h
            exact h
          · rintro hrepeats info hexisting rfl
            rw [hstored hexisting, keeps_backFill_iff (hsame hexisting)]
            exact hrepeats hexisting
  · have hnot : ¬ (payload.mac = mac ∧ mac ≠ "") := fun h => hmac h.1
    rw [if_neg hnot] at hnext
    exact iff_of_true (entryKeeps_of_same hnext) fun heq => absurd heq hmac

/-- The answer to `getSessions` loses exactly what it does not repeat for an entry it refreshes. -/
theorem entryKeeps_reconcileFromPxgrid_iff (sessions : List SessionPayload) :
    EntryKeeps mac cache (reconcileFromPxgrid cache sessions) ↔
      ∀ payload existing, (sessionsByMac SessionPayload.mac sessions).get? mac = some payload →
        cache.get? mac = some existing →
        refreshesEntry (infoWithMac mac payload (some existing)) existing = true →
          RepeatsUnreconciled payload existing := by
  unfold EntryKeeps reconcileFromPxgrid
  simp only [get?_reconcile]
  cases hpayload : (sessionsByMac SessionPayload.mac sessions).get? mac with
  | none =>
      refine iff_of_true (fun existing info _ hinfo => ?_) fun payload existing h => by cases h
      cases hinfo
  | some payload =>
      simp only [Option.bind_some]
      constructor
      · intro hkeeps other existing hother hexisting hrefresh
        cases hother
        refine keeps_infoWithMac_iff.mp
          (hkeeps existing (infoWithMac mac payload (some existing)) hexisting ?_)
        simp only [reconciledEntry, hexisting, hrefresh, if_true, Option.some_or]
      · intro hrepeats existing info hexisting hinfo
        simp only [reconciledEntry, hexisting] at hinfo
        split at hinfo
        · next hrefresh =>
            cases hinfo
            exact keeps_infoWithMac_iff.mpr (hrepeats payload existing rfl hexisting hrefresh)
        · cases hinfo
          exact fun field hknown => hknown

/-- The active list leaves cached entries alone or evicts them. -/
theorem entryKeeps_reconcileFromMnt (rows : List ActiveSession) :
    EntryKeeps mac cache (reconcileFromMnt cache rows) := by
  intro existing info hexisting hinfo
  rw [reconcileFromMnt, get?_reconcile] at hinfo
  obtain ⟨row, _, hinfo⟩ := Option.bind_eq_some_iff.mp hinfo
  simp only [seededEntry, hexisting, Option.none_or, Option.some.injEq] at hinfo
  cases hinfo
  exact fun field hknown => hknown

theorem get?_setIfSome (cache : SessionCache) (mac other : String) (entry : Option SessionInfo) :
    (cache.setIfSome other entry).get? mac =
      if mac = other then entry.or (cache.get? mac) else cache.get? mac := by
  cases entry with
  | none => simp [Dict.setIfSome]
  | some info => simp [Dict.setIfSome, Dict.get?_set]

theorem entryKeeps_setIfSome_mntEntry (other : String) (data : MntData) (caller : MntCaller) :
    EntryKeeps mac cache (cache.setIfSome other (mntEntry cache other data caller)) := by
  intro existing info hexisting hinfo
  rw [get?_setIfSome] at hinfo
  split at hinfo
  · next hmac =>
      subst hmac
      cases hentry : mntEntry cache mac data caller with
      | none =>
          rw [hentry, Option.none_or, hexisting] at hinfo
          cases hinfo
          exact fun field hknown => hknown
      | some stored =>
          rw [hentry, Option.some_or] at hinfo
          cases hinfo
          exact keeps_mntEntry hexisting hentry
  · rw [hexisting] at hinfo
    cases hinfo
    exact fun field hknown => hknown

variable [PyText] {worker next : SessionWorker} {event : SessionWorkerEvent}

/-- A step of the session loses nothing exactly under the condition. -/
theorem entryKeeps_step_iff (hstep : worker.step event = some next)
    (hcarries : CarriesSession mac audit event) (hsession : OfSession mac audit worker.cache) :
    EntryKeeps mac worker.cache next.cache ↔ LosesNothing mac worker event := by
  rw [SessionWorker.step_cache hstep]
  cases event with
  | message payload => exact entryKeeps_handleSession_iff hcarries hsession
  | getSessions sessions => exact entryKeeps_reconcileFromPxgrid_iff sessions
  | activeList rows => exact iff_of_true (entryKeeps_reconcileFromMnt rows) trivial
  | fetched position =>
      obtain ⟨task, htask, _⟩ := Option.map_eq_some_iff.mp hstep
      simp only [SessionWorker.cacheAfter, htask]
      exact iff_of_true (entryKeeps_setIfSome_mntEntry task.mac task.data task.caller) trivial
  | _ => exact iff_of_true (entryKeeps_of_same rfl) trivial

/-- The entry stays in the session as long as the events belong to it. -/
theorem ofSession_step (hstep : worker.step event = some next)
    (hcarries : CarriesSession mac audit event) (hsession : OfSession mac audit worker.cache) :
    OfSession mac audit next.cache := by
  rw [SessionWorker.step_cache hstep]
  cases event with
  | message payload =>
      intro info hinfo
      simp only [SessionWorker.cacheAfter, get?_handleSession] at hinfo
      split at hinfo
      · next hmac =>
          split at hinfo
          · cases hinfo
          · cases hinfo
            rw [auditSessionId_storedEntry]
            exact .inr (hcarries hmac.1)
      · exact hsession info hinfo
  | getSessions sessions =>
      intro info hinfo
      simp only [SessionWorker.cacheAfter, reconcileFromPxgrid, get?_reconcile] at hinfo
      obtain ⟨payload, hpayload, hinfo⟩ := Option.bind_eq_some_iff.mp hinfo
      obtain ⟨hlisted, hmac, _⟩ := mem_of_get?_sessionsByMac hpayload
      have haudit : payload.auditSessionId = audit := hcarries payload hlisted hmac
      cases hentry : reconciledEntry worker.cache mac payload with
      | none =>
          rw [hentry, Option.none_or] at hinfo
          exact hsession info hinfo
      | some stored =>
          rw [hentry, Option.some_or] at hinfo
          cases hinfo
          refine .inr ?_
          rw [← haudit]
          simp only [reconciledEntry] at hentry
          split at hentry
          · cases hentry
            rfl
          · split at hentry
            · cases hentry
              rfl
            · cases hentry
  | activeList rows =>
      intro info hinfo
      simp only [SessionWorker.cacheAfter, reconcileFromMnt, get?_reconcile] at hinfo
      obtain ⟨row, hrow, hinfo⟩ := Option.bind_eq_some_iff.mp hinfo
      obtain ⟨hlisted, hmac, _⟩ := mem_of_get?_sessionsByMac hrow
      cases hentry : seededEntry worker.cache mac row with
      | none =>
          rw [hentry, Option.none_or] at hinfo
          exact hsession info hinfo
      | some stored =>
          rw [hentry, Option.some_or] at hinfo
          cases hinfo
          simp only [seededEntry] at hentry
          split at hentry
          · cases hentry
          · cases hentry
            exact .inr (hcarries row hlisted hmac)
  | fetched position =>
      obtain ⟨task, htask, _⟩ := Option.map_eq_some_iff.mp hstep
      intro info hinfo
      simp only [SessionWorker.cacheAfter, htask, get?_setIfSome] at hinfo
      split at hinfo
      · next hmac =>
          subst hmac
          cases hentry : mntEntry worker.cache task.mac task.data task.caller with
          | none =>
              rw [hentry, Option.none_or] at hinfo
              exact hsession info hinfo
          | some stored =>
              rw [hentry, Option.some_or] at hinfo
              cases hinfo
              rcases auditSessionId_mntEntry hentry with hnone | ⟨current, hcurrent, hid⟩
              · exact .inl hnone
              · rw [hid]
                exact hsession current hcurrent
      · exact hsession info hinfo
  | _ => exact hsession

end Steps

/-! ## Runs -/

/-- The worker, and what has been known of one address since it was last cached. -/
structure WatchedWorker where
  worker : SessionWorker := {}
  known : InfoField → Bool := fun _ => false

namespace WatchedWorker

variable [PyText] {mac audit : String}

/-- Nothing is known of an address that is not cached; a field once known counts as known from
then on. -/
def watch (mac : String) (known : InfoField → Bool) (cache : SessionCache) : InfoField → Bool :=
  match cache.get? mac with
  | none => fun _ => false
  | some info => fun field => known field || info.knows field

def step (mac : String) (watched : WatchedWorker) (event : SessionWorkerEvent) :
    Option WatchedWorker :=
  (watched.worker.step event).map fun next =>
    { worker := next, known := watch mac watched.known next.cache }

omit [PyText] in
/-- Whatever has been known of the address since it was cached is in its entry. -/
def NothingLost (mac : String) (watched : WatchedWorker) : Prop :=
  ∀ info, watched.worker.cache.get? mac = some info →
    ∀ field, watched.known field = true → info.knows field = true

omit [PyText] in
/-- What is in the entry has been noted, and nothing without an entry. -/
def Noted (mac : String) (watched : WatchedWorker) : Prop :=
  match watched.worker.cache.get? mac with
  | none => ∀ field, watched.known field = false
  | some info => ∀ field, info.knows field = true → watched.known field = true

omit [PyText] in
theorem noted_watch (mac : String) (known : InfoField → Bool) (worker : SessionWorker) :
    Noted mac { worker := worker, known := watch mac known worker.cache } := by
  unfold Noted watch
  dsimp only
  cases worker.cache.get? mac with
  | none => exact fun _ => rfl
  | some info => exact fun field hknown => by simp [hknown]

omit [PyText] in
/-- While nothing has been lost, a step loses nothing exactly when the entry keeps what it knows. -/
theorem nothingLost_watch_iff {watched : WatchedWorker} {next : SessionWorker}
    (hnoted : Noted mac watched) (hlost : NothingLost mac watched) :
    NothingLost mac { worker := next, known := watch mac watched.known next.cache } ↔
      EntryKeeps mac watched.worker.cache next.cache := by
  unfold NothingLost EntryKeeps watch
  dsimp only
  cases hnext : next.cache.get? mac with
  | none => exact iff_of_true (fun info h => by cases h) fun existing info _ h => by cases h
  | some info =>
      simp only [Option.some.injEq, forall_eq', Bool.or_eq_true]
      cases hold : watched.worker.cache.get? mac with
      | none =>
          rw [Noted, hold] at hnoted
          refine iff_of_true (fun field hknown => ?_) fun existing other h => by cases h
          rcases hknown with hbefore | hnow
          · rw [hnoted field] at hbefore
            exact absurd hbefore Bool.false_ne_true
          · exact hnow
      | some existing =>
          rw [Noted, hold] at hnoted
          constructor
          · rintro hkeeps other stored hother rfl field hknown
            cases hother
            exact hkeeps field (.inl (hnoted field hknown))
          · rintro hkeeps field (hbefore | hnow)
            · exact hkeeps existing info rfl rfl field (hlost existing hold field hbefore)
            · exact hnow

/-- In every run of one audit session, what was once known of the address stays in its entry as long
as it is cached, exactly when every event repeats what its writer does not take over. -/
theorem known_fields_kept_iff (mac audit : String) (events : List SessionWorkerEvent)
    (hcarries : ∀ event ∈ events, CarriesSession mac audit event) :
    Always (step mac) (NothingLost mac) {} events ↔
      Guarded SessionWorker.step (LosesNothing mac) SessionWorker.start events := by
  have hview : ∀ watched event, (step mac watched event).map worker =
      SessionWorker.step watched.worker event := fun watched event => by
    unfold step
    rw [Option.map_map]
    exact Option.map_id'
  refine Iff.trans ?_ (guarded_image_iff (LosesNothing mac) hview {} events)
  refine always_iff_guarded_of_labels
    (I := fun watched => Noted mac watched ∧ OfSession mac audit watched.worker.cache)
    (L := CarriesSession mac audit) ?_ ?_ hcarries ⟨fun _ => rfl, fun info h => by cases h⟩
    fun info h => by cases h
  · rintro watched event after hevent hstep ⟨_, hsession⟩
    obtain ⟨next, hnext, rfl⟩ := Option.map_eq_some_iff.mp hstep
    exact ⟨noted_watch mac watched.known next, ofSession_step hnext hevent hsession⟩
  · rintro watched event after hevent hstep ⟨hnoted, hsession⟩ hlost
    obtain ⟨next, hnext, rfl⟩ := Option.map_eq_some_iff.mp hstep
    rw [nothingLost_watch_iff hnoted hlost]
    exact entryKeeps_step_iff hnext hevent hsession

end WatchedWorker

/-- A session with the address of its client, and an answer to `getSessions` that moves it to
another vlan. -/
def movedSession : List SessionWorkerEvent :=
  [.message
      { mac := "AA:BB:CC:00:00:01", state := "STARTED", auditSessionId := "A", vlan := "10",
        framedIp := "10.0.0.5" },
    .getSessions
      [{ mac := "AA:BB:CC:00:00:01", state := "STARTED", auditSessionId := "A", vlan := "20",
         framedIp := "10.0.0.5" }]]

theorem carries_movedSession :
    ∀ event ∈ movedSession, CarriesSession "AA:BB:CC:00:00:01" "A" event := by
  simp [movedSession, CarriesSession]

/-- A run that loses nothing: the session is only reported once. -/
theorem known_fields_kept_once :
    Always (@WatchedWorker.step asciiText "AA:BB:CC:00:00:01")
      (WatchedWorker.NothingLost "AA:BB:CC:00:00:01") {} (movedSession.take 1) := by
  refine (@WatchedWorker.known_fields_kept_iff asciiText "AA:BB:CC:00:00:01" "A" _
    fun event hmem => carries_movedSession event (List.mem_of_mem_take hmem)).mpr ?_
  refine ⟨?_, trivial⟩
  intro _ _ _ existing hexisting
  cases hexisting

/-- The answer reports the address of the client again, and it is lost all the same. -/
theorem framed_ip_lost :
    ¬ Always (@WatchedWorker.step asciiText "AA:BB:CC:00:00:01")
      (WatchedWorker.NothingLost "AA:BB:CC:00:00:01") {} movedSession := by
  intro h
  have hentry : ((run (@WatchedWorker.step asciiText "AA:BB:CC:00:00:01") {} movedSession).bind
      fun watched => (watched.worker.cache.get? "AA:BB:CC:00:00:01").map fun info =>
        (watched.known .framedIp, info.knows .framedIp)) = some (true, false) := by
    decide
  obtain ⟨watched, hrun, hinfo⟩ := Option.bind_eq_some_iff.mp hentry
  obtain ⟨info, hcached, hvalues⟩ := Option.map_eq_some_iff.mp hinfo
  obtain ⟨hknown, hlost⟩ := Prod.mk.inj hvalues
  have hkept := h.last hrun info hcached .framedIp hknown
  rw [hlost] at hkept
  exact absurd hkept Bool.false_ne_true

end IsePortal
