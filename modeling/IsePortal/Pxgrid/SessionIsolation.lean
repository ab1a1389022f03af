import IsePortal.Library.Runs
import IsePortal.Pxgrid.SessionCache

/-!
# Values of another session

Events, the two reconciliations and three kinds of MnT requests write the session cache in any
order, and ISE starts new sessions in between. `_handle_message_body` does not let a new
session inherit the vlan, dacl and security group of the old one, but only where both carry
an audit session id; the answer to `getSessions` is merged without looking at the ids, and an
answer of MnT goes into whatever session is cached when it arrives. `session_isolation_iff` says
exactly which steps put a value of another session into an entry.
-/

namespace IsePortal

open Library

/-- A `fetch_session_by_mac` on its way, with the answers it has so far. -/
structure MntTask where
  caller : MntCaller
  mac : String
  detail : Option (Answer SessionDetail) := none
  status : Option (Answer (List AuthStatusElement)) := none

/-- The worker and what surrounds it: `current` is ISE's audit session of each address. -/
structure SessionWorker where
  cache : SessionCache := Dict.empty
  current : Dict String String := Dict.empty
  enrichInFlight : List String := []
  tasks : List MntTask := []

inductive SessionWorkerEvent where
  /-- ISE starts or ends the audit session of an address. -/
  | sessionStarts (mac session : String)
  | sessionEnds (mac : String)
  /-- One session of a STOMP message. -/
  | message (payload : SessionPayload)
  | getSessions (sessions : List SessionPayload)
  | activeList (sessions : List ActiveSession)
  /-- `_enrich_sessions_from_mnt` begins its sweep. -/
  | enrichSessions
  /-- `reconcile_stale_sessions` begins with one of its addresses. -/
  | checkStale (mac : String)
  /-- MnT answers one of the two requests of a task. -/
  | detailAnswer (task : Nat) (detail : SessionDetail)
  | statusAnswer (task : Nat) (elements : List AuthStatusElement)
  /-- `fetch_session_by_mac` returns; a request without an answer has failed. -/
  | fetched (task : Nat)
  /-- The fetch times out or raises. -/
  | abandoned (task : Nat)

namespace MntTask

def data (task : MntTask) : MntData := fetchSessionByMac task.detail task.status

end MntTask

namespace SessionWorker

/-- A message, and the task it may start: at most one at a time for an address. -/
def onMessage [PyText] (worker : SessionWorker) (payload : SessionPayload) : SessionWorker :=
  let next := { worker with cache := handleSession worker.cache payload }
  if payload.mac ≠ "" ∧ isDisconnect payload.state = false ∧
      (storedEntry worker.cache payload).wantsEnrichment = true ∧
      payload.mac ∉ worker.enrichInFlight then
    { next with
      enrichInFlight := payload.mac :: worker.enrichInFlight
      tasks := worker.tasks ++ [{ caller := .single, mac := payload.mac }] }
  else next

/-- The sweep asks for the entries that lack something, one after the other. -/
def startSweep (worker : SessionWorker) : SessionWorker :=
  let toEnrich := worker.cache.entries.filter fun entry =>
    entry.2.identityGroup = "" || entry.2.endpointPolicy = "" || entry.2.authzProfiles = []
  match toEnrich.map Prod.fst with
  | [] => worker
  | mac :: remaining =>
      { worker with tasks := worker.tasks ++ [{ caller := .batch remaining, mac := mac }] }

/-- A fetch is over: a sweep goes on with its next address, the others end. -/
def settle (worker : SessionWorker) (position : Nat) (task : MntTask) : SessionWorker :=
  match task.caller with
  | .single =>
      { worker with
        enrichInFlight := worker.enrichInFlight.filter (· ≠ task.mac)
        tasks := worker.tasks.eraseIdx position }
  | .batch (mac :: remaining) =>
      { worker with
        tasks := worker.tasks.set position { caller := .batch remaining, mac := mac } }
  | .batch [] => { worker with tasks := worker.tasks.eraseIdx position }
  | .stale => { worker with tasks := worker.tasks.eraseIdx position }

/-- Between an await of the fetch and the next one, a task reads and writes the cache without
being interrupted: the lock of the cache is never held across an await. -/
def step [PyText] (worker : SessionWorker) : SessionWorkerEvent → Option SessionWorker
  | .sessionStarts mac session =>
      some { worker with current := worker.current.set mac session }
  | .sessionEnds mac => some { worker with current := worker.current.erase mac }
  | .message payload => some (worker.onMessage payload)
  | .getSessions sessions =>
      if sessions.isEmpty then none
      else some { worker with cache := reconcileFromPxgrid worker.cache sessions }
  | .activeList sessions =>
      some { worker with cache := reconcileFromMnt worker.cache sessions }
  | .enrichSessions => some worker.startSweep
  | .checkStale mac =>
      if mac = "" then none
      else some { worker with tasks := worker.tasks ++ [{ caller := .stale, mac := mac }] }
  | .detailAnswer position detail =>
      worker.tasks[position]?.bind fun task =>
        if task.detail.isSome then none
        else some
          { worker with
            tasks := worker.tasks.set position
              { task with detail := some ⟨detail, worker.current.get? task.mac⟩ } }
  | .statusAnswer position elements =>
      worker.tasks[position]?.bind fun task =>
        if task.status.isSome then none
        else some
          { worker with
            tasks := worker.tasks.set position
              { task with status := some ⟨elements, worker.current.get? task.mac⟩ } }
  | .fetched position =>
      worker.tasks[position]?.map fun task =>
        { worker.settle position task with
          cache := worker.cache.setIfSome task.mac
            (mntEntry worker.cache task.mac task.data task.caller) }
  | .abandoned position =>
      worker.tasks[position]?.map fun task => worker.settle position task

/-- The worker before anything has happened. -/
def start : SessionWorker := {}

end SessionWorker

/-- An entry of session `audit` carries no value that is known to come from another session. -/
def SessionInfo.OwnValues (audit : String) (info : SessionInfo) : Prop :=
  info.auditSessionId = audit →
    info.vlan.SafeFor audit ∧ info.dacl.SafeFor audit ∧ info.ctsSecurityGroup.SafeFor audit

/-- No entry of session `audit` carries a value of another session. -/
def Isolated (audit : String) (cache : SessionCache) : Prop :=
  ∀ mac info, cache.get? mac = some info → info.OwnValues audit

/-- What the payload leaves empty is, in the cached entry, no value of another session. -/
def InheritsSafely (audit : String) (payload : SessionPayload) (existing : SessionInfo) : Prop :=
  (payload.vlan = "" → existing.vlan.SafeFor audit) ∧
    (payload.dacl = "" → existing.dacl.SafeFor audit) ∧
    (payload.ctsSecurityGroup = "" → existing.ctsSecurityGroup.SafeFor audit)

/-- What a caller takes over from MnT for an entry of session `audit` was not fetched while ISE had
another session. -/
def TakesSafely (audit : String) (cache : SessionCache) (mac : String) (data : MntData) :
    MntCaller → Prop
  | .single =>
      ∀ current, cache.get? mac = some current → current.auditSessionId = audit →
        (current.enriched data).enrichmentShows current = true →
          (current.vlan.text = "" → data.vlan.SafeFor audit) ∧ data.dacl.SafeFor audit ∧
            data.ctsSecurityGroup.SafeFor audit
  | .batch _ =>
      ∀ current, cache.get? mac = some current → current.auditSessionId = audit →
        (current.vlan.text = "" → data.vlan.SafeFor audit) ∧ data.dacl.SafeFor audit ∧
          data.ctsSecurityGroup.SafeFor audit
  | .stale =>
      ((cache.get? mac).getD { mac := mac }).auditSessionId = audit →
        data.vlan.SafeFor audit ∧ data.dacl.SafeFor audit ∧ data.ctsSecurityGroup.SafeFor audit

/-- The step puts no value of another session into an entry of session `audit`. -/
def CleanStep [PyText] (audit : String) (worker : SessionWorker) : SessionWorkerEvent → Prop
  | .message payload =>
      ∀ existing, worker.cache.get? payload.mac = some existing → payload.mac ≠ "" →
        isDisconnect payload.state = false → payload.auditSessionId = audit →
        (buildSessionInfo payload).isNewSession existing = false →
          InheritsSafely audit payload existing
  | .getSessions sessions =>
      ∀ mac payload existing,
        (sessionsByMac SessionPayload.mac sessions).get? mac = some payload →
        worker.cache.get? mac = some existing → payload.auditSessionId = audit →
        refreshesEntry (infoWithMac mac payload (some existing)) existing = true →
          InheritsSafely audit payload existing
  | .fetched position =>
      ∀ task, worker.tasks[position]? = some task → task.data.hasData = true →
        TakesSafely audit worker.cache task.mac task.data task.caller
  | _ => True

/-! ## One entry -/

section Entries

variable {audit : String} {cache : SessionCache} {payload : SessionPayload}
  {existing current : SessionInfo}

/-- A value reported for the session is no value of another one. -/
theorem safeFor_reading (haudit : payload.auditSessionId = audit) (text : String) :
    (payload.reading text).SafeFor audit := by
  unfold SessionPayload.reading Reading.SafeFor
  by_cases hnone : payload.auditSessionId = ""
  · exact .inr (.inl (if_pos hnone))
  · refine .inr (.inr ?_)
    show (if payload.auditSessionId = "" then none else _) = _
    rw [if_neg hnone, haudit]

theorem safeFor_reading_orElse (haudit : payload.auditSessionId = audit) (text : String)
    (old : Reading) :
    ((payload.reading text).orElse old).SafeFor audit ↔ (text = "" → old.SafeFor audit) := by
  rw [Reading.safeFor_orElse]
  exact and_iff_right (safeFor_reading haudit text)

theorem ownValues_buildSessionInfo (payload : SessionPayload) (audit : String) :
    (buildSessionInfo payload).OwnValues audit :=
  fun haudit =>
    ⟨safeFor_reading haudit _, safeFor_reading haudit _, safeFor_reading haudit _⟩

/-- An event that is merged with a cached entry: the check of the ids makes it safe, and otherwise
it depends on what is inherited. -/
theorem ownValues_backFill_iff :
    ((buildSessionInfo payload).backFill existing).OwnValues audit ↔
      (payload.auditSessionId = audit →
        (buildSessionInfo payload).isNewSession existing = false →
          InheritsSafely audit payload existing) := by
  refine imp_congr_right fun haudit => ?_
  have haudit : payload.auditSessionId = audit := haudit
  cases hnew : (buildSessionInfo payload).isNewSession existing with
  | true =>
      refine iff_of_true ?_ Bool.noConfusion
      simp only [SessionInfo.backFill, hnew, if_true]
      exact ownValues_buildSessionInfo payload audit haudit
  | false =>
      simp only [SessionInfo.backFill, hnew, Bool.false_eq_true, if_false, true_imp_iff]
      exact and_congr (safeFor_reading_orElse haudit _ _)
        (and_congr (safeFor_reading_orElse haudit _ _) (safeFor_reading_orElse haudit _ _))

theorem ownValues_storedEntry_iff :
    (storedEntry cache payload).OwnValues audit ↔
      ∀ existing, cache.get? payload.mac = some existing → payload.auditSessionId = audit →
        (buildSessionInfo payload).isNewSession existing = false →
          InheritsSafely audit payload existing := by
  have hmac : (buildSessionInfo payload).mac = payload.mac := rfl
  simp only [storedEntry, hmac]
  cases cache.get? payload.mac with
  | none => exact iff_of_true (ownValues_buildSessionInfo payload audit) fun _ h => by cases h
  | some existing => simp only [Option.some.injEq, forall_eq', ownValues_backFill_iff]

/-- An entry merged from the answer to `getSessions`: nothing looks at the ids. -/
theorem ownValues_infoWithMac_iff (mac : String) (existing : Option SessionInfo) :
    (infoWithMac mac payload existing).OwnValues audit ↔
      (payload.auditSessionId = audit →
        InheritsSafely audit payload (existing.getD { mac := mac })) := by
  refine imp_congr_right fun haudit => ?_
  exact and_congr (safeFor_reading_orElse haudit _ _)
    (and_congr (safeFor_reading_orElse haudit _ _) (safeFor_reading_orElse haudit _ _))

theorem ownValues_enriched_iff (h : current.OwnValues audit) (data : MntData) :
    (current.enriched data).OwnValues audit ↔
      (current.auditSessionId = audit →
        (current.vlan.text = "" → data.vlan.SafeFor audit) ∧ data.dacl.SafeFor audit ∧
          data.ctsSecurityGroup.SafeFor audit) := by
  refine imp_congr_right fun haudit => ?_
  obtain ⟨hvlan, hdacl, hgroup⟩ := h haudit
  simp only [SessionInfo.enriched, Reading.safeFor_orElse, hvlan, hdacl, hgroup, implies_true,
    true_and, and_true]

theorem ownValues_restated_iff (h : existing.OwnValues audit) (data : MntData) :
    (existing.restated data).OwnValues audit ↔
      (existing.auditSessionId = audit →
        data.vlan.SafeFor audit ∧ data.dacl.SafeFor audit ∧
          data.ctsSecurityGroup.SafeFor audit) := by
  refine imp_congr_right fun haudit => ?_
  obtain ⟨hvlan, hdacl, hgroup⟩ := h haudit
  simp only [SessionInfo.restated, SessionInfo.enriched, Reading.safeFor_orElse, hvlan, hdacl,
    hgroup, implies_true, and_true]

/-- What a task stores with the data it got. -/
theorem ownValues_mntEntry_iff (h : Isolated audit cache) (mac : String) (data : MntData)
    (caller : MntCaller) :
    (∀ info, mntEntry cache mac data caller = some info → info.OwnValues audit) ↔
      (data.hasData = true → TakesSafely audit cache mac data caller) := by
  cases hdata : data.hasData with
  | false =>
      refine iff_of_true ?_ Bool.noConfusion
      intro info hentry
      cases caller <;> simp [mntEntry, hdata] at hentry
  | true =>
      refine Iff.trans ?_ ⟨fun htakes _ => htakes, fun htakes => htakes rfl⟩
      cases hcached : cache.get? mac with
      | none =>
          cases caller <;>
            simp [mntEntry, hdata, hcached, TakesSafely, SessionInfo.OwnValues, SessionInfo.fromMnt]
      | some current =>
          have hown := h mac current hcached
          cases caller with
          | single =>
              simp only [mntEntry, hdata, if_true, hcached, TakesSafely, Option.some.injEq,
                forall_eq']
              split
              · next hshows =>
                  simp only [Option.some.injEq, forall_eq', ownValues_enriched_iff hown, hshows,
                    true_imp_iff]
              · next hshows => simp [hshows]
          | batch remaining =>
              simp only [mntEntry, hdata, if_true, hcached, TakesSafely, Option.some.injEq,
                forall_eq', Option.map_some, ownValues_enriched_iff hown]
          | stale =>
              simp only [mntEntry, hdata, if_true, hcached, TakesSafely, Option.some.injEq,
                forall_eq', Option.getD_some, ownValues_restated_iff hown]

theorem isolated_setIfSome_iff (h : Isolated audit cache) (mac : String)
    (entry : Option SessionInfo) :
    Isolated audit (cache.setIfSome mac entry) ↔
      ∀ info, entry = some info → info.OwnValues audit := by
  cases entry with
  | none => exact iff_of_true h fun info hinfo => by cases hinfo
  | some info =>
      constructor
      · intro hset other hother
        cases hother
        exact hset mac info (Dict.get?_set_self cache mac info)
      · intro hown other stored hstored
        by_cases hmac : other = mac
        · subst hmac
          rw [Dict.setIfSome, Dict.get?_set_self] at hstored
          exact hown stored hstored
        · rw [Dict.setIfSome, Dict.get?_set_ne cache info hmac] at hstored
          exact h other stored hstored

theorem isolated_handleSession_iff [PyText] (h : Isolated audit cache) :
    Isolated audit (handleSession cache payload) ↔
      ∀ existing, cache.get? payload.mac = some existing → payload.mac ≠ "" →
        isDisconnect payload.state = false → payload.auditSessionId = audit →
        (buildSessionInfo payload).isNewSession existing = false →
          InheritsSafely audit payload existing := by
  unfold handleSession
  split
  · next hmac => exact iff_of_true h fun _ _ hne => absurd hmac hne
  · next hmac =>
      split
      · next hdisconnect =>
          refine iff_of_true ?_ fun _ _ _ hconnected => by simp [hdisconnect] at hconnected
          intro other info hinfo
          rw [Dict.get?_erase] at hinfo
          split at hinfo
          · cases hinfo
          · exact h other info hinfo
      · next hconnected =>
          rw [Bool.not_eq_true] at hconnected
          have hset := isolated_setIfSome_iff h payload.mac (some (storedEntry cache payload))
          rw [Dict.setIfSome] at hset
          rw [hset]
          simp only [Option.some.injEq, forall_eq', ownValues_storedEntry_iff, hconnected, hmac,
            ne_eq, not_false_eq_true, true_imp_iff]

theorem isolated_reconcileFromPxgrid_iff (h : Isolated audit cache)
    (sessions : List SessionPayload) :
    Isolated audit (reconcileFromPxgrid cache sessions) ↔
      ∀ mac payload existing,
        (sessionsByMac SessionPayload.mac sessions).get? mac = some payload →
        cache.get? mac = some existing → payload.auditSessionId = audit →
        refreshesEntry (infoWithMac mac payload (some existing)) existing = true →
          InheritsSafely audit payload existing := by
  unfold Isolated reconcileFromPxgrid
  simp only [get?_reconcile]
  constructor
  · intro hisolated mac payload existing hpayload hexisting haudit hrefresh
    have hentry : reconciledEntry cache mac payload =
        some (infoWithMac mac payload (some existing)) := by
      simp only [reconciledEntry, hexisting, hrefresh, if_true]
    have hown := hisolated mac (infoWithMac mac payload (some existing)) (by
      rw [hpayload, Option.bind_some, hentry]
      rfl)
    exact (ownValues_infoWithMac_iff mac (some existing)).mp hown haudit
  · intro hclean mac info hinfo
    obtain ⟨payload, hpayload, hinfo⟩ := Option.bind_eq_some_iff.mp hinfo
    cases hexisting : cache.get? mac with
    | none =>
        simp only [reconciledEntry, hexisting, Option.some_or, Option.some.injEq] at hinfo
        rw [← hinfo, ownValues_infoWithMac_iff]
        exact fun _ => ⟨fun _ => .inl rfl, fun _ => .inl rfl, fun _ => .inl rfl⟩
    | some existing =>
        simp only [reconciledEntry, hexisting] at hinfo
        split at hinfo
        · next hrefresh =>
            simp only [Option.some_or, Option.some.injEq] at hinfo
            rw [← hinfo, ownValues_infoWithMac_iff]
            exact fun haudit => hclean mac payload existing hpayload hexisting haudit hrefresh
        · simp only [Option.none_or, Option.some.injEq] at hinfo
          rw [← hinfo]
          exact h mac existing hexisting

/-- The active list seeds entries without any of the three values. -/
theorem isolated_reconcileFromMnt (h : Isolated audit cache) (sessions : List ActiveSession) :
    Isolated audit (reconcileFromMnt cache sessions) := by
  intro mac info hinfo
  rw [reconcileFromMnt, get?_reconcile] at hinfo
  obtain ⟨row, -, hinfo⟩ := Option.bind_eq_some_iff.mp hinfo
  cases hexisting : cache.get? mac with
  | none =>
      simp only [seededEntry, hexisting, Option.some_or, Option.some.injEq] at hinfo
      rw [← hinfo]
      exact fun _ => ⟨.inl rfl, .inl rfl, .inl rfl⟩
  | some existing =>
      simp only [seededEntry, hexisting, Option.none_or, Option.some.injEq] at hinfo
      rw [← hinfo]
      exact h mac existing hexisting

end Entries

/-! ## Runs -/

namespace SessionWorker

variable [PyText] {audit : String} {worker next : SessionWorker} {event : SessionWorkerEvent}

omit [PyText] in
@[simp] theorem settle_cache (position : Nat) (task : MntTask) :
    (worker.settle position task).cache = worker.cache := by
  unfold settle
  split <;> rfl

theorem onMessage_cache (payload : SessionPayload) :
    (worker.onMessage payload).cache = handleSession worker.cache payload := by
  unfold onMessage
  dsimp only
  split <;> rfl

omit [PyText] in
theorem startSweep_cache : worker.startSweep.cache = worker.cache := by
  unfold startSweep
  dsimp only
  split <;> rfl

/-- What an event makes of the cache. -/
def cacheAfter (worker : SessionWorker) : SessionWorkerEvent → SessionCache
  | .message payload => handleSession worker.cache payload
  | .getSessions sessions => reconcileFromPxgrid worker.cache sessions
  | .activeList sessions => reconcileFromMnt worker.cache sessions
  | .fetched position =>
      match worker.tasks[position]? with
      | none => worker.cache
      | some task =>
          worker.cache.setIfSome task.mac
            (mntEntry worker.cache task.mac task.data task.caller)
  | _ => worker.cache

/-- Only four kinds of events touch the cache. -/
theorem step_cache (hstep : worker.step event = some next) :
    next.cache = worker.cacheAfter event := by
  cases event with
  | sessionStarts mac session => cases hstep; rfl
  | sessionEnds mac => cases hstep; rfl
  | message payload =>
      cases hstep
      exact onMessage_cache payload
  | getSessions sessions =>
      simp only [step] at hstep
      split at hstep
      · cases hstep
      · cases hstep
        rfl
  | activeList sessions => cases hstep; rfl
  | enrichSessions =>
      cases hstep
      exact startSweep_cache
  | checkStale mac =>
      simp only [step] at hstep
      split at hstep
      · cases hstep
      · cases hstep
        rfl
  | detailAnswer position detail =>
      obtain ⟨task, -, hstep⟩ := Option.bind_eq_some_iff.mp hstep
      split at hstep
      · cases hstep
      · cases hstep
        rfl
  | statusAnswer position elements =>
      obtain ⟨task, -, hstep⟩ := Option.bind_eq_some_iff.mp hstep
      split at hstep
      · cases hstep
      · cases hstep
        rfl
  | fetched position =>
      obtain ⟨task, htask, rfl⟩ := Option.map_eq_some_iff.mp hstep
      simp only [cacheAfter, htask]
  | abandoned position =>
      obtain ⟨task, -, rfl⟩ := Option.map_eq_some_iff.mp hstep
      exact settle_cache position task

/-- A step keeps the entries of a session clean exactly when it is a clean step. -/
theorem isolated_step_iff (hstep : worker.step event = some next)
    (h : Isolated audit worker.cache) :
    Isolated audit next.cache ↔ CleanStep audit worker event := by
  rw [step_cache hstep]
  cases event with
  | message payload => exact isolated_handleSession_iff h
  | getSessions sessions => exact isolated_reconcileFromPxgrid_iff h sessions
  | activeList sessions => exact iff_of_true (isolated_reconcileFromMnt h sessions) trivial
  | fetched position =>
      obtain ⟨task, htask, -⟩ := Option.map_eq_some_iff.mp hstep
      simp only [cacheAfter, CleanStep, htask, Option.some.injEq, forall_eq']
      rw [isolated_setIfSome_iff h, ownValues_mntEntry_iff h]
  | _ => exact iff_of_true h trivial

/-- In every run from the empty cache, and for every audit session: no entry of it ever carries a
vlan, dacl or security group of another session exactly when every step is clean for it. -/
theorem session_isolation_iff (audit : String) (events : List SessionWorkerEvent) :
    Always step (fun worker => Isolated audit worker.cache) start events ↔
      Guarded step (CleanStep audit) start events := by
  refine always_iff_guarded (I := fun _ => True) (fun _ _ _ _ _ => trivial)
    (fun worker event next hstep _ h => isolated_step_iff hstep h) trivial ?_
  intro mac info hinfo
  cases hinfo

end SessionWorker

/-- A session on vlan 10 is followed by a new one, of which `getSessions` reports no vlan. -/
def reauthentication : List SessionWorkerEvent :=
  [.sessionStarts "AA:BB:CC:00:00:01" "A",
    .message
      { mac := "AA:BB:CC:00:00:01", state := "STARTED", auditSessionId := "A", vlan := "10" },
    .sessionStarts "AA:BB:CC:00:00:01" "B",
    .getSessions
      [{ mac := "AA:BB:CC:00:00:01", state := "STARTED", auditSessionId := "B",
         dacl := "PERMIT_ALL" }]]

/-- The answer to `getSessions` gives the new session the vlan of the old one. -/
theorem reconciled_session_keeps_old_vlan :
    ¬ Always (@SessionWorker.step asciiText) (fun worker => Isolated "B" worker.cache)
      SessionWorker.start reauthentication := by
  intro h
  have hentry : ((run (@SessionWorker.step asciiText) SessionWorker.start reauthentication).bind
      fun worker => (worker.cache.get? "AA:BB:CC:00:00:01").map fun info =>
        (info.auditSessionId, info.vlan)) = some ("B", ⟨"10", some "A"⟩) := by
    decide
  obtain ⟨worker, hrun, hinfo⟩ := Option.bind_eq_some_iff.mp hentry
  obtain ⟨info, hcached, hvalues⟩ := Option.map_eq_some_iff.mp hinfo
  have haudit : info.auditSessionId = "B" := congrArg Prod.fst hvalues
  have hvlan : info.vlan = ⟨"10", some "A"⟩ := congrArg Prod.snd hvalues
  rcases (h.last hrun "AA:BB:CC:00:00:01" info hcached haudit).1 with htext | hnone | hown
  · rw [hvlan] at htext
    exact absurd htext (by decide)
  · rw [hvlan] at hnone
    cases hnone
  · rw [hvlan] at hown
    exact absurd hown (by decide)

end IsePortal
