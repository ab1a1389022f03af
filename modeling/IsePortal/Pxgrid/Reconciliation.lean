import IsePortal.Pxgrid.Payloads

/-!
# What a reconciliation leaves in the cache

`_reconcile_from_pxgrid` evicts the addresses `getSessions` does not list and then goes over the
listed ones. It never looks at the state of a session, writes a cached entry again only where
some of its fields have changed, and one session that cannot be read ends the loop.
`reconciliation_reflects_iff` says when the cache reflects the list all the same.
-/

namespace IsePortal

open Library

variable [PyText] [PyJson]

/-- `_reconcile_from_pxgrid` on the sessions as they come: the exception that may end its loop is
only logged. -/
def reconcileSessions (nasDevice : String → String × String) (cache : SessionCache)
    (sessions : List JsonObject) : SessionCache :=
  let pgByMac := sessionsByMac sessionMacOf sessions
  (foldUntil (readEntry (readSession nasDevice))
    (fun entries session =>
      entries.setIfSome session.1 (reconciledEntry cache session.1 session.2))
    (evictOthers cache pgByMac.keys) pgByMac.entries).1

/-! ## What it is for -/

/-- A state in which a session is over. -/
def Ended (state : String) : Prop :=
  let stateUpper := (PyText.upper state).toList
  "DISCONN".toList <:+: stateUpper ∨ "STOPPED".toList <:+: stateUpper ∨
    "TERMINATED".toList <:+: stateUpper

/-- The listed sessions of an address. -/
def listed (sessions : List JsonObject) (mac : String) : List JsonObject :=
  if looksLikeMac mac then sessions.filter fun session => sessionMacOf session = mac else []

/-- The entry is that of the session: a session without a state counts as started. -/
def Carries (info : SessionInfo) (session : JsonObject) : Prop :=
  info.auditSessionId = auditOf session ∧
    orElse info.state "STARTED" = orElse (stateOf session) "STARTED"

/-- The cached addresses are those of the listed sessions that are not over, and every entry is
that of a listed session. -/
def Reflects (sessions : List JsonObject) (cache : SessionCache) : Prop :=
  (∀ mac, mac ∈ cache.keys ↔ ∃ session ∈ listed sessions mac, ¬ Ended (stateOf session)) ∧
    ∀ mac info, cache.get? mac = some info → ∃ session ∈ listed sessions mac, Carries info session

/-! ## When the list is reflected -/

/-- The loop comes to the address: neither the last session listed of it is malformed nor that of
an address listed before. -/
def Reached (sessions : List JsonObject) (mac : String) : Prop :=
  mac ∈ ((sessionsByMac sessionMacOf sessions).entries.takeWhile
    fun entry => decide (WellFormedSession entry.2)).map Prod.fst

/-- The payload has something a cached entry is written again for. -/
def SessionPayload.Refreshes (payload : SessionPayload) (existing : SessionInfo) : Prop :=
  (existing.policySetName = "" ∧ existing.authzProfiles = [] ∧
      (payload.policySetName ≠ "" ∨ payload.authzProfiles ≠ [])) ∨
    (payload.nasDeviceType ≠ "" ∧ existing.nasDeviceType = "") ∨
    (payload.vlan ≠ "" ∧ payload.vlan ≠ existing.vlan.text) ∨
    (payload.dacl ≠ "" ∧ payload.dacl ≠ existing.dacl.text) ∨
    (payload.ctsSecurityGroup ≠ "" ∧
      payload.ctsSecurityGroup ≠ existing.ctsSecurityGroup.text)

/-- Of the sessions of a listed address one is not over, unless the address is neither cached nor
reached; and a cached entry is that of a listed session unless it is written again. -/
def MirrorsAddress (nasDevice : String → String × String) (cache : SessionCache)
    (sessions : List JsonObject) (mac : String) (last : JsonObject) : Prop :=
  ((mac ∈ cache.keys ∨ Reached sessions mac) ↔
      ∃ session ∈ listed sessions mac, ¬ Ended (stateOf session)) ∧
    ∀ existing, cache.get? mac = some existing →
      (∃ session ∈ listed sessions mac, Carries existing session) ∨
        Reached sessions mac ∧
          ∃ payload, readSession nasDevice last = .ok payload ∧ payload.Refreshes existing

omit [PyText] [PyJson] in
theorem changes_orElse_iff (payload : SessionPayload) (text : String) (old : Reading) :
    ((payload.reading text).orElse old).changes old = true ↔ text ≠ "" ∧ text ≠ old.text := by
  unfold Reading.changes Reading.orElse SessionPayload.reading
  by_cases htext : text = ""
  · simp [htext]
  · simp [htext]

omit [PyText] [PyJson] in
theorem refreshesEntry_infoWithMac_iff (mac : String) (payload : SessionPayload)
    (existing : SessionInfo) :
    refreshesEntry (infoWithMac mac payload (some existing)) existing = true ↔
      payload.Refreshes existing := by
  -- where the cached field is empty, the merged one is the field of the payload
  have hdata : ∀ value old : String, old = "" → (orElse value old ≠ "" ↔ value ≠ "") := by
    intro value old hold
    unfold orElse
    split
    · next h => simp [h, hold]
    · next h => simp [h]
  have hdevice : ∀ value : String, (orElse value existing.nasDeviceType ≠ "" ∧
      existing.nasDeviceType = "") ↔ (value ≠ "" ∧ existing.nasDeviceType = "") :=
    fun value => and_congr_left fun hold => hdata value _ hold
  have hpolicy : ((existing.policySetName = "" ∧ existing.authzProfiles = []) ∧
      (orElse payload.policySetName existing.policySetName ≠ "" ∨
        (if payload.authzProfiles = [] then existing.authzProfiles else payload.authzProfiles)
          ≠ [])) ↔
      (existing.policySetName = "" ∧ existing.authzProfiles = [] ∧
        (payload.policySetName ≠ "" ∨ payload.authzProfiles ≠ [])) := by
    rw [and_assoc]
    refine and_congr_right fun hname => and_congr_right fun hprofiles => ?_
    rw [hdata _ _ hname, hprofiles]
    refine or_congr_right ?_
    split
    · next h => simp [h]
    · exact Iff.rfl
  unfold refreshesEntry SessionPayload.Refreshes
  simp only [Bool.or_eq_true, Bool.and_eq_true, decide_eq_true_eq]
  have hfields := or_congr (or_congr
    (changes_orElse_iff payload payload.vlan existing.vlan)
    (changes_orElse_iff payload payload.dacl existing.dacl))
    (changes_orElse_iff payload payload.ctsSecurityGroup existing.ctsSecurityGroup)
  refine (or_congr (or_congr hpolicy (hdevice payload.nasDeviceType)) hfields).trans ?_
  rw [or_assoc, or_assoc]

instance (sessions : List JsonObject) (mac : String) : Decidable (Reached sessions mac) :=
  inferInstanceAs (Decidable (_ ∈ _))

/-- What a reconciliation leaves for an address. -/
theorem get?_reconcileSessions (nasDevice : String → String × String) (cache : SessionCache)
    (sessions : List JsonObject) (mac : String) :
    (reconcileSessions nasDevice cache sessions).get? mac =
      ((sessionsByMac sessionMacOf sessions).get? mac).bind fun last =>
        (if Reached sessions mac then
            (readSession nasDevice last).toOption.bind (reconciledEntry cache mac)
          else none).or (cache.get? mac) := by
  have hreads : (fun entry : String × JsonObject => decide (WellFormedSession entry.2)) =
      fun entry => readsOk (readSession nasDevice) entry.2 := by
    funext entry
    rw [Bool.eq_iff_iff, decide_eq_true_iff, readsOk_iff, reads_readSession_iff]
  have hentries : readsOk (readEntry (readSession nasDevice)) =
      fun entry : String × JsonObject => readsOk (readSession nasDevice) entry.2 :=
    funext readsOk_readEntry
  have hreached : mac ∈ ((sessionsByMac sessionMacOf sessions).entries.takeWhile
      fun entry => readsOk (readSession nasDevice) entry.2).map Prod.fst ↔
      Reached sessions mac := by
    rw [Reached, hreads]
  -- each address is written at most once, so the writes can be looked up one by one
  have hnodup : ((readable (readEntry (readSession nasDevice))
      ((sessionsByMac sessionMacOf sessions).entries.takeWhile
        fun entry => readsOk (readSession nasDevice) entry.2)).map Prod.fst).Nodup :=
    (sessionsByMac sessionMacOf sessions).nodup.sublist
      ((keys_readable_sublist _).trans ((List.takeWhile_sublist _).map Prod.fst))
  rw [reconcileSessions, foldUntil_fst, hentries,
    Dict.get?_foldl_setIfSome (reconciledEntry cache) _ _ mac hnodup, lookup_readable_takeWhile,
    get?_evictOthers, if_congr hreached rfl rfl]
  cases hlast : (sessionsByMac sessionMacOf sessions).get? mac with
  | none =>
      have hlookup : (sessionsByMac sessionMacOf sessions).entries.lookup mac = none := hlast
      rw [if_neg (Dict.get?_eq_none_iff.mp hlast), hlookup, Option.bind_none, ite_self]
      rfl
  | some last =>
      have hlookup : (sessionsByMac sessionMacOf sessions).entries.lookup mac = some last := hlast
      rw [if_pos (Dict.mem_keys_iff.mpr ⟨last, hlast⟩), hlookup]
      split
      · rfl
      · rfl

/-- The addresses of the list are those of its sessions. -/
theorem exists_last_iff (sessions : List JsonObject) (mac : String) :
    (∃ last, (sessionsByMac sessionMacOf sessions).get? mac = some last) ↔
      listed sessions mac ≠ [] := by
  rw [get?_sessionsByMac, listed]
  cases looksLikeMac mac with
  | false => simp
  | true => simp [List.find?_isSome, ← Option.isSome_iff_exists]

theorem mem_listed_of_last {sessions : List JsonObject} {mac : String} {last : JsonObject}
    (h : (sessionsByMac sessionMacOf sessions).get? mac = some last) :
    last ∈ listed sessions mac := by
  obtain ⟨hmem, hmac, hvalid⟩ := mem_of_get?_sessionsByMac h
  rw [listed, if_pos hvalid, List.mem_filter]
  exact ⟨hmem, decide_eq_true hmac⟩

/-- An entry written for an address is that of its session. -/
theorem carries_infoWithMac {nasDevice : String → String × String} {last : JsonObject}
    {payload : SessionPayload} (hread : readSession nasDevice last = .ok payload) (mac : String)
    (existing : Option SessionInfo) : Carries (infoWithMac mac payload existing) last := by
  unfold readSession at hread
  dsimp only at hread
  cases haddress : framedIp last with
  | error raised =>
      rw [haddress] at hread
      cases hread
  | ok address =>
      rw [haddress] at hread
      cases hread
      refine ⟨rfl, ?_⟩
      show orElse (orElse (stateOf last) "STARTED") "STARTED" = _
      unfold orElse
      split
      · rfl
      · rfl

theorem mac_of_readSession {nasDevice : String → String × String} {d : JsonObject}
    {payload : SessionPayload} (hread : readSession nasDevice d = .ok payload) :
    payload.mac = sessionMacOf d := by
  unfold readSession at hread
  dsimp only at hread
  cases haddress : framedIp d with
  | error raised =>
      rw [haddress] at hread
      cases hread
  | ok address =>
      rw [haddress] at hread
      cases hread
      rfl

/-- Where every session can be read, the last one of an address is read last of its payloads. -/
theorem get?_sessionsByMac_readable (nasDevice : String → String × String)
    {sessions : List JsonObject} (h : ∀ session ∈ sessions, WellFormedSession session)
    (mac : String) :
    (sessionsByMac SessionPayload.mac (readable (readSession nasDevice) sessions)).get? mac =
      ((sessionsByMac sessionMacOf sessions).get? mac).bind
        fun last => (readSession nasDevice last).toOption := by
  have hfind : ∀ listed : List JsonObject, (∀ session ∈ listed, WellFormedSession session) →
      (readable (readSession nasDevice) listed).find? (fun payload => payload.mac = mac) =
        (listed.find? fun session => sessionMacOf session = mac).bind
          fun last => (readSession nasDevice last).toOption := by
    intro listed hlisted
    -- the last session of an address is the first of the reversed list
    induction listed with
    | nil => rfl
    | cons session rest ih =>
        obtain ⟨hsession, hrest⟩ := List.forall_mem_cons.mp hlisted
        obtain ⟨payload, hread⟩ := (reads_readSession_iff nasDevice session).mpr hsession
        have hvalue : (readSession nasDevice session).toOption = some payload := by
          rw [hread]
          rfl
        rw [readable, List.filterMap_cons, hvalue, List.find?_cons, List.find?_cons,
          mac_of_readSession hread]
        cases decide (sessionMacOf session = mac) with
        | true => exact hvalue.symm
        | false => exact ih hrest
  have hreverse : (readable (readSession nasDevice) sessions).reverse =
      readable (readSession nasDevice) sessions.reverse :=
    (List.filterMap_reverse ..).symm
  rw [get?_sessionsByMac, get?_sessionsByMac, hreverse,
    hfind _ fun session hmem => h session (List.mem_reverse.mp hmem)]
  split
  · rfl
  · rfl

/-- The session of an address the loop comes to can be read. -/
theorem exists_payload_of_reached (nasDevice : String → String × String)
    {sessions : List JsonObject} {mac : String} {last : JsonObject}
    (hlast : (sessionsByMac sessionMacOf sessions).get? mac = some last)
    (hreached : Reached sessions mac) : ∃ payload, readSession nasDevice last = .ok payload := by
  obtain ⟨entry, hentry, rfl⟩ := List.mem_map.mp hreached
  have hwell : decide (WellFormedSession entry.2) = true :=
    List.mem_takeWhile_imp
      (p := fun entry : String × JsonObject => decide (WellFormedSession entry.2)) hentry
  have hget : (sessionsByMac sessionMacOf sessions).get? entry.1 = some entry.2 :=
    Dict.get?_eq_some_iff.mpr ((List.takeWhile_sublist _).subset hentry)
  rw [hlast] at hget
  cases hget
  exact (reads_readSession_iff nasDevice entry.2).mpr (of_decide_eq_true hwell)

/-- The entry of an address the loop does not come to stays as it is. -/
theorem get?_of_not_reached {nasDevice : String → String × String} {cache : SessionCache}
    {sessions : List JsonObject} {mac : String} {last : JsonObject}
    (hlast : (sessionsByMac sessionMacOf sessions).get? mac = some last)
    (hreached : ¬ Reached sessions mac) :
    (reconcileSessions nasDevice cache sessions).get? mac = cache.get? mac := by
  rw [get?_reconcileSessions, hlast, Option.bind_some, if_neg hreached, Option.none_or]

/-- An address the loop comes to has its entry seeded, written again or kept. -/
theorem get?_of_reached {nasDevice : String → String × String} {cache : SessionCache}
    {sessions : List JsonObject} {mac : String} {last : JsonObject} {payload : SessionPayload}
    (hlast : (sessionsByMac sessionMacOf sessions).get? mac = some last)
    (hreached : Reached sessions mac) (hread : readSession nasDevice last = .ok payload) :
    (reconcileSessions nasDevice cache sessions).get? mac =
      some (match cache.get? mac with
        | none => infoWithMac mac payload none
        | some existing =>
            if refreshesEntry (infoWithMac mac payload (some existing)) existing then
              infoWithMac mac payload (some existing)
            else existing) := by
  rw [get?_reconcileSessions, hlast, Option.bind_some, if_pos hreached, hread]
  show (reconciledEntry cache mac payload).or (cache.get? mac) = _
  unfold reconciledEntry
  cases cache.get? mac with
  | none => rfl
  | some existing =>
      dsimp only
      split
      · rfl
      · rfl

/-- For a listed address: it is cached afterwards where it was cached or is reached, and its entry
is that of a listed session where it was so before or is written. -/
theorem mirrorsAddress_iff (nasDevice : String → String × String) (cache : SessionCache)
    {sessions : List JsonObject} {mac : String} {last : JsonObject}
    (hlast : (sessionsByMac sessionMacOf sessions).get? mac = some last) :
    (((∃ info, (reconcileSessions nasDevice cache sessions).get? mac = some info) ↔
          ∃ session ∈ listed sessions mac, ¬ Ended (stateOf session)) ∧
        ∀ info, (reconcileSessions nasDevice cache sessions).get? mac = some info →
          ∃ session ∈ listed sessions mac, Carries info session) ↔
      MirrorsAddress nasDevice cache sessions mac last := by
  unfold MirrorsAddress
  rw [Dict.mem_keys_iff]
  by_cases hreached : Reached sessions mac
  · obtain ⟨payload, hread⟩ := exists_payload_of_reached nasDevice hlast hreached
    have hcarries : ∀ existing, ∃ session ∈ listed sessions mac,
        Carries (infoWithMac mac payload existing) session := fun existing =>
      ⟨last, mem_listed_of_last hlast, carries_infoWithMac hread mac existing⟩
    rw [get?_of_reached hlast hreached hread]
    simp only [hreached, hread, or_true, true_and, Except.ok.injEq, exists_eq_left',
      Option.some.injEq, exists_eq', forall_eq']
    refine and_congr_right fun _ => ?_
    cases cache.get? mac with
    | none => exact iff_of_true (hcarries none) fun existing h => by cases h
    | some existing =>
        simp only [Option.some.injEq, forall_eq']
        rw [← refreshesEntry_infoWithMac_iff mac payload existing]
        -- a cached entry that is not written again keeps the session it had
        split
        · next hrefreshes => exact iff_of_true (hcarries (some existing)) (.inr hrefreshes)
        · next hkept => rw [or_iff_left hkept]
  · rw [get?_of_not_reached hlast hreached]
    simp only [hreached, or_false, false_and]

/-- After a reconciliation the cached addresses are those of the listed sessions that are not over,
each with the entry of a listed session, exactly when every listed address is mirrored. -/
theorem reconciliation_reflects_iff (nasDevice : String → String × String)
    (cache : SessionCache) (sessions : List JsonObject) :
    Reflects sessions (reconcileSessions nasDevice cache sessions) ↔
      ∀ mac last, (sessionsByMac sessionMacOf sessions).get? mac = some last →
        MirrorsAddress nasDevice cache sessions mac last := by
  unfold Reflects
  rw [← forall_and]
  refine forall_congr' fun mac => ?_
  rw [Dict.mem_keys_iff]
  cases hlast : (sessionsByMac sessionMacOf sessions).get? mac with
  | none =>
      have hlisted : listed sessions mac = [] := by
        by_contra hne
        obtain ⟨last, hsome⟩ := (exists_last_iff sessions mac).mpr hne
        rw [hlast] at hsome
        cases hsome
      have hafter : (reconcileSessions nasDevice cache sessions).get? mac = none := by
        rw [get?_reconcileSessions, hlast, Option.bind_none]
      rw [hafter, hlisted]
      refine iff_of_true ⟨?_, fun info h => by cases h⟩ fun last h => by cases h
      exact iff_of_false (fun ⟨_, h⟩ => by cases h) fun ⟨_, h, _⟩ => by cases h
  | some last =>
      simp only [Option.some.injEq, forall_eq']
      exact mirrorsAddress_iff nasDevice cache hlast

/-- A list without a malformed session is reconciled as `reconcileFromPxgrid` reconciles its
payloads. -/
theorem reconcileSessions_of_wellFormed (nasDevice : String → String × String)
    (cache : SessionCache) {sessions : List JsonObject}
    (h : ∀ session ∈ sessions, WellFormedSession session) (mac : String) :
    (reconcileSessions nasDevice cache sessions).get? mac =
      (reconcileFromPxgrid cache (readable (readSession nasDevice) sessions)).get? mac := by
  have hentries : ∀ entry ∈ (sessionsByMac sessionMacOf sessions).entries,
      WellFormedSession entry.2 := by
    intro entry hentry
    have hget : (sessionsByMac sessionMacOf sessions).get? entry.1 = some entry.2 :=
      Dict.get?_eq_some_iff.mpr hentry
    exact h entry.2 (mem_of_get?_sessionsByMac hget).1
  have hall : (sessionsByMac sessionMacOf sessions).entries.takeWhile
      (fun entry => decide (WellFormedSession entry.2)) =
      (sessionsByMac sessionMacOf sessions).entries :=
    List.takeWhile_eq_self_iff.mpr fun entry hentry => decide_eq_true (hentries entry hentry)
  unfold reconcileFromPxgrid
  dsimp only
  rw [get?_reconcile cache _ (reconciledEntry cache), get?_sessionsByMac_readable nasDevice h,
    get?_reconcileSessions]
  cases hlast : (sessionsByMac sessionMacOf sessions).get? mac with
  | none => rfl
  | some last =>
      have hreached : Reached sessions mac := by
        rw [Reached, hall]
        exact Dict.mem_keys_iff.mpr ⟨last, hlast⟩
      obtain ⟨payload, hread⟩ := exists_payload_of_reached nasDevice hlast hreached
      rw [Option.bind_some, Option.bind_some, if_pos hreached, hread]
      rfl

/-! ## A session that is over -/

/-- The answer to `getSessions` lists a session that has been disconnected. -/
def disconnectedSession : List JsonObject :=
  [[("macAddress", .str "AA:BB:CC:00:00:01"), ("state", .str "DISCONNECTED"),
    ("auditSessionId", .str "A")]]

/-- `str` on texts; nothing is parsed here. -/
@[reducible] def plainTexts : PyJson := .ofLoads fun _ => .error .jsonDecodeError

omit [PyText] [PyJson] in
/-- It is reconciled as its payload. -/
theorem disconnected_session_read :
    (@reconcileSessions asciiText plainTexts (fun _ => ("", "")) Dict.empty
      disconnectedSession).get? "AA:BB:CC:00:00:01" =
    (reconcileFromPxgrid Dict.empty (readable
      (@readSession asciiText plainTexts fun _ => ("", "")) disconnectedSession)).get?
        "AA:BB:CC:00:00:01" :=
  @reconcileSessions_of_wellFormed asciiText plainTexts (fun _ => ("", "")) Dict.empty
    disconnectedSession (by decide) "AA:BB:CC:00:00:01"

omit [PyText] [PyJson] in
/-- It is seeded all the same. -/
theorem disconnected_session_seeded :
    ¬ @Reflects asciiText plainTexts disconnectedSession
      (@reconcileSessions asciiText plainTexts (fun _ => ("", "")) Dict.empty
        disconnectedSession) := by
  rintro ⟨haddresses, -⟩
  have hcached : "AA:BB:CC:00:00:01" ∈ (@reconcileSessions asciiText plainTexts
      (fun _ => ("", "")) Dict.empty disconnectedSession).keys := by
    decide
  obtain ⟨session, hlisted, hopen⟩ := (haddresses _).mp hcached
  have hover : ∀ session ∈ @listed asciiText plainTexts disconnectedSession
      "AA:BB:CC:00:00:01", @stateOf plainTexts session = "DISCONNECTED" := by
    decide
  rw [hover session hlisted] at hopen
  exact hopen (.inl (by decide))

end IsePortal
