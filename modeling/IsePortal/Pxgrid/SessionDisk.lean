import IsePortal.Library.Aborting
import IsePortal.Library.Dict
import IsePortal.Platform.Json
import IsePortal.Pxgrid.SessionCache
import Mathlib.Data.List.ReduceOption

/-!
# The session cache on disk

`save_to_disk` writes every field of an entry but `raw`; `load_from_disk` reads the fields it
lists by hand. It takes the items of the file one after the other into the cache, whatever is
cached, and the first item it cannot read ends the loop. The theorems say what a file is restored
to and `session_disk_iff` when that is what the file and the cache hold.
-/

namespace IsePortal

open Library

/-- The fields of `SessionInfo` besides `mac` and `raw`, in the order of the class. -/
inductive SessionField where
  | state
  | auditSessionId
  | nasIp
  | userName
  | policySetName
  | authzProfiles
  | authzRuleName
  | useCase
  | nasName
  | nasDeviceType
  | framedIp
  | lastEventAt
  | endpointPolicy
  | dacl
  | vlan
  | ctsSecurityGroup
  | identityGroup
  | authMethod
  deriving DecidableEq

namespace SessionField

def all : List SessionField :=
  [state, auditSessionId, nasIp, userName, policySetName, authzProfiles, authzRuleName, useCase,
    nasName, nasDeviceType, framedIp, lastEventAt, endpointPolicy, dacl, vlan, ctsSecurityGroup,
    identityGroup, authMethod]

/-- The key of the field in the file. -/
def key : SessionField → String
  | state => "state"
  | auditSessionId => "audit_session_id"
  | nasIp => "nas_ip"
  | userName => "user_name"
  | policySetName => "policy_set_name"
  | authzProfiles => "authz_profiles"
  | authzRuleName => "authz_rule_name"
  | useCase => "use_case"
  | nasName => "nas_name"
  | nasDeviceType => "nas_device_type"
  | framedIp => "framed_ip"
  | lastEventAt => "last_event_at"
  | endpointPolicy => "endpoint_policy"
  | dacl => "dacl"
  | vlan => "vlan"
  | ctsSecurityGroup => "cts_security_group"
  | identityGroup => "identity_group"
  | authMethod => "auth_method"

/-- What `load_from_disk` takes where an item has no such key. -/
def default : SessionField → Json
  | authzProfiles => .arr []
  | lastEventAt => .num 0
  | _ => .str ""

end SessionField

/-- The fields of an entry. A file may bring any JSON value into them. -/
abbrev StoredSession := SessionField → Json

/-- `_sessions` -/
abbrev SessionStore := Dict String StoredSession

namespace StoredSession

/-- `to_dict` -/
def toDict (mac : String) (session : StoredSession) : Json :=
  .obj (("mac", .str mac) :: SessionField.all.map fun field => (field.key, session field))

/-- The entry `load_from_disk` makes of an item: it does not look for `framed_ip`. -/
def ofItem (item : JsonObject) : StoredSession
  | .framedIp => .str ""
  | field => item.getD field.key field.default

end StoredSession

/-- What `save_to_disk` writes. -/
def saveToDisk (now : Time) (cache : SessionStore) : Json :=
  .obj [("version", .num 1), ("saved_at", .num now),
    ("sessions", .arr (cache.entries.map fun entry => StoredSession.toDict entry.1 entry.2))]

variable [PyText]

/-- `_norm` on a JSON value. -/
def normOf (mac : Json) : Except PyError String :=
  if mac.truthy then
    match mac with
    | .str text => .ok (SessionCache.norm text)
    | _ => .error .attributeError
  else .ok (SessionCache.norm "")

/-- An entry that had no event for longer than the limit. -/
def isExpired (now maxAge : Time) : Option Time → Bool
  | some lastEvent => decide (0 < lastEvent ∧ now - lastEvent > maxAge)
  | none => false

/-- One object of the file; `none` where it is left out. `float` is `float(value)`, with `none`
where the result is no finite number: that is never too old. -/
def restoreObject (float : Json → Except PyError (Option Time)) (now maxAge : Time)
    (item : JsonObject) : Except PyError (Option (String × StoredSession)) := do
  let mac ← normOf (item.getD "mac" (.str ""))
  -- without a limit, the time of the last event is not even read
  if mac = "" then pure none
  else if 0 < maxAge then
    let lastEvent ← float ((item.getD "last_event_at" .null).or (.num 0))
    pure (if isExpired now maxAge lastEvent then none else some (mac, StoredSession.ofItem item))
  else pure (some (mac, StoredSession.ofItem item))

/-- One item of the file. -/
def restoreItem (float : Json → Except PyError (Option Time)) (now maxAge : Time) :
    Json → Except PyError (Option (String × StoredSession))
  | .obj item => restoreObject float now maxAge item
  | _ => .error .attributeError

/-- `data.get("sessions", [])` of a file. Without a file, without JSON in it or with anything but a
list there, nothing is restored: what else can be iterated gives texts. -/
def itemsOnDisk : Except PyError Json → List Json
  | .ok (.obj data) =>
      match JsonObject.getD data "sessions" (.arr []) with
      | .arr items => items
      | _ => []
  | _ => []

/-- What the loop does with an item it has read: the cache and the number of loaded entries. -/
def addRestored (state : SessionStore × Nat) :
    Option (String × StoredSession) → SessionStore × Nat
  | none => state
  | some (mac, session) => (state.1.set mac session, state.2 + 1)

/-- `load_from_disk`: the exception that may end the loop is only logged, but the count is lost. -/
def loadFromDisk (float : Json → Except PyError (Option Time)) (now maxAge : Time)
    (file : Except PyError Json) (cache : SessionStore) : SessionStore × Nat :=
  let loop := foldUntil (restoreItem float now maxAge) addRestored (cache, 0) (itemsOnDisk file)
  (loop.1.1, if loop.2 = none then loop.1.2 else 0)

/-! ## What a file is restored to -/

/-- The entries the items are restored to, whatever stands between them. -/
def restorable (float : Json → Except PyError (Option Time)) (now maxAge : Time)
    (items : List Json) : List (String × StoredSession) :=
  (readable (restoreItem float now maxAge) items).reduceOption

/-- The items before the first malformed one. -/
def wholeItems (float : Json → Except PyError (Option Time)) (now maxAge : Time)
    (items : List Json) : List Json :=
  items.takeWhile (readsOk (restoreItem float now maxAge))

/-- The items from the first malformed one on. -/
def lostItems (float : Json → Except PyError (Option Time)) (now maxAge : Time)
    (items : List Json) : List Json :=
  items.dropWhile (readsOk (restoreItem float now maxAge))

omit [PyText] in
theorem foldl_addRestored (entries : List (Option (String × StoredSession)))
    (state : SessionStore × Nat) :
    (entries.foldl addRestored state).1 =
      entries.reduceOption.foldl (fun cache entry => cache.set entry.1 entry.2) state.1 := by
  induction entries generalizing state with
  | nil => rfl
  | cons entry rest ih =>
      cases entry with
      | none => exact ih state
      | some restored => exact ih _

variable {float : Json → Except PyError (Option Time)} {now maxAge : Time}

/-- After loading, an address has the entry of its last item before the first malformed one. -/
theorem get?_loadFromDisk (file : Except PyError Json) (cache : SessionStore) (mac : String) :
    (loadFromDisk float now maxAge file cache).1.get? mac =
      ((restorable float now maxAge (wholeItems float now maxAge (itemsOnDisk file))).reverse.lookup
        mac).or (cache.get? mac) := by
  unfold loadFromDisk restorable wholeItems
  dsimp only
  rw [foldUntil_fst, foldl_addRestored]
  exact Dict.get?_foldl_set_last _ cache mac

theorem restorable_append (items : List Json) :
    restorable float now maxAge items =
      restorable float now maxAge (wholeItems float now maxAge items) ++
        restorable float now maxAge (lostItems float now maxAge items) := by
  unfold restorable
  rw [← List.reduceOption_append, ← readable_append, wholeItems, lostItems,
    List.takeWhile_append_dropWhile]

/-! ## A cache that was saved -/

/-- The addresses are in the form `_norm` gives them, under which `upsert` stores. -/
def NormalKeys (cache : SessionStore) : Prop :=
  ∀ mac ∈ cache.keys, SessionCache.norm mac = mac ∧ mac ≠ ""

/-- `upsert` -/
def upsert (cache : SessionStore) (mac : String) (session : StoredSession) : SessionStore :=
  if SessionCache.norm mac = "" then cache else cache.set (SessionCache.norm mac) session

theorem normalKeys_set {cache : SessionStore} {mac : String} (h : NormalKeys cache)
    (hnorm : SessionCache.norm mac = mac) (hmac : mac ≠ "") (session : StoredSession) :
    NormalKeys (cache.set mac session) := by
  intro other hother
  obtain ⟨stored, hstored⟩ := Dict.mem_keys_iff.mp hother
  by_cases heq : other = mac
  · subst heq
    exact ⟨hnorm, hmac⟩
  · rw [Dict.get?_set_ne _ _ heq] at hstored
    exact h other (Dict.mem_keys_iff.mpr ⟨stored, hstored⟩)

section Normalizing

variable (hidem : ∀ mac, SessionCache.norm (SessionCache.norm mac) = SessionCache.norm mac)

include hidem

/-- Addresses are normalized before they are stored. -/
theorem normalKeys_upsert {cache : SessionStore} (h : NormalKeys cache) (mac : String)
    (session : StoredSession) : NormalKeys (upsert cache mac session) := by
  unfold upsert
  split
  · exact h
  · next hmac => exact normalKeys_set h (hidem mac) hmac session

theorem normal_of_restoreItem {item : Json} {mac : String} {session : StoredSession}
    (hread : restoreItem float now maxAge item = .ok (some (mac, session))) :
    SessionCache.norm mac = mac ∧ mac ≠ "" := by
  have hnormOf : ∀ value text, normOf value = .ok text → SessionCache.norm text = text := by
    intro value text htext
    unfold normOf at htext
    split at htext
    · split at htext
      · cases htext
        exact hidem _
      · cases htext
    · cases htext
      exact hidem _
  cases item with
  | obj fields =>
      change restoreObject float now maxAge fields = _ at hread
      unfold restoreObject at hread
      cases hmac : normOf (JsonObject.getD fields "mac" (.str "")) with
      | error raised =>
          rw [hmac] at hread
          cases hread
      | ok text =>
          rw [hmac] at hread
          change (if text = "" then _ else _) = _ at hread
          split at hread
          · cases hread
          · next hne =>
              have hfound : mac = text := by
                split at hread
                · cases hfloat : float ((JsonObject.getD fields "last_event_at" .null).or
                      (.num 0)) with
                  | error raised =>
                      rw [hfloat] at hread
                      cases hread
                  | ok lastEvent =>
                      rw [hfloat] at hread
                      change Except.ok (if isExpired now maxAge lastEvent then _ else _) = _
                        at hread
                      split at hread
                      · cases hread
                      · cases hread
                        rfl
                · cases hread
                  rfl
              subst hfound
              exact ⟨hnormOf _ _ hmac, hne⟩
  | _ => cases hread

/-- Loading keeps the addresses in their form. -/
theorem normalKeys_loadFromDisk {cache : SessionStore} (h : NormalKeys cache)
    (file : Except PyError Json) :
    NormalKeys (loadFromDisk float now maxAge file cache).1 := by
  intro mac hmem
  obtain ⟨session, hsession⟩ := Dict.mem_keys_iff.mp hmem
  rw [get?_loadFromDisk] at hsession
  -- what the address has comes from the cache or from an item that was read
  cases hrestored : (restorable float now maxAge
      (wholeItems float now maxAge (itemsOnDisk file))).reverse.lookup mac with
  | none =>
      rw [hrestored, Option.none_or] at hsession
      exact h mac (Dict.mem_keys_iff.mpr ⟨session, hsession⟩)
  | some restored =>
      have hentry := List.mem_reverse.mp (Dict.mem_of_lookup_eq_some hrestored)
      obtain ⟨item, _, hitem⟩ := List.mem_filterMap.mp (List.reduceOption_mem_iff.mp hentry)
      cases hread : restoreItem float now maxAge item with
      | error raised =>
          rw [hread] at hitem
          cases hitem
      | ok value =>
          rw [hread] at hitem
          cases hitem
          exact normal_of_restoreItem hidem hread

end Normalizing

omit [PyText] in
/-- What an entry is read back as. -/
def StoredSession.reread (session : StoredSession) : StoredSession
  | .framedIp => .str ""
  | field => session field

omit [PyText] in
theorem ofItem_toDict (mac : String) (session : StoredSession) :
    StoredSession.ofItem
        (("mac", .str mac) :: SessionField.all.map fun field => (field.key, session field)) =
      session.reread := by
  funext field
  cases field <;> rfl

theorem restoreItem_toDict {mac : String} (hnorm : SessionCache.norm mac = mac) (hmac : mac ≠ "")
    (session : StoredSession) :
    restoreItem float now 0 (session.toDict mac) = .ok (some (mac, session.reread)) := by
  have hread : normOf (.str mac) = .ok mac := by
    have htruthy : (Json.str mac).truthy = true := decide_eq_true hmac
    rw [normOf, if_pos htruthy, hnorm]
  show restoreObject float now 0 _ = _
  unfold restoreObject
  show (normOf (.str mac) >>= _) = _
  rw [hread]
  show (if mac = "" then _ else _) = _
  rw [if_neg hmac, if_neg (by decide), ofItem_toDict]
  rfl

/-- A saved cache is read back entry by entry. -/
theorem get?_load_save {cache : SessionStore} (hnormal : NormalKeys cache) (saved : Time)
    (mac : String) :
    (loadFromDisk float now 0 (.ok (saveToDisk saved cache)) Dict.empty).1.get? mac =
      (cache.get? mac).map StoredSession.reread := by
  have hitems : itemsOnDisk (.ok (saveToDisk saved cache)) =
      cache.entries.map fun entry => StoredSession.toDict entry.1 entry.2 := rfl
  have hread : ∀ entry ∈ cache.entries,
      restoreItem float now 0 (StoredSession.toDict entry.1 entry.2) =
        .ok (some (entry.1, entry.2.reread)) := by
    intro entry hentry
    obtain ⟨hnorm, hmac⟩ := hnormal entry.1 (List.mem_map_of_mem hentry)
    exact restoreItem_toDict hnorm hmac entry.2
  have hreadable : readable (restoreItem float now 0)
      (cache.entries.map fun entry => StoredSession.toDict entry.1 entry.2) =
        cache.entries.map fun entry => some (entry.1, entry.2.reread) := by
    rw [readable, List.filterMap_map, ← List.filterMap_eq_map]
    refine List.filterMap_congr fun entry hentry => ?_
    rw [Function.comp, hread entry hentry]
    rfl
  have hreads : ∀ item ∈ cache.entries.map fun entry => StoredSession.toDict entry.1 entry.2,
      Reads (restoreItem float now 0) item := by
    rintro item hitem
    obtain ⟨entry, hentry, rfl⟩ := List.mem_map.mp hitem
    exact ⟨_, hread entry hentry⟩
  unfold loadFromDisk
  dsimp only
  rw [hitems, foldUntil_fst_of_reads _ hreads, hreadable, foldl_addRestored]
  have hentries : (cache.entries.map fun entry =>
      some (entry.1, entry.2.reread)).reduceOption =
        (cache.mapValues StoredSession.reread).entries := by
    rw [List.reduceOption, List.filterMap_map]
    exact congrFun List.filterMap_eq_map' cache.entries
  rw [hentries, Dict.get?_foldl_set _ _ mac (cache.mapValues StoredSession.reread).nodup,
    Dict.get?_empty, Option.or_none]
  exact Dict.get?_mapValues cache StoredSession.reread mac

/-! ## The three promises -/

/-- The cache is read back as it was saved. -/
def RoundTrips (float : Json → Except PyError (Option Time)) (saved now : Time)
    (cache : SessionStore) : Prop :=
  ∀ mac, (loadFromDisk float now 0 (.ok (saveToDisk saved cache)) Dict.empty).1.get? mac =
    cache.get? mac

omit [PyText] in
/-- No entry is older than the one the address had before. -/
def NoneOlder (cache loaded : SessionStore) : Prop :=
  ∀ mac before, cache.get? mac = some before → ∀ after, loaded.get? mac = some after →
    (after .lastEventAt).lt (before .lastEventAt) = false

omit [PyText] in
/-- Every address has the entry of the last item it could be restored from. -/
def AllRestored (entries : List (String × StoredSession)) (loaded : SessionStore) : Prop :=
  ∀ mac session, entries.reverse.lookup mac = some session → loaded.get? mac = some session

omit [PyText] in
theorem reread_eq_iff (session : StoredSession) :
    session.reread = session ↔ session .framedIp = .str "" := by
  constructor
  · intro h
    exact (congrFun h .framedIp).symm
  · intro h
    funext field
    by_cases hfield : field = .framedIp
    · rw [hfield, h]
      rfl
    · cases field with
      | framedIp => exact absurd rfl hfield
      | _ => rfl

theorem roundTrips_iff {cache : SessionStore} (hnormal : NormalKeys cache) (saved : Time) :
    RoundTrips float saved now cache ↔
      ∀ mac session, cache.get? mac = some session → session .framedIp = .str "" := by
  refine forall_congr' fun mac => ?_
  rw [get?_load_save hnormal]
  cases cache.get? mac with
  | none => exact iff_of_true rfl fun session h => by cases h
  | some session =>
      simp only [Option.map_some, Option.some.injEq, forall_eq']
      exact reread_eq_iff session

theorem noneOlder_iff (file : Except PyError Json) (cache : SessionStore) :
    NoneOlder cache (loadFromDisk float now maxAge file cache).1 ↔
      ∀ mac before, cache.get? mac = some before → ∀ after,
        (restorable float now maxAge
            (wholeItems float now maxAge (itemsOnDisk file))).reverse.lookup mac = some after →
          (after .lastEventAt).lt (before .lastEventAt) = false := by
  refine forall₂_congr fun mac before => forall_congr' fun hbefore => ?_
  rw [get?_loadFromDisk, hbefore]
  cases (restorable float now maxAge
      (wholeItems float now maxAge (itemsOnDisk file))).reverse.lookup mac with
  | none =>
      refine iff_of_true (fun after h => ?_) fun after h => by cases h
      cases h
      exact Json.lt_self _
  | some restored => exact Iff.rfl

theorem allRestored_iff (file : Except PyError Json) (cache : SessionStore) :
    AllRestored (restorable float now maxAge (itemsOnDisk file))
        (loadFromDisk float now maxAge file cache).1 ↔
      ∀ mac session,
        (restorable float now maxAge
            (lostItems float now maxAge (itemsOnDisk file))).reverse.lookup mac = some session →
          ((restorable float now maxAge
              (wholeItems float now maxAge (itemsOnDisk file))).reverse.lookup mac).or
            (cache.get? mac) = some session := by
  refine forall₂_congr fun mac session => ?_
  rw [get?_loadFromDisk, restorable_append, List.reverse_append, List.lookup_append]
  cases (restorable float now maxAge
      (lostItems float now maxAge (itemsOnDisk file))).reverse.lookup mac with
  | some lost => exact Iff.rfl
  | none =>
      refine iff_of_true (fun h => ?_) fun h => by cases h
      rw [Option.none_or] at h
      rw [h, Option.some_or]

/-- A saved cache is read back exactly when no entry has the address of its client; loading leaves
no entry older exactly when no item that is restored is older than the cached entry of its
address; and every well-formed item is restored exactly when those after a malformed one tell
nothing new. -/
theorem session_disk_iff (float : Json → Except PyError (Option Time)) (saved now maxAge : Time)
    (cache : SessionStore) (hnormal : NormalKeys cache) (file : Except PyError Json) :
    (RoundTrips float saved now cache ↔
        ∀ mac session, cache.get? mac = some session → session .framedIp = .str "") ∧
      (NoneOlder cache (loadFromDisk float now maxAge file cache).1 ↔
        ∀ mac before, cache.get? mac = some before → ∀ after,
          (restorable float now maxAge
              (wholeItems float now maxAge (itemsOnDisk file))).reverse.lookup mac = some after →
            (after .lastEventAt).lt (before .lastEventAt) = false) ∧
      (AllRestored (restorable float now maxAge (itemsOnDisk file))
          (loadFromDisk float now maxAge file cache).1 ↔
        ∀ mac session,
          (restorable float now maxAge
              (lostItems float now maxAge (itemsOnDisk file))).reverse.lookup mac = some session →
            ((restorable float now maxAge
                (wholeItems float now maxAge (itemsOnDisk file))).reverse.lookup mac).or
              (cache.get? mac) = some session) :=
  ⟨roundTrips_iff hnormal saved, noneOlder_iff file cache, allRestored_iff file cache⟩

/-! ## A session with the address of its client -/

/-- An entry as the worker has it, and when its last event was. -/
def SessionInfo.stored (info : SessionInfo) (lastEventAt : Time) : StoredSession
  | .state => .str info.state
  | .auditSessionId => .str info.auditSessionId
  | .nasIp => .str info.nasIp
  | .userName => .str info.userName
  | .policySetName => .str info.policySetName
  | .authzProfiles => .arr (info.authzProfiles.map Json.str)
  | .authzRuleName => .str info.authzRuleName
  | .useCase => .str info.useCase
  | .nasName => .str info.nasName
  | .nasDeviceType => .str info.nasDeviceType
  | .framedIp => .str info.framedIp
  | .lastEventAt => .num lastEventAt
  | .endpointPolicy => .str info.endpointPolicy
  | .dacl => .str info.dacl.text
  | .vlan => .str info.vlan.text
  | .ctsSecurityGroup => .str info.ctsSecurityGroup.text
  | .identityGroup => .str info.identityGroup
  | .authMethod => .str info.authMethod

omit [PyText] in
/-- Of the worker's entries those without the address of their client are read back. -/
theorem reread_stored_iff (info : SessionInfo) (lastEventAt : Time) :
    (info.stored lastEventAt).reread = info.stored lastEventAt ↔ info.framedIp = "" := by
  rw [reread_eq_iff]
  exact Json.str.injEq .. ▸ Iff.rfl

/-- A cache with one session. -/
def oneSession (framedIp : String) : SessionStore :=
  Dict.empty.set "AA:BB:CC:00:00:01"
    (({ mac := "AA:BB:CC:00:00:01", state := "STARTED", framedIp := framedIp } :
      SessionInfo).stored 5)

omit [PyText] in
theorem normalKeys_oneSession (framedIp : String) :
    @NormalKeys asciiText (oneSession framedIp) := by
  intro mac hmem
  have hmac : mac = "AA:BB:CC:00:00:01" := List.mem_singleton.mp hmem
  subst hmac
  exact ⟨by decide, by decide⟩

omit [PyText] in
theorem session_disk_without_address :
    @RoundTrips asciiText (fun _ => .ok (some 0)) 10 20 (oneSession "") := by
  refine (@session_disk_iff asciiText _ 10 20 0 _ (normalKeys_oneSession "")
    (.error .jsonDecodeError)).1.mpr ?_
  intro mac session hget
  have hmem := Dict.get?_eq_some_iff.mp hget
  cases List.mem_singleton.mp hmem
  rfl

omit [PyText] in
/-- The address of the client is written and not read back. -/
theorem session_disk_loses_framed_ip :
    ¬ @RoundTrips asciiText (fun _ => .ok (some 0)) 10 20 (oneSession "10.0.0.5") := by
  intro h
  have hget := h "AA:BB:CC:00:00:01"
  rw [@get?_load_save asciiText _ _ _ (normalKeys_oneSession "10.0.0.5")] at hget
  have hcached : (oneSession "10.0.0.5").get? "AA:BB:CC:00:00:01" =
      some (({ mac := "AA:BB:CC:00:00:01", state := "STARTED", framedIp := "10.0.0.5" } :
        SessionInfo).stored 5) := Dict.get?_set_self _ _ _
  rw [hcached, Option.map_some, Option.some.injEq, reread_stored_iff] at hget
  exact absurd hget (by decide)

end IsePortal
