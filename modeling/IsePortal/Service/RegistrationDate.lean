import IsePortal.Api.EndpointRoutes
import IsePortal.Library.Runs
import IsePortal.Service.UpdateFrame

/-!
# The registration date across updates

Through ERS an endpoint has no create time of its own, so `create_endpoint` stamps
`HypervisionRegisteredAt`, and every `update_endpoint` sends the attribute again: the create time of
its snapshot, or else the time the MAC was first seen, or else the present. The snapshot is taken
through the cache and may fail. `registration_date_kept_iff` says for which updates the date
stays.
-/

namespace IsePortal

open Library EndpointCache

/-- The writes of the portal, and what happens between them. `firstSeen` is `first_seen_store.get`
at the update. -/
inductive RegistrationOp where
  /-- The clock, the settings, the cache and what ISE refuses change. -/
  | elsewhere (cfg : CacheSettings) (now : Time) (cache : EndpointCache EndpointDetail)
      (refusal : IseCall → Option IseApiError)
  /-- `create_endpoint`; `ok` says whether ISE takes it. -/
  | create (psk : PskSettings) (mac groupId description : String) (static : Option Bool)
      (attrs : Option CustomAttrs) (autoTag : Option String) (newId : EndpointId) (ok : Bool)
  /-- `update_endpoint` -/
  | update (psk : PskSettings) (lookups : Lookups) (firstSeen : String → Option Time)
      (endpointId : EndpointId) (update : EndpointUpdate) (autoTag : Option String)

/-- `HypervisionRegisteredAt` as ISE has it. -/
def RawEndpoint.registeredAt (raw : RawEndpoint) : String :=
  raw.customAttributes.attr registeredAtAttr

/-- The endpoint after a `PUT`: ISE keeps what is not sent, and merges the attributes. A group comes
with its static flag. -/
def RawEndpoint.put (raw : RawEndpoint) (fields : PutFields) : RawEndpoint :=
  { raw with
    description := fields.description.or raw.description
    groupId := fields.groupId.getD raw.groupId
    staticGroupAssignment := fields.staticGroupAssignment.getD
      (if fields.groupId.isSome then true else raw.staticGroupAssignment)
    customAttributes := raw.customAttributes.merge fields.customAttributes }

/-- ISE with another record for an endpoint. -/
def IseServer.store (ise : IseServer) (endpointId : EndpointId) (raw : RawEndpoint) : IseServer :=
  { ise with endpoints := fun id => if id = endpointId then some raw else ise.endpoints id }

/-- The first-seen time as a date, empty where there is none. `strftime` formats a moment of UTC. -/
def firstSeenText (strftime : Time → String) : Option Time → String
  | none => ""
  | some seen => if seen = 0 then "" else strftime seen

/-- The registration date `update_endpoint` falls back on without a create time. -/
def fallbackStamp (strftime : Time → String) (firstSeen : String → Option Time) (now : Time)
    (before : Option EndpointDetail) : String :=
  match before with
  | none => strftime now
  | some detail =>
      orElse (if detail.mac = "" then "" else firstSeenText strftime (firstSeen detail.mac))
        (strftime now)

section Registration

variable [PyText] [DetailCodec] (strftime : Time → String)

/-- One step; `none` is a create under an id ISE has given. -/
def registrationStep (portal : PortalState) : RegistrationOp → Option PortalState
  | .elsewhere cfg now cache refusal =>
      some { portal with
             cfg := cfg, now := now, cache := cache, ise := { portal.ise with refusal := refusal } }
  | .create psk mac groupId description static attrs autoTag newId ok =>
      match createAttrs psk attrs autoTag (strftime portal.now) with
      | .error _ => some portal
      | .ok ca =>
          if ok then
            match portal.ise.endpoints newId with
            | some _ => none
            | none =>
                some { portal with
                       ise := portal.ise.store newId
                         { id := some newId, name := mac, mac := mac
                           description := some description, groupId := groupId
                           staticGroupAssignment := groupId ≠ "" && static.getD true
                           -- the repository leaves empty values out of the new endpoint
                           customAttributes := ca.filterValues (· ≠ "") } }
          else some portal
  | .update psk lookups firstSeen endpointId update autoTag =>
      let before := (portal.getEndpoint lookups endpointId none true false).toOption
      match updateAttrs psk update.customAttributes autoTag before
          (fallbackStamp strftime firstSeen portal.now before) with
      | .error _ => some portal
      | .ok ca =>
          match portal.ise.put endpointId, portal.ise.endpoints endpointId with
          | .ok (), some raw =>
              some { portal with
                     ise := portal.ise.store endpointId
                       (raw.put { description := update.description, groupId := update.groupId
                                  staticGroupAssignment := update.staticGroupAssignment
                                  customAttributes := ca })
                     cache := (portal.cache.markChanged endpointId).invalidateDetail endpointId }
          | _, _ => some portal

/-! ## The property and its condition -/

omit [PyText] [DetailCodec] in
/-- Every endpoint with a registration date keeps it. -/
def KeepsDates (portal next : PortalState) : Prop :=
  ∀ endpointId raw, portal.ise.endpoints endpointId = some raw → raw.registeredAt ≠ "" →
    ∃ after, next.ise.endpoints endpointId = some after ∧ after.registeredAt = raw.registeredAt

omit [PyText] [DetailCodec] in
/-- ISE has no create times of its own. -/
def ErsMode (portal : PortalState) : Prop :=
  ∀ endpointId raw, portal.ise.endpoints endpointId = some raw →
    raw.createTime = "" ∧ raw.createdAt = ""

omit [PyText] [DetailCodec] in
/-- The entry `get_detail` returns without an answer of ISE. -/
def PortalState.heldEntry (portal : PortalState) (endpointId : EndpointId) :
    Option (CachedEntry EndpointDetail) :=
  if portal.cfg.cacheEnabled then
    (portal.cache.details.get? endpointId).filter fun entry =>
      entry.fromDisk ||
        decide (portal.now - entry.fetchedAt ≤
          effectiveTtlForEntry entry portal.cfg.cacheTtlSeconds) ||
        (portal.cfg.cacheStaleWhileRevalidate && staleServable portal.cfg portal.now entry) ||
        !(portal.ise.get endpointId).isOk
  else none

omit [PyText] [DetailCodec] in
/-- An entry shows the date; one without a create time leads to it by the fallback. -/
def ShowsDate (portal : PortalState) (firstSeen : String → Option Time) (date : String)
    (detail : EndpointDetail) : Prop :=
  orElse detail.createTime (fallbackStamp strftime firstSeen portal.now (some detail)) = date

omit [PyText] [DetailCodec] in
/-- The snapshot of the update is ISE's record as it is, or an entry of the cache that shows the
date; without a snapshot the date is the present. -/
def SnapshotShows (portal : PortalState) (firstSeen : String → Option Time)
    (endpointId : EndpointId) (date : String) : Prop :=
  match portal.heldEntry endpointId with
  | some entry => ShowsDate strftime portal firstSeen date entry.value
  | none => (portal.ise.get endpointId).isOk = false → strftime portal.now = date

omit [DetailCodec] in
/-- Where an update goes through for an endpoint with a date, its snapshot shows the date. -/
def ReadsDate (portal : PortalState) : RegistrationOp → Prop
  | .update psk _ firstSeen endpointId update autoTag =>
      ∀ raw, portal.ise.endpoints endpointId = some raw → raw.registeredAt ≠ "" →
        portal.ise.put endpointId = .ok () →
          (∃ ca, updateAttrs psk update.customAttributes autoTag none "" = .ok ca) →
            SnapshotShows strftime portal firstSeen endpointId raw.registeredAt
  | _ => True

/-! ## What an update sends -/

section Sent

variable {psk : PskSettings} {attrs : Option CustomAttrs} {autoTag : Option String}
  {before : Option EndpointDetail} {stamp : String} {ca : Attrs}

omit [PyText] [DetailCodec] in
/-- No request brings a registration date. -/
theorem get?_requestAttrs_registered : (requestAttrs attrs).get? registeredAtAttr = none := by
  cases attrs with
  | none => rfl
  | some attrs =>
      simp [requestAttrs, modelDump, get?_setSome, Dict.get?_set, registeredAtAttr,
        guestRegistrationAttr, rolesAttr, activeAttr, pskModeAttr, pskKeyAttr,
        guestExperyDateAttr, guestAccessExpireAttr]

omit [PyText] [DetailCodec] in
/-- The stamp of a snapshot, with the text it falls back on. -/
def snapshotStamp (before : Option EndpointDetail) (stamp : String) : String :=
  match before with
  | none => stamp
  | some detail => orElse detail.createTime stamp

omit [DetailCodec] in
/-- An update always sends the stamp of its snapshot. -/
theorem update_sends_stamp (hca : updateAttrs psk attrs autoTag before stamp = .ok ca) :
    ca.get? registeredAtAttr = some (snapshotStamp before stamp) := by
  have hstamp : ∀ (ca : Attrs) (stamp : String), ca.get? registeredAtAttr = none →
      (stampRegisteredAt ca stamp).get? registeredAtAttr = some stamp := by
    intro ca stamp hnone
    rw [stampRegisteredAt, if_pos (by rw [Attrs.attr, hnone]; rfl), Dict.get?_set_self]
  simp only [updateAttrs] at hca
  split at hca
  · cases hca
  · cases hca
    have hnone : (pskEncodeCa psk (applyAutoTag ((requestAttrs attrs).set hiddenAttr "true")
        autoTag)).get? registeredAtAttr = none := by
      rw [get?_pskEncodeCa_ne psk _ (by decide),
        get?_applyAutoTag_spared (fun h => absurd h (by decide)),
        Dict.get?_set_ne _ _ (by decide), get?_requestAttrs_registered]
    cases before with
    | none => exact hstamp _ stamp hnone
    | some detail =>
        have hactive : ∀ ca : Attrs, ca.get? registeredAtAttr = none →
            (if (ca.get? activeAttr).isNone && detail.activeStatus = "" then
              ca.set activeAttr "Aktiv" else ca).get? registeredAtAttr = none := by
          intro ca hca
          split
          · rwa [Dict.get?_set_ne _ _ (by decide)]
          · exact hca
        simp only [stampFromSnapshot, hstamp _ _ (hactive _ hnone), snapshotStamp, orElse,
          ite_not]

omit [DetailCodec] in
/-- Whether a request is accepted does not depend on the snapshot. -/
theorem update_accepted_any (hca : updateAttrs psk attrs autoTag before stamp = .ok ca)
    (other : Option EndpointDetail) (text : String) :
    ∃ sent, updateAttrs psk attrs autoTag other text = .ok sent := by
  simp only [updateAttrs] at hca ⊢
  split at hca
  · cases hca
  · exact ⟨_, rfl⟩

end Sent

/-! ## The snapshot -/

section Snapshot

variable {lookups : Lookups} {portal : PortalState} {endpointId : EndpointId}

/-- A snapshot shows the create time and the MAC of a detail. -/
def SnapshotOf (before : Option EndpointDetail) (detail : EndpointDetail) : Prop :=
  ∃ snapshot, before = some snapshot ∧ snapshot.createTime = detail.createTime ∧
    snapshot.mac = detail.mac

omit [PyText] [DetailCodec] in
theorem snapshot_masked (detail : EndpointDetail) (stale : Bool) :
    SnapshotOf (some (maskFor true { detail with cacheStale := stale })) detail :=
  ⟨_, rfl, rfl, rfl⟩

variable (lookups) in
omit [DetailCodec] in
/-- An entry that is held is what `get_detail` returns, but for its badge. -/
theorem get_detail_held {entry : CachedEntry EndpointDetail}
    (hheld : portal.heldEntry endpointId = some entry) :
    ∃ stale, portal.getDetail lookups endpointId false =
      .ok { detail := { entry.value with cacheStale := stale } } := by
  cases hon : portal.cfg.cacheEnabled with
  | false => simp [PortalState.heldEntry, hon] at hheld
  | true =>
      simp only [PortalState.heldEntry, hon, ↓reduceIte, Option.filter_eq_some_iff] at hheld
      obtain ⟨hentry, hserved⟩ := hheld
      simp only [PortalState.getDetail, hon, hentry, Bool.not_false, Bool.true_and, ↓reduceIte]
      split
      · exact ⟨_, rfl⟩
      · rename_i hfresh
        split
        · exact ⟨_, rfl⟩
        · rename_i hdisk
          split
          · exact ⟨_, rfl⟩
          · rename_i hservable
            rw [Bool.not_eq_true] at hdisk hservable
            simp only [hdisk, Bool.not_false, Bool.true_and, Bool.not_eq_true] at hfresh
            cases hise : portal.ise.get endpointId with
            | ok raw =>
                simp only [hdisk, hfresh, hservable, hise, Except.isOk, Except.toBool,
                  Bool.or_self, Bool.not_true, Bool.false_eq_true] at hserved
            | error exc =>
                simp only [PortalState.fetchDetail, hise, Except.map]
                exact ⟨_, rfl⟩

variable (lookups) in
omit [DetailCodec] in
/-- Without an entry that is held `get_detail` asks ISE. -/
theorem get_detail_asked (hheld : portal.heldEntry endpointId = none) :
    ∃ stored, portal.getDetail lookups endpointId false =
      (portal.fetchDetail lookups endpointId).map
        fun detail => { detail := detail, stored := stored } := by
  cases hon : portal.cfg.cacheEnabled with
  | false => exact ⟨false, by simp [PortalState.getDetail, hon]⟩
  | true =>
      cases hentry : portal.cache.details.get? endpointId with
      | none => exact ⟨true, by simp [PortalState.getDetail, hon, hentry]⟩
      | some entry =>
          simp only [PortalState.heldEntry, hon, hentry, ↓reduceIte, Option.filter_eq_none_iff,
            Option.some.injEq, forall_eq', Bool.not_eq_true, Bool.or_eq_false_iff] at hheld
          obtain ⟨⟨⟨hdisk, hfresh⟩, hservable⟩, hok⟩ := hheld
          refine ⟨true, ?_⟩
          cases hise : portal.ise.get endpointId with
          | ok raw =>
              simp only [PortalState.getDetail, hon, hentry, hdisk, hfresh, hservable,
                PortalState.fetchDetail, hise, Except.map, Bool.not_false, Bool.true_and,
                Bool.and_false, Bool.false_eq_true, ↓reduceIte]
          | error exc =>
              rw [hise] at hok
              cases hok

variable (lookups portal endpointId) in
/-- A snapshot is an entry that is held, ISE's record, or nothing. -/
theorem snapshot_cases :
    (∃ entry, portal.heldEntry endpointId = some entry ∧
        SnapshotOf (portal.getEndpoint lookups endpointId none true false).toOption entry.value) ∨
      (∃ raw, portal.heldEntry endpointId = none ∧ portal.ise.get endpointId = .ok raw ∧
        SnapshotOf (portal.getEndpoint lookups endpointId none true false).toOption
          (fetchEndpointDetail lookups endpointId raw)) ∨
      (portal.heldEntry endpointId = none ∧ (portal.ise.get endpointId).isOk = false ∧
        (portal.getEndpoint lookups endpointId none true false).toOption = none) := by
  cases hheld : portal.heldEntry endpointId with
  | some entry =>
      obtain ⟨stale, hget⟩ := get_detail_held lookups hheld
      refine Or.inl ⟨entry, rfl, ?_⟩
      rw [PortalState.getEndpoint, hget]
      exact snapshot_masked _ _
  | none =>
      obtain ⟨stored, hget⟩ := get_detail_asked lookups hheld
      cases hise : portal.ise.get endpointId with
      | ok raw =>
          rw [PortalState.fetchDetail, hise] at hget
          refine Or.inr (Or.inl ⟨raw, rfl, rfl, ?_⟩)
          rw [PortalState.getEndpoint, hget]
          exact snapshot_masked _ _
      | error exc =>
          rw [PortalState.fetchDetail, hise] at hget
          refine Or.inr (Or.inr ⟨rfl, rfl, ?_⟩)
          rw [PortalState.getEndpoint, hget]
          rfl

end Snapshot

/-! ## Steps -/

section Steps

variable {strftime} {portal next : PortalState}

omit [PyText] [DetailCodec] in
/-- A record that is put keeps the dates exactly when it has the date the endpoint had. -/
theorem keeps_dates_store {cache : EndpointCache EndpointDetail} {endpointId : EndpointId}
    {raw after : RawEndpoint} (hraw : portal.ise.endpoints endpointId = some raw) :
    KeepsDates portal { portal with ise := portal.ise.store endpointId after, cache := cache } ↔
      (raw.registeredAt ≠ "" → after.registeredAt = raw.registeredAt) := by
  constructor
  · intro hkeeps hdate
    obtain ⟨stored, hstored, hsame⟩ := hkeeps endpointId raw hraw hdate
    rw [show (portal.ise.store endpointId after).endpoints endpointId = some after from
      if_pos rfl] at hstored
    cases hstored
    exact hsame
  · intro hsame id other hother hdate
    by_cases hid : id = endpointId
    · subst hid
      rw [hraw] at hother
      cases hother
      exact ⟨after, if_pos rfl, hsame hdate⟩
    · exact ⟨other, (if_neg hid).trans hother, rfl⟩

omit [PyText] [DetailCodec] in
theorem ErsMode.store (h : ErsMode portal) {cache : EndpointCache EndpointDetail}
    {endpointId : EndpointId} {after : RawEndpoint}
    (hafter : after.createTime = "" ∧ after.createdAt = "") :
    ErsMode { portal with ise := portal.ise.store endpointId after, cache := cache } := by
  intro id raw hraw
  by_cases hid : id = endpointId
  · rw [show (portal.ise.store endpointId after).endpoints id = some after from if_pos hid] at hraw
    cases hraw
    exact hafter
  · exact h id raw ((if_neg hid).symm.trans hraw)

/-- The stamp of the snapshot is the date of the endpoint exactly where the snapshot shows it. -/
theorem stamp_eq_date_iff {lookups : Lookups} {firstSeen : String → Option Time}
    {endpointId : EndpointId} {raw : RawEndpoint} (hers : ErsMode portal)
    (hraw : portal.ise.endpoints endpointId = some raw) (hdate : raw.registeredAt ≠ "") :
    let before := (portal.getEndpoint lookups endpointId none true false).toOption
    snapshotStamp before (fallbackStamp strftime firstSeen portal.now before) =
        raw.registeredAt ↔
      SnapshotShows strftime portal firstSeen endpointId raw.registeredAt := by
  have hshows : ∀ {before detail}, SnapshotOf before detail →
      (snapshotStamp before (fallbackStamp strftime firstSeen portal.now before) =
        raw.registeredAt ↔ ShowsDate strftime portal firstSeen raw.registeredAt detail) := by
    rintro _ detail ⟨snapshot, rfl, hcreate, hmac⟩
    simp only [snapshotStamp, ShowsDate, fallbackStamp, hcreate, hmac]
  simp only [SnapshotShows]
  rcases snapshot_cases lookups portal endpointId with
    ⟨entry, hheld, hsnapshot⟩ | ⟨stored, hheld, hget, hsnapshot⟩ | ⟨hheld, hfailed, hnone⟩
  · rw [hheld]
    exact hshows hsnapshot
  · rw [hheld, hget]
    refine (hshows hsnapshot).trans (iff_of_true ?_ fun h => by cases h)
    have hstored : stored = raw := by
      have hanswer := hget
      unfold IseServer.get IseServer.call at hanswer
      rw [hraw] at hanswer
      split at hanswer
      · cases hanswer
      · cases hanswer
        rfl
    obtain ⟨hcreate, hcreated⟩ := hers endpointId raw hraw
    have hcreateTime : (fetchEndpointDetail lookups endpointId raw).createTime =
        raw.registeredAt := by
      simp only [fetchEndpointDetail, orElse, hcreate, hcreated, ↓reduceIte]
      exact if_neg hdate
    rw [hstored, ShowsDate, hcreateTime, orElse, if_neg hdate]
  · rw [hheld, hnone]
    simp only [hfailed, forall_const]
    exact Iff.rfl

/-- What a step changes in ISE: nothing, a new endpoint, or the endpoint of an update. -/
theorem registration_step_cases {op : RegistrationOp}
    (hstep : registrationStep strftime portal op = some next) :
    (next.ise.endpoints = portal.ise.endpoints ∧ ReadsDate strftime portal op) ∨
      (∃ newId raw, portal.ise.endpoints newId = none ∧ raw.createTime = "" ∧
        raw.createdAt = "" ∧ next = { portal with ise := portal.ise.store newId raw } ∧
        ReadsDate strftime portal op) ∨
      ∃ endpointId raw fields cache lookups firstSeen,
        portal.ise.endpoints endpointId = some raw ∧
        next = { portal with ise := portal.ise.store endpointId (raw.put fields)
                             cache := cache } ∧
        (raw.put fields).registeredAt =
          snapshotStamp (portal.getEndpoint lookups endpointId none true false).toOption
            (fallbackStamp strftime firstSeen portal.now
              (portal.getEndpoint lookups endpointId none true false).toOption) ∧
        (ReadsDate strftime portal op ↔ (raw.registeredAt ≠ "" →
          SnapshotShows strftime portal firstSeen endpointId raw.registeredAt)) := by
  cases op with
  | elsewhere cfg now cache refusal =>
      cases hstep
      exact Or.inl ⟨rfl, trivial⟩
  | create psk mac groupId description static attrs autoTag newId ok =>
      simp only [registrationStep] at hstep
      split at hstep
      · cases hstep
        exact Or.inl ⟨rfl, trivial⟩
      · split at hstep
        · split at hstep
          · cases hstep
          · rename_i hnew
            cases hstep
            exact Or.inr (Or.inl ⟨newId, _, hnew, rfl, rfl, rfl, trivial⟩)
        · cases hstep
          exact Or.inl ⟨rfl, trivial⟩
  | update psk lookups firstSeen endpointId update autoTag =>
      simp only [registrationStep] at hstep
      split at hstep
      · rename_i hrefused
        cases hstep
        refine Or.inl ⟨rfl, fun _ _ _ _ haccepted => ?_⟩
        obtain ⟨ca, hca⟩ := haccepted
        obtain ⟨sent, hsent⟩ := update_accepted_any hca
          (portal.getEndpoint lookups endpointId none true false).toOption
          (fallbackStamp strftime firstSeen portal.now
            (portal.getEndpoint lookups endpointId none true false).toOption)
        rw [hrefused] at hsent
        cases hsent
      · rename_i ca hca
        split at hstep
        · rename_i raw hput hraw
          cases hstep
          refine Or.inr (Or.inr ⟨endpointId, raw, _, _, lookups, firstSeen, hraw, rfl, ?_, ?_⟩)
          · rw [RawEndpoint.registeredAt, RawEndpoint.put, Attrs.attr_merge,
              update_sends_stamp hca]
            rfl
          · constructor
            · intro hreads hdate
              exact hreads raw hraw hdate hput (update_accepted_any hca none "")
            · intro hshows other hother hdate _ _
              rw [hraw] at hother
              cases hother
              exact hshows hdate
        · rename_i hrefused
          cases hstep
          refine Or.inl ⟨rfl, fun raw hraw _ hput _ => ?_⟩
          exact absurd hraw (hrefused raw hput)

/-- A step keeps ISE without create times. -/
theorem registration_step_ers {op : RegistrationOp}
    (hstep : registrationStep strftime portal op = some next) (hers : ErsMode portal) :
    ErsMode next := by
  rcases registration_step_cases hstep with ⟨hsame, -⟩ |
    ⟨newId, raw, -, hcreate, hcreated, rfl, -⟩ |
    ⟨endpointId, raw, fields, cache, -, -, hraw, rfl, -, -⟩
  · intro id raw hraw
    exact hers id raw (hsame ▸ hraw)
  · exact hers.store ⟨hcreate, hcreated⟩
  · exact hers.store (hers endpointId raw hraw)

/-- A step keeps the dates exactly when an update that goes through reads the date. -/
theorem registration_step_iff {op : RegistrationOp}
    (hstep : registrationStep strftime portal op = some next) (hers : ErsMode portal) :
    KeepsDates portal next ↔ ReadsDate strftime portal op := by
  rcases registration_step_cases hstep with ⟨hsame, hreads⟩ |
    ⟨newId, raw, hnew, -, -, rfl, hreads⟩ |
    ⟨endpointId, raw, fields, cache, lookups, firstSeen, hraw, rfl, hstamp, hreads⟩
  · exact iff_of_true (fun id raw hraw _ => ⟨raw, hsame ▸ hraw, rfl⟩) hreads
  · refine iff_of_true (fun id other hother _ => ⟨other, (if_neg ?_).trans hother, rfl⟩) hreads
    rintro rfl
    rw [hnew] at hother
    cases hother
  · rw [keeps_dates_store hraw, hreads, hstamp]
    exact forall_congr' fun hdate => stamp_eq_date_iff hers hraw hdate

variable (strftime) in
/-- While ISE has no create times, no update of a run changes a registration date exactly when every
update that goes through for an endpoint with a date reads that date. -/
theorem registration_date_kept_iff (start : PortalState) (hers : ErsMode start)
    (ops : List RegistrationOp) :
    Guarded (registrationStep strftime)
        (fun portal op => ∀ next, registrationStep strftime portal op = some next →
          KeepsDates portal next) start ops ↔
      Guarded (registrationStep strftime) (ReadsDate strftime) start ops := by
  refine guarded_iff (fun _ _ _ hstep hers _ => registration_step_ers hstep hers)
    (fun portal op next hstep hers => ?_) hers
  refine Iff.trans ?_ (registration_step_iff hstep hers)
  constructor
  · intro hall
    exact hall next hstep
  · intro hkeeps other hother
    rw [hstep] at hother
    cases hother
    exact hkeeps

end Steps

end Registration

/-! ## A date that is lost -/

section Examples

local instance dateText : PyText := asciiText

local instance dateCodec : DetailCodec := plainJson

/-- The moment of the example. -/
def todayUtc (_ : Time) : String := "2026-10-18T12:00:00Z"

/-- An endpoint registered in 2020, with an empty cache. -/
def registeredPortal : PortalState where
  now := 1792324800
  ise :=
    { endpoints := fun endpointId =>
        if endpointId = "ep-1" then
          some { name := "AA:BB:CC:00:00:01"
                 customAttributes := Dict.empty.set registeredAtAttr "2020-01-01T00:00:00Z" }
        else none }

/-- An update without attributes. -/
def plainUpdate : RegistrationOp :=
  .update { policy := ⟨8, true, true, false⟩ } { setOrder := fun _ => [] } (fun _ => none) "ep-1"
    {} none

/-- ISE refuses the GET of the snapshot and takes the PUT. -/
def getFails : RegistrationOp :=
  .elsewhere {} 1792324800 {} fun call =>
    if call = .getEndpoint "ep-1" then some { statusCode := 503, message := "busy" } else none

theorem registered_ers : ErsMode registeredPortal := by
  intro endpointId raw hraw
  simp only [registeredPortal] at hraw
  split at hraw
  · cases hraw
    exact ⟨rfl, rfl⟩
  · cases hraw

/-- With ISE's record for a snapshot the date stays. -/
theorem answered_update_keeps :
    Guarded (registrationStep todayUtc)
      (fun portal op => ∀ next, registrationStep todayUtc portal op = some next →
        KeepsDates portal next) registeredPortal [plainUpdate] := by
  refine (registration_date_kept_iff todayUtc registeredPortal registered_ers _).mpr ⟨?_, trivial⟩
  rintro raw - - - - hfailed
  cases hfailed

/-- Without a snapshot the update writes the present over the date of 2020. -/
theorem failed_snapshot_overwrites :
    ¬ Guarded (registrationStep todayUtc)
      (fun portal op => ∀ next, registrationStep todayUtc portal op = some next →
        KeepsDates portal next) registeredPortal [getFails, plainUpdate] := by
  intro h
  obtain ⟨after, hafter, hsame⟩ := h.2.1 _ rfl "ep-1" _ rfl (by decide)
  cases hafter
  exact absurd hsame (by decide)

end Examples

end IsePortal
