import IsePortal.Guest.ExpiryStore
import IsePortal.Library.Runs
import IsePortal.Service.EndpointHelpers

/-!
# Guest tracking against the stored attributes

ISE keeps the attributes of an endpoint and merges every update into them; the guest-expiry
store is kept in step by `_sync_guest_expiry` of `app/services/endpoint_service.py`, which
only sees the attributes of one request. The state holds both, the steps are the writes of the
portal and the two halves of a worker check. `guest_tracking_follows_iff` says for which
writes the store follows the merged attributes.
-/

namespace IsePortal

open Library

/-- ISE's endpoints with their attributes, the store, the local clock, and the rows a worker
check still has to handle. -/
structure GuestPortal where
  ise : Dict EndpointId Attrs := Dict.empty
  store : GuestExpiryStore := Dict.empty
  now : Time
  pending : List ExpiredRow := []

/-- One write or worker step. `ok` says whether ISE takes the change; a request it refuses
raises. -/
inductive GuestOp where
  /-- The clock advances. -/
  | tick (now : Time)
  /-- `create_endpoint`; `located` says whether ISE's answer has the `Location` header. -/
  | create (mac : String) (attrs : Option CustomAttrs) (autoTag : Option String) (stamp : String)
      (newId : EndpointId) (located ok : Bool)
  /-- `update_endpoint` with the snapshot it takes before. -/
  | update (endpointId : EndpointId) (attrs : Option CustomAttrs) (autoTag : Option String)
      (before : Option EndpointDetail) (stamp : String) (ok : Bool)
  /-- The write of `bulk_apply_template` for one of its endpoints. -/
  | applyTemplate (endpointId : EndpointId) (templateAttrs : Attrs) (ok : Bool)
  /-- `delete_endpoint` -/
  | delete (endpointId : EndpointId) (ok : Bool)
  /-- `_check_once` lists the expired rows. -/
  | beginCheck
  /-- ISE answers the worker for the first pending row. -/
  | iseAnswered (ok : Bool)

/-- The writes of one call of `bulk_apply_template`, which takes at most 200 endpoints. -/
def bulkApplyTemplate (endpointIds : List EndpointId) (templateAttrs : Attrs)
    (ok : EndpointId → Bool) : List GuestOp :=
  (endpointIds.take 200).map fun endpointId =>
    .applyTemplate endpointId templateAttrs (ok endpointId)

section Steps

variable [PyText]

/-- `_sync_guest_expiry` -/
def syncGuestExpiry (store : GuestExpiryStore) (endpointId : EndpointId) (mac : String)
    (ca : Attrs) : GuestExpiryStore :=
  let guestReg := PyText.lower (ca.attr guestRegistrationAttr)
  let expiryStr := PyText.strip (ca.attr guestExperyDateAttr)
  if guestReg = "true" ∧ expiryStr ≠ "" then store.upsert endpointId mac expiryStr
  else store.remove endpointId

namespace GuestPortal

variable [PyCalendar]

/-- One step; `none` is a step ISE or the worker cannot take. -/
def step (psk : PskSettings) (portal : GuestPortal) (op : GuestOp) : Option GuestPortal :=
  match op with
  | .tick now => if portal.now ≤ now then some { portal with now := now } else none
  | .create mac attrs autoTag stamp newId located ok =>
      match createAttrs psk attrs autoTag stamp with
      | .error _ => some portal
      | .ok ca =>
          if ok then
            if newId ≠ "" ∧ portal.ise.get? newId = none then
              some { portal with
                -- the repository leaves empty values out of the new endpoint
                ise := portal.ise.set newId (ca.filterValues (· ≠ ""))
                store := if located then syncGuestExpiry portal.store newId mac ca
                  else portal.store }
            else none
          else some portal
  | .update endpointId attrs autoTag before stamp ok =>
      match updateAttrs psk attrs autoTag before stamp with
      | .error _ => some portal
      | .ok ca =>
          if ok then
            match portal.ise.get? endpointId with
            | none => none
            | some stored =>
                some { portal with
                  ise := portal.ise.set endpointId (stored.merge ca)
                  store := syncGuestExpiry portal.store endpointId
                    ((before.map EndpointDetail.mac).getD "") ca }
          else some portal
  | .applyTemplate endpointId templateAttrs ok =>
      if ok then
        match portal.ise.get? endpointId with
        | none => none
        | some stored =>
            some { portal with
              ise := portal.ise.set endpointId
                (stored.merge (templateAttrs.set hiddenAttr "true")) }
      else some portal
  | .delete endpointId ok =>
      if ok then
        some { portal with
          ise := portal.ise.erase endpointId
          store := portal.store.remove endpointId }
      else some portal
  | .beginCheck =>
      if portal.pending = [] then
        some { portal with
          pending := (portal.store.listExpired portal.now).1
          store := (portal.store.listExpired portal.now).2 }
      else none
  | .iseAnswered ok =>
      match portal.pending with
      | [] => none
      | row :: rest =>
          if ok then
            match portal.ise.get? row.endpointId with
            | none => none
            | some stored =>
                some { portal with
                  ise := portal.ise.set row.endpointId (stored.set guestAccessExpireAttr "true")
                  store := portal.store.remove row.endpointId
                  pending := rest }
          else some { portal with pending := rest }

/-! ## The property and its condition -/

omit [PyCalendar] in
/-- `GuestRegistration` is true, whatever its case. -/
def IsGuest (registration : String) : Prop := PyText.lower registration = "true"

omit [PyCalendar] in
instance (registration : String) : Decidable (IsGuest registration) :=
  inferInstanceAs (Decidable (_ = _))

/-- A guest with a date that has not come yet. -/
def ActiveGuest (now : Time) (registration date : String) : Prop :=
  IsGuest registration ∧ PyText.strip date ≠ "" ∧
    ∃ expiry, PyCalendar.strptime (PyText.strip date) = some expiry ∧ now < expiry

/-- The row is what the two guest attributes ask for. -/
def RowFollows (now : Time) (registration date : String) (row : Option GuestRow) : Prop :=
  (ActiveGuest now registration date →
      row.map GuestRow.expiryStr = some (PyText.strip date)) ∧
    (¬ IsGuest registration → row = none)

/-- Every endpoint of ISE is tracked with its date while it is a guest whose date has not come,
and not tracked when it is no guest. -/
def TrackingFollows (portal : GuestPortal) : Prop :=
  ∀ endpointId stored, portal.ise.get? endpointId = some stored →
    RowFollows portal.now (stored.attr guestRegistrationAttr) (stored.attr guestExperyDateAttr)
      (portal.store.get? endpointId)

/-- The writes the store follows. A created guest with a date to come has a `Location` header.
An update carries a date of its own, or leaves an endpoint that is no guest with a date to
come. A template leaves a guest with a date to come only where the store holds that date, and
takes the registration away only from an endpoint that is not tracked. The worker ends no
access whose date was moved while it waited. -/
def FollowsOp (psk : PskSettings) (portal : GuestPortal) (op : GuestOp) : Prop :=
  match op with
  | .create _ attrs autoTag stamp _ located true =>
      (∃ ca, createAttrs psk attrs autoTag stamp = .ok ca) → located = false →
        ∀ sent, attrs = some sent →
          ¬ ActiveGuest portal.now sent.guestRegistration (sent.guestExperyDate.getD "")
  | .update endpointId attrs autoTag before stamp true =>
      (∃ ca, updateAttrs psk attrs autoTag before stamp = .ok ca) →
        ∀ stored, portal.ise.get? endpointId = some stored →
          match attrs with
          | none =>
              ¬ ActiveGuest portal.now (stored.attr guestRegistrationAttr)
                (stored.attr guestExperyDateAttr)
          | some sent =>
              sent.guestExperyDate = none →
                ¬ ActiveGuest portal.now sent.guestRegistration (stored.attr guestExperyDateAttr)
  | .applyTemplate endpointId templateAttrs true =>
      ∀ stored, portal.ise.get? endpointId = some stored →
        RowFollows portal.now
          ((templateAttrs.get? guestRegistrationAttr).getD (stored.attr guestRegistrationAttr))
          ((templateAttrs.get? guestExperyDateAttr).getD (stored.attr guestExperyDateAttr))
          (portal.store.get? endpointId)
  | .iseAnswered true =>
      ∀ row ∈ portal.pending.head?, ∀ stored, portal.ise.get? row.endpointId = some stored →
        ¬ ActiveGuest portal.now (stored.attr guestRegistrationAttr)
          (stored.attr guestExperyDateAttr)
  | _ => True

omit [PyText] [PyCalendar] in
/-- Only endpoints of ISE are tracked. -/
def TracksEndpoints (portal : GuestPortal) : Prop :=
  ∀ endpointId, portal.ise.get? endpointId = none → portal.store.get? endpointId = none

/-! ## What one write does to the row -/

omit [PyCalendar] in
theorem not_isGuest_empty : ¬ IsGuest "" := by
  unfold IsGuest
  rw [PyText.lower_empty]
  decide

/-- The row `_sync_guest_expiry` leaves for the endpoint it is called for. -/
def syncRow (mac registration date : String) : Option GuestRow :=
  if IsGuest registration ∧ PyText.strip date ≠ "" then
    some { mac := mac, expiryStr := PyText.strip date }
  else none

omit [PyCalendar] in
theorem get?_syncGuestExpiry (store : GuestExpiryStore) (endpointId id : EndpointId)
    (mac : String) (ca : Attrs) :
    (syncGuestExpiry store endpointId mac ca).get? id =
      if id = endpointId then
        syncRow mac (ca.attr guestRegistrationAttr) (ca.attr guestExperyDateAttr)
      else store.get? id := by
  unfold syncGuestExpiry syncRow IsGuest
  dsimp only
  by_cases hguest : PyText.lower (ca.attr guestRegistrationAttr) = "true" ∧
      PyText.strip (ca.attr guestExperyDateAttr) ≠ ""
  · rw [if_pos hguest, if_pos hguest]
    exact Dict.get?_set ..
  · rw [if_neg hguest, if_neg hguest]
    exact Dict.get?_erase ..

/-- The row made from the attributes that were sent is right for the merged ones exactly when
a guest with a date to come was sent as such. -/
theorem rowFollows_syncRow {now : Time} {mac sentReg sentDate reg date : String}
    (hreg : IsGuest sentReg → IsGuest reg) :
    RowFollows now reg date (syncRow mac sentReg sentDate) ↔
      (ActiveGuest now reg date →
        IsGuest sentReg ∧ PyText.strip sentDate = PyText.strip date) := by
  unfold RowFollows syncRow
  by_cases hsent : IsGuest sentReg ∧ PyText.strip sentDate ≠ ""
  · rw [if_pos hsent]
    simp only [Option.map_some, Option.some.injEq, reduceCtorEq, imp_false, not_not, hsent.1,
      true_and, hreg hsent.1, and_true]
  · rw [if_neg hsent]
    simp only [Option.map_none, reduceCtorEq, imp_false, implies_true, and_true]
    constructor
    · intro hnot hactive
      exact absurd hactive hnot
    · intro hguest hactive
      obtain ⟨hsentReg, hdate⟩ := hguest hactive
      exact hsent ⟨hsentReg, hdate ▸ hactive.2.1⟩

theorem rowFollows_none {now : Time} {registration date : String} :
    RowFollows now registration date none ↔ ¬ ActiveGuest now registration date := by
  simp [RowFollows]

/-- A write that changes one endpoint keeps the property exactly when it is right there. -/
theorem trackingFollows_set {portal : GuestPortal} (hfollows : portal.TrackingFollows)
    (endpointId : EndpointId) (stored : Attrs) (store : GuestExpiryStore)
    (pending : List ExpiredRow)
    (hstore : ∀ id, id ≠ endpointId → store.get? id = portal.store.get? id) :
    TrackingFollows { portal with ise := portal.ise.set endpointId stored, store := store,
                                  pending := pending } ↔
      RowFollows portal.now (stored.attr guestRegistrationAttr)
        (stored.attr guestExperyDateAttr) (store.get? endpointId) := by
  constructor
  · intro hnext
    exact hnext endpointId stored (Dict.get?_set_self ..)
  · intro hrow id other hother
    dsimp only at hother ⊢
    rw [Dict.get?_set] at hother
    by_cases hid : id = endpointId
    · rw [if_pos hid, Option.some.injEq] at hother
      rw [hid, ← hother]
      exact hrow
    · rw [if_neg hid] at hother
      rw [hstore id hid]
      exact hfollows id other hother

/-! ## What a step does -/

theorem create_cases {psk : PskSettings} {portal next : GuestPortal} {mac : String}
    {attrs : Option CustomAttrs} {autoTag : Option String} {stamp : String}
    {newId : EndpointId} {located ok : Bool}
    (hstep : step psk portal (.create mac attrs autoTag stamp newId located ok) = some next) :
    (next = portal ∧ ((∃ ca, createAttrs psk attrs autoTag stamp = .ok ca) → ok = false)) ∨
      ∃ ca, createAttrs psk attrs autoTag stamp = .ok ca ∧ ok = true ∧
        portal.ise.get? newId = none ∧
        next = { portal with
          ise := portal.ise.set newId (ca.filterValues (· ≠ ""))
          store := if located then syncGuestExpiry portal.store newId mac ca
            else portal.store } := by
  simp only [step] at hstep
  split at hstep
  · rename_i text hca
    cases hstep
    refine Or.inl ⟨rfl, ?_⟩
    intro haccepted
    obtain ⟨ca, hok⟩ := haccepted
    cases hca.symm.trans hok
  · rename_i ca hca
    split at hstep
    · rename_i hok
      split at hstep
      · rename_i hnew
        cases hstep
        exact Or.inr ⟨ca, hca, hok, hnew.2, rfl⟩
      · cases hstep
    · rename_i hok
      cases hstep
      exact Or.inl ⟨rfl, fun _ => Bool.eq_false_of_not_eq_true hok⟩

theorem update_cases {psk : PskSettings} {portal next : GuestPortal} {endpointId : EndpointId}
    {attrs : Option CustomAttrs} {autoTag : Option String} {before : Option EndpointDetail}
    {stamp : String} {ok : Bool}
    (hstep : step psk portal (.update endpointId attrs autoTag before stamp ok) = some next) :
    (next = portal ∧
        ((∃ ca, updateAttrs psk attrs autoTag before stamp = .ok ca) → ok = false)) ∨
      ∃ ca stored, updateAttrs psk attrs autoTag before stamp = .ok ca ∧ ok = true ∧
        portal.ise.get? endpointId = some stored ∧
        next = { portal with
          ise := portal.ise.set endpointId (stored.merge ca)
          store := syncGuestExpiry portal.store endpointId
            ((before.map EndpointDetail.mac).getD "") ca } := by
  simp only [step] at hstep
  split at hstep
  · rename_i text hca
    cases hstep
    refine Or.inl ⟨rfl, ?_⟩
    intro haccepted
    obtain ⟨ca, hok⟩ := haccepted
    cases hca.symm.trans hok
  · rename_i ca hca
    split at hstep
    · rename_i hok
      split at hstep
      · cases hstep
      · rename_i stored hstored
        cases hstep
        exact Or.inr ⟨ca, stored, hca, hok, hstored, rfl⟩
    · rename_i hok
      cases hstep
      exact Or.inl ⟨rfl, fun _ => Bool.eq_false_of_not_eq_true hok⟩

theorem applyTemplate_cases {psk : PskSettings} {portal next : GuestPortal}
    {endpointId : EndpointId} {templateAttrs : Attrs} {ok : Bool}
    (hstep : step psk portal (.applyTemplate endpointId templateAttrs ok) = some next) :
    (next = portal ∧ ok = false) ∨
      ∃ stored, ok = true ∧ portal.ise.get? endpointId = some stored ∧
        next = { portal with
          ise := portal.ise.set endpointId
            (stored.merge (templateAttrs.set hiddenAttr "true")) } := by
  simp only [step] at hstep
  split at hstep
  · rename_i hok
    split at hstep
    · cases hstep
    · rename_i stored hstored
      cases hstep
      exact Or.inr ⟨stored, hok, hstored, rfl⟩
  · rename_i hok
    cases hstep
    exact Or.inl ⟨rfl, Bool.eq_false_of_not_eq_true hok⟩

theorem iseAnswered_cases {psk : PskSettings} {portal next : GuestPortal} {ok : Bool}
    (hstep : step psk portal (.iseAnswered ok) = some next) :
    ∃ row rest, portal.pending = row :: rest ∧
      ((next = { portal with pending := rest } ∧ ok = false) ∨
        ∃ stored, ok = true ∧ portal.ise.get? row.endpointId = some stored ∧
          next = { portal with
            ise := portal.ise.set row.endpointId (stored.set guestAccessExpireAttr "true")
            store := portal.store.remove row.endpointId
            pending := rest }) := by
  simp only [step] at hstep
  split at hstep
  · cases hstep
  · rename_i row rest hpending
    refine ⟨row, rest, hpending, ?_⟩
    split at hstep
    · rename_i hok
      split at hstep
      · cases hstep
      · rename_i stored hstored
        cases hstep
        exact Or.inr ⟨stored, hok, hstored, rfl⟩
    · rename_i hok
      cases hstep
      exact Or.inl ⟨rfl, Bool.eq_false_of_not_eq_true hok⟩

/-! ## Each step -/

theorem trackingFollows_create {psk : PskSettings} {portal next : GuestPortal} {mac : String}
    {attrs : Option CustomAttrs} {autoTag : Option String} {stamp : String}
    {newId : EndpointId} {located ok : Bool}
    (hstep : step psk portal (.create mac attrs autoTag stamp newId located ok) = some next)
    (htracks : portal.TracksEndpoints) (hfollows : portal.TrackingFollows) :
    next.TrackingFollows ↔
      FollowsOp psk portal (.create mac attrs autoTag stamp newId located ok) := by
  rcases create_cases hstep with ⟨rfl, hrefused⟩ | ⟨ca, hca, rfl, hnew, rfl⟩
  · refine iff_of_true hfollows ?_
    cases ok with
    | false => trivial
    | true =>
        intro haccepted
        cases hrefused haccepted
  · have hreg : ca.attr guestRegistrationAttr =
        (attrs.map CustomAttrs.guestRegistration).getD "" := by
      rw [Attrs.attr, get?_createAttrs hca (by decide), get?_guestRegistration]
    have hdate : ca.attr guestExperyDateAttr =
        (attrs.bind CustomAttrs.guestExperyDate).getD "" := by
      rw [Attrs.attr, get?_createAttrs hca (by decide), get?_guestExperyDate]
    refine (trackingFollows_set hfollows newId _ _ _ fun id hid => ?_).trans ?_
    · cases located with
      | false => rfl
      | true => exact (get?_syncGuestExpiry ..).trans (if_neg hid)
    rw [Attrs.attr_filterValues, Attrs.attr_filterValues]
    cases located with
    | false =>
        -- without the header nothing is tracked under the new id
        show RowFollows _ _ _ (portal.store.get? newId) ↔ _
        rw [htracks newId hnew, rowFollows_none, hreg, hdate]
        cases attrs with
        | none =>
            refine iff_of_true (fun hactive => not_isGuest_empty hactive.1) ?_
            intro _ _ sent hsent
            cases hsent
        | some sent => simp [FollowsOp, hca]
    | true =>
        show RowFollows _ _ _ ((syncGuestExpiry _ _ _ _).get? newId) ↔ _
        rw [get?_syncGuestExpiry, if_pos rfl, rowFollows_syncRow id]
        refine iff_of_true (fun hactive => ⟨hactive.1, rfl⟩) ?_
        intro _ hlocated
        cases hlocated

omit [PyCalendar] in
/-- The two guest attributes of an update are the ones of its attribute block. -/
theorem updateAttrs_guest {psk : PskSettings} {attrs : Option CustomAttrs}
    {autoTag : Option String} {before : Option EndpointDetail} {stamp : String} {ca : Attrs}
    (hca : updateAttrs psk attrs autoTag before stamp = .ok ca) :
    ca.get? guestRegistrationAttr = attrs.map CustomAttrs.guestRegistration ∧
      ca.get? guestExperyDateAttr = attrs.bind CustomAttrs.guestExperyDate := by
  refine ⟨?_, ?_⟩
  · rw [get?_updateAttrs hca (by decide), get?_guestRegistration]
  · rw [get?_updateAttrs hca (by decide), get?_guestExperyDate]

theorem trackingFollows_update {psk : PskSettings} {portal next : GuestPortal}
    {endpointId : EndpointId} {attrs : Option CustomAttrs} {autoTag : Option String}
    {before : Option EndpointDetail} {stamp : String} {ok : Bool}
    (hstep : step psk portal (.update endpointId attrs autoTag before stamp ok) = some next)
    (hfollows : portal.TrackingFollows) :
    next.TrackingFollows ↔
      FollowsOp psk portal (.update endpointId attrs autoTag before stamp ok) := by
  rcases update_cases hstep with ⟨rfl, hrefused⟩ | ⟨ca, stored, hca, rfl, hstored, rfl⟩
  · refine iff_of_true hfollows ?_
    cases ok with
    | false => trivial
    | true =>
        intro haccepted
        cases hrefused haccepted
  · obtain ⟨hreg, hdate⟩ := updateAttrs_guest hca
    refine (trackingFollows_set hfollows endpointId _ _ _ fun id hid =>
      (get?_syncGuestExpiry ..).trans (if_neg hid)).trans ?_
    simp only [get?_syncGuestExpiry, ↓reduceIte, Attrs.attr_merge]
    rw [rowFollows_syncRow]
    · simp only [Attrs.attr, hreg, hdate, FollowsOp, hca, Except.ok.injEq, exists_eq',
        forall_const, hstored, Option.some.injEq, forall_eq']
      cases attrs with
      | none =>
          -- nothing was sent, so the row goes whatever is stored
          constructor
          · intro hsent hactive
            exact not_isGuest_empty (hsent hactive).1
          · intro hnot hactive
            exact absurd hactive hnot
      | some sent =>
          cases hsentDate : sent.guestExperyDate with
          | none =>
              -- the date stays the stored one, but the row is made from the empty one
              simp only [Option.map_some, Option.getD_some, Option.bind_some,
                hsentDate, Option.getD_none, forall_const]
              constructor
              · intro hsent hactive
                refine hactive.2.1 ?_
                rw [← (hsent hactive).2, PyText.strip_empty]
              · intro hnot hactive
                exact absurd hactive hnot
          | some date =>
              refine iff_of_true (fun hactive => ?_) ?_
              · simp only [Option.map_some, Option.getD_some, Option.bind_some,
                  hsentDate] at hactive ⊢
                exact ⟨hactive.1, trivial⟩
              · intro hnone
                cases hsentDate.symm.trans hnone
    · -- a registration that was sent is the merged one
      intro hsent
      simp only [Attrs.attr, hreg] at hsent ⊢
      cases attrs with
      | none => exact absurd hsent not_isGuest_empty
      | some sent => exact hsent

theorem trackingFollows_applyTemplate {psk : PskSettings} {portal next : GuestPortal}
    {endpointId : EndpointId} {templateAttrs : Attrs} {ok : Bool}
    (hstep : step psk portal (.applyTemplate endpointId templateAttrs ok) = some next)
    (hfollows : portal.TrackingFollows) :
    next.TrackingFollows ↔ FollowsOp psk portal (.applyTemplate endpointId templateAttrs ok) := by
  rcases applyTemplate_cases hstep with ⟨rfl, rfl⟩ | ⟨stored, rfl, hstored, rfl⟩
  · exact iff_of_true hfollows trivial
  · refine (trackingFollows_set hfollows endpointId _ _ _ fun _ _ => rfl).trans ?_
    have hreg : guestRegistrationAttr ≠ hiddenAttr := by decide
    have hdate : guestExperyDateAttr ≠ hiddenAttr := by decide
    simp only [Attrs.attr_merge, Dict.get?_set_ne _ _ hreg, Dict.get?_set_ne _ _ hdate,
      FollowsOp, hstored, Option.some.injEq, forall_eq']

/-- A guest with a date to come keeps its row when the expired rows are listed. -/
theorem trackingFollows_beginCheck {psk : PskSettings} {portal next : GuestPortal}
    (hstep : step psk portal .beginCheck = some next) (hfollows : portal.TrackingFollows) :
    next.TrackingFollows := by
  simp only [step] at hstep
  split at hstep
  · cases hstep
    intro id stored hstored
    obtain ⟨htracked, huntracked⟩ := hfollows id stored hstored
    refine ⟨fun hactive => ?_, fun hguest => ?_⟩
    · obtain ⟨row, hrow, hsame⟩ := Option.map_eq_some_iff.mp (htracked hactive)
      obtain ⟨-, -, expiry, hexpiry, -⟩ := hactive
      have hread : PyCalendar.strptime row.expiryStr ≠ none := by simp [hsame, hexpiry]
      have hkept := (GuestExpiryStore.get?_listExpired portal.now _ id row).mpr ⟨hrow, hread⟩
      show ((portal.store.listExpired portal.now).2.get? id).map _ = _
      rw [hkept, Option.map_some, hsame]
    · have hnone := huntracked hguest
      show (portal.store.listExpired portal.now).2.get? id = none
      cases hkept : (portal.store.listExpired portal.now).2.get? id with
      | none => rfl
      | some row =>
          have hrow := ((GuestExpiryStore.get?_listExpired portal.now _ id row).mp hkept).1
          rw [hnone] at hrow
          cases hrow
  · cases hstep

theorem trackingFollows_iseAnswered {psk : PskSettings} {portal next : GuestPortal} {ok : Bool}
    (hstep : step psk portal (.iseAnswered ok) = some next) (hfollows : portal.TrackingFollows) :
    next.TrackingFollows ↔ FollowsOp psk portal (.iseAnswered ok) := by
  obtain ⟨row, rest, hpending, hcases⟩ := iseAnswered_cases hstep
  rcases hcases with ⟨rfl, rfl⟩ | ⟨stored, rfl, hstored, rfl⟩
  · exact iff_of_true hfollows trivial
  · refine (trackingFollows_set hfollows row.endpointId _ _ _ fun id hid =>
      Dict.get?_erase_ne _ hid).trans ?_
    have hreg : guestRegistrationAttr ≠ guestAccessExpireAttr := by decide
    have hdate : guestExperyDateAttr ≠ guestAccessExpireAttr := by decide
    simp only [Dict.get?_erase_self, rowFollows_none, Attrs.attr, Dict.get?_set_ne _ _ hreg,
      Dict.get?_set_ne _ _ hdate, FollowsOp, hpending, List.head?_cons, Option.mem_some_iff,
      forall_eq', hstored, Option.some.injEq]

/-- A date to come at a later moment was to come before. -/
theorem trackingFollows_tick {psk : PskSettings} {portal next : GuestPortal} {now : Time}
    (hstep : step psk portal (.tick now) = some next) (hfollows : portal.TrackingFollows) :
    next.TrackingFollows := by
  simp only [step] at hstep
  split at hstep
  · rename_i hle
    cases hstep
    intro id stored hstored
    obtain ⟨htracked, huntracked⟩ := hfollows id stored hstored
    refine ⟨fun hactive => htracked ?_, huntracked⟩
    obtain ⟨hguest, hdate, expiry, hexpiry, hlater⟩ := hactive
    exact ⟨hguest, hdate, expiry, hexpiry, lt_of_le_of_lt hle hlater⟩
  · cases hstep

theorem trackingFollows_delete {psk : PskSettings} {portal next : GuestPortal}
    {endpointId : EndpointId} {ok : Bool}
    (hstep : step psk portal (.delete endpointId ok) = some next)
    (hfollows : portal.TrackingFollows) : next.TrackingFollows := by
  cases ok with
  | false =>
      simp only [step, Bool.false_eq_true, ↓reduceIte, Option.some.injEq] at hstep
      subst hstep
      exact hfollows
  | true =>
      simp only [step, ↓reduceIte, Option.some.injEq] at hstep
      subst hstep
      intro id stored hstored
      dsimp only [GuestExpiryStore.remove] at hstored ⊢
      rw [Dict.get?_erase] at hstored ⊢
      by_cases hid : id = endpointId
      · simp [hid] at hstored
      · rw [if_neg hid] at hstored ⊢
        exact hfollows id stored hstored

omit [PyText] [PyCalendar] in
/-- A write that changes one endpoint of ISE tracks no other one. -/
theorem tracksEndpoints_set {portal : GuestPortal} (htracks : portal.TracksEndpoints)
    (endpointId : EndpointId) (stored : Attrs) (store : GuestExpiryStore)
    (pending : List ExpiredRow)
    (hstore : ∀ id, id ≠ endpointId → store.get? id = portal.store.get? id) :
    TracksEndpoints { portal with ise := portal.ise.set endpointId stored, store := store,
                                  pending := pending } := by
  intro id hgone
  dsimp only at hgone ⊢
  rw [Dict.get?_set] at hgone
  by_cases hid : id = endpointId
  · simp [hid] at hgone
  · rw [if_neg hid] at hgone
    rw [hstore id hid]
    exact htracks id hgone

theorem tracksEndpoints_step {psk : PskSettings} {portal next : GuestPortal} {op : GuestOp}
    (hstep : step psk portal op = some next) (htracks : portal.TracksEndpoints) :
    next.TracksEndpoints := by
  cases op with
  | tick now =>
      simp only [step] at hstep
      split at hstep
      · cases hstep
        exact htracks
      · cases hstep
  | create mac attrs autoTag stamp newId located ok =>
      rcases create_cases hstep with ⟨rfl, _⟩ | ⟨ca, _, _, _, rfl⟩
      · exact htracks
      · refine tracksEndpoints_set htracks _ _ _ _ fun id hid => ?_
        cases located with
        | false => rfl
        | true => exact (get?_syncGuestExpiry ..).trans (if_neg hid)
  | update endpointId attrs autoTag before stamp ok =>
      rcases update_cases hstep with ⟨rfl, _⟩ | ⟨ca, stored, _, _, _, rfl⟩
      · exact htracks
      · refine tracksEndpoints_set htracks _ _ _ _ fun id hid => ?_
        exact (get?_syncGuestExpiry ..).trans (if_neg hid)
  | applyTemplate endpointId templateAttrs ok =>
      rcases applyTemplate_cases hstep with ⟨rfl, _⟩ | ⟨stored, _, _, rfl⟩
      · exact htracks
      · exact tracksEndpoints_set htracks _ _ _ _ fun _ _ => rfl
  | delete endpointId ok =>
      simp only [step] at hstep
      split at hstep
      · cases hstep
        intro id hgone
        dsimp only [GuestExpiryStore.remove] at hgone ⊢
        rw [Dict.get?_erase] at hgone ⊢
        by_cases hid : id = endpointId
        · rw [if_pos hid]
        · rw [if_neg hid] at hgone ⊢
          exact htracks id hgone
      · cases hstep
        exact htracks
  | beginCheck =>
      simp only [step] at hstep
      split at hstep
      · cases hstep
        intro id hgone
        have hnone := htracks id hgone
        show (portal.store.listExpired portal.now).2.get? id = none
        cases hkept : (portal.store.listExpired portal.now).2.get? id with
        | none => rfl
        | some row =>
            have hrow := ((GuestExpiryStore.get?_listExpired portal.now _ id row).mp hkept).1
            rw [hnone] at hrow
            cases hrow
      · cases hstep
  | iseAnswered ok =>
      obtain ⟨row, rest, _, hcases⟩ := iseAnswered_cases hstep
      rcases hcases with ⟨rfl, _⟩ | ⟨stored, _, _, rfl⟩
      · exact htracks
      · exact tracksEndpoints_set htracks _ _ _ _ fun id hid => Dict.get?_erase_ne _ hid

/-- One step keeps the property exactly under the condition. -/
theorem trackingFollows_step {psk : PskSettings} {portal next : GuestPortal} {op : GuestOp}
    (hstep : step psk portal op = some next) (htracks : portal.TracksEndpoints)
    (hfollows : portal.TrackingFollows) : next.TrackingFollows ↔ FollowsOp psk portal op := by
  cases op with
  | tick now => exact iff_of_true (trackingFollows_tick hstep hfollows) trivial
  | create mac attrs autoTag stamp newId located ok =>
      exact trackingFollows_create hstep htracks hfollows
  | update endpointId attrs autoTag before stamp ok => exact trackingFollows_update hstep hfollows
  | applyTemplate endpointId templateAttrs ok =>
      exact trackingFollows_applyTemplate hstep hfollows
  | delete endpointId ok => exact iff_of_true (trackingFollows_delete hstep hfollows) trivial
  | beginCheck => exact iff_of_true (trackingFollows_beginCheck hstep hfollows) trivial
  | iseAnswered ok => exact trackingFollows_iseAnswered hstep hfollows

/-- In every run from a state where the store follows the merged attributes and tracks no
endpoint ISE does not have, it follows them in every state exactly when every write of the run
is one it follows. -/
theorem guest_tracking_follows_iff (psk : PskSettings) (start : GuestPortal)
    (ops : List GuestOp) (htracks : start.TracksEndpoints) (hfollows : start.TrackingFollows) :
    Always (step psk) TrackingFollows start ops ↔ Guarded (step psk) (FollowsOp psk) start ops :=
  always_iff_guarded (I := TracksEndpoints)
    (fun _ _ _ hstep htracks => tracksEndpoints_step hstep htracks)
    (fun _ _ _ hstep htracks hfollows => trackingFollows_step hstep htracks hfollows)
    htracks hfollows

/-- The portal without endpoints. -/
theorem trackingFollows_empty (now : Time) : TrackingFollows { now := now } := by
  intro id stored hstored
  cases hstored

omit [PyText] [PyCalendar] in
theorem tracksEndpoints_empty (now : Time) : TracksEndpoints { now := now } :=
  fun _ _ => rfl

/-- In every run from the start of the portal no row is left without its endpoint. -/
theorem guest_rows_have_endpoints (psk : PskSettings) (now : Time) (ops : List GuestOp) :
    Always (step psk) TracksEndpoints { now := now } ops :=
  always_of_step (fun _ _ _ hstep htracks => tracksEndpoints_step hstep htracks) ops
    (tracksEndpoints_empty now)

end GuestPortal

end Steps

section Described

local instance describedText : PyText := asciiText

local instance describedDates : PyCalendar := paddedDates

/-- A policy every key meets. -/
def openPolicy : PskSettings where
  policy := { minLength := 0, requireUppercase := false, requireNumbers := false,
              requireSpecial := false }

/-- A guest is registered with a date to come, and then only the description of the endpoint
is changed: the request has no attribute block. -/
def describedGuest : List GuestOp :=
  [.create "AA:BB:CC:00:00:01"
      (some { guestRegistration := "true", guestExperyDate := some "2026-02-01:12:00" })
      none "2026-01-01T12:00:00Z" "ep-1" true true,
    .update "ep-1" none none
      (some { id := "ep-1", name := "AA:BB:CC:00:00:01", mac := "AA:BB:CC:00:00:01",
              createTime := "2026-01-01T12:00:00Z", activeStatus := "Aktiv" })
      "2026-01-02T12:00:00Z" true]

theorem guest_tracking_follows_described :
    Always (GuestPortal.step openPolicy) GuestPortal.TrackingFollows { now := 1085335200 }
        describedGuest ↔
      Guarded (GuestPortal.step openPolicy) (GuestPortal.FollowsOp openPolicy)
        { now := 1085335200 } describedGuest :=
  GuestPortal.guest_tracking_follows_iff openPolicy { now := 1085335200 } describedGuest
    (GuestPortal.tracksEndpoints_empty _) (GuestPortal.trackingFollows_empty _)

/-- The change of the description ends the tracking of the guest. -/
theorem guest_tracking_lost :
    ((run (GuestPortal.step openPolicy) { now := 1085335200 } describedGuest).map fun portal =>
        ((portal.ise.get? "ep-1").map fun stored =>
          (Attrs.attr stored guestRegistrationAttr, Attrs.attr stored guestExperyDateAttr),
          portal.store.get? "ep-1")) =
      some (some ("true", "2026-02-01:12:00"), none) ∧
    ¬ Always (GuestPortal.step openPolicy) GuestPortal.TrackingFollows { now := 1085335200 }
      describedGuest := by
  have hrun : (run (GuestPortal.step openPolicy) { now := 1085335200 } describedGuest).map
        (fun portal => (portal.now, (portal.ise.get? "ep-1").map fun stored =>
          (Attrs.attr stored guestRegistrationAttr, Attrs.attr stored guestExperyDateAttr),
          portal.store.get? "ep-1")) =
      some (1085335200, some ("true", "2026-02-01:12:00"), none) := by decide
  obtain ⟨final, hfinal, hfields⟩ := Option.map_eq_some_iff.mp hrun
  simp only [Prod.mk.injEq] at hfields
  obtain ⟨hclock, hattrs, hrow⟩ := hfields
  refine ⟨by rw [hfinal, Option.map_some, hattrs, hrow], fun halways => ?_⟩
  obtain ⟨stored, hstored, hvalues⟩ := Option.map_eq_some_iff.mp hattrs
  simp only [Prod.mk.injEq] at hvalues
  obtain ⟨hreg, hdate⟩ := hvalues
  have hfollows := halways.last hfinal "ep-1" stored hstored
  rw [hrow, GuestPortal.rowFollows_none, hclock, hreg, hdate] at hfollows
  exact hfollows ⟨by decide, by decide, 1085379120, by decide, by decide⟩

end Described

end IsePortal
