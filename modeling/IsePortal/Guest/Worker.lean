import IsePortal.Guest.ExpiryStore
import IsePortal.Library.Runs

/-!
# The guest-expiry worker against new dates

`_check_once` of `app/services/guest_expiry_worker.py` lists the expired rows once, and then
waits for ISE for one endpoint after the other and removes the endpoint's row. While it waits,
`update_endpoint` and the self-registration go on setting dates. The ghost field `lastSet`
remembers the date each endpoint was given last. `guest_extension_kept_iff` says when no date
that is later than the check gets lost.
-/

namespace IsePortal

open Library

/-- The worker and the table it shares with the writers. -/
structure ExpiryWorker where
  store : GuestExpiryStore
  /-- `now` of the latest check. -/
  checkedAt : Time
  /-- The expired rows the check still has to handle; the worker waits for ISE for the first. -/
  pending : List ExpiredRow := []
  /-- The date set last for each endpoint, also when the row is gone. -/
  lastSet : EndpointId → Option String

/-- What happens to the worker and the table. -/
inductive WorkerEvent where
  /-- A writer calls `guest_expiry_store.upsert`. -/
  | upsert (endpointId : EndpointId) (mac expiryStr : String)
  /-- `_check_once` starts. -/
  | beginCheck (now : Time)
  /-- The ISE update of the first pending endpoint succeeds or raises. -/
  | iseAnswered (ok : Bool)
  deriving DecidableEq

namespace ExpiryWorker

/-- Before any check: the rows of the table were set before. -/
def start (store : GuestExpiryStore) (clock : Time) : ExpiryWorker where
  store := store
  checkedAt := clock
  lastSet endpointId := (store.get? endpointId).map GuestRow.expiryStr

section Steps

variable [PyCalendar]

/-- One step. A check starts when the last one is done, at a moment not before it. The row of
an endpoint is removed by id once ISE has taken the change, and kept when the change raised. -/
def step (worker : ExpiryWorker) (event : WorkerEvent) : Option ExpiryWorker :=
  match event with
  | .upsert endpointId mac expiryStr =>
      some { worker with
        store := worker.store.upsert endpointId mac expiryStr
        lastSet := fun id => if id = endpointId then some expiryStr else worker.lastSet id }
  | .beginCheck now =>
      if worker.pending = [] ∧ worker.checkedAt ≤ now then
        some { worker with
          checkedAt := now
          pending := (worker.store.listExpired now).1
          store := (worker.store.listExpired now).2 }
      else none
  | .iseAnswered ok =>
      match worker.pending with
      | [] => none
      | row :: rest =>
          some { worker with
            store := if ok then worker.store.remove row.endpointId else worker.store
            pending := rest }

/-- The date is later than the latest check. -/
def LaterThanCheck (worker : ExpiryWorker) (expiryStr : String) : Prop :=
  ∃ expiry, PyCalendar.strptime expiryStr = some expiry ∧ worker.checkedAt < expiry

/-- Every endpoint that was last given a date later than the latest check is in the table with
that date. -/
def KeepsExtensions (worker : ExpiryWorker) : Prop :=
  ∀ endpointId expiryStr, worker.lastSet endpointId = some expiryStr →
    worker.LaterThanCheck expiryStr →
      (worker.store.get? endpointId).map GuestRow.expiryStr = some expiryStr

/-- When ISE has taken the change for an endpoint, the date then in the table for it is not
later than the check. -/
def RemovesNoExtension (worker : ExpiryWorker) (event : WorkerEvent) : Prop :=
  match event with
  | .iseAnswered true =>
      ∀ row ∈ worker.pending.head?, ∀ stored, worker.store.get? row.endpointId = some stored →
        ¬ worker.LaterThanCheck stored.expiryStr
  | _ => True

omit [PyCalendar] in
/-- A row in the table holds the date that was set last. -/
def RowsAreLast (worker : ExpiryWorker) : Prop :=
  ∀ endpointId row, worker.store.get? endpointId = some row →
    worker.lastSet endpointId = some row.expiryStr

omit [PyCalendar] in
theorem rowsAreLast_start (store : GuestExpiryStore) (clock : Time) :
    (start store clock).RowsAreLast := by
  intro endpointId row hrow
  show (store.get? endpointId).map GuestRow.expiryStr = _
  rw [show store.get? endpointId = some row from hrow]
  rfl

theorem keepsExtensions_start (store : GuestExpiryStore) (clock : Time) :
    (start store clock).KeepsExtensions :=
  fun _ _ hlast _ => hlast

theorem rowsAreLast_step {worker next : ExpiryWorker} {event : WorkerEvent}
    (hstep : worker.step event = some next) (hrows : worker.RowsAreLast) : next.RowsAreLast := by
  intro id row hrow
  cases event with
  | upsert endpointId mac expiryStr =>
      cases hstep
      simp only [GuestExpiryStore.upsert, Dict.get?_set] at hrow ⊢
      by_cases hid : id = endpointId
      · simp only [hid, ↓reduceIte, Option.some.injEq] at hrow ⊢
        rw [← hrow]
      · simp only [hid, ↓reduceIte] at hrow ⊢
        exact hrows id row hrow
  | beginCheck now =>
      simp only [step] at hstep
      split at hstep
      · cases hstep
        exact hrows id row ((GuestExpiryStore.get?_listExpired ..).mp hrow).1
      · cases hstep
  | iseAnswered ok =>
      simp only [step] at hstep
      split at hstep
      · cases hstep
      · cases hstep
        cases ok with
        | false => exact hrows id row hrow
        | true =>
            -- the rows that are left were there before
            simp only [GuestExpiryStore.remove, ↓reduceIte, Dict.get?_erase] at hrow
            split at hrow
            · cases hrow
            · exact hrows id row hrow

theorem keepsExtensions_upsert {worker next : ExpiryWorker} {endpointId : EndpointId}
    {mac expiryStr : String} (hstep : worker.step (.upsert endpointId mac expiryStr) = some next)
    (hkeeps : worker.KeepsExtensions) : next.KeepsExtensions := by
  cases hstep
  intro id date hlast hlater
  simp only [GuestExpiryStore.upsert, Dict.get?_set] at hlast ⊢
  by_cases hid : id = endpointId
  · simpa [hid] using hlast
  · simp only [hid, ↓reduceIte] at hlast ⊢
    exact hkeeps id date hlast hlater

/-- A date later than the new check was later than the one before, and `list_expired` gives up
no row whose date can be read. -/
theorem keepsExtensions_beginCheck {worker next : ExpiryWorker} {now : Time}
    (hstep : worker.step (.beginCheck now) = some next) (hkeeps : worker.KeepsExtensions) :
    next.KeepsExtensions := by
  simp only [step] at hstep
  split at hstep
  · rename_i hguard
    cases hstep
    intro id date hlast hlater
    obtain ⟨expiry, hdate, hexpiry⟩ := hlater
    have hbefore : worker.LaterThanCheck date :=
      ⟨expiry, hdate, lt_of_le_of_lt hguard.2 hexpiry⟩
    obtain ⟨row, hrow, hsame⟩ := Option.map_eq_some_iff.mp (hkeeps id date hlast hbefore)
    have hread : PyCalendar.strptime row.expiryStr ≠ none := by simp [hsame, hdate]
    have hkept := (GuestExpiryStore.get?_listExpired now worker.store id row).mpr ⟨hrow, hread⟩
    show ((worker.store.listExpired now).2.get? id).map _ = _
    rw [hkept, Option.map_some, hsame]
  · cases hstep

theorem keepsExtensions_iseAnswered {worker next : ExpiryWorker} {ok : Bool}
    (hstep : worker.step (.iseAnswered ok) = some next) (hrows : worker.RowsAreLast)
    (hkeeps : worker.KeepsExtensions) :
    next.KeepsExtensions ↔ worker.RemovesNoExtension (.iseAnswered ok) := by
  simp only [step] at hstep
  split at hstep
  · cases hstep
  · rename_i row rest hpending
    cases hstep
    cases ok with
    | false => exact iff_of_true hkeeps trivial
    | true =>
        simp only [RemovesNoExtension, hpending, List.head?_cons, Option.mem_some_iff, forall_eq']
        constructor
        · -- the row is removed whatever it holds, so it must not hold a later date
          intro hnext stored hstored hlater
          have hlast := hrows _ _ hstored
          have hkept := hnext _ _ hlast hlater
          simp [GuestExpiryStore.remove] at hkept
        · intro hgood id date hlast hlater
          have hkept := hkeeps id date hlast hlater
          show ((worker.store.erase row.endpointId).get? id).map _ = _
          by_cases hid : id = row.endpointId
          · obtain ⟨stored, hstored, hsame⟩ := Option.map_eq_some_iff.mp hkept
            exact absurd (hsame ▸ hlater) (hgood stored (hid ▸ hstored))
          · rw [Dict.get?_erase_ne _ hid]
            exact hkept

/-- One step loses no date exactly under the condition. -/
theorem keepsExtensions_step {worker next : ExpiryWorker} {event : WorkerEvent}
    (hstep : worker.step event = some next) (hrows : worker.RowsAreLast)
    (hkeeps : worker.KeepsExtensions) :
    next.KeepsExtensions ↔ worker.RemovesNoExtension event := by
  cases event with
  | upsert endpointId mac expiryStr =>
      exact iff_of_true (keepsExtensions_upsert hstep hkeeps) trivial
  | beginCheck now => exact iff_of_true (keepsExtensions_beginCheck hstep hkeeps) trivial
  | iseAnswered ok => exact keepsExtensions_iseAnswered hstep hrows hkeeps

/-- In every run, from any table, no date later than the check gets lost exactly when every
row the worker removes holds no such date at that moment. -/
theorem guest_extension_kept_iff (store : GuestExpiryStore) (clock : Time)
    (events : List WorkerEvent) :
    Always step KeepsExtensions (start store clock) events ↔
      Guarded step RemovesNoExtension (start store clock) events :=
  always_iff_guarded (I := RowsAreLast)
    (fun _ _ _ hstep hrows => rowsAreLast_step hstep hrows)
    (fun _ _ _ hstep hrows hkeeps => keepsExtensions_step hstep hrows hkeeps)
    (rowsAreLast_start store clock) (keepsExtensions_start store clock)

end Steps

section Extended

local instance extendedDates : PyCalendar := paddedDates

/-- A guest whose access ended at noon. -/
def endedGuest : GuestExpiryStore :=
  GuestExpiryStore.upsert Dict.empty "ep-1" "AA:BB:CC:00:00:01" "2026-01-01:12:00"

/-- The check finds the guest at midnight, a month is granted while the worker waits for ISE,
and ISE takes the change. -/
def extendedWhileWaiting : List WorkerEvent :=
  [.beginCheck 1085335200, .upsert "ep-1" "AA:BB:CC:00:00:01" "2026-02-01:12:00",
    .iseAnswered true]

/-- The month granted while the worker waits is removed with the row. -/
theorem guest_extension_lost :
    (run step (start endedGuest 0) extendedWhileWaiting).map
        (fun worker => (worker.lastSet "ep-1", worker.store.get? "ep-1")) =
      some (some "2026-02-01:12:00", none) ∧
    ¬ Always step KeepsExtensions (start endedGuest 0) extendedWhileWaiting := by
  have hrun : (run step (start endedGuest 0) extendedWhileWaiting).map
        (fun worker => (worker.checkedAt, worker.lastSet "ep-1", worker.store.get? "ep-1")) =
      some (1085335200, some "2026-02-01:12:00", none) := by decide
  obtain ⟨final, hfinal, hfields⟩ := Option.map_eq_some_iff.mp hrun
  simp only [Prod.mk.injEq] at hfields
  obtain ⟨hclock, hlast, hrow⟩ := hfields
  refine ⟨by rw [hfinal, Option.map_some, hlast, hrow], fun halways => ?_⟩
  have hlater : final.LaterThanCheck "2026-02-01:12:00" := by
    unfold LaterThanCheck
    rw [hclock]
    exact ⟨1085379120, by decide, by decide⟩
  have hkept := halways.last hfinal _ _ hlast hlater
  rw [hrow] at hkept
  cases hkept

end Extended

end ExpiryWorker

end IsePortal
