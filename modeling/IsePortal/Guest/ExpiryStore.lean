import IsePortal.Library.Dict
import IsePortal.Schema.Endpoint
import Mathlib.Algebra.Order.Ring.Unbundled.Rat

/-!
# The guest-expiry store

The table of `app/core/guest_expiry_store.py`: the endpoints whose guest access ends at a
known date. The column `registered_at` is left out, only the backup reads it.
-/

namespace IsePortal

open Library

/-- One row of the table `guest_expiry`. -/
structure GuestRow where
  mac : String
  expiryStr : String
  deriving DecidableEq

/-- The table, by endpoint id. -/
abbrev GuestExpiryStore := Dict EndpointId GuestRow

/-- One entry of the list `list_expired` returns. -/
structure ExpiredRow where
  endpointId : EndpointId
  mac : String
  expiryStr : String
  deriving DecidableEq

namespace GuestExpiryStore

/-- `upsert` -/
def upsert (rows : GuestExpiryStore) (endpointId : EndpointId) (mac expiryStr : String) :
    GuestExpiryStore :=
  rows.set endpointId { mac := mac, expiryStr := expiryStr }

/-- `remove` -/
def remove (rows : GuestExpiryStore) (endpointId : EndpointId) : GuestExpiryStore :=
  rows.erase endpointId

variable [PyCalendar]

/-- One pass of the loop of `list_expired` over the rows it fetched. -/
def expiredPass (now : Time) (found : List ExpiredRow × GuestExpiryStore)
    (entry : EndpointId × GuestRow) : List ExpiredRow × GuestExpiryStore :=
  match PyCalendar.strptime entry.2.expiryStr with
  -- a date in another form can never expire, so its row is given up
  | none => (found.1, remove found.2 entry.1)
  | some expiry =>
      if expiry ≤ now then
        (found.1 ++ [{ endpointId := entry.1, mac := entry.2.mac,
                       expiryStr := entry.2.expiryStr }], found.2)
      else found

/-- `list_expired`: the rows whose date has come, and the table without the rows whose date
has another form. -/
def listExpired (now : Time) (rows : GuestExpiryStore) : List ExpiredRow × GuestExpiryStore :=
  rows.entries.foldl (expiredPass now) ([], rows)

theorem get?_expiredPass (now : Time) (found : List ExpiredRow × GuestExpiryStore)
    (entry : EndpointId × GuestRow) (id : EndpointId) (row : GuestRow) :
    (expiredPass now found entry).2.get? id = some row ↔
      found.2.get? id = some row ∧
        (id = entry.1 → PyCalendar.strptime entry.2.expiryStr ≠ none) := by
  unfold expiredPass
  cases hdate : PyCalendar.strptime entry.2.expiryStr with
  | none =>
      simp only [remove, Dict.get?_erase]
      split
      · simp [*]
      · simp [*]
  | some expiry =>
      dsimp only
      split <;> simp

theorem get?_foldl_expiredPass (now : Time) (entries : List (EndpointId × GuestRow))
    (found : List ExpiredRow × GuestExpiryStore) (id : EndpointId) (row : GuestRow) :
    (entries.foldl (expiredPass now) found).2.get? id = some row ↔
      found.2.get? id = some row ∧ ∀ entry ∈ entries, id = entry.1 →
        PyCalendar.strptime entry.2.expiryStr ≠ none := by
  induction entries generalizing found with
  | nil => simp
  | cons entry rest ih =>
      rw [List.foldl_cons, ih, get?_expiredPass, List.forall_mem_cons, and_assoc]

/-- `list_expired` only removes rows whose date has another form. -/
theorem get?_listExpired (now : Time) (rows : GuestExpiryStore) (id : EndpointId)
    (row : GuestRow) :
    (listExpired now rows).2.get? id = some row ↔
      rows.get? id = some row ∧ PyCalendar.strptime row.expiryStr ≠ none := by
  rw [listExpired, get?_foldl_expiredPass]
  refine and_congr_right fun hrow => ?_
  constructor
  · intro h
    exact h (id, row) (Dict.get?_eq_some_iff.mp hrow) rfl
  · intro h entry hentry hid
    have hother : rows.get? id = some entry.2 :=
      Dict.get?_eq_some_iff.mpr (by rw [hid]; exact hentry)
    rw [show rows.get? id = some row from hrow, Option.some.injEq] at hother
    exact hother ▸ h

end GuestExpiryStore

end IsePortal
