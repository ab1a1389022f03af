import IsePortal.Library.Dict
import IsePortal.Platform.Text
import Mathlib.Data.Rat.Defs
import Mathlib.Algebra.Order.Ring.Unbundled.Rat

/-!
# The first-seen store

The table of `app/core/first_seen_store.py`: when the portal saw a MAC address for the first
time. A row is never dropped, `delete` only stamps `deleted_at`, and a stamped row counts as
removed in every report.
-/

namespace IsePortal

open Library

/-- One row of the table `first_seen`. -/
structure FirstSeenRow where
  firstSeenAt : Time
  endpointId : String := ""
  deletedAt : Option Time := none
  deriving DecidableEq

/-- The table, by MAC address. -/
abbrev FirstSeenStore := Dict String FirstSeenRow

namespace FirstSeenStore

variable [PyText]

/-- The key both functions derive from a MAC: `mac.upper().strip()`. -/
def macKey (mac : String) : String := PyText.strip (PyText.upper mac)

/-- `record`: the first observation is kept, unless the id of the MAC changed. A timestamp
given as seed is used unless it is zero or in the future. -/
def record (now : Time) (rows : FirstSeenStore) (mac : String) (endpointId : String)
    (seedTs : Option Time) : FirstSeenStore × Time :=
  if macKey mac = "" then (rows, now)
  else
    let insertTs :=
      match seedTs with
      | some seed => if seed ≠ 0 ∧ seed ≤ now then seed else now
      | none => now
    match rows.get? (macKey mac) with
    | none =>
        (rows.set (macKey mac) { firstSeenAt := insertTs, endpointId := endpointId }, insertTs)
    | some row =>
        if endpointId ≠ "" ∧ row.endpointId ≠ "" ∧ row.endpointId ≠ endpointId then
          (rows.set (macKey mac) { firstSeenAt := now, endpointId := endpointId }, now)
        else (rows.set (macKey mac) { row with deletedAt := none }, row.firstSeenAt)

/-- Stamp a row that is not stamped yet. -/
def stampDeleted (now : Time) (row : FirstSeenRow) : FirstSeenRow :=
  match row.deletedAt with
  | none => { row with deletedAt := some now }
  | some _ => row

/-- `delete`: stamp the row of the MAC. -/
def delete (now : Time) (rows : FirstSeenStore) (mac : String) : FirstSeenStore :=
  if macKey mac = "" then rows else rows.modify (macKey mac) (stampDeleted now)

omit [PyText] in
/-- The key has a row that is not stamped. -/
def Live (rows : FirstSeenStore) (key : String) : Prop :=
  ∃ row, rows.get? key = some row ∧ row.deletedAt = none

omit [PyText] in
theorem stampDeleted_deletedAt (now : Time) (row : FirstSeenRow) :
    (stampDeleted now row).deletedAt ≠ none := by
  unfold stampDeleted
  cases h : row.deletedAt with
  | none => simp
  | some stamp => simp [h]

/-- After `delete`, the row of that MAC is removed and every other row is as live as before. -/
theorem live_delete (now : Time) (rows : FirstSeenStore) (mac key : String) :
    Live (delete now rows mac) key ↔ Live rows key ∧ (key = "" ∨ key ≠ macKey mac) := by
  unfold delete
  by_cases hempty : macKey mac = ""
  · simp [hempty]
    intro _
    exact Classical.em _
  · by_cases hkey : key = macKey mac
    · subst hkey
      have hgone : ¬ Live (rows.modify (macKey mac) (stampDeleted now)) (macKey mac) := by
        intro hgiven
        obtain ⟨row, hrow, hlive⟩ := hgiven
        rw [Dict.get?_modify, if_pos rfl] at hrow
        obtain ⟨old, -, rfl⟩ := Option.map_eq_some_iff.mp hrow
        exact stampDeleted_deletedAt now old hlive
      simp [hempty, hgone]
    · simp [hempty, Live, Dict.get?_modify, hkey]

end FirstSeenStore

end IsePortal
