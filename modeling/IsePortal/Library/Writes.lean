import IsePortal.Library.Dict

/-!
# Lists of writes

A list of writes to a dictionary, performed in order: of several writes to one key the last one
stays, and a key that is not written keeps its value. So the writes change nothing exactly when the
last write to each key brings the value it has (`same_write_iff`).
-/

namespace IsePortal.Library.Dict

universe u v

variable {κ : Type u} {α : Type v} [DecidableEq κ]

/-- Perform the writes in order. -/
def write (d : Dict κ α) (writes : List (κ × α)) : Dict κ α :=
  writes.foldl (fun written entry => written.set entry.1 entry.2) d

/-- The two hold the same value under every key, in whatever order. -/
def Same (d other : Dict κ α) : Prop := ∀ key, d.get? key = other.get? key

variable {d other third : Dict κ α} {writes : List (κ × α)} {key : κ} {value : α}

theorem Same.refl (d : Dict κ α) : d.Same d := fun _ => rfl

theorem get?_write (d : Dict κ α) (writes : List (κ × α)) (key : κ) :
    (d.write writes).get? key = (writes.reverse.lookup key).or (d.get? key) :=
  get?_foldl_set_last writes d key

theorem write_append (d : Dict κ α) (first second : List (κ × α)) :
    d.write (first ++ second) = (d.write first).write second :=
  List.foldl_append

/-- A key that is not written keeps its value. -/
theorem get?_write_of_not_mem (d : Dict κ α) (h : key ∉ writes.map Prod.fst) :
    (d.write writes).get? key = d.get? key := by
  have hnone : writes.reverse.lookup key = none := by
    rw [List.lookup_eq_none_iff]
    intro entry hentry
    simp only [bne_iff_ne, ne_eq]
    intro heq
    exact h (List.mem_map.mpr ⟨entry, List.mem_reverse.mp hentry, heq.symm⟩)
  rw [get?_write, hnone, Option.none_or]

/-- A key that is written, always with the same value, has it. -/
theorem get?_write_of_mem (d : Dict κ α) (h : key ∈ writes.map Prod.fst)
    (hvalue : ∀ entry ∈ writes, entry.1 = key → entry.2 = value) :
    (d.write writes).get? key = some value := by
  rw [get?_write]
  cases hlast : writes.reverse.lookup key with
  | none =>
      obtain ⟨entry, hentry, rfl⟩ := List.mem_map.mp h
      have hmiss := List.lookup_eq_none_iff.mp hlast entry (List.mem_reverse.mpr hentry)
      simp at hmiss
  | some found =>
      have hmem := List.mem_reverse.mp (mem_of_lookup_eq_some hlast)
      have hfound : found = value := hvalue _ hmem rfl
      rw [Option.some_or, hfound]

/-- The writes change nothing exactly when the last write to each key brings the value it has. -/
theorem same_write_iff :
    (d.write writes).Same d ↔
      ∀ key value, writes.reverse.lookup key = some value → d.get? key = some value := by
  constructor
  · intro hsame key value hlast
    rw [← hsame key, get?_write, hlast, Option.some_or]
  · intro hlast key
    rw [get?_write]
    cases hfound : writes.reverse.lookup key with
    | none => exact Option.none_or
    | some value => rw [Option.some_or, hlast key value hfound]

end IsePortal.Library.Dict
