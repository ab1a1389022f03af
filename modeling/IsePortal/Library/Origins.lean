import IsePortal.Library.Dict

/-!
# Where stored values come from

A `Sourced` value carries the source it was read from. `Dict.Each` says that every value of a
dictionary meets a condition, as that its source is still good; it is kept by every operation that
brings in no other value.
-/

namespace IsePortal.Library

universe u v w

/-- A value with the source it was read from. -/
structure Sourced (ω : Type u) (α : Type v) where
  value : α
  source : ω

/-- Every value of the dictionary meets the condition. -/
def Dict.Each {κ : Type u} {α : Type v} [DecidableEq κ] (P : α → Prop) (d : Dict κ α) : Prop :=
  ∀ key value, d.get? key = some value → P value

section Each

variable {κ : Type u} {α : Type v} [DecidableEq κ] {P Q : α → Prop} {d : Dict κ α}

theorem Dict.each_empty : (Dict.empty : Dict κ α).Each P := by
  intro key value h
  cases h

theorem Dict.Each.mono (h : d.Each P) (himp : ∀ value, P value → Q value) : d.Each Q :=
  fun key value hvalue => himp value (h key value hvalue)

/-- A value that is stored takes the place of another one at most. -/
theorem Dict.Each.set (h : d.Each P) {key : κ} {value : α} (hvalue : P value) :
    (d.set key value).Each P := by
  intro other found hfound
  rw [Dict.get?_set] at hfound
  split at hfound
  · cases hfound
    exact hvalue
  · exact h other found hfound

theorem Dict.Each.erase (h : d.Each P) (key : κ) : (d.erase key).Each P := by
  intro other found hfound
  rw [Dict.get?_erase] at hfound
  split at hfound
  · cases hfound
  · exact h other found hfound

/-- The condition, seen at the entries. -/
theorem Dict.each_iff_entries : d.Each P ↔ ∀ entry ∈ d.entries, P entry.2 := by
  constructor
  · intro h entry hentry
    exact h entry.1 entry.2 (Dict.get?_eq_some_iff.mpr hentry)
  · intro h key value hvalue
    exact h (key, value) (Dict.get?_eq_some_iff.mp hvalue)

end Each

end IsePortal.Library
