import IsePortal.Library.Buckets

/-!
# Renaming the keys of a dictionary

The entries of a dictionary are stored anew under other keys. Where two keys become one, their
values are combined in the order of the entries.
-/

namespace IsePortal.Library

universe u v

/-- The values from the first on, combined. -/
def combineAll {α : Type v} (combine : α → α → α) : List α → Option α
  | [] => none
  | value :: rest => some (rest.foldl combine value)

namespace Dict

variable {κ : Type u} {α : Type v} [DecidableEq κ]

/-- Store a value, combined with the one that is there. -/
def setCombined (combine : α → α → α) (d : Dict κ α) (key : κ) (value : α) : Dict κ α :=
  d.set key (match d.get? key with
    | some old => combine old value
    | none => value)

/-- The entries under their new keys. -/
def rekey (move : κ → κ) (combine : α → α → α) (d : Dict κ α) : Dict κ α :=
  d.entries.foldl (fun out entry => out.setCombined combine (move entry.1) entry.2) .empty

/-- The values that come together under a key, in the order of the entries. -/
def movedTo (move : κ → κ) (d : Dict κ α) (key : κ) : List α :=
  (d.entries.filter fun entry => move entry.1 = key).map Prod.snd

theorem get?_setCombined (combine : α → α → α) (d : Dict κ α) (key other : κ) (value : α) :
    (d.setCombined combine key value).get? other =
      if other = key then combineAll combine ((d.get? key).toList ++ [value])
      else d.get? other := by
  rw [setCombined, get?_set]
  by_cases hother : other = key
  · cases hkey : d.get? key <;> simp [hother, combineAll]
  · simp [hother]

theorem get?_foldl_setCombined (move : κ → κ) (combine : α → α → α) (entries : List (κ × α))
    (out : Dict κ α) (key : κ) :
    (entries.foldl (fun out entry => out.setCombined combine (move entry.1) entry.2) out).get? key =
      combineAll combine ((out.get? key).toList ++
        (entries.filter fun entry => move entry.1 = key).map Prod.snd) := by
  induction entries generalizing out with
  | nil => cases hkey : out.get? key <;> simp [hkey, combineAll]
  | cons entry rest ih =>
      rw [List.foldl_cons, ih, get?_setCombined]
      by_cases hmove : move entry.1 = key
      · cases hold : out.get? key <;> simp [hmove, hold, combineAll]
      · have hne : key ≠ move entry.1 := fun heq => hmove heq.symm
        simp [hmove, hne]

theorem get?_rekey (move : κ → κ) (combine : α → α → α) (d : Dict κ α) (key : κ) :
    (d.rekey move combine).get? key = combineAll combine (d.movedTo move key) := by
  rw [rekey, get?_foldl_setCombined]
  rfl

theorem mem_movedTo {move : κ → κ} {d : Dict κ α} {key : κ} {value : α} :
    value ∈ d.movedTo move key ↔ ∃ old, d.get? old = some value ∧ move old = key := by
  simp only [movedTo, List.mem_map, List.mem_filter, decide_eq_true_iff, Prod.exists,
    get?_eq_some_iff]
  constructor
  · rintro ⟨old, _, ⟨hentry, hmove⟩, rfl⟩
    exact ⟨old, hentry, hmove⟩
  · rintro ⟨old, hentry, hmove⟩
    exact ⟨old, value, ⟨hentry, hmove⟩, rfl⟩

/-- A key that no other one becomes keeps its value. -/
theorem get?_rekey_of_unmoved {move : κ → κ} (combine : α → α → α) (d : Dict κ α) {key : κ}
    (h : ∀ old, move old = key ↔ old = key) : (d.rekey move combine).get? key = d.get? key := by
  have hfilter : (d.entries.filter fun entry => move entry.1 = key) =
      d.entries.filter fun entry => entry.1 = key := by
    simp only [h]
  rw [get?_rekey, movedTo, hfilter]
  cases hkey : d.get? key with
  | none =>
      have hnone : (d.entries.filter fun entry => entry.1 = key) = [] := by
        refine List.filter_eq_nil_iff.mpr fun entry hentry heq => ?_
        have hmem : key ∈ d.keys :=
          List.mem_map.mpr ⟨entry, hentry, of_decide_eq_true heq⟩
        exact get?_eq_none_iff.mp hkey hmem
      rw [hnone]
      rfl
  | some value =>
      rw [filter_key hkey]
      rfl

end Dict

/-! ## Combining -/

variable {α : Type v}

/-- The first value stays. -/
theorem combineAll_first (values : List α) :
    combineAll (fun old _ => old) values = values.head? := by
  cases values with
  | nil => rfl
  | cons value rest =>
      rw [combineAll, List.head?_cons]
      exact congrArg some (List.foldl_fixed rest)

theorem combineAll_append (lists : List (List α)) :
    (combineAll (· ++ ·) lists).getD [] = lists.flatten := by
  cases lists with
  | nil => rfl
  | cons first rest =>
      have hfold := @List.foldl_append_eq_append (List α) α rest id first
      rw [List.map_id] at hfold
      exact hfold

/-- Where combining puts the elements of two values together, what is combined has those of all. -/
theorem mem_combineAll {β : Type u} {combine : List β → List β → List β}
    (hcombine : ∀ first second b, b ∈ combine first second ↔ b ∈ first ∨ b ∈ second)
    (lists : List (List β)) (b : β) :
    b ∈ (combineAll combine lists).getD [] ↔ ∃ list ∈ lists, b ∈ list := by
  cases lists with
  | nil => simp [combineAll]
  | cons first rest =>
      rw [combineAll, Option.getD_some]
      induction rest generalizing first with
      | nil => simp
      | cons second rest ih =>
          rw [List.foldl_cons, ih]
          simp [hcombine, or_assoc]

end IsePortal.Library
