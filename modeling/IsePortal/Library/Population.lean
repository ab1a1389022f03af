import Mathlib.Algebra.Order.Group.Int
import Mathlib.Data.List.Count
import Mathlib.Tactic.Linarith

/-!
# Populations from starts and ends

Items with a day they start on and perhaps a day they end on. How many stand at the end of a day
changes by the starts and the ends of the day (`countP_stands_succ`), so the numbers of all days
are rebuilt backwards from the last one (`backwards_eq`).
-/

namespace IsePortal.Library.Population

universe u

variable {α : Type u} {start : α → Int} {stop : α → Option Int}

/-- The item stands at the end of the day. -/
def stands (start : α → Int) (stop : α → Option Int) (day : Int) (item : α) : Bool :=
  decide (start item ≤ day) && (stop item).all (decide <| day < ·)

theorem stands_iff {day : Int} {item : α} :
    stands start stop day item = true ↔
      start item ≤ day ∧ ∀ last, stop item = some last → day < last := by
  rw [stands, Bool.and_eq_true, decide_eq_true_eq]
  cases stop item with
  | none => simp
  | some last => simp

/-- The number of standing items changes by what starts and what ends on the day. -/
theorem countP_stands_succ (items : List α)
    (hlife : ∀ item ∈ items, ∀ last, stop item = some last → start item ≤ last) (day : Int) :
    (items.countP (stands start stop (day + 1)) : Int) -
        items.countP (stands start stop day) =
      items.countP (fun item => start item = day + 1) -
        items.countP (fun item => stop item = some (day + 1)) := by
  induction items with
  | nil => rfl
  | cons item rest ih =>
      have hrest := ih fun other hother => hlife other (List.mem_cons_of_mem _ hother)
      have hitem := hlife item List.mem_cons_self
      have hstep : ((if stands start stop (day + 1) item then 1 else 0 : Nat) : Int) -
          (if stands start stop day item then 1 else 0 : Nat) =
          (if decide (start item = day + 1) then 1 else 0 : Nat) -
            (if decide (stop item = some (day + 1)) then 1 else 0 : Nat) := by
        simp only [stands_iff, decide_eq_true_eq]
        cases hstop : stop item with
        | none =>
            simp only [reduceCtorEq, false_implies, implies_true, and_true, if_false]
            split_ifs <;> omega
        | some last =>
            have hle := hitem last hstop
            simp only [Option.some.injEq, forall_eq']
            split_ifs <;> omega
      simp only [List.countP_cons, Nat.cast_add]
      linarith

/-- Two counts make the same sum as two others when each item is counted alike. -/
theorem countP_add_eq {items : List α} {p q r s : α → Bool}
    (h : ∀ item ∈ items, (if p item then 1 else 0) + (if q item then 1 else 0) =
      (if r item then 1 else 0) + (if s item then 1 else 0)) :
    items.countP p + items.countP q = items.countP r + items.countP s := by
  induction items with
  | nil => rfl
  | cons item rest ih =>
      have hrest := ih fun other hother => h other (List.mem_cons_of_mem _ hother)
      have hitem := h item List.mem_cons_self
      simp only [List.countP_cons]
      omega

/-- The last number, and before each number the one that the net change of its day leads to it
from, never below zero. -/
def backwards (total : Int) (nets : List Int) : List Int :=
  nets.foldr (fun net curve => max 0 (curve.headD 0 - net) :: curve) [total]

/-- Numbers that are never negative are rebuilt from the last one and their differences. -/
theorem backwards_eq (nets : List Int) {f : Nat → Int} (hnonneg : ∀ i, 0 ≤ f i)
    (hnet : ∀ i (h : i < nets.length), f (i + 1) - f i = nets[i]) :
    backwards (f nets.length) nets = (List.range (nets.length + 1)).map f := by
  induction nets generalizing f with
  | nil => rfl
  | cons net rest ih =>
      have hrest : backwards (f (rest.length + 1)) rest =
          (List.range (rest.length + 1)).map fun i => f (i + 1) :=
        ih (fun i => hnonneg (i + 1)) fun i hi =>
          hnet (i + 1) (by rw [List.length_cons]; exact Nat.succ_lt_succ hi)
      have hfirst : f 1 - f 0 = net := hnet 0 (by rw [List.length_cons]; exact Nat.succ_pos _)
      have hzero : max 0 (f 1 - net) = f 0 := by
        have hle := hnonneg 0
        omega
      have hcons : backwards (f (rest.length + 1)) (net :: rest) =
          max 0 ((backwards (f (rest.length + 1)) rest).headD 0 - net) ::
            backwards (f (rest.length + 1)) rest := rfl
      have hhead : ((List.range (rest.length + 1)).map fun i => f (i + 1)).headD 0 = f 1 := by
        rw [List.range_succ_eq_map]
        rfl
      rw [List.length_cons, hcons, hrest, hhead, hzero,
        List.range_succ_eq_map (n := rest.length + 1), List.map_cons, List.map_map]
      rfl

end IsePortal.Library.Population
