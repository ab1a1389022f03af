import Mathlib.Algebra.Order.Field.Rat
import Mathlib.Tactic.FieldSimp
import Mathlib.Tactic.Linarith
import Mathlib.Tactic.NormNum

/-!
# Floats as Python sees them

The finite numbers, the two infinities and the number that is none, with the operators of Python:
a division by zero raises, comparisons with `nan` are false, and `max` and `min` keep their first
argument then. Finite numbers are exact.
-/

namespace IsePortal

inductive PyFloat where
  | nan
  | negInf
  | fin (value : Rat)
  | posInf
  deriving DecidableEq

namespace PyFloat

/-- `first < second` -/
def lt : PyFloat → PyFloat → Bool
  | nan, _ => false
  | _, nan => false
  | fin value, fin other => value < other
  | negInf, negInf => false
  | negInf, _ => true
  | fin _, posInf => true
  | fin _, negInf => false
  | posInf, _ => false

/-- `first <= second` -/
def le : PyFloat → PyFloat → Bool
  | nan, _ => false
  | _, nan => false
  | fin value, fin other => value ≤ other
  | negInf, _ => true
  | _, posInf => true
  | _, negInf => false
  | posInf, fin _ => false

def neg : PyFloat → PyFloat
  | nan => nan
  | negInf => posInf
  | fin value => fin (-value)
  | posInf => negInf

def add : PyFloat → PyFloat → PyFloat
  | nan, _ => nan
  | _, nan => nan
  | fin value, fin other => fin (value + other)
  | posInf, negInf => nan
  | negInf, posInf => nan
  | posInf, _ => posInf
  | _, posInf => posInf
  | negInf, _ => negInf
  | _, negInf => negInf

def sub (first second : PyFloat) : PyFloat := first.add second.neg

/-- An infinity times a number: its sign decides. -/
def infTimes (sign : Rat) : PyFloat := if 0 < sign then posInf else if sign < 0 then negInf else nan

def mul : PyFloat → PyFloat → PyFloat
  | nan, _ => nan
  | _, nan => nan
  | fin value, fin other => fin (value * other)
  | posInf, fin other => infTimes other
  | negInf, fin other => infTimes (-other)
  | fin value, posInf => infTimes value
  | fin value, negInf => infTimes (-value)
  | posInf, posInf => posInf
  | negInf, negInf => posInf
  | _, _ => negInf

/-- `first / second`; `none` is `ZeroDivisionError`. -/
def div (first second : PyFloat) : Option PyFloat :=
  if second = fin 0 then none
  else some
    (match first, second with
    | nan, _ => nan
    | _, nan => nan
    | fin value, fin other => fin (value / other)
    | fin _, _ => fin 0
    | posInf, fin other => infTimes other
    | negInf, fin other => infTimes (-other)
    | _, _ => nan)

/-- `max(first, second)` -/
def max (first second : PyFloat) : PyFloat := if first.lt second then second else first

/-- `min(first, second)` -/
def min (first second : PyFloat) : PyFloat := if second.lt first then second else first

/-- A finite number that is at least the bound. -/
def FiniteFrom (bound : Rat) (number : PyFloat) : Prop :=
  ∃ value, number = fin value ∧ bound ≤ value

variable {bound value : Rat} {number : PyFloat}

theorem FiniteFrom.mono {other : Rat} (h : FiniteFrom bound number) (hle : other ≤ bound) :
    FiniteFrom other number := by
  obtain ⟨value, hvalue, hbound⟩ := h
  exact ⟨value, hvalue, hle.trans hbound⟩

theorem div_fin_ne_zero {other : Rat} (hother : other ≠ 0) :
    (fin value).div (fin other) = some (fin (value / other)) := by
  rw [div, if_neg fun h => hother (PyFloat.fin.inj h)]

theorem posInf_div {other : Rat} (hother : 0 < other) : posInf.div (fin other) = some posInf := by
  rw [div, if_neg fun h => hother.ne' (PyFloat.fin.inj h)]
  exact congrArg some (if_pos hother)

/-- A division by a positive number gives infinity from infinity alone. -/
theorem div_pos {other : Rat} (hother : 0 < other) :
    ∃ result, number.div (fin other) = some result ∧ (result = posInf ↔ number = posInf) := by
  cases number with
  | nan => exact ⟨nan, by rw [div, if_neg fun h => hother.ne' (PyFloat.fin.inj h)], by simp⟩
  | negInf =>
      refine ⟨negInf, ?_, by simp⟩
      rw [div, if_neg fun h => hother.ne' (PyFloat.fin.inj h)]
      simp only [infTimes, neg_pos, Left.neg_neg_iff]
      rw [if_neg (not_lt.mpr hother.le), if_pos hother]
  | fin value => exact ⟨_, div_fin_ne_zero hother.ne', by simp⟩
  | posInf => exact ⟨posInf, posInf_div hother, by simp⟩

end PyFloat

end IsePortal
