import Mathlib.Data.List.Basic

/-!
# Pages of a listing

A listing is fetched page by page, the first page being page 1, until a page is short or as many
items have come as there are. The pages up to one are the first items of the listing
(`take_append_pageOf`), and all of them where that page is short.
-/

namespace IsePortal.Library

universe u

variable {α : Type u}

/-- One page of so many items. -/
def pageOf (size : Nat) (items : List α) (page : Nat) : List α :=
  (items.drop ((page - 1) * size)).take size

variable {size page : Nat} {items : List α}

/-- The pages before one and that one. -/
theorem take_append_pageOf (hpage : 1 ≤ page) :
    items.take ((page - 1) * size) ++ pageOf size items page = items.take (page * size) := by
  have hnext : page * size = (page - 1) * size + size := by
    rw [← Nat.succ_mul, Nat.succ_eq_add_one, Nat.sub_add_cancel hpage]
  rw [hnext, List.take_add]
  rfl

/-- Nothing is left before an empty page. -/
theorem take_of_empty (hsize : 0 < size) (hempty : pageOf size items page = []) :
    items.take ((page - 1) * size) = items := by
  refine List.take_of_length_le ?_
  have hlength := congrArg List.length hempty
  simp only [pageOf, List.length_take, List.length_drop, List.length_nil] at hlength
  omega

/-- The first page and the pages that follow it. -/
theorem append_flatMap_pageOf (items : List α) (size more : Nat) :
    pageOf size items 1 ++ (List.range' 2 more).flatMap (pageOf size items) =
      items.take ((more + 1) * size) := by
  induction more with
  | zero => simp [pageOf]
  | succ more ih =>
      rw [List.range'_1_concat, List.flatMap_append, ← List.append_assoc, ih,
        List.flatMap_singleton, Nat.add_comm 2 more]
      exact take_append_pageOf (Nat.le_add_left 1 (more + 1))

end IsePortal.Library
