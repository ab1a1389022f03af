import Mathlib.Data.List.Basic

/-!
# Queues of bounded size

A first-in first-out queue with a maximal size, where size zero stands for no bound. `put?` fails on
a full queue and `get?` on an empty one. `offer` is the producer that never waits: where the queue
is full it drops the oldest item and puts the new one in.
-/

namespace IsePortal.Library

universe u

/-- A queue, oldest item first; it never holds more than `maxsize` items. -/
structure BoundedQueue (α : Type u) where
  maxsize : Nat
  items : List α
  fits : maxsize ≠ 0 → items.length ≤ maxsize

namespace BoundedQueue

variable {α : Type u}

/-- The empty queue of a size. -/
def empty (maxsize : Nat) : BoundedQueue α := ⟨maxsize, [], fun _ => Nat.zero_le maxsize⟩

def full (queue : BoundedQueue α) : Bool :=
  queue.maxsize ≠ 0 && queue.maxsize ≤ queue.items.length

/-- Put an item in at the end, unless the queue is full. -/
def put? (queue : BoundedQueue α) (item : α) : Option (BoundedQueue α) :=
  if hfull : queue.full = true then none
  else
    some
      { maxsize := queue.maxsize
        items := queue.items ++ [item]
        fits := by
          intro hmax
          simp only [full, Bool.and_eq_true, decide_eq_true_eq, not_and, Nat.not_le] at hfull
          have hroom := hfull hmax
          rw [List.length_append, List.length_singleton]
          omega }

/-- Take the oldest item out. -/
def get? (queue : BoundedQueue α) : Option (α × BoundedQueue α) :=
  match hitems : queue.items with
  | [] => none
  | item :: rest =>
      some (item,
        { maxsize := queue.maxsize
          items := rest
          fits := by
            intro hmax
            have hfits := queue.fits hmax
            rw [hitems, List.length_cons] at hfits
            omega })

/-- Put an item in, in place of the oldest one where the queue is full. -/
def offer (queue : BoundedQueue α) (item : α) : Option (BoundedQueue α) :=
  match queue.put? item with
  | some next => some next
  | none => queue.get?.bind fun popped => popped.2.put? item

variable {queue next : BoundedQueue α} {item : α}

theorem put?_of_room (item : α) (h : queue.full = false) :
    ∃ next, queue.put? item = some next ∧ next.maxsize = queue.maxsize ∧
      next.items = queue.items ++ [item] := by
  refine ⟨⟨queue.maxsize, queue.items ++ [item], ?_⟩, ?_, rfl, rfl⟩
  · intro hmax
    simp only [full, Bool.and_eq_false_iff, decide_eq_false_iff_not, not_not, Nat.not_le] at h
    have hroom := h.resolve_left hmax
    rw [List.length_append, List.length_singleton]
    omega
  · rw [put?, dif_neg (by rw [h]; decide)]

theorem get?_eq_some_iff {rest : BoundedQueue α} :
    queue.get? = some (item, rest) ↔
      rest.maxsize = queue.maxsize ∧ queue.items = item :: rest.items := by
  obtain ⟨maxsize, items, fits⟩ := queue
  obtain ⟨restMaxsize, restItems, restFits⟩ := rest
  cases items with
  | nil => simp [get?]
  | cons first others =>
      simp only [get?, Option.some.injEq, Prod.mk.injEq, mk.injEq, List.cons.injEq]
      exact ⟨fun h => ⟨h.2.1.symm, h.1, h.2.2⟩, fun h => ⟨h.2.1, h.1.symm, h.2.2⟩⟩

/-- A full queue has an oldest item. -/
theorem exists_oldest_of_full (h : queue.full = true) : ∃ oldest rest,
    queue.items = oldest :: rest ∧ queue.maxsize ≠ 0 ∧ queue.items.length = queue.maxsize := by
  simp only [full, Bool.and_eq_true, decide_eq_true_eq] at h
  obtain ⟨hmax, hlength⟩ := h
  have hfits := queue.fits hmax
  cases hitems : queue.items with
  | nil =>
      rw [hitems, List.length_nil] at hlength
      omega
  | cons oldest rest =>
      rw [hitems] at hlength hfits
      exact ⟨oldest, rest, rfl, hmax, by omega⟩

/-- An offer is never refused: it appends the item, and drops at most the oldest one. -/
theorem offer_eq_some (queue : BoundedQueue α) (item : α) :
    ∃ next, queue.offer item = some next ∧ next.maxsize = queue.maxsize ∧
      next.items = (if queue.full then queue.items.tail else queue.items) ++ [item] := by
  cases hfull : queue.full with
  | false =>
      obtain ⟨next, hput, hmaxsize, hitems⟩ := put?_of_room item hfull
      refine ⟨next, ?_, hmaxsize, ?_⟩
      · rw [offer, hput]
      · rw [hitems, if_neg Bool.false_ne_true]
  | true =>
      obtain ⟨oldest, rest, hitems, hmax, hlength⟩ := exists_oldest_of_full hfull
      have hput : queue.put? item = none := dif_pos hfull
      have hrest : rest.length < queue.maxsize := by
        rw [hitems, List.length_cons] at hlength
        omega
      let popped : BoundedQueue α := ⟨queue.maxsize, rest, fun _ => Nat.le_of_lt hrest⟩
      have hget : queue.get? = some (oldest, popped) := get?_eq_some_iff.mpr ⟨rfl, hitems⟩
      have hroom : popped.full = false := by
        simp only [full, Bool.and_eq_false_iff, decide_eq_false_iff_not, Nat.not_le]
        exact .inr hrest
      obtain ⟨next, hput', hmaxsize, hnext⟩ := put?_of_room item hroom
      refine ⟨next, ?_, hmaxsize, ?_⟩
      · rw [offer, hput, hget]
        exact hput'
      · rw [hnext, hitems, if_pos rfl, List.tail_cons]

end BoundedQueue

end IsePortal.Library
