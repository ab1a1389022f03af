import Mathlib.Data.List.Infix

/-!
# Framed streams

`find` is the position of the first occurrence of a pattern. A splitter takes the complete
units off the front of a buffer and hands back what is left over. `Spliced` says that a
buffer may be split before the rest of it has arrived; `feed_eq` is what follows: splitting
chunk by chunk, with the leftover carried along, is splitting the whole stream at once.
-/

namespace IsePortal.Library

universe u v

/-! ## Searching -/

section Find

variable {α : Type u} [DecidableEq α]

/-- The first position at which the pattern starts. -/
def find (pattern : List α) : List α → Option Nat
  | [] => if pattern = [] then some 0 else none
  | x :: rest =>
      if pattern <+: x :: rest then some 0 else (find pattern rest).map (· + 1)

/-- A pattern is not found inside what its first symbol is missing from. -/
theorem find_append_of_head_not_mem {z : α} {xs : List α} (h : z ∉ xs) (pattern rest : List α) :
    find (z :: pattern) (xs ++ rest) = (find (z :: pattern) rest).map (· + xs.length) := by
  induction xs with
  | nil => cases hfind : find (z :: pattern) rest <;> simp [hfind]
  | cons x more ih =>
      have hne : ¬ z :: pattern <+: x :: (more ++ rest) := by
        intro hprefix
        exact h (List.mem_cons.mpr (.inl (List.cons_prefix_cons.mp hprefix).1))
      show find (z :: pattern) (x :: (more ++ rest)) = _
      rw [find, if_neg hne, ih fun hz => h (List.mem_cons_of_mem x hz), Option.map_map]
      refine congrArg (fun shift => (find (z :: pattern) rest).map shift) (funext fun n => ?_)
      show n + more.length + 1 = n + (more.length + 1)
      omega

theorem find_singleton_eq_none {z : α} {xs : List α} (h : z ∉ xs) : find [z] xs = none := by
  have hfind := find_append_of_head_not_mem h [] []
  rwa [List.append_nil] at hfind

/-- A separator is found after what comes before it. -/
theorem find_singleton_append {z : α} {xs : List α} (h : z ∉ xs) (rest : List α) :
    find [z] (xs ++ z :: rest) = some xs.length := by
  have hhead : find [z] (z :: rest) = some 0 := if_pos (List.prefix_append [z] rest)
  rw [find_append_of_head_not_mem h, hhead, Option.map_some, Nat.zero_add]

end Find

/-! ## Splitting chunk by chunk -/

section Feed

variable {α : Type u} {β : Type v}

/-- Splitting a buffer early and its leftover later is splitting the longer buffer once. -/
def Spliced (split : List α → List β × List α) : Prop :=
  ∀ buffer more : List α,
    split (buffer ++ more) =
      ((split buffer).1 ++ (split ((split buffer).2 ++ more)).1,
        (split ((split buffer).2 ++ more)).2)

/-- Every chunk is appended to the leftover of the one before, and split. -/
def feed (split : List α → List β × List α) (carry : List α) : List (List α) → List β × List α
  | [] => ([], carry)
  | chunk :: chunks =>
      let taken := split (carry ++ chunk)
      let later := feed split taken.2 chunks
      (taken.1 ++ later.1, later.2)

/-- Nothing is left to take from a leftover. -/
theorem Spliced.leftover {split : List α → List β × List α} (h : Spliced split)
    (buffer : List α) : split (split buffer).2 = ([], (split buffer).2) := by
  have hself := h buffer []
  rw [List.append_nil, List.append_nil] at hself
  have hunits := congrArg Prod.fst hself
  have hrest := congrArg Prod.snd hself
  refine Prod.ext ?_ hrest.symm
  exact List.self_eq_append_right.mp hunits

/-- Where the chunks are cut does not matter. -/
theorem Spliced.feed_eq {split : List α → List β × List α} (h : Spliced split)
    {carry : List α} (hcarry : split carry = ([], carry)) (chunks : List (List α)) :
    feed split carry chunks = split (carry ++ chunks.flatten) := by
  induction chunks generalizing carry with
  | nil => rw [List.flatten_nil, List.append_nil, hcarry, feed]
  | cons chunk chunks ih =>
      rw [List.flatten_cons, ← List.append_assoc, h (carry ++ chunk) chunks.flatten, feed]
      simp only [ih (h.leftover (carry ++ chunk))]

end Feed

end IsePortal.Library
