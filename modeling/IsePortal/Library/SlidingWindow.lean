import Mathlib.Algebra.Order.Group.Defs
import Mathlib.Algebra.Order.Group.Unbundled.Basic
import Mathlib.Data.List.TakeWhile

/-!
# Calls limited by a sliding window

A queue keeps the moments of the calls that were admitted, the oldest first. A call drops the
moments before its window from the front and is admitted while fewer than `limit` are left. Only the
queue is looked at, so `Sound` relates it to all calls that were ever admitted: the queue misses
nothing a window still reaches, and no closed window holds more than `limit` of them.
-/

namespace IsePortal.Library.SlidingWindow

universe u

variable {T : Type u} [AddCommGroup T] [LinearOrder T]

/-- Drop the moments before the window that ends now. -/
def prune (window now : T) (times : List T) : List T :=
  times.dropWhile fun time => decide (time < now - window)

/-- One call: the queue after it, and whether it is admitted. -/
def allow (window : T) (limit : Nat) (times : List T) (now : T) : List T × Bool :=
  let kept := prune window now times
  if limit ≤ kept.length then (kept, false) else (kept ++ [now], true)

/-- How many of the moments lie in the closed window that begins at `first`. -/
def inWindow (window first : T) (times : List T) : Nat :=
  times.countP fun time => decide (first ≤ time ∧ time ≤ first + window)

/-- The queue `kept` after all of `admitted` were admitted, up to now. -/
structure Sound (window : T) (limit : Nat) (kept admitted : List T) (now : T) : Prop where
  sorted : admitted.Pairwise (· ≤ ·)
  past : ∀ time ∈ admitted, time ≤ now
  dropped : ∃ old, admitted = old ++ kept ∧ ∀ time ∈ old, time < now - window
  bounded : ∀ first, inWindow window first admitted ≤ limit

variable {window now later : T} {limit : Nat} {kept admitted times : List T}

theorem sound_empty (window : T) (limit : Nat) (now : T) : Sound window limit [] [] now where
  sorted := List.Pairwise.nil
  past := by simp
  dropped := ⟨[], rfl, by simp⟩
  bounded _ := Nat.zero_le _

omit [AddCommGroup T] in
/-- What is dropped from the front of a sorted list is all there is before a moment. -/
theorem dropWhile_lt_eq_filter {α : Type*} (time : α → T) {items : List α} {moment : T}
    (hsorted : items.Pairwise fun before after => time before ≤ time after) :
    items.dropWhile (fun item => decide (time item < moment)) =
      items.filter fun item => decide (moment ≤ time item) := by
  induction items with
  | nil => rfl
  | cons item rest ih =>
      obtain ⟨hfirst, hrest⟩ := List.pairwise_cons.mp hsorted
      by_cases hlt : time item < moment
      · have hgone : decide (time item < moment) = true := decide_eq_true hlt
        have hout : ¬ decide (moment ≤ time item) = true := by simpa using hlt
        rw [List.dropWhile_cons, if_pos hgone, List.filter_cons, if_neg hout]
        exact ih hrest
      · have hle : moment ≤ time item := not_lt.mp hlt
        have hall : ∀ other ∈ item :: rest, decide (moment ≤ time other) = true := by
          intro other hother
          rcases List.mem_cons.mp hother with rfl | hmem
          · exact decide_eq_true hle
          · exact decide_eq_true (hle.trans (hfirst other hmem))
        have hstays : ¬ decide (time item < moment) = true := by simpa using hle
        rw [List.dropWhile_cons, if_neg hstays, List.filter_eq_self.mpr hall]

/-- What a call finds in the queue is all that was admitted in the window before it. -/
theorem Sound.prune_eq (h : Sound window limit kept admitted now) :
    prune window now kept = admitted.filter fun time => decide (now - window ≤ time) := by
  obtain ⟨old, hsplit, hold⟩ := h.dropped
  have hsorted := h.sorted
  rw [hsplit, List.pairwise_append] at hsorted
  have hnone : old.filter (fun time => decide (now - window ≤ time)) = [] := by
    rw [List.filter_eq_nil_iff]
    intro time htime
    simpa using hold time htime
  rw [prune, dropWhile_lt_eq_filter (fun time => time) hsorted.2.1, hsplit, List.filter_append, hnone, List.nil_append]

/-- The window before a call is the closed window that begins that long before it. -/
theorem Sound.length_prune (h : Sound window limit kept admitted now) :
    (prune window now kept).length = inWindow window (now - window) admitted := by
  rw [h.prune_eq, ← List.countP_eq_length_filter, inWindow]
  refine List.countP_congr fun time htime => ?_
  have hpast : time ≤ now - window + window := by
    rw [sub_add_cancel]
    exact h.past time htime
  simp only [decide_eq_true_eq, and_iff_left hpast]

/-- A call that is refused finds `limit` calls admitted in the window before it. -/
theorem Sound.full_of_refused (h : Sound window limit kept admitted now)
    (hrefused : (allow window limit kept now).2 = false) :
    limit ≤ inWindow window (now - window) admitted := by
  unfold allow at hrefused
  rw [← h.length_prune]
  dsimp only at hrefused
  split at hrefused
  · assumption
  · cases hrefused

variable [IsOrderedAddMonoid T]

/-- Time goes by. -/
theorem Sound.mono (h : Sound window limit kept admitted now) (hlater : now ≤ later) :
    Sound window limit kept admitted later where
  sorted := h.sorted
  past time htime := (h.past time htime).trans hlater
  dropped := by
    obtain ⟨old, hsplit, hold⟩ := h.dropped
    exact ⟨old, hsplit, fun time htime => (hold time htime).trans_le (sub_le_sub_right hlater _)⟩
  bounded := h.bounded

/-- A call that is admitted now leaves no window with more than `limit`. -/
theorem Sound.bounded_allow (h : Sound window limit kept admitted now)
    (hroom : inWindow window (now - window) admitted < limit) (first : T) :
    inWindow window first (admitted ++ [now]) ≤ limit := by
  have hold := h.bounded first
  unfold inWindow at hold hroom ⊢
  rw [List.countP_append]
  by_cases hin : first ≤ now ∧ now ≤ first + window
  · -- a window that reaches up to now begins no earlier than the one before the call
    have hcover : admitted.countP (fun time => decide (first ≤ time ∧ time ≤ first + window)) ≤
        admitted.countP fun time =>
          decide (now - window ≤ time ∧ time ≤ now - window + window) := by
      refine List.countP_mono_left fun time htime hwindow => ?_
      have hfirst : first ≤ time := (of_decide_eq_true hwindow).1
      have hbegin : now - window ≤ first := sub_le_iff_le_add.mpr hin.2
      refine decide_eq_true ⟨hbegin.trans hfirst, ?_⟩
      rw [sub_add_cancel]
      exact h.past time htime
    have hone : [now].countP (fun time => decide (first ≤ time ∧ time ≤ first + window)) = 1 := by
      simp [hin]
    omega
  · have hnone : [now].countP (fun time => decide (first ≤ time ∧ time ≤ first + window)) = 0 := by
      simpa using hin
    omega

/-- A call keeps the queue sound. -/
theorem Sound.allow (h : Sound window limit kept admitted now) :
    Sound window limit (allow window limit kept now).1
      (if (allow window limit kept now).2 then admitted ++ [now] else admitted) now := by
  obtain ⟨old, hsplit, hold⟩ := h.dropped
  -- what the call drops joins what was dropped before it
  have hkept : ∃ gone, kept = gone ++ prune window now kept ∧
      ∀ time ∈ gone, time < now - window := by
    refine ⟨kept.takeWhile fun time => decide (time < now - window), ?_, fun time htime => ?_⟩
    · exact (List.takeWhile_append_dropWhile).symm
    · have hbefore := List.mem_takeWhile_imp htime
      exact of_decide_eq_true hbefore
  obtain ⟨gone, hgone, hbefore⟩ := hkept
  have hdropped : admitted = (old ++ gone) ++ prune window now kept := by
    rw [List.append_assoc, ← hgone, hsplit]
  have hold' : ∀ time ∈ old ++ gone, time < now - window := by
    intro time htime
    rcases List.mem_append.mp htime with hmem | hmem
    · exact hold time hmem
    · exact hbefore time hmem
  unfold SlidingWindow.allow
  dsimp only
  split
  · exact ⟨h.sorted, h.past, ⟨old ++ gone, hdropped, hold'⟩, h.bounded⟩
  · rename_i hroom
    rw [h.length_prune] at hroom
    refine ⟨?_, ?_, ⟨old ++ gone, ?_, hold'⟩, h.bounded_allow (not_le.mp hroom)⟩
    · rw [if_pos rfl, List.pairwise_append]
      refine ⟨h.sorted, List.pairwise_singleton _ _, fun time htime other hother => ?_⟩
      rw [List.mem_singleton.mp hother]
      exact h.past time htime
    · intro time htime
      rw [if_pos rfl] at htime
      rcases List.mem_append.mp htime with hmem | hmem
      · exact h.past time hmem
      · exact (List.mem_singleton.mp hmem).le
    · rw [if_pos rfl, ← List.append_assoc, ← hdropped]

end IsePortal.Library.SlidingWindow
