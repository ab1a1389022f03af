import IsePortal.Library.Dict
import IsePortal.Library.SlidingWindow
import IsePortal.Platform.Text
import Mathlib.Algebra.Order.Ring.Rat

/-!
# Rate limiting of requests

`_SlidingWindow` of `app/core/rate_limiter.py`: a deque of moments for each key, pruned from the
front when its key calls. `DequesSound` relates the deques to everything that was answered before,
so `sliding_window_limit` bounds every window of a run and not only those that end at a call.
-/

namespace IsePortal

open Library Library.SlidingWindow

/-- `_WINDOW` -/
def rateWindow : Time := 60

/-- `_SlidingWindow`, its deques with the oldest moment first. -/
structure SlidingWindow where
  buckets : Dict String (List Time) := Dict.empty

/-- A call of `is_allowed` and the time it reads. -/
structure RateCall where
  key : String
  now : Time
deriving DecidableEq

namespace SlidingWindow

/-- `self._buckets[key]`, empty for a key without a deque. -/
def bucket (window : SlidingWindow) (key : String) : List Time :=
  (window.buckets.get? key).getD []

/-- `is_allowed` -/
def isAllowed (window : SlidingWindow) (limit : Nat) (call : RateCall) : SlidingWindow × Bool :=
  let (q, allowed) := allow rateWindow limit (window.bucket call.key) call.now
  ({ buckets := window.buckets.set call.key q }, allowed)

/-- `remaining` -/
def remaining (window : SlidingWindow) (limit : Nat) (call : RateCall) : Nat :=
  match window.buckets.get? call.key with
  | none | some [] => limit
  | some q =>
      let cutoff := call.now - rateWindow
      let active := q.countP fun ts => decide (cutoff ≤ ts)
      limit - active

/-- Several calls, each with its answer. -/
def answers (limit : Nat) : SlidingWindow → List RateCall → List (RateCall × Bool)
  | _, [] => []
  | window, call :: rest =>
      (call, (window.isAllowed limit call).2) ::
        answers limit (window.isAllowed limit call).1 rest

end SlidingWindow

/-- When the allowed calls of a key were made. -/
def allowedTimes (key : String) (given : List (RateCall × Bool)) : List Time :=
  (given.filter fun answer => decide (answer.1.key = key) && answer.2).map fun answer =>
    answer.1.now

/-- The calls of a key, with their answers. -/
def answersOf (key : String) (given : List (RateCall × Bool)) : List (RateCall × Bool) :=
  given.filter fun answer => decide (answer.1.key = key)

/-- Every deque is sound for what its key was allowed so far. -/
def DequesSound (window : SlidingWindow) (limit : Nat) (past : List (RateCall × Bool))
    (now : Time) : Prop :=
  ∀ key, Sound rateWindow limit (window.bucket key) (allowedTimes key past) now

variable {window other : SlidingWindow} {limit : Nat} {past : List (RateCall × Bool)}
  {call : RateCall} {calls : List RateCall} {key : String} {now : Time}

@[simp] theorem allowedTimes_append (key : String) (past given : List (RateCall × Bool)) :
    allowedTimes key (past ++ given) = allowedTimes key past ++ allowedTimes key given := by
  simp [allowedTimes]

theorem allowedTimes_singleton (key : String) (call : RateCall) (allowed : Bool) :
    allowedTimes key [(call, allowed)] = if call.key = key ∧ allowed then [call.now] else [] := by
  by_cases hkey : call.key = key <;> cases allowed <;> simp [allowedTimes, hkey]

theorem bucket_isAllowed_self (window : SlidingWindow) (limit : Nat) (call : RateCall) :
    (window.isAllowed limit call).1.bucket call.key =
      (allow rateWindow limit (window.bucket call.key) call.now).1 := by
  simp [SlidingWindow.isAllowed, SlidingWindow.bucket]

/-- A call leaves the deques of the other keys as they are. -/
theorem bucket_isAllowed_ne (h : call.key ≠ key) :
    (window.isAllowed limit call).1.bucket key = window.bucket key := by
  simp only [SlidingWindow.isAllowed, SlidingWindow.bucket]
  rw [Dict.get?_set_ne _ _ h.symm]

theorem deques_sound_empty (limit : Nat) (now : Time) : DequesSound {} limit [] now :=
  fun _ => sound_empty rateWindow limit now

/-- One call keeps every deque sound. -/
theorem DequesSound.isAllowed (h : DequesSound window limit past now) (hnow : now ≤ call.now) :
    DequesSound (window.isAllowed limit call).1 limit
      (past ++ [(call, (window.isAllowed limit call).2)]) call.now := by
  intro key
  rw [allowedTimes_append, allowedTimes_singleton]
  by_cases hkey : call.key = key
  · subst hkey
    have hsound := ((h call.key).mono hnow).allow
    rw [bucket_isAllowed_self]
    simp only [SlidingWindow.isAllowed, true_and]
    split at hsound
    · rename_i hallowed
      rwa [if_pos hallowed]
    · rename_i hrefused
      rwa [if_neg hrefused, List.append_nil]
  · rw [bucket_isAllowed_ne hkey, if_neg (fun hboth => hkey hboth.1), List.append_nil]
    exact (h key).mono hnow

/-- A run keeps them sound, so no window has more than the limit. -/
theorem DequesSound.bounded (h : DequesSound window limit past now)
    (htimes : calls.Pairwise fun before after => before.now ≤ after.now)
    (hlater : ∀ call ∈ calls, now ≤ call.now) (key : String) (first : Time) :
    inWindow rateWindow first (allowedTimes key (past ++ window.answers limit calls)) ≤ limit := by
  induction calls generalizing window past now with
  | nil => simpa [SlidingWindow.answers] using (h key).bounded first
  | cons call rest ih =>
      obtain ⟨hfirst, hrest⟩ := List.pairwise_cons.mp htimes
      have hstep := h.isAllowed (hlater call (List.mem_cons_self ..))
      have hrun := ih hstep hrest hfirst
      rwa [List.append_assoc] at hrun

/-- A refused call of a run finds its window full. -/
theorem DequesSound.full_of_refused (h : DequesSound window limit past now)
    (htimes : calls.Pairwise fun before after => before.now ≤ after.now)
    (hlater : ∀ call ∈ calls, now ≤ call.now) {before after : List (RateCall × Bool)}
    (hrefused : window.answers limit calls = before ++ (call, false) :: after) :
    limit ≤ inWindow rateWindow (call.now - rateWindow)
      (allowedTimes call.key (past ++ before)) := by
  induction calls generalizing window past now before with
  | nil => simp [SlidingWindow.answers] at hrefused
  | cons next rest ih =>
      obtain ⟨hfirst, hrest⟩ := List.pairwise_cons.mp htimes
      have hnow := hlater next (List.mem_cons_self ..)
      rw [SlidingWindow.answers] at hrefused
      cases before with
      | nil =>
          obtain ⟨hanswer, -⟩ := List.cons.inj hrefused
          obtain ⟨rfl, hverdict⟩ := Prod.mk.inj hanswer
          rw [List.append_nil]
          exact ((h next.key).mono hnow).full_of_refused hverdict
      | cons answer before =>
          obtain ⟨rfl, hlast⟩ := List.cons.inj hrefused
          have hfull := ih (h.isAllowed hnow) hrest hfirst hlast
          rwa [List.append_assoc] at hfull

/-- A key is answered as if only it had called. -/
theorem answersOf_answers (h : window.bucket key = other.bucket key) :
    answersOf key (window.answers limit calls) =
      other.answers limit (calls.filter fun call => decide (call.key = key)) := by
  induction calls generalizing window other with
  | nil => rfl
  | cons call rest ih =>
      rw [SlidingWindow.answers, answersOf]
      by_cases hkey : call.key = key
      · subst hkey
        have hsame : (window.isAllowed limit call).2 = (other.isAllowed limit call).2 := by
          simp only [SlidingWindow.isAllowed, h]
        have hnext : (window.isAllowed limit call).1.bucket call.key =
            (other.isAllowed limit call).1.bucket call.key := by
          rw [bucket_isAllowed_self, bucket_isAllowed_self, h]
        rw [List.filter_cons, if_pos (by simp), List.filter_cons, if_pos (by simp),
          SlidingWindow.answers, hsame, ← ih hnext, answersOf]
      · have hnext : (window.isAllowed limit call).1.bucket key = other.bucket key := by
          rw [bucket_isAllowed_ne hkey, h]
        rw [List.filter_cons, if_neg (by simpa using hkey), List.filter_cons,
          if_neg (by simpa using hkey), ← ih hnext, answersOf]

/-- The window after several calls. -/
def SlidingWindow.after (limit : Nat) (window : SlidingWindow) (calls : List RateCall) :
    SlidingWindow :=
  calls.foldl (fun window call => (window.isAllowed limit call).1) window

/-- In a run at times that do not decrease, no closed window of a key holds more allowed calls than
the limit, a call is refused only when that many were allowed in the window before it, and
each key is answered as if no other had called. -/
theorem sliding_window_limit (limit : Nat) (calls : List RateCall)
    (htimes : calls.Pairwise fun before after => before.now ≤ after.now) :
    (∀ key first,
      inWindow rateWindow first
        (allowedTimes key (SlidingWindow.answers limit {} calls)) ≤ limit) ∧
    (∀ before call after,
      SlidingWindow.answers limit {} calls = before ++ (call, false) :: after →
        limit ≤ inWindow rateWindow (call.now - rateWindow) (allowedTimes call.key before)) ∧
    (∀ key,
      answersOf key (SlidingWindow.answers limit {} calls) =
        SlidingWindow.answers limit {} (calls.filter fun call => decide (call.key = key))) := by
  -- the run begins with the first call
  have hbegin : ∃ now : Time, ∀ call ∈ calls, now ≤ call.now := by
    cases calls with
    | nil => exact ⟨0, by simp⟩
    | cons call rest =>
        refine ⟨call.now, fun next hnext => ?_⟩
        rcases List.mem_cons.mp hnext with rfl | hmem
        · exact le_refl _
        · exact (List.pairwise_cons.mp htimes).1 next hmem
  obtain ⟨now, hlater⟩ := hbegin
  have hsound := deques_sound_empty limit now
  refine ⟨fun key first => ?_, fun before call after hrefused => ?_, fun key => ?_⟩
  · simpa using hsound.bounded htimes hlater key first
  · simpa using hsound.full_of_refused htimes hlater hrefused
  · exact answersOf_answers rfl

/-- Three calls of one key within a minute, with a limit of two. -/
theorem third_call_waits :
    SlidingWindow.answers 2 {}
        [⟨"desk", 0⟩, ⟨"desk", 30⟩, ⟨"desk", 60⟩, ⟨"desk", 61⟩] =
      [(⟨"desk", 0⟩, true), (⟨"desk", 30⟩, true), (⟨"desk", 60⟩, false),
        (⟨"desk", 61⟩, true)] ∧
    2 ≤ inWindow rateWindow (60 - rateWindow)
      (allowedTimes "desk" [(⟨"desk", 0⟩, true), (⟨"desk", 30⟩, true)]) := by
  have hrun : SlidingWindow.answers 2 {}
      [⟨"desk", 0⟩, ⟨"desk", 30⟩, ⟨"desk", 60⟩, ⟨"desk", 61⟩] =
    [(⟨"desk", 0⟩, true), (⟨"desk", 30⟩, true), (⟨"desk", 60⟩, false),
      (⟨"desk", 61⟩, true)] := by
    with_unfolding_all decide
  refine ⟨hrun, ?_⟩
  exact (sliding_window_limit 2 _ (by with_unfolding_all decide)).2.1 _ ⟨"desk", 60⟩ _
    hrun

end IsePortal
