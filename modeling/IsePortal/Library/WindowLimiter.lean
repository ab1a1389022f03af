import Mathlib.Algebra.Order.Group.Defs
import Mathlib.Algebra.Order.Group.Unbundled.Basic
import Mathlib.Tactic.GCongr

/-!
# Limiting failures in a sliding window

A limiter records failures and locks for a while once `limit` of them lie in one window. While
it is locked it refuses without recording; a failure after the lock has run out starts a new
count. `recorded_le_limit` bounds the failures recorded in one window, and
`locked_of_recorded` says that a full window ends in a lock that lasts from the last failure.
-/

namespace IsePortal.Library

universe u

/-- The limit, the length of the window and the length of a lock. -/
structure WindowLimiter (T : Type u) where
  limit : Nat
  window : T
  duration : T

/-- The recorded failures, the newest first, and the end of the lock. -/
structure LimiterState (T : Type u) where
  failures : List T := []
  lockedUntil : Option T := none

namespace WindowLimiter

variable {T : Type u} [AddCommGroup T] [LinearOrder T]

/-- Record a failure in an unlocked state, and lock when the window is full. -/
def record (limiter : WindowLimiter T) (failures : List T) (now : T) : LimiterState T :=
  let failures := now :: failures
  if limiter.limit ≤ failures.countP (now - limiter.window ≤ ·) then
    { failures := failures, lockedUntil := some (now + limiter.duration) }
  else { failures := failures }

/-- One failure, with whether it is recorded. -/
def fail (limiter : WindowLimiter T) (state : LimiterState T) (now : T) : LimiterState T × Bool :=
  match state.lockedUntil with
  | some lockedUntil =>
      if now < lockedUntil then (state, false) else (limiter.record [] now, true)
  | none => (limiter.record state.failures now, true)

/-- Several failures, with the number of those recorded. -/
def fails (limiter : WindowLimiter T) (state : LimiterState T) : List T → LimiterState T × Nat
  | [] => (state, 0)
  | now :: rest =>
      let (next, recorded) := limiter.fail state now
      let (final, count) := fails limiter next rest
      (final, count + recorded.toNat)

/-- While the lock lasts, nothing changes and nothing is recorded. -/
theorem fails_of_locked (limiter : WindowLimiter T) {state : LimiterState T} {lockedUntil : T}
    (hlocked : state.lockedUntil = some lockedUntil) {times : List T}
    (htimes : ∀ now ∈ times, now < lockedUntil) : limiter.fails state times = (state, 0) := by
  induction times with
  | nil => rfl
  | cons now rest ih =>
      have hnow : now < lockedUntil := htimes now List.mem_cons_self
      have hrest := ih fun other hother => htimes other (List.mem_cons_of_mem _ hother)
      simp [fails, fail, hlocked, hnow, hrest]

/-! ## What holds after every failure -/

/-- The newest failure is first; an unlocked window is not full; a lock runs from the newest
failure. -/
structure Sound (limiter : WindowLimiter T) (state : LimiterState T) : Prop where
  newest : ∀ newest ∈ state.failures.head?, ∀ time ∈ state.failures, time ≤ newest
  notFull : state.lockedUntil = none → ∀ newest ∈ state.failures.head?,
    state.failures.countP (newest - limiter.window ≤ ·) < limiter.limit
  lock : ∀ lockedUntil, state.lockedUntil = some lockedUntil →
    ∃ newest ∈ state.failures.head?, lockedUntil = newest + limiter.duration

/-- No failure is recorded after the moment. -/
def Before (state : LimiterState T) (now : T) : Prop := ∀ time ∈ state.failures, time ≤ now

theorem sound_empty (limiter : WindowLimiter T) : limiter.Sound {} where
  newest := by simp
  notFull := by simp
  lock := by simp

theorem sound_record (limiter : WindowLimiter T) {failures : List T} {now : T}
    (hbefore : ∀ time ∈ failures, time ≤ now) : limiter.Sound (limiter.record failures now) := by
  have hnewest : ∀ time ∈ now :: failures, time ≤ now := by
    intro time htime
    obtain rfl | hold := List.mem_cons.mp htime
    · exact le_refl time
    · exact hbefore time hold
  unfold record
  dsimp only
  split
  · -- the window is full, and the lock runs from now
    refine ⟨?_, ?_, ?_⟩
    · simpa using hnewest
    · intro hnone
      cases hnone
    · intro lockedUntil hlock
      cases hlock
      exact ⟨now, rfl, rfl⟩
  · rename_i hroom
    refine ⟨?_, ?_, ?_⟩
    · simpa using hnewest
    · intro _ newest hhead
      cases hhead
      exact not_le.mp hroom
    · intro lockedUntil hlock
      cases hlock

theorem failures_record (limiter : WindowLimiter T) (failures : List T) (now : T) :
    (limiter.record failures now).failures = now :: failures := by
  unfold record
  dsimp only
  split <;> rfl

/-- A failure that is recorded is the newest one. -/
theorem head_fail (limiter : WindowLimiter T) {state : LimiterState T} {now : T}
    (hrecorded : (limiter.fail state now).2 = true) :
    (limiter.fail state now).1.failures.head? = some now := by
  unfold fail at hrecorded ⊢
  split
  · rename_i lockedUntil hlocked
    split
    · rename_i hnow
      simp [hlocked, hnow] at hrecorded
    · rw [failures_record]
      rfl
  · rw [failures_record]
    rfl

theorem sound_fail (limiter : WindowLimiter T) {state : LimiterState T} {now : T}
    (hsound : limiter.Sound state) (hbefore : Before state now) :
    limiter.Sound (limiter.fail state now).1 := by
  unfold fail
  split
  · split
    · exact hsound
    · exact limiter.sound_record (by simp)
  · exact limiter.sound_record hbefore

theorem before_fail (limiter : WindowLimiter T) {state : LimiterState T} {now : T}
    (hbefore : Before state now) : Before (limiter.fail state now).1 now := by
  have hrecord (failures : List T) (h : ∀ time ∈ failures, time ≤ now) :
      Before (limiter.record failures now) now := by
    intro time htime
    rw [failures_record] at htime
    obtain rfl | hold := List.mem_cons.mp htime
    · exact le_refl time
    · exact h time hold
  unfold fail
  split
  · split
    · exact hbefore
    · exact hrecord [] (by simp)
  · exact hrecord _ hbefore

/-! ## The room left in a window -/

/-- How many failures may still be recorded between `first` and `last`. -/
def room (limiter : WindowLimiter T) (state : LimiterState T) (first last : T) : Nat :=
  match state.lockedUntil with
  | some lockedUntil => if lockedUntil ≤ last then limiter.limit else 0
  | none => limiter.limit - state.failures.countP (first ≤ ·)

omit [AddCommGroup T] in
theorem room_le (limiter : WindowLimiter T) (state : LimiterState T) (first last : T) :
    limiter.room state first last ≤ limiter.limit := by
  unfold room
  split
  · split <;> omega
  · omega

variable [IsOrderedAddMonoid T]

/-- Recording a failure of the window takes one from the room the other failures leave. -/
theorem room_record (limiter : WindowLimiter T) {failures : List T} {now first last : T}
    (hshort : limiter.window < limiter.duration) (hspan : last ≤ first + limiter.window)
    (hfirst : first ≤ now)
    (hleft : failures.countP (first ≤ ·) < limiter.limit) :
    1 + limiter.room (limiter.record failures now) first last ≤
      limiter.limit - failures.countP (first ≤ ·) := by
  have hcount : (now :: failures).countP (first ≤ ·) = failures.countP (first ≤ ·) + 1 :=
    List.countP_cons_of_pos (by simpa using hfirst)
  unfold record
  dsimp only
  split
  · -- the lock outlasts the window
    have hoverlast : ¬ now + limiter.duration ≤ last := by
      refine not_le.mpr ?_
      calc last ≤ first + limiter.window := hspan
        _ < first + limiter.duration := by gcongr
        _ ≤ now + limiter.duration := by gcongr
    simp only [room, if_neg hoverlast]
    omega
  · simp only [room, hcount]
    omega

/-- An unlocked state has room in every window that reaches up to now. -/
theorem countP_lt_limit (limiter : WindowLimiter T) {state : LimiterState T} {first last : T}
    (hlimit : 0 < limiter.limit) (hsound : limiter.Sound state) (hbefore : Before state last)
    (hopen : state.lockedUntil = none) (hspan : last ≤ first + limiter.window) :
    state.failures.countP (first ≤ ·) < limiter.limit := by
  cases hhead : state.failures.head? with
  | none =>
      rw [List.head?_eq_none_iff] at hhead
      simpa [hhead] using hlimit
  | some newest =>
      have hmem : newest ∈ state.failures := List.mem_of_head? hhead
      have hwide : newest - limiter.window ≤ first := by
        rw [sub_le_iff_le_add]
        exact (hbefore newest hmem).trans hspan
      refine lt_of_le_of_lt ?_ (hsound.notFull hopen newest hhead)
      refine List.countP_mono_left fun time _ htime => ?_
      have hge : first ≤ time := by simpa using htime
      simpa using hwide.trans hge

/-- One failure between `first` and `last` uses up its room. -/
theorem room_fail (limiter : WindowLimiter T) {state : LimiterState T} {now first last : T}
    (hlimit : 0 < limiter.limit) (hshort : limiter.window < limiter.duration)
    (hspan : last ≤ first + limiter.window) (hsound : limiter.Sound state)
    (hbefore : Before state now) (hfirst : first ≤ now) (hlast : now ≤ last) :
    (limiter.fail state now).2.toNat + limiter.room (limiter.fail state now).1 first last ≤
      limiter.room state first last := by
  unfold fail
  split
  · rename_i lockedUntil hlocked
    split
    · -- refused: nothing is recorded and the state stays
      simp
    · -- the lock is over, which leaves all the room there is
      rename_i hover
      have hroom : limiter.room state first last = limiter.limit := by
        simp [room, hlocked, (not_lt.mp hover).trans hlast]
      have hnone : ([] : List T).countP (first ≤ ·) < limiter.limit := by simpa
      have hrecord := limiter.room_record hshort hspan hfirst hnone
      rw [hroom]
      simpa using hrecord
  · rename_i hopen
    have hleft := limiter.countP_lt_limit hlimit hsound
      (fun time htime => (hbefore time htime).trans hlast) hopen hspan
    have hrecord := limiter.room_record hshort hspan hfirst hleft
    have hroom : limiter.room state first last =
        limiter.limit - state.failures.countP (first ≤ ·) := by
      simp [room, hopen]
    rw [hroom]
    simpa using hrecord

/-- Failures in order between `first` and `last` use up their room. -/
theorem room_fails (limiter : WindowLimiter T) {state : LimiterState T} {first last : T}
    {times : List T} (hlimit : 0 < limiter.limit) (hshort : limiter.window < limiter.duration)
    (hspan : last ≤ first + limiter.window) (hsound : limiter.Sound state)
    (hbefore : ∀ now ∈ times, Before state now) (hsorted : times.Pairwise (· ≤ ·))
    (hin : ∀ now ∈ times, first ≤ now ∧ now ≤ last) :
    limiter.Sound (limiter.fails state times).1 ∧
      (limiter.fails state times).2 + limiter.room (limiter.fails state times).1 first last ≤
        limiter.room state first last := by
  induction times generalizing state with
  | nil => exact ⟨hsound, by simp [fails]⟩
  | cons now rest ih =>
      obtain ⟨hnow, hrest⟩ := List.pairwise_cons.mp hsorted
      have hfirst := hin now List.mem_cons_self
      have hbeforeNow := hbefore now List.mem_cons_self
      have hstep := limiter.room_fail hlimit hshort hspan hsound hbeforeNow hfirst.1 hfirst.2
      have hafter := limiter.before_fail hbeforeNow
      obtain ⟨hsoundRest, hroomRest⟩ := ih (limiter.sound_fail hsound hbeforeNow)
        (fun later hlater time htime => (hafter time htime).trans (hnow later hlater)) hrest
        (fun later hlater => hin later (List.mem_cons_of_mem _ hlater))
      refine ⟨hsoundRest, ?_⟩
      simp only [fails]
      omega

/-- At most `limit` failures are recorded in one window. -/
theorem recorded_le_limit (limiter : WindowLimiter T) {state : LimiterState T} {first last : T}
    {times : List T} (hlimit : 0 < limiter.limit) (hshort : limiter.window < limiter.duration)
    (hspan : last ≤ first + limiter.window) (hsound : limiter.Sound state)
    (hbefore : ∀ now ∈ times, Before state now) (hsorted : times.Pairwise (· ≤ ·))
    (hin : ∀ now ∈ times, first ≤ now ∧ now ≤ last) :
    (limiter.fails state times).2 ≤ limiter.limit := by
  have hroom := (limiter.room_fails hlimit hshort hspan hsound hbefore hsorted hin).2
  have hle := limiter.room_le state first last
  omega

/-- Once `limit` failures of one window are recorded, a lock runs from the newest failure. -/
theorem locked_of_recorded (limiter : WindowLimiter T) {state : LimiterState T} {first last : T}
    {times : List T} (hlimit : 0 < limiter.limit) (hshort : limiter.window < limiter.duration)
    (hspan : last ≤ first + limiter.window) (hsound : limiter.Sound state)
    (hbefore : ∀ now ∈ times, Before state now) (hsorted : times.Pairwise (· ≤ ·))
    (hin : ∀ now ∈ times, first ≤ now ∧ now ≤ last)
    (hafter : Before (limiter.fails state times).1 last)
    (hfull : limiter.limit ≤ (limiter.fails state times).2) :
    ∃ newest ∈ (limiter.fails state times).1.failures.head?,
      (limiter.fails state times).1.lockedUntil = some (newest + limiter.duration) := by
  obtain ⟨hsoundAfter, hroom⟩ :=
    limiter.room_fails hlimit hshort hspan hsound hbefore hsorted hin
  have hle := limiter.room_le state first last
  cases hlocked : (limiter.fails state times).1.lockedUntil with
  | none =>
      -- an open state would have room for one more, but the limit is used up
      have hleft := limiter.countP_lt_limit hlimit hsoundAfter hafter hlocked hspan
      have hopen : limiter.room (limiter.fails state times).1 first last =
          limiter.limit - (limiter.fails state times).1.failures.countP (first ≤ ·) := by
        simp [room, hlocked]
      omega
  | some lockedUntil =>
      obtain ⟨newest, hnewest, hlock⟩ := hsoundAfter.lock lockedUntil hlocked
      exact ⟨newest, hnewest, congrArg some hlock⟩

end WindowLimiter

end IsePortal.Library
