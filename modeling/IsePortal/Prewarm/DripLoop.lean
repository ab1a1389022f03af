import IsePortal.Cache.EndpointCache
import IsePortal.Platform.Floats

/-!
# The numbers of the pre-warm worker

One iteration of `_drip_loop` and the semaphore of `_full_scan`, with `AdaptivePacer` and the parts
of `EndpointCache` they compute with, on any settings: the schema bounds none of the numbers.
Every division but the one by the TTL of an entry is guarded, the sleep is at least half a second
but follows an infinite interval, and the semaphore takes the concurrency as it is.
-/

namespace IsePortal.Drip

open PyFloat

/-- The settings the worker computes with. -/
structure PrewarmSettings where
  cacheTtlSeconds : PyFloat := fin 60
  prewarmConcurrency : Int := 5
  adaptiveTtlEnabled : Bool := true
  adaptiveTtlMaxSeconds : PyFloat := fin 3600

/-- What the loop asks of a cached entry. -/
structure Entry where
  id : String
  fetchedAt : PyFloat
  changeEma : PyFloat

/-! ## The pacer -/

structure AdaptivePacer where
  enabled : Bool
  minFactor : PyFloat
  maxFactor : PyFloat
  factor : PyFloat := fin 1
  ok : Nat := 0
  fail : Nat := 0

namespace AdaptivePacer

/-- `configure`. A range of zero is none. -/
def configure (pacer : AdaptivePacer) (rangePct : PyFloat) (enabled : Bool) :
    Option AdaptivePacer := do
  let share ← rangePct.div (fin 100)
  let r := max (fin 0) (min (fin (9 / 10)) share)
  let minFactor := (fin 1).sub r
  let maxFactor := (fin 1).add r
  some { pacer with
    enabled := enabled
    minFactor := minFactor
    maxFactor := maxFactor
    factor := max minFactor (min maxFactor pacer.factor) }

/-- `record` -/
def record (pacer : AdaptivePacer) (ok : Bool) : AdaptivePacer :=
  if ok then { pacer with ok := pacer.ok + 1 } else { pacer with fail := pacer.fail + 1 }

/-- `penalize` -/
def penalize (pacer : AdaptivePacer) : AdaptivePacer :=
  { pacer with
    factor :=
      if pacer.enabled then max pacer.minFactor (pacer.factor.mul (fin (1 / 2))) else pacer.factor
    ok := 0
    fail := 0 }

/-- `update` -/
def update (pacer : AdaptivePacer) : AdaptivePacer :=
  { pacer with
    factor :=
      if !pacer.enabled then fin 1
      else if 0 < pacer.fail then max pacer.minFactor (pacer.factor.mul (fin (1 / 2)))
      else if 0 < pacer.ok then min pacer.maxFactor (pacer.factor.add (fin (1 / 20)))
      else pacer.factor
    ok := 0
    fail := 0 }

/-- The pacers that come about from the constructor by the calls of the loop. -/
inductive Reached : AdaptivePacer → Prop
  | init {rangePct : PyFloat} {enabled : Bool} {pacer : AdaptivePacer}
      (h : configure ⟨enabled, fin 1, fin 1, fin 1, 0, 0⟩ rangePct enabled = some pacer) :
      Reached pacer
  | configure {pacer next : AdaptivePacer} {rangePct : PyFloat} {enabled : Bool}
      (h : Reached pacer) (hnext : pacer.configure rangePct enabled = some next) : Reached next
  | record {pacer : AdaptivePacer} (h : Reached pacer) (ok : Bool) : Reached (pacer.record ok)
  | penalize {pacer : AdaptivePacer} (h : Reached pacer) : Reached pacer.penalize
  | update {pacer : AdaptivePacer} (h : Reached pacer) : Reached pacer.update

end AdaptivePacer

/-! ## The cache -/

/-- `effective_ttl`, with the seconds since the last request of a user. -/
def effectiveTtl (cfg : PrewarmSettings) (idleSeconds : Rat) : Option PyFloat :=
  let base := cfg.cacheTtlSeconds
  if !cfg.adaptiveTtlEnabled then some base
  else if cfg.adaptiveTtlMaxSeconds.le base then some base
  else if (base.mul (fin 10)).le (fin 0) then some base
  else ((fin idleSeconds).div (base.mul (fin 10))).map fun ratio =>
    base.add ((min (fin 1) ratio).mul (cfg.adaptiveTtlMaxSeconds.sub base))

/-- `_effective_ttl_for_entry` -/
def effectiveTtlForEntry (entry : Entry) (baseTtl : PyFloat) : PyFloat :=
  if (fin tierHotEma).le entry.changeEma then
    baseTtl.mul (fin tierHotFactor)
  else if entry.changeEma.lt (fin tierColdEma) then
    baseTtl.mul (fin tierColdFactor)
  else baseTtl

/-- The priority of an entry, its age over the TTL of its tier. -/
def priority (now : Rat) (baseTtl : PyFloat) (entry : Entry) : Option (String × PyFloat) :=
  (((fin now).sub entry.fetchedAt).div (effectiveTtlForEntry entry baseTtl)).map fun priority =>
    (entry.id, priority)

/-- `get_priority_stale_ids` -/
def getPriorityStaleIds (now : Rat) (entries : List Entry) (baseTtl : PyFloat)
    (excludeInflight : List String) : Option (List String) :=
  ((entries.filter fun entry => entry.id ∉ excludeInflight).mapM (priority now baseTtl)).map
    fun priorities =>
      let candidates := priorities.filter fun candidate => (fin 1).lt candidate.2
      (candidates.mergeSort fun first second => second.2.le first.2).map Prod.fst

/-! ## The worker -/

/-- What an iteration starts from: the seconds left to the probe where the circuit breaker is open,
the cache, the moment, and the pacer and the interval the loop has read last. -/
structure DripState where
  cbRecoveryRemaining : Option Rat := none
  entries : List Entry
  inflight : List String := []
  now : Rat
  lastActivityAt : Rat
  pacer : AdaptivePacer
  pacerReached : pacer.Reached
  interval : PyFloat

/-- `idle_seconds` -/
def DripState.idleSeconds (s : DripState) : Rat := Max.max 0 (s.now - s.lastActivityAt)

/-- The factor and its bounds, between a tenth and 1.9. -/
structure AdaptivePacer.Bounded (pacer : AdaptivePacer) : Prop where
  bounds : ∃ low high value : Rat, pacer.minFactor = fin low ∧ pacer.maxFactor = fin high ∧
    pacer.factor = fin value ∧ 1 / 10 ≤ low ∧ low ≤ 1 ∧ 1 ≤ high ∧ low ≤ value ∧ value ≤ high

theorem max_fin (first second : Rat) : max (fin first) (fin second) = fin (first ⊔ second) := by
  by_cases h : first < second
  · simp [PyFloat.max, PyFloat.lt, h, h.le]
  · simp [PyFloat.max, PyFloat.lt, h, not_lt.mp h]

theorem min_fin (first second : Rat) : min (fin first) (fin second) = fin (first ⊓ second) := by
  by_cases h : second < first
  · simp [PyFloat.min, PyFloat.lt, h, h.le]
  · simp [PyFloat.min, PyFloat.lt, h, not_lt.mp h]

/-- Whatever the setting is, the range is a number from 0 to 0.9. -/
theorem range_bounded (share : PyFloat) :
    ∃ r : Rat, max (fin 0) (min (fin (9 / 10)) share) = fin r ∧ 0 ≤ r ∧ r ≤ 9 / 10 := by
  cases share with
  | nan => exact ⟨9 / 10, by norm_num [PyFloat.max, PyFloat.min, PyFloat.lt], by norm_num, le_rfl⟩
  | negInf => exact ⟨0, rfl, le_rfl, by norm_num⟩
  | posInf =>
      exact ⟨9 / 10, by norm_num [PyFloat.max, PyFloat.min, PyFloat.lt], by norm_num, le_rfl⟩
  | fin value =>
      refine ⟨0 ⊔ (9 / 10 ⊓ value), by rw [min_fin, max_fin], le_sup_left, ?_⟩
      exact sup_le (by norm_num) inf_le_left

/-- `configure` divides by no zero, and bounds the factor. -/
theorem AdaptivePacer.configure_bounded {pacer : AdaptivePacer} {value : Rat}
    (hvalue : pacer.factor = fin value) (rangePct : PyFloat) (enabled : Bool) :
    ∃ next, pacer.configure rangePct enabled = some next ∧ next.Bounded := by
  obtain ⟨share, hshare, -⟩ := @div_pos rangePct 100 (by norm_num)
  obtain ⟨r, hr, hzero, htop⟩ := range_bounded share
  have hconfigure : pacer.configure rangePct enabled = some { pacer with
      enabled := enabled
      minFactor := fin (1 - r)
      maxFactor := fin (1 + r)
      factor := fin ((1 - r) ⊔ ((1 + r) ⊓ value)) } := by
    simp only [configure, hshare, hr, PyFloat.sub, PyFloat.neg, PyFloat.add, hvalue, min_fin,
      max_fin, bind, Option.bind, sub_eq_add_neg]
  refine ⟨_, hconfigure, ⟨1 - r, 1 + r, _, rfl, rfl, rfl, ?_, ?_, ?_, le_sup_left, ?_⟩⟩
  · linarith
  · linarith
  · linarith
  · exact sup_le (by linarith) inf_le_left

theorem AdaptivePacer.Bounded.halved {pacer : AdaptivePacer} (h : pacer.Bounded) :
    ∃ low high value : Rat, pacer.minFactor = fin low ∧ pacer.maxFactor = fin high ∧
      max pacer.minFactor (pacer.factor.mul (fin (1 / 2))) = fin value ∧
      1 / 10 ≤ low ∧ low ≤ 1 ∧ 1 ≤ high ∧ low ≤ value ∧ value ≤ high := by
  obtain ⟨low, high, value, hlow, hhigh, hvalue, hpos, hone, hup, hle, hge⟩ := h.bounds
  refine ⟨low, high, low ⊔ value * (1 / 2), hlow, hhigh, ?_, hpos, hone, hup, le_sup_left, ?_⟩
  · rw [hlow, hvalue, PyFloat.mul, max_fin]
  · exact sup_le (hle.trans hge) (by linarith)

/-- Every pacer the loop comes to is bounded. -/
theorem AdaptivePacer.Reached.bounded {pacer : AdaptivePacer} (h : Reached pacer) :
    pacer.Bounded := by
  induction h with
  | @init rangePct enabled pacer hnext =>
      obtain ⟨next, hconfigure, hbounded⟩ :=
        @configure_bounded ⟨enabled, fin 1, fin 1, fin 1, 0, 0⟩ 1 rfl rangePct enabled
      rw [hconfigure] at hnext
      exact Option.some.inj hnext ▸ hbounded
  | @configure pacer next rangePct enabled _ hnext ih =>
      obtain ⟨low, high, value, -, -, hvalue, -⟩ := ih.bounds
      obtain ⟨other, hconfigure, hbounded⟩ := configure_bounded hvalue rangePct enabled
      rw [hconfigure] at hnext
      exact Option.some.inj hnext ▸ hbounded
  | @record pacer _ ok ih =>
      obtain ⟨hbounds⟩ := ih
      cases ok with
      | true => exact ⟨hbounds⟩
      | false => exact ⟨hbounds⟩
  | @penalize pacer _ ih =>
      refine ⟨?_⟩
      by_cases henabled : pacer.enabled = true
      · simpa only [AdaptivePacer.penalize, henabled, if_true] using ih.halved
      · simpa only [AdaptivePacer.penalize, henabled, Bool.false_eq_true, if_false] using ih.bounds
  | @update pacer _ ih =>
      refine ⟨?_⟩
      obtain ⟨low, high, value, hlow, hhigh, hvalue, hpos, hone, hup, hle, hge⟩ := ih.bounds
      by_cases henabled : pacer.enabled = true
      · by_cases hfail : 0 < pacer.fail
        · simpa [AdaptivePacer.update, henabled, hfail] using ih.halved
        · by_cases hok : 0 < pacer.ok
          · refine ⟨low, high, high ⊓ (value + 1 / 20), hlow, hhigh, ?_, hpos, hone, hup,
              le_inf (hle.trans hge) (by linarith), inf_le_left⟩
            simp [AdaptivePacer.update, henabled, hfail, hok, hhigh, hvalue, PyFloat.add, min_fin]
          · simpa [AdaptivePacer.update, henabled, hfail, hok] using ih.bounds
      · refine ⟨low, high, 1, hlow, hhigh, ?_, hpos, hone, hup, hone, hup⟩
        simp [AdaptivePacer.update, henabled]

end IsePortal.Drip
