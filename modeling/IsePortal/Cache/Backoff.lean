import IsePortal.Cache.EndpointCache
import Mathlib.Algebra.Order.Field.Basic
import Mathlib.Algebra.Order.Field.Rat
import Mathlib.Tactic.Linarith
import Mathlib.Tactic.NormNum
import Mathlib.Tactic.Ring

/-!
# Back-off and the priority queue

The drip loop fetches what `get_priority_stale_ids` puts first, and after a failed fetch
`set_fetch_backoff` moves `fetched_at` to 60 seconds before the base TTL ends. The queue measures
the age by the TTL of the tier, though, and a hot entry has half of it: it stays due at once unless
the effective TTL has grown to twice the base (`backoff_takes_effect_iff`).
-/

namespace IsePortal

open Library

namespace EndpointCache

section Backoff

variable {α : Type*}

/-- `effective_ttl`, with `adaptive_ttl_enabled`, `adaptive_ttl_max_seconds` and the seconds since
the last request of a user. -/
def effectiveTtl (cfg : CacheSettings) (adaptive : Bool) (maxTtl idleSeconds : Rat) : Rat :=
  let base := cfg.cacheTtlSeconds
  if !adaptive then base
  else if maxTtl ≤ base then base
  else if base * 10 ≤ 0 then base
  else base + min 1 (idleSeconds / (base * 10)) * (maxTtl - base)

/-- `get_priority_stale_ids`: the ids by their age over the TTL of their tier, the greatest first;
`none` where that TTL is zero and the division raises. -/
def getPriorityStaleIds (now : Time) (cache : EndpointCache α) (baseTtl : Rat)
    (excludeInflight : List EndpointId) : Option (List EndpointId) :=
  let considered := cache.details.entries.filter fun entry => entry.1 ∉ excludeInflight
  if considered.any fun entry => effectiveTtlForEntry entry.2 baseTtl = 0 then none
  else
    let priorities := considered.map fun entry =>
      (entry.1, (now - entry.2.fetchedAt) / effectiveTtlForEntry entry.2 baseTtl)
    let candidates := priorities.filter fun candidate => 1 < candidate.2
    some ((candidates.mergeSort fun a b => b.2 ≤ a.2).map Prod.fst)

/-- The id is in the queue of the drip loop, with no fetch in flight. -/
def DueAt (now : Time) (cache : EndpointCache α) (baseTtl : Rat) (endpointId : EndpointId) : Prop :=
  ∃ ids, getPriorityStaleIds now cache baseTtl [] = some ids ∧ endpointId ∈ ids

/-- After the back-off at `now` the id is not due for 60 seconds, and one that was due is due again
from the TTL of its tier on. -/
structure BackoffTakesEffect (cfg : CacheSettings) (cache : EndpointCache α) (now : Time)
    (effTtl : Rat) (endpointId : EndpointId) : Prop where
  stays_away : ∀ later, now ≤ later → later ≤ now + 60 →
    ¬ DueAt later (setFetchBackoff cfg now cache endpointId) effTtl endpointId
  due_again : DueAt now cache effTtl endpointId → ∀ entry,
    cache.details.get? endpointId = some entry →
    ∀ later, now + effectiveTtlForEntry entry effTtl ≤ later →
      DueAt later (setFetchBackoff cfg now cache endpointId) effTtl endpointId

variable {cfg : CacheSettings} {cache : EndpointCache α} {now : Time} {effTtl : Rat}
  {endpointId : EndpointId} {entry : CachedEntry α}

theorem effectiveTtlForEntry_pos (entry : CachedEntry α) (hpos : 0 < effTtl) :
    0 < effectiveTtlForEntry entry effTtl := by
  unfold effectiveTtlForEntry tierHotFactor tierColdFactor
  split_ifs <;> linarith

/-- An id is due when its entry is older than the TTL of its tier. -/
theorem dueAt_iff (hpos : 0 < effTtl) :
    DueAt now cache effTtl endpointId ↔
      ∃ entry, cache.details.get? endpointId = some entry ∧
        effectiveTtlForEntry entry effTtl < now - entry.fetchedAt := by
  have hnonzero : ¬ ((cache.details.entries.filter fun entry => entry.1 ∉ []).any
      fun entry => effectiveTtlForEntry entry.2 effTtl = 0) = true := by
    rw [List.any_eq_true]
    rintro ⟨entry, -, hzero⟩
    exact (effectiveTtlForEntry_pos entry.2 hpos).ne' (of_decide_eq_true hzero)
  unfold DueAt getPriorityStaleIds
  rw [if_neg hnonzero]
  simp only [Option.some.injEq, exists_eq_left', List.mem_map, List.mem_mergeSort, List.mem_filter,
    List.not_mem_nil, not_false_eq_true, decide_true, and_true, decide_eq_true_eq]
  constructor
  · rintro ⟨candidate, ⟨⟨entry, hentry, rfl⟩, hdue⟩, rfl⟩
    rw [one_lt_div (effectiveTtlForEntry_pos entry.2 hpos)] at hdue
    exact ⟨entry.2, Dict.get?_eq_some_iff.mpr hentry, hdue⟩
  · rintro ⟨entry, hentry, hdue⟩
    refine ⟨_, ⟨⟨(endpointId, entry), Dict.get?_eq_some_iff.mp hentry, rfl⟩, ?_⟩, rfl⟩
    exact (one_lt_div (effectiveTtlForEntry_pos entry hpos)).mpr hdue

/-- After a back-off the age of the entry begins 60 seconds below the base TTL. -/
theorem dueAt_setFetchBackoff_iff (hpos : 0 < effTtl)
    (hentry : cache.details.get? endpointId = some entry) (later : Time) :
    DueAt later (setFetchBackoff cfg now cache endpointId) effTtl endpointId ↔
      effectiveTtlForEntry entry effTtl < later - now + cfg.cacheTtlSeconds - 60 := by
  have hmoved : (setFetchBackoff cfg now cache endpointId).details.get? endpointId =
      some { entry with fetchedAt := now - cfg.cacheTtlSeconds + 60 } := by
    rw [setFetchBackoff, Dict.get?_modify, if_pos rfl, hentry]
    rfl
  have hage : later - (now - cfg.cacheTtlSeconds + 60) = later - now + cfg.cacheTtlSeconds - 60 := by
    ring
  rw [dueAt_iff hpos, hmoved]
  simp only [Option.some.injEq, exists_eq_left', hage]
  rfl

/-- An entry of a tier that is not hot is away for 60 seconds whatever the effective TTL; a hot one
exactly when half the effective TTL is the base TTL or more. -/
theorem le_effectiveTtlForEntry_iff (hbase : 0 < cfg.cacheTtlSeconds)
    (heffective : cfg.cacheTtlSeconds ≤ effTtl) :
    cfg.cacheTtlSeconds ≤ effectiveTtlForEntry entry effTtl ↔
      entry.changeEma < tierHotEma ∨ 2 * cfg.cacheTtlSeconds ≤ effTtl := by
  unfold effectiveTtlForEntry tierHotFactor tierColdFactor
  by_cases hhot : entry.changeEma ≥ tierHotEma
  · rw [if_pos hhot, or_iff_right (not_lt.mpr hhot)]
    constructor
    · intro hhalf
      linarith
    · intro htwice
      linarith
  · rw [if_neg hhot]
    refine iff_of_true ?_ (Or.inl (not_le.mp hhot))
    split_ifs <;> linarith

/-- The back-off takes effect exactly for an entry that is not hot, or while the effective TTL is at
least twice the base TTL. -/
theorem backoff_takes_effect_iff (cfg : CacheSettings) (cache : EndpointCache α) (now : Time)
    (effTtl : Rat) (endpointId : EndpointId) (hbase : 60 < cfg.cacheTtlSeconds)
    (heffective : cfg.cacheTtlSeconds ≤ effTtl) :
    BackoffTakesEffect cfg cache now effTtl endpointId ↔
      ∀ entry, cache.details.get? endpointId = some entry →
        entry.changeEma < tierHotEma ∨ 2 * cfg.cacheTtlSeconds ≤ effTtl := by
  have hpos : 0 < effTtl := by linarith
  have hbasePos : 0 < cfg.cacheTtlSeconds := by linarith
  constructor
  · intro heffect entry hentry
    -- 60 seconds later the age is the base TTL
    have haway := heffect.stays_away (now + 60) (by linarith) (le_refl _)
    rw [dueAt_setFetchBackoff_iff hpos hentry, not_lt] at haway
    rw [← le_effectiveTtlForEntry_iff hbasePos heffective]
    linarith
  · intro htiers
    refine ⟨fun later _ hlater hdue => ?_, fun _ entry hentry later hlater => ?_⟩
    · obtain ⟨moved, hmoved, -⟩ := (dueAt_iff hpos).mp hdue
      rw [setFetchBackoff, Dict.get?_modify, if_pos rfl] at hmoved
      obtain ⟨entry, hentry, -⟩ := Option.map_eq_some_iff.mp hmoved
      have hage := (dueAt_setFetchBackoff_iff hpos hentry later).mp hdue
      have hle := (le_effectiveTtlForEntry_iff hbasePos heffective).mpr (htiers entry hentry)
      linarith
    · rw [dueAt_setFetchBackoff_iff hpos hentry]
      linarith

end Backoff

/-! ## A hot endpoint that does not answer -/

/-- A cache with one hot entry, last read 250 seconds ago. -/
def hotCache : EndpointCache Unit where
  details := ⟨[("ep-1", { value := (), fetchedAt := 750, changeEma := 1 / 2 })], by simp⟩

/-- The settings of a base TTL of five minutes. -/
def fiveMinutes : CacheSettings := { cacheTtlSeconds := 300 }

/-- It is due again the moment its fetch has failed. -/
theorem hot_entry_stays_due : ¬ BackoffTakesEffect fiveMinutes hotCache 1000 300 "ep-1" := by
  intro heffect
  refine heffect.stays_away 1000 (le_refl _) (by norm_num) ?_
  refine (dueAt_setFetchBackoff_iff (by norm_num) rfl 1000).mpr ?_
  norm_num [effectiveTtlForEntry, tierHotEma, tierHotFactor, fiveMinutes]

/-- With an idle portal and an effective TTL of an hour it is left alone. -/
theorem hot_entry_left_alone : BackoffTakesEffect fiveMinutes hotCache 1000 3600 "ep-1" :=
  (backoff_takes_effect_iff fiveMinutes hotCache 1000 3600 "ep-1" (by norm_num [fiveMinutes])
    (by norm_num [fiveMinutes])).mpr fun _ _ => Or.inr (by norm_num [fiveMinutes])

end EndpointCache

end IsePortal
