import IsePortal.Library.Runs
import Mathlib.Data.Finset.SDiff

/-!
# The hot queue of the pre-warm worker

`prioritize`, `_drain_hot_queue` and `_full_scan` of `app/services/cache_prewarm.py`, as far as they
use `_hot` and `_hot_set`, in any interleaving. What happens between two awaits is one step. A
drain clears `_hot_set` after its fetches and a scan before them, so that a call made during a
drain is dropped though the fetch of its endpoint has begun, and a drain that is cancelled never
clears it. `hot_queue_runs` says what holds of every run, and in which runs no call is lost.
-/

namespace IsePortal.HotQueue

open Library

inductive JobKind where
  | drain
  | fullScan
  deriving DecidableEq

/-- A drain or a scan that is not over. -/
structure Job (Id : Type) where
  kind : JobKind
  /-- Whether it has emptied the queue. -/
  begun : Bool
  /-- `hot_ids` of a drain, `hot_first` of a scan -/
  taken : List Id := []
  /-- The tasks that have not started their fetch. -/
  toFetch : List Id := []
  fetching : List Id := []

/-- A drain that has emptied the queue. -/
def Job.ofHot {Id : Type} (hot : List Id) : Job Id :=
  { kind := .drain, begun := true, taken := hot, toFetch := hot }

variable {Id : Type} [DecidableEq Id]

/-- The worker. The jobs go by the moment they started at, and the last three fields tell what has
happened: the calls of `prioritize`, the fetches that started, and the start and end of the jobs
that ran to completion. -/
structure State (Id : Type) where
  hot : List Id := []
  hotSet : Finset Id := ∅
  jobs : Nat → Option (Job Id) := fun _ => none
  stop : Bool := false
  now : Nat := 0
  calls : List (Id × Nat) := []
  fetches : List (Id × Nat) := []
  completed : List (Nat × Nat) := []

inductive Action (Id : Type) where
  | prioritize (id : Id)
  | drain
  | scan
  /-- The scan has listed the endpoints. `others` are those it finds stale. -/
  | listed (job : Nat) (others : List Id)
  | fetch (job : Nat) (id : Id)
  /-- A fetch is over, with an answer or an error. -/
  | answered (job : Nat) (id : Id)
  /-- A task of a scan finds `_stop` set. -/
  | skip (job : Nat) (id : Id)
  | finish (job : Nat)
  /-- A drain or scan is cancelled, or ended by an exception. -/
  | cut (job : Nat)
  | setStop (value : Bool)

namespace State

def setJob (s : State Id) (n : Nat) (job : Option (Job Id)) : State Id :=
  { s with jobs := Function.update s.jobs n job, now := s.now + 1 }

/-- `prioritize` -/
def prioritize (s : State Id) (id : Id) : State Id :=
  { s with
    hot := if id ∈ s.hotSet then s.hot else s.hot ++ [id]
    hotSet := insert id s.hotSet
    now := s.now + 1
    calls := (id, s.now) :: s.calls }

/-- The start of `_drain_hot_queue`, which returns at once where the queue is empty. -/
def drain (s : State Id) : State Id :=
  if s.hot = [] then { s with now := s.now + 1, completed := (s.now, s.now) :: s.completed }
  else { s.setJob s.now (some (Job.ofHot s.hot)) with hot := [] }

/-- The middle of `_full_scan`, where it empties the queue. -/
def listed (s : State Id) (n : Nat) (job : Job Id) (others : List Id) : State Id :=
  { s.setJob n (some { job with
      begun := true
      taken := s.hot
      toFetch := s.hot ++ others.filter (· ∉ s.hot) }) with
    hot := []
    hotSet := s.hotSet \ s.hot.toFinset }

def fetch (s : State Id) (n : Nat) (job : Job Id) (id : Id) : State Id :=
  { s.setJob n (some { job with
      toFetch := job.toFetch.erase id
      fetching := id :: job.fetching }) with
    fetches := (id, s.now) :: s.fetches }

/-- The end of a job whose fetches are over. -/
def finish (s : State Id) (n : Nat) (job : Job Id) : State Id :=
  { s.setJob n none with
    hotSet := if job.kind = .drain then s.hotSet \ job.taken.toFinset else s.hotSet
    completed := (n, s.now) :: s.completed }

end State

open State

/-- A step of a job, where it meets the condition. -/
def onJob (s : State Id) (n : Nat) (possible : Job Id → Bool) (next : Job Id → State Id) :
    Option (State Id) :=
  match s.jobs n with
  | some job => if possible job then some (next job) else none
  | none => none

def step (s : State Id) : Action Id → Option (State Id)
  | .prioritize id => some (s.prioritize id)
  | .drain => some s.drain
  | .scan => some (s.setJob s.now (some { kind := .fullScan, begun := false }))
  | .listed n others =>
      onJob s n (fun job => job.kind = .fullScan && !job.begun) fun job => s.listed n job others
  | .fetch n id => onJob s n (fun job => id ∈ job.toFetch) fun job => s.fetch n job id
  | .answered n id =>
      onJob s n (fun job => id ∈ job.fetching) fun job =>
        s.setJob n (some { job with fetching := job.fetching.erase id })
  | .skip n id =>
      onJob s n (fun job => job.kind = .fullScan && s.stop && id ∈ job.toFetch) fun job =>
        s.setJob n (some { job with toFetch := job.toFetch.erase id })
  | .finish n =>
      onJob s n (fun job => job.begun && job.toFetch.isEmpty && job.fetching.isEmpty) fun job =>
        s.finish n job
  | .cut n => onJob s n (fun _ => true) fun _ => s.setJob n none
  | .setStop value => some { s with stop := value, now := s.now + 1 }

/-! ## What is kept -/

/-- No id is in the queue twice, and every one is in the set. -/
def Deduplicated (s : State Id) : Prop := s.hot.Nodup ∧ ∀ id ∈ s.hot, id ∈ s.hotSet

/-- For every call and every job that started after it and ran to completion, a fetch of the
endpoint started in between. -/
def Served (s : State Id) : Prop :=
  ∀ call ∈ s.calls, ∀ job ∈ s.completed, call.2 < job.1 →
    ∃ fetch ∈ s.fetches, fetch.1 = call.1 ∧ call.2 < fetch.2 ∧ fetch.2 ≤ job.2

/-- A job has taken the id and will start to fetch it. -/
def Waits (s : State Id) (id : Id) : Prop :=
  ∃ n job, s.jobs n = some job ∧ id ∈ job.taken ∧ id ∈ job.toFetch

/-- No call is made for an endpoint that a drain has started to fetch, no drain is cut short, no
scan is cut short or stopped before it has started the fetches of what it took, and no job ends
while another one has such fetches left. -/
def Sound (s : State Id) : Action Id → Prop
  | .prioritize id =>
      ∀ n job, s.jobs n = some job → job.kind = .drain → id ∈ job.taken → id ∈ job.toFetch
  | .drain => s.hot = [] → ∀ id, ¬ Waits s id
  | .skip n id => ∀ job, s.jobs n = some job → id ∉ job.taken
  | .finish _ => ∀ id, ¬ Waits s id
  | .cut n =>
      ∀ job, s.jobs n = some job → job.kind = .fullScan ∧ ∀ id ∈ job.taken, id ∉ job.toFetch
  | _ => True

/-- What every run keeps: what a drain has taken is in the set and not in the queue, and no two
drains have taken the same. -/
structure Kept (s : State Id) : Prop where
  nodup : s.hot.Nodup
  inSet : ∀ id ∈ s.hot, id ∈ s.hotSet
  past : ∀ n job, s.jobs n = some job → n < s.now
  held : ∀ n job, s.jobs n = some job → job.kind = .drain →
    ∀ id ∈ job.taken, id ∈ s.hotSet ∧ id ∉ s.hot
  apart : ∀ m n first second, m ≠ n → s.jobs m = some first → s.jobs n = some second →
    first.kind = .drain → second.kind = .drain → ∀ id ∈ first.taken, id ∉ second.taken

variable {s t : State Id} {n : Nat} {id : Id} {job : Job Id}

omit [DecidableEq Id] in
theorem onJob_eq_some {possible : Job Id → Bool} {next : Job Id → State Id}
    (h : onJob s n possible next = some t) :
    ∃ job, s.jobs n = some job ∧ possible job = true ∧ t = next job := by
  unfold onJob at h
  split at h
  · rename_i job hjob
    split at h
    · rename_i hpossible
      exact ⟨job, hjob, hpossible, (Option.some.inj h).symm⟩
    · cases h
  · cases h

omit [DecidableEq Id] in
theorem jobs_setJob (s : State Id) (n m : Nat) (job : Option (Job Id)) :
    (s.setJob n job).jobs m = if m = n then job else s.jobs m :=
  Function.update_apply s.jobs n job m

/-! ### The set and the queue -/

omit [DecidableEq Id] in
/-- A step that leaves the queue and the set, and of every job its kind and what it took. -/
theorem Kept.of_jobs (h : Kept s) (hhot : t.hot = s.hot) (hset : t.hotSet = s.hotSet)
    (hnow : s.now ≤ t.now)
    (hjobs : ∀ n job, t.jobs n = some job →
      ∃ old, s.jobs n = some old ∧ job.kind = old.kind ∧ job.taken = old.taken) : Kept t := by
  obtain ⟨hnodup, hinSet, hpast, hheld, hapart⟩ := h
  refine ⟨hhot ▸ hnodup, ?_, ?_, ?_, ?_⟩
  · rw [hhot, hset]
    exact hinSet
  · intro n job hjob
    obtain ⟨old, hold, -, -⟩ := hjobs n job hjob
    exact (hpast n old hold).trans_le hnow
  · intro n job hjob hdrain
    obtain ⟨old, hold, hkind, htaken⟩ := hjobs n job hjob
    rw [hhot, hset, htaken]
    exact hheld n old hold (hkind ▸ hdrain)
  · intro m n first second hne hfirst hsecond hdrain hother
    obtain ⟨before, hbefore, hkind, htaken⟩ := hjobs m first hfirst
    obtain ⟨after, hafter, hkind', htaken'⟩ := hjobs n second hsecond
    rw [htaken, htaken']
    exact hapart m n before after hne hbefore hafter (hkind ▸ hdrain) (hkind' ▸ hother)

omit [DecidableEq Id] in
/-- The jobs after one of them is changed. -/
theorem jobs_changed {old : Job Id} (hold : s.jobs n = some old) (hkind : job.kind = old.kind)
    (htaken : job.taken = old.taken) (m : Nat) (other : Job Id)
    (hother : (s.setJob n (some job)).jobs m = some other) :
    ∃ before, s.jobs m = some before ∧ other.kind = before.kind ∧ other.taken = before.taken := by
  rw [jobs_setJob] at hother
  by_cases hm : m = n
  · rw [if_pos hm] at hother
    obtain rfl := Option.some.inj hother
    exact ⟨old, hm ▸ hold, hkind, htaken⟩
  · rw [if_neg hm] at hother
    exact ⟨other, hother, rfl, rfl⟩

omit [DecidableEq Id] in
/-- The jobs after one of them is over. -/
theorem jobs_ended (m : Nat) (other : Job Id)
    (hother : (s.setJob n none).jobs m = some other) : m ≠ n ∧ s.jobs m = some other := by
  rw [jobs_setJob] at hother
  by_cases hm : m = n
  · rw [if_pos hm] at hother
    cases hother
  · rw [if_neg hm] at hother
    exact ⟨hm, hother⟩

theorem Kept.prioritize (h : Kept s) (id : Id) : Kept (s.prioritize id) := by
  obtain ⟨hnodup, hinSet, hpast, hheld, hapart⟩ := h
  by_cases hid : id ∈ s.hotSet
  · have hsame : s.prioritize id =
        { s with now := s.now + 1, calls := (id, s.now) :: s.calls } := by
      rw [State.prioritize, if_pos hid, Finset.insert_eq_of_mem hid]
    rw [hsame]
    exact ⟨hnodup, hinSet, fun n job hjob => Nat.lt_succ_of_lt (hpast n job hjob), hheld, hapart⟩
  · have hnew : id ∉ s.hot := fun hmem => hid (hinSet id hmem)
    have hhot : (s.prioritize id).hot = s.hot ++ [id] := if_neg hid
    refine ⟨?_, ?_, fun n job hjob => Nat.lt_succ_of_lt (hpast n job hjob), ?_, hapart⟩
    · rw [hhot, List.nodup_append]
      refine ⟨hnodup, List.nodup_singleton id, ?_⟩
      rintro first hfirst second hsecond rfl
      exact hnew (List.mem_singleton.mp hsecond ▸ hfirst)
    · intro other hother
      rw [hhot, List.mem_append, List.mem_singleton] at hother
      rcases hother with hother | rfl
      · exact Finset.mem_insert_of_mem (hinSet other hother)
      · exact Finset.mem_insert_self other _
    · intro n job hjob hdrain other hother
      obtain ⟨hset, hqueue⟩ := hheld n job hjob hdrain other hother
      refine ⟨Finset.mem_insert_of_mem hset, ?_⟩
      rw [hhot, List.mem_append, List.mem_singleton]
      rintro (hmem | rfl)
      · exact hqueue hmem
      · exact hid hset

omit [DecidableEq Id] in
theorem Kept.drain (h : Kept s) : Kept s.drain := by
  obtain ⟨hnodup, hinSet, hpast, hheld, hapart⟩ := h
  unfold State.drain
  by_cases hempty : s.hot = []
  · rw [if_pos hempty]
    exact ⟨hnodup, hinSet, fun n job hjob => Nat.lt_succ_of_lt (hpast n job hjob), hheld, hapart⟩
  · rw [if_neg hempty]
    have hjobs : ∀ n job, (s.setJob s.now (some (Job.ofHot s.hot))).jobs n = some job →
        (n = s.now ∧ job.taken = s.hot) ∨ (n ≠ s.now ∧ s.jobs n = some job) := by
      intro n job hjob
      rw [jobs_setJob] at hjob
      by_cases hn : n = s.now
      · rw [if_pos hn] at hjob
        obtain rfl := Option.some.inj hjob
        exact Or.inl ⟨hn, rfl⟩
      · rw [if_neg hn] at hjob
        exact Or.inr ⟨hn, hjob⟩
    refine ⟨List.nodup_nil, fun _ hid => absurd hid List.not_mem_nil, ?_, ?_, ?_⟩
    · intro n job hjob
      rcases hjobs n job hjob with ⟨rfl, -⟩ | ⟨-, hold⟩
      · exact Nat.lt_succ_self _
      · exact Nat.lt_succ_of_lt (hpast n job hold)
    · intro n job hjob hdrain id hid
      refine ⟨?_, List.not_mem_nil⟩
      rcases hjobs n job hjob with ⟨-, htaken⟩ | ⟨-, hold⟩
      · exact hinSet id (htaken ▸ hid)
      · exact (hheld n job hold hdrain id hid).1
    · intro m n first second hne hfirst hsecond hdrain hother id hid hid'
      rcases hjobs m first hfirst with ⟨rfl, htaken⟩ | ⟨-, hold⟩
      · rcases hjobs n second hsecond with ⟨rfl, -⟩ | ⟨-, hold⟩
        · exact hne rfl
        · exact (hheld n second hold hother id hid').2 (htaken ▸ hid)
      · rcases hjobs n second hsecond with ⟨-, htaken⟩ | ⟨-, hold'⟩
        · exact (hheld m first hold hdrain id hid).2 (htaken ▸ hid')
        · exact hapart m n first second hne hold hold' hdrain hother id hid hid'

omit [DecidableEq Id] in
theorem Kept.scan (h : Kept s) :
    Kept (s.setJob s.now (some { kind := .fullScan, begun := false })) := by
  obtain ⟨hnodup, hinSet, hpast, hheld, hapart⟩ := h
  have hjobs : ∀ n job, (s.setJob s.now (some { kind := .fullScan, begun := false })).jobs n =
      some job → (n = s.now ∧ job.kind = .fullScan) ∨ s.jobs n = some job := by
    intro n job hjob
    rw [jobs_setJob] at hjob
    by_cases hn : n = s.now
    · rw [if_pos hn] at hjob
      obtain rfl := Option.some.inj hjob
      exact Or.inl ⟨hn, rfl⟩
    · rw [if_neg hn] at hjob
      exact Or.inr hjob
  have hdrains : ∀ n job, (s.setJob s.now (some { kind := .fullScan, begun := false })).jobs n =
      some job → job.kind = .drain → s.jobs n = some job := by
    intro n job hjob hdrain
    rcases hjobs n job hjob with ⟨-, hscan⟩ | hold
    · rw [hscan] at hdrain
      cases hdrain
    · exact hold
  refine ⟨hnodup, hinSet, ?_, ?_, ?_⟩
  · intro n job hjob
    rcases hjobs n job hjob with ⟨rfl, -⟩ | hold
    · exact Nat.lt_succ_self _
    · exact Nat.lt_succ_of_lt (hpast n job hold)
  · exact fun n job hjob hdrain => hheld n job (hdrains n job hjob hdrain) hdrain
  · intro m n first second hne hfirst hsecond hdrain hother
    exact hapart m n first second hne (hdrains m first hfirst hdrain)
      (hdrains n second hsecond hother) hdrain hother

theorem Kept.listed (h : Kept s) (hjob : s.jobs n = some job) (hkind : job.kind = .fullScan)
    (others : List Id) : Kept (s.listed n job others) := by
  obtain ⟨hnodup, hinSet, hpast, hheld, hapart⟩ := h
  have hdrains : ∀ m other, (s.listed n job others).jobs m = some other →
      (m = n ∧ other.kind = .fullScan) ∨ s.jobs m = some other := by
    intro m other hother
    have hset := (jobs_setJob s n m _).symm.trans hother
    by_cases hm : m = n
    · rw [if_pos hm] at hset
      obtain rfl := Option.some.inj hset
      exact Or.inl ⟨hm, hkind⟩
    · rw [if_neg hm] at hset
      exact Or.inr hset
  have holds : ∀ m other, (s.listed n job others).jobs m = some other → other.kind = .drain →
      s.jobs m = some other := by
    intro m other hother hdrain
    rcases hdrains m other hother with ⟨-, hscan⟩ | hold
    · rw [hscan] at hdrain
      cases hdrain
    · exact hold
  refine ⟨List.nodup_nil, fun _ hid => absurd hid List.not_mem_nil, ?_, ?_, ?_⟩
  · intro m other hother
    rcases hdrains m other hother with ⟨rfl, -⟩ | hold
    · exact Nat.lt_succ_of_lt (hpast m job hjob)
    · exact Nat.lt_succ_of_lt (hpast m other hold)
  · intro m other hother hdrain id hid
    obtain ⟨hset, hqueue⟩ := hheld m other (holds m other hother hdrain) hdrain id hid
    refine ⟨?_, List.not_mem_nil⟩
    exact Finset.mem_sdiff.mpr ⟨hset, fun hmem => hqueue (List.mem_toFinset.mp hmem)⟩
  · intro m k first second hne hfirst hsecond hdrain hother
    exact hapart m k first second hne (holds m first hfirst hdrain)
      (holds k second hsecond hother) hdrain hother

theorem Kept.finish (h : Kept s) (hjob : s.jobs n = some job) : Kept (s.finish n job) := by
  obtain ⟨hnodup, hinSet, hpast, hheld, hapart⟩ := h
  have hset : ∀ id ∈ s.hotSet, (job.kind = .drain → id ∉ job.taken) →
      id ∈ (s.finish n job).hotSet := by
    intro id hid hnot
    show id ∈ if job.kind = .drain then s.hotSet \ job.taken.toFinset else s.hotSet
    by_cases hdrain : job.kind = .drain
    · rw [if_pos hdrain]
      exact Finset.mem_sdiff.mpr ⟨hid, fun hmem => hnot hdrain (List.mem_toFinset.mp hmem)⟩
    · rwa [if_neg hdrain]
  refine ⟨hnodup, ?_, ?_, ?_, ?_⟩
  · exact fun id hid => hset id (hinSet id hid) fun hdrain hmem =>
      (hheld n job hjob hdrain id hmem).2 hid
  · intro m other hother
    exact Nat.lt_succ_of_lt (hpast m other (jobs_ended m other hother).2)
  · intro m other hother hdrain id hid
    obtain ⟨hne, hold⟩ := jobs_ended m other hother
    obtain ⟨hmem, hqueue⟩ := hheld m other hold hdrain id hid
    exact ⟨hset id hmem fun hown => hapart m n other job hne hold hjob hdrain hown id hid, hqueue⟩
  · intro m k first second hne hfirst hsecond
    exact hapart m k first second hne (jobs_ended m first hfirst).2 (jobs_ended k second hsecond).2

/-- Every step keeps what every run keeps. -/
theorem Kept.step {a : Action Id} (hstep : step s a = some t) (h : Kept s) : Kept t := by
  cases a with
  | prioritize id =>
      obtain rfl := Option.some.inj hstep
      exact h.prioritize id
  | drain =>
      obtain rfl := Option.some.inj hstep
      exact h.drain
  | scan =>
      obtain rfl := Option.some.inj hstep
      exact h.scan
  | listed n others =>
      obtain ⟨job, hjob, hpossible, rfl⟩ := onJob_eq_some hstep
      rw [Bool.and_eq_true, decide_eq_true_eq] at hpossible
      exact h.listed hjob hpossible.1 others
  | fetch n id =>
      obtain ⟨job, hjob, -, rfl⟩ := onJob_eq_some hstep
      exact h.of_jobs rfl rfl (Nat.le_succ _) (jobs_changed hjob rfl rfl)
  | answered n id =>
      obtain ⟨job, hjob, -, rfl⟩ := onJob_eq_some hstep
      exact h.of_jobs rfl rfl (Nat.le_succ _) (jobs_changed hjob rfl rfl)
  | skip n id =>
      obtain ⟨job, hjob, -, rfl⟩ := onJob_eq_some hstep
      exact h.of_jobs rfl rfl (Nat.le_succ _) (jobs_changed hjob rfl rfl)
  | finish n =>
      obtain ⟨job, hjob, -, rfl⟩ := onJob_eq_some hstep
      exact h.finish hjob
  | cut n =>
      obtain ⟨job, hjob, -, rfl⟩ := onJob_eq_some hstep
      exact h.of_jobs rfl rfl (Nat.le_succ _) fun m other hother =>
        ⟨other, (jobs_ended m other hother).2, rfl, rfl⟩
  | setStop value =>
      obtain rfl := Option.some.inj hstep
      exact h.of_jobs rfl rfl (Nat.le_succ _) fun n job hjob => ⟨job, hjob, rfl, rfl⟩

omit [DecidableEq Id] in
theorem kept_start : Kept ({} : State Id) :=
  ⟨List.nodup_nil, fun _ hid => absurd hid List.not_mem_nil, nofun, nofun, nofun⟩

/-! ### The calls -/

/-- A fetch of the endpoint has started since the call. -/
def FetchedSince (s : State Id) (call : Id × Nat) : Prop :=
  ∃ fetch ∈ s.fetches, fetch.1 = call.1 ∧ call.2 < fetch.2

/-- What the runs keep whose steps are sound: every id of the set is in the queue or with a drain,
and a call that has not been served waits in the queue or with a job; with a job, once one that
started after it has emptied the queue. -/
structure Tracked (s : State Id) : Prop where
  kept : Kept s
  accounted : ∀ id ∈ s.hotSet,
    id ∈ s.hot ∨ ∃ n job, s.jobs n = some job ∧ job.kind = .drain ∧ id ∈ job.taken
  unbegun : ∀ n job, s.jobs n = some job → job.begun = false → job.taken = []
  pending : ∀ call ∈ s.calls, FetchedSince s call ∨ call.1 ∈ s.hot ∨ Waits s call.1
  emptied : ∀ call ∈ s.calls, ∀ n job, s.jobs n = some job → job.begun = true → call.2 < n →
    FetchedSince s call ∨ Waits s call.1
  callsPast : ∀ call ∈ s.calls, call.2 < s.now
  fetchesPast : ∀ fetch ∈ s.fetches, fetch.2 < s.now
  completedPast : ∀ job ∈ s.completed, job.1 < s.now
  served : Served s

omit [DecidableEq Id] in
/-- A step that neither calls nor fetches nor completes, and loses no job a call waits with. -/
theorem Tracked.of_quiet (h : Tracked s) (hkept : Kept t) (hhot : t.hot = s.hot)
    (hset : t.hotSet = s.hotSet) (hcalls : t.calls = s.calls) (hfetches : t.fetches = s.fetches)
    (hcompleted : t.completed = s.completed) (hnow : s.now ≤ t.now)
    (hdrains : ∀ n job, s.jobs n = some job → job.kind = .drain →
      ∃ other, t.jobs n = some other ∧ other.kind = .drain ∧ other.taken = job.taken)
    (hwaits : ∀ id, Waits s id → Waits t id)
    (hbegun : ∀ n job, t.jobs n = some job → job.begun = true →
      ∃ old, s.jobs n = some old ∧ old.begun = true)
    (hunbegun : ∀ n job, t.jobs n = some job → job.begun = false → job.taken = []) :
    Tracked t := by
  obtain ⟨-, haccounted, -, hpending, hemptied, hcallsPast, hfetchesPast, hcompletedPast,
    hserved⟩ := h
  have hsince : ∀ {call}, FetchedSince s call → FetchedSince t call := by
    rintro call ⟨fetch, hfetch, hid, hlater⟩
    exact ⟨fetch, hfetches ▸ hfetch, hid, hlater⟩
  refine ⟨hkept, ?_, hunbegun, ?_, ?_, ?_, ?_, ?_, ?_⟩
  · intro id hid
    rcases haccounted id (hset ▸ hid) with hqueue | ⟨n, job, hjob, hdrain, htaken⟩
    · exact Or.inl (hhot ▸ hqueue)
    · obtain ⟨other, hother, hkind, hsame⟩ := hdrains n job hjob hdrain
      exact Or.inr ⟨n, other, hother, hkind, hsame ▸ htaken⟩
  · intro call hcall
    rcases hpending call (hcalls ▸ hcall) with hfetched | hqueue | hwaiting
    · exact Or.inl (hsince hfetched)
    · exact Or.inr (Or.inl (hhot ▸ hqueue))
    · exact Or.inr (Or.inr (hwaits _ hwaiting))
  · intro call hcall n job hjob hhas hlater
    obtain ⟨old, hold, hdone⟩ := hbegun n job hjob hhas
    rcases hemptied call (hcalls ▸ hcall) n old hold hdone hlater with hfetched | hwaiting
    · exact Or.inl (hsince hfetched)
    · exact Or.inr (hwaits _ hwaiting)
  · exact fun call hcall => (hcallsPast call (hcalls ▸ hcall)).trans_le hnow
  · exact fun fetch hfetch => (hfetchesPast fetch (hfetches ▸ hfetch)).trans_le hnow
  · exact fun job hjob => (hcompletedPast job (hcompleted ▸ hjob)).trans_le hnow
  · unfold Served
    rw [hcalls, hcompleted, hfetches]
    exact hserved

theorem Tracked.prioritize (h : Tracked s) (hsound : Sound s (.prioritize id)) :
    Tracked (s.prioritize id) := by
  obtain ⟨hkept, haccounted, hunbegun, hpending, hemptied, hcallsPast, hfetchesPast,
    hcompletedPast, hserved⟩ := h
  have hqueue : ∀ other ∈ s.hot, other ∈ (s.prioritize id).hot := by
    intro other hother
    show other ∈ if id ∈ s.hotSet then s.hot else s.hot ++ [id]
    split
    · exact hother
    · exact List.mem_append_left _ hother
  have hcalled : id ∈ (s.prioritize id).hot ∨ Waits s id := by
    by_cases hid : id ∈ s.hotSet
    · -- the call adds nothing: the id is where the set says it is
      rcases haccounted id hid with hmem | ⟨n, job, hjob, hdrain, htaken⟩
      · exact Or.inl (hqueue id hmem)
      · exact Or.inr ⟨n, job, hjob, htaken, hsound n job hjob hdrain htaken⟩
    · refine Or.inl ?_
      show id ∈ if id ∈ s.hotSet then s.hot else s.hot ++ [id]
      rw [if_neg hid]
      exact List.mem_append_right _ List.mem_cons_self
  refine ⟨hkept.prioritize id, ?_, hunbegun, ?_, ?_, ?_, ?_, ?_, ?_⟩
  · intro other hother
    rcases Finset.mem_insert.mp hother with rfl | hold
    · by_cases hid : other ∈ s.hotSet
      · rcases haccounted other hid with hmem | hdrain
        · exact Or.inl (hqueue other hmem)
        · exact Or.inr hdrain
      · refine Or.inl ?_
        show other ∈ if other ∈ s.hotSet then s.hot else s.hot ++ [other]
        rw [if_neg hid]
        exact List.mem_append_right _ List.mem_cons_self
    · rcases haccounted other hold with hmem | hdrain
      · exact Or.inl (hqueue other hmem)
      · exact Or.inr hdrain
  · intro call hcall
    rcases List.mem_cons.mp hcall with rfl | hold
    · exact Or.inr hcalled
    · rcases hpending call hold with hfetched | hmem | hwaiting
      · exact Or.inl hfetched
      · exact Or.inr (Or.inl (hqueue _ hmem))
      · exact Or.inr (Or.inr hwaiting)
  · intro call hcall n job hjob hbegun hlater
    rcases List.mem_cons.mp hcall with rfl | hold
    · exact absurd (hkept.past n job hjob) (Nat.not_lt.mpr hlater.le)
    · exact hemptied call hold n job hjob hbegun hlater
  · intro call hcall
    rcases List.mem_cons.mp hcall with rfl | hold
    · exact Nat.lt_succ_self _
    · exact Nat.lt_succ_of_lt (hcallsPast call hold)
  · exact fun fetch hfetch => Nat.lt_succ_of_lt (hfetchesPast fetch hfetch)
  · exact fun job hjob => Nat.lt_succ_of_lt (hcompletedPast job hjob)
  · intro call hcall job hjob hlater
    rcases List.mem_cons.mp hcall with rfl | hold
    · exact absurd (hcompletedPast job hjob) (Nat.not_lt.mpr hlater.le)
    · exact hserved call hold job hjob hlater

omit [DecidableEq Id] in
/-- Once a job is over, the calls before it have been served, if none waits. -/
theorem Served.completed (hserved : Served s) (hfetchesPast : ∀ fetch ∈ s.fetches, fetch.2 < s.now)
    {b : Nat} (hsince : ∀ call ∈ s.calls, call.2 < b → FetchedSince s call) :
    ∀ call ∈ s.calls, ∀ job ∈ (b, s.now) :: s.completed, call.2 < job.1 →
      ∃ fetch ∈ s.fetches, fetch.1 = call.1 ∧ call.2 < fetch.2 ∧ fetch.2 ≤ job.2 := by
  intro call hcall job hjob hlater
  rcases List.mem_cons.mp hjob with rfl | hold
  · obtain ⟨fetch, hfetch, hid, hafter⟩ := hsince call hcall hlater
    exact ⟨fetch, hfetch, hid, hafter, (hfetchesPast fetch hfetch).le⟩
  · exact hserved call hcall job hold hlater

omit [DecidableEq Id] in
theorem Tracked.drain (h : Tracked s) (hsound : Sound s .drain) : Tracked s.drain := by
  have hkept := h.kept.drain
  obtain ⟨hold, haccounted, hunbegun, hpending, hemptied, hcallsPast, hfetchesPast,
    hcompletedPast, hserved⟩ := h
  unfold State.drain at hkept ⊢
  by_cases hempty : s.hot = []
  · rw [if_pos hempty] at hkept ⊢
    have hsince : ∀ call ∈ s.calls, call.2 < s.now → FetchedSince s call := by
      intro call hcall _
      rcases hpending call hcall with hfetched | hmem | hwaiting
      · exact hfetched
      · rw [hempty] at hmem
        cases hmem
      · exact absurd hwaiting (hsound hempty _)
    refine ⟨hkept, haccounted, hunbegun, hpending, hemptied,
      fun call hcall => Nat.lt_succ_of_lt (hcallsPast call hcall),
      fun fetch hfetch => Nat.lt_succ_of_lt (hfetchesPast fetch hfetch), ?_,
      hserved.completed hfetchesPast hsince⟩
    intro job hjob
    rcases List.mem_cons.mp hjob with rfl | hjob
    · exact Nat.lt_succ_self _
    · exact Nat.lt_succ_of_lt (hcompletedPast job hjob)
  · rw [if_neg hempty] at hkept ⊢
    have hnew : (s.setJob s.now (some (Job.ofHot s.hot))).jobs s.now = some (Job.ofHot s.hot) := by
      rw [jobs_setJob, if_pos rfl]
    have hkeeps : ∀ n job, s.jobs n = some job →
        (s.setJob s.now (some (Job.ofHot s.hot))).jobs n = some job := by
      intro n job hjob
      rw [jobs_setJob, if_neg (hold.past n job hjob).ne]
      exact hjob
    have hjobs : ∀ n job, (s.setJob s.now (some (Job.ofHot s.hot))).jobs n = some job →
        (n = s.now ∧ job = Job.ofHot s.hot) ∨ s.jobs n = some job := by
      intro n job hjob
      rw [jobs_setJob] at hjob
      by_cases hn : n = s.now
      · rw [if_pos hn] at hjob
        exact Or.inl ⟨hn, (Option.some.inj hjob).symm⟩
      · rw [if_neg hn] at hjob
        exact Or.inr hjob
    have hwaits : ∀ call ∈ s.calls, FetchedSince s call ∨
        Waits { s.setJob s.now (some (Job.ofHot s.hot)) with hot := [] } call.1 := by
      intro call hcall
      rcases hpending call hcall with hfetched | hmem | ⟨n, job, hjob, htaken, hfetch⟩
      · exact Or.inl hfetched
      · exact Or.inr ⟨s.now, _, hnew, hmem, hmem⟩
      · exact Or.inr ⟨n, job, hkeeps n job hjob, htaken, hfetch⟩
    refine ⟨hkept, ?_, ?_, ?_, ?_, fun call hcall => Nat.lt_succ_of_lt (hcallsPast call hcall),
      fun fetch hfetch => Nat.lt_succ_of_lt (hfetchesPast fetch hfetch),
      fun job hjob => Nat.lt_succ_of_lt (hcompletedPast job hjob), hserved⟩
    · intro id hid
      rcases haccounted id hid with hmem | ⟨n, job, hjob, hdrain, htaken⟩
      · exact Or.inr ⟨s.now, _, hnew, rfl, hmem⟩
      · exact Or.inr ⟨n, job, hkeeps n job hjob, hdrain, htaken⟩
    · intro n job hjob hbegun
      rcases hjobs n job hjob with ⟨-, rfl⟩ | hbefore
      · cases hbegun
      · exact hunbegun n job hbefore hbegun
    · intro call hcall
      rcases hwaits call hcall with hfetched | hwaiting
      · exact Or.inl hfetched
      · exact Or.inr (Or.inr hwaiting)
    · exact fun call hcall _ _ _ _ _ => hwaits call hcall

theorem Tracked.listed (h : Tracked s) (hjob : s.jobs n = some job) (hkind : job.kind = .fullScan)
    (hnot : job.begun = false) (others : List Id) : Tracked (s.listed n job others) := by
  have hkept := h.kept.listed hjob hkind others
  obtain ⟨hold, haccounted, hunbegun, hpending, hemptied, hcallsPast, hfetchesPast,
    hcompletedPast, hserved⟩ := h
  have hempty := hunbegun n job hjob hnot
  have hnew : ∃ scan, (s.listed n job others).jobs n = some scan ∧ scan.taken = s.hot ∧
      scan.begun = true ∧ ∀ id ∈ s.hot, id ∈ scan.toFetch := by
    refine ⟨_, (jobs_setJob s n n _).trans (if_pos rfl), rfl, rfl, ?_⟩
    exact fun id hid => List.mem_append_left _ hid
  have hother : ∀ m, m ≠ n → (s.listed n job others).jobs m = s.jobs m :=
    fun m hm => (jobs_setJob s n m _).trans (if_neg hm)
  obtain ⟨scan, hscan, htaken, hbegun, hfetches⟩ := hnew
  have hwaits : ∀ id, Waits s id → Waits (s.listed n job others) id := by
    rintro id ⟨m, waiting, hwaiting, hmem, hfetch⟩
    have hm : m ≠ n := by
      rintro rfl
      obtain rfl := Option.some.inj (hjob.symm.trans hwaiting)
      rw [hempty] at hmem
      cases hmem
    exact ⟨m, waiting, (hother m hm).trans hwaiting, hmem, hfetch⟩
  have hcalls : ∀ call ∈ s.calls, FetchedSince s call ∨ Waits (s.listed n job others) call.1 := by
    intro call hcall
    rcases hpending call hcall with hfetched | hmem | hwaiting
    · exact Or.inl hfetched
    · exact Or.inr ⟨n, scan, hscan, htaken ▸ hmem, hfetches _ hmem⟩
    · exact Or.inr (hwaits _ hwaiting)
  refine ⟨hkept, ?_, ?_, ?_, fun call hcall _ _ _ _ _ => hcalls call hcall,
    fun call hcall => Nat.lt_succ_of_lt (hcallsPast call hcall),
    fun fetch hfetch => Nat.lt_succ_of_lt (hfetchesPast fetch hfetch),
    fun job hjob => Nat.lt_succ_of_lt (hcompletedPast job hjob), hserved⟩
  · intro id hid
    obtain ⟨hset, hqueue⟩ := Finset.mem_sdiff.mp hid
    rcases haccounted id hset with hmem | ⟨m, drain, hdrain, hdrains, hmem⟩
    · exact absurd (List.mem_toFinset.mpr hmem) hqueue
    · have hm : m ≠ n := by
        rintro rfl
        obtain rfl := Option.some.inj (hjob.symm.trans hdrain)
        rw [hkind] at hdrains
        cases hdrains
      exact Or.inr ⟨m, drain, (hother m hm).trans hdrain, hdrains, hmem⟩
  · intro m old hold hunset
    by_cases hm : m = n
    · subst hm
      obtain rfl := Option.some.inj (hscan.symm.trans hold)
      rw [hbegun] at hunset
      cases hunset
    · exact hunbegun m old ((hother m hm).symm.trans hold) hunset
  · intro call hcall
    rcases hcalls call hcall with hfetched | hwaiting
    · exact Or.inl hfetched
    · exact Or.inr (Or.inr hwaiting)

theorem Tracked.fetch (h : Tracked s) (hjob : s.jobs n = some job) (id : Id) :
    Tracked (s.fetch n job id) := by
  obtain ⟨hkept, haccounted, hunbegun, hpending, hemptied, hcallsPast, hfetchesPast,
    hcompletedPast, hserved⟩ := h
  have hkept' : Kept (s.fetch n job id) :=
    hkept.of_jobs rfl rfl (Nat.le_succ _) (jobs_changed hjob rfl rfl)
  have hsame : (s.fetch n job id).jobs n = some { job with
      toFetch := job.toFetch.erase id
      fetching := id :: job.fetching } := (jobs_setJob s n n _).trans (if_pos rfl)
  have hother : ∀ m, m ≠ n → (s.fetch n job id).jobs m = s.jobs m :=
    fun m hm => (jobs_setJob s n m _).trans (if_neg hm)
  have hback : ∀ m changed, (s.fetch n job id).jobs m = some changed →
      ∃ old, s.jobs m = some old ∧ old.begun = changed.begun ∧ old.taken = changed.taken := by
    intro m changed hchanged
    by_cases hm : m = n
    · subst hm
      obtain rfl := Option.some.inj (hsame.symm.trans hchanged)
      exact ⟨job, hjob, rfl, rfl⟩
    · exact ⟨changed, (hother m hm).symm.trans hchanged, rfl, rfl⟩
  -- the calls for this endpoint are served, the others wait where they did
  have hcalls : ∀ call ∈ s.calls, (FetchedSince s call ∨ Waits s call.1) →
      FetchedSince (s.fetch n job id) call ∨ Waits (s.fetch n job id) call.1 := by
    rintro call hcall (⟨fetch, hfetch, hid, hlater⟩ | ⟨m, waiting, hwaiting, hmem, hfetch⟩)
    · exact Or.inl ⟨fetch, List.mem_cons_of_mem _ hfetch, hid, hlater⟩
    · by_cases hid : call.1 = id
      · exact Or.inl ⟨(id, s.now), List.mem_cons_self, hid.symm, hcallsPast call hcall⟩
      · by_cases hm : m = n
        · subst hm
          obtain rfl := Option.some.inj (hjob.symm.trans hwaiting)
          exact Or.inr ⟨m, _, hsame, hmem, (List.mem_erase_of_ne hid).mpr hfetch⟩
        · exact Or.inr ⟨m, waiting, (hother m hm).trans hwaiting, hmem, hfetch⟩
  refine ⟨hkept', ?_, ?_, ?_, ?_, fun call hcall => Nat.lt_succ_of_lt (hcallsPast call hcall), ?_,
    fun job hjob => Nat.lt_succ_of_lt (hcompletedPast job hjob), ?_⟩
  · intro other hset
    rcases haccounted other hset with hmem | ⟨m, drain, hdrain, hdrains, hmem⟩
    · exact Or.inl hmem
    · by_cases hm : m = n
      · subst hm
        obtain rfl := Option.some.inj (hjob.symm.trans hdrain)
        exact Or.inr ⟨m, _, hsame, hdrains, hmem⟩
      · exact Or.inr ⟨m, drain, (hother m hm).trans hdrain, hdrains, hmem⟩
  · intro m changed hchanged hunset
    obtain ⟨old, hold, hbegun, htaken⟩ := hback m changed hchanged
    rw [← htaken]
    exact hunbegun m old hold (hbegun.trans hunset)
  · intro call hcall
    rcases hpending call hcall with hfetched | hmem | hwaiting
    · exact (hcalls call hcall (Or.inl hfetched)).imp_right Or.inr
    · exact Or.inr (Or.inl hmem)
    · exact (hcalls call hcall (Or.inr hwaiting)).imp_right Or.inr
  · intro call hcall m changed hchanged hdone hlater
    obtain ⟨old, hold, hbegun, -⟩ := hback m changed hchanged
    exact hcalls call hcall (hemptied call hcall m old hold (hbegun.trans hdone) hlater)
  · intro fetch hfetch
    rcases List.mem_cons.mp hfetch with rfl | hfetch
    · exact Nat.lt_succ_self _
    · exact Nat.lt_succ_of_lt (hfetchesPast fetch hfetch)
  · intro call hcall done hdone hlater
    obtain ⟨fetch, hfetch, hrest⟩ := hserved call hcall done hdone hlater
    exact ⟨fetch, List.mem_cons_of_mem _ hfetch, hrest⟩

theorem Tracked.finish (h : Tracked s) (hjob : s.jobs n = some job) (hbegun : job.begun = true)
    (hsound : Sound s (.finish n)) : Tracked (s.finish n job) := by
  obtain ⟨hkept, haccounted, hunbegun, hpending, hemptied, hcallsPast, hfetchesPast,
    hcompletedPast, hserved⟩ := h
  have hother : ∀ m, m ≠ n → (s.finish n job).jobs m = s.jobs m :=
    fun m hm => (jobs_setJob s n m _).trans (if_neg hm)
  have hsince : ∀ call ∈ s.calls, call.2 < n → FetchedSince s call := by
    intro call hcall hlater
    exact (hemptied call hcall n job hjob hbegun hlater).resolve_right (hsound _)
  refine ⟨hkept.finish hjob, ?_, ?_, ?_, ?_,
    fun call hcall => Nat.lt_succ_of_lt (hcallsPast call hcall),
    fun fetch hfetch => Nat.lt_succ_of_lt (hfetchesPast fetch hfetch), ?_,
    hserved.completed hfetchesPast hsince⟩
  · intro id hid
    have hset : id ∈ s.hotSet ∧ (job.kind = .drain → id ∉ job.taken) := by
      change id ∈ (if job.kind = .drain then s.hotSet \ job.taken.toFinset else s.hotSet) at hid
      by_cases hdrain : job.kind = .drain
      · rw [if_pos hdrain, Finset.mem_sdiff, List.mem_toFinset] at hid
        exact ⟨hid.1, fun _ => hid.2⟩
      · rw [if_neg hdrain] at hid
        exact ⟨hid, fun h => absurd h hdrain⟩
    rcases haccounted id hset.1 with hmem | ⟨m, drain, hdrain, hdrains, hmem⟩
    · exact Or.inl hmem
    · have hm : m ≠ n := by
        rintro rfl
        obtain rfl := Option.some.inj (hjob.symm.trans hdrain)
        exact hset.2 hdrains hmem
      exact Or.inr ⟨m, drain, (hother m hm).trans hdrain, hdrains, hmem⟩
  · exact fun m old hold => hunbegun m old (jobs_ended m old hold).2
  · intro call hcall
    rcases hpending call hcall with hfetched | hmem | hwaiting
    · exact Or.inl hfetched
    · exact Or.inr (Or.inl hmem)
    · exact absurd hwaiting (hsound _)
  · intro call hcall m old hold hdone hlater
    have hbefore := (jobs_ended m old hold).2
    exact Or.inl ((hemptied call hcall m old hbefore hdone hlater).resolve_right (hsound _))
  · intro done hdone
    rcases List.mem_cons.mp hdone with rfl | hdone
    · exact Nat.lt_succ_of_lt (hkept.past _ job hjob)
    · exact Nat.lt_succ_of_lt (hcompletedPast done hdone)

omit [DecidableEq Id] in
/-- A change of one job that leaves its kind, what it took, and of that what it waits to fetch. -/
theorem Tracked.setJob (h : Tracked s) {old : Job Id} (hold : s.jobs n = some old)
    (hkind : job.kind = old.kind) (htaken : job.taken = old.taken) (hbegun : job.begun = old.begun)
    (hfetch : ∀ id ∈ old.taken, id ∈ old.toFetch → id ∈ job.toFetch) :
    Tracked (s.setJob n (some job)) := by
  have hkept : Kept (s.setJob n (some job)) :=
    h.kept.of_jobs rfl rfl (Nat.le_succ _) (jobs_changed hold hkind htaken)
  have hsame : (s.setJob n (some job)).jobs n = some job :=
    (jobs_setJob s n n _).trans (if_pos rfl)
  have hother : ∀ m, m ≠ n → (s.setJob n (some job)).jobs m = s.jobs m :=
    fun m hm => (jobs_setJob s n m _).trans (if_neg hm)
  refine h.of_quiet hkept rfl rfl rfl rfl rfl (Nat.le_succ _) ?_ ?_ ?_ ?_
  · intro m drain hdrain hdrains
    by_cases hm : m = n
    · subst hm
      obtain rfl := Option.some.inj (hold.symm.trans hdrain)
      exact ⟨job, hsame, hkind.trans hdrains, htaken⟩
    · exact ⟨drain, (hother m hm).trans hdrain, hdrains, rfl⟩
  · rintro id ⟨m, waiting, hwaiting, hmem, hleft⟩
    by_cases hm : m = n
    · subst hm
      obtain rfl := Option.some.inj (hold.symm.trans hwaiting)
      exact ⟨m, job, hsame, htaken ▸ hmem, hfetch id hmem hleft⟩
    · exact ⟨m, waiting, (hother m hm).trans hwaiting, hmem, hleft⟩
  · intro m changed hchanged hdone
    by_cases hm : m = n
    · subst hm
      obtain rfl := Option.some.inj (hsame.symm.trans hchanged)
      exact ⟨old, hold, hbegun ▸ hdone⟩
    · exact ⟨changed, (hother m hm).symm.trans hchanged, hdone⟩
  · intro m changed hchanged hunset
    by_cases hm : m = n
    · subst hm
      obtain rfl := Option.some.inj (hsame.symm.trans hchanged)
      rw [htaken]
      exact h.unbegun m old hold (hbegun ▸ hunset)
    · exact h.unbegun m changed ((hother m hm).symm.trans hchanged) hunset

omit [DecidableEq Id] in
theorem Tracked.scan (h : Tracked s) :
    Tracked (s.setJob s.now (some { kind := .fullScan, begun := false })) := by
  have hkeeps : ∀ n job, s.jobs n = some job →
      (s.setJob s.now (some { kind := .fullScan, begun := false })).jobs n = some job := by
    intro n job hjob
    rw [jobs_setJob, if_neg (h.kept.past n job hjob).ne]
    exact hjob
  have hjobs : ∀ n job, (s.setJob s.now (some { kind := .fullScan, begun := false })).jobs n =
      some job → job = { kind := .fullScan, begun := false } ∨ s.jobs n = some job := by
    intro n job hjob
    rw [jobs_setJob] at hjob
    split at hjob
    · exact Or.inl (Option.some.inj hjob).symm
    · exact Or.inr hjob
  refine h.of_quiet h.kept.scan rfl rfl rfl rfl rfl (Nat.le_succ _) ?_ ?_ ?_ ?_
  · exact fun n job hjob hdrain => ⟨job, hkeeps n job hjob, hdrain, rfl⟩
  · rintro id ⟨n, job, hjob, hmem, hfetch⟩
    exact ⟨n, job, hkeeps n job hjob, hmem, hfetch⟩
  · intro n job hjob hbegun
    rcases hjobs n job hjob with rfl | hold
    · cases hbegun
    · exact ⟨job, hold, hbegun⟩
  · intro n job hjob hunset
    rcases hjobs n job hjob with rfl | hold
    · rfl
    · exact h.unbegun n job hold hunset

omit [DecidableEq Id] in
theorem Tracked.cut (h : Tracked s) (hjob : s.jobs n = some job) (hsound : Sound s (.cut n)) :
    Tracked (s.setJob n none) := by
  obtain ⟨hkind, hstarted⟩ := hsound job hjob
  have hother : ∀ m, m ≠ n → (s.setJob n none).jobs m = s.jobs m :=
    fun m hm => (jobs_setJob s n m _).trans (if_neg hm)
  have hkept : Kept (s.setJob n none) :=
    h.kept.of_jobs rfl rfl (Nat.le_succ _) fun m other hleft =>
      ⟨other, (jobs_ended m other hleft).2, rfl, rfl⟩
  refine h.of_quiet hkept rfl rfl rfl rfl rfl (Nat.le_succ _) ?_ ?_ ?_ ?_
  · intro m drain hdrain hdrains
    have hm : m ≠ n := by
      rintro rfl
      obtain rfl := Option.some.inj (hjob.symm.trans hdrain)
      rw [hkind] at hdrains
      cases hdrains
    exact ⟨drain, (hother m hm).trans hdrain, hdrains, rfl⟩
  · rintro id ⟨m, waiting, hwaiting, hmem, hleft⟩
    have hm : m ≠ n := by
      rintro rfl
      obtain rfl := Option.some.inj (hjob.symm.trans hwaiting)
      exact hstarted id hmem hleft
    exact ⟨m, waiting, (hother m hm).trans hwaiting, hmem, hleft⟩
  · exact fun m old hold hbegun => ⟨old, (jobs_ended m old hold).2, hbegun⟩
  · exact fun m old hold => h.unbegun m old (jobs_ended m old hold).2

/-- Every sound step keeps the calls tracked. -/
theorem Tracked.step {a : Action Id} (hstep : step s a = some t) (hsound : Sound s a)
    (h : Tracked s) : Tracked t := by
  cases a with
  | prioritize id =>
      obtain rfl := Option.some.inj hstep
      exact h.prioritize hsound
  | drain =>
      obtain rfl := Option.some.inj hstep
      exact h.drain hsound
  | scan =>
      obtain rfl := Option.some.inj hstep
      exact h.scan
  | listed n others =>
      obtain ⟨job, hjob, hpossible, rfl⟩ := onJob_eq_some hstep
      rw [Bool.and_eq_true, decide_eq_true_eq, Bool.not_eq_true'] at hpossible
      exact h.listed hjob hpossible.1 hpossible.2 others
  | fetch n id =>
      obtain ⟨job, hjob, -, rfl⟩ := onJob_eq_some hstep
      exact h.fetch hjob id
  | answered n id =>
      obtain ⟨job, hjob, -, rfl⟩ := onJob_eq_some hstep
      exact h.setJob hjob rfl rfl rfl fun _ _ hleft => hleft
  | skip n id =>
      obtain ⟨job, hjob, -, rfl⟩ := onJob_eq_some hstep
      refine h.setJob hjob rfl rfl rfl fun other htaken hleft => ?_
      have hother : other ≠ id := fun hsame => hsound job hjob (hsame ▸ htaken)
      exact (List.mem_erase_of_ne hother).mpr hleft
  | finish n =>
      obtain ⟨job, hjob, hpossible, rfl⟩ := onJob_eq_some hstep
      rw [Bool.and_eq_true, Bool.and_eq_true] at hpossible
      exact h.finish hjob hpossible.1.1 hsound
  | cut n =>
      obtain ⟨job, hjob, -, rfl⟩ := onJob_eq_some hstep
      exact h.cut hjob hsound
  | setStop value =>
      obtain rfl := Option.some.inj hstep
      have hkept : Kept { s with stop := value, now := s.now + 1 } :=
        h.kept.of_jobs rfl rfl (Nat.le_succ _) fun n job hjob => ⟨job, hjob, rfl, rfl⟩
      exact h.of_quiet hkept rfl rfl rfl rfl rfl (Nat.le_succ _)
        (fun n job hjob hdrain => ⟨job, hjob, hdrain, rfl⟩) (fun _ hwaits => hwaits)
        (fun n job hjob hbegun => ⟨job, hjob, hbegun⟩) h.unbegun

omit [DecidableEq Id] in
theorem tracked_start : Tracked ({} : State Id) where
  kept := kept_start
  accounted id hid := absurd hid (Finset.notMem_empty id)
  unbegun := nofun
  pending := nofun
  emptied := nofun
  callsPast := nofun
  fetchesPast := nofun
  completedPast := nofun
  served := nofun

/-- In every run the queue holds no id twice and only ids of the set, and in the runs whose steps
are sound no call is lost. -/
theorem hot_queue_runs (actions : List (Action Id)) :
    Always step Deduplicated ({} : State Id) actions ∧
      (Guarded step Sound ({} : State Id) actions →
        Always step Served ({} : State Id) actions) := by
  constructor
  · have hkept : Always step Kept ({} : State Id) actions :=
      always_of_step (fun s a t hstep h => h.step hstep) actions kept_start
    exact hkept.mono fun s h => ⟨h.nodup, h.inSet⟩
  · intro hsound
    have htracked : Always step Tracked ({} : State Id) actions :=
      always_of_guarded (fun s a t hstep ha h => h.step hstep ha) hsound tracked_start
    exact htracked.mono fun s h => h.served

/-- In every run no two drains have taken the same id, and what one has taken is in the set and not
in the queue. -/
theorem drains_apart (actions : List (Action Id)) :
    Always step (fun s : State Id => ∀ n job, s.jobs n = some job → job.kind = .drain →
      ∀ id ∈ job.taken, id ∈ s.hotSet ∧ id ∉ s.hot ∧
        ∀ m other, m ≠ n → s.jobs m = some other → other.kind = .drain → id ∉ other.taken)
      {} actions := by
  refine (always_of_step (fun s a t hstep h => h.step hstep) actions kept_start).mono ?_
  intro s h n job hjob hkind id hid
  obtain ⟨hset, hqueue⟩ := h.held n job hjob hkind id hid
  exact ⟨hset, hqueue, fun m other hne hother hdrain =>
    h.apart n m job other hne.symm hjob hother hkind hdrain id hid⟩

/-- An endpoint is prioritised and drained. -/
def drained : List (Action String) :=
  [.prioritize "ep", .drain, .fetch 1 "ep", .answered 1 "ep", .finish 1]

/-- Its call is served. -/
theorem hot_queue_drained : Always step Served ({} : State String) drained := by
  refine (hot_queue_runs drained).2 ?_
  simp [drained, Guarded, step, onJob, Sound, Waits, State.prioritize, State.drain, State.fetch,
    State.finish, State.setJob, Job.ofHot]
  intro id n job hjob hmem
  rw [Function.update_apply] at hjob
  split at hjob
  · obtain rfl := Option.some.inj hjob
    exact List.not_mem_nil
  · cases hjob

/-- An endpoint is prioritised again while a drain fetches it, and the next drain finds nothing. -/
def swallowed : List (Action String) :=
  [.prioritize "ep", .drain, .fetch 1 "ep", .prioritize "ep", .answered 1 "ep", .finish 1, .drain]

/-- The second call is never served. -/
theorem hot_queue_swallowed : ¬ Always step Served ({} : State String) swallowed := by
  intro h
  obtain ⟨final, hrun, hcalls, hcompleted, hfetches⟩ :
      ∃ final, run step ({} : State String) swallowed = some final ∧
        final.calls = [("ep", 3), ("ep", 0)] ∧ final.completed = [(6, 6), (1, 5)] ∧
        final.fetches = [("ep", 2)] :=
    ⟨_, rfl, rfl, rfl, rfl⟩
  have hserved := h.last hrun ("ep", 3) (by simp [hcalls]) (6, 6) (by simp [hcompleted])
    (by decide)
  simp [hfetches] at hserved

end IsePortal.HotQueue
