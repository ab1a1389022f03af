import IsePortal.Cache.Inflight
import IsePortal.Library.Runs

/-!
# Coalesced fetches

`Tracked` is what every step keeps, whoever is cancelled: the tasks that are not done are those
`_inflight_detail` has under their ids, so that an endpoint has one at a time. `coalesced_iff` says
when the callers do not get in each other's way besides.
-/

namespace IsePortal

open Library EndpointCache

namespace InflightRun

variable [PyText] {α ε : Type*} [CacheValue α] (state : InflightRun α ε)

/-! ## What a run has to keep -/

omit [PyText] [CacheValue α] in
/-- The result is what the task ended with, or the cached entry in place of its error. -/
def ComesFrom (task : FetchTask α ε) : CallerResult α ε → Prop
  | .value value => task.phase = .done (.value value)
  | .fallback _ => ∃ exc, task.phase = .done (.error exc)
  | .error exc => task.phase = .done (.error exc)
  | .cancelled => False

omit [PyText] [CacheValue α] in
/-- A caller that was not cancelled itself has what the task of its endpoint ended with. -/
def Answered (state : InflightRun α ε) (caller : FetchCaller α ε) : Prop :=
  caller.cancelled = false → ∀ index result, caller.phase = .ended (some index) result →
    ∃ task, state.tasks[index]? = some task ∧ task.endpointId = caller.endpointId ∧
      ComesFrom task result

omit [PyText] [CacheValue α] in
/-- One task at a time for an endpoint, no task is cancelled, and every caller is answered. -/
structure Coalesced (state : InflightRun α ε) : Prop where
  single : ∀ (first second : Nat) (task other : FetchTask α ε),
    state.tasks[first]? = some task → state.tasks[second]? = some other →
      task.active = true → other.active = true → task.endpointId = other.endpointId →
        first = second
  uncancelled : ∀ task ∈ state.tasks, task.isCancelled = false
  answered : ∀ caller ∈ state.callers, Answered state caller

omit [PyText] [CacheValue α] in
/-- No caller is cancelled while the task it waits for is not done. -/
def LeavesTasks (state : InflightRun α ε) : FetchEvent α ε → Prop
  | .cancelCaller index => ∀ caller task, state.callers[index]? = some caller →
      caller.phase = .waiting task → state.isActive task = false
  | _ => True

omit [PyText] [CacheValue α] in
/-- The tasks that are not done are those `_inflight_detail` has under their ids, and a caller
waits for a task of its endpoint. -/
structure Tracked (state : InflightRun α ε) : Prop where
  active : ∀ (index : Nat) (task : FetchTask α ε), state.tasks[index]? = some task →
    task.active = true → state.inflight.get? task.endpointId = some index
  filed : ∀ endpointId index, state.inflight.get? endpointId = some index →
    ∃ task, state.tasks[index]? = some task ∧ task.endpointId = endpointId
  awaited : ∀ caller ∈ state.callers, ∀ index, caller.phase = .waiting index →
    ∃ task, state.tasks[index]? = some task ∧ task.endpointId = caller.endpointId

section Lemmas

omit [PyText] [CacheValue α]

variable {state} {after : InflightRun α ε} {index : Nat} {task : FetchTask α ε}
  {endpointId : EndpointId}

/-! ## Tasks -/

theorem Tracked.single (h : Tracked state) (first second : Nat) (task other : FetchTask α ε)
    (hfirst : state.tasks[first]? = some task) (hsecond : state.tasks[second]? = some other)
    (htask : task.active = true) (hother : other.active = true)
    (hid : task.endpointId = other.endpointId) : first = second := by
  have hlisted := h.active first task hfirst htask
  rw [hid, h.active second other hsecond hother] at hlisted
  exact (Option.some.inj hlisted).symm

theorem get_set_task (htask : state.tasks[index]? = some task) (phase : FetchPhase α ε)
    (other : Nat) :
    (state.setTask index task phase).tasks[other]? =
      if other = index then some { task with phase := phase } else state.tasks[other]? := by
  show (state.tasks.set index { task with phase := phase })[other]? = _
  have hlength := (List.getElem?_eq_some_iff.mp htask).1
  rw [List.getElem?_set, if_pos hlength]
  split
  · rename_i hsame
    rw [if_pos hsame.symm]
  · rename_i hne
    rw [if_neg (Ne.symm hne)]

/-- What holds of a task by its endpoint holds of it in its next phase. -/
theorem exists_set_task (htask : state.tasks[index]? = some task) (phase : FetchPhase α ε)
    {other : Nat}
    (h : ∃ found, state.tasks[other]? = some found ∧ found.endpointId = endpointId) :
    ∃ found, (state.setTask index task phase).tasks[other]? = some found ∧
      found.endpointId = endpointId := by
  obtain ⟨found, hfound, hid⟩ := h
  rw [get_set_task htask]
  split
  · rename_i hsame
    subst hsame
    rw [htask] at hfound
    cases hfound
    exact ⟨_, rfl, hid⟩
  · exact ⟨found, hfound, hid⟩

/-- A task that is not done goes on. -/
theorem Tracked.set_task (h : Tracked state) (htask : state.tasks[index]? = some task)
    (hactive : task.active = true) (phase : FetchPhase α ε) :
    Tracked (state.setTask index task phase) where
  active := by
    intro other found hfound hnotDone
    rw [get_set_task htask] at hfound
    split at hfound
    · rename_i hsame
      cases hfound
      rw [hsame]
      exact h.active index task htask hactive
    · exact h.active other found hfound hnotDone
  filed := fun endpointId other hfiled =>
    exists_set_task htask phase (h.filed endpointId other hfiled)
  awaited := fun caller hcaller other hwaits =>
    exists_set_task htask phase (h.awaited caller hcaller other hwaits)

/-- A task ends and takes itself out of `_inflight_detail`. -/
theorem Tracked.end_task (h : Tracked state) (htask : state.tasks[index]? = some task)
    (hactive : task.active = true) (outcome : FetchOutcome α ε) :
    Tracked (state.endTask index task outcome) where
  active := by
    intro other found hfound hnotDone
    have hfound' := hfound
    change (state.setTask index task (.done outcome)).tasks[other]? = some found at hfound
    rw [get_set_task htask] at hfound
    split at hfound
    · cases hfound
      cases hnotDone
    · rename_i hne
      show (state.inflight.erase task.endpointId).get? found.endpointId = some other
      rw [Dict.get?_erase_ne]
      · exact h.active other found hfound hnotDone
      · intro hid
        exact hne (h.single other index found task hfound htask hnotDone hactive hid)
  filed := by
    intro endpointId other hfiled
    change (state.inflight.erase task.endpointId).get? endpointId = some other at hfiled
    rw [Dict.get?_erase] at hfiled
    split at hfiled
    · cases hfiled
    · exact exists_set_task htask (.done outcome) (h.filed endpointId other hfiled)
  awaited := fun caller hcaller other hwaits =>
    exists_set_task htask (.done outcome) (h.awaited caller hcaller other hwaits)

/-- `_get_or_create_inflight` returns a task of the endpoint, and leaves the tasks there are. -/
theorem Tracked.get_or_create (h : Tracked state) (endpointId : EndpointId) :
    Tracked (state.getOrCreateInflight endpointId).1 ∧
      (∃ task, (state.getOrCreateInflight endpointId).1.tasks[
          (state.getOrCreateInflight endpointId).2]? = some task ∧
        task.endpointId = endpointId) ∧
      (state.getOrCreateInflight endpointId).1.callers = state.callers ∧
      ((state.getOrCreateInflight endpointId).1.tasks = state.tasks ∨
        (state.getOrCreateInflight endpointId).1.tasks =
          state.tasks ++ [{ endpointId := endpointId }]) := by
  -- a new task is created only where no task of the endpoint is active
  have hfresh : (∀ (index : Nat) (task : FetchTask α ε), state.tasks[index]? = some task →
      task.active = true → task.endpointId ≠ endpointId) → Tracked
        { state with
          tasks := state.tasks ++ [{ endpointId := endpointId }]
          inflight := state.inflight.set endpointId state.tasks.length } := by
    intro hnone
    have hexists : ∀ {other : Nat} {id : EndpointId},
        (∃ found, state.tasks[other]? = some found ∧ found.endpointId = id) →
          ∃ found, (state.tasks ++ [{ endpointId := endpointId }])[other]? = some found ∧
            found.endpointId = id := by
      rintro other id ⟨found, hfound, hid⟩
      refine ⟨found, ?_, hid⟩
      rw [List.getElem?_append_left (List.getElem?_eq_some_iff.mp hfound).1]
      exact hfound
    refine ⟨fun other found hfound hnotDone => ?_, fun id other hfiled => ?_, ?_⟩
    · change (state.tasks ++ [{ endpointId := endpointId }])[other]? = some found at hfound
      show (state.inflight.set endpointId state.tasks.length).get? found.endpointId = some other
      rw [List.getElem?_append] at hfound
      split at hfound
      · rw [Dict.get?_set_ne _ _ (hnone other found hfound hnotDone)]
        exact h.active other found hfound hnotDone
      · rename_i hlength
        have hlast := (List.getElem?_eq_some_iff.mp hfound).1
        have hplace : other = state.tasks.length := by
          simp only [List.length_singleton] at hlast
          omega
        subst hplace
        rw [Nat.sub_self] at hfound
        cases hfound
        rw [Dict.get?_set, if_pos rfl]
    · change (state.inflight.set endpointId state.tasks.length).get? id = some other at hfiled
      rw [Dict.get?_set] at hfiled
      split at hfiled
      · rename_i hid
        cases hfiled
        subst hid
        exact ⟨_, List.getElem?_concat_length, rfl⟩
      · exact hexists (h.filed id other hfiled)
    · exact fun caller hcaller other hwaits => hexists (h.awaited caller hcaller other hwaits)
  unfold getOrCreateInflight
  cases hfiled : state.inflight.get? endpointId with
  | none =>
      refine ⟨hfresh fun index task htask hactive hid => ?_,
        ⟨_, List.getElem?_concat_length, rfl⟩, rfl, Or.inr rfl⟩
      rw [← hid, h.active index task htask hactive] at hfiled
      cases hfiled
  | some existing =>
      simp only
      split
      · exact ⟨h, h.filed endpointId existing hfiled, rfl, Or.inl rfl⟩
      · rename_i hdone
        refine ⟨hfresh fun index task htask hactive hid => ?_,
          ⟨_, List.getElem?_concat_length, rfl⟩, rfl, Or.inr rfl⟩
        rw [← hid, h.active index task htask hactive] at hfiled
        cases hfiled
        refine hdone ?_
        unfold isActive
        rw [htask]
        exact hactive

/-! ## Callers -/

theorem Answered.mono {caller : FetchCaller α ε} (h : Answered state caller)
    (hkeep : ∀ (index : Nat) (task : FetchTask α ε) (outcome : FetchOutcome α ε),
      state.tasks[index]? = some task → task.phase = .done outcome →
        after.tasks[index]? = some task) : Answered after caller := by
  intro hcaller index result hresult
  obtain ⟨task, htask, hid, hfrom⟩ := h hcaller index result hresult
  have hdone : ∃ outcome, task.phase = .done outcome := by
    cases result with
    | value value => exact ⟨_, hfrom⟩
    | fallback value =>
        obtain ⟨exc, hexc⟩ := hfrom
        exact ⟨_, hexc⟩
    | error exc => exact ⟨_, hfrom⟩
    | cancelled => exact hfrom.elim
  obtain ⟨outcome, houtcome⟩ := hdone
  exact ⟨task, hkeep index task outcome htask houtcome, hid, hfrom⟩

/-- The callers are still answered by tasks that stay as they were once they are done. -/
theorem Coalesced.next (h : Coalesced state) (htracked : Tracked after)
    (hkeep : ∀ (index : Nat) (task : FetchTask α ε) (outcome : FetchOutcome α ε),
      state.tasks[index]? = some task → task.phase = .done outcome →
        after.tasks[index]? = some task)
    (huncancelled : ∀ task ∈ after.tasks, task ∈ state.tasks ∨ task.isCancelled = false)
    (hcallers : ∀ caller ∈ after.callers, caller ∈ state.callers ∨ Answered after caller) :
    Coalesced after where
  single := htracked.single
  uncancelled := by
    intro task htask
    rcases huncancelled task htask with hold | hnew
    · exact h.uncancelled task hold
    · exact hnew
  answered := by
    intro caller hcaller
    rcases hcallers caller hcaller with hold | hnew
    · exact (h.answered caller hold).mono hkeep
    · exact hnew

/-- A task that is not done goes on to a phase in which it is not cancelled. -/
theorem Coalesced.set_task (h : Coalesced state) (htask : state.tasks[index]? = some task)
    (hactive : task.active = true) {phase : FetchPhase α ε}
    (hphase : ({ task with phase := phase } : FetchTask α ε).isCancelled = false)
    (htasks : after.tasks = (state.setTask index task phase).tasks)
    (hcallers : after.callers = state.callers) (htracked : Tracked after) : Coalesced after := by
  refine h.next htracked ?_ ?_ ?_
  · intro other found outcome hfound hdone
    rw [htasks, get_set_task htask, if_neg]
    · exact hfound
    · rintro rfl
      rw [htask] at hfound
      cases hfound
      simp [FetchTask.active, hdone] at hactive
  · intro found hfound
    rw [htasks] at hfound
    rcases List.mem_or_eq_of_mem_set hfound with hold | rfl
    · exact Or.inl hold
    · exact Or.inr hphase
  · intro caller hcaller
    rw [hcallers] at hcaller
    exact Or.inl hcaller

theorem Tracked.add_caller (h : Tracked state) {phase : CallerPhase α ε}
    (hphase : ∀ index, phase = .waiting index →
      ∃ task, state.tasks[index]? = some task ∧ task.endpointId = endpointId) :
    Tracked (state.addCaller endpointId phase) where
  active := h.active
  filed := h.filed
  awaited := by
    intro caller hcaller index hwaits
    rcases List.mem_append.mp hcaller with hold | hnew
    · exact h.awaited caller hold index hwaits
    · cases List.mem_singleton.mp hnew
      exact hphase index hwaits

/-- A new caller that has no result of a task. -/
theorem Coalesced.add_caller (h : Coalesced state) {phase : CallerPhase α ε}
    (hphase : ∀ index result, phase ≠ .ended (some index) result)
    (htracked : Tracked (state.addCaller endpointId phase)) :
    Coalesced (state.addCaller endpointId phase) := by
  refine h.next htracked (fun _ _ _ hfound _ => hfound) (fun _ htask => Or.inl htask) ?_
  intro caller hcaller
  rcases List.mem_append.mp hcaller with hold | hnew
  · exact Or.inl hold
  · right
    cases List.mem_singleton.mp hnew
    exact fun _ index result hresult => absurd hresult (hphase index result)

theorem Coalesced.get_or_create (h : Coalesced state) (htracked : Tracked state)
    (endpointId : EndpointId) : Coalesced (state.getOrCreateInflight endpointId).1 := by
  obtain ⟨hnext, _, hcallers, htasks⟩ := htracked.get_or_create endpointId
  refine h.next hnext ?_ ?_ ?_
  · intro index task outcome htask _
    rcases htasks with hsame | hfresh
    · rw [hsame]
      exact htask
    · rw [hfresh, List.getElem?_append_left (List.getElem?_eq_some_iff.mp htask).1]
      exact htask
  · intro task htask
    rcases htasks with hsame | hfresh
    · rw [hsame] at htask
      exact Or.inl htask
    · rw [hfresh] at htask
      rcases List.mem_append.mp htask with hold | hnew
      · exact Or.inl hold
      · cases List.mem_singleton.mp hnew
        exact Or.inr rfl
  · intro caller hcaller
    rw [hcallers] at hcaller
    exact Or.inl hcaller

theorem await_kept (htracked : Tracked state) (endpointId : EndpointId) :
    Tracked (state.await endpointId) ∧
      (Coalesced state → Coalesced (state.await endpointId)) := by
  obtain ⟨hshared, htask, _, _⟩ := htracked.get_or_create endpointId
  have hnext : Tracked (state.await endpointId) := by
    refine hshared.add_caller fun index hindex => ?_
    cases hindex
    exact htask
  exact ⟨hnext, fun h => (h.get_or_create htracked endpointId).add_caller
    (fun _ _ hphase => by cases hphase) hnext⟩

theorem serve_stale_kept (htracked : Tracked state) (endpointId : EndpointId) (value : α) :
    Tracked (state.serveStale endpointId value) ∧
      (Coalesced state → Coalesced (state.serveStale endpointId value)) := by
  have hnext : Tracked (state.serveStale endpointId value) :=
    (htracked.get_or_create endpointId).1.add_caller fun index hindex => by cases hindex
  exact ⟨hnext, fun h => (h.get_or_create htracked endpointId).add_caller
    (fun _ _ hphase => by cases hphase) hnext⟩

end Lemmas

section Runs

variable {state} {after : InflightRun α ε}

/-! ## Runs -/

omit [PyText] in
theorem get_detail_kept (htracked : Tracked state) (cfg : CacheSettings) (now : Time)
    (endpointId : EndpointId) (forceFresh : Bool) :
    Tracked (state.getDetail cfg now endpointId forceFresh) ∧
      (Coalesced state → Coalesced (state.getDetail cfg now endpointId forceFresh)) := by
  unfold getDetail
  split
  · exact await_kept htracked endpointId
  · rename_i entry hentry
    split
    · have hnext : Tracked (state.addCaller endpointId (.ended none (.value entry.value))) :=
        htracked.add_caller fun index hindex => by cases hindex
      exact ⟨hnext, fun h => h.add_caller (fun _ _ hphase => by cases hphase) hnext⟩
    · split
      · exact serve_stale_kept htracked endpointId _
      · split
        · exact serve_stale_kept htracked endpointId _
        · exact await_kept htracked endpointId

omit [PyText] in
/-- A caller gets what its task ended with. -/
theorem resume_kept (htracked : Tracked state) {index : Nat} {caller : FetchCaller α ε}
    (hcaller : state.callers[index]? = some caller)
    (hstep : state.resume index caller = some after) :
    Tracked after ∧ (Coalesced state → Coalesced after) := by
  unfold resume at hstep
  cases hphase : caller.phase with
  | ended _ _ =>
      rw [hphase] at hstep
      cases hstep
  | waiting awaited =>
      rw [hphase] at hstep
      simp only at hstep
      obtain ⟨task, htask, hid⟩ :=
        htracked.awaited caller (List.mem_of_getElem? hcaller) awaited hphase
      rw [htask] at hstep
      simp only [Option.map_some] at hstep
      split at hstep
      · rename_i outcome houtcome
        have hdone : task.phase = .done outcome := Option.some.inj houtcome
        cases hstep
        have hnext : Tracked { state with
            callers := state.callers.set index
              { caller with
                phase := .ended (some awaited) (if caller.cancelled = true then .cancelled
                  else state.receive caller.endpointId outcome) } } := by
          refine ⟨htracked.active, htracked.filed, fun other hother place hwaits => ?_⟩
          rcases List.mem_or_eq_of_mem_set hother with hold | rfl
          · exact htracked.awaited other hold place hwaits
          · cases hwaits
        refine ⟨hnext, fun h => h.next hnext (fun _ _ _ hfound _ => hfound)
          (fun _ hmem => Or.inl hmem) fun other hother => ?_⟩
        rcases List.mem_or_eq_of_mem_set hother with hold | rfl
        · exact Or.inl hold
        · right
          intro hnot place result hresult
          change caller.cancelled = false at hnot
          simp only [hnot, Bool.false_eq_true, ↓reduceIte, CallerPhase.ended.injEq,
            Option.some.injEq] at hresult
          obtain ⟨rfl, rfl⟩ := hresult
          refine ⟨task, htask, hid, ?_⟩
          cases outcome with
          | value value => exact hdone
          | error exc =>
              unfold receive
              cases state.cache.details.get? caller.endpointId with
              | none => exact hdone
              | some fallback => exact ⟨exc, hdone⟩
          | cancelled =>
              have huncancelled := h.uncancelled task (List.mem_of_getElem? htask)
              simp [FetchTask.isCancelled, hdone] at huncancelled
      · cases hstep

omit [PyText] [CacheValue α] in
theorem Tracked.cancel_task (h : Tracked state) (index : Nat) :
    Tracked (state.cancelTask index) := by
  unfold cancelTask
  cases htask : state.tasks[index]? with
  | none => exact h
  | some task =>
      simp only
      cases hphase : task.phase with
      | created => exact h.set_task htask (by simp [FetchTask.active, hphase]) _
      | fetching => exact h.set_task htask (by simp [FetchTask.active, hphase]) _
      | cancelling started => exact h
      | done outcome => exact h

omit [PyText] [CacheValue α] in
/-- Cancelling a task that is done does nothing, any other is cancelled after it. -/
theorem cancel_task_cases (state : InflightRun α ε) (index : Nat) :
    (state.isActive index = false ∧ state.cancelTask index = state) ∨
      state.isActive index = true ∧
        ∃ task ∈ (state.cancelTask index).tasks, task.isCancelled = true := by
  unfold cancelTask isActive
  cases htask : state.tasks[index]? with
  | none => exact Or.inl ⟨rfl, rfl⟩
  | some task =>
      have hlength := (List.getElem?_eq_some_iff.mp htask).1
      simp only [FetchTask.active]
      cases hphase : task.phase with
      | created =>
          exact Or.inr ⟨rfl, _, List.mem_iff_getElem?.mpr ⟨index, List.getElem?_set_self hlength⟩,
            rfl⟩
      | fetching =>
          exact Or.inr ⟨rfl, _, List.mem_iff_getElem?.mpr ⟨index, List.getElem?_set_self hlength⟩,
            rfl⟩
      | cancelling started =>
          refine Or.inr ⟨rfl, task, List.mem_of_getElem? htask, ?_⟩
          simp [FetchTask.isCancelled, hphase]
      | done outcome => exact Or.inl ⟨rfl, rfl⟩

omit [PyText] [CacheValue α] in
/-- What cancelling a caller does. -/
theorem cancel_caller_kept (htracked : Tracked state) {index : Nat} {caller : FetchCaller α ε}
    (hcaller : state.callers[index]? = some caller)
    (hstep : state.cancelCaller index caller = some after) :
    Tracked after ∧
      (Coalesced state → (Coalesced after ↔ LeavesTasks state (.cancelCaller index))) := by
  obtain ⟨endpointId, wasCancelled, phase⟩ := caller
  cases phase with
  | ended _ _ => cases hstep
  | waiting awaited =>
      cases hstep
      have hcancelled := htracked.cancel_task awaited
      have hcallers : (state.cancelTask awaited).callers = state.callers := by
        unfold cancelTask
        split
        · rfl
        · split <;> rfl
      have hold := List.mem_of_getElem? hcaller
      have hsame : ∀ other ∈ state.callers.set index ⟨endpointId, true, .waiting awaited⟩,
          other ∈ state.callers ∨ other = ⟨endpointId, true, .waiting awaited⟩ :=
        fun other hother => List.mem_or_eq_of_mem_set hother
      have hnext : Tracked { state.cancelTask awaited with
          callers := state.callers.set index ⟨endpointId, true, .waiting awaited⟩ } := by
        refine ⟨hcancelled.active, hcancelled.filed, fun other hother place hwaits => ?_⟩
        rcases hsame other hother with hmem | rfl
        · exact hcancelled.awaited other (hcallers ▸ hmem) place hwaits
        · exact hcancelled.awaited ⟨endpointId, wasCancelled, .waiting awaited⟩
            (hcallers ▸ hold) place hwaits
      refine ⟨hnext, fun h => ?_⟩
      rcases cancel_task_cases state awaited with
        ⟨hdone, hstate⟩ | ⟨hactive, task, htask, hiscancelled⟩
      · refine iff_of_true ?_ ?_
        · rw [hstate] at hnext ⊢
          refine h.next hnext (fun _ _ _ hfound _ => hfound) (fun _ hmem => Or.inl hmem) ?_
          intro other hother
          rcases hsame other hother with hmem | rfl
          · exact Or.inl hmem
          · exact Or.inr fun hnot => by cases hnot
        · intro other task hother hwaits
          rw [hcaller] at hother
          cases hother
          cases hwaits
          exact hdone
      · refine iff_of_false (fun hafter => ?_) fun hleaves => ?_
        · have huncancelled := hafter.uncancelled task htask
          rw [hiscancelled] at huncancelled
          cases huncancelled
        · have hdone := hleaves _ awaited hcaller rfl
          rw [hactive] at hdone
          cases hdone

omit [PyText] [CacheValue α] in
/-- `stats` takes tasks that are done out of `_inflight_detail`. -/
theorem Tracked.stats (h : Tracked state) :
    Tracked { state with inflight := state.inflight.filterValues state.isActive } where
  active := by
    intro index task htask hactive
    show (state.inflight.filterValues state.isActive).get? task.endpointId = some index
    have hlisted : state.isActive index = true := by
      unfold isActive
      rw [htask]
      exact hactive
    rw [Dict.get?_filterValues, h.active index task htask hactive]
    simp [hlisted]
  filed := by
    intro endpointId index hfiled
    change (state.inflight.filterValues state.isActive).get? endpointId = some index at hfiled
    rw [Dict.get?_filterValues] at hfiled
    exact h.filed endpointId index (Option.filter_eq_some_iff.mp hfiled).1
  awaited := h.awaited

/-- What one step keeps, and when the callers do not get in each other's way. -/
theorem coalesced_step {event : FetchEvent α ε} (hstep : state.step event = some after)
    (htracked : Tracked state) :
    Tracked after ∧ (Coalesced state → (Coalesced after ↔ LeavesTasks state event)) := by
  have hkept : LeavesTasks state event → Tracked after ∧ (Coalesced state → Coalesced after) →
      Tracked after ∧ (Coalesced state → (Coalesced after ↔ LeavesTasks state event)) :=
    fun hgood hnext => ⟨hnext.1, fun h => iff_of_true (hnext.2 h) hgood⟩
  cases event with
  | call cfg now endpointId forceFresh =>
      simp only [step] at hstep
      split at hstep
      · cases hstep
        exact hkept trivial (get_detail_kept htracked cfg now endpointId forceFresh)
      · cases hstep
  | begins index =>
      obtain ⟨task, htask, hnext⟩ := Option.bind_eq_some_iff.mp hstep
      split at hnext
      · rename_i hphase
        cases hnext
        have hactive : task.active = true := by simp [FetchTask.active, hphase]
        have htracked' := htracked.set_task htask hactive .fetching
        exact hkept trivial ⟨htracked', fun h => h.set_task htask hactive rfl rfl rfl htracked'⟩
      · cases hnext
  | fetched cfg now index value =>
      obtain ⟨task, htask, hnext⟩ := Option.bind_eq_some_iff.mp hstep
      split at hnext
      · rename_i hphase
        cases hnext
        have hactive : task.active = true := by simp [FetchTask.active, hphase]
        have hended := htracked.end_task htask hactive (.value value)
        have htracked' : Tracked { state.endTask index task (.value value) with
            cache := state.cache.putDetail cfg now task.endpointId value false } :=
          ⟨hended.active, hended.filed, hended.awaited⟩
        exact hkept trivial ⟨htracked', fun h => h.set_task htask hactive rfl rfl rfl htracked'⟩
      · cases hnext
  | fails index exc =>
      obtain ⟨task, htask, hnext⟩ := Option.bind_eq_some_iff.mp hstep
      split at hnext
      · rename_i hphase
        cases hnext
        have hactive : task.active = true := by simp [FetchTask.active, hphase]
        have htracked' := htracked.end_task htask hactive (.error exc)
        exact hkept trivial ⟨htracked', fun h => h.set_task htask hactive rfl rfl rfl htracked'⟩
      · cases hnext
  | unwinds index =>
      obtain ⟨task, htask, hnext⟩ := Option.bind_eq_some_iff.mp hstep
      have himpossible : ∀ started, task.phase = .cancelling started → ¬ Coalesced state := by
        intro started hphase h
        have huncancelled := h.uncancelled task (List.mem_of_getElem? htask)
        simp [FetchTask.isCancelled, hphase] at huncancelled
      split at hnext
      · rename_i hphase
        cases hnext
        have hactive : task.active = true := by simp [FetchTask.active, hphase]
        exact hkept trivial ⟨htracked.end_task htask hactive .cancelled,
          fun h => absurd h (himpossible _ hphase)⟩
      · rename_i hphase
        cases hnext
        have hactive : task.active = true := by simp [FetchTask.active, hphase]
        exact hkept trivial ⟨htracked.set_task htask hactive (.done .cancelled),
          fun h => absurd h (himpossible _ hphase)⟩
      · cases hnext
  | resumes index =>
      obtain ⟨caller, hcaller, hnext⟩ := Option.bind_eq_some_iff.mp hstep
      exact hkept trivial (resume_kept htracked hcaller hnext)
  | cancelCaller index =>
      obtain ⟨caller, hcaller, hnext⟩ := Option.bind_eq_some_iff.mp hstep
      exact cancel_caller_kept htracked hcaller hnext
  | stats =>
      cases hstep
      exact hkept trivial ⟨htracked.stats, fun h => h.next htracked.stats
        (fun _ _ _ hfound _ => hfound) (fun _ htask => Or.inl htask)
        (fun _ hcaller => Or.inl hcaller)⟩
  | otherwise cache =>
      cases hstep
      have htracked' : Tracked { state with cache := cache } :=
        ⟨htracked.active, htracked.filed, htracked.awaited⟩
      exact hkept trivial ⟨htracked', fun h => h.next htracked' (fun _ _ _ hfound _ => hfound)
        (fun _ htask => Or.inl htask) (fun _ hcaller => Or.inl hcaller)⟩

omit [PyText] [CacheValue α] in
theorem tracked_nil : Tracked ({} : InflightRun α ε) where
  active := fun _ _ htask => by cases htask
  filed := fun _ _ hfiled => by cases hfiled
  awaited := fun _ hcaller => by cases hcaller

omit [PyText] [CacheValue α] in
theorem coalesced_nil : Coalesced ({} : InflightRun α ε) where
  single := tracked_nil.single
  uncancelled := fun _ htask => by cases htask
  answered := fun _ hcaller => by cases hcaller

/-- In every run, whoever is cancelled, one endpoint has one task at a time that is not done. -/
theorem one_task_at_a_time (events : List (FetchEvent α ε)) :
    Always step (fun state : InflightRun α ε => ∀ (first second : Nat)
      (task other : FetchTask α ε), state.tasks[first]? = some task →
        state.tasks[second]? = some other → task.active = true → other.active = true →
          task.endpointId = other.endpointId → first = second) {} events :=
  (always_of_step (P := Tracked) (fun _ _ _ hstep h => (coalesced_step hstep h).1) events
    tracked_nil).mono fun _ h => h.single

/-- Fetches are coalesced, and no caller suffers from another one's cancellation, exactly in the
runs in which no caller is cancelled while the task it waits for is not done. -/
theorem coalesced_iff (events : List (FetchEvent α ε)) :
    Always step Coalesced ({} : InflightRun α ε) events ↔
      Guarded step LeavesTasks ({} : InflightRun α ε) events :=
  always_iff_guarded (I := Tracked) (fun _ _ _ hstep h => (coalesced_step hstep h).1)
    (fun _ _ _ hstep htracked h => (coalesced_step hstep htracked).2 h) tracked_nil
    coalesced_nil

end Runs

end InflightRun

/-! ## Two callers of one endpoint -/

section Examples

open InflightRun

local instance callerText : PyText := asciiText

local instance callerCodec : DetailCodec := plainJson

/-- Two callers wait for one fetch. The first is cancelled, and the second fails with it. -/
def sharedFate : List (FetchEvent EndpointDetail String) :=
  [.call {} 100 "ep-1" false, .begins 0, .call {} 101 "ep-1" false, .cancelCaller 0,
    .unwinds 0, .resumes 1]

theorem caller_takes_others_along :
    ¬ Always step Coalesced {} sharedFate ∧
      ∃ final, run step {} sharedFate = some final ∧
        ∃ caller, final.callers[1]? = some caller ∧ caller.cancelled = false ∧
          caller.phase = .ended (some 0) .cancelled := by
  refine ⟨fun h => ?_, _, rfl, _, rfl, rfl, rfl⟩
  obtain ⟨task, _, _, hfrom⟩ := (h.last rfl).answered _
    (List.mem_of_getElem? (i := 1) rfl) rfl 0 .cancelled rfl
  exact hfrom

end Examples

end IsePortal
