import Mathlib.Data.List.Basic

/-!
# The tasks of the pre-warm worker

`start`, `stop`, `_run_with_retry` and the two loops of `app/services/cache_prewarm.py`, with what
happens between two awaits as one step. `asyncio.gather` hands on the first exception of its tasks
and leaves the others to themselves, and passes its own cancellation on to all of them; `wait_for`
cancels what it has waited for too long. `step_moves` says once in which ways a step changes the
tasks.
-/

namespace IsePortal

/-- The loops `_run` gathers. -/
inductive LoopKind where
  | drip
  | listScan
  deriving DecidableEq

/-- At work, its calls of ISE included, or waiting on the event `_stop` was at the time. -/
inductive LoopPhase where
  | working
  | sleeping (stop : Nat)

/-- A loop that has not ended, with the run whose `gather` waits for it. It has none once that
`gather` is over. -/
structure LoopTask where
  kind : LoopKind
  gatheredBy : Option Nat
  phase : LoopPhase := .working
  cancelled : Bool := false

/-- How a loop ends. -/
inductive LoopEnd where
  | returned
  | raised
  | cancelled

/-- The task of `_run_with_retry`. -/
inductive RunPhase where
  | created
  /-- In `_run`, before the loops: the disk cache and the first full scan. -/
  | scanning
  | gathering
  /-- The `gather` is over, the task has not gone on yet. -/
  | gathered
  /-- The 60 seconds before the restart. -/
  | delaying
  | cancelling
  | ended (cancelled : Bool)
  deriving DecidableEq

/-- The run has not ended. -/
def RunPhase.live : RunPhase → Bool
  | .ended _ => false
  | _ => true

/-- The run starts no loop any more. -/
def RunPhase.over : RunPhase → Bool
  | .cancelling | .ended _ => true
  | _ => false

/-- A call of `stop`. -/
inductive StopPhase where
  | saving
  | awaiting (run : Nat)
  /-- The 10 seconds are over and the run has been cancelled. -/
  | timedOut (run : Nat)

/-- The run a call of `stop` waits for. -/
def StopPhase.waitsFor : StopPhase → Option Nat
  | .saving => none
  | .awaiting run | .timedOut run => some run

/-- `PrewarmWorker` with its tasks. The stop events are numbered in the order `start` makes
them. -/
structure PrewarmWorker where
  stop : Nat := 0
  isSet : List Nat := []
  task : Option Nat := none
  runs : List RunPhase := []
  loops : List LoopTask := []
  stopCalls : List StopPhase := []

/-- What happens next. -/
inductive PrewarmEvent where
  | start
  | callStop
  | saves (call : Nat)
  | saveRaises (call : Nat)
  | stopTimesOut (call : Nat)
  | stopReturns (call : Nat)
  | begins (run : Nat)
  | scanRaises (run : Nat)
  | gathers (run : Nat)
  | resumes (run : Nat)
  | wakes (run : Nat)
  | unwinds (run : Nat)
  | loopTests (loop : Nat)
  | loopSleeps (loop : Nat)
  | loopWakes (loop : Nat)
  | loopReturns (loop : Nat)
  | loopRaises (loop : Nat)
  | loopUnwinds (loop : Nat)

namespace PrewarmWorker

variable (state : PrewarmWorker)

/-! ## Tasks -/

/-- The run is in the next phase. -/
def setRun (run : Nat) (phase : RunPhase) : PrewarmWorker :=
  { state with runs := state.runs.set run phase }

/-- `while not self._stop.is_set()` of `_run_with_retry`. -/
def retry (run : Nat) : PrewarmWorker :=
  state.setRun run (if state.stop ∈ state.isSet then .ended false else .scanning)

/-- `Task.cancel` of a run: a `gather` passes it on to its loops. -/
def cancelRun (run : Nat) : PrewarmWorker :=
  match state.runs[run]? with
  | none | some .cancelling | some (.ended _) => state
  | some .gathering =>
      { state with
        loops := state.loops.map fun loop =>
          if loop.gatheredBy = some run then { loop with cancelled := true } else loop }
  | some _ => state.setRun run .cancelling

/-- The loop is left to itself if the run gathers it. -/
def release (run : Nat) (loop : LoopTask) : LoopTask :=
  if loop.gatheredBy = some run then { loop with gatheredBy := none } else loop

/-- A loop ends. Its `gather` is over with the first exception or cancellation, or when its other
loop has returned too. -/
def endLoop (index : Nat) (loop : LoopTask) (how : LoopEnd) : PrewarmWorker :=
  let rest := state.loops.eraseIdx index
  match loop.gatheredBy, how with
  | none, _ => { state with loops := rest }
  | some run, .returned =>
      if rest.any fun other => decide (other.gatheredBy = some run) then
        { state with loops := rest }
      else { state.setRun run .gathered with loops := rest }
  | some run, .raised => { state.setRun run .gathered with loops := rest.map (release run) }
  | some run, .cancelled =>
      { state.setRun run .cancelling with loops := rest.map (release run) }

/-- `while not self._stop.is_set()` of a loop. -/
def testStop (index : Nat) (loop : LoopTask) : PrewarmWorker :=
  if state.stop ∈ state.isSet then state.endLoop index loop .returned
  else { state with loops := state.loops.set index { loop with phase := .working } }

/-! ## Calls -/

/-- `start` -/
def start : PrewarmWorker :=
  let fresh : PrewarmWorker :=
    { state with
      stop := state.stop + 1
      task := some state.runs.length
      runs := state.runs ++ [.created] }
  match state.task with
  | none => fresh
  | some run =>
      match state.runs[run]? with
      | some (.ended _) | none => fresh
      | some _ => state

/-- `stop` up to its first await. -/
def callStop : PrewarmWorker :=
  match state.task with
  | none => state
  | some _ => { state with stopCalls := state.stopCalls ++ [.saving] }

/-- `stop` once the cache is saved: the event is set, and the run `_task` is now is waited for. -/
def afterSave (call : Nat) : PrewarmWorker :=
  { state with
    isSet := state.stop :: state.isSet
    stopCalls :=
      match state.task with
      | none => state.stopCalls.eraseIdx call
      | some run => state.stopCalls.set call (.awaiting run) }

/-- The `finally` of `stop`. -/
def leaveStop (call : Nat) : PrewarmWorker :=
  { state with task := none, stopCalls := state.stopCalls.eraseIdx call }

/-- The end of `stop` once the run it waits for has ended. After a timeout the run `_task` is now
is cancelled. -/
def returnStop (call : Nat) : Option PrewarmWorker :=
  match state.stopCalls[call]? with
  | none | some .saving => none
  | some (.awaiting run) =>
      match state.runs[run]? with
      | some (.ended _) => some (state.leaveStop call)
      | _ => none
  | some (.timedOut run) =>
      match state.runs[run]?, state.task with
      | some (.ended true), some task => some ((state.cancelRun task).leaveStop call)
      | some (.ended _), _ => some (state.leaveStop call)
      | _, _ => none

/-! ## Steps -/

/-- A step of a run that is in the phase. -/
def stepRun (run : Nat) (phase : RunPhase) (next : PrewarmWorker) : Option PrewarmWorker :=
  if state.runs[run]? = some phase then some next else none

/-- A step of a loop that has not been cancelled. -/
def stepLoop (index : Nat) (next : LoopTask → Option PrewarmWorker) : Option PrewarmWorker :=
  match state.loops[index]? with
  | none => none
  | some loop => if loop.cancelled then none else next loop

/-- One step. -/
def step : PrewarmEvent → Option PrewarmWorker
  | .start => some state.start
  | .callStop => some state.callStop
  | .saves call =>
      match state.stopCalls[call]? with
      | some .saving => some (state.afterSave call)
      | _ => none
  | .saveRaises call =>
      match state.stopCalls[call]? with
      | some .saving => some { state with stopCalls := state.stopCalls.eraseIdx call }
      | _ => none
  | .stopTimesOut call =>
      match state.stopCalls[call]? with
      | some (.awaiting run) =>
          some { state.cancelRun run with
                 stopCalls := state.stopCalls.set call (.timedOut run) }
      | _ => none
  | .stopReturns call => state.returnStop call
  | .begins run => state.stepRun run .created (state.retry run)
  | .scanRaises run => state.stepRun run .scanning (state.setRun run .gathered)
  | .gathers run =>
      state.stepRun run .scanning
        { state.setRun run .gathering with
          loops := state.loops ++
            [{ kind := .listScan, gatheredBy := some run },
              { kind := .drip, gatheredBy := some run }] }
  | .resumes run =>
      state.stepRun run .gathered
        (state.setRun run (if state.stop ∈ state.isSet then .ended false else .delaying))
  | .wakes run => state.stepRun run .delaying (state.retry run)
  | .unwinds run => state.stepRun run .cancelling (state.setRun run (.ended true))
  | .loopTests index => state.stepLoop index fun loop => some (state.testStop index loop)
  | .loopSleeps index =>
      state.stepLoop index fun loop =>
        some { state with
               loops := state.loops.set index { loop with phase := .sleeping state.stop } }
  | .loopWakes index =>
      state.stepLoop index fun loop =>
        match loop.phase with
        | .working => none
        | .sleeping event =>
            if event ∈ state.isSet then
              match loop.kind with
              -- the drip loop breaks, the scan loop looks at the event `_stop` is by now
              | .drip => some (state.endLoop index loop .returned)
              | .listScan => some (state.testStop index loop)
            else none
  | .loopReturns index =>
      state.stepLoop index fun loop =>
        match loop.kind with
        | .drip => none
        | .listScan => some (state.endLoop index loop .returned)
  | .loopRaises index =>
      match state.loops[index]? with
      | none => none
      | some loop => some (state.endLoop index loop .raised)
  | .loopUnwinds index =>
      match state.loops[index]? with
      | none => none
      | some loop => if loop.cancelled then some (state.endLoop index loop .cancelled) else none

/-! ## What a step can do -/

/-- Every call waits for a run that a call waits for already, or for `_task`. -/
def Awaits (calls : List StopPhase) : Prop :=
  ∀ call ∈ calls, ∀ run, call.waitsFor = some run →
    (∃ old ∈ state.stopCalls, old.waitsFor = some run) ∨ state.task = some run

/-- The ways in which a step changes the tasks. -/
inductive Moves : PrewarmEvent → PrewarmWorker → Prop where
  | starts : Moves .start state.start
  | stops {event : PrewarmEvent} {isSet : List Nat} {calls : List StopPhase} :
      Awaits state calls → Moves event { state with isSet := isSet, stopCalls := calls }
  | timesOut {event : PrewarmEvent} {run : Nat} {calls : List StopPhase} :
      Awaits state calls → Moves event { state.cancelRun run with stopCalls := calls }
  | returns {event : PrewarmEvent} {call run : Nat} {waiting : StopPhase} {cancelled : Bool} :
      state.stopCalls[call]? = some waiting → waiting.waitsFor = some run →
        state.runs[run]? = some (.ended cancelled) → Moves event (state.leaveStop call)
  | returnsLate {event : PrewarmEvent} {call run task : Nat} :
      state.stopCalls[call]? = some (.timedOut run) → state.runs[run]? = some (.ended true) →
        Moves event ((state.cancelRun task).leaveStop call)
  | gathers {run : Nat} : state.runs[run]? = some .scanning →
      Moves (.gathers run)
        { state.setRun run .gathering with
          loops := state.loops ++
            [{ kind := .listScan, gatheredBy := some run },
              { kind := .drip, gatheredBy := some run }] }
  | runGoesOn {event : PrewarmEvent} {run : Nat} {phase next : RunPhase} :
      state.runs[run]? = some phase → phase.live = true → phase ≠ .gathering →
        next ≠ .gathering → (phase.over = true → next.over = true) →
          Moves event (state.setRun run next)
  | loopGoesOn {event : PrewarmEvent} {index : Nat} {loop next : LoopTask} :
      state.loops[index]? = some loop → next.kind = loop.kind →
        next.gatheredBy = loop.gatheredBy →
          Moves event { state with loops := state.loops.set index next }
  | loopEnds {event : PrewarmEvent} {index : Nat} {loop : LoopTask} {how : LoopEnd} :
      state.loops[index]? = some loop → (how = .raised → event = .loopRaises index) →
        Moves event (state.endLoop index loop how)

variable {state} {after : PrewarmWorker} {run index : Nat} {loop : LoopTask}

theorem step_run_eq_some {phase : RunPhase} {next : PrewarmWorker}
    (h : state.stepRun run phase next = some after) :
    state.runs[run]? = some phase ∧ next = after := by
  unfold stepRun at h
  split at h
  · rename_i hrun
    exact ⟨hrun, Option.some.inj h⟩
  · cases h

theorem step_loop_eq_some {next : LoopTask → Option PrewarmWorker}
    (h : state.stepLoop index next = some after) :
    ∃ loop, state.loops[index]? = some loop ∧ next loop = some after := by
  unfold stepLoop at h
  split at h
  · cases h
  · rename_i loop hloop
    split at h
    · cases h
    · exact ⟨loop, hloop, h⟩

theorem moves_test_stop {event : PrewarmEvent} (hloop : state.loops[index]? = some loop) :
    Moves state event (state.testStop index loop) := by
  unfold testStop
  split
  · exact .loopEnds hloop (fun hraised => by cases hraised)
  · exact .loopGoesOn hloop rfl rfl

theorem moves_return_stop {event : PrewarmEvent} {call : Nat}
    (h : state.returnStop call = some after) : Moves state event after := by
  unfold returnStop at h
  split at h
  · cases h
  · cases h
  · rename_i run hcall
    split at h
    · rename_i hrun
      cases h
      exact .returns hcall rfl hrun
    · cases h
  · rename_i run hcall
    split at h
    · rename_i hrun _
      cases h
      exact .returnsLate hcall hrun
    · rename_i hrun _
      cases h
      exact .returns hcall rfl hrun
    · cases h

theorem awaits_erase (call : Nat) : Awaits state (state.stopCalls.eraseIdx call) :=
  fun other hother _ hwaits => Or.inl ⟨other, (List.eraseIdx_sublist _ _).mem hother, hwaits⟩

/-- What a step does is one of the moves. -/
theorem step_moves {event : PrewarmEvent} (hstep : state.step event = some after) :
    Moves state event after := by
  cases event with
  | start =>
      cases hstep
      exact .starts
  | callStop =>
      cases hstep
      unfold callStop
      split
      · exact .stops fun call hcall run hwaits => Or.inl ⟨call, hcall, hwaits⟩
      · refine .stops fun call hcall run hwaits => ?_
        rcases List.mem_append.mp hcall with hold | hnew
        · exact Or.inl ⟨call, hold, hwaits⟩
        · cases List.mem_singleton.mp hnew
          cases hwaits
  | saves call =>
      simp only [step] at hstep
      split at hstep
      · cases hstep
        refine .stops fun other hother run hwaits => ?_
        cases htask : state.task with
        | none =>
            rw [htask] at hother
            exact Or.inl ⟨other, (List.eraseIdx_sublist _ _).mem hother, hwaits⟩
        | some current =>
            rw [htask] at hother
            rcases List.mem_or_eq_of_mem_set hother with hold | rfl
            · exact Or.inl ⟨other, hold, hwaits⟩
            · exact Or.inr hwaits
      · cases hstep
  | saveRaises call =>
      simp only [step] at hstep
      split at hstep
      · cases hstep
        exact .stops (awaits_erase call)
      · cases hstep
  | stopTimesOut call =>
      simp only [step] at hstep
      split at hstep
      · rename_i run hcall
        cases hstep
        refine .timesOut fun other hother waited hwaits => Or.inl ?_
        rcases List.mem_or_eq_of_mem_set hother with hold | rfl
        · exact ⟨other, hold, hwaits⟩
        · exact ⟨_, List.mem_of_getElem? hcall, hwaits⟩
      · cases hstep
  | stopReturns call => exact moves_return_stop hstep
  | begins run =>
      obtain ⟨hrun, rfl⟩ := step_run_eq_some hstep
      refine .runGoesOn hrun rfl (by simp) ?_ (fun hover => by cases hover)
      split <;> simp
  | scanRaises run =>
      obtain ⟨hrun, rfl⟩ := step_run_eq_some hstep
      exact .runGoesOn hrun rfl (by simp) (by simp) (fun hover => by cases hover)
  | gathers run =>
      obtain ⟨hrun, rfl⟩ := step_run_eq_some hstep
      exact .gathers hrun
  | resumes run =>
      obtain ⟨hrun, rfl⟩ := step_run_eq_some hstep
      refine .runGoesOn hrun rfl (by simp) ?_ (fun hover => by cases hover)
      split <;> simp
  | wakes run =>
      obtain ⟨hrun, rfl⟩ := step_run_eq_some hstep
      refine .runGoesOn hrun rfl (by simp) ?_ (fun hover => by cases hover)
      split <;> simp
  | unwinds run =>
      obtain ⟨hrun, rfl⟩ := step_run_eq_some hstep
      exact .runGoesOn hrun rfl (by simp) (by simp) (fun _ => rfl)
  | loopTests index =>
      obtain ⟨loop, hloop, hnext⟩ := step_loop_eq_some hstep
      cases hnext
      exact moves_test_stop hloop
  | loopSleeps index =>
      obtain ⟨loop, hloop, hnext⟩ := step_loop_eq_some hstep
      cases hnext
      exact .loopGoesOn hloop rfl rfl
  | loopWakes index =>
      obtain ⟨loop, hloop, hnext⟩ := step_loop_eq_some hstep
      split at hnext
      · cases hnext
      · split at hnext
        · split at hnext
          · cases hnext
            exact .loopEnds hloop (fun hraised => by cases hraised)
          · cases hnext
            exact moves_test_stop hloop
        · cases hnext
  | loopReturns index =>
      obtain ⟨loop, hloop, hnext⟩ := step_loop_eq_some hstep
      split at hnext
      · cases hnext
      · cases hnext
        exact .loopEnds hloop (fun hraised => by cases hraised)
  | loopRaises index =>
      simp only [step] at hstep
      split at hstep
      · cases hstep
      · rename_i loop hloop
        cases hstep
        exact .loopEnds hloop (fun _ => rfl)
  | loopUnwinds index =>
      simp only [step] at hstep
      split at hstep
      · cases hstep
      · rename_i loop hloop
        split at hstep
        · cases hstep
          exact .loopEnds hloop (fun hraised => by cases hraised)
        · cases hstep

end PrewarmWorker

end IsePortal
