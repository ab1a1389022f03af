import IsePortal.Prewarm.LoopPairs

/-!
# One live run

When nothing raises beside an active sibling and nothing is started before what came before is
over, at most one `_run_with_retry` is live and no loop is left over while it may start loops
(`Single`), so that there is never more than one loop of a kind.
-/

namespace IsePortal

open Library

namespace PrewarmWorker

variable {state after : PrewarmWorker} {run index : Nat} {loop : LoopTask}

/-- The run is there and has not ended. -/
def Live (state : PrewarmWorker) (run : Nat) : Prop :=
  ∃ phase, state.runs[run]? = some phase ∧ phase.live = true

/-- A loop raises only when its sibling has ended, and `start` is called only when no `stop` is
under way and every loop whose `gather` is over has ended. -/
def Calm (state : PrewarmWorker) : PrewarmEvent → Prop
  | .start => state.stopCalls = [] ∧ ∀ loop ∈ state.loops, loop.gatheredBy ≠ none
  | .loopRaises index => ∀ loop run, state.loops[index]? = some loop →
      loop.gatheredBy = some run →
        some run ∉ (state.loops.eraseIdx index).map LoopTask.gatheredBy
  | _ => True

/-- A live run is `_task` and what every `stop` waits for, and while a loop is left over no run
starts loops any more. -/
structure Single (state : PrewarmWorker) : Prop where
  current : ∀ run, Live state run → state.task = some run
  awaited : ∀ call ∈ state.stopCalls, ∀ run, call.waitsFor = some run →
    ∀ other, Live state other → other = run
  leftOver : (∀ loop ∈ state.loops, loop.gatheredBy ≠ none) ∨
    ∀ phase ∈ state.runs, phase.over = true

theorem Single.of_loops (h : Single state) {loops : List LoopTask}
    (hloops : ∀ loop ∈ loops, ∃ old ∈ state.loops, old.gatheredBy = loop.gatheredBy) :
    Single { state with loops := loops } where
  current := h.current
  awaited := h.awaited
  leftOver := by
    rcases h.leftOver with howned | hover
    · left
      intro loop hloop
      obtain ⟨old, hold, heq⟩ := hloops loop hloop
      rw [← heq]
      exact howned old hold
    · exact Or.inr hover

theorem Single.of_calls (h : Single state) {isSet : List Nat} {calls : List StopPhase}
    (hcalls : Awaits state calls) :
    Single { state with isSet := isSet, stopCalls := calls } where
  current := h.current
  awaited := by
    intro call hcall run hwaits other hlive
    rcases hcalls call hcall run hwaits with ⟨old, hold, hsame⟩ | htask
    · exact h.awaited old hold run hsame other hlive
    · have hcurrent : state.task = some other := h.current other hlive
      rw [htask] at hcurrent
      exact (Option.some.inj hcurrent).symm
  leftOver := h.leftOver

theorem live_of_set_run {phase next : RunPhase} {other : Nat}
    (hrun : state.runs[run]? = some phase) (hlive : phase.live = true)
    (h : Live (state.setRun run next) other) : Live state other := by
  obtain ⟨found, hfound, hnotEnded⟩ := h
  change (state.runs.set run next)[other]? = some found at hfound
  rw [List.getElem?_set] at hfound
  split at hfound
  · rename_i hsame
    subst hsame
    exact ⟨phase, hrun, hlive⟩
  · exact ⟨found, hfound, hnotEnded⟩

theorem Single.set_run (h : Single state) {phase next : RunPhase}
    (hrun : state.runs[run]? = some phase) (hlive : phase.live = true)
    (hover : phase.over = true → next.over = true) : Single (state.setRun run next) where
  current := fun other hother => h.current other (live_of_set_run hrun hlive hother)
  awaited := fun call hcall waited hwaits other hother =>
    h.awaited call hcall waited hwaits other (live_of_set_run hrun hlive hother)
  leftOver := by
    rcases h.leftOver with howned | hall
    · exact Or.inl howned
    · right
      intro found hfound
      rcases List.mem_or_eq_of_mem_set hfound with hold | rfl
      · exact hall found hold
      · exact hover (hall phase (List.mem_of_getElem? hrun))

/-- A run that may still start loops leaves none over. -/
theorem Single.owned (h : Single state) {phase : RunPhase}
    (hrun : state.runs[run]? = some phase) (hover : phase.over = false) :
    ∀ loop ∈ state.loops, loop.gatheredBy ≠ none := by
  rcases h.leftOver with howned | hall
  · exact howned
  · have hphase := hall phase (List.mem_of_getElem? hrun)
    rw [hover] at hphase
    cases hphase

theorem Single.cancel_run (h : Single state) (run : Nat) : Single (state.cancelRun run) := by
  unfold cancelRun
  split
  · exact h
  · exact h
  · exact h
  · refine h.of_loops fun loop hloop => ?_
    obtain ⟨old, hold, rfl⟩ := List.mem_map.mp hloop
    refine ⟨old, hold, ?_⟩
    split <;> rfl
  · rename_i phase hcancelling hended hgathering hrun
    refine h.set_run hrun ?_ fun _ => rfl
    cases phase with
    | ended cancelled => exact absurd rfl (hended cancelled)
    | _ => rfl

/-- `stop` leaves when the run it waits for has ended, and then no run is live. -/
theorem Single.leave_stop (h : Single state) {call : Nat} {waiting : StopPhase} {cancelled : Bool}
    (hcall : state.stopCalls[call]? = some waiting) (hwaits : waiting.waitsFor = some run)
    (hrun : state.runs[run]? = some (.ended cancelled)) : Single (state.leaveStop call) := by
  have hnone : ∀ other, ¬ Live state other := by
    intro other hlive
    have hsame := h.awaited waiting (List.mem_of_getElem? hcall) run hwaits other hlive
    subst hsame
    obtain ⟨phase, hphase, hnotEnded⟩ := hlive
    rw [hrun] at hphase
    cases hphase
    cases hnotEnded
  exact ⟨fun other hlive => absurd hlive (hnone other),
    fun _ _ _ _ other hlive => absurd hlive (hnone other), h.leftOver⟩

/-- Cancelling a run changes neither the calls nor a run that has ended. -/
theorem cancel_run_frame (state : PrewarmWorker) (task : Nat) :
    (state.cancelRun task).stopCalls = state.stopCalls ∧
      (state.cancelRun task).task = state.task ∧
        ∀ (run : Nat) (cancelled : Bool), state.runs[run]? = some (.ended cancelled) →
          (state.cancelRun task).runs[run]? = some (.ended cancelled) := by
  unfold cancelRun
  split
  · exact ⟨rfl, rfl, fun _ _ hrun => hrun⟩
  · exact ⟨rfl, rfl, fun _ _ hrun => hrun⟩
  · exact ⟨rfl, rfl, fun _ _ hrun => hrun⟩
  · exact ⟨rfl, rfl, fun _ _ hrun => hrun⟩
  · rename_i phase _ hended _ htask
    refine ⟨rfl, rfl, fun run cancelled hrun => ?_⟩
    show (state.runs.set task .cancelling)[run]? = some (.ended cancelled)
    rw [List.getElem?_set_ne]
    · exact hrun
    · rintro rfl
      rw [hrun] at htask
      cases htask
      exact hended cancelled rfl

/-- A loop leaves its sibling over only where it is cancelled, and then with a run that is over. -/
theorem Single.end_loop (h : Single state) (hgathers : Gathers state)
    (hloop : state.loops[index]? = some loop) (how : LoopEnd)
    (hcalm : how = .raised → ∀ run, loop.gatheredBy = some run →
      some run ∉ (state.loops.eraseIdx index).map LoopTask.gatheredBy) :
    Single (state.endLoop index loop how) := by
  have hrest : ∀ other ∈ state.loops.eraseIdx index,
      ∃ old ∈ state.loops, old.gatheredBy = other.gatheredBy := fun other hother =>
    ⟨other, (List.eraseIdx_sublist _ _).mem hother, rfl⟩
  unfold endLoop
  cases hby : loop.gatheredBy with
  | none => exact h.of_loops hrest
  | some run =>
      have hrun : state.runs[run]? = some .gathering :=
        (hgathers run).mpr (List.mem_map.mpr ⟨loop, List.mem_of_getElem? hloop, hby⟩)
      have hgathered : Single (state.setRun run .gathered) :=
        h.set_run hrun rfl (fun hover => by cases hover)
      cases how with
      | returned =>
          simp only
          split
          · exact h.of_loops hrest
          · exact hgathered.of_loops hrest
      | raised =>
          refine hgathered.of_loops fun other hother => ?_
          obtain ⟨old, hold, rfl⟩ := List.mem_map.mp hother
          refine ⟨old, (List.eraseIdx_sublist _ _).mem hold, ?_⟩
          unfold release
          rw [if_neg]
          exact fun howner => hcalm rfl run hby (List.mem_map.mpr ⟨old, hold, howner⟩)
      | cancelled =>
          have hnext : Single (state.setRun run .cancelling) := h.set_run hrun rfl (fun _ => rfl)
          refine ⟨hnext.current, hnext.awaited, Or.inr fun phase hphase => ?_⟩
          change phase ∈ state.runs.set run .cancelling at hphase
          obtain ⟨other, hother⟩ := List.mem_iff_getElem?.mp hphase
          rw [List.getElem?_set] at hother
          split at hother
          · split at hother
            · cases hother
              rfl
            · cases hother
          · rename_i hne
            -- the cancelled run is the only live one
            cases phase with
            | cancelling | ended cancelled => rfl
            | _ =>
                have hcurrent := h.current other ⟨_, hother, rfl⟩
                rw [h.current run ⟨_, hrun, rfl⟩] at hcurrent
                exact absurd (Option.some.inj hcurrent) hne

/-- `start` makes a run where no other is live. -/
theorem Single.start (h : Single state) (hcalls : state.stopCalls = [])
    (howned : ∀ loop ∈ state.loops, loop.gatheredBy ≠ none) : Single state.start := by
  have hfresh : (∀ run, ¬ Live state run) → Single
      { state with
        stop := state.stop + 1
        task := some state.runs.length
        runs := state.runs ++ [.created] } := by
    intro hnone
    refine ⟨fun run hlive => ?_, ?_, Or.inl howned⟩
    · obtain ⟨phase, hphase, hnotEnded⟩ := hlive
      change (state.runs ++ [.created])[run]? = some phase at hphase
      rw [List.getElem?_append] at hphase
      split at hphase
      · exact absurd ⟨phase, hphase, hnotEnded⟩ (hnone run)
      · have hlength := (List.getElem?_eq_some_iff.mp hphase).1
        simp only [List.length_singleton] at hlength
        show some state.runs.length = some run
        congr 1
        omega
    · intro call hcall
      change call ∈ state.stopCalls at hcall
      rw [hcalls] at hcall
      cases hcall
  unfold PrewarmWorker.start
  simp only
  split
  · rename_i htask
    refine hfresh fun run hlive => ?_
    have hcurrent := h.current run hlive
    rw [htask] at hcurrent
    cases hcurrent
  · rename_i current htask
    have hdone : ∀ run, Live state run → run = current := by
      intro run hlive
      have hcurrent := h.current run hlive
      rw [htask] at hcurrent
      exact (Option.some.inj hcurrent).symm
    split
    · rename_i hended
      refine hfresh fun run hlive => ?_
      obtain rfl := hdone run hlive
      obtain ⟨phase, hphase, hnotEnded⟩ := hlive
      rw [hended] at hphase
      cases hphase
      cases hnotEnded
    · rename_i hmissing
      refine hfresh fun run hlive => ?_
      obtain rfl := hdone run hlive
      obtain ⟨phase, hphase, _⟩ := hlive
      rw [hmissing] at hphase
      cases hphase
    · exact h

theorem Single.set_loop (h : Single state) {next : LoopTask}
    (hloop : state.loops[index]? = some loop) (howner : next.gatheredBy = loop.gatheredBy) :
    Single { state with loops := state.loops.set index next } := by
  refine h.of_loops fun other hother => ?_
  rcases List.mem_or_eq_of_mem_set hother with hold | rfl
  · exact ⟨other, hold, rfl⟩
  · exact ⟨loop, List.mem_of_getElem? hloop, howner.symm⟩

/-- Calm steps keep a single live run. -/
theorem single_step {event : PrewarmEvent} (hstep : state.step event = some after)
    (hcalm : Calm state event) (hgathers : Gathers state) (h : Single state) : Single after := by
  cases step_moves hstep with
  | starts => exact h.start hcalm.1 hcalm.2
  | stops hcalls => exact h.of_calls hcalls
  | timesOut hcalls =>
      refine (h.cancel_run _).of_calls ?_
      obtain ⟨hsame, htask, _⟩ := cancel_run_frame state _
      unfold Awaits
      rw [hsame, htask]
      exact hcalls
  | returns hcall hwaits hrun => exact h.leave_stop hcall hwaits hrun
  | returnsLate hcall hrun =>
      obtain ⟨hsame, _, hruns⟩ := cancel_run_frame state _
      exact (h.cancel_run _).leave_stop (by rw [hsame]; exact hcall) rfl (hruns _ _ hrun)
  | @gathers run hrun =>
      have hnext : Single (state.setRun run .gathering) :=
        h.set_run hrun rfl (fun hover => by cases hover)
      refine ⟨hnext.current, hnext.awaited, Or.inl fun loop hloop => ?_⟩
      rcases List.mem_append.mp hloop with hold | hnew
      · exact h.owned hrun rfl loop hold
      · rcases List.mem_cons.mp hnew with rfl | hdrip
        · exact fun hnone => by cases hnone
        · cases List.mem_singleton.mp hdrip
          exact fun hnone => by cases hnone
  | runGoesOn hrun hlive _ _ hover => exact h.set_run hrun hlive hover
  | loopGoesOn hloop _ howner => exact h.set_loop hloop howner
  | loopEnds hloop hevent =>
      refine h.end_loop hgathers hloop _ fun hraised run hby => ?_
      rw [hevent hraised] at hcalm
      exact hcalm _ run hloop hby

/-- A single live run starts its loops alone. -/
theorem Single.starts_alone (h : Single state) {event : PrewarmEvent}
    (hstep : state.step event = some after) : StartsAlone state event := by
  cases event with
  | gathers run =>
      obtain ⟨hrun, _⟩ := step_run_eq_some hstep
      refine ⟨fun other hother => ?_, h.owned hrun rfl⟩
      have hcurrent := h.current other ⟨_, hother, rfl⟩
      rw [h.current run ⟨_, hrun, rfl⟩] at hcurrent
      cases hcurrent
      rw [hrun] at hother
      cases hother
  | _ => trivial

/-- There is never more than one loop of a kind while loops raise only after their siblings have
ended and `start` is called only once everything before it is over. -/
theorem one_pair_of_calm (events : List PrewarmEvent) (hcalm : Guarded step Calm {} events) :
    Always step OnePair {} events := by
  have hkept :
      Always step (fun state => Gathers state ∧ Single state ∧ OnePair state) {} events := by
    refine always_of_guarded ?_ hcalm ⟨fun run => by simp, ?_, fun kind => Nat.zero_le _⟩
    · rintro before event after hstep hgood ⟨hgathers, hsingle, hpair⟩
      exact ⟨gathers_keeps hstep hgathers, single_step hstep hgood hgathers hsingle,
        (one_pair_step hstep hgathers hpair).mpr (hsingle.starts_alone hstep)⟩
    · refine ⟨?_, ?_, Or.inl ?_⟩
      · rintro run ⟨phase, hphase, _⟩
        cases hphase
      · intro call hcall
        cases hcall
      · intro loop hloop
        cases hloop
  exact hkept.mono fun _ h => h.2.2

/-- The worker is started, gathers its loops and is stopped. -/
theorem one_pair_of_calm_stopped :
    Always step OnePair {} [.start, .begins 0, .gathers 0, .loopTests 0, .callStop] :=
  one_pair_of_calm _ ⟨⟨rfl, fun _ h => absurd h List.not_mem_nil⟩, trivial, trivial, trivial, trivial,
    trivial⟩

end PrewarmWorker

end IsePortal
