import IsePortal.Library.Runs
import IsePortal.Prewarm.Worker

/-!
# One loop of each kind

A loop can outlive the task that gathered it. `Gathers` says which runs gather, `NoNewLoop` what
every step but the start of the loops does to them, and `one_pair_iff` when there is never more
than one loop of a kind.
-/

namespace IsePortal

open Library

namespace PrewarmWorker

variable {state after : PrewarmWorker} {run index : Nat} {loop : LoopTask}

/-! ## What a run has to keep -/

/-- At most one drip loop and at most one scan loop are active. -/
def OnePair (state : PrewarmWorker) : Prop :=
  ∀ kind, (state.loops.map LoopTask.kind).count kind ≤ 1

/-- When a run starts its loops, no other run gathers loops, and every loop whose `gather` is over
has ended. -/
def StartsAlone (state : PrewarmWorker) : PrewarmEvent → Prop
  | .gathers _ =>
      (∀ run : Nat, state.runs[run]? ≠ some .gathering) ∧
        ∀ loop ∈ state.loops, loop.gatheredBy ≠ none
  | _ => True

/-- The runs that gather are those whose loops have not all ended. -/
def Gathers (state : PrewarmWorker) : Prop :=
  ∀ run : Nat, state.runs[run]? = some .gathering ↔
    some run ∈ state.loops.map LoopTask.gatheredBy

/-! ## What one step does to the loops -/

/-- No loop is new, and the runs that gather are still those whose loops have not all ended. -/
structure NoNewLoop (state after : PrewarmWorker) : Prop where
  kinds : (after.loops.map LoopTask.kind).Sublist (state.loops.map LoopTask.kind)
  gathers : Gathers state → Gathers after

theorem NoNewLoop.trans {middle : PrewarmWorker} (first : NoNewLoop state middle)
    (second : NoNewLoop middle after) : NoNewLoop state after :=
  ⟨second.kinds.trans first.kinds, fun h => second.gathers (first.gathers h)⟩

/-- Only the runs and the loops count. -/
theorem NoNewLoop.of_eq (hruns : after.runs = state.runs) (hloops : after.loops = state.loops) :
    NoNewLoop state after where
  kinds := by rw [hloops]
  gathers := by
    intro h run
    rw [hruns, hloops]
    exact h run

/-- Loops that go on as they are. -/
theorem NoNewLoop.of_map_eq (hruns : after.runs = state.runs)
    (hkinds : after.loops.map LoopTask.kind = state.loops.map LoopTask.kind)
    (howners : after.loops.map LoopTask.gatheredBy = state.loops.map LoopTask.gatheredBy) :
    NoNewLoop state after where
  kinds := by rw [hkinds]
  gathers := by
    intro h run
    rw [hruns, howners]
    exact h run

/-- A run that does not gather goes on and does not gather. -/
theorem no_new_loop_set_run {phase next : RunPhase} (hrun : state.runs[run]? = some phase)
    (hphase : phase ≠ .gathering) (hnext : next ≠ .gathering) :
    NoNewLoop state (state.setRun run next) where
  kinds := List.Sublist.refl _
  gathers := by
    intro h other
    show (state.runs.set run next)[other]? = some .gathering ↔
      some other ∈ state.loops.map LoopTask.gatheredBy
    rw [← h other, List.getElem?_set]
    split
    · rename_i hsame
      subst hsame
      rw [hrun]
      split
      · simp [hnext, hphase]
      · simp [hphase]
    · exact Iff.rfl

theorem no_new_loop_cancel_run (run : Nat) : NoNewLoop state (state.cancelRun run) := by
  unfold cancelRun
  split
  · exact .of_eq rfl rfl
  · exact .of_eq rfl rfl
  · exact .of_eq rfl rfl
  · refine .of_map_eq rfl ?_ ?_
    · simp only [List.map_map]
      refine List.map_congr_left fun loop _ => ?_
      simp only [Function.comp_apply]
      split <;> rfl
    · simp only [List.map_map]
      refine List.map_congr_left fun loop _ => ?_
      simp only [Function.comp_apply]
      split <;> rfl
  · rename_i phase _ _ hgathering hrun
    exact no_new_loop_set_run hrun hgathering (by simp)

/-- The `gather` of a run is over: no loop has it any more, the other loops go on. -/
theorem gathers_leave {next : RunPhase} {loops : List LoopTask} (hnext : next ≠ .gathering)
    (hgone : some run ∉ loops.map LoopTask.gatheredBy)
    (hothers : ∀ other, other ≠ run → (some other ∈ loops.map LoopTask.gatheredBy ↔
      some other ∈ state.loops.map LoopTask.gatheredBy))
    (h : Gathers state) : Gathers { state.setRun run next with loops := loops } := by
  intro other
  show (state.runs.set run next)[other]? = some .gathering ↔
    some other ∈ loops.map LoopTask.gatheredBy
  by_cases hother : other = run
  · subst hother
    refine iff_of_false ?_ hgone
    rw [List.getElem?_set]
    split
    · split
      · simpa using hnext
      · simp
    · contradiction
  · rw [hothers other hother, ← h other, List.getElem?_set_ne (Ne.symm hother)]

/-- What is left of the owners when a loop ends. -/
theorem mem_owners_erase {owner : Option Nat} (hloop : state.loops[index]? = some loop)
    (hne : owner ≠ loop.gatheredBy) :
    owner ∈ (state.loops.eraseIdx index).map LoopTask.gatheredBy ↔
      owner ∈ state.loops.map LoopTask.gatheredBy := by
  constructor
  · intro hmem
    exact ((List.eraseIdx_sublist _ _).map _).mem hmem
  · intro hmem
    obtain ⟨other, hother, rfl⟩ := List.mem_map.mp hmem
    obtain ⟨place, hplace⟩ := List.mem_iff_getElem?.mp hother
    refine List.mem_map.mpr ⟨other, List.mem_eraseIdx_iff_getElem?.mpr ⟨place, ?_, hplace⟩, rfl⟩
    rintro rfl
    rw [hloop] at hplace
    cases hplace
    exact hne rfl

theorem mem_owners_release {other : Nat} (loops : List LoopTask) :
    some other ∈ (loops.map (release run)).map LoopTask.gatheredBy ↔
      other ≠ run ∧ some other ∈ loops.map LoopTask.gatheredBy := by
  simp only [List.map_map, List.mem_map, Function.comp_apply]
  constructor
  · rintro ⟨loop, hloop, howner⟩
    unfold release at howner
    split at howner
    · cases howner
    · rename_i hnot
      refine ⟨?_, loop, hloop, howner⟩
      rintro rfl
      exact hnot howner
  · rintro ⟨hne, loop, hloop, howner⟩
    refine ⟨loop, hloop, ?_⟩
    unfold release
    rw [if_neg (by rw [howner]; simpa using hne)]
    exact howner

theorem kinds_release (loops : List LoopTask) :
    (loops.map (release run)).map LoopTask.kind = loops.map LoopTask.kind := by
  rw [List.map_map]
  refine List.map_congr_left fun loop _ => ?_
  simp only [Function.comp_apply, release]
  split <;> rfl

theorem no_new_loop_end_loop (hloop : state.loops[index]? = some loop) (how : LoopEnd) :
    NoNewLoop state (state.endLoop index loop how) := by
  have hkinds : ((state.loops.eraseIdx index).map LoopTask.kind).Sublist
      (state.loops.map LoopTask.kind) := (List.eraseIdx_sublist _ _).map _
  unfold endLoop
  cases hby : loop.gatheredBy with
  | none =>
      refine ⟨hkinds, fun h run => ?_⟩
      rw [h run]
      exact (mem_owners_erase hloop (by rw [hby]; simp)).symm
  | some run =>
      have hothers : ∀ other, other ≠ run →
          (some other ∈ (state.loops.eraseIdx index).map LoopTask.gatheredBy ↔
            some other ∈ state.loops.map LoopTask.gatheredBy) := fun other hne =>
        mem_owners_erase hloop (by rw [hby]; simpa using hne)
      have hreleased : ∀ next : RunPhase, next ≠ .gathering → NoNewLoop state
          { state.setRun run next with
            loops := (state.loops.eraseIdx index).map (release run) } := by
        intro next hnext
        refine ⟨by rw [kinds_release]; exact hkinds, gathers_leave hnext ?_ ?_⟩
        · rw [mem_owners_release]
          exact fun h => h.1 rfl
        · intro other hne
          rw [mem_owners_release, hothers other hne]
          exact and_iff_right hne
      cases how with
      | raised => exact hreleased _ (by simp)
      | cancelled => exact hreleased _ (by simp)
      | returned =>
          simp only
          split
          · rename_i hleft
            refine ⟨hkinds, fun h other => ?_⟩
            rw [h other]
            by_cases hne : other = run
            · subst hne
              obtain ⟨sibling, hsibling, howner⟩ := List.any_eq_true.mp hleft
              refine iff_of_true (List.mem_map.mpr ⟨loop, List.mem_of_getElem? hloop, hby⟩) ?_
              exact List.mem_map.mpr ⟨sibling, hsibling, of_decide_eq_true howner⟩
            · exact (hothers other hne).symm
          · rename_i hleft
            refine ⟨hkinds, gathers_leave (by simp) ?_ hothers⟩
            intro hmem
            obtain ⟨sibling, hsibling, howner⟩ := List.mem_map.mp hmem
            exact hleft (List.any_eq_true.mpr ⟨sibling, hsibling, decide_eq_true howner⟩)

/-- A loop that goes on. -/
theorem no_new_loop_set {next : LoopTask} (hloop : state.loops[index]? = some loop)
    (hkind : next.kind = loop.kind) (howner : next.gatheredBy = loop.gatheredBy) :
    NoNewLoop state { state with loops := state.loops.set index next } := by
  have hsame : ∀ {β : Type} (field : LoopTask → β), field next = field loop →
      (state.loops.set index next).map field = state.loops.map field := by
    intro β field hfield
    refine List.ext_getElem? fun place => ?_
    rw [List.getElem?_map, List.getElem?_map, List.getElem?_set]
    split
    · rename_i hplace
      subst hplace
      rw [hloop]
      split
      · simp [hfield]
      · rename_i hlength
        exact absurd (List.getElem?_eq_some_iff.mp hloop).1 hlength
    · rfl
  exact .of_map_eq rfl (hsame _ hkind) (hsame _ howner)

/-- `start` makes a task that does not gather, at a place where none was. -/
theorem no_new_loop_start : NoNewLoop state state.start := by
  have hfresh : ∀ stop task, NoNewLoop state
      { state with stop := stop, task := task, runs := state.runs ++ [.created] } := by
    intro stop task
    refine ⟨List.Sublist.refl _, fun h run => ?_⟩
    show (state.runs ++ [.created])[run]? = some .gathering ↔
      some run ∈ state.loops.map LoopTask.gatheredBy
    rw [← h run, List.getElem?_append]
    split
    · exact Iff.rfl
    · rename_i hlength
      rw [List.getElem?_eq_none (Nat.le_of_not_lt hlength)]
      refine iff_of_false (fun hcreated => ?_) (by simp)
      have hmem := List.mem_of_getElem? hcreated
      simp at hmem
  unfold start
  simp only
  split
  · exact hfresh _ _
  · split
    · exact hfresh _ _
    · exact hfresh _ _
    · exact .of_eq rfl rfl

/-- Loops are started by `gather` only. -/
theorem no_new_loop_step {event : PrewarmEvent} (hstep : state.step event = some after)
    (hevent : ∀ run, event ≠ .gathers run) : NoNewLoop state after := by
  cases step_moves hstep with
  | starts => exact no_new_loop_start
  | stops _ => exact .of_eq rfl rfl
  | timesOut _ => exact (no_new_loop_cancel_run _).trans (.of_eq rfl rfl)
  | returns _ _ _ => exact .of_eq rfl rfl
  | returnsLate _ _ => exact (no_new_loop_cancel_run _).trans (.of_eq rfl rfl)
  | gathers _ => exact absurd rfl (hevent _)
  | runGoesOn hrun _ hphase hnext _ => exact no_new_loop_set_run hrun hphase hnext
  | loopGoesOn hloop hkind howner => exact no_new_loop_set hloop hkind howner
  | loopEnds hloop _ => exact no_new_loop_end_loop hloop _

/-! ## Runs -/

/-- The loops a run starts. -/
theorem gathers_step (hstep : state.step (.gathers run) = some after) :
    after.loops.map LoopTask.kind = state.loops.map LoopTask.kind ++ [.listScan, .drip] ∧
      (Gathers state → Gathers after) := by
  obtain ⟨hrun, rfl⟩ := step_run_eq_some hstep
  refine ⟨by simp, fun h other => ?_⟩
  show (state.runs.set run .gathering)[other]? = some .gathering ↔ _
  rw [List.map_append, List.mem_append, ← h other, List.getElem?_set]
  have hlength := (List.getElem?_eq_some_iff.mp hrun).1
  split
  · rename_i hsame
    subst hsame
    exact iff_of_true (by simp) (Or.inr (by simp))
  · rename_i hother
    simp [Ne.symm hother]

theorem gathers_keeps {event : PrewarmEvent} (hstep : state.step event = some after)
    (h : Gathers state) : Gathers after := by
  by_cases hevent : ∀ run, event ≠ .gathers run
  · exact (no_new_loop_step hstep hevent).gathers h
  · simp only [not_forall, not_not] at hevent
    obtain ⟨run, rfl⟩ := hevent
    exact (gathers_step hstep).2 h

/-- No loop is active exactly when no run gathers and no loop is left over. -/
theorem no_loops_iff (h : Gathers state) :
    state.loops = [] ↔ StartsAlone state (.gathers run) := by
  constructor
  · intro hnone
    refine ⟨fun other hother => ?_, fun loop hloop => ?_⟩
    · have hmem := (h other).mp hother
      rw [hnone] at hmem
      cases hmem
    · rw [hnone] at hloop
      cases hloop
  · rintro ⟨hruns, howned⟩
    refine List.eq_nil_iff_forall_not_mem.mpr fun loop hloop => ?_
    obtain ⟨other, hother⟩ := Option.ne_none_iff_exists'.mp (howned loop hloop)
    exact hruns other ((h other).mpr (List.mem_map.mpr ⟨loop, hloop, hother⟩))

/-- One more loop of each kind is one too many unless there was none. -/
theorem one_pair_gathers (hstep : state.step (.gathers run) = some after) :
    OnePair after ↔ state.loops = [] := by
  have hkinds := (gathers_step hstep).1
  constructor
  · intro h
    refine List.eq_nil_iff_forall_not_mem.mpr fun loop hloop => ?_
    have hcount := h loop.kind
    have hold : 0 < (state.loops.map LoopTask.kind).count loop.kind :=
      List.count_pos_iff.mpr (List.mem_map.mpr ⟨loop, hloop, rfl⟩)
    have hnew : [LoopKind.listScan, .drip].count loop.kind = 1 := by
      cases loop.kind <;> rfl
    rw [hkinds, List.count_append, hnew] at hcount
    omega
  · intro hnone kind
    rw [hkinds, hnone]
    cases kind <;> decide

theorem one_pair_step {event : PrewarmEvent} (hstep : state.step event = some after)
    (hgathers : Gathers state) (h : OnePair state) : OnePair after ↔ StartsAlone state event := by
  by_cases hevent : ∀ run, event ≠ .gathers run
  · have hgood : StartsAlone state event := by
      cases event <;> first | trivial | exact absurd rfl (hevent _)
    refine iff_of_true (fun kind => ?_) hgood
    exact Nat.le_trans ((no_new_loop_step hstep hevent).kinds.count_le kind) (h kind)
  · simp only [not_forall, not_not] at hevent
    obtain ⟨run, rfl⟩ := hevent
    exact (one_pair_gathers hstep).trans (no_loops_iff hgathers)

/-- There is never more than one loop of a kind exactly when every run starts its loops while no
other gathers and no loop is left over. -/
theorem one_pair_iff (events : List PrewarmEvent) :
    Always step OnePair {} events ↔ Guarded step StartsAlone {} events :=
  always_iff_guarded (I := Gathers) (fun _ _ _ hstep h => gathers_keeps hstep h)
    (fun _ _ _ hstep hgathers h => one_pair_step hstep hgathers h)
    (fun run => by simp) (fun kind => Nat.zero_le _)

end PrewarmWorker

/-! ## A loop that raises while its sibling goes on -/

open PrewarmWorker in
/-- The drip loop raises, the scan loop goes on, and 60 seconds later there is a second one. -/
theorem second_scan_loop :
    ¬ Always step OnePair {}
      [.start, .begins 0, .gathers 0, .loopRaises 1, .resumes 0, .wakes 0, .gathers 0] := by
  intro h
  have hcount := h.last rfl .listScan
  exact absurd hcount (by decide)

end IsePortal
