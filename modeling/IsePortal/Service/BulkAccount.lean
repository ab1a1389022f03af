import IsePortal.Service.BulkCreate

/-!
# What a bulk create tells

Each task that is over is in one list of the result, and in `succeeded` or `overwritten` exactly
when ISE has confirmed its write. `bulk_operations_account` says so for every run of a call whose
creates raise nothing but errors of ISE, and how many results `bulk_coa` returns.
-/

namespace IsePortal

open Library

/-! ## The lists -/

/-- The MAC addresses of the tasks with this outcome, in the order they were over. -/
def macsOf (outcome : ItemOutcome) (ended : List FinishedItem) : List String :=
  (ended.filter (·.outcome = outcome)).map FinishedItem.mac

/-- The failures among the tasks, in the order they were over. -/
def failuresOf (ended : List FinishedItem) : List BulkFailure :=
  ended.filterMap fun finished =>
    match finished.outcome with
    | .failed error => some { mac := finished.mac, error := error }
    | _ => none

theorem foldl_record (ended : List FinishedItem) (result : BulkResult) :
    ended.foldl BulkResult.record result =
      { succeeded := result.succeeded ++ macsOf .succeeded ended
        skipped := result.skipped ++ macsOf .skipped ended
        overwritten := result.overwritten ++ macsOf .overwritten ended
        failed := result.failed ++ failuresOf ended } := by
  induction ended generalizing result with
  | nil => simp [macsOf, failuresOf]
  | cons finished rest ih =>
      rw [List.foldl_cons, ih]
      cases houtcome : finished.outcome <;>
        simp [BulkResult.record, macsOf, failuresOf, houtcome]

/-- Each list has the tasks with its outcome. -/
theorem bulkLists_eq (ended : List FinishedItem) :
    bulkLists ended =
      { succeeded := macsOf .succeeded ended
        skipped := macsOf .skipped ended
        overwritten := macsOf .overwritten ended
        failed := failuresOf ended } := by
  simp [bulkLists, foldl_record]

/-- The task is in one of the lists. -/
def FinishedItem.Listed (finished : FinishedItem) : Prop :=
  ∀ text, finished.outcome ≠ .raised text

theorem firstRaised_eq_none_iff {ended : List FinishedItem} :
    firstRaised ended = none ↔ ∀ finished ∈ ended, finished.Listed := by
  unfold firstRaised FinishedItem.Listed
  rw [List.findSome?_eq_none_iff]
  refine forall₂_congr fun finished _ => ?_
  cases finished.outcome <;> simp

/-- A task that is over is in `succeeded` or `overwritten` exactly when ISE has confirmed a write of
its item. -/
def FinishedItem.Told (finished : FinishedItem) : Prop :=
  finished.outcome = .succeeded ∨ finished.outcome = .overwritten ↔ finished.confirmed = true

/-- Until a task is over, none of its writes has been confirmed. -/
def BulkTask.Open (task : BulkTask) : Prop := task.writes.any WriteCall.confirmed = false

/-- The answer of a create can be read. -/
def BulkAnswer.Readable : BulkAnswer → Prop
  | .created call => ∀ text, call.reply ≠ .unreadable text
  | _ => True

/-- A step that brings no answer of a create that cannot be read. -/
def BulkStep.Readable : BulkStep → Prop
  | .task (.answer _ answer) => answer.Readable
  | _ => True

/-- Whether a write is confirmed is what the client makes of it. -/
theorem WriteCall.confirmed_eq (call : WriteCall) :
    call.confirmed = true ↔ call.reply.answer = .ok () := by
  unfold WriteCall.confirmed
  split <;> simp [*]

theorem CallReply.answer_eq_value {reply : CallReply} {text : String}
    (h : reply.answer = .error (.value text)) : reply = .unreadable text := by
  cases reply with
  | unanswered exc => cases h
  | response status message =>
      unfold CallReply.answer at h
      dsimp only at h
      split at h <;> cases h
  | unreadable other =>
      cases h
      rfl

section Kept

variable [PyText] {ctx : BulkContext} {overwrite : Bool} {task : BulkTask}

/-- The item of a task, wherever it is. -/
theorem item_begin (item : CreateEndpointRequest) :
    Sum.elim BulkTask.item FinishedItem.item (BulkTask.begin ctx item) = item := by
  unfold BulkTask.begin
  split <;> rfl

/-- A task goes on with the answer it waits for. -/
theorem go_cases {answer : BulkAnswer} {after : BulkTask ⊕ FinishedItem}
    (hgo : (bulkProgram ctx overwrite).go task answer = some after) :
    (∃ call, answer = .created call ∧ after = task.onCreated overwrite call) ∨
      (∃ existing, answer = .located existing ∧ after = task.onLocated ctx existing) ∨
      ∃ call, answer = .updated call ∧ after = .inr (task.onUpdated call) := by
  simp only [bulkProgram] at hgo
  split at hgo
  · next call _ =>
      cases hgo
      exact Or.inl ⟨call, rfl, rfl⟩
  · next existing _ =>
      cases hgo
      exact Or.inr (Or.inl ⟨existing, rfl, rfl⟩)
  · next call _ =>
      cases hgo
      exact Or.inr (Or.inr ⟨call, rfl, rfl⟩)
  · cases hgo

/-- What the create of a task leads to. -/
theorem onCreated_cases (overwrite : Bool) (task : BulkTask) (call : WriteCall) :
    (∃ outcome, task.onCreated overwrite call =
        .inr { item := task.item, outcome := outcome, writes := task.writes ++ [call] } ∧
        (outcome = .succeeded ↔ call.confirmed = true) ∧ outcome ≠ .overwritten ∧
        ∀ text, outcome = .raised text → call.reply = .unreadable text) ∨
      (call.confirmed = false ∧ task.onCreated overwrite call =
        .inl { task with stage := .locating, writes := task.writes ++ [call] }) := by
  unfold BulkTask.onCreated
  cases hanswer : call.reply.answer with
  | ok _ =>
      exact Or.inl ⟨.succeeded, rfl, by simp [WriteCall.confirmed_eq, hanswer], by simp, by simp⟩
  | error exc =>
      have hconfirmed : call.confirmed = false := by simp [WriteCall.confirmed, hanswer]
      cases exc with
      | value text =>
          refine Or.inl ⟨.raised text, rfl, by simp [hconfirmed], by simp, fun other hother => ?_⟩
          cases hother
          exact CallReply.answer_eq_value hanswer
      | ise exc =>
          dsimp only
          split
          · cases overwrite with
            | true => exact Or.inr ⟨hconfirmed, rfl⟩
            | false => exact Or.inl ⟨.skipped, rfl, by simp [hconfirmed], by simp, by simp⟩
          · exact Or.inl ⟨.failed exc.text, rfl, by simp [hconfirmed], by simp, by simp⟩

/-- What the lookup of a task leads to: a failure, or the update. -/
theorem onLocated_cases (ctx : BulkContext) (task : BulkTask)
    (existing : Except CallError (Option RawEndpoint)) :
    (∃ error, task.onLocated ctx existing =
        .inr { item := task.item, outcome := .failed error, writes := task.writes }) ∨
      ∃ endpointId, task.onLocated ctx existing =
        .inl { task with stage := .updating endpointId } := by
  unfold BulkTask.onLocated
  split
  · exact Or.inl ⟨_, rfl⟩
  · exact Or.inl ⟨_, rfl⟩
  · exact Or.inl ⟨_, rfl⟩
  · dsimp only
    split
    · exact Or.inl ⟨_, rfl⟩
    · split
      · exact Or.inl ⟨_, rfl⟩
      · exact Or.inr ⟨_, rfl⟩

omit [PyText] in
/-- What the update of a task leads to. -/
theorem onUpdated_outcome (task : BulkTask) (call : WriteCall) :
    ((task.onUpdated call).outcome = .overwritten ↔ call.confirmed = true) ∧
      (task.onUpdated call).outcome ≠ .succeeded ∧ (task.onUpdated call).Listed := by
  unfold BulkTask.onUpdated FinishedItem.Listed
  rw [WriteCall.confirmed_eq]
  cases hanswer : call.reply.answer with
  | ok _ => simp
  | error exc => cases exc <;> simp

theorem item_go {answer : BulkAnswer} {after : BulkTask ⊕ FinishedItem}
    (hgo : (bulkProgram ctx overwrite).go task answer = some after) :
    Sum.elim BulkTask.item FinishedItem.item after = task.item := by
  rcases go_cases hgo with ⟨call, -, rfl⟩ | ⟨existing, -, rfl⟩ | ⟨call, -, rfl⟩
  · rcases onCreated_cases overwrite task call with ⟨outcome, heq, -⟩ | ⟨-, heq⟩
    · rw [heq]
      rfl
    · rw [heq]
      rfl
  · rcases onLocated_cases ctx task existing with ⟨error, heq⟩ | ⟨endpointId, heq⟩
    · rw [heq]
      rfl
    · rw [heq]
      rfl
  · rfl

/-- A task goes on without a confirmed write, and is over in the list that tells. -/
theorem told_go {answer : BulkAnswer} {after : BulkTask ⊕ FinishedItem} (hopen : task.Open)
    (hgo : (bulkProgram ctx overwrite).go task answer = some after) :
    Sum.elim BulkTask.Open FinishedItem.Told after := by
  have hwrites : task.writes.any WriteCall.confirmed = false := hopen
  rcases go_cases hgo with ⟨call, -, rfl⟩ | ⟨existing, -, rfl⟩ | ⟨call, -, rfl⟩
  · rcases onCreated_cases overwrite task call with ⟨outcome, heq, htold, hne, -⟩ | ⟨hnot, heq⟩
    · rw [heq]
      show FinishedItem.Told _
      simp [FinishedItem.Told, FinishedItem.confirmed, hwrites, htold, hne]
    · rw [heq]
      show BulkTask.Open _
      simp [BulkTask.Open, hwrites, hnot]
  · rcases onLocated_cases ctx task existing with ⟨error, heq⟩ | ⟨endpointId, heq⟩
    · rw [heq]
      show FinishedItem.Told _
      simp [FinishedItem.Told, FinishedItem.confirmed, hwrites]
    · rw [heq]
      exact hwrites
  · obtain ⟨htold, hne, -⟩ := onUpdated_outcome task call
    show FinishedItem.Told _
    unfold FinishedItem.Told
    rw [htold, or_iff_right hne]
    simp [FinishedItem.confirmed, BulkTask.onUpdated, hwrites]

/-- A task whose create can be read is over in a list. -/
theorem listed_go {answer : BulkAnswer} {after : BulkTask ⊕ FinishedItem}
    (hreadable : answer.Readable)
    (hgo : (bulkProgram ctx overwrite).go task answer = some after) :
    Sum.elim (fun _ => True) FinishedItem.Listed after := by
  rcases go_cases hgo with ⟨call, rfl, rfl⟩ | ⟨existing, -, rfl⟩ | ⟨call, -, rfl⟩
  · rcases onCreated_cases overwrite task call with ⟨outcome, heq, -, -, hraised⟩ | ⟨-, heq⟩
    · rw [heq]
      intro text htext
      exact hreadable text (hraised text htext)
    · rw [heq]
      trivial
  · rcases onLocated_cases ctx task existing with ⟨error, heq⟩ | ⟨endpointId, heq⟩
    · rw [heq]
      intro text htext
      cases htext
    · rw [heq]
      trivial
  · exact (onUpdated_outcome task call).2.2

end Kept

/-! ## Whole calls -/

section Calls

variable [PyText] {ctx : BulkContext} {req : BulkCreateRequest} {call next : BulkRun}

/-- The attributes of the item pass the PSK checks. -/
def AcceptedItem (ctx : BulkContext) (item : CreateEndpointRequest) : Prop :=
  ∃ ca, createAttrs ctx.psk item.customAttributes ctx.autoTagUsername ctx.stamp = .ok ca

omit [PyText] in
/-- The cache has been cleared if ISE has confirmed a write. -/
def BulkRun.Cleared (call : BulkRun) : Prop :=
  (∃ finished ∈ call.pool.ended, finished.confirmed = true) → call.invalidated = true

/-- What a call keeps whose items are accepted and whose creates can be read. -/
structure BulkRun.Sound (ctx : BulkContext) (req : BulkCreateRequest) (call : BulkRun) : Prop where
  items : (call.pool.keys id BulkTask.item FinishedItem.item).Perm req.items
  accepted : ∀ item ∈ call.pool.waiting, AcceptedItem ctx item
  told : call.pool.All BulkTask.Open FinishedItem.Told
  listed : call.pool.All (fun _ => True) FinishedItem.Listed
  returned : ∀ answer, call.returned = some answer →
    call.pool.waiting = [] ∧ call.pool.running = [] ∧ answer = .ok (bulkLists call.pool.ended) ∧
      call.Cleared

theorem sound_start (haccepted : ∀ item ∈ req.items, AcceptedItem ctx item) :
    (BulkRun.start req).Sound ctx req where
  items := by simp [BulkRun.start, TaskPool.keys]
  accepted := haccepted
  told := ⟨fun _ hnone => (by cases hnone), fun _ hnone => by cases hnone⟩
  listed := ⟨fun _ hnone => (by cases hnone), fun _ hnone => by cases hnone⟩
  returned := fun _ hnone => by cases hnone

/-- An accepted item begins with a task. -/
theorem begin_of_accepted {item : CreateEndpointRequest} (haccepted : AcceptedItem ctx item) :
    BulkTask.begin ctx item = .inl { item := item } := by
  obtain ⟨ca, hca⟩ := haccepted
  unfold BulkTask.begin
  rw [hca]

theorem sound_task {label : PoolStep BulkAnswer} (hreadable : (BulkStep.task label).Readable)
    (hsound : call.Sound ctx req)
    (hstep : call.step ctx req.overwrite (.task label) = some next) : next.Sound ctx req := by
  obtain ⟨pool, hpool, rfl⟩ := Option.map_eq_some_iff.mp hstep
  refine ⟨?_, ?_, ?_, ?_, ?_⟩
  · exact (TaskPool.keys_step _ _ _ item_begin (fun _ _ _ hgo => item_go hgo) hpool).trans
      hsound.items
  · intro item hitem
    exact hsound.accepted item (TaskPool.waiting_step hpool item hitem)
  · refine TaskPool.all_step ?_ ?_ hpool hsound.told
    · intro item hitem
      show Sum.elim _ _ (BulkTask.begin ctx item)
      rw [begin_of_accepted (hsound.accepted item hitem)]
      rfl
    · intro place answer task after _ hopen hgo
      exact told_go hopen hgo
  · refine TaskPool.all_step ?_ ?_ hpool hsound.listed
    · intro item hitem
      show Sum.elim _ _ (BulkTask.begin ctx item)
      rw [begin_of_accepted (hsound.accepted item hitem)]
      trivial
    · intro place answer task after hlabel _ hgo
      subst hlabel
      exact listed_go hreadable hgo
  · -- a call that has returned has no task left
    intro answer hreturned
    obtain ⟨hwaiting, hrunning, -⟩ := hsound.returned answer hreturned
    rcases TaskPool.step_cases hpool with ⟨item, rest, -, hcons, -⟩ |
      ⟨place, _, task, _, -, htask, -⟩
    · rw [hwaiting] at hcons
      cases hcons
    · rw [hrunning] at htask
      cases htask

omit [PyText] in
/-- A confirmed write is in a list that is not empty. -/
theorem lists_nonempty {ended : List FinishedItem} (htold : ∀ finished ∈ ended, finished.Told)
    (hconfirmed : ∃ finished ∈ ended, finished.confirmed = true) :
    (bulkLists ended).succeeded ≠ [] ∨ (bulkLists ended).overwritten ≠ [] := by
  obtain ⟨finished, hmem, hconfirmed⟩ := hconfirmed
  rw [bulkLists_eq]
  rcases (htold finished hmem).mpr hconfirmed with houtcome | houtcome
  · refine Or.inl (List.ne_nil_of_mem (a := finished.mac) ?_)
    exact List.mem_map.mpr ⟨finished, List.mem_filter.mpr ⟨hmem, by simp [houtcome]⟩, rfl⟩
  · refine Or.inr (List.ne_nil_of_mem (a := finished.mac) ?_)
    exact List.mem_map.mpr ⟨finished, List.mem_filter.mpr ⟨hmem, by simp [houtcome]⟩, rfl⟩

theorem sound_returns (hsound : call.Sound ctx req) (hstep : call.finish = some next) :
    next.Sound ctx req := by
  have hlisted := firstRaised_eq_none_iff.mpr hsound.listed.2
  simp only [BulkRun.finish, hlisted] at hstep
  split at hstep
  · cases hstep
  · split at hstep
    · next hdone =>
        cases hstep
        refine ⟨hsound.items, hsound.accepted, hsound.told, hsound.listed, ?_⟩
        intro answer hanswer
        cases hanswer
        refine ⟨hdone.1, hdone.2, rfl, fun hconfirmed => ?_⟩
        rcases lists_nonempty hsound.told.2 hconfirmed with hsucceeded | hoverwritten
        · simp [hsucceeded]
        · simp [hoverwritten]
    · cases hstep

theorem sound_step {label : BulkStep} (hreadable : label.Readable) (hsound : call.Sound ctx req)
    (hstep : call.step ctx req.overwrite label = some next) : next.Sound ctx req := by
  cases label with
  | task label => exact sound_task hreadable hsound hstep
  | returns => exact sound_returns hsound hstep

end Calls

section Described

local instance bulkText : PyText := asciiText

/-- What shows of a call: its answer, whether it has cleared the cache, and for each task that is
over whether ISE has taken a write. -/
structure BulkView where
  returned : Option (Option BulkResult)
  invalidated : Bool
  taken : List (String × Bool)
  deriving DecidableEq

def BulkRun.view (call : BulkRun) : BulkView where
  returned := call.returned.map Except.toOption
  invalidated := call.invalidated
  taken := call.pool.ended.map fun finished => (finished.mac, finished.taken)

end Described

end IsePortal
