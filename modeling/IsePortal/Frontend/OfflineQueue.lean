import IsePortal.Library.Dict
import IsePortal.Library.Runs

/-!
# The queue of offline registrations

`frontend/js/offline_queue.js` over `request` of `frontend/js/api.js`. A registration made without a
connection waits in `localStorage`; `flushAll` sends what it found there, item after item, and reads
off the text of an error what became of it. What runs between two `await`s is one step, so flushes,
enqueues and answers may come in any order. `queue_kept_iff`: as long as no item is sent twice, the
queue keeps what it has to keep exactly where every HTTP error rejects the payload.
-/

namespace IsePortal.Frontend

open Library

/-! ## What a request comes to -/

/-- `/^\d{3}:/.test(message)` -/
def statusPrefix (message : String) : Bool :=
  match message.toList with
  | first :: second :: third :: ':' :: _ => first.isDigit && second.isDigit && third.isDigit
  | _ => false

/-- What `fetch` comes to: it rejects with a text of the browser, which does not begin with a
status, or there is an answer with a status and the detail of its body. -/
inductive Answer where
  | failure (message : String) (unnumbered : statusPrefix message = false)
  | response (status : Nat) (detail : String) (three : 200 ≤ status ∧ status < 600)

/-- `request` on `POST /endpoints`: the text of the error it throws. -/
def request : Answer → Except String Unit
  | .failure message _ => .error message
  | .response status detail _ =>
      if status = 401 then .error "401: ikke logget ind"
      else if 200 ≤ status ∧ status < 300 then .ok ()
      else .error (toString status ++ ": " ++ detail)

/-- `isNetwork` of `flushAll` -/
def isNetwork (message : String) : Bool := !statusPrefix message

/-! ## The queue and its flushes -/

variable {Payload : Type*}

/-- An item of `localStorage`. The id stands for the time and the six random characters of
`enqueue`, which no other item has. -/
structure QueueItem (Payload : Type*) where
  id : Nat
  payload : Payload

/-- A `flushAll` that waits for `createEndpoint`: the item it has sent and the rest of the items it
found. -/
structure FlushRun (Payload : Type*) where
  current : QueueItem Payload
  rest : List (QueueItem Payload)
  sent : Nat := 0
  failed : Nat := 0

/-- What `flushAll` returns. -/
structure FlushResult where
  sent : Nat
  failed : Nat
  kept : Nat
  deriving DecidableEq

/-- The queue and the flushes that wait. Beside them: the items created so far, one for each
successful call, and the statuses of the errors. -/
structure OfflineQueue (Payload : Type*) where
  queue : List (QueueItem Payload) := []
  nextId : Nat := 0
  runs : Dict Nat (FlushRun Payload) := Dict.empty
  results : List FlushResult := []
  created : List Nat := []
  errors : List (Nat × Nat) := []

/-- What happens: a registration is queued, a flush begins (`online`, or a click), or an answer
comes for the item a flush has sent. -/
inductive QueueStep (Payload : Type*) where
  | enqueue (payload : Payload)
  | flushAll (run : Nat)
  | answer (run : Nat) (answer : Answer)

namespace OfflineQueue

/-- `enqueue` -/
def enqueue (state : OfflineQueue Payload) (payload : Payload) : OfflineQueue Payload :=
  { state with
    queue := state.queue ++ [{ id := state.nextId, payload }]
    nextId := state.nextId + 1 }

/-- `removeById` -/
def removeById (state : OfflineQueue Payload) (id : Nat) : OfflineQueue Payload :=
  { state with queue := state.queue.filter (·.id ≠ id) }

/-- The loop of `flushAll` goes on with the items that are left: it sends the next one, or
returns. -/
def goOn (state : OfflineQueue Payload) (run : Nat) (items : List (QueueItem Payload))
    (sent failed : Nat) : OfflineQueue Payload :=
  match items with
  | [] =>
      { state with
        runs := state.runs.erase run
        results := state.results ++ [{ sent, failed, kept := state.queue.length }] }
  | current :: rest => { state with runs := state.runs.set run { current, rest, sent, failed } }

/-- The answer to the item a flush has sent. -/
def settle (state : OfflineQueue Payload) (run : Nat) (flush : FlushRun Payload)
    (answer : Answer) : OfflineQueue Payload :=
  match request answer with
  | .ok () =>
      let removed := state.removeById flush.current.id
      { removed with created := removed.created ++ [flush.current.id] }.goOn run flush.rest
        (flush.sent + 1) flush.failed
  | .error message =>
      -- only the text of the error tells a missing connection from an error of the server
      if isNetwork message then state.goOn run [] flush.sent flush.failed
      else
        let removed := state.removeById flush.current.id
        let status := match answer with
          | .response status _ _ => [(flush.current.id, status)]
          | .failure _ _ => []
        { removed with errors := removed.errors ++ status }.goOn run flush.rest flush.sent
          (flush.failed + 1)

/-- One step; `none` is an answer nobody waits for, or a flush under the name of a waiting one. -/
def step (state : OfflineQueue Payload) : QueueStep Payload → Option (OfflineQueue Payload)
  | .enqueue payload => some (state.enqueue payload)
  | .flushAll run =>
      match state.runs.get? run with
      | some _ => none
      | none => some (state.goOn run state.queue 0 0)
  | .answer run answer => (state.runs.get? run).map fun flush => state.settle run flush answer

/-! ## What the queue has to keep -/

/-- An item is in the queue. -/
def Queued (state : OfflineQueue Payload) (id : Nat) : Prop := ∃ item ∈ state.queue, item.id = id

/-- The status rejects the payload: a 4xx other than 401. -/
def Rejects (status : Nat) : Prop := 400 ≤ status ∧ status < 500 ∧ status ≠ 401

instance (status : Nat) : Decidable (Rejects status) :=
  inferInstanceAs (Decidable (_ ∧ _ ∧ _))

/-- No item was created twice, and every item that was ever queued still is, was created, or was
rejected. -/
structure Kept (state : OfflineQueue Payload) : Prop where
  once : state.created.Nodup
  leaves : ∀ id < state.nextId, state.Queued id ∨ id ∈ state.created ∨
    ∃ status, (id, status) ∈ state.errors ∧ Rejects status

/-- The item another flush waits for. -/
def InFlight (state : OfflineQueue Payload) (run id : Nat) : Prop :=
  ∃ flush, state.runs.get? run = some flush ∧ flush.current.id = id

/-- The connection holds and the loop goes on. -/
def GoesOn (answer : Answer) : Prop :=
  match answer with
  | .failure .. => False
  | .response .. => True

/-- An item that is sent is in the queue, and no other flush waits for it. -/
def SendsOnce (state : OfflineQueue Payload) : QueueStep Payload → Prop
  | .enqueue _ => True
  | .flushAll _ => ∀ first, state.queue.head? = some first → ∀ run, ¬ state.InFlight run first.id
  | .answer run answer => GoesOn answer → ∀ flush, state.runs.get? run = some flush →
      ∀ next, flush.rest.head? = some next →
        state.Queued next.id ∧ next.id ≠ flush.current.id ∧
          ∀ other, other ≠ run → ¬ state.InFlight other next.id

/-- An error of the server rejects the payload. -/
def RejectsOnly (_ : OfflineQueue Payload) : QueueStep Payload → Prop
  | .enqueue _ | .flushAll _ => True
  | .answer _ (.failure ..) => True
  | .answer _ (.response status ..) => status < 300 ∨ Rejects status

end OfflineQueue

/-! ## The text of an error -/

/-- The digits of a status. -/
def threeDigits (status : Nat) : Bool :=
  match (toString status).toList with
  | [first, second, third] => first.isDigit && second.isDigit && third.isDigit
  | _ => false

theorem threeDigits_status : ((List.range' 200 400).all threeDigits) = true := by decide +kernel

/-- The text of an HTTP error begins with its status. -/
theorem statusPrefix_status {status : Nat} (three : 200 ≤ status ∧ status < 600)
    (detail : String) : statusPrefix (toString status ++ ": " ++ detail) = true := by
  have hdigits : threeDigits status = true := by
    refine List.all_eq_true.mp threeDigits_status status (List.mem_range'_1.mpr ?_)
    omega
  have htext : (toString status ++ ": " ++ detail).toList =
      (toString status).toList ++ ':' :: ' ' :: detail.toList := by
    simp [String.toList_append]
  unfold threeDigits at hdigits
  unfold statusPrefix
  rw [htext]
  split at hdigits
  · next first second third hlist =>
      rw [hlist]
      exact hdigits
  · cases hdigits

/-- What `flushAll` makes of an answer: the call was successful, the status is that of an error, or
there was no connection. -/
theorem request_cases (answer : Answer) :
    (request answer = .ok () ∧ ∃ status detail three, status < 300 ∧
      answer = .response status detail three) ∨
    (∃ message, request answer = .error message ∧ isNetwork message = false ∧
      ∃ status detail three, 300 ≤ status ∧ answer = .response status detail three) ∨
    ∃ message, request answer = .error message ∧ isNetwork message = true ∧
      ∃ unnumbered, answer = .failure message unnumbered := by
  cases answer with
  | failure message unnumbered =>
      exact Or.inr (Or.inr ⟨message, rfl, by rw [isNetwork, unnumbered]; rfl, unnumbered, rfl⟩)
  | response status detail three =>
      by_cases hunauthorized : status = 401
      · refine Or.inr (Or.inl ⟨_, if_pos hunauthorized, by decide, status, detail, three, ?_, rfl⟩)
        omega
      · by_cases hok : 200 ≤ status ∧ status < 300
        · refine Or.inl ⟨?_, status, detail, three, hok.2, rfl⟩
          rw [request, if_neg hunauthorized, if_pos hok]
        · refine Or.inr (Or.inl ⟨toString status ++ ": " ++ detail, ?_, ?_, status, detail, three,
            by omega, rfl⟩)
          · rw [request, if_neg hunauthorized, if_neg hok]
          · rw [isNetwork, statusPrefix_status three]
            rfl

/-! ## One step -/

namespace OfflineQueue

variable {state : OfflineQueue Payload} {run : Nat} {flush : FlushRun Payload}

/-- The item is removed, and what became of it is noted. -/
def answered (state : OfflineQueue Payload) (id : Nat) (created : List Nat)
    (errors : List (Nat × Nat)) : OfflineQueue Payload :=
  { state.removeById id with
    created := state.created ++ created, errors := state.errors ++ errors }

/-- What an answer does. -/
theorem settle_cases (state : OfflineQueue Payload) (run : Nat) (flush : FlushRun Payload)
    (answer : Answer) :
    (∃ status detail three, answer = .response status detail three ∧ status < 300 ∧
      state.settle run flush answer =
        (state.answered flush.current.id [flush.current.id] []).goOn run flush.rest
          (flush.sent + 1) flush.failed) ∨
    (∃ status detail three, answer = .response status detail three ∧ 300 ≤ status ∧
      state.settle run flush answer =
        (state.answered flush.current.id [] [(flush.current.id, status)]).goOn run flush.rest
          flush.sent (flush.failed + 1)) ∨
    ∃ message unnumbered, answer = .failure message unnumbered ∧
      state.settle run flush answer = state.goOn run [] flush.sent flush.failed := by
  obtain ⟨hok, status, detail, three, hsmall, rfl⟩ | ⟨message, herror, hnetwork, status, detail,
    three, hlarge, rfl⟩ | ⟨message, herror, hnetwork, unnumbered, rfl⟩ := request_cases answer
  · refine Or.inl ⟨status, detail, three, rfl, hsmall, ?_⟩
    simp only [settle, hok, answered, removeById, List.append_nil]
  · refine Or.inr (Or.inl ⟨status, detail, three, rfl, hlarge, ?_⟩)
    simp [settle, herror, hnetwork, answered, removeById]
  · refine Or.inr (Or.inr ⟨message, unnumbered, rfl, ?_⟩)
    simp [settle, herror, hnetwork]

section GoOn

variable (state run) (items : List (QueueItem Payload)) (sent failed : Nat)

@[simp] theorem queue_goOn : (state.goOn run items sent failed).queue = state.queue := by
  cases items <;> rfl

@[simp] theorem nextId_goOn : (state.goOn run items sent failed).nextId = state.nextId := by
  cases items <;> rfl

@[simp] theorem created_goOn : (state.goOn run items sent failed).created = state.created := by
  cases items <;> rfl

@[simp] theorem errors_goOn : (state.goOn run items sent failed).errors = state.errors := by
  cases items <;> rfl

/-- The flush waits for the next item, and the others for theirs. -/
theorem inFlight_goOn (other id : Nat) :
    (state.goOn run items sent failed).InFlight other id ↔
      (other = run ∧ ∃ first, items.head? = some first ∧ first.id = id) ∨
        (other ≠ run ∧ state.InFlight other id) := by
  cases items with
  | nil =>
      simp only [InFlight, goOn, Dict.get?_erase, List.head?_nil]
      by_cases hother : other = run <;> simp [hother]
  | cons current rest =>
      simp only [InFlight, goOn, Dict.get?_set, List.head?_cons]
      by_cases hother : other = run <;> simp [hother]

end GoOn

theorem queued_goOn (items : List (QueueItem Payload)) (sent failed id : Nat) :
    (state.goOn run items sent failed).Queued id ↔ state.Queued id := by
  unfold Queued
  rw [queue_goOn]

/-- Without an item the others are still queued. -/
theorem queued_answered (removed : Nat) (created : List Nat) (errors : List (Nat × Nat))
    (id : Nat) :
    (state.answered removed created errors).Queued id ↔ id ≠ removed ∧ state.Queued id := by
  simp only [Queued, answered, removeById, List.mem_filter, decide_eq_true_eq]
  constructor
  · rintro ⟨item, ⟨hitem, hother⟩, rfl⟩
    exact ⟨hother, item, hitem, rfl⟩
  · rintro ⟨hother, item, hitem, rfl⟩
    exact ⟨item, ⟨hitem, hother⟩, rfl⟩

/-! ## While no item is sent twice -/

/-- What holds of the items besides the flushes: an item in the queue has had no answer but that of
a missing connection. -/
structure Unanswered (state : OfflineQueue Payload) : Prop where
  queued_lt : ∀ id, state.Queued id → id < state.nextId
  created_lt : ∀ id ∈ state.created, id < state.nextId
  errors_lt : ∀ error ∈ state.errors, error.1 < state.nextId
  not_created : ∀ id, state.Queued id → id ∉ state.created
  no_error : ∀ id, state.Queued id → ∀ status, (id, status) ∉ state.errors

/-- The flushes wait for different items, which are in the queue. -/
structure Flushing (state : OfflineQueue Payload) : Prop extends Unanswered state where
  waiting : ∀ run id, state.InFlight run id → state.Queued id
  apart : ∀ run other id, state.InFlight run id → state.InFlight other id → run = other

theorem flushing_start : Flushing ({} : OfflineQueue Payload) where
  queued_lt _ h := by
    obtain ⟨item, hitem, -⟩ := h
    cases hitem
  created_lt _ h := nomatch h
  errors_lt _ h := nomatch h
  not_created _ _ h := nomatch h
  no_error _ _ _ h := nomatch h
  waiting _ _ h := by
    obtain ⟨flush, hflush, -⟩ := h
    cases hflush
  apart _ _ _ h := by
    obtain ⟨flush, hflush, -⟩ := h
    cases hflush

/-- A new item has an id nothing has been said of. -/
theorem Flushing.enqueue (h : state.Flushing) (payload : Payload) :
    (state.enqueue payload).Flushing := by
  have hqueued : ∀ id, (state.enqueue payload).Queued id ↔
      state.Queued id ∨ id = state.nextId := by
    intro id
    simp only [Queued, OfflineQueue.enqueue, List.mem_append, List.mem_singleton, or_and_right,
      exists_or, exists_eq_left]
    exact or_congr_right eq_comm
  refine ⟨⟨?_, ?_, ?_, ?_, ?_⟩, ?_, h.apart⟩
  · intro id hid
    show id < state.nextId + 1
    obtain hold | rfl := (hqueued id).mp hid
    · exact Nat.lt_succ_of_lt (h.queued_lt id hold)
    · exact Nat.lt_succ_self _
  · exact fun id hid => Nat.lt_succ_of_lt (h.created_lt id hid)
  · exact fun error herror => Nat.lt_succ_of_lt (h.errors_lt error herror)
  · intro id hid hcreated
    obtain hold | rfl := (hqueued id).mp hid
    · exact h.not_created id hold hcreated
    · exact Nat.lt_irrefl _ (h.created_lt _ hcreated)
  · intro id hid status herror
    obtain hold | rfl := (hqueued id).mp hid
    · exact h.no_error id hold status herror
    · exact Nat.lt_irrefl _ (h.errors_lt _ herror)
  · exact fun run id hwaiting => (hqueued id).mpr (Or.inl (h.waiting run id hwaiting))

/-- A flush goes on with an item of the queue no other flush waits for. -/
theorem flushing_goOn (hunanswered : state.Unanswered)
    (hwaiting : ∀ other id, other ≠ run → state.InFlight other id → state.Queued id)
    (hapart : ∀ run other id, state.InFlight run id → state.InFlight other id → run = other)
    {items : List (QueueItem Payload)}
    (hfirst : ∀ first, items.head? = some first →
      state.Queued first.id ∧ ∀ other, other ≠ run → ¬ state.InFlight other first.id)
    (sent failed : Nat) : (state.goOn run items sent failed).Flushing := by
  obtain ⟨hqueued, hcreated, herrors, hnot, hno⟩ := hunanswered
  refine ⟨⟨?_, ?_, ?_, ?_, ?_⟩, ?_, ?_⟩
  · intro id
    rw [queued_goOn, nextId_goOn]
    exact hqueued id
  · rw [created_goOn, nextId_goOn]
    exact hcreated
  · rw [errors_goOn, nextId_goOn]
    exact herrors
  · intro id
    rw [queued_goOn, created_goOn]
    exact hnot id
  · intro id
    rw [queued_goOn, errors_goOn]
    exact hno id
  · intro other id
    rw [inFlight_goOn, queued_goOn]
    rintro (⟨rfl, first, hitems, rfl⟩ | ⟨hother, hflight⟩)
    · exact (hfirst first hitems).1
    · exact hwaiting other id hother hflight
  · intro one other id
    rw [inFlight_goOn, inFlight_goOn]
    rintro (⟨rfl, first, hitems, rfl⟩ | ⟨hone, hflight⟩) (⟨rfl, second, hsecond, hid⟩ |
      ⟨hother, hflight'⟩)
    · rfl
    · exact absurd hflight' ((hfirst first hitems).2 other hother)
    · rw [← hid] at hflight
      exact absurd hflight ((hfirst second hsecond).2 one hone)
    · exact hapart one other id hflight hflight'

/-- What is noted of the item a flush waits for. -/
theorem Flushing.answered (h : state.Flushing) {id : Nat} (hid : state.InFlight run id)
    (created : List Nat) (errors : List (Nat × Nat)) (hcreated : ∀ other ∈ created, other = id)
    (herrors : ∀ error ∈ errors, error.1 = id) :
    (state.answered id created errors).Unanswered ∧
      (∀ other waiting, other ≠ run → state.InFlight other waiting →
        (state.answered id created errors).Queued waiting) := by
  have hlt : id < state.nextId := h.queued_lt id (h.waiting run id hid)
  refine ⟨⟨?_, ?_, ?_, ?_, ?_⟩, ?_⟩
  · intro other hother
    rw [queued_answered] at hother
    exact h.queued_lt other hother.2
  · intro other hother
    obtain hold | hnew := List.mem_append.mp hother
    · exact h.created_lt other hold
    · rw [hcreated other hnew]
      exact hlt
  · intro error herror
    obtain hold | hnew := List.mem_append.mp herror
    · exact h.errors_lt error hold
    · rw [herrors error hnew]
      exact hlt
  · intro other hother hmem
    rw [queued_answered] at hother
    obtain hold | hnew := List.mem_append.mp hmem
    · exact h.not_created other hother.2 hold
    · exact hother.1 (hcreated other hnew)
  · intro other hother status hmem
    rw [queued_answered] at hother
    obtain hold | hnew := List.mem_append.mp hmem
    · exact h.no_error other hother.2 status hold
    · exact hother.1 (herrors _ hnew)
  · intro other waiting hother hwaiting
    rw [queued_answered]
    refine ⟨?_, h.waiting other waiting hwaiting⟩
    rintro rfl
    exact hother (h.apart other run waiting hwaiting hid)

/-- A step that sends no item twice keeps the flushes apart. -/
theorem flushing_step {next : OfflineQueue Payload} {label : QueueStep Payload}
    (hstep : state.step label = some next) (hsends : state.SendsOnce label)
    (h : state.Flushing) : next.Flushing := by
  cases label with
  | enqueue payload =>
      cases hstep
      exact h.enqueue payload
  | flushAll run =>
      simp only [step] at hstep
      cases hrun : state.runs.get? run with
      | some flush => simp [hrun] at hstep
      | none =>
          rw [hrun] at hstep
          cases hstep
          refine flushing_goOn h.toUnanswered (fun other id _ => h.waiting other id) h.apart ?_ 0 0
          intro first hfirst
          exact ⟨⟨first, List.mem_of_head? hfirst, rfl⟩, fun other _ => hsends first hfirst other⟩
  | answer run answer =>
      obtain ⟨flush, hflush, rfl⟩ := Option.map_eq_some_iff.mp hstep
      have hcurrent : state.InFlight run flush.current.id := ⟨flush, hflush, rfl⟩
      have hnext : GoesOn answer → ∀ first, flush.rest.head? = some first →
          first.id ≠ flush.current.id ∧ state.Queued first.id ∧
            ∀ other, other ≠ run → ¬ state.InFlight other first.id := by
        intro hgoes first hfirst
        obtain ⟨hqueued, hother, hflight⟩ := hsends hgoes flush hflush first hfirst
        exact ⟨hother, hqueued, hflight⟩
      obtain ⟨status, detail, three, rfl, -, heq⟩ | ⟨status, detail, three, rfl, -, heq⟩ |
        ⟨message, unnumbered, rfl, heq⟩ := settle_cases state run flush answer
      · obtain ⟨hunanswered, hwaiting⟩ := h.answered hcurrent [flush.current.id] []
          (by simp) (by simp)
        rw [heq]
        refine flushing_goOn hunanswered hwaiting h.apart (fun first hfirst => ?_) _ _
        obtain ⟨hother, hqueued, hflight⟩ := hnext trivial first hfirst
        exact ⟨(queued_answered ..).mpr ⟨hother, hqueued⟩, hflight⟩
      · obtain ⟨hunanswered, hwaiting⟩ := h.answered hcurrent []
          [(flush.current.id, status)] (by simp) (by simp)
        rw [heq]
        refine flushing_goOn hunanswered hwaiting h.apart (fun first hfirst => ?_) _ _
        obtain ⟨hother, hqueued, hflight⟩ := hnext trivial first hfirst
        exact ⟨(queued_answered ..).mpr ⟨hother, hqueued⟩, hflight⟩
      · rw [heq]
        refine flushing_goOn h.toUnanswered (fun other id _ => h.waiting other id) h.apart ?_ _ _
        intro first hfirst
        cases hfirst

theorem kept_goOn (items : List (QueueItem Payload)) (sent failed : Nat) :
    (state.goOn run items sent failed).Kept ↔ state.Kept := by
  constructor
  · rintro ⟨honce, hleaves⟩
    rw [created_goOn] at honce
    refine ⟨honce, fun id hid => ?_⟩
    have hid' := hleaves id (by rwa [nextId_goOn])
    rwa [queued_goOn, created_goOn, errors_goOn] at hid'
  · rintro ⟨honce, hleaves⟩
    refine ⟨by rwa [created_goOn], fun id hid => ?_⟩
    rw [queued_goOn, created_goOn, errors_goOn]
    exact hleaves id (by rwa [nextId_goOn] at hid)

/-- An item that is created leaves the queue for the right reason. -/
theorem kept_created {id : Nat} (h : state.Kept) (hnew : id ∉ state.created) :
    (state.answered id [id] []).Kept := by
  refine ⟨?_, fun other hother => ?_⟩
  · refine List.nodup_append.mpr ⟨h.once, List.nodup_singleton id, ?_⟩
    rintro one hone _ hid rfl
    rw [List.mem_singleton.mp hid] at hone
    exact hnew hone
  · rw [queued_answered]
    by_cases hsame : other = id
    · exact Or.inr (Or.inl (List.mem_append_right _ (by simp [hsame])))
    · obtain hqueued | hcreated | ⟨status, herror, hrejects⟩ := h.leaves other hother
      · exact Or.inl ⟨hsame, hqueued⟩
      · exact Or.inr (Or.inl (List.mem_append_left _ hcreated))
      · exact Or.inr (Or.inr ⟨status, List.mem_append_left _ herror, hrejects⟩)

/-- An item that is removed after an error leaves it for the right reason exactly when the error
rejects the payload. -/
theorem kept_error_iff {id status : Nat} (hunanswered : state.Unanswered) (hid : state.Queued id)
    (h : state.Kept) : (state.answered id [] [(id, status)]).Kept ↔ Rejects status := by
  constructor
  · rintro ⟨-, hleaves⟩
    obtain hqueued | hcreated | ⟨other, herror, hrejects⟩ :=
      hleaves id (hunanswered.queued_lt id hid)
    · rw [queued_answered] at hqueued
      exact absurd rfl hqueued.1
    · have hcreated : id ∈ state.created := by simpa [answered] using hcreated
      exact absurd hcreated (hunanswered.not_created id hid)
    · obtain hold | hnew := List.mem_append.mp herror
      · exact absurd hold (hunanswered.no_error id hid other)
      · cases List.mem_singleton.mp hnew
        exact hrejects
  · intro hrejects
    refine ⟨by simpa [answered] using h.once, fun other hother => ?_⟩
    rw [queued_answered]
    by_cases hsame : other = id
    · subst hsame
      exact Or.inr (Or.inr ⟨status, List.mem_append_right _ (List.mem_singleton_self _), hrejects⟩)
    · obtain hqueued | hcreated | ⟨old, herror, hold⟩ := h.leaves other hother
      · exact Or.inl ⟨hsame, hqueued⟩
      · exact Or.inr (Or.inl (List.mem_append_left _ hcreated))
      · exact Or.inr (Or.inr ⟨old, List.mem_append_left _ herror, hold⟩)

/-- One step keeps what it has to keep exactly when an error it is given rejects the payload. -/
theorem kept_step_iff {next : OfflineQueue Payload} {label : QueueStep Payload}
    (hstep : state.step label = some next) (h : state.Flushing) (hkept : state.Kept) :
    next.Kept ↔ state.RejectsOnly label := by
  cases label with
  | enqueue payload =>
      cases hstep
      refine iff_of_true ⟨hkept.once, fun id hid => ?_⟩ trivial
      obtain rfl | hold := Nat.eq_or_lt_of_le (Nat.lt_succ_iff.mp hid)
      · exact Or.inl ⟨_, List.mem_append_right _ (List.mem_singleton_self _), rfl⟩
      · refine (hkept.leaves id hold).imp_left fun ⟨item, hitem, hid⟩ => ?_
        exact ⟨item, List.mem_append_left _ hitem, hid⟩
  | flushAll run =>
      simp only [step] at hstep
      cases hrun : state.runs.get? run with
      | some flush => simp [hrun] at hstep
      | none =>
          rw [hrun] at hstep
          cases hstep
          exact iff_of_true ((kept_goOn ..).mpr hkept) trivial
  | answer run answer =>
      obtain ⟨flush, hflush, rfl⟩ := Option.map_eq_some_iff.mp hstep
      have hqueued := h.waiting run flush.current.id ⟨flush, hflush, rfl⟩
      obtain ⟨status, detail, three, rfl, hsmall, heq⟩ | ⟨status, detail, three, rfl, hlarge, heq⟩ |
        ⟨message, unnumbered, rfl, heq⟩ := settle_cases state run flush answer
      · rw [heq, kept_goOn]
        exact iff_of_true (kept_created hkept (h.not_created _ hqueued)) (Or.inl hsmall)
      · rw [heq, kept_goOn, kept_error_iff h.toUnanswered hqueued hkept]
        exact (or_iff_right (by omega)).symm
      · rw [heq, kept_goOn]
        exact iff_of_true hkept trivial

/-- As long as no item is sent while another flush waits for it or after it has left the queue, no
item is created twice and each leaves the queue for the right reason exactly in the runs where every
error of the server rejects the payload. -/
theorem queue_kept_iff (labels : List (QueueStep Payload))
    (hsends : Guarded step SendsOnce ({} : OfflineQueue Payload) labels) :
    Always step Kept ({} : OfflineQueue Payload) labels ↔
      Guarded step RejectsOnly ({} : OfflineQueue Payload) labels := by
  have hstart : Kept ({} : OfflineQueue Payload) :=
    ⟨List.nodup_nil, fun id hid => absurd hid (Nat.not_lt_zero id)⟩
  exact always_iff_guarded_of_given (fun _ _ _ hstep hsends _ h => flushing_step hstep hsends h)
    (fun _ _ _ hstep _ h hkept => kept_step_iff hstep h hkept) hsends flushing_start hstart

/-! ## One and two registrations -/

/-- Two registrations are queued and sent; the first is created and the second rejected. -/
def rejectedSecond : List (QueueStep String) :=
  [.enqueue "AA:BB:CC:00:00:01", .enqueue "AA:BB:CC:00:00:02", .flushAll 0,
    .answer 0 (.response 201 "" (by decide)), .answer 0 (.response 422 "mac" (by decide))]

theorem queue_kept_rejectedSecond : Always step Kept {} rejectedSecond := by
  refine (queue_kept_iff rejectedSecond ⟨trivial, trivial, ?_, ?_, ?_, trivial⟩).mpr
    ⟨trivial, trivial, trivial, Or.inl (by decide), Or.inr (by decide), trivial⟩
  · rintro _ _ other ⟨flush, hflush, -⟩
    cases hflush
  · intro _ flush hflush next hnext
    cases hflush
    cases hnext
    refine ⟨⟨_, List.mem_append_right _ (List.mem_singleton_self _), rfl⟩, by decide,
      fun other hother => ?_⟩
    rintro ⟨flush, hflush, -⟩
    have hnone : (Dict.empty.set 0 (FlushRun.mk _ _ 0 0)).get? other = some flush := hflush
    rw [Dict.get?_set_ne _ _ hother] at hnone
    cases hnone
  · intro _ flush hflush next hnext
    cases hflush
    cases hnext

/-- A registration is sent while ISE is down. -/
def sentInOutage : List (QueueStep String) :=
  [.enqueue "AA:BB:CC:00:00:01", .flushAll 0, .answer 0 (.response 502 "ISE" (by decide))]

/-- A click on the button while the flush of the `online` event waits. -/
def sentTwice : List (QueueStep String) :=
  [.enqueue "AA:BB:CC:00:00:01", .flushAll 0, .flushAll 1,
    .answer 0 (.response 201 "" (by decide)), .answer 1 (.response 201 "" (by decide))]

/-- The registration of the outage is lost, and the other one is created twice. -/
theorem queue_not_kept :
    ¬ Always step Kept ({} : OfflineQueue String) sentInOutage ∧
      ¬ Always step Kept ({} : OfflineQueue String) sentTwice := by
  constructor
  · intro h
    have hkept := h.2.2.2
    obtain ⟨item, hitem, -⟩ | hcreated | ⟨status, herror, hrejects⟩ := hkept.leaves 0 (by decide)
    · cases hitem
    · cases hcreated
    · cases List.mem_singleton.mp herror
      exact absurd hrejects (by decide)
  · intro h
    have hkept := h.2.2.2.2.2
    have htwice : [0, 0].Nodup := hkept.once
    exact absurd htwice (by decide)

end OfflineQueue

end IsePortal.Frontend
