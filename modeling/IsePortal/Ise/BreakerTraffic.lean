import IsePortal.Ise.CircuitBreaker

/-!
# Requests against one breaker

The overlapping requests of one host. A request is admitted or refused when it starts, may be
sent again after a transport error, and ends at any later moment in any way. The history is a
ghost: who was admitted in which state, and who took the breaker out of `HALF_OPEN`.
`breaker_never_wedges_iff` says in which runs every half-open breaker has a probe on its way.
-/

namespace IsePortal

open Library

/-- A request on its way: whether it was admitted as the probe, and which attempt it is at. -/
structure RunningRequest where
  probe : Bool
  attempt : Nat := 1
  deriving DecidableEq

/-- What the history keeps. -/
inductive BreakerEvent where
  /-- A request was admitted, in which state, and when the last failure had been recorded. -/
  | admitted (task : Nat) (state : CircuitState) (now : Time) (lastFailure : Option Time)
  /-- The end of a request took the breaker out of `HALF_OPEN`, which `prober` had entered. -/
  | leftHalfOpen (task : Nat) (prober : Option Nat)
  deriving DecidableEq

/-- The breaker of a host with the requests on their way. `prober` is the request that entered
`HALF_OPEN` last. -/
structure BreakerTraffic where
  breaker : CircuitBreaker := {}
  now : Time
  running : Dict Nat RunningRequest := Dict.empty
  prober : Option Nat := none
  lastFailure : Option Time := none
  history : List BreakerEvent := []

/-- One event. -/
inductive TrafficEvent where
  | tick (seconds : Time)
  /-- `_request_on` asks the breaker. -/
  | request (task : Nat)
  /-- An attempt ends with a `TransportError`. -/
  | transportError (task : Nat)
  | response (task status : Nat)
  /-- Any other exception leaves `_request_on`. -/
  | raised (task : Nat)
  | cancelled (task : Nat)

namespace BreakerTraffic

/-- A request is let through. -/
def letThrough (traffic : BreakerTraffic) (task : Nat) (breaker : CircuitBreaker) :
    BreakerTraffic :=
  let probe := traffic.breaker.state = .opened
  { traffic with
    breaker := breaker
    running := traffic.running.set task { probe := probe }
    prober := if probe then some task else traffic.prober
    history := .admitted task traffic.breaker.state traffic.now traffic.lastFailure ::
      traffic.history }

/-- A request is sent once more. -/
def retry (traffic : BreakerTraffic) (task : Nat) (request : RunningRequest) : BreakerTraffic :=
  { traffic with
    running := traffic.running.set task { request with attempt := request.attempt + 1 } }

/-- A request ends. -/
def finish (cfg : BreakerConfig) (traffic : BreakerTraffic) (task : Nat)
    (requestEnd : RequestEnd) : BreakerTraffic :=
  { traffic with
    breaker := traffic.breaker.settle cfg traffic.now requestEnd
    running := traffic.running.erase task
    lastFailure := if requestEnd.fails then some traffic.now else traffic.lastFailure
    history :=
      if requestEnd.recorded ∧ traffic.breaker.state = .halfOpen then
        .leftHalfOpen task traffic.prober :: traffic.history
      else traffic.history }

/-- One event; `none` is an end of a request that is not on its way, or a clock that goes
back. -/
def step (cfg : BreakerConfig) (traffic : BreakerTraffic) (label : TrafficEvent) :
    Option BreakerTraffic :=
  match label with
  | .tick seconds =>
      if 0 ≤ seconds then some { traffic with now := traffic.now + seconds } else none
  | .request task =>
      match traffic.running.get? task with
      | some _ => none
      | none =>
          match traffic.breaker.isOpen cfg traffic.now with
          | (true, breaker) => some { traffic with breaker := breaker }
          | (false, breaker) => some (traffic.letThrough task breaker)
  | .transportError task =>
      match traffic.running.get? task with
      | none => none
      | some request =>
          if request.attempt < cfg.retryAttempts then some (traffic.retry task request)
          else some (traffic.finish cfg task .transportError)
  | .response task status =>
      (traffic.running.get? task).map fun _ => traffic.finish cfg task (.response status)
  | .raised task => (traffic.running.get? task).map fun _ => traffic.finish cfg task .raised
  | .cancelled task => (traffic.running.get? task).map fun _ => traffic.finish cfg task .cancelled

/-- A host nobody has been sent to. -/
def start (now : Time) : BreakerTraffic where
  now := now

/-! ## What one event does -/

/-- The event that ends a request. -/
def endEvent (task : Nat) : RequestEnd → TrafficEvent
  | .response status => .response task status
  | .transportError => .transportError task
  | .raised => .raised task
  | .cancelled => .cancelled task

variable {cfg : BreakerConfig} {traffic next : BreakerTraffic} {label : TrafficEvent}

/-- The five things an event can be: time passes, a request is refused, let through, sent once
more, or ends. -/
theorem step_cases (h : traffic.step cfg label = some next) :
    (∃ seconds, label = .tick seconds ∧ 0 ≤ seconds ∧
      next = { traffic with now := traffic.now + seconds }) ∨
    (∃ task, label = .request task ∧ (traffic.breaker.isOpen cfg traffic.now).1 = true ∧
      next = traffic) ∨
    (∃ task breaker, label = .request task ∧ traffic.running.get? task = none ∧
      traffic.breaker.isOpen cfg traffic.now = (false, breaker) ∧
      next = traffic.letThrough task breaker) ∨
    (∃ task request, label = .transportError task ∧ traffic.running.get? task = some request ∧
      request.attempt < cfg.retryAttempts ∧ next = traffic.retry task request) ∨
    (∃ task request requestEnd, label = endEvent task requestEnd ∧
      traffic.running.get? task = some request ∧
      (requestEnd = .transportError → cfg.retryAttempts ≤ request.attempt) ∧
      next = traffic.finish cfg task requestEnd) := by
  cases label with
  | tick seconds =>
      simp only [step] at h
      split at h
      · rename_i hseconds
        cases h
        exact Or.inl ⟨seconds, rfl, hseconds, rfl⟩
      · cases h
  | request task =>
      simp only [step] at h
      split at h
      · cases h
      · rename_i hnew
        split at h
        · rename_i breaker hblocked
          cases h
          rw [CircuitBreaker.isOpen_blocks hblocked]
          exact Or.inr (Or.inl ⟨task, rfl, by rw [hblocked], rfl⟩)
        · rename_i breaker hadmitted
          cases h
          exact Or.inr (Or.inr (Or.inl ⟨task, breaker, rfl, hnew, hadmitted, rfl⟩))
  | transportError task =>
      simp only [step] at h
      split at h
      · cases h
      · rename_i request hrunning
        split at h
        · rename_i hagain
          cases h
          exact Or.inr (Or.inr (Or.inr (Or.inl ⟨task, request, rfl, hrunning, hagain, rfl⟩)))
        · rename_i hlast
          cases h
          exact Or.inr (Or.inr (Or.inr (Or.inr
            ⟨task, request, .transportError, rfl, hrunning, fun _ => Nat.le_of_not_lt hlast, rfl⟩)))
  | response task status =>
      obtain ⟨request, hrunning, rfl⟩ := Option.map_eq_some_iff.mp h
      exact Or.inr (Or.inr (Or.inr (Or.inr
        ⟨task, request, .response status, rfl, hrunning, RequestEnd.noConfusion, rfl⟩)))
  | raised task =>
      obtain ⟨request, hrunning, rfl⟩ := Option.map_eq_some_iff.mp h
      exact Or.inr (Or.inr (Or.inr (Or.inr
        ⟨task, request, .raised, rfl, hrunning, RequestEnd.noConfusion, rfl⟩)))
  | cancelled task =>
      obtain ⟨request, hrunning, rfl⟩ := Option.map_eq_some_iff.mp h
      exact Or.inr (Or.inr (Or.inr (Or.inr
        ⟨task, request, .cancelled, rfl, hrunning, RequestEnd.noConfusion, rfl⟩)))

/-- Being let through, sent once more and ending are about one request. -/
theorem running_letThrough_ne {task other : Nat} (breaker : CircuitBreaker) (hne : other ≠ task) :
    (traffic.letThrough task breaker).running.get? other = traffic.running.get? other :=
  Dict.get?_set_ne _ _ hne

theorem running_retry_ne {task other : Nat} (request : RunningRequest) (hne : other ≠ task) :
    (traffic.retry task request).running.get? other = traffic.running.get? other :=
  Dict.get?_set_ne _ _ hne

theorem running_finish_ne {task other : Nat} (requestEnd : RequestEnd) (hne : other ≠ task) :
    (traffic.finish cfg task requestEnd).running.get? other = traffic.running.get? other :=
  Dict.get?_erase_ne _ hne

theorem running_finish_self (task : Nat) (requestEnd : RequestEnd) :
    (traffic.finish cfg task requestEnd).running.get? task = none :=
  Dict.get?_erase_self ..

/-! ## A probe for every half-open breaker -/

/-- A half-open breaker has a probe on its way. -/
def Probing (traffic : BreakerTraffic) : Prop :=
  traffic.breaker.state = .halfOpen →
    ∃ task request, traffic.running.get? task = some request ∧ request.probe = true

/-- The breaker would let a request through. -/
def Admits (cfg : BreakerConfig) (traffic : BreakerTraffic) : Prop :=
  (traffic.breaker.isOpen cfg traffic.now).1 = false

/-- A half-open breaker has a probe on its way, and there is a way on to a state that lets a
request through. -/
structure NeverWedged (cfg : BreakerConfig) (traffic : BreakerTraffic) : Prop where
  probing : traffic.Probing
  recovers : ∃ labels final, run (step cfg) traffic labels = some final ∧ final.Admits cfg

/-- Where a probe ends without an outcome for the half-open breaker, another one is still on its
way. -/
def ProbeLeft (traffic : BreakerTraffic) (label : TrafficEvent) : Prop :=
  ∀ task request, label = .raised task ∨ label = .cancelled task →
    traffic.running.get? task = some request → request.probe = true →
    traffic.breaker.state = .halfOpen →
      ∃ other request', other ≠ task ∧ traffic.running.get? other = some request' ∧
        request'.probe = true

/-- An event that does not end a request silently meets the condition. -/
theorem probeLeft_of_ne {traffic : BreakerTraffic} {label : TrafficEvent}
    (hraised : ∀ task, label ≠ .raised task) (hcancelled : ∀ task, label ≠ .cancelled task) :
    traffic.ProbeLeft label := by
  intro task request hsilent
  rcases hsilent with h | h
  · exact absurd h (hraised task)
  · exact absurd h (hcancelled task)

/-- A request that is let through half opens the breaker only as its probe. -/
theorem probing_letThrough {task : Nat} {breaker : CircuitBreaker}
    (hadmitted : traffic.breaker.isOpen cfg traffic.now = (false, breaker)) :
    (traffic.letThrough task breaker).Probing := by
  intro hhalf
  rcases CircuitBreaker.isOpen_admits hadmitted with ⟨hclosed, rfl⟩ | ⟨hopened, -, rfl⟩
  · have hstate : traffic.breaker.state = .halfOpen := hhalf
    rw [hclosed] at hstate
    cases hstate
  · exact ⟨task, _, Dict.get?_set_self .., by simp [hopened]⟩

/-- Sending a request once more keeps it a probe. -/
theorem probing_retry {task : Nat} {request : RunningRequest} (h : traffic.Probing)
    (hrunning : traffic.running.get? task = some request) :
    (traffic.retry task request).Probing := by
  intro hhalf
  obtain ⟨prober, found, hfound, hprobe⟩ := h hhalf
  by_cases htask : prober = task
  · subst htask
    rw [hrunning] at hfound
    cases hfound
    exact ⟨prober, _, Dict.get?_set_self .., hprobe⟩
  · exact ⟨prober, found, (running_retry_ne request htask).trans hfound, hprobe⟩

/-- The end of a request keeps the property exactly when it is recorded or leaves a probe. -/
theorem probing_finish {task : Nat} {request : RunningRequest} {requestEnd : RequestEnd}
    (h : traffic.Probing) (hrunning : traffic.running.get? task = some request) :
    (traffic.finish cfg task requestEnd).Probing ↔
      traffic.ProbeLeft (endEvent task requestEnd) := by
  cases hrecorded : requestEnd.recorded with
  | true =>
      refine iff_of_true ?_ ?_
      · intro hhalf
        exact absurd hhalf (CircuitBreaker.settle_ne_halfOpen hrecorded)
      · cases requestEnd with
        | response status => exact probeLeft_of_ne (by simp [endEvent]) (by simp [endEvent])
        | transportError => exact probeLeft_of_ne (by simp [endEvent]) (by simp [endEvent])
        | raised => cases hrecorded
        | cancelled => cases hrecorded
  | false =>
      have hbreaker : (traffic.finish cfg task requestEnd).breaker = traffic.breaker :=
        CircuitBreaker.settle_of_not_recorded hrecorded
      have hsilent : ∀ other, (endEvent task requestEnd = .raised other ∨
          endEvent task requestEnd = .cancelled other) ↔ task = other := by
        intro other
        cases requestEnd <;> simp_all [endEvent, RequestEnd.recorded]
      constructor
      · intro hafter other request' hend hother hprobe hhalf
        obtain rfl := (hsilent other).mp hend
        obtain ⟨prober, found, hfound, hfoundProbe⟩ := hafter (by rw [hbreaker]; exact hhalf)
        -- the request that ended is no longer on its way
        have hne : prober ≠ task := by
          intro heq
          subst heq
          rw [running_finish_self] at hfound
          cases hfound
        exact ⟨prober, found, hne, (running_finish_ne requestEnd hne).symm.trans hfound,
          hfoundProbe⟩
      · intro hleft hhalf
        rw [hbreaker] at hhalf
        obtain ⟨prober, found, hfound, hprobe⟩ := h hhalf
        by_cases htask : prober = task
        · subst htask
          obtain ⟨other, request', hne, hother, hotherProbe⟩ :=
            hleft prober found ((hsilent prober).mpr rfl) hfound hprobe hhalf
          exact ⟨other, request', (running_finish_ne requestEnd hne).trans hother, hotherProbe⟩
        · exact ⟨prober, found, (running_finish_ne requestEnd htask).trans hfound, hprobe⟩

theorem probing_step (hstep : traffic.step cfg label = some next) (h : traffic.Probing) :
    next.Probing ↔ traffic.ProbeLeft label := by
  rcases step_cases hstep with ⟨seconds, rfl, -, rfl⟩ | ⟨task, rfl, -, rfl⟩ |
    ⟨task, breaker, rfl, -, hadmitted, rfl⟩ | ⟨task, request, rfl, hrunning, -, rfl⟩ |
    ⟨task, request, requestEnd, rfl, hrunning, -, rfl⟩
  · exact iff_of_true h (probeLeft_of_ne (by simp) (by simp))
  · exact iff_of_true h (probeLeft_of_ne (by simp) (by simp))
  · exact iff_of_true (probing_letThrough hadmitted) (probeLeft_of_ne (by simp) (by simp))
  · exact iff_of_true (probing_retry h hrunning) (probeLeft_of_ne (by simp) (by simp))
  · exact probing_finish h hrunning

/-- From every state with the property a request is let through in the end: when the recovery
time is over, or when the probe succeeds. -/
theorem neverWedged_iff : traffic.NeverWedged cfg ↔ traffic.Probing := by
  refine ⟨NeverWedged.probing, fun h => ⟨h, ?_⟩⟩
  cases hstate : traffic.breaker.state with
  | closed => exact ⟨[], traffic, rfl, by simp [Admits, CircuitBreaker.isOpen, hstate]⟩
  | opened =>
      let seconds := max 0 (traffic.breaker.openedAt + cfg.recoveryTimeout - traffic.now)
      have hseconds : 0 ≤ seconds := le_max_left _ _
      have hwaited : traffic.breaker.openedAt + cfg.recoveryTimeout - traffic.now ≤ seconds :=
        le_max_right _ _
      refine ⟨[.tick seconds], { traffic with now := traffic.now + seconds }, ?_, ?_⟩
      · simp only [run, step, if_pos hseconds]
      · have hover : traffic.now + seconds - traffic.breaker.openedAt ≥ cfg.recoveryTimeout := by
          linarith
        simp only [Admits, CircuitBreaker.isOpen, hstate, if_pos hover]
  | halfOpen =>
      obtain ⟨task, request, hrunning, -⟩ := h hstate
      refine ⟨[.response task 200], traffic.finish cfg task (.response 200), ?_, ?_⟩
      · simp only [run, step, hrunning, Option.map_some]
      · rfl

/-- In every run against one breaker, every half-open breaker has a probe on its way in every
state, and no state blocks all requests for ever, exactly when no last probe ends by another
exception or by cancellation while the breaker is half open. -/
theorem breaker_never_wedges_iff (cfg : BreakerConfig) (now : Time) (labels : List TrafficEvent) :
    Always (step cfg) (NeverWedged cfg) (start now) labels ↔
      Guarded (step cfg) ProbeLeft (start now) labels := by
  refine always_iff_guarded (I := fun _ => True) (fun _ _ _ _ _ => trivial) ?_ trivial ?_
  · intro traffic label next hstep _ h
    rw [neverWedged_iff] at h ⊢
    exact probing_step hstep h
  · rw [neverWedged_iff]
    exact CircuitState.noConfusion

/-- Half open, and no request is on its way. -/
def Wedged (traffic : BreakerTraffic) : Prop :=
  traffic.breaker.state = .halfOpen ∧ ∀ task, traffic.running.get? task = none

/-- Nothing takes a wedged breaker out of it. -/
theorem wedged_step (hstep : traffic.step cfg label = some next) (h : traffic.Wedged) :
    next.Wedged := by
  rcases step_cases hstep with ⟨seconds, -, -, rfl⟩ | ⟨task, -, -, rfl⟩ |
    ⟨task, breaker, -, -, hadmitted, -⟩ | ⟨task, request, -, hrunning, -⟩ |
    ⟨task, request, requestEnd, -, hrunning, -⟩
  · exact h
  · exact h
  · -- a half-open breaker lets nobody through
    simp only [CircuitBreaker.isOpen, h.1] at hadmitted
    cases hadmitted
  · rw [h.2 task] at hrunning
    cases hrunning
  · rw [h.2 task] at hrunning
    cases hrunning

theorem wedged_for_ever (h : traffic.Wedged) (labels : List TrafficEvent) :
    Always (step cfg) (fun traffic => ¬ traffic.Admits cfg) traffic labels := by
  have hwedged : Always (step cfg) Wedged traffic labels :=
    always_of_step (fun _ _ _ hstep h => wedged_step hstep h) labels h
  refine hwedged.mono fun traffic h => ?_
  simp [Admits, CircuitBreaker.isOpen, h.1]

/-- A breaker that opens on the first failure for a minute, over a client without retries. -/
def quickBreaker : BreakerConfig := breakerConfig 1 60 1

/-- The host fails, and a minute later the task of the probe is cancelled. -/
def cancelledProbe : List TrafficEvent :=
  [.request 1, .transportError 1, .tick 60, .request 2, .cancelled 2]

/-- From then on every request is refused. -/
theorem cancelled_probe_wedges :
    ¬ Always (step quickBreaker) (NeverWedged quickBreaker) (start 1000) cancelledProbe ∧
      ∃ final, run (step quickBreaker) (start 1000) cancelledProbe = some final ∧
        ∀ labels, Always (step quickBreaker) (fun traffic => ¬ traffic.Admits quickBreaker) final
          labels := by
  have hrun : (run (step quickBreaker) (start 1000) cancelledProbe).map
      (fun traffic => (traffic.breaker.state, traffic.running.entries)) =
      some (.halfOpen, []) := by
    with_unfolding_all decide
  obtain ⟨final, hfinal, hstate⟩ := Option.map_eq_some_iff.mp hrun
  simp only [Prod.mk.injEq] at hstate
  have hnone : ∀ task, final.running.get? task = none := by
    intro task
    simp [Dict.get?, hstate.2]
  refine ⟨?_, final, hfinal, wedged_for_ever ⟨hstate.1, hnone⟩⟩
  intro halways
  obtain ⟨task, request, hrunning, -⟩ := (halways.last hfinal).probing hstate.1
  rw [hnone task] at hrunning
  cases hrunning

end BreakerTraffic

end IsePortal
