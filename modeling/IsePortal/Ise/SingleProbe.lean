import IsePortal.Ise.BreakerTraffic

/-!
# One probe for each recovery

`record_success` and `record_failure` do not know which request calls them, so a request that
was sent long ago can end while the breaker is half open and decide in the probe's place; after
the next recovery time a second probe joins the first. `single_probe_iff`: there is never more
than one probe exactly in the runs where nobody but the probe reports while the breaker is half
open.
-/

namespace IsePortal

open Library

namespace BreakerTraffic

/-- Every end that took the breaker out of `HALF_OPEN` was that of the request that had entered
it. -/
def OwnOutcomes (history : List BreakerEvent) : Prop :=
  ∀ task prober, .leftHalfOpen task prober ∈ history → prober = some task

/-- Every request let through by an open breaker came at least the recovery time after the last
failure that was recorded. -/
def Patient (cfg : BreakerConfig) (history : List BreakerEvent) : Prop :=
  ∀ task now lastFailure, .admitted task .opened now lastFailure ∈ history →
    ∃ failed, lastFailure = some failed ∧ failed + cfg.recoveryTimeout ≤ now

/-- At most one probe is on its way, an open breaker waits for the recovery time, and `HALF_OPEN`
is left by the outcome of its probe alone. -/
structure SingleProbe (cfg : BreakerConfig) (traffic : BreakerTraffic) : Prop where
  one : ∀ task other request request', traffic.running.get? task = some request →
    traffic.running.get? other = some request' → request.probe = true → request'.probe = true →
      task = other
  patient : Patient cfg traffic.history
  own : OwnOutcomes traffic.history

/-- A request that reports to a half-open breaker is the one that half opened it. -/
def ProberReports (cfg : BreakerConfig) (traffic : BreakerTraffic) (label : TrafficEvent) :
    Prop :=
  match label with
  | .response task _ => traffic.breaker.state = .halfOpen → traffic.prober = some task
  | .transportError task =>
      ∀ request, traffic.running.get? task = some request →
        cfg.retryAttempts ≤ request.attempt → traffic.breaker.state = .halfOpen →
          traffic.prober = some task
  | _ => True

/-- What the history of a breaker satisfies. -/
structure SoundTraffic (cfg : BreakerConfig) (traffic : BreakerTraffic) : Prop where
  /-- An open breaker was opened by the last failure. -/
  opened : traffic.breaker.state = .opened → traffic.lastFailure = some traffic.breaker.openedAt
  tripped : traffic.breaker.state ≠ .closed → cfg.threshold ≤ traffic.breaker.failures
  patient : Patient cfg traffic.history
  /-- While only probes decide, a probe on its way is the one that half opened the breaker. -/
  probes : OwnOutcomes traffic.history → ∀ task request,
    traffic.running.get? task = some request → request.probe = true →
      traffic.breaker.state = .halfOpen ∧ traffic.prober = some task

variable {cfg : BreakerConfig} {traffic next : BreakerTraffic} {label : TrafficEvent}

/-- In a sound history only the outcomes matter. -/
theorem singleProbe_iff (h : traffic.SoundTraffic cfg) :
    traffic.SingleProbe cfg ↔ OwnOutcomes traffic.history := by
  refine ⟨SingleProbe.own, fun hown => ⟨?_, h.patient, hown⟩⟩
  intro task other request request' htask hother hprobe hprobe'
  have hfirst := (h.probes hown task request htask hprobe).2
  have hsecond := (h.probes hown other request' hother hprobe').2
  rw [hfirst] at hsecond
  exact Option.some.inj hsecond

theorem soundTraffic_start (cfg : BreakerConfig) (now : Time) : (start now).SoundTraffic cfg where
  opened := CircuitState.noConfusion
  tripped := fun hne => absurd rfl hne
  patient := by simp [Patient, start]
  probes := by simp [start]

/-- Without a half-open breaker no probe is on its way while only probes decide. -/
theorem SoundTraffic.no_probe (h : traffic.SoundTraffic cfg)
    (hstate : traffic.breaker.state ≠ .halfOpen) (hown : OwnOutcomes traffic.history) {task : Nat}
    {request : RunningRequest} (hrunning : traffic.running.get? task = some request) :
    request.probe = false := by
  cases hprobe : request.probe with
  | false => rfl
  | true => exact absurd (h.probes hown task request hrunning hprobe).1 hstate

theorem soundTraffic_letThrough {task : Nat} {breaker : CircuitBreaker}
    (h : traffic.SoundTraffic cfg)
    (hadmitted : traffic.breaker.isOpen cfg traffic.now = (false, breaker)) :
    (traffic.letThrough task breaker).SoundTraffic cfg := by
  have hself : (traffic.letThrough task breaker).running.get? task =
      some { probe := decide (traffic.breaker.state = .opened) } := Dict.get?_set_self ..
  have hown : OwnOutcomes (traffic.letThrough task breaker).history → OwnOutcomes traffic.history :=
    fun hown task prober hmem => hown task prober (List.mem_cons_of_mem _ hmem)
  rcases CircuitBreaker.isOpen_admits hadmitted with ⟨hclosed, rfl⟩ | ⟨hopened, hwaited, rfl⟩
  · refine ⟨h.opened, h.tripped, ?_, ?_⟩
    · intro other now lastFailure hmem
      rcases List.mem_cons.mp hmem with heq | hmem
      · rw [hclosed] at heq
        cases heq
      · exact h.patient other now lastFailure hmem
    · intro hhistory other request hrunning hprobe
      by_cases hother : other = task
      · subst hother
        rw [hself] at hrunning
        cases hrunning
        simp [hclosed] at hprobe
      · -- another probe would mean that the breaker is half open
        rw [running_letThrough_ne _ hother] at hrunning
        have hhalf : traffic.breaker.state ≠ .halfOpen := by
          rw [hclosed]
          decide
        rw [h.no_probe hhalf (hown hhistory) hrunning] at hprobe
        cases hprobe
  · refine ⟨CircuitState.noConfusion, fun _ => h.tripped (by rw [hopened]; decide), ?_, ?_⟩
    · intro other now lastFailure hmem
      rcases List.mem_cons.mp hmem with heq | hmem
      · simp only [BreakerEvent.admitted.injEq] at heq
        obtain ⟨-, -, rfl, rfl⟩ := heq
        exact ⟨traffic.breaker.openedAt, h.opened hopened, hwaited⟩
      · exact h.patient other now lastFailure hmem
    · intro hhistory other request hrunning hprobe
      by_cases hother : other = task
      · subst hother
        exact ⟨rfl, by simp [letThrough, hopened]⟩
      · rw [running_letThrough_ne _ hother] at hrunning
        have hhalf : traffic.breaker.state ≠ .halfOpen := by
          rw [hopened]
          decide
        rw [h.no_probe hhalf (hown hhistory) hrunning] at hprobe
        cases hprobe

theorem soundTraffic_retry {task : Nat} {request : RunningRequest} (h : traffic.SoundTraffic cfg)
    (hrunning : traffic.running.get? task = some request) :
    (traffic.retry task request).SoundTraffic cfg := by
  refine ⟨h.opened, h.tripped, h.patient, ?_⟩
  intro hhistory other found hfound hprobe
  by_cases hother : other = task
  · subst hother
    have hself : (traffic.retry other request).running.get? other =
        some { request with attempt := request.attempt + 1 } := Dict.get?_set_self ..
    rw [hself] at hfound
    cases hfound
    exact h.probes hhistory other request hrunning hprobe
  · rw [running_retry_ne _ hother] at hfound
    exact h.probes hhistory other found hfound hprobe

/-- An open breaker has been opened by the failure at `openedAt`, whatever ends. -/
theorem settle_opened (h : traffic.SoundTraffic cfg) (requestEnd : RequestEnd)
    (hopened : (traffic.breaker.settle cfg traffic.now requestEnd).state = .opened) :
    (if requestEnd.fails then some traffic.now else traffic.lastFailure) =
      some (traffic.breaker.settle cfg traffic.now requestEnd).openedAt := by
  unfold CircuitBreaker.settle at hopened ⊢
  split at hopened
  · rename_i hfails
    simp only [if_pos hfails]
    unfold CircuitBreaker.recordFailure at hopened ⊢
    split
    · rfl
    · -- below the threshold only a closed breaker stays as it is
      rename_i hbelow
      rw [if_neg hbelow] at hopened
      have htripped := h.tripped (by rw [hopened]; decide)
      rw [not_or] at hbelow
      omega
  · rename_i hfails
    simp only [if_neg hfails]
    split at hopened
    · cases hopened
    · rename_i hrecorded
      rw [if_neg hrecorded]
      exact h.opened hopened

theorem settle_tripped (h : traffic.SoundTraffic cfg) (requestEnd : RequestEnd)
    (hstate : (traffic.breaker.settle cfg traffic.now requestEnd).state ≠ .closed) :
    cfg.threshold ≤ (traffic.breaker.settle cfg traffic.now requestEnd).failures := by
  unfold CircuitBreaker.settle at hstate ⊢
  split
  · rename_i hfails
    rw [if_pos hfails] at hstate
    unfold CircuitBreaker.recordFailure at hstate ⊢
    split
    · rename_i hopens
      rcases hopens with hthreshold | hhalf
      · exact hthreshold
      · have htripped := h.tripped (by rw [hhalf]; decide)
        show cfg.threshold ≤ traffic.breaker.failures + 1
        omega
    · rename_i hbelow
      rw [if_neg hbelow] at hstate
      have htripped := h.tripped hstate
      show cfg.threshold ≤ traffic.breaker.failures + 1
      omega
  · rename_i hfails
    rw [if_neg hfails] at hstate
    split
    · rename_i hrecorded
      rw [if_pos hrecorded] at hstate
      exact absurd rfl hstate
    · rename_i hrecorded
      rw [if_neg hrecorded] at hstate
      exact h.tripped hstate

/-- What the end of a request adds to the history. -/
theorem ownOutcomes_finish {task : Nat} {requestEnd : RequestEnd} :
    OwnOutcomes (traffic.finish cfg task requestEnd).history ↔
      OwnOutcomes traffic.history ∧ (requestEnd.recorded = true →
        traffic.breaker.state = .halfOpen → traffic.prober = some task) := by
  simp only [finish]
  split
  · rename_i hleft
    constructor
    · intro hown
      refine ⟨fun other prober hmem => hown other prober (List.mem_cons_of_mem _ hmem), ?_⟩
      intro _ _
      exact hown task traffic.prober List.mem_cons_self
    · intro h other prober hmem
      rcases List.mem_cons.mp hmem with heq | hmem
      · cases heq
        exact h.2 hleft.1 hleft.2
      · exact h.1 other prober hmem
  · rename_i hstays
    constructor
    · intro hown
      exact ⟨hown, fun hrecorded hhalf => absurd ⟨hrecorded, hhalf⟩ hstays⟩
    · intro h
      exact h.1

theorem soundTraffic_finish {task : Nat} {requestEnd : RequestEnd}
    (h : traffic.SoundTraffic cfg) : (traffic.finish cfg task requestEnd).SoundTraffic cfg := by
  refine ⟨settle_opened h requestEnd, settle_tripped h requestEnd, ?_, ?_⟩
  · intro other now lastFailure hmem
    simp only [finish] at hmem
    split at hmem
    · rcases List.mem_cons.mp hmem with heq | hmem
      · cases heq
      · exact h.patient other now lastFailure hmem
    · exact h.patient other now lastFailure hmem
  · intro hhistory other request hrunning hprobe
    obtain ⟨hown, hreports⟩ := ownOutcomes_finish.mp hhistory
    have hne : other ≠ task := by
      intro heq
      subst heq
      rw [running_finish_self] at hrunning
      cases hrunning
    rw [running_finish_ne _ hne] at hrunning
    obtain ⟨hhalf, hprober⟩ := h.probes hown other request hrunning hprobe
    cases hrecorded : requestEnd.recorded with
    | true =>
        -- then the request that ended was the only probe
        rw [hreports hrecorded hhalf] at hprober
        exact absurd (Option.some.inj hprober).symm hne
    | false =>
        have hbreaker : (traffic.finish cfg task requestEnd).breaker = traffic.breaker :=
          CircuitBreaker.settle_of_not_recorded hrecorded
        rw [hbreaker]
        exact ⟨hhalf, hprober⟩

theorem soundTraffic_step (hstep : traffic.step cfg label = some next)
    (h : traffic.SoundTraffic cfg) : next.SoundTraffic cfg := by
  rcases step_cases hstep with ⟨seconds, rfl, -, rfl⟩ | ⟨task, rfl, -, rfl⟩ |
    ⟨task, breaker, rfl, -, hadmitted, rfl⟩ | ⟨task, request, rfl, hrunning, -, rfl⟩ |
    ⟨task, request, requestEnd, rfl, hrunning, -, rfl⟩
  · exact ⟨h.opened, h.tripped, h.patient, h.probes⟩
  · exact h
  · exact soundTraffic_letThrough h hadmitted
  · exact soundTraffic_retry h hrunning
  · exact soundTraffic_finish h

theorem singleProbe_step (hstep : traffic.step cfg label = some next)
    (hsound : traffic.SoundTraffic cfg) (h : traffic.SingleProbe cfg) :
    next.SingleProbe cfg ↔ traffic.ProberReports cfg label := by
  have hnext := soundTraffic_step hstep hsound
  rw [singleProbe_iff hsound] at h
  rw [singleProbe_iff hnext]
  rcases step_cases hstep with ⟨seconds, rfl, -, rfl⟩ | ⟨task, rfl, -, rfl⟩ |
    ⟨task, breaker, rfl, -, hadmitted, rfl⟩ | ⟨task, request, rfl, hrunning, hagain, rfl⟩ |
    ⟨task, request, requestEnd, rfl, hrunning, hlast, rfl⟩
  · exact iff_of_true h trivial
  · exact iff_of_true h trivial
  · refine iff_of_true ?_ trivial
    intro other prober hmem
    rcases List.mem_cons.mp hmem with heq | hmem
    · cases heq
    · exact h other prober hmem
  · -- the request is sent once more and reports nothing yet
    refine iff_of_true h ?_
    intro found hfound hlast
    rw [hrunning] at hfound
    cases hfound
    omega
  · rw [ownOutcomes_finish, and_iff_right h]
    cases requestEnd with
    | response status => simp [ProberReports, endEvent, RequestEnd.recorded]
    | transportError =>
        have hattempts := hlast rfl
        simp [ProberReports, endEvent, RequestEnd.recorded, hrunning, hattempts]
    | raised => exact iff_of_true (fun hrecorded => by cases hrecorded) trivial
    | cancelled => exact iff_of_true (fun hrecorded => by cases hrecorded) trivial

/-- In every run against one breaker there is one probe at a time, after the recovery time, and
only its outcome ends the recovery, exactly when no other request reports while the breaker is
half open. -/
theorem single_probe_iff (cfg : BreakerConfig) (now : Time) (labels : List TrafficEvent) :
    Always (step cfg) (SingleProbe cfg) (start now) labels ↔
      Guarded (step cfg) (ProberReports cfg) (start now) labels :=
  always_iff_guarded (fun _ _ _ hstep hsound => soundTraffic_step hstep hsound)
    (fun _ _ _ hstep hsound h => singleProbe_step hstep hsound h)
    (soundTraffic_start cfg now)
    ((singleProbe_iff (soundTraffic_start cfg now)).mpr (by simp [OwnOutcomes, start]))

/-- In every run, whoever reports: a breaker that is not closed has failures enough, an open one
waits for the recovery time from the last failure on, and none was passed before it. -/
theorem breaker_waits (cfg : BreakerConfig) (now : Time) (labels : List TrafficEvent) :
    Always (step cfg) (fun traffic =>
      (traffic.breaker.state ≠ .closed → cfg.threshold ≤ traffic.breaker.failures) ∧
        (traffic.breaker.state = .opened →
          traffic.lastFailure = some traffic.breaker.openedAt) ∧
        Patient cfg traffic.history) (start now) labels :=
  (always_of_step (fun _ _ _ hstep hsound => soundTraffic_step hstep hsound) labels
    (soundTraffic_start cfg now)).mono fun _ h => ⟨h.tripped, h.opened, h.patient⟩

/-- Two requests are sent while the host is well. The first fails; a minute later a probe is sent,
then the second request fails too, and after another minute the next probe is sent. -/
def lateFailure : List TrafficEvent :=
  [.request 1, .request 2, .transportError 1, .tick 60, .request 3, .transportError 2, .tick 60,
    .request 4]

/-- Both probes are on their way. -/
theorem late_failure_admits_second_probe :
    ¬ Always (step quickBreaker) (SingleProbe quickBreaker) (start 1000) lateFailure := by
  have hrun : (run (step quickBreaker) (start 1000) lateFailure).map
      (fun traffic => (traffic.running.get? 3, traffic.running.get? 4)) =
      some (some { probe := true }, some { probe := true }) := by
    with_unfolding_all decide
  intro halways
  obtain ⟨final, hfinal, hrunning⟩ := Option.map_eq_some_iff.mp hrun
  simp only [Prod.mk.injEq] at hrunning
  have hsame := (halways.last hfinal).one 3 4 _ _ hrunning.1 hrunning.2 rfl rfl
  exact absurd hsame (by decide)

end BreakerTraffic

end IsePortal
