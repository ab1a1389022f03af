import IsePortal.Library.Runs
import IsePortal.Dacl.ListCache

/-!
# The DACL list and the mutations that have returned

A fetch stores its list whatever has happened since it was sent, and an `update` or a `delete` drops
the list before ISE has the change, so that a fetch can store the old one in between.
`dacl_read_your_writes_iff` says when that shows: a run never returns or holds as fresh a list from
before a mutation that had returned exactly when no list is stored that is older than such a
mutation, and no mutation returns while an older list is fresh.
-/

namespace IsePortal

open Library

namespace DaclTraffic

/-- The list knows these mutations. -/
def KnowsAll (mutations : List (OwnWrite DaclChange)) (version : Nat) : Prop :=
  Knows mutations (fun _ => True) version

/-- A cached list that is fresh at the time knows these mutations. -/
def FreshKnows (traffic : DaclTraffic) (now : Time) (mutations : List (OwnWrite DaclChange)) :
    Prop :=
  ∀ list, traffic.cache = some list → now - traffic.cachedAt ≤ daclTtl →
    KnowsAll mutations list.version

/-- No list is older than a mutation it has to know: the cached one while it is fresh, than one that
has returned, and the list of an answer that is not served beyond its time, than one that had
returned when the call was made. -/
structure ReadsOwnDacls (traffic : DaclTraffic) : Prop where
  cached : traffic.FreshKnows traffic.now traffic.returned
  answered : ∀ answer ∈ traffic.answers, answer.stale = false →
    KnowsAll answer.floor answer.list.version

/-- No call asks for a mutation that has not returned. -/
def Floors (traffic : DaclTraffic) : Prop :=
  FloorsWithin id traffic.returned traffic.waiting

variable {traffic next : DaclTraffic}

/-! ## Calls and mutations -/

theorem ReadsOwnDacls.ensureTask (h : ReadsOwnDacls traffic) :
    ReadsOwnDacls traffic.ensureTask := by
  unfold DaclTraffic.ensureTask
  split
  · exact h
  · exact ⟨h.cached, h.answered⟩

theorem Floors.ensureTask (h : Floors traffic) : Floors traffic.ensureTask := by
  unfold DaclTraffic.ensureTask
  split
  · exact h
  · exact h

/-- A list that is fresh knows what has returned, so it may be served; one that is served beyond
its time makes no promise. -/
theorem ReadsOwnDacls.serve (h : ReadsOwnDacls traffic) {list : Stamped (List DaclSummary)}
    {stale : Bool} (hlist : stale = false → KnowsAll traffic.returned list.version) :
    ReadsOwnDacls (traffic.serve list stale) where
  cached := h.cached
  answered := List.forall_mem_cons.mpr ⟨hlist, h.answered⟩

theorem ReadsOwnDacls.await (h : ReadsOwnDacls traffic) : ReadsOwnDacls traffic.await :=
  ⟨h.cached, h.answered⟩

theorem Floors.await (h : Floors traffic) : Floors traffic.await :=
  FloorsWithin.cons h (List.Subset.refl _)

theorem ReadsOwnDacls.listSummaries (h : ReadsOwnDacls traffic) :
    ReadsOwnDacls traffic.listSummaries := by
  unfold DaclTraffic.listSummaries
  split
  · next list hlist =>
      split
      · next hfresh => exact h.serve fun _ => h.cached list hlist hfresh
      · split
        · exact h.ensureTask.serve Bool.noConfusion
        · exact h.ensureTask.await
  · exact h.ensureTask.await

theorem Floors.listSummaries (h : Floors traffic) : Floors traffic.listSummaries := by
  unfold DaclTraffic.listSummaries
  split
  · split
    · exact h
    · split
      · exact h.ensureTask
      · exact h.ensureTask.await
  · exact h.ensureTask.await

/-- Without a cached list there is nothing to be fresh. -/
theorem ReadsOwnDacls.invalidate (h : ReadsOwnDacls traffic) :
    ReadsOwnDacls traffic.invalidateDaclListCache :=
  ⟨fun _ hnone => (by cases hnone), h.answered⟩

theorem ReadsOwnDacls.begin (h : ReadsOwnDacls traffic) (change : DaclChange) :
    ReadsOwnDacls (traffic.begin change) := by
  cases change with
  | create => exact ⟨h.cached, h.answered⟩
  | update | delete => exact ⟨h.invalidate.cached, h.answered⟩

theorem ReadsOwnDacls.iseAnswered (h : ReadsOwnDacls traffic) (mutation : DaclMutation) :
    ReadsOwnDacls (traffic.answered mutation) := by
  unfold DaclTraffic.answered
  split
  · exact ⟨h.invalidate.cached, h.answered⟩
  · exact ⟨h.cached, h.answered⟩
  · exact ⟨h.cached, h.answered⟩

theorem Floors.begin (h : Floors traffic) (change : DaclChange) :
    Floors (traffic.begin change) := by
  cases change with
  | create | update | delete => exact h

theorem Floors.iseAnswered (h : Floors traffic) (mutation : DaclMutation) :
    Floors (traffic.answered mutation) := by
  unfold DaclTraffic.answered
  split <;> exact h

/-! ## The condition of one step -/

/-- A delivery is the answer to a request that has been sent. -/
theorem deliver_eq {version : Nat} {raw : List RawDacl}
    (h : traffic.step (.deliver version raw) = some next) :
    next = traffic.fetchAndCacheDacls version raw := by
  simp only [step] at h
  split at h
  · cases h
  · split at h
    · exact (Option.some.inj h).symm
    · cases h

/-- A mutation that returns has been answered. -/
theorem finish_eq {mutationId : Nat} (h : traffic.step (.finish mutationId) = some next) :
    ∃ mutation version, (traffic.mutations.find? fun mutation =>
        mutation.id = mutationId ∧ mutation.answered) = some mutation ∧
      mutation.version = some version ∧ next = traffic.finish mutation version := by
  obtain ⟨mutation, hfound, hmap⟩ := Option.bind_eq_some_iff.mp h
  obtain ⟨version, hversion, hnext⟩ := Option.map_eq_some_iff.mp hmap
  exact ⟨mutation, version, hfound, hversion, hnext.symm⟩

/-- Every call that waits keeps asking for mutations that have returned. -/
theorem floors_step {label : DaclStep} (h : traffic.step label = some next)
    (hfloors : Floors traffic) : Floors next := by
  cases label with
  | list =>
      cases h
      exact hfloors.listSummaries
  | send =>
      obtain ⟨task, _, rfl⟩ := Option.map_eq_some_iff.mp h
      exact hfloors
  | deliver version raw =>
      rw [deliver_eq h]
      exact fun _ hnone => by cases hnone
  | fail =>
      obtain ⟨task, _, rfl⟩ := Option.map_eq_some_iff.mp h
      exact fun _ hnone => by cases hnone
  | begin change =>
      cases h
      exact hfloors.begin change
  | commit mutationId =>
      obtain ⟨mutation, _, rfl⟩ := Option.map_eq_some_iff.mp h
      exact hfloors
  | answered mutationId =>
      obtain ⟨mutation, _, rfl⟩ := Option.map_eq_some_iff.mp h
      exact hfloors.iseAnswered mutation
  | finish mutationId =>
      obtain ⟨mutation, version, _, _, rfl⟩ := finish_eq h
      exact FloorsWithin.returns hfloors _
  | tick now | abandon mutationId | change =>
      cases h
      exact hfloors

end DaclTraffic

end IsePortal
