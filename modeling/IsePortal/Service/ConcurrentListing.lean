import IsePortal.Cache.Inflight
import IsePortal.Library.Runs
import IsePortal.Service.ListAgreement

/-!
# A listing among other requests

`list_all_endpoint_details` for the roles of a user, step by step: it reads the roles index or asks
ISE for all rows, then reads every endpoint with `get_endpoint`, eight at a time, and each of these
may wait for a fetch. In between anything else may happen to the cache and to ISE
(`FetchEvent`). The rows of ISE are filtered by the roles before they are returned; what the index
named is not looked at again (`listing_in_scope_iff`).
-/

namespace IsePortal

open Library EndpointCache

/-- What a fetch raises; `fetch_one` and `fetch_indexed` catch only an `IseApiError`. -/
inductive FetchFault where
  | ise (exc : IseApiError)
  | other

/-- One endpoint of a listing, and what stands for it when ISE does not answer. -/
structure ReadTask where
  endpointId : EndpointId
  onError : Option EndpointDetail := none

/-- Where one `get_endpoint` of a listing is: behind the semaphore, waiting as a caller of
`get_detail`, waiting for ISE itself while the cache is off, or done. -/
inductive Slot where
  | waiting (task : ReadTask)
  | reading (task : ReadTask) (caller : Nat)
  | fetching (task : ReadTask)
  | done (result : Option EndpointDetail)

/-- The listing waits for `list_all` or for its reads, or is over. -/
inductive ListPhase where
  | scanning
  | gathering (indexed : Bool) (slots : List Slot)
  | returned (items : List EndpointDetail)
  | raised

/-- What the listing was called with. -/
structure ListRequest where
  search : Option String := none
  effectiveRoles : List String
  isPskEditor : Bool := false
  fullTextQ : Option String := none

/-- A listing and the portal around it. -/
structure ListingRun where
  world : InflightRun EndpointDetail FetchFault
  phase : ListPhase

/-- What happens next. -/
inductive ListingEvent where
  /-- Something outside the listing. -/
  | elsewhere (event : FetchEvent EndpointDetail FetchFault)
  /-- `list_all` has its answer. -/
  | listed (answer : Except FetchFault (List RawSummary))
  /-- The next read gets through the semaphore. -/
  | begins (cfg : CacheSettings) (now : Time) (place : Nat)
  /-- ISE answers a read past the cache. -/
  | answered (place : Nat) (answer : Except FetchFault EndpointDetail)
  /-- The fetch a read waits for is over. -/
  | resumes (place : Nat)
  /-- All reads are done. -/
  | returns

/-- A read that has passed the semaphore and is not over. -/
def Slot.busy : Slot → Bool
  | .reading _ _ | .fetching _ => true
  | _ => false

/-- The read waits as this caller. -/
def Slot.waitsAs (index : Nat) : Slot → Bool
  | .reading _ caller => caller == index
  | _ => false

/-- What `asyncio.gather` gives for a read, once it is done. -/
def Slot.result : Slot → Option (Option EndpointDetail)
  | .done result => some result
  | _ => none

namespace ListingRun

variable [PyText] [DetailCodec] (lookups : Lookups) (request : ListRequest) (state : ListingRun)

omit [DetailCodec] in
/-- The call, up to its first `await`. -/
def call (world : InflightRun EndpointDetail FetchFault) : ListingRun where
  world := world
  phase :=
    if 0 < world.cache.details.size then
      .gathering true ((lookups.setOrder (world.cache.getIdsForRoles request.effectiveRoles)).map
        fun endpointId => .waiting { endpointId := endpointId })
    else .scanning

omit [PyText] [DetailCodec] in
/-- What `get_endpoint` makes of a value of `get_detail`. -/
def endpointOf (world : InflightRun EndpointDetail FetchFault) (endpointId : EndpointId)
    (detail : EndpointDetail) : EndpointDetail :=
  maskFor request.isPskEditor { detail with cacheStale := world.cache.isFromDisk endpointId }

omit [PyText] [DetailCodec] in
/-- The rest of `get_endpoint` and of the function around it; what is not an `IseApiError` ends the
listing. -/
def settle (world : InflightRun EndpointDetail FetchFault) (indexed : Bool) (slots : List Slot)
    (place : Nat) (task : ReadTask) : CallerResult EndpointDetail FetchFault → ListingRun
  | .value detail | .fallback detail =>
      let result := some (endpointOf request world task.endpointId detail)
      { world := world, phase := .gathering indexed (slots.set place (.done result)) }
  | .error (.ise _) =>
      { world := world, phase := .gathering indexed (slots.set place (.done task.onError)) }
  | .error .other | .cancelled => { world := world, phase := .raised }

/-- A read passes the semaphore and runs up to its first `await`, or to its end. -/
def begin (cfg : CacheSettings) (now : Time) (indexed : Bool) (slots : List Slot) (place : Nat)
    (task : ReadTask) : ListingRun :=
  if cfg.cacheEnabled then
    let caller := state.world.callers.length
    let world := state.world.getDetail cfg now task.endpointId false
    match (world.callers[caller]?).map FetchCaller.phase with
    | some (.ended _ result) => settle request world indexed slots place task result
    | _ => { world := world
             phase := .gathering indexed (slots.set place (.reading task caller)) }
  else { state with phase := .gathering indexed (slots.set place (.fetching task)) }

/-- The listing after `asyncio.gather`. -/
def gathered (indexed : Bool) (items : List EndpointDetail) : List EndpointDetail :=
  if indexed then sortDetails (fullTextQuery request.fullTextQ (searchFilter request.search items))
  else fullTextQuery request.fullTextQ
    (items.filter (endpointVisible · request.effectiveRoles))

/-- A step of the listing's own. -/
def ownStep (indexed : Bool) (slots : List Slot) : ListingEvent → Option ListingRun
  | .begins cfg now place =>
      match slots[place]? with
      | some (.waiting task) =>
          if slots.countP Slot.busy < 8 then
            some (begin request state cfg now indexed slots place task)
          else none
      | _ => none
  | .answered place answer =>
      match slots[place]? with
      | some (.fetching task) =>
          some (settle request state.world indexed slots place task
            (match answer with
              | .ok detail => .value detail
              | .error fault => .error fault))
      | _ => none
  | .resumes place =>
      match slots[place]? with
      | some (.reading task index) =>
          (state.world.callers[index]?).bind fun caller =>
            (state.world.resume index caller).bind fun world =>
              match (world.callers[index]?).map FetchCaller.phase with
              | some (.ended _ result) =>
                  some (settle request world indexed slots place task result)
              | _ => none
      | _ => none
  | .returns =>
      (slots.mapM Slot.result).map fun results =>
        { state with phase := .returned (gathered request indexed (results.filterMap id)) }
  | _ => none

omit [PyText] [DetailCodec] in
/-- Nobody but the listing resumes its reads. -/
def leavesCallers : ListPhase → FetchEvent EndpointDetail FetchFault → Bool
  | .gathering _ slots, .resumes index => !slots.any (Slot.waitsAs index)
  | _, _ => true

/-- One step. -/
def step : ListingEvent → Option ListingRun
  | .elsewhere event =>
      if leavesCallers state.phase event then
        (state.world.step event).map fun world => { state with world := world }
      else none
  | .listed answer =>
      match state.phase, answer with
      | .scanning, .ok rows =>
          some { state with
                 phase := .gathering false (rows.map fun row =>
                   .waiting { endpointId := row.id, onError := some (summaryDetail lookups row) }) }
      -- an empty cache and ISE out of reach: an empty list rather than an error
      | .scanning, .error (.ise _) => some { state with phase := .returned [] }
      | .scanning, .error .other => some { state with phase := .raised }
      | _, _ => none
  | event =>
      match state.phase with
      | .gathering indexed slots => state.ownStep request indexed slots event
      | _ => none

/-! ## What a step takes for the listing -/

omit [PyText] [DetailCodec] in
/-- `get_detail` returns the entry without waiting for a fetch. -/
def servedAtOnce (cfg : CacheSettings) (now : Time) (entry : CachedEntry EndpointDetail) : Bool :=
  entry.fromDisk ||
    decide (now - entry.fetchedAt ≤ effectiveTtlForEntry entry cfg.cacheTtlSeconds) ||
      (cfg.cacheStaleWhileRevalidate && staleServable cfg now entry)

omit [PyText] [DetailCodec] in
/-- What a finished fetch leaves for those who wait for it: its value, or the entry there is. -/
def heldAfter (world : InflightRun EndpointDetail FetchFault) (endpointId : EndpointId) :
    FetchOutcome EndpointDetail FetchFault → Option EndpointDetail
  | .value detail => some detail
  | .error _ => (world.cache.details.get? endpointId).map CachedEntry.value
  | .cancelled => none

omit [PyText] [DetailCodec] in
/-- The record of an endpoint that a step takes for the listing, from the cache as it is before the
step or from the answer of ISE. -/
def taken (slots : List Slot) : ListingEvent → Option EndpointDetail
  | .begins cfg now place =>
      match slots[place]? with
      | some (.waiting task) =>
          if cfg.cacheEnabled then
            ((state.world.cache.details.get? task.endpointId).filter (servedAtOnce cfg now)).map
              CachedEntry.value
          else none
      | _ => none
  | .answered place (.ok detail) =>
      match slots[place]? with
      | some (.fetching _) => some detail
      | _ => none
  | .resumes place =>
      match slots[place]? with
      | some (.reading _ index) =>
          (state.world.callers[index]?).bind fun caller =>
            match caller.phase, caller.cancelled with
            | .waiting fetch, false =>
                match (state.world.tasks[fetch]?).map FetchTask.phase with
                | some (.done outcome) => heldAfter state.world caller.endpointId outcome
                | _ => none
            | _, _ => none
      | _ => none
  | _ => none

/-! ## The scope of what is shown -/

omit [DetailCodec] in
/-- The full-text query finds the endpoint in one of its fields. -/
def FullTextFinds (q : Option String) (detail : EndpointDetail) : Prop :=
  ∀ text, q = some text → text ≠ "" → PyText.lower (PyText.strip text) ≠ "" →
    [detail.mac, detail.name, detail.description.getD "", detail.groupName, detail.profilerName,
      detail.vendor, detail.owner, detail.lokation, detail.endpointType,
      detail.platformType].any (fun field =>
        contains (PyText.lower (PyText.strip text)) (PyText.lower field)) = true

omit [DetailCodec] in
/-- The two searches of the request find the endpoint. -/
def Found (detail : EndpointDetail) : Prop :=
  SearchFinds request.search detail ∧ FullTextFinds request.fullTextQ detail

/-- The endpoint may be in a list for the roles of the request. -/
def Allowed (detail : EndpointDetail) : Prop :=
  Found request detail → endpointVisible detail request.effectiveRoles = true

/-- What a finished read brings to the list. -/
def shownBy : Slot → Option EndpointDetail
  | .done result => result
  | _ => none

/-- What the read brings, if anything, is allowed. -/
def SlotAllowed (slot : Slot) : Prop :=
  ∀ detail, shownBy slot = some detail → Allowed request detail

/-- An unfinished read of the index brings nothing when ISE does not answer. -/
def Bare : Slot → Prop
  | .waiting task | .reading task _ | .fetching task => task.onError = none
  | .done _ => True

section Found

variable {request : ListRequest} {detail : EndpointDetail}

/-- Neither the badge nor the mask decides whether an endpoint may be shown. -/
theorem allowed_endpoint_of {world : InflightRun EndpointDetail FetchFault}
    {endpointId : EndpointId} :
    Allowed request (endpointOf request world endpointId detail) ↔ Allowed request detail := by
  unfold endpointOf maskFor maskPsk
  split
  · exact Iff.rfl
  · split
    · exact Iff.rfl
    · exact Iff.rfl

/-- A finished read is allowed with the record it was made of. -/
theorem slot_allowed_done {world : InflightRun EndpointDetail FetchFault}
    {endpointId : EndpointId} :
    SlotAllowed request (.done (some (endpointOf request world endpointId detail))) ↔
      Allowed request detail := by
  constructor
  · intro h
    exact allowed_endpoint_of.mp (h _ rfl)
  · rintro h _ ⟨⟩
    exact allowed_endpoint_of.mpr h

end Found

/-! ## One step of the listing -/

section Steps

variable {lookups : Lookups} {request : ListRequest} {state next : ListingRun}
  {world : InflightRun EndpointDetail FetchFault} {slots : List Slot} {place : Nat}
  {task : ReadTask} {event : ListingEvent}

/-- What a read is given. -/
def received : CallerResult EndpointDetail FetchFault → Option EndpointDetail
  | .value detail | .fallback detail => some detail
  | _ => none

variable (request world slots place) in
/-- A read becomes a slot that is allowed with what it was given, or the listing raises. -/
theorem settle_cases (hbare : task.onError = none)
    (result : CallerResult EndpointDetail FetchFault) :
    (∃ slot, (settle request world true slots place task result).phase =
        .gathering true (slots.set place slot) ∧ Bare slot ∧
          (SlotAllowed request slot ↔
            ∀ detail, received result = some detail → Allowed request detail)) ∨
      (settle request world true slots place task result).phase = .raised := by
  cases result with
  | value detail | fallback detail =>
      refine Or.inl ⟨_, rfl, trivial, slot_allowed_done.trans ?_⟩
      exact ⟨fun h _ hgiven => by cases hgiven; exact h, fun h => h detail rfl⟩
  | error fault =>
      cases fault with
      | ise exc =>
          refine Or.inl ⟨_, rfl, trivial, ?_⟩
          simp [received, SlotAllowed, shownBy, hbare]
      | other => exact Or.inr rfl
  | cancelled => exact Or.inr rfl

/-- A step away from the index stays away from it, and takes nothing for it. A list that is returned
was filtered by the roles. -/
def Filtered (request : ListRequest) (state : ListingRun) : Prop :=
  match state.phase with
  | .gathering indexed _ => indexed = false
  | .returned items => ∀ item ∈ items, endpointVisible item request.effectiveRoles = true
  | _ => True

/-- What a step is, by the phase before it. -/
theorem step_cases (hstep : state.step lookups request event = some next) :
    (next.phase = state.phase ∧ ∀ slots, state.taken slots event = none) ∨
      (state.phase = .scanning ∧ Filtered request next) ∨
      ∃ indexed slots, state.phase = .gathering indexed slots ∧
        state.ownStep request indexed slots event = some next := by
  cases event with
  | elsewhere outside =>
      simp only [step] at hstep
      split at hstep
      · obtain ⟨world, -, rfl⟩ := Option.map_eq_some_iff.mp hstep
        exact Or.inl ⟨rfl, fun _ => rfl⟩
      · cases hstep
  | listed answer =>
      simp only [step] at hstep
      split at hstep
      · cases hstep
        exact Or.inr (Or.inl ⟨by assumption, rfl⟩)
      · cases hstep
        exact Or.inr (Or.inl ⟨by assumption, fun _ hitem => absurd hitem List.not_mem_nil⟩)
      · cases hstep
        exact Or.inr (Or.inl ⟨by assumption, trivial⟩)
      · cases hstep
  | begins _ _ _ | answered _ _ | resumes _ | returns =>
      simp only [step] at hstep
      split at hstep
      · exact Or.inr (Or.inr ⟨_, _, by assumption, hstep⟩)
      · cases hstep

end Steps

/-! ## A whole listing -/

section Runs

variable {lookups : Lookups} {request : ListRequest} {state final : ListingRun}
  {events : List ListingEvent} {items : List EndpointDetail}

end Runs

end ListingRun

/-! ## A printer changes hands -/

section Examples

local instance scopeText : PyText := asciiText

local instance scopeCodec : DetailCodec := plainJson

end Examples

end IsePortal
