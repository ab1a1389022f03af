import Mathlib.Data.List.Infix

/-!
# Stale endpoints

`get_stale_endpoints` of `app/api/lifecycle.py` over the audit log, which `prune_older_than` of
`app/core/audit_store.py` cuts. The endpoints listed are those of the cache without an event in the
log since the threshold; a query that fails finds none, and so lists every endpoint.
-/

namespace IsePortal.Lifecycle

/-- A moment in microseconds. -/
abbrev Moment := Int

/-- A number of days. -/
def dayMicros : Int := 86400 * 1000000

/-- The second a moment is in. -/
def second (moment : Moment) : Int := moment / 1000000

/-- `strftime("%Y-%m-%dT%H:%M:%S")` of a second in UTC; `none` outside the years of `datetime`. -/
class UtcCalendar where
  stamp : Int → Option String

/-- A stamp has 19 characters, and later stamps are larger texts. -/
class LawfulCalendar [UtcCalendar] : Prop where
  length_stamp : ∀ {seconds : Int} {text : String},
    UtcCalendar.stamp seconds = some text → text.toList.length = 19
  lt_iff : ∀ {seconds other : Int} {text otherText : String},
    UtcCalendar.stamp seconds = some text → UtcCalendar.stamp other = some otherText →
      (text < otherText ↔ seconds < other)

/-! ## The log -/

/-- A row of the log, as far as the listing reads it. -/
structure LogRow where
  ts : String
  action : String
  resourceType : String
  resourceId : Option String

/-- A write of the portal to an endpoint. -/
inductive PortalWrite where
  /-- `create_endpoint`: the id ISE gave the endpoint, and whether the answer had it. -/
  | create (endpoint mac : String) (located : Bool)
  | update (endpoint : String)
  | delete (endpoint : String)
  | decommission (endpoint : String)
  | undecommission (endpoint : String)
  | setActiveStatus (endpoint : String)
  /-- One endpoint of `bulk_apply_template`. -/
  | applyTemplate (endpoint : String)

namespace PortalWrite

/-- The endpoint in ISE. -/
def endpoint : PortalWrite → String
  | create endpoint _ _ | update endpoint | delete endpoint | decommission endpoint
  | undecommission endpoint | setActiveStatus endpoint | applyTemplate endpoint => endpoint

/-- The action of the record. -/
def action : PortalWrite → String
  | create _ _ _ => "created"
  | update _ | setActiveStatus _ => "updated"
  | delete _ => "deleted"
  | decommission _ => "decommissioned"
  | undecommission _ => "undecommissioned"
  | applyTemplate _ => "template_applied"

/-- The id of the record: `new_id or req.mac` for a creation. -/
def resourceId : PortalWrite → String
  | create endpoint mac located =>
      let newId := if located then endpoint else ""
      if newId = "" then mac else newId
  | write => write.endpoint

end PortalWrite

/-- What happens to the log: a write with its record, another record, or a pruning. -/
inductive LogEvent where
  | write (write : PortalWrite)
  | other (action resourceType : String) (resourceId : Option String)
  /-- `_prune_once` with `audit_retention_days`. -/
  | prune (retentionDays : Nat)

/-- The events of the log with their moments, oldest first. -/
abbrev History := List (Moment × LogEvent)

section

variable [UtcCalendar]

/-- `isoformat(timespec="seconds")` in UTC -/
def isoformat (seconds : Int) : Option String :=
  (UtcCalendar.stamp seconds).map fun text => text ++ "+00:00"

/-- The second before which `prune_older_than` deletes. -/
def cutoff (moment : Moment) (retentionDays : Nat) : Int :=
  second (moment - retentionDays * dayMicros)

/-- `_insert_sync`; a failure is logged. -/
def insert (rows : List LogRow) (moment : Moment) (action resourceType : String)
    (resourceId : Option String) : List LogRow :=
  match isoformat (second moment) with
  | none => rows
  | some ts => rows ++ [⟨ts, action, resourceType, resourceId⟩]

/-- The log after an event. -/
def step (rows : List LogRow) (event : Moment × LogEvent) : List LogRow :=
  match event.2 with
  | .write write => insert rows event.1 write.action "endpoint" (some write.resourceId)
  | .other action resourceType resourceId => insert rows event.1 action resourceType resourceId
  | .prune retentionDays =>
      if retentionDays = 0 then rows
      else
        match isoformat (cutoff event.1 retentionDays) with
        | none => rows
        | some cutoffIso => rows.filter fun row => ¬ row.ts < cutoffIso

/-- The log after a history. -/
def rowsAfter (history : History) : List LogRow := history.foldl step []

end

/-! ## The listing -/

/-- A detail of the cache. -/
structure CachedDetail where
  mac : Option String
  groupName : Option String
  profile : Option String
  owner : Option String

/-- `value or default` -/
def orText (value : Option String) (default : String) : String :=
  match value with
  | none => default
  | some text => if text = "" then default else text

/-- An endpoint of the listing. -/
structure StaleEntry where
  id : String
  mac : String
  groupName : String
  profile : String
  owner : String

structure StaleResponse where
  stale : List StaleEntry
  totalCached : Nat
  staleCount : Nat
  thresholdDays : Nat
  cacheLoading : Bool

/-- `MAX(ts)` -/
def maxTs : List String → Option String
  | [] => none
  | ts :: rest =>
      match maxTs rest with
      | none => some ts
      | some other => some (if ts ≤ other then other else ts)

/-- The rows of an endpoint have a newest one from the threshold on. -/
def isActive (rows : List LogRow) (threshold id : String) : Bool :=
  let own := rows.filter fun row => row.resourceType = "endpoint" ∧ row.resourceId = some id
  (maxTs (own.map LogRow.ts)).any fun lastTs => decide (threshold ≤ lastTs)

/-- What becomes of the query: it may fail, and it takes no more than so many parameters. -/
structure QueryOutcome where
  fails : Bool
  maxVariables : Nat

/-- The query answers: the ids and the threshold fit into its parameters, and nothing fails. -/
def QueryOutcome.answers (outcome : QueryOutcome) (ids : List String) : Bool :=
  !outcome.fails && decide (ids.length + 1 ≤ outcome.maxVariables)

/-- `active_ids`; empty where the query raises. -/
def activeIds (rows : List LogRow) (outcome : QueryOutcome) (threshold : String)
    (ids : List String) : List String :=
  if outcome.answers ids then ids.filter (isActive rows threshold) else []

/-- The entry of an endpoint. -/
def staleEntry (id : String) (value : Option CachedDetail) : StaleEntry where
  id := id
  mac := orText (value.bind CachedDetail.mac) id
  groupName := orText (value.bind CachedDetail.groupName) ""
  profile := orText (value.bind CachedDetail.profile) ""
  owner := orText (value.bind CachedDetail.owner) ""

variable [UtcCalendar]

/-- `get_stale_endpoints` over the entries of the cache; `none` where the threshold is no date. -/
def getStaleEndpoints (rows : List LogRow) (outcome : QueryOutcome)
    (cache : List (String × Option CachedDetail)) (cacheReady : Bool) (now : Moment) (days : Nat) :
    Option StaleResponse :=
  if cache = [] then some ⟨[], 0, 0, days, !cacheReady⟩
  else
    (UtcCalendar.stamp (second (now - days * dayMicros))).map fun thresholdIso =>
      let active := activeIds rows outcome thresholdIso (cache.map Prod.fst)
      let stale := (cache.filter fun entry => entry.1 ∉ active).map fun entry =>
        staleEntry entry.1 entry.2
      let sorted := stale.mergeSort fun first second => decide (first.mac ≤ second.mac)
      ⟨sorted, cache.length, sorted.length, days, false⟩

/-! ## The order of the texts -/

omit [UtcCalendar] in
theorem append_lt_append_iff {first second : List Char} (h : first.length = second.length)
    (rest others : List Char) :
    first ++ rest < second ++ others ↔ first < second ∨ first = second ∧ rest < others := by
  induction first generalizing second with
  | nil =>
      rw [List.eq_nil_of_length_eq_zero h.symm]
      simp
  | cons char first ih =>
      cases second with
      | nil => cases h
      | cons other second =>
          rw [List.cons_append, List.cons_append, List.cons_lt_cons_iff, List.cons_lt_cons_iff,
            ih (Nat.succ.inj h), List.cons.injEq]
          tauto

section Order

variable [LawfulCalendar] {seconds other : Int} {text otherText ts otherTs : String}

/-- The zone of a record makes it larger than the stamp of its second, and no stamp of a later
one. -/
theorem threshold_le_iff (hts : isoformat seconds = some ts)
    (htext : UtcCalendar.stamp other = some text) : text ≤ ts ↔ other ≤ seconds := by
  obtain ⟨own, hown, rfl⟩ := Option.map_eq_some_iff.mp hts
  have hlength : own.toList.length = text.toList.length := by
    rw [LawfulCalendar.length_stamp hown, LawfulCalendar.length_stamp htext]
  have hlt : own ++ "+00:00" < text ↔ own < text := by
    have happend := append_lt_append_iff hlength "+00:00".toList []
    rw [List.append_nil] at happend
    rw [String.lt_iff, String.toList_append, happend, ← String.lt_iff]
    simp
  rw [← String.not_lt, hlt, LawfulCalendar.lt_iff hown htext]
  exact Int.not_lt

theorem record_lt_iff (hts : isoformat seconds = some ts)
    (hother : isoformat other = some otherTs) : ts < otherTs ↔ seconds < other := by
  obtain ⟨own, hown, rfl⟩ := Option.map_eq_some_iff.mp hts
  obtain ⟨text, htext, rfl⟩ := Option.map_eq_some_iff.mp hother
  have hlength : own.toList.length = text.toList.length := by
    rw [LawfulCalendar.length_stamp hown, LawfulCalendar.length_stamp htext]
  rw [String.lt_iff, String.toList_append, String.toList_append, append_lt_append_iff hlength,
    ← String.lt_iff, LawfulCalendar.lt_iff hown htext]
  simp [List.lt_irrefl]

end Order

omit [UtcCalendar] in
/-- The newest text is from the threshold on where one of them is. -/
theorem maxTs_any_iff (texts : List String) (threshold : String) :
    ((maxTs texts).any fun last => decide (threshold ≤ last)) = true ↔
      ∃ ts ∈ texts, threshold ≤ ts := by
  induction texts with
  | nil => simp [maxTs]
  | cons ts rest ih =>
      rw [maxTs]
      cases hrest : maxTs rest with
      | none =>
          rw [hrest] at ih
          simp only [Option.any_some, decide_eq_true_eq, List.exists_mem_cons_iff, ← ih,
            Option.any_none, Bool.false_eq_true, or_false]
      | some other =>
          rw [hrest, Option.any_some, decide_eq_true_eq] at ih
          rw [List.exists_mem_cons_iff, ← ih, Option.any_some, decide_eq_true_eq]
          split
          · next hle => exact ⟨.inr, fun h => h.elim (fun hts => String.le_trans hts hle) id⟩
          · next hnot =>
              have hle : other ≤ ts := (String.le_total ts other).resolve_left hnot
              exact ⟨.inl, fun h => h.elim id fun hother => String.le_trans hother hle⟩

/-! ## What the log holds -/

/-- The row of an event. -/
def eventRow (event : Moment × LogEvent) : Option LogRow :=
  match event.2 with
  | .write write => (isoformat (second event.1)).map fun ts =>
      ⟨ts, write.action, "endpoint", some write.resourceId⟩
  | .other action resourceType resourceId => (isoformat (second event.1)).map fun ts =>
      ⟨ts, action, resourceType, resourceId⟩
  | .prune _ => none

/-- The event deletes the row. -/
def deletes (event : Moment × LogEvent) (row : LogRow) : Bool :=
  match event.2 with
  | .prune retentionDays => retentionDays ≠ 0 &&
      (isoformat (cutoff event.1 retentionDays)).any fun cutoffIso => decide (row.ts < cutoffIso)
  | _ => false

/-- An event adds its row and keeps those it does not delete. -/
theorem mem_step {rows : List LogRow} {event : Moment × LogEvent} {row : LogRow} :
    row ∈ step rows event ↔ row ∈ rows ∧ deletes event row = false ∨ eventRow event = some row := by
  obtain ⟨moment, event⟩ := event
  have hinsert : ∀ (action resourceType : String) (resourceId : Option String),
      row ∈ insert rows moment action resourceType resourceId ↔ row ∈ rows ∨
        (isoformat (second moment)).map (fun ts =>
          (⟨ts, action, resourceType, resourceId⟩ : LogRow)) = some row := by
    intro action resourceType resourceId
    rw [insert]
    cases isoformat (second moment) with
    | none => simp
    | some ts => simp [eq_comm]
  cases event with
  | write write => simpa [step, deletes, eventRow] using hinsert _ _ _
  | other action resourceType resourceId =>
      simpa [step, deletes, eventRow] using hinsert _ _ _
  | prune retentionDays =>
      by_cases hzero : retentionDays = 0
      · simp [step, deletes, eventRow, hzero]
      · cases hiso : isoformat (cutoff moment retentionDays) <;>
          simp [step, deletes, eventRow, hzero, hiso, List.mem_filter]

/-- A row of the log is that of an event that no later event deleted. -/
theorem mem_rowsAfter {history : History} {row : LogRow} :
    row ∈ rowsAfter history ↔ ∃ before event later, history = before ++ event :: later ∧
      eventRow event = some row ∧ ∀ other ∈ later, deletes other row = false := by
  induction history using List.reverseRecOn with
  | nil => simp [rowsAfter]
  | append_singleton history last ih =>
      have hstep : rowsAfter (history ++ [last]) = step (rowsAfter history) last := by
        rw [rowsAfter, List.foldl_append]
        rfl
      rw [hstep, mem_step, ih]
      constructor
      · rintro (⟨⟨before, event, later, rfl, hrow, hkept⟩, hlast⟩ | hrow)
        · refine ⟨before, event, later ++ [last], by simp, hrow, fun other hother => ?_⟩
          rcases List.mem_append.mp hother with hother | hother
          · exact hkept other hother
          · rwa [List.mem_singleton.mp hother]
        · exact ⟨history, last, [], rfl, hrow, fun other hother => absurd hother List.not_mem_nil⟩
      · rintro ⟨before, event, later, heq, hrow, hkept⟩
        rcases List.eq_nil_or_concat later with rfl | ⟨front, final, rfl⟩
        · obtain ⟨-, hevent⟩ := List.append_inj' heq rfl
          exact .inr ((List.cons.inj hevent).1 ▸ hrow)
        · rw [List.concat_eq_append] at heq hkept
          rw [← List.cons_append, ← List.append_assoc] at heq
          obtain ⟨hhistory, hfinal⟩ := List.append_inj' heq rfl
          refine .inl ⟨⟨before, event, front, hhistory, hrow, fun other hother => ?_⟩, ?_⟩
          · exact hkept other (List.mem_append_left _ hother)
          · rw [(List.cons.inj hfinal).1]
            exact hkept final (List.mem_append_right _ List.mem_cons_self)

/-! ## Stale is inactive -/

/-- The portal wrote to the endpoint since the moment. -/
def WrittenSince (history : History) (since : Moment) (id : String) : Prop :=
  ∃ moment write, (moment, .write write) ∈ history ∧ write.endpoint = id ∧ since ≤ moment

/-- The resource an event has its record under. -/
def recordOf : LogEvent → Option (String × Option String)
  | .write write => some ("endpoint", some write.resourceId)
  | .other _ resourceType resourceId => some (resourceType, resourceId)
  | .prune _ => none

/-- The log has a record under the id of the endpoint from the second of the moment on, and no later
pruning reached it. -/
def KeptSince (history : History) (since : Moment) (id : String) : Prop :=
  ∃ before event later, history = before ++ event :: later ∧
    recordOf event.2 = some ("endpoint", some id) ∧ second since ≤ second event.1 ∧
      ∀ other ∈ later, ∀ retentionDays, other.2 = .prune retentionDays → retentionDays ≠ 0 →
        (isoformat (cutoff other.1 retentionDays)).isSome = true →
          cutoff other.1 retentionDays ≤ second event.1

/-- The clock of the portal is within the years of `datetime`. -/
def InYears (history : History) : Prop :=
  ∀ event ∈ history, (UtcCalendar.stamp (second event.1)).isSome = true

theorem eventRow_spec {event : Moment × LogEvent} {row : LogRow} (h : eventRow event = some row) :
    isoformat (second event.1) = some row.ts ∧
      recordOf event.2 = some (row.resourceType, row.resourceId) := by
  obtain ⟨moment, event⟩ := event
  cases event with
  | write write =>
      obtain ⟨ts, hts, rfl⟩ := Option.map_eq_some_iff.mp h
      exact ⟨hts, rfl⟩
  | other action resourceType resourceId =>
      obtain ⟨ts, hts, rfl⟩ := Option.map_eq_some_iff.mp h
      exact ⟨hts, rfl⟩
  | prune retentionDays => cases h

theorem exists_eventRow {event : Moment × LogEvent} {ts resourceType : String}
    {resourceId : Option String} (hts : isoformat (second event.1) = some ts)
    (h : recordOf event.2 = some (resourceType, resourceId)) :
    ∃ row, eventRow event = some row ∧ row.ts = ts ∧ row.resourceType = resourceType ∧
      row.resourceId = resourceId := by
  obtain ⟨moment, event⟩ := event
  cases event with
  | write write =>
      cases h
      exact ⟨⟨ts, write.action, "endpoint", some write.resourceId⟩,
        congrArg (Option.map _) hts, rfl, rfl, rfl⟩
  | other action type id =>
      cases h
      exact ⟨⟨ts, action, resourceType, resourceId⟩, congrArg (Option.map _) hts, rfl, rfl, rfl⟩
  | prune retentionDays => cases h

section Kept

variable [LawfulCalendar]

/-- A pruning keeps a row from its cutoff on. -/
theorem deletes_eq_false_iff {other : Moment × LogEvent} {row : LogRow} {seconds : Int}
    (hts : isoformat seconds = some row.ts) :
    deletes other row = false ↔ ∀ retentionDays, other.2 = .prune retentionDays →
      retentionDays ≠ 0 → (isoformat (cutoff other.1 retentionDays)).isSome = true →
        cutoff other.1 retentionDays ≤ seconds := by
  obtain ⟨moment, event⟩ := other
  cases event with
  | write write => simp [deletes]
  | other action resourceType resourceId => simp [deletes]
  | prune retentionDays =>
      simp only [LogEvent.prune.injEq, forall_eq', deletes, Bool.and_eq_false_iff,
        decide_eq_false_iff_not, not_not]
      cases hiso : isoformat (cutoff moment retentionDays) with
      | none => simp
      | some cutoffIso =>
          simp only [Option.any_some, Option.isSome_some, decide_eq_false_iff_not,
            record_lt_iff hts hiso, true_imp_iff, Int.not_lt]
          tauto

/-- The query finds an endpoint exactly where the log has kept a record of it. -/
theorem isActive_iff {history : History} {since : Moment} {threshold id : String}
    (hclock : InYears history) (hthreshold : UtcCalendar.stamp (second since) = some threshold) :
    isActive (rowsAfter history) threshold id = true ↔ KeptSince history since id := by
  rw [isActive, maxTs_any_iff]
  constructor
  · rintro ⟨ts, hts, hle⟩
    obtain ⟨row, hrow, rfl⟩ := List.mem_map.mp hts
    obtain ⟨hmem, hown⟩ := List.mem_filter.mp hrow
    obtain ⟨before, event, later, rfl, heventRow, hkept⟩ := mem_rowsAfter.mp hmem
    obtain ⟨hiso, hrecord⟩ := eventRow_spec heventRow
    obtain ⟨htype, hid⟩ := of_decide_eq_true hown
    refine ⟨before, event, later, rfl, by rw [hrecord, htype, hid], ?_, fun other hother => ?_⟩
    · exact (threshold_le_iff hiso hthreshold).mp hle
    · exact (deletes_eq_false_iff hiso).mp (hkept other hother)
  · rintro ⟨before, event, later, rfl, hrecord, hsince, hkept⟩
    obtain ⟨text, htext⟩ := Option.isSome_iff_exists.mp
      (hclock event (List.mem_append_right _ List.mem_cons_self))
    have hiso : isoformat (second event.1) = some (text ++ "+00:00") := by
      rw [isoformat, htext, Option.map_some]
    obtain ⟨row, hrow, hts, htype, hid⟩ := exists_eventRow hiso hrecord
    rw [← hts] at hiso
    refine ⟨row.ts, List.mem_map_of_mem (List.mem_filter.mpr ⟨?_, ?_⟩), ?_⟩
    · exact mem_rowsAfter.mpr ⟨before, event, later, rfl, hrow,
        fun other hother => (deletes_eq_false_iff hiso).mpr (hkept other hother)⟩
    · exact decide_eq_true ⟨htype, hid⟩
    · exact (threshold_le_iff hiso hthreshold).mpr hsince

/-- The endpoints of the listing. -/
theorem mem_stale_iff {history : History} {outcome : QueryOutcome}
    {cache : List (String × Option CachedDetail)} {cacheReady : Bool} {now : Moment} {days : Nat}
    {response : StaleResponse} (hclock : InYears history)
    (h : getStaleEndpoints (rowsAfter history) outcome cache cacheReady now days = some response)
    (id : String) :
    (∃ entry ∈ response.stale, entry.id = id) ↔ id ∈ cache.map Prod.fst ∧
      ¬ (outcome.answers (cache.map Prod.fst) = true ∧
        KeptSince history (now - days * dayMicros) id) := by
  rw [getStaleEndpoints] at h
  by_cases hempty : cache = []
  · rw [if_pos hempty] at h
    rw [← Option.some.inj h, hempty]
    simp
  · rw [if_neg hempty] at h
    obtain ⟨threshold, hthreshold, rfl⟩ := Option.map_eq_some_iff.mp h
    have hactive : ∀ other ∈ cache.map Prod.fst,
        other ∈ activeIds (rowsAfter history) outcome threshold (cache.map Prod.fst) ↔
          outcome.answers (cache.map Prod.fst) = true ∧
            KeptSince history (now - days * dayMicros) other := by
      intro other hother
      rw [activeIds, ← isActive_iff hclock hthreshold]
      cases outcome.answers (cache.map Prod.fst) <;> simp [hother]
    constructor
    · rintro ⟨entry, hentry, rfl⟩
      rw [List.mem_mergeSort] at hentry
      obtain ⟨cached, hcached, rfl⟩ := List.mem_map.mp hentry
      obtain ⟨hmem, hnot⟩ := List.mem_filter.mp hcached
      have hid : cached.1 ∈ cache.map Prod.fst := List.mem_map_of_mem hmem
      exact ⟨hid, fun hkept => of_decide_eq_true hnot ((hactive _ hid).mpr hkept)⟩
    · rintro ⟨hid, hnot⟩
      obtain ⟨cached, hmem, rfl⟩ := List.mem_map.mp hid
      refine ⟨staleEntry cached.1 cached.2, List.mem_mergeSort.mpr (List.mem_map_of_mem
        (List.mem_filter.mpr ⟨hmem, decide_eq_true fun hactiveId => ?_⟩)), rfl⟩
      exact hnot ((hactive _ hid).mp hactiveId)

omit [UtcCalendar] [LawfulCalendar] in
theorem second_le_second {first other : Moment} (h : first ≤ other) :
    second first ≤ second other :=
  Int.ediv_le_ediv (by decide) h

omit [LawfulCalendar] in
/-- An endpoint that was written to keeps a record where each write is recorded under the id of the
endpoint, and no pruning has a retention below the threshold. -/
theorem keptSince_of_writtenSince {history : History} {now : Moment} {days : Nat} {id : String}
    (hrecorded : ∀ moment write, (moment, .write write) ∈ history →
      write.resourceId = write.endpoint)
    (hpruned : ∀ moment retentionDays, (moment, .prune retentionDays) ∈ history → moment ≤ now ∧
      (retentionDays = 0 ∨ days ≤ retentionDays))
    (h : WrittenSince history (now - days * dayMicros) id) :
    KeptSince history (now - days * dayMicros) id := by
  obtain ⟨moment, write, hmem, rfl, hsince⟩ := h
  have hid := hrecorded moment write hmem
  obtain ⟨before, later, rfl⟩ := List.append_of_mem hmem
  refine ⟨before, _, later, rfl, by rw [recordOf, hid], second_le_second hsince, ?_⟩
  intro other hother retentionDays hprune hzero _
  have hin : (other.1, LogEvent.prune retentionDays) ∈ before ++ (moment, .write write) :: later :=
    List.mem_append_right _ (List.mem_cons_of_mem _ (hprune ▸ hother))
  obtain ⟨hbefore, hretention⟩ := hpruned _ _ hin
  have hdays : (days : Int) ≤ retentionDays := Int.ofNat_le.mpr (hretention.resolve_left hzero)
  have hlonger : (days : Int) * dayMicros ≤ retentionDays * dayMicros :=
    Int.mul_le_mul_of_nonneg_right hdays (by decide)
  exact second_le_second (Int.le_trans (Int.sub_le_sub hbefore hlonger) hsince)

/-- The listing has no endpoint the portal wrote to since the threshold exactly where the query
answers, and the log has kept a record under its id, for each such endpoint of the cache. -/
theorem stale_inactive_iff {history : History} {outcome : QueryOutcome}
    {cache : List (String × Option CachedDetail)} {cacheReady : Bool} {now : Moment} {days : Nat}
    {response : StaleResponse} (hclock : InYears history)
    (h : getStaleEndpoints (rowsAfter history) outcome cache cacheReady now days = some response) :
    (∀ entry ∈ response.stale, ¬ WrittenSince history (now - days * dayMicros) entry.id) ↔
      ∀ id ∈ cache.map Prod.fst, WrittenSince history (now - days * dayMicros) id →
        outcome.answers (cache.map Prod.fst) = true ∧
          KeptSince history (now - days * dayMicros) id := by
  constructor
  · intro hinactive id hid hwritten
    by_contra hnot
    obtain ⟨entry, hentry, rfl⟩ := (mem_stale_iff hclock h id).mpr ⟨hid, hnot⟩
    exact hinactive entry hentry hwritten
  · intro hkept entry hentry hwritten
    obtain ⟨hid, hnot⟩ := (mem_stale_iff hclock h entry.id).mp ⟨entry, hentry, rfl⟩
    exact hnot (hkept entry.id hid hwritten)

end Kept

/-! ## One update -/

/-- Two seconds a day apart, but for an hour. -/
@[reducible] def newYear : UtcCalendar where
  stamp seconds :=
    if seconds = 1735689600 then some "2025-01-01T00:00:00"
    else if seconds = 1735606800 then some "2024-12-31T01:00:00"
    else none

omit [UtcCalendar] in
theorem lawful_newYear : @LawfulCalendar newYear := by
  have hstamp : ∀ {seconds : Int} {text : String}, @UtcCalendar.stamp newYear seconds = some text →
      seconds = 1735689600 ∧ text = "2025-01-01T00:00:00" ∨
        seconds = 1735606800 ∧ text = "2024-12-31T01:00:00" := by
    intro seconds text h
    change (if seconds = 1735689600 then some "2025-01-01T00:00:00"
      else if seconds = 1735606800 then some "2024-12-31T01:00:00" else none) = some text at h
    by_cases hlate : seconds = 1735689600
    · rw [if_pos hlate] at h
      exact .inl ⟨hlate, (Option.some.inj h).symm⟩
    · rw [if_neg hlate] at h
      by_cases hearly : seconds = 1735606800
      · rw [if_pos hearly] at h
        exact .inr ⟨hearly, (Option.some.inj h).symm⟩
      · rw [if_neg hearly] at h
        cases h
  refine @LawfulCalendar.mk newYear ?_ ?_
  · intro seconds text h
    rcases hstamp h with ⟨-, rfl⟩ | ⟨-, rfl⟩ <;> decide
  · intro seconds other text otherText h hother
    rcases hstamp h with ⟨rfl, rfl⟩ | ⟨rfl, rfl⟩ <;>
      rcases hstamp hother with ⟨rfl, rfl⟩ | ⟨rfl, rfl⟩ <;> decide

/-- An endpoint is updated at new year. -/
def updateHistory : History := [(1735689600000000, .write (.update "printer"))]

/-- The cache has it and another one. -/
def twoEndpoints : List (String × Option CachedDetail) := [("printer", none), ("camera", none)]

/-- An hour later. -/
def anHourLater : Moment := 1735693200000000

omit [UtcCalendar] in
theorem inYears_update : @InYears newYear updateHistory := by
  intro event hevent
  rw [List.mem_singleton.mp hevent]
  decide

omit [UtcCalendar] in
/-- The other one alone is listed for a day. -/
theorem stale_inactive_printer :
    let _ := newYear
    let response : StaleResponse := ⟨[staleEntry "camera" none], 2, 1, 1, false⟩
    getStaleEndpoints (rowsAfter updateHistory) ⟨false, 32766⟩ twoEndpoints true anHourLater 1 =
      some response ∧
    ∀ entry ∈ response.stale,
      ¬ WrittenSince updateHistory (anHourLater - 1 * dayMicros) entry.id := by
  intro _ response
  have hlawful := lawful_newYear
  have hresponse : getStaleEndpoints (rowsAfter updateHistory) ⟨false, 32766⟩ twoEndpoints true
      anHourLater 1 = some response := by
    have hthreshold : UtcCalendar.stamp (second (anHourLater - (1 : Nat) * dayMicros)) =
        some "2024-12-31T01:00:00" := by decide
    have hactive : activeIds (rowsAfter updateHistory) ⟨false, 32766⟩ "2024-12-31T01:00:00"
        (twoEndpoints.map Prod.fst) = ["printer"] := by decide
    have hstale : (twoEndpoints.filter fun entry => entry.1 ∉ ["printer"]) = [("camera", none)] :=
      rfl
    rw [getStaleEndpoints, if_neg (by decide), hthreshold, Option.map_some]
    simp only [hactive, hstale, List.map_cons, List.map_nil, List.mergeSort_singleton]
    rfl
  refine ⟨hresponse, (stale_inactive_iff inYears_update hresponse).mpr fun id _ hwritten => ?_⟩
  refine ⟨by decide, keptSince_of_writtenSince (fun moment write hmem => ?_)
    (fun moment retentionDays hmem => ?_) hwritten⟩
  · cases List.mem_singleton.mp hmem
    rfl
  · cases List.mem_singleton.mp hmem

omit [UtcCalendar] in
/-- When the query fails, the endpoint that was updated an hour ago is listed as well. -/
theorem stale_inactive_fails :
    let _ := newYear
    ¬ ∀ (history : History) (outcome : QueryOutcome) (cache : List (String × Option CachedDetail))
      (cacheReady : Bool) (now : Moment) (days : Nat) (response : StaleResponse),
      1 ≤ days → days ≤ 730 → InYears history →
      getStaleEndpoints (rowsAfter history) outcome cache cacheReady now days = some response →
      ∀ entry ∈ response.stale, ¬ WrittenSince history (now - days * dayMicros) entry.id := by
  intro _ h
  have hlawful := lawful_newYear
  obtain ⟨response, hresponse⟩ : ∃ response, getStaleEndpoints (rowsAfter updateHistory)
      ⟨true, 32766⟩ twoEndpoints true anHourLater 1 = some response := ⟨_, rfl⟩
  obtain ⟨entry, hentry, hid⟩ := (mem_stale_iff inYears_update hresponse "printer").mpr
    ⟨by decide, fun hkept => absurd hkept.1 (by decide)⟩
  refine h _ _ _ _ _ _ _ (by decide) (by decide) inYears_update hresponse entry hentry ?_
  rw [hid]
  exact ⟨_, _, List.mem_cons_self, rfl, by decide⟩

end IsePortal.Lifecycle
