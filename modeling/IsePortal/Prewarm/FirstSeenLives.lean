import IsePortal.Prewarm.FirstSeenHistory
import Mathlib.Data.Rat.Floor

/-!
# The lives of a MAC

What a history of records and deletions says about a MAC at the end of a day, and what its row
still tells of it. A row has one beginning and one end: a record of another id moves the
beginning, so the life before it is lost, and any other record takes the end away, so the gap
before it is filled (`Lived`).
-/

namespace IsePortal.FirstSeenStore

open Library

/-- The date of a time, as the number of its day. -/
def day (ts : Time) : Int := ⌊ts / 86400⌋

theorem day_mono {ts later : Time} (h : ts ≤ later) : day ts ≤ day later :=
  Int.floor_le_floor (div_le_div_of_nonneg_right h (by norm_num))

variable [PyText]

omit [PyText] in
/-- Records and deletions only. -/
def NoImport (history : History) : Prop :=
  ∀ event ∈ history, ∀ backup replace, event.2 ≠ .importRows backup replace

omit [PyText] in
/-- Whether `record` takes the id for that of another endpoint. -/
def resets (endpointId : String) : Option FirstSeenRow → Bool
  | none => false
  | some row => endpointId ≠ "" && row.endpointId ≠ "" && row.endpointId ≠ endpointId

/-- Whether the MAC existed at the end of the day: the last call about it up to then was a
record. A seed says that it existed before its first record. -/
def existed (last : Int) (key : String) : History → Bool
  | [] => false
  | (now, .record mac _ seedTs) :: earlier =>
      if key = macKey mac then
        day now ≤ last ||
          match (table earlier).get? key with
          | none => day (insertTs now seedTs) ≤ last
          | some _ => existed last key earlier
      else existed last key earlier
  | (now, .delete mac) :: earlier =>
      if key = macKey mac ∧ day now ≤ last then false else existed last key earlier
  | (_, .importRows ..) :: earlier => existed last key earlier

/-- Whether the first record of the MAC, or its seed, is of that day or before. -/
def known (last : Int) (key : String) : History → Bool
  | [] => false
  | (now, .record mac _ seedTs) :: earlier =>
      if key = macKey mac ∧ (table earlier).get? key = none then
        day (insertTs now seedTs) ≤ last
      else known last key earlier
  | (_, .delete _) :: earlier => known last key earlier
  | (_, .importRows ..) :: earlier => known last key earlier

/-- Whether the MAC was recorded after the day with another id than the stored one. -/
def replaced (last : Int) (key : String) : History → Bool
  | [] => false
  | (now, .record mac endpointId _) :: earlier =>
      (key = macKey mac && last < day now && resets endpointId ((table earlier).get? key)) ||
        replaced last key earlier
  | (_, .delete _) :: earlier => replaced last key earlier
  | (_, .importRows ..) :: earlier => replaced last key earlier

/-- Whether the MAC was recorded after the day. -/
def returned (last : Int) (key : String) : History → Bool
  | [] => false
  | (now, .record mac _ _) :: earlier =>
      (key = macKey mac && last < day now) || returned last key earlier
  | (_, .delete _) :: earlier => returned last key earlier
  | (_, .importRows ..) :: earlier => returned last key earlier

/-- What the row of a MAC still tells of the end of a day. -/
structure Lived (last : Int) (key : String) (history : History) (row : FirstSeenRow) : Prop where
  started : day row.firstSeenAt ≤ last ↔
    known last key history = true ∧ replaced last key history = false
  standing : (∀ stamp, row.deletedAt = some stamp → last < day stamp) ↔
    existed last key history = true ∨ returned last key history = true
  known_of_existed : existed last key history = true → known last key history = true

variable {now : Time} {key mac endpointId : String} {seedTs : Option Time} {last : Int}
  {earlier history : History} {event : Time × Call}

omit [PyText] in
theorem NoImport.tail (h : NoImport (event :: earlier)) : NoImport earlier :=
  fun other hother => h other (List.mem_cons_of_mem _ hother)

/-- Without imports, no row is of a time after its last record. -/
theorem stateRight_of_noImport (hnoImport : NoImport history) (horder : InOrder history) :
    StateRight history := by
  induction history with
  | nil =>
      intro key _ row hrow
      cases hrow
  | cons event earlier ih =>
      obtain ⟨now, call⟩ := event
      obtain ⟨hlast, hrest⟩ := List.pairwise_cons.mp horder
      refine (stateRight_cons_iff (ih hnoImport.tail hrest) hlast).mpr ?_
      rintro backup replace rfl
      exact absurd rfl (hnoImport _ List.mem_cons_self backup replace)

/-- A row ends no earlier than it begins, and not after the last call. -/
theorem deletedAt_between (hnoImport : NoImport history) (horder : InOrder history)
    (hkey : key ≠ "") {row : FirstSeenRow} (hrow : (table history).get? key = some row)
    {stamp : Time} (hstamp : row.deletedAt = some stamp) :
    row.firstSeenAt ≤ stamp ∧ ∃ event ∈ history, event.1 = stamp := by
  induction history generalizing row with
  | nil => cases hrow
  | cons event earlier ih =>
      obtain ⟨now, call⟩ := event
      obtain ⟨hlast, hrest⟩ := List.pairwise_cons.mp horder
      have hearlier : ∀ {row : FirstSeenRow}, (table earlier).get? key = some row →
          row.deletedAt = some stamp →
          row.firstSeenAt ≤ stamp ∧ ∃ old ∈ (now, call) :: earlier, old.1 = stamp := by
        intro row hold hend
        obtain ⟨hle, old, hmem, htime⟩ := ih hnoImport.tail hrest hold hend
        exact ⟨hle, old, List.mem_cons_of_mem _ hmem, htime⟩
      cases call with
      | record mac endpointId seedTs =>
          rw [table, get?_record hkey] at hrow
          by_cases hsame : key = macKey mac
          · rw [if_pos hsame] at hrow
            obtain rfl := Option.some.inj hrow
            rw [recordRow_deletedAt] at hstamp
            cases hstamp
          · rw [if_neg hsame] at hrow
            exact hearlier hrow hstamp
      | delete mac =>
          rw [table, get?_delete hkey] at hrow
          by_cases hsame : key = macKey mac
          · rw [if_pos hsame] at hrow
            obtain ⟨old, hold, rfl⟩ := Option.map_eq_some_iff.mp hrow
            have hstate := stateRight_of_noImport hnoImport.tail hrest
            have hfirst := firstSeen_le hstate hlast hkey hold
            cases hend : old.deletedAt with
            | none =>
                simp only [stampDeleted, hend] at hstamp ⊢
                obtain rfl := Option.some.inj hstamp
                exact ⟨hfirst, _, List.mem_cons_self, rfl⟩
            | some first =>
                simp only [stampDeleted, hend] at hstamp ⊢
                exact hearlier hold (hend.trans hstamp)
          · rw [if_neg hsame] at hrow
            exact hearlier hrow hstamp
      | importRows backup replace =>
          exact absurd rfl (hnoImport _ List.mem_cons_self backup replace)

/-- Calls up to the end of the day say nothing of what is after it. -/
theorem quiet (h : ∀ event ∈ history, day event.1 ≤ last) :
    replaced last key history = false ∧ returned last key history = false := by
  induction history with
  | nil => exact ⟨rfl, rfl⟩
  | cons event earlier ih =>
      obtain ⟨now, call⟩ := event
      obtain ⟨hreplaced, hreturned⟩ :=
        ih fun other hother => h other (List.mem_cons_of_mem _ hother)
      have hnow : ¬ last < day now := not_lt.mpr (h _ List.mem_cons_self)
      cases call with
      | record mac endpointId seedTs => simp [replaced, returned, hnow, hreplaced, hreturned]
      | delete mac => exact ⟨hreplaced, hreturned⟩
      | importRows backup replace => exact ⟨hreplaced, hreturned⟩

/-- A MAC without a row was never recorded. -/
theorem never_recorded (last : Int) (hnoImport : NoImport history) (hkey : key ≠ "")
    (hnone : (table history).get? key = none) :
    existed last key history = false ∧ known last key history = false ∧
      replaced last key history = false := by
  induction history with
  | nil => exact ⟨rfl, rfl, rfl⟩
  | cons event earlier ih =>
      obtain ⟨now, call⟩ := event
      cases call with
      | record mac endpointId seedTs =>
          rw [table, get?_record hkey] at hnone
          by_cases hsame : key = macKey mac
          · rw [if_pos hsame] at hnone
            cases hnone
          · rw [if_neg hsame] at hnone
            simpa [existed, known, replaced, hsame] using ih hnoImport.tail hnone
      | delete mac =>
          have hold : (table earlier).get? key = none := by
            rw [table, get?_delete hkey] at hnone
            by_cases hsame : key = macKey mac
            · rw [if_pos hsame] at hnone
              exact Option.map_eq_none_iff.mp hnone
            · rwa [if_neg hsame] at hnone
          obtain ⟨hexisted, hknown, hreplaced⟩ := ih hnoImport.tail hold
          exact ⟨by simp [existed, hexisted], hknown, hreplaced⟩
      | importRows backup replace =>
          exact absurd rfl (hnoImport _ List.mem_cons_self backup replace)

/-! ## One call -/

/-- The first record of a MAC. -/
theorem Lived.first (hmac : macKey mac ≠ "") (hnoImport : NoImport earlier)
    (hnone : (table earlier).get? (macKey mac) = none) :
    Lived last (macKey mac) ((now, .record mac endpointId seedTs) :: earlier)
      (recordRow now endpointId seedTs none) := by
  obtain ⟨-, -, hreplaced⟩ := never_recorded last hnoImport hmac hnone
  have hinsert : day (insertTs now seedTs) ≤ day now := day_mono insertTs_le
  refine ⟨?_, ?_, ?_⟩
  · simp [recordRow, known, replaced, hnone, resets, hreplaced]
  · by_cases hlater : day now ≤ last
    · simp [recordRow, existed, hlater]
    · simp [recordRow, returned, not_le.mp hlater]
  · simp only [existed, known, hnone, if_true, and_self, Bool.or_eq_true, decide_eq_true_eq]
    rintro (hlater | hseed)
    · exact hinsert.trans hlater
    · exact hseed

/-- A record of a MAC that has a row. -/
theorem Lived.again {old : FirstSeenRow} (h : Lived last (macKey mac) earlier old)
    (horder : ∀ event ∈ earlier, event.1 ≤ now) (hfirst : old.firstSeenAt ≤ now)
    (hold : (table earlier).get? (macKey mac) = some old) :
    Lived last (macKey mac) ((now, .record mac endpointId seedTs) :: earlier)
      (recordRow now endpointId seedTs (some old)) := by
  obtain ⟨hstarted, hstanding, hknown⟩ := h
  by_cases hlater : day now ≤ last
  · -- up to the end of the day the record says that the MAC exists
    have hquiet : replaced last (macKey mac) earlier = false ∧
        returned last (macKey mac) earlier = false := quiet
      fun event hevent => (day_mono (horder event hevent)).trans hlater
    have hbegan : known last (macKey mac) earlier = true :=
      (hstarted.mp ((day_mono hfirst).trans hlater)).1
    have hnot : ¬ last < day now := not_lt.mpr hlater
    refine ⟨?_, ?_, ?_⟩
    · have hrow : day (recordRow now endpointId seedTs (some old)).firstSeenAt ≤ last := by
        rw [recordRow]
        split
        · exact hlater
        · exact (day_mono hfirst).trans hlater
      simp [known, replaced, hold, hnot, hquiet, hbegan, hrow]
    · simp [recordRow_deletedAt, existed, hlater]
    · simp [known, hold, hbegan]
  · have hafter : last < day now := not_le.mp hlater
    refine ⟨?_, ?_, ?_⟩
    · by_cases hreset :
        endpointId ≠ "" ∧ old.endpointId ≠ "" ∧ old.endpointId ≠ endpointId
      · have hresets : resets endpointId (some old) = true := by
          simpa [resets, and_assoc] using hreset
        simp [recordRow, hreset, hlater, replaced, hold, hafter, hresets]
      · have hresets : resets endpointId (some old) = false := by
          rw [Bool.eq_false_iff]
          intro hresets
          exact hreset (by simpa [resets, and_assoc] using hresets)
        simp only [recordRow, if_neg hreset, known, replaced, hold, hresets, Bool.and_false,
          Bool.false_or, reduceCtorEq, and_false, if_false]
        exact hstarted
    · simp [recordRow_deletedAt, returned, hafter]
    · simpa [existed, known, hold, hlater] using hknown

/-- A deletion of a MAC that has a row. -/
theorem Lived.deleted {old : FirstSeenRow} (h : Lived last (macKey mac) earlier old)
    (horder : ∀ event ∈ earlier, event.1 ≤ now)
    (hstamp : ∀ stamp, old.deletedAt = some stamp → stamp ≤ now) :
    Lived last (macKey mac) ((now, .delete mac) :: earlier) (stampDeleted now old) := by
  obtain ⟨hstarted, hstanding, hknown⟩ := h
  have hkept : (stampDeleted now old).firstSeenAt = old.firstSeenAt := by
    unfold stampDeleted
    split
    · rfl
    · rfl
  by_cases hlater : day now ≤ last
  · have hquiet : replaced last (macKey mac) earlier = false ∧
        returned last (macKey mac) earlier = false := quiet
      fun event hevent => (day_mono (horder event hevent)).trans hlater
    refine ⟨?_, ?_, ?_⟩
    · rw [hkept]
      exact hstarted
    · have hgone : ∃ stamp, (stampDeleted now old).deletedAt = some stamp ∧ day stamp ≤ last := by
        cases hend : old.deletedAt with
        | none => exact ⟨now, by simp [stampDeleted, hend], hlater⟩
        | some stamp =>
            exact ⟨stamp, by simp [stampDeleted, hend],
              (day_mono (hstamp stamp hend)).trans hlater⟩
      obtain ⟨stamp, hend, hle⟩ := hgone
      simp [hend, existed, hlater, returned, hquiet, not_lt.mpr hle]
    · simp [existed, hlater]
  · refine ⟨?_, ?_, ?_⟩
    · rw [hkept]
      exact hstarted
    · have hsame : (∀ stamp, (stampDeleted now old).deletedAt = some stamp → last < day stamp) ↔
          ∀ stamp, old.deletedAt = some stamp → last < day stamp := by
        cases hend : old.deletedAt with
        | none => simp [stampDeleted, hend, not_le.mp hlater]
        | some stamp => simp [stampDeleted, hend]
      rw [hsame, hstanding]
      simp [existed, hlater, returned]
    · simpa [existed, hlater, known] using hknown

/-- The row of a MAC tells of it what `Lived` says, at the end of every day. -/
theorem lived (hnoImport : NoImport history) (horder : InOrder history) (hkey : key ≠ "")
    {row : FirstSeenRow} (hrow : (table history).get? key = some row) :
    Lived last key history row := by
  induction history generalizing row with
  | nil => cases hrow
  | cons event earlier ih =>
      obtain ⟨now, call⟩ := event
      obtain ⟨hlast, hrest⟩ := List.pairwise_cons.mp horder
      have hih : ∀ {row : FirstSeenRow}, (table earlier).get? key = some row →
          Lived last key earlier row := fun hold => ih hnoImport.tail hrest hold
      cases call with
      | record mac endpointId seedTs =>
          rw [table, get?_record hkey] at hrow
          by_cases hsame : key = macKey mac
          · subst hsame
            rw [if_pos rfl] at hrow
            obtain rfl := Option.some.inj hrow
            cases hold : (table earlier).get? (macKey mac) with
            | none => exact Lived.first hkey hnoImport.tail hold
            | some old =>
                have hstate := stateRight_of_noImport hnoImport.tail hrest
                exact (hih hold).again hlast (firstSeen_le hstate hlast hkey hold) hold
          · rw [if_neg hsame] at hrow
            obtain ⟨hstarted, hstanding, hknown⟩ := hih hrow
            refine ⟨?_, ?_, ?_⟩
            · simpa [known, replaced, hsame] using hstarted
            · simpa [existed, returned, hsame] using hstanding
            · simpa [existed, known, hsame] using hknown
      | delete mac =>
          rw [table, get?_delete hkey] at hrow
          by_cases hsame : key = macKey mac
          · subst hsame
            rw [if_pos rfl] at hrow
            obtain ⟨old, hold, rfl⟩ := Option.map_eq_some_iff.mp hrow
            refine (hih hold).deleted hlast fun stamp hend => ?_
            obtain ⟨-, other, hmem, rfl⟩ :=
              deletedAt_between hnoImport.tail hrest hkey hold hend
            exact hlast other hmem
          · rw [if_neg hsame] at hrow
            obtain ⟨hstarted, hstanding, hknown⟩ := hih hrow
            refine ⟨hstarted, ?_, ?_⟩
            · simpa [existed, returned, hsame] using hstanding
            · simpa [existed, known, hsame] using hknown
      | importRows backup replace =>
          exact absurd rfl (hnoImport _ List.mem_cons_self backup replace)

end IsePortal.FirstSeenStore
