import IsePortal.Library.Population
import IsePortal.Prewarm.FirstSeenLives

/-!
# The population curve

`get_trends` of `app/api/trends.py` rebuilds the number of endpoints at the end of each day
backwards from the current total, through the additions and removals of the days. The rows keep
one beginning and one end of each MAC, and the curve is the number of rows that stand at the end
of the day (`cumulative_eq`). `trends_iff` says when that is the number of endpoints that
existed.
-/

namespace IsePortal.Trends

open Library FirstSeenStore

/-- `int(text, 16)` of the runtime; `none` where it raises `ValueError`. -/
class PyHex where
  int16 : String → Option Int

/-- `_is_laa` -/
def isLaa [PyHex] (mac : String) : Bool :=
  let digits := mac.toList.filter fun c => c ≠ ':' && c ≠ '-'
  match PyHex.int16 (String.ofList (digits.take 2)) with
  | some first => first / 2 % 2 = 1
  | none => false

/-- `_PERIOD_DAYS.get(period, 30)` -/
def periodDays : String → Nat
  | "7d" => 7
  | "90d" => 90
  | "365d" => 365
  | _ => 30

/-- The answer, without the key figures. -/
structure Answer where
  labels : List Int
  added : List Int
  removed : List Int
  net : List Int
  laaAdded : List Int
  laaRemoved : List Int
  cumulative : List Int
  laaCumulative : List Int

/-- `get_added_since(start_ts)` on one day, among the MACs that are counted. -/
def addedOn (counted : String → Bool) (startTs : Time) (rows : FirstSeenStore) (label : Int) :
    Nat :=
  rows.entries.countP fun entry =>
    counted entry.1 && startTs ≤ entry.2.firstSeenAt && day entry.2.firstSeenAt = label

/-- `get_removed_since(start_ts)` on one day, among the MACs that are counted. -/
def removedOn (counted : String → Bool) (startTs : Time) (rows : FirstSeenStore) (label : Int) :
    Nat :=
  rows.entries.countP fun entry =>
    counted entry.1 &&
      match entry.2.deletedAt with
      | some stamp => startTs ≤ stamp && day stamp = label
      | none => false

/-- The start of the period. -/
def startOf (now : Time) (days : Nat) : Time := now - days * 86400

/-- The days of the period. -/
def labelsOf (now : Time) (days : Nat) : List Int :=
  (List.range (days + 1)).map fun (i : Nat) => day (startOf now days + i * 86400)

/-- The net changes of the labels, among the MACs that are counted. -/
def nets (counted : String → Bool) (now : Time) (days : Nat) (rows : FirstSeenStore) : List Int :=
  (labelsOf now days).map fun label =>
    (addedOn counted (startOf now days) rows label : Int) -
      removedOn counted (startOf now days) rows label

/-- `cumulative`, from the number of MACs in the cache that are counted. -/
def curve (counted : String → Bool) (now : Time) (days : Nat) (rows : FirstSeenStore)
    (cache : List String) : List Int :=
  Population.backwards (cache.countP counted) (nets counted now days rows).tail

/-- `get_trends`, with the MACs of the endpoints in the cache. -/
def getTrends [PyHex] (now : Time) (period : String) (rows : FirstSeenStore)
    (cache : List String) : Answer where
  labels := labelsOf now (periodDays period)
  added := (labelsOf now (periodDays period)).map fun label =>
    addedOn (fun _ => true) (startOf now (periodDays period)) rows label
  removed := (labelsOf now (periodDays period)).map fun label =>
    removedOn (fun _ => true) (startOf now (periodDays period)) rows label
  net := nets (fun _ => true) now (periodDays period) rows
  laaAdded := (labelsOf now (periodDays period)).map fun label =>
    addedOn isLaa (startOf now (periodDays period)) rows label
  laaRemoved := (labelsOf now (periodDays period)).map fun label =>
    removedOn isLaa (startOf now (periodDays period)) rows label
  cumulative := curve (fun _ => true) now (periodDays period) rows cache
  laaCumulative := curve isLaa now (periodDays period) rows cache

/-! ## The endpoints of a history -/

section

variable [PyText]

/-- The MAC a call records. -/
def recordedMac : Time × Call → Option String
  | (_, .record mac _ _) => if macKey mac = "" then none else some (macKey mac)
  | _ => none

/-- The MACs that were ever recorded. -/
def macs (history : History) : List String := (history.filterMap recordedMac).dedup

/-- How many of the counted endpoints existed at the end of the day. -/
def population (counted : String → Bool) (last : Int) (history : History) : Nat :=
  (macs history).countP fun key => counted key && existed last key history

/-- How many of them existed then, and were recorded with another id since. -/
def lost (counted : String → Bool) (last : Int) (history : History) : Nat :=
  (macs history).countP fun key =>
    counted key && existed last key history && replaced last key history

/-- How many were known and deleted then, and were recorded since, but never with another id. -/
def filled (counted : String → Bool) (last : Int) (history : History) : Nat :=
  (macs history).countP fun key =>
    counted key && !existed last key history && known last key history &&
      returned last key history && !replaced last key history

/-- The endpoints that the last call about them left live. -/
def liveMacs (history : History) : List String :=
  (macs history).filter fun key => leftLive key history

/-- A history of records and deletions up to now, and a cache that holds exactly the live
endpoints. How a MAC is spelled makes it no more or less private. -/
structure Observed [PyHex] (now : Time) (history : History) (cache : List String) : Prop where
  noImport : NoImport history
  inOrder : InOrder history
  past : ∀ event ∈ history, event.1 ≤ now
  cached : (cache.map macKey).Perm (liveMacs history)
  spelled : ∀ mac ∈ cache, isLaa mac = isLaa (macKey mac)

variable {now : Time} {key : String} {last : Int} {history : History} {counted : String → Bool}

/-! ## The MACs and the rows -/

/-- No row is of an empty MAC. -/
theorem get?_empty_mac (hnoImport : NoImport history) : (table history).get? "" = none := by
  induction history with
  | nil => rfl
  | cons event earlier ih =>
      obtain ⟨now, call⟩ := event
      have hnone := ih hnoImport.tail
      cases call with
      | record mac endpointId seedTs =>
          rw [table]
          unfold record
          by_cases hmac : macKey mac = ""
          · rw [if_pos hmac]
            exact hnone
          · rw [if_neg hmac]
            cases hrow : (table earlier).get? (macKey mac) with
            | none =>
                dsimp only
                rw [Dict.get?_set_ne _ _ (Ne.symm hmac)]
                exact hnone
            | some row =>
                dsimp only
                split
                · rw [Dict.get?_set_ne _ _ (Ne.symm hmac)]
                  exact hnone
                · rw [Dict.get?_set_ne _ _ (Ne.symm hmac)]
                  exact hnone
      | delete mac =>
          rw [table, delete]
          by_cases hmac : macKey mac = ""
          · rw [if_pos hmac]
            exact hnone
          · rw [if_neg hmac, Dict.get?_modify, if_neg (Ne.symm hmac)]
            exact hnone
      | importRows backup replace =>
          exact absurd rfl (hnoImport _ List.mem_cons_self backup replace)

/-- The recorded MACs are those that have a row. -/
theorem mem_recorded_iff (hnoImport : NoImport history) (hkey : key ≠ "") :
    key ∈ history.filterMap recordedMac ↔ (table history).get? key ≠ none := by
  induction history with
  | nil => exact iff_of_false List.not_mem_nil (not_not_intro rfl)
  | cons event earlier ih =>
      obtain ⟨now, call⟩ := event
      have hih := ih hnoImport.tail
      cases call with
      | record mac endpointId seedTs =>
          rw [table, get?_record hkey, List.filterMap_cons]
          by_cases hmac : macKey mac = ""
          · simp only [recordedMac, hmac, if_true, if_neg hkey]
            exact hih
          · by_cases hsame : key = macKey mac
            · simp [recordedMac, hmac, hsame]
            · simp only [recordedMac, if_neg hmac, List.mem_cons, false_or, hsame]
              exact hih
      | delete mac =>
          rw [table, get?_delete hkey, List.filterMap_cons]
          by_cases hsame : key = macKey mac
          · rw [if_pos hsame, Ne, Option.map_eq_none_iff]
            exact hih
          · rw [if_neg hsame]
            exact hih
      | importRows backup replace =>
          exact absurd rfl (hnoImport _ List.mem_cons_self backup replace)

/-- A recorded MAC is not empty. -/
theorem ne_empty_of_recorded (h : key ∈ history.filterMap recordedMac) : key ≠ "" := by
  obtain ⟨⟨now, call⟩, -, hcall⟩ := List.mem_filterMap.mp h
  cases call with
  | record mac endpointId seedTs =>
      rw [recordedMac] at hcall
      split at hcall
      · cases hcall
      · rename_i hmac
        exact Option.some.inj hcall ▸ hmac
  | delete mac => cases hcall
  | importRows backup replace => cases hcall

theorem macs_perm (hnoImport : NoImport history) : (macs history).Perm (table history).keys := by
  have hnodup : (table history).keys.Nodup := (table history).nodup
  rw [macs, List.perm_ext_iff_of_nodup (List.nodup_dedup _) hnodup]
  intro key
  rw [List.mem_dedup]
  by_cases hkey : key = ""
  · have hnone := get?_empty_mac hnoImport
    subst hkey
    exact iff_of_false (fun h => ne_empty_of_recorded h rfl)
      (Dict.get?_eq_none_iff.mp hnone)
  · rw [mem_recorded_iff hnoImport hkey, Ne, Dict.get?_eq_none_iff, not_not]

/-- Rows are counted as the MACs they are of. -/
theorem countP_entries (hnoImport : NoImport history) {p : String × FirstSeenRow → Bool}
    {q : String → Bool}
    (h : ∀ key ≠ "", ∀ row, (table history).get? key = some row → p (key, row) = q key) :
    (table history).entries.countP p = (macs history).countP q := by
  rw [(macs_perm hnoImport).countP_eq q, Dict.keys, List.countP_map]
  refine List.countP_congr fun entry hentry => ?_
  obtain ⟨key, row⟩ := entry
  have hrow := Dict.get?_eq_some_iff.mpr hentry
  have hkey : key ≠ "" := by
    rintro rfl
    rw [get?_empty_mac hnoImport] at hrow
    cases hrow
  rw [h key hkey row hrow]
  exact Iff.rfl

/-! ## The days -/

omit [PyText] in
theorem day_add (ts : Time) (i : Nat) : day (ts + i * 86400) = day ts + i := by
  have hsplit : (ts + i * 86400) / 86400 = ts / 86400 + i := by
    rw [add_div, mul_div_cancel_right₀ _ (by norm_num)]
  rw [day, hsplit, Int.floor_add_natCast]
  rfl

omit [PyText] in
theorem day_start (now : Time) (days : Nat) : day (startOf now days) + days = day now := by
  rw [← day_add, startOf, sub_add_cancel]

/-- The rows of the MACs that are counted. -/
def countedRows (counted : String → Bool) (rows : FirstSeenStore) : List (String × FirstSeenRow) :=
  rows.entries.filter fun entry => counted entry.1

/-- Whether the row stands at the end of the day. -/
abbrev rowStands (last : Int) : String × FirstSeenRow → Bool :=
  Population.stands (fun entry => day entry.2.firstSeenAt) (fun entry => entry.2.deletedAt.map day)
    last

omit [PyText] in
theorem rowStands_iff {row : FirstSeenRow} :
    rowStands last (key, row) = true ↔
      day row.firstSeenAt ≤ last ∧ ∀ stamp, row.deletedAt = some stamp → last < day stamp := by
  rw [rowStands, Population.stands_iff]
  simp only [Option.map_eq_some_iff, forall_exists_index, and_imp, forall_apply_eq_imp_iff₂]

/-- The number of counted rows that stand at the end of the day. -/
def standing (counted : String → Bool) (last : Int) (rows : FirstSeenStore) : Nat :=
  (countedRows counted rows).countP (rowStands last)

omit [PyText] in
/-- A time on a later day than the start of the period is in the period. -/
theorem start_le {startTs ts : Time} (h : day startTs < day ts) : startTs ≤ ts := by
  by_contra hlate
  exact absurd (day_mono (not_le.mp hlate).le) (not_le.mpr h)

omit [PyText] in
/-- After the first day of the period, every addition of the day is counted. -/
theorem addedOn_eq {startTs : Time} {rows : FirstSeenStore} {label : Int}
    (h : day startTs < label) :
    addedOn counted startTs rows label =
      (countedRows counted rows).countP fun entry => day entry.2.firstSeenAt = label := by
  rw [addedOn, countedRows, List.countP_filter]
  refine List.countP_congr fun entry _ => ?_
  simp only [Bool.and_eq_true, decide_eq_true_eq]
  constructor
  · rintro ⟨⟨hcounted, -⟩, hday⟩
    exact ⟨hday, hcounted⟩
  · rintro ⟨hday, hcounted⟩
    exact ⟨⟨hcounted, start_le (hday ▸ h)⟩, hday⟩

omit [PyText] in
/-- After the first day of the period, every removal of the day is counted. -/
theorem removedOn_eq {startTs : Time} {rows : FirstSeenStore} {label : Int}
    (h : day startTs < label) :
    removedOn counted startTs rows label =
      (countedRows counted rows).countP fun entry => entry.2.deletedAt.map day = some label := by
  rw [removedOn, countedRows, List.countP_filter]
  refine List.countP_congr fun entry _ => ?_
  cases hstamp : entry.2.deletedAt with
  | none => simp
  | some stamp =>
      simp only [Option.map_some, Option.some.injEq, Bool.and_eq_true, decide_eq_true_eq]
      constructor
      · rintro ⟨hcounted, -, hday⟩
        exact ⟨hday, hcounted⟩
      · rintro ⟨hday, hcounted⟩
        exact ⟨hcounted, start_le (hday ▸ h), hday⟩

/-- A row of a history does not end before it begins. -/
theorem rows_live (hnoImport : NoImport history) (horder : InOrder history) :
    ∀ entry ∈ countedRows counted (table history), ∀ stop,
      entry.2.deletedAt.map day = some stop → day entry.2.firstSeenAt ≤ stop := by
  rintro ⟨key, row⟩ hentry stop hstop
  obtain ⟨stamp, hstamp, rfl⟩ := Option.map_eq_some_iff.mp hstop
  have hrow := Dict.get?_eq_some_iff.mpr (List.mem_filter.mp hentry).1
  have hkey : key ≠ "" := by
    rintro rfl
    rw [get?_empty_mac hnoImport] at hrow
    cases hrow
  exact day_mono (deletedAt_between hnoImport horder hkey hrow hstamp).1

/-- The curve is the number of rows that stand at the end of each day, if the last one is. -/
theorem curve_eq (hnoImport : NoImport history) (horder : InOrder history) {days : Nat}
    {cache : List String}
    (htotal : cache.countP counted = standing counted (day now) (table history)) :
    curve counted now days (table history) cache =
      (List.range (days + 1)).map fun (i : Nat) =>
        (standing counted (day (startOf now days) + i) (table history) : Int) := by
  have hlength : (nets counted now days (table history)).tail.length = days := by
    simp [nets, labelsOf]
  have hlast : (cache.countP counted : Int) =
      standing counted (day (startOf now days) +
        (nets counted now days (table history)).tail.length) (table history) := by
    rw [hlength, day_start, htotal]
  have hcurve := Population.backwards_eq (nets counted now days (table history)).tail
    (f := fun (i : Nat) =>
      (standing counted (day (startOf now days) + i) (table history) : Int))
    (fun i => Int.natCast_nonneg _) ?_
  · rw [curve, hlast, hcurve, hlength]
  · intro i hi
    have hlabel : day (startOf now days) < day (startOf now days) + (i + 1 : Nat) := by omega
    have hnet := Population.countP_stands_succ (countedRows counted (table history))
      (rows_live hnoImport horder) (day (startOf now days) + i)
    have hnext : day (startOf now days) + (i : Int) + 1 =
        day (startOf now days) + (i + 1 : Nat) := by
      push_cast
      ring
    rw [hnext] at hnet
    simp only [List.getElem_tail, nets, labelsOf, List.getElem_map, List.getElem_range, day_add]
    rw [addedOn_eq hlabel, removedOn_eq hlabel]
    exact hnet

/-! ## What the curve is -/

/-- The rows that stand are those of the MACs that were known by then and not replaced since, and
existed or came back. -/
theorem standing_eq (hnoImport : NoImport history) (horder : InOrder history) :
    standing counted last (table history) =
      (macs history).countP fun key =>
        counted key && known last key history && !replaced last key history &&
          (existed last key history || returned last key history) := by
  rw [standing, countedRows, List.countP_filter]
  refine countP_entries hnoImport fun key hkey row hrow => ?_
  have hlived : Lived last key history row := lived hnoImport horder hkey hrow
  rw [Bool.eq_iff_iff, Bool.and_eq_true, rowStands_iff, hlived.started, hlived.standing]
  simp only [Bool.and_eq_true, Bool.or_eq_true, Bool.not_eq_true']
  tauto

/-- What stands now is live. -/
theorem standing_now (hnoImport : NoImport history) (horder : InOrder history)
    (hpast : ∀ event ∈ history, event.1 ≤ now) :
    standing counted (day now) (table history) = (liveMacs history).countP counted := by
  rw [standing, countedRows, List.countP_filter, liveMacs, List.countP_filter]
  refine countP_entries hnoImport fun key hkey row hrow => ?_
  have hstate := stateRight_of_noImport hnoImport horder
  have hfirst : day row.firstSeenAt ≤ day now := by
    obtain ⟨moment, hmoment, event, hmem, rfl⟩ := lastRecord_table history hkey hrow
    exact day_mono (((hstate key hkey row hrow).1 _ hmoment).trans (hpast event hmem))
  have hlive : (∀ stamp, row.deletedAt = some stamp → day now < day stamp) ↔
      leftLive key history = true := by
    rw [← deletedAt_table history hkey hrow]
    constructor
    · intro hnone
      cases hstamp : row.deletedAt with
      | none => rfl
      | some stamp =>
          obtain ⟨-, event, hmem, rfl⟩ := deletedAt_between hnoImport horder hkey hrow hstamp
          exact absurd (hnone _ hstamp) (not_lt.mpr (day_mono (hpast event hmem)))
    · intro hnone stamp hstamp
      rw [hnone] at hstamp
      cases hstamp
  rw [Bool.eq_iff_iff, Bool.and_eq_true, Bool.and_eq_true, rowStands_iff, hlive]
  simp only [hfirst, true_and]
  exact and_comm

/-- What stands, and what was lost, are the endpoints that existed and what was filled. -/
theorem standing_add_lost (counted : String → Bool) (last : Int) (hnoImport : NoImport history)
    (horder : InOrder history) :
    standing counted last (table history) + lost counted last history =
      population counted last history + filled counted last history := by
  rw [standing_eq hnoImport horder, lost, population, filled]
  refine Population.countP_add_eq fun key hmac => ?_
  have hmem := List.mem_dedup.mp hmac
  have hkey := ne_empty_of_recorded hmem
  obtain ⟨row, hrow⟩ := Option.ne_none_iff_exists'.mp ((mem_recorded_iff hnoImport hkey).mp hmem)
  have hlived : Lived last key history row := lived hnoImport horder hkey hrow
  have hknown := hlived.known_of_existed
  cases hexisted : existed last key history with
  | false =>
      cases counted key <;> cases known last key history <;> cases replaced last key history <;>
        cases returned last key history <;> rfl
  | true =>
      rw [hknown hexisted]
      cases counted key <;> cases replaced last key history <;> rfl

/-- The curve, where the cache counts what is live. -/
theorem curve_iff (counted : String → Bool) (hnoImport : NoImport history)
    (horder : InOrder history)
    (hpast : ∀ event ∈ history, event.1 ≤ now) {cache : List String}
    (htotal : cache.countP counted = (liveMacs history).countP counted) {days i : Nat}
    (hi : i ≤ days) :
    (curve counted now days (table history) cache)[i]? =
        some (population counted (day (startOf now days) + i) history : Int) ↔
      lost counted (day (startOf now days) + i) history =
        filled counted (day (startOf now days) + i) history := by
  rw [← standing_now hnoImport horder hpast] at htotal
  have hsum := standing_add_lost counted (day (startOf now days) + i) hnoImport horder
  rw [curve_eq hnoImport horder htotal, List.getElem?_map, List.getElem?_range (by omega),
    Option.map_some, Option.some.injEq, Nat.cast_inj]
  omega

/-- Each number of the two curves is that of the endpoints that existed at the end of the day
exactly when as many of them were recorded with another id since as were filled in. -/
theorem trends_iff [PyHex] (now : Time) (history : History) (cache : List String)
    (h : Observed now history cache) (period : String) (i : Nat) (hi : i ≤ periodDays period) :
    let trends := getTrends now period (table history) cache
    let last := day (startOf now (periodDays period)) + i
    (trends.cumulative[i]? = some (population (fun _ => true) last history : Int) ↔
      lost (fun _ => true) last history = filled (fun _ => true) last history) ∧
    (trends.laaCumulative[i]? = some (population isLaa last history : Int) ↔
      lost isLaa last history = filled isLaa last history) := by
  have hall : cache.countP (fun _ => true) = (liveMacs history).countP fun _ => true := by
    rw [List.countP_true, ← h.cached.length_eq, List.length_map]
  have hlaa : cache.countP isLaa = (liveMacs history).countP isLaa := by
    rw [← h.cached.countP_eq, List.countP_map]
    exact List.countP_congr fun mac hmac => by rw [Function.comp_apply, ← h.spelled mac hmac]
  exact ⟨curve_iff _ h.noImport h.inOrder h.past hall hi,
    curve_iff _ h.noImport h.inOrder h.past hlaa hi⟩

end

/-- A runtime that reads one number. -/
@[reducible] def sampleHex : PyHex where
  int16 text := if text = "02" then some 2 else none

/-- An endpoint that is seen on the first, third and fifth day. -/
def steadyHistory : History :=
  [(432000, .record "02" "A" none), (259200, .record "02" "A" none),
    (86400, .record "02" "A" none)]

/-- An endpoint that is created on the first day, deleted on the third, and created again on the
fifth. -/
def recreatedHistory : History :=
  [(432000, .record "02" "B" none), (259200, .delete "02"), (86400, .record "02" "A" none)]

theorem day_of_days (n : Nat) : day (n * 86400) = n := by
  have hday := day_add 0 n
  rw [zero_add] at hday
  rw [hday, day, zero_div, Int.floor_zero, zero_add]

theorem sample_days : day 86400 = 1 ∧ day 259200 = 3 ∧ day 432000 = 5 ∧
    day (startOf 691200 (periodDays "7d")) = 1 := by
  have hfirst := day_of_days 1
  have hthird := day_of_days 3
  have hfifth := day_of_days 5
  have hstart : startOf 691200 (periodDays "7d") = 86400 := by
    norm_num [startOf, periodDays]
  rw [hstart]
  norm_num at hfirst hthird hfifth
  exact ⟨hfirst, hthird, hfifth, hfirst⟩

theorem steady_observed : @Observed asciiText sampleHex 691200 steadyHistory ["02"] := by
  let _ := asciiText
  let _ := sampleHex
  refine ⟨?_, ?_, ?_, ?_, ?_⟩
  · intro event hevent backup replace hcall
    simp only [steadyHistory, List.mem_cons, List.not_mem_nil, or_false] at hevent
    rcases hevent with rfl | rfl | rfl <;> cases hcall
  · unfold InOrder steadyHistory
    decide
  · unfold steadyHistory
    decide
  · decide
  · decide

theorem recreated_observed :
    @Observed asciiText sampleHex 691200 recreatedHistory ["02"] := by
  let _ := asciiText
  let _ := sampleHex
  refine ⟨?_, ?_, ?_, ?_, ?_⟩
  · intro event hevent backup replace hcall
    simp only [recreatedHistory, List.mem_cons, List.not_mem_nil, or_false] at hevent
    rcases hevent with rfl | rfl | rfl <;> cases hcall
  · unfold InOrder recreatedHistory
    decide
  · unfold recreatedHistory
    decide
  · decide
  · decide

/-- An endpoint that was never deleted is counted at the end of the fourth day. -/
theorem trends_steady :
    (@getTrends sampleHex 691200 "7d" (@table asciiText steadyHistory) ["02"]).cumulative[3]? =
      some (@population asciiText (fun _ => true) (day (startOf 691200 (periodDays "7d")) + 3)
        steadyHistory : Int) := by
  let _ := asciiText
  let _ := sampleHex
  refine (trends_iff 691200 steadyHistory ["02"] steady_observed "7d" 3 (by decide)).1.mpr ?_
  have hmacs : macs steadyHistory = ["02"] := by decide
  have hkey : macKey "02" = "02" := by decide
  obtain ⟨hfirst, hthird, hfifth, hstart⟩ := sample_days
  have hreplaced : replaced 4 "02" steadyHistory = false := by
    have hrow : resets "A" ((table steadyHistory.tail).get? "02") = false := by decide
    rw [steadyHistory, List.tail_cons] at hrow
    simp [steadyHistory, replaced, hkey, hfirst, hthird, hfifth, hrow]
  have hexisted : existed 4 "02" steadyHistory = true := by
    have hrow : (table steadyHistory.tail).get? "02" =
        some { firstSeenAt := 86400, endpointId := "A" } := by decide
    rw [steadyHistory, List.tail_cons] at hrow
    simp [steadyHistory, existed, hkey, hthird, hrow]
  simp [lost, filled, hmacs, hstart, hexisted, hreplaced]

/-- An endpoint that was created again with another id is missed at the end of its second day. -/
theorem trends_recreated :
    @Observed asciiText sampleHex 691200 recreatedHistory ["02"] ∧
      (@getTrends sampleHex 691200 "7d" (@table asciiText recreatedHistory)
        ["02"]).cumulative[1]? ≠
        some (@population asciiText (fun _ => true) (day (startOf 691200 (periodDays "7d")) + 1)
          recreatedHistory : Int) := by
  let _ := asciiText
  let _ := sampleHex
  refine ⟨recreated_observed, fun h => ?_⟩
  have hobserved := recreated_observed
  have hmacs : macs recreatedHistory = ["02"] := by decide
  have hkey : macKey "02" = "02" := by decide
  obtain ⟨hfirst, hthird, hfifth, hstart⟩ := sample_days
  have hrow : (table recreatedHistory.tail).get? "02" =
      some { firstSeenAt := 86400, endpointId := "A", deletedAt := some 259200 } := by decide
  have hreplaced : replaced 2 "02" recreatedHistory = true := by
    have hresets : resets "B" ((table recreatedHistory.tail).get? "02") = true := by decide
    rw [recreatedHistory, List.tail_cons] at hresets
    simp [recreatedHistory, replaced, hkey, hfifth, hresets]
  have hexisted : existed 2 "02" recreatedHistory = true := by
    rw [recreatedHistory, List.tail_cons] at hrow
    simp [recreatedHistory, existed, hkey, hfirst, hthird, hfifth, hrow]
  have hsame := (curve_iff (fun _ => true) hobserved.noImport hobserved.inOrder hobserved.past
    (by decide) (by decide)).mp h
  simp [lost, filled, hmacs, hstart, hexisted, hreplaced] at hsame

end IsePortal.Trends
