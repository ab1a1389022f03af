import IsePortal.Frontend.EndpointForms
import IsePortal.Policy.EditorRows

/-!
# The filters of the browse view

`snapshotFilters` and `applyFilterSnapshot` of `frontend/js/views/browse-filter.js`, over the
widgets of the filter row. The second resets the filters and then sets those of the snapshot, but
the list of what it resets is shorter than the list of what it sets: the filter for decommissioned
endpoints and the one for the active status are only ever set.
-/

namespace IsePortal.Frontend

open Library

/-! ## Widgets -/

/-- A text input; its value has no line breaks. -/
structure TextInput where
  value : String
  oneLine : inputText value = value

theorem inputText_inputText (text : String) : inputText (inputText text) = inputText text := by
  rw [inputText, inputText, String.toList_ofList, List.filter_filter]
  simp only [Bool.and_self]

/-- `input.value = text` -/
def TextInput.set (text : String) : TextInput := ⟨inputText text, inputText_inputText text⟩

/-- A date input; its value is a date or empty. -/
structure DateInput where
  value : String
  date : dateText value = value

theorem dateText_dateText (text : String) : dateText (dateText text) = dateText text := by
  by_cases h : isDate text = true
  · rw [dateText, dateText, if_pos h, if_pos h]
  · rw [dateText, dateText, if_neg h, if_neg (by decide)]

/-- `input.value = text` -/
def DateInput.set (text : String) : DateInput := ⟨dateText text, dateText_dateText text⟩

/-- The options of `#auth-status-filter`. -/
def authOptions : List String := ["all", "auth", "notauth"]

/-- The value of `#auth-status-filter`; setting it to another one than these leaves none. -/
structure AuthSelect where
  value : String
  option : setSelect authOptions value = value

theorem setSelect_setSelect (text : String) :
    setSelect authOptions (setSelect authOptions text) = setSelect authOptions text := by
  by_cases h : text ∈ authOptions
  · rw [setSelect, setSelect, if_pos h, if_pos h]
  · rw [setSelect, setSelect, if_neg h, if_neg (by decide)]

/-- `select.value = text` -/
def AuthSelect.set (text : String) : AuthSelect :=
  ⟨setSelect authOptions text, setSelect_setSelect text⟩

/-- The keys of `getColumns`. -/
def allColumns : List String :=
  ["mac", "auth_status", "vendor", "group_name", "static_group", "description", "endpoint_type",
    "owner", "lokation", "registret_by", "guest_registration", "guest_expery_date",
    "guest_access_expire", "platform_type", "psk_mode", "psk_key", "authz_vlan", "authz_acl",
    "roles", "first_seen", "nas", "client_ip", "ise_session"]

/-- The columns whose filter is a text. -/
def textColumns : List String :=
  allColumns.filter fun key => key ≠ "auth_status" && key ≠ "first_seen"

/-- The `.col-filter-input`s of the page in their order, each with its column. The stored order of
the columns may have a column more than once. -/
structure FilterRow where
  inputs : List (String × TextInput)
  columns : ∀ key, key ∈ inputs.map Prod.fst ↔ key ∈ textColumns

/-! ## The view -/

/-- `state`, as far as filters go, with the widgets. -/
structure Browse where
  portalOnly : Bool
  decommOnly : Bool
  activeStatusFilter : String
  sortCol : Option String
  sortDir : Option String
  filterRow : FilterRow
  authStatus : AuthSelect
  fromDate : DateInput
  fromTime : TextInput
  toDate : DateInput
  toTime : TextInput
  colVis : Dict String Bool
  currentSize : Nat

structure FilterSnapshot where
  portalOnly : Bool
  decommOnly : Bool
  activeStatusFilter : String
  cols : List (String × String)
  authStatus : String
  colVis : Dict String Bool
  pageSize : Nat
  firstSeenFrom : String
  firstSeenTo : String

/-- The hours and minutes of `/^(\d{1,2}):(\d{2})$/`. -/
def clock (raw : String) : Option (Nat × Nat) :=
  match raw.toList with
  | [h, ':', m, n] => if [h, m, n].all Char.isDigit then some (number [h], number [m, n]) else none
  | [g, h, ':', m, n] =>
      if [g, h, m, n].all Char.isDigit then some (number [g, h], number [m, n]) else none
  | _ => none

/-- A time of day. -/
def clockText (hour minute : Nat) : String :=
  twoDigits (min 23 hour) ++ ":" ++ twoDigits (min 59 minute)

/-- The time `_fsDateTimeVal` makes of what was typed. -/
def fsTime (typed defaultTime : String) : String :=
  match clock (jsTrim typed) with
  | some (hour, minute) => clockText hour minute
  | none => defaultTime

/-- `_fsDateTimeVal` -/
def fsDateTimeVal (date : DateInput) (time : TextInput) (defaultTime : String) : String :=
  if date.value = "" then "" else date.value ++ "T" ++ fsTime time.value defaultTime

/-- What `text.split("T")` has at a place, `""` where it has nothing. -/
def splitPart (text : String) (index : Nat) : String :=
  (((text.toList.splitOn 'T').map String.ofList)[index]?).getD ""

namespace Browse

/-- The column filters of a snapshot. -/
def snapshotCols (row : FilterRow) : List (String × String) :=
  row.inputs.filterMap fun input =>
    if jsTrim input.2.value = "" then none else some (input.1, jsTrim input.2.value)

/-- `snapshotFilters` -/
def snapshotFilters (state : Browse) : FilterSnapshot where
  portalOnly := state.portalOnly
  decommOnly := state.decommOnly
  activeStatusFilter := state.activeStatusFilter
  cols := snapshotCols state.filterRow
  authStatus := state.authStatus.value
  colVis := state.colVis
  pageSize := state.currentSize
  firstSeenFrom := fsDateTimeVal state.fromDate state.fromTime "00:00"
  firstSeenTo := fsDateTimeVal state.toDate state.toTime "23:59"

end Browse

namespace FilterRow

/-- `input.value = ""` for every input. -/
def clear (row : FilterRow) : FilterRow where
  inputs := row.inputs.map fun input => (input.1, TextInput.set "")
  columns key := by rw [List.map_map]; exact row.columns key

/-- Set the first input of a column. -/
def setList (col text : String) : List (String × TextInput) → List (String × TextInput)
  | [] => []
  | input :: rest =>
      if input.1 = col then (input.1, TextInput.set text) :: rest
      else input :: setList col text rest

theorem map_fst_setList (col text : String) (inputs : List (String × TextInput)) :
    (setList col text inputs).map Prod.fst = inputs.map Prod.fst := by
  induction inputs with
  | nil => rfl
  | cons input rest ih =>
      rw [setList]
      split
      · rfl
      · rw [List.map_cons, ih, List.map_cons]

/-- `filterRow.querySelector(…)`, and `input.value = text` where it finds one. -/
def set (row : FilterRow) (col text : String) : FilterRow where
  inputs := setList col text row.inputs
  columns key := by rw [map_fst_setList]; exact row.columns key

/-- The column filters of a snapshot, one after the other. -/
def restore (row : FilterRow) (cols : List (String × String)) : FilterRow :=
  cols.foldl (fun restored entry => restored.set entry.1 entry.2) row

end FilterRow

namespace Browse

/-- `colVis` of a snapshot over the one of the view. -/
def restoreColVis (colVis stored : Dict String Bool) : Dict String Bool :=
  allColumns.foldl
    (fun restored key =>
      match stored.get? key with
      | some shown => restored.set key shown
      | none => restored)
    colVis

/-- `applyFilterSnapshot` -/
def applyFilterSnapshot (state : Browse) (s : FilterSnapshot) (skipColVis : Bool) : Browse where
  portalOnly := s.portalOnly
  decommOnly := if s.decommOnly then true else state.decommOnly
  activeStatusFilter :=
    if s.activeStatusFilter ≠ "" then s.activeStatusFilter else state.activeStatusFilter
  sortCol := none
  sortDir := none
  filterRow := state.filterRow.clear.restore s.cols
  authStatus := if s.authStatus ≠ "" then AuthSelect.set s.authStatus else AuthSelect.set "all"
  -- `firstSeenRestore`
  fromDate := DateInput.set (splitPart s.firstSeenFrom 0)
  fromTime := TextInput.set (splitPart s.firstSeenFrom 1)
  toDate := DateInput.set (splitPart s.firstSeenTo 0)
  toTime := TextInput.set (splitPart s.firstSeenTo 1)
  colVis := if skipColVis then state.colVis else restoreColVis state.colVis s.colVis
  currentSize := if 0 < s.pageSize then s.pageSize else state.currentSize

end Browse

/-! ## First seen -/

theorem twoDigits_digits : ∀ n < 60,
    (twoDigits n).toList = [Nat.digitChar (n / 10), Nat.digitChar (n % 10)] ∧
      [Nat.digitChar (n / 10), Nat.digitChar (n % 10)].all Char.isDigit = true ∧
      number [Nat.digitChar (n / 10), Nat.digitChar (n % 10)] = n := by decide

theorem plain_of_isDigit {c : Char} (h : c.isDigit = true) :
    isTrimmed c = false ∧ c ≠ '\n' ∧ c ≠ '\r' ∧ c ≠ 'T' := by
  have hrange : 48 ≤ c.toNat ∧ c.toNat ≤ 57 := by
    simp only [Char.isDigit, Bool.and_eq_true, decide_eq_true_eq] at h
    exact h
  refine ⟨?_, ?_, ?_, ?_⟩
  · simp only [isTrimmed, Bool.or_eq_false_iff, Bool.and_eq_false_iff, decide_eq_false_iff_not,
      beq_eq_false_iff_ne, ne_eq]
    omega
  all_goals
    rintro rfl
    exact absurd hrange (by decide)

/-- The characters of a time of day. -/
theorem clockText_toList (hour minute : Nat) :
    ∃ g h m n, (clockText hour minute).toList = [g, h, ':', m, n] ∧
      [g, h, m, n].all Char.isDigit = true ∧ number [g, h] = min 23 hour ∧
      number [m, n] = min 59 minute := by
  obtain ⟨hhour, hhourDigits, hhourNumber⟩ := twoDigits_digits (min 23 hour) (by omega)
  obtain ⟨hminute, hminuteDigits, hminuteNumber⟩ := twoDigits_digits (min 59 minute) (by omega)
  refine ⟨_, _, _, _, ?_, ?_, hhourNumber, hminuteNumber⟩
  · rw [clockText, String.toList_append, String.toList_append, hhour, hminute]
    rfl
  · simp only [List.all_cons, List.all_nil, Bool.and_true, Bool.and_eq_true] at *
    exact ⟨hhourDigits.1, hhourDigits.2, hminuteDigits.1, hminuteDigits.2⟩

theorem letter_not_mem_clockText (hour minute : Nat) : 'T' ∉ (clockText hour minute).toList := by
  obtain ⟨g, h, m, n, hlist, hdigits, -, -⟩ := clockText_toList hour minute
  rw [hlist]
  intro hmem
  have hdigit : 'T' ∈ [g, h, m, n] := by simpa using hmem
  exact absurd (List.all_eq_true.mp hdigits 'T' hdigit) (by decide)

theorem letter_not_mem_date {date : String} (h : isDate date = true) : 'T' ∉ date.toList := by
  intro hmem
  exact absurd (date_chars h 'T' hmem) (by decide)

/-- A time of day is read as itself. -/
theorem fsTime_clockText (hour minute : Nat) (defaultTime : String) :
    fsTime (TextInput.set (clockText hour minute)).value defaultTime = clockText hour minute := by
  obtain ⟨g, h, m, n, hlist, hdigits, hhour, hminute⟩ := clockText_toList hour minute
  have hall := hdigits
  simp only [List.all_cons, List.all_nil, Bool.and_true, Bool.and_eq_true] at hall
  obtain ⟨hg, hh, hm, hn⟩ := hall
  have hinput : inputText (clockText hour minute) = clockText hour minute := by
    rw [inputText, ← String.toList_inj, String.toList_ofList, hlist]
    have hkeep : ∀ {c : Char}, c.isDigit = true → (c ≠ '\n' && c ≠ '\r') = true := fun hc => by
      simp [(plain_of_isDigit hc).2.1, (plain_of_isDigit hc).2.2.1]
    simp only [List.filter_cons, List.filter_nil, hkeep hg, hkeep hh, hkeep hm, hkeep hn]
    rfl
  have htrim : jsTrim (clockText hour minute) = clockText hour minute := by
    have hkept := (plain_of_isDigit hg).1
    have hlast := (plain_of_isDigit hn).1
    rw [jsTrim, ← String.toList_inj, String.toList_ofList, hlist,
      List.dropWhile_cons_of_neg (by simp [hkept])]
    have hback : [g, h, ':', m, n] = [g, h, ':', m] ++ [n] := rfl
    rw [hback, List.rdropWhile_concat_neg _ _ _ (by simp [hlast])]
  have hclock : clock (clockText hour minute) = some (min 23 hour, min 59 minute) := by
    rw [clock, hlist]
    simp only [hdigits, if_true, hhour, hminute]
  have hvalue : (TextInput.set (clockText hour minute)).value = clockText hour minute := hinput
  rw [fsTime, hvalue, htrim, hclock]
  simp only [clockText]
  rw [← min_assoc, ← min_assoc, min_self, min_self]

/-- What was typed comes down to a time of day. -/
theorem fsTime_eq (typed : String) (hour minute : Nat) :
    ∃ h m, fsTime typed (clockText hour minute) = clockText h m := by
  rw [fsTime]
  split
  · exact ⟨_, _, rfl⟩
  · exact ⟨_, _, rfl⟩

/-- A range end that is restored is read as it was. -/
theorem fsDateTimeVal_restored (date : DateInput) (time : TextInput) (hour minute : Nat) :
    fsDateTimeVal
        (DateInput.set (splitPart (fsDateTimeVal date time (clockText hour minute)) 0))
        (TextInput.set (splitPart (fsDateTimeVal date time (clockText hour minute)) 1))
        (clockText hour minute) =
      fsDateTimeVal date time (clockText hour minute) := by
  by_cases hempty : date.value = ""
  · rw [fsDateTimeVal, fsDateTimeVal, if_pos hempty]
    rfl
  · obtain ⟨h, m, htime⟩ := fsTime_eq time.value hour minute
    have hdate : isDate date.value = true := by
      by_contra hno
      exact hempty (date.date.symm.trans (if_neg hno))
    have hsplit : (date.value ++ "T" ++ clockText h m).toList.splitOn 'T' =
        [date.value.toList, (clockText h m).toList] := by
      rw [String.toList_append, String.toList_append, List.append_assoc]
      show (date.value.toList ++ 'T' :: (clockText h m).toList).splitOn 'T' = _
      rw [List.splitOn_append_cons_self_of_not_mem (letter_not_mem_date hdate),
        List.splitOn_eq_singleton (letter_not_mem_clockText h m)]
    have hvalue : fsDateTimeVal date time (clockText hour minute) =
        date.value ++ "T" ++ clockText h m := by
      rw [fsDateTimeVal, if_neg hempty, htime]
    have hfirst : splitPart (date.value ++ "T" ++ clockText h m) 0 = date.value := by
      rw [splitPart, hsplit]
      exact String.ofList_toList
    have hsecond : splitPart (date.value ++ "T" ++ clockText h m) 1 = clockText h m := by
      rw [splitPart, hsplit]
      exact String.ofList_toList
    rw [hvalue, hfirst, hsecond, fsDateTimeVal, fsTime_clockText]
    simp only [DateInput.set, date.date, hempty, if_false]

theorem midnight : clockText 0 0 = "00:00" := by decide

theorem lastMinute : clockText 23 59 = "23:59" := by decide

theorem firstSeenFrom_restored (date : DateInput) (time : TextInput) :
    fsDateTimeVal (DateInput.set (splitPart (fsDateTimeVal date time "00:00") 0))
        (TextInput.set (splitPart (fsDateTimeVal date time "00:00") 1)) "00:00" =
      fsDateTimeVal date time "00:00" := by
  rw [← midnight]
  exact fsDateTimeVal_restored date time 0 0

theorem firstSeenTo_restored (date : DateInput) (time : TextInput) :
    fsDateTimeVal (DateInput.set (splitPart (fsDateTimeVal date time "23:59") 0))
        (TextInput.set (splitPart (fsDateTimeVal date time "23:59") 1)) "23:59" =
      fsDateTimeVal date time "23:59" := by
  rw [← lastMinute]
  exact fsDateTimeVal_restored date time 23 59

/-! ## Column filters -/

namespace FilterRow

variable {row : FilterRow} {cols : List (String × String)} {inputs : List (String × TextInput)}

theorem lookup_setList (key col text : String) (inputs : List (String × TextInput)) :
    (setList col text inputs).lookup key =
      if key = col then (inputs.lookup key).map fun _ => TextInput.set text
      else inputs.lookup key := by
  induction inputs with
  | nil => simp [setList]
  | cons input rest ih =>
      rw [setList]
      by_cases hinput : input.1 = col
      · rw [if_pos hinput, List.lookup_cons, List.lookup_cons]
        by_cases hkey : key = col
        · simp [hkey, hinput]
        · have hother : (key == input.1) = false := by simpa [hinput] using hkey
          simp only [hother, hkey, if_false]
      · rw [if_neg hinput, List.lookup_cons, List.lookup_cons, ih]
        by_cases hkey : key = input.1
        · have hne : key ≠ col := fun h => hinput (hkey.symm.trans h)
          simp [hkey, hinput]
        · have hother : (key == input.1) = false := by simpa using hkey
          simp only [hother]

/-- Only the first input of a column has a text. -/
def FirstOnly (inputs : List (String × TextInput)) : Prop :=
  inputs.Pairwise fun first second => first.1 = second.1 → second.2.value = ""

theorem firstOnly_clear : FirstOnly row.clear.inputs := by
  exact List.pairwise_map.mpr (List.pairwise_of_forall fun first second _ => rfl)

theorem mem_setList_of_ne {col text : String} {entry : String × TextInput}
    (h : entry ∈ setList col text inputs) (hne : entry.1 ≠ col) : entry ∈ inputs := by
  induction inputs with
  | nil => exact h
  | cons input rest ih =>
      rw [setList] at h
      split at h
      · rcases List.mem_cons.mp h with rfl | hrest
        · exact absurd ‹_› hne
        · exact List.mem_cons_of_mem _ hrest
      · rcases List.mem_cons.mp h with rfl | hrest
        · exact List.mem_cons_self
        · exact List.mem_cons_of_mem _ (ih hrest)

theorem FirstOnly.setList (h : FirstOnly inputs) (col text : String) :
    FirstOnly (setList col text inputs) := by
  induction inputs with
  | nil => exact h
  | cons input rest ih =>
      obtain ⟨hfirst, hrest⟩ := List.pairwise_cons.mp h
      rw [FilterRow.setList]
      split
      · exact List.pairwise_cons.mpr ⟨hfirst, hrest⟩
      · rename_i hne
        refine List.pairwise_cons.mpr ⟨fun entry hentry hsame => ?_, ih hrest⟩
        exact hfirst entry (mem_setList_of_ne hentry (hsame ▸ hne)) hsame

/-- An input with a text is the first of its column. -/
theorem FirstOnly.lookup (h : FirstOnly inputs) {entry : String × TextInput}
    (hentry : entry ∈ inputs) (htext : entry.2.value ≠ "") :
    inputs.lookup entry.1 = some entry.2 := by
  induction inputs with
  | nil => cases hentry
  | cons input rest ih =>
      obtain ⟨hfirst, hrest⟩ := List.pairwise_cons.mp h
      rw [List.lookup_cons]
      rcases List.mem_cons.mp hentry with rfl | hmem
      · simp
      · have hother : (entry.1 == input.1) = false := by
          simpa using fun hsame : entry.1 = input.1 => htext (hfirst entry hmem hsame.symm)
        rw [hother]
        exact ih hrest hmem

theorem firstOnly_restore (h : FirstOnly row.inputs) (cols : List (String × String)) :
    FirstOnly (row.restore cols).inputs := by
  induction cols generalizing row with
  | nil => exact h
  | cons entry rest ih => exact @ih (row.set entry.1 entry.2) (h.setList _ _)

/-- The last text of a snapshot for a column stays. -/
theorem lookup_restore (row : FilterRow) (cols : List (String × String)) (key : String) :
    (row.restore cols).inputs.lookup key =
      match cols.reverse.lookup key with
      | some text => (row.inputs.lookup key).map fun _ => TextInput.set text
      | none => row.inputs.lookup key := by
  induction cols using List.reverseRecOn with
  | nil => rfl
  | append_singleton rest entry ih =>
      have hstep : row.restore (rest ++ [entry]) = (row.restore rest).set entry.1 entry.2 := by
        rw [restore, List.foldl_append]
        rfl
      rw [hstep, List.reverse_append, List.reverse_singleton, List.singleton_append,
        List.lookup_cons]
      show (setList entry.1 entry.2 (row.restore rest).inputs).lookup key = _
      rw [lookup_setList, ih]
      by_cases hkey : key = entry.1
      · subst hkey
        simp only [if_true, beq_self_eq_true]
        cases rest.reverse.lookup entry.1 <;> simp [Option.map_map, Function.comp_def]
      · have hother : (key == entry.1) = false := by simpa using hkey
        simp only [hkey, if_false, hother]

/-- Clearing keeps the columns alone. -/
theorem clear_congr {row other : FilterRow}
    (h : row.inputs.map Prod.fst = other.inputs.map Prod.fst) : row.clear = other.clear := by
  have hclear : ∀ row : FilterRow, row.clear.inputs =
      (row.inputs.map Prod.fst).map fun key => (key, TextInput.set "") := by
    intro row
    rw [List.map_map]
    rfl
  rw [FilterRow.mk.injEq, hclear, hclear, h]

theorem clear_clear (row : FilterRow) : row.clear.clear = row.clear :=
  clear_congr (by rw [clear, List.map_map]; rfl)

/-- Clearing forgets what was set. -/
theorem clear_restore (row : FilterRow) (cols : List (String × String)) :
    (row.restore cols).clear = row.clear := by
  refine clear_congr ?_
  induction cols generalizing row with
  | nil => rfl
  | cons entry rest ih => exact (ih (row.set entry.1 entry.2)).trans (map_fst_setList _ _ _)

end FilterRow

/-! ## Applying a view -/

namespace Browse

variable {row : FilterRow} {col text : String}

theorem mem_snapshotCols : (col, text) ∈ snapshotCols row ↔
    ∃ input, (col, input) ∈ row.inputs ∧ jsTrim input.value = text ∧ text ≠ "" := by
  rw [snapshotCols, List.mem_filterMap]
  constructor
  · rintro ⟨⟨name, input⟩, hmem, hentry⟩
    split at hentry
    · cases hentry
    · rename_i htext
      cases hentry
      exact ⟨input, hmem, rfl, htext⟩
  · rintro ⟨input, hmem, rfl, htext⟩
    exact ⟨(col, input), hmem, if_neg htext⟩

/-- A text of a snapshot is one an input can hold, without white space around it. -/
theorem snapshotCols_text (h : (col, text) ∈ snapshotCols row) :
    col ∈ textColumns ∧ inputText text = text ∧ jsTrim text = text ∧ text ≠ "" := by
  obtain ⟨input, hmem, rfl, htext⟩ := mem_snapshotCols.mp h
  refine ⟨(row.columns col).mp (List.mem_map.mpr ⟨_, hmem, rfl⟩), ?_, jsTrim_jsTrim _, htext⟩
  have hkeep : ∀ char ∈ (jsTrim input.value).toList, (char ≠ '\n' && char ≠ '\r') = true := by
    intro char hchar
    have hvalue := mem_of_mem_jsTrim hchar
    rw [← input.oneLine, inputText, String.toList_ofList] at hvalue
    exact (List.mem_filter.mp hvalue).2
  rw [inputText, List.filter_eq_self.mpr hkeep, String.ofList_toList]

/-- The texts of the snapshot agree where a column is in it more than once. -/
def Functional (cols : List (String × String)) : Prop :=
  ∀ col first second, (col, first) ∈ cols → (col, second) ∈ cols → first = second

/-- The view shows the last text of each column it has, as an input holds it. -/
theorem mem_snapshotCols_clear_restore {cols : List (String × String)} :
    (col, text) ∈ snapshotCols (row.clear.restore cols) ↔
      col ∈ textColumns ∧ ∃ typed, cols.reverse.lookup col = some typed ∧
        jsTrim (inputText typed) = text ∧ text ≠ "" := by
  have hfirst := FilterRow.firstOnly_restore (@FilterRow.firstOnly_clear row) cols
  rw [mem_snapshotCols]
  constructor
  · rintro ⟨input, hmem, htrim, htext⟩
    have hcol : col ∈ textColumns :=
      ((row.clear.restore cols).columns col).mp (List.mem_map.mpr ⟨_, hmem, rfl⟩)
    have hvalue : input.value ≠ "" := by
      intro hblank
      rw [hblank, jsTrim_empty] at htrim
      exact htext htrim.symm
    have hlookup := hfirst.lookup hmem hvalue
    rw [FilterRow.lookup_restore] at hlookup
    cases hlast : cols.reverse.lookup col with
    | none =>
        rw [hlast] at hlookup
        have hblank := Library.Dict.mem_of_lookup_eq_some hlookup
        obtain ⟨old, -, hold⟩ := List.mem_map.mp hblank
        cases hold
        exact absurd rfl hvalue
    | some typed =>
        rw [hlast] at hlookup
        obtain ⟨old, -, hold⟩ := Option.map_eq_some_iff.mp hlookup
        refine ⟨hcol, typed, rfl, ?_, htext⟩
        have hvalue : inputText typed = input.value := congrArg TextInput.value hold
        rw [← htrim, hvalue]
  · rintro ⟨hcol, typed, hlast, htrim, htext⟩
    have hlookup : (row.clear.restore cols).inputs.lookup col = some (TextInput.set typed) := by
      obtain ⟨entry, hentry, rfl⟩ := List.mem_map.mp ((row.clear.columns _).mpr hcol)
      obtain ⟨old, hold⟩ := Option.ne_none_iff_exists'.mp fun hnone =>
        absurd rfl (bne_iff_ne.mp (List.lookup_eq_none_iff.mp hnone entry hentry))
      rw [FilterRow.lookup_restore, hlast, hold]
      rfl
    exact ⟨_, Library.Dict.mem_of_lookup_eq_some hlookup, htrim, htext⟩

/-- The view shows the last text of each column. -/
theorem mem_snapshotCols_restore {earlier : FilterRow} :
    (col, text) ∈ snapshotCols (row.clear.restore (snapshotCols earlier)) ↔
      (snapshotCols earlier).reverse.lookup col = some text := by
  rw [mem_snapshotCols_clear_restore]
  constructor
  · rintro ⟨-, typed, hlast, htrim, -⟩
    obtain ⟨-, hone, hsame, -⟩ := snapshotCols_text
      (List.mem_reverse.mp (Library.Dict.mem_of_lookup_eq_some hlast))
    rw [hlast, ← htrim, hone]
    exact congrArg some hsame.symm
  · intro hlast
    obtain ⟨hcol, hone, hsame, htext⟩ := snapshotCols_text
      (List.mem_reverse.mp (Library.Dict.mem_of_lookup_eq_some hlast))
    exact ⟨hcol, text, hlast, by rw [hone, hsame], htext⟩

/-- Two snapshots have the same filters. -/
structure SameFilters (first second : FilterSnapshot) : Prop where
  portalOnly : first.portalOnly = second.portalOnly
  decommOnly : first.decommOnly = second.decommOnly
  activeStatusFilter : first.activeStatusFilter = second.activeStatusFilter
  cols : ∀ entry, entry ∈ first.cols ↔ entry ∈ second.cols
  authStatus : first.authStatus = second.authStatus
  firstSeenFrom : first.firstSeenFrom = second.firstSeenFrom
  firstSeenTo : first.firstSeenTo = second.firstSeenTo

theorem restored_cols_iff {earlier : FilterRow} :
    (∀ entry, entry ∈ snapshotCols (row.clear.restore (snapshotCols earlier)) ↔
        entry ∈ snapshotCols earlier) ↔
      Functional (snapshotCols earlier) := by
  constructor
  · intro h col first second hfirst hsecond
    have hone := mem_snapshotCols_restore.mp ((h _).mpr hfirst)
    have htwo := mem_snapshotCols_restore.mp ((h _).mpr hsecond)
    exact Option.some.inj (hone.symm.trans htwo)
  · rintro h ⟨col, text⟩
    rw [mem_snapshotCols_restore]
    refine ⟨fun hlast => List.mem_reverse.mp (Library.Dict.mem_of_lookup_eq_some hlast),
      fun hmem => ?_⟩
    obtain ⟨last, hlast⟩ := Option.ne_none_iff_exists'.mp fun hnone =>
      absurd rfl (bne_iff_ne.mp
        (List.lookup_eq_none_iff.mp hnone (col, text) (List.mem_reverse.mpr hmem)))
    rw [hlast, h col last text
      (List.mem_reverse.mp (Library.Dict.mem_of_lookup_eq_some hlast)) hmem]

/-- The value of the select is restored unless it shows none of its options. -/
theorem authStatus_restored_iff (select : AuthSelect) :
    (if select.value ≠ "" then AuthSelect.set select.value else AuthSelect.set "all").value =
      select.value ↔ select.value ≠ "" := by
  by_cases h : select.value = ""
  · rw [if_neg (not_not_intro h), h]
    exact iff_of_false (by decide) (not_not_intro rfl)
  · rw [if_pos h]
    exact iff_of_true select.option h

/-- A view shows its filters again, and the view before it leaves nothing of its own. -/
structure ViewLaw (prior : Browse) (first second : FilterSnapshot) : Prop where
  reproduces : SameFilters (snapshotFilters (prior.applyFilterSnapshot second false)) second
  absorbs : SameFilters
    (snapshotFilters ((prior.applyFilterSnapshot first false).applyFilterSnapshot second false))
    (snapshotFilters (prior.applyFilterSnapshot second false))

/-- A view shows its filters again where what it only sets was not set before. -/
theorem reproduces_iff (prior second : Browse) :
    SameFilters (snapshotFilters (prior.applyFilterSnapshot second.snapshotFilters false))
        second.snapshotFilters ↔
      (second.decommOnly = true ∨ prior.decommOnly = false) ∧
      (second.activeStatusFilter ≠ "" ∨ prior.activeStatusFilter = "") ∧
      second.authStatus.value ≠ "" ∧ Functional (snapshotCols second.filterRow) := by
  have hdecomm : (if second.decommOnly = true then true else prior.decommOnly) =
      second.decommOnly ↔ second.decommOnly = true ∨ prior.decommOnly = false := by
    cases second.decommOnly <;> simp
  have hactive : (if second.activeStatusFilter ≠ "" then second.activeStatusFilter
      else prior.activeStatusFilter) = second.activeStatusFilter ↔
        second.activeStatusFilter ≠ "" ∨ prior.activeStatusFilter = "" := by
    by_cases h : second.activeStatusFilter = "" <;> simp [h]
  constructor
  · intro h
    exact ⟨hdecomm.mp h.decommOnly, hactive.mp h.activeStatusFilter,
      (authStatus_restored_iff _).mp h.authStatus, restored_cols_iff.mp h.cols⟩
  · rintro ⟨hdecommOnly, hactiveStatus, hauth, hcols⟩
    refine ⟨rfl, hdecomm.mpr hdecommOnly, hactive.mpr hactiveStatus, restored_cols_iff.mpr hcols,
      (authStatus_restored_iff _).mpr hauth, ?_, ?_⟩
    · simp only [snapshotFilters, applyFilterSnapshot]
      exact firstSeenFrom_restored second.fromDate second.fromTime
    · simp only [snapshotFilters, applyFilterSnapshot]
      exact firstSeenTo_restored second.toDate second.toTime

/-- The filters the view before it leaves are those it sets and the second one does not. -/
theorem absorbs_iff (prior : Browse) (first second : FilterSnapshot) :
    SameFilters
        (snapshotFilters ((prior.applyFilterSnapshot first false).applyFilterSnapshot second false))
        (snapshotFilters (prior.applyFilterSnapshot second false)) ↔
      (second.decommOnly = true ∨ prior.decommOnly = true ∨ first.decommOnly = false) ∧
      (second.activeStatusFilter ≠ "" ∨ first.activeStatusFilter = "" ∨
        first.activeStatusFilter = prior.activeStatusFilter) := by
  have hdecomm : (if second.decommOnly = true then true
      else if first.decommOnly = true then true else prior.decommOnly) =
        (if second.decommOnly = true then true else prior.decommOnly) ↔
      second.decommOnly = true ∨ prior.decommOnly = true ∨ first.decommOnly = false := by
    cases second.decommOnly <;> cases first.decommOnly <;> cases prior.decommOnly <;> simp
  have hactive : (if second.activeStatusFilter ≠ "" then second.activeStatusFilter
      else if first.activeStatusFilter ≠ "" then first.activeStatusFilter
      else prior.activeStatusFilter) =
        (if second.activeStatusFilter ≠ "" then second.activeStatusFilter
          else prior.activeStatusFilter) ↔
      second.activeStatusFilter ≠ "" ∨ first.activeStatusFilter = "" ∨
        first.activeStatusFilter = prior.activeStatusFilter := by
    by_cases hsecond : second.activeStatusFilter = ""
    · by_cases hfirst : first.activeStatusFilter = "" <;> simp [hsecond, hfirst]
    · simp [hsecond]
  have hrow : ((prior.applyFilterSnapshot first false).applyFilterSnapshot second false).filterRow =
      (prior.applyFilterSnapshot second false).filterRow :=
    congrArg (FilterRow.restore · second.cols)
      ((FilterRow.clear_restore prior.filterRow.clear first.cols).trans
        (FilterRow.clear_clear prior.filterRow))
  constructor
  · intro h
    exact ⟨hdecomm.mp h.decommOnly, hactive.mp h.activeStatusFilter⟩
  · rintro ⟨hdecommOnly, hactiveStatus⟩
    refine ⟨rfl, hdecomm.mpr hdecommOnly, hactive.mpr hactiveStatus, fun entry => ?_, rfl, rfl, rfl⟩
    show entry ∈ snapshotCols _ ↔ entry ∈ snapshotCols _
    rw [hrow]

/-- The views keep the law exactly where the second one sets what it does not reset, or nothing
before it did, where its select shows an option and its texts for a column agree. -/
theorem view_law_iff (prior first second : Browse) :
    ViewLaw prior first.snapshotFilters second.snapshotFilters ↔
      (second.decommOnly = true ∨ prior.decommOnly = false ∧ first.decommOnly = false) ∧
      (second.activeStatusFilter ≠ "" ∨
        prior.activeStatusFilter = "" ∧ first.activeStatusFilter = "") ∧
      second.authStatus.value ≠ "" ∧ Functional (snapshotCols second.filterRow) := by
  constructor
  · rintro ⟨hreproduces, habsorbs⟩
    obtain ⟨hdecomm, hactive, hauth, hcols⟩ := (reproduces_iff prior second).mp hreproduces
    obtain ⟨hdecommFirst, hactiveFirst⟩ := (absorbs_iff prior _ _).mp habsorbs
    refine ⟨?_, ?_, hauth, hcols⟩
    · rcases hdecomm with hset | hnone
      · exact .inl hset
      · refine hdecommFirst.imp_right fun h => ⟨hnone, h.resolve_left ?_⟩
        simp [hnone]
    · rcases hactive with hset | hnone
      · exact .inl hset
      · exact hactiveFirst.imp_right fun h => ⟨hnone, h.elim id fun hsame => hsame.trans hnone⟩
  · rintro ⟨hdecomm, hactive, hauth, hcols⟩
    refine ⟨(reproduces_iff prior second).mpr ⟨hdecomm.imp_right And.left,
      hactive.imp_right And.left, hauth, hcols⟩, (absorbs_iff prior _ _).mpr ⟨?_, ?_⟩⟩
    · exact hdecomm.imp_right fun h => .inr h.2
    · exact hactive.imp_right fun h => .inl h.2

/-- The filter row as it is rendered. -/
def emptyRow : FilterRow where
  inputs := textColumns.map fun key => (key, TextInput.set "")
  columns key := by rw [List.map_map]; exact Iff.of_eq (by simp [Function.comp_def])

/-- The view as it is opened. -/
def openedBrowse : Browse where
  portalOnly := false
  decommOnly := false
  activeStatusFilter := ""
  sortCol := none
  sortDir := none
  filterRow := emptyRow
  authStatus := AuthSelect.set "all"
  fromDate := DateInput.set ""
  fromTime := TextInput.set ""
  toDate := DateInput.set ""
  toTime := TextInput.set ""
  colVis := Dict.empty
  currentSize := 50

/-- The view without filters, applied while decommissioned endpoints are filtered, keeps that
filter. -/
theorem view_law_fails :
    ¬ ∀ prior first second : Browse,
      ViewLaw prior first.snapshotFilters second.snapshotFilters := by
  intro h
  have hdecomm := (h { openedBrowse with decommOnly := true } openedBrowse
    openedBrowse).reproduces.decommOnly
  cases hdecomm

end Browse

end IsePortal.Frontend
