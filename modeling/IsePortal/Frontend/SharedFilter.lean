import IsePortal.Frontend.BrowseFilter
import IsePortal.Platform.UrlEncoded

/-!
# Sharing the filters of the browse view

`encodeFilterToUrl` and `decodeFilterFromUrl` of `frontend/js/views/browse-filter.js`, and the
start-up of the view. The link is decoded first; the filters stored in the browser are restored
after it, over what it has set. `link_reproduces_iff` says when the view shows the filters of the
sender.
-/

namespace IsePortal.Frontend

open Library UrlEncoded

/-- The filters of the view: the full-text query beside those a snapshot has. -/
structure FilterState where
  view : Browse
  fullTextQ : String := ""

/-- `window.location.origin` and `window.location.pathname`. -/
structure PageUrl where
  base : List Char
  noFragment : '#' ∉ base

/-- The browser a link is opened in: its filter row and column settings, the stored filters, and
the endpoint another view has asked for. -/
structure Receiver where
  row : FilterRow
  colVis : Dict String Bool
  currentSize : Nat
  stored : Option FilterSnapshot
  pendingEp : Option String

namespace FilterState

/-- One `params.set` under a condition. -/
def setWhen (cond : Bool) (name value : String) : List (String × String) :=
  if cond then [(name, value)] else []

/-- The calls of `params.set` for the column filters. -/
def colSets (row : FilterRow) : List (String × String) :=
  row.inputs.flatMap fun input =>
    setWhen (jsTrim input.2.value ≠ "") ("col_" ++ input.1) (jsTrim input.2.value)

/-- The calls of `params.set` in `encodeFilterToUrl`. -/
def paramSets (state : FilterState) : List (String × String) :=
  setWhen state.view.portalOnly "p" "1" ++
  setWhen state.view.decommOnly "decomm" "1" ++
  setWhen (state.view.activeStatusFilter ≠ "") "active_status" state.view.activeStatusFilter ++
  setWhen (state.fullTextQ ≠ "") "q" state.fullTextQ ++
  setWhen (state.view.authStatus.value ≠ "all") "auth" state.view.authStatus.value ++
  colSets state.view.filterRow ++
  let fsFrom := fsDateTimeVal state.view.fromDate state.view.fromTime "00:00"
  let fsTo := fsDateTimeVal state.view.toDate state.view.toTime "23:59"
  setWhen (fsFrom ≠ "") "fsfrom" fsFrom ++ setWhen (fsTo ≠ "") "fsto" fsTo

/-- `params` of `encodeFilterToUrl`. -/
def urlParams (state : FilterState) : Dict String String :=
  state.paramSets.foldl (fun params entry => params.set entry.1 entry.2) .empty

/-- `encodeFilterToUrl` -/
def encodeFilterToUrl (page : PageUrl) (state : FilterState) : List Char :=
  let qs := urlText (serializeForm state.urlParams.entries)
  page.base ++ "#browse".toList ++ if qs = [] then [] else '?' :: qs

/-- `key.slice(4)` of a name that starts with `col_`. -/
def colOf (key : String) : Option String :=
  if key.toList.take 4 = "col_".toList then some (String.ofList (key.toList.drop 4)) else none

/-- The columns of the parameters whose name starts with `col_`. -/
def colParams (params : List (String × String)) : List (String × String) :=
  params.filterMap fun entry => (colOf entry.1).map fun col => (col, entry.2)

/-- What `decodeFilterFromUrl` makes of the parameters. -/
def applyParams (params : List (String × String)) (state : FilterState) : FilterState :=
  let view := state.view
  let fsFrom := (params.lookup "fsfrom").getD ""
  let fsTo := (params.lookup "fsto").getD ""
  -- `if (fsFrom || fsTo) firstSeenRestore(…)`
  let dated : Bool := fsFrom ≠ "" ∨ fsTo ≠ ""
  { view :=
      { view with
        portalOnly := if params.lookup "p" = some "1" then true else view.portalOnly
        decommOnly := if params.lookup "decomm" = some "1" then true else view.decommOnly
        activeStatusFilter :=
          match params.lookup "active_status" with
          | some status =>
              if status = "Aktiv" ∨ status = "Inaktiv" then status else view.activeStatusFilter
          | none => view.activeStatusFilter
        authStatus :=
          match params.lookup "auth" with
          | some auth => if auth = "" then view.authStatus else AuthSelect.set auth
          | none => view.authStatus
        filterRow := view.filterRow.restore (colParams params)
        fromDate := if dated then DateInput.set (splitPart fsFrom 0) else view.fromDate
        fromTime := if dated then TextInput.set (splitPart fsFrom 1) else view.fromTime
        toDate := if dated then DateInput.set (splitPart fsTo 0) else view.toDate
        toTime := if dated then TextInput.set (splitPart fsTo 1) else view.toTime }
    fullTextQ :=
      match params.lookup "q" with
      | some q => if q = "" then state.fullTextQ else q
      | none => state.fullTextQ }

/-- `decodeFilterFromUrl` -/
def decodeFilterFromUrl (hash : List Char) (state : FilterState) : FilterState :=
  if hash.take 8 = "#browse?".toList then
    applyParams (urlSearchParams (hash.drop 8)) state
  else
    state

end FilterState

namespace Receiver

/-- The view as `renderBrowse` renders it. -/
def opened (receiver : Receiver) : FilterState where
  view :=
    { Browse.openedBrowse with
      filterRow := receiver.row.clear
      colVis := receiver.colVis
      currentSize := receiver.currentSize }

/-- `restoreFilters` -/
def restoreFilters (receiver : Receiver) (state : FilterState) : FilterState :=
  match receiver.stored with
  | none => state
  | some s => { state with view := state.view.applyFilterSnapshot s true }

/-- The search for an endpoint that another view has asked for. -/
def searchPending (receiver : Receiver) (state : FilterState) : FilterState :=
  match receiver.pendingEp with
  | none => state
  | some pendingEp => if pendingEp = "" then state else { state with fullTextQ := pendingEp }

/-- The start-up of the view once a link is opened. -/
def followLink (receiver : Receiver) (url : List Char) : FilterState :=
  receiver.searchPending
    (receiver.restoreFilters (receiver.opened.decodeFilterFromUrl (locationHash url)))

end Receiver

namespace FilterState

/-- Two views have the same filters. -/
def Same (first second : FilterState) : Prop :=
  Browse.SameFilters first.view.snapshotFilters second.view.snapshotFilters ∧
    first.fullTextQ = second.fullTextQ

end FilterState

/-! ## The link -/

namespace FilterState

open Browse

variable {state : FilterState} {row : FilterRow} {params : List (String × String)}

/-- What is in the link is read from it. -/
theorem decodeFilterFromUrl_encode (page : PageUrl) (state opened : FilterState) :
    opened.decodeFilterFromUrl (locationHash (state.encodeFilterToUrl page)) =
      opened.applyParams state.urlParams.entries := by
  unfold encodeFilterToUrl
  simp only
  generalize hqs : urlText (serializeForm state.urlParams.entries) = qs
  have hread : urlSearchParams qs = state.urlParams.entries :=
    hqs ▸ urlSearchParams_serializeForm _
  have hkeeps : ∀ c ∈ qs, fragmentEscapes c = false := fun c hc =>
    fragment_keeps_serializeForm (hqs ▸ hc)
  cases qs with
  | nil =>
      have hhash : locationHash (page.base ++ "#browse".toList ++ []) = "#browse".toList := by
        rw [List.append_nil]
        exact @locationHash_append page.base "browse".toList page.noFragment (by simp)
          (by simp [fragmentEscapes])
      rw [if_pos rfl, hhash, decodeFilterFromUrl, if_neg (by simp), ← hread]
      rfl
  | cons c rest =>
      have hhash : locationHash (page.base ++ "#browse".toList ++ '?' :: c :: rest) =
          "#browse?".toList ++ c :: rest := by
        have hname : ∀ other ∈ "browse?".toList, fragmentEscapes other = false := by
          simp [fragmentEscapes]
        have hall : ∀ other ∈ "browse?".toList ++ c :: rest, fragmentEscapes other = false :=
          fun other hother => (List.mem_append.mp hother).elim (hname other) (hkeeps other)
        rw [List.append_assoc]
        exact locationHash_append page.noFragment (List.cons_ne_nil _ _) hall
      rw [if_neg (List.cons_ne_nil _ _), hhash, decodeFilterFromUrl]
      rw [List.take_left' (by rfl), if_pos rfl, List.drop_left' (by rfl), hread]

theorem lookup_setWhen_append (cond : Bool) (name value key : String)
    (rest : List (String × String)) :
    (setWhen cond name value ++ rest).lookup key =
      if cond = true ∧ key = name then some value else rest.lookup key := by
  cases cond with
  | false => simp [setWhen]
  | true =>
      by_cases h : key = name
      · simp [setWhen, h]
      · have hb : (key == name) = false := by simpa using h
        simp [setWhen, h, List.lookup_cons, hb]

theorem lookup_setWhen (cond : Bool) (name value key : String) :
    (setWhen cond name value).lookup key =
      if cond = true ∧ key = name then some value else none := by
  have h := lookup_setWhen_append cond name value key []
  rwa [List.append_nil] at h

theorem reverse_setWhen (cond : Bool) (name value : String) :
    (setWhen cond name value).reverse = setWhen cond name value := by
  cases cond <;> rfl

/-- The parameters of the columns are their filters. -/
theorem colSets_eq (row : FilterRow) :
    colSets row = (snapshotCols row).map fun entry => ("col_" ++ entry.1, entry.2) := by
  unfold colSets snapshotCols
  induction row.inputs with
  | nil => rfl
  | cons input rest ih =>
      rw [List.flatMap_cons, ih, List.filterMap_cons]
      by_cases h : jsTrim input.2.value = "" <;> simp [setWhen, h]

theorem colOf_eq_some_iff {key col : String} : colOf key = some col ↔ key = "col_" ++ col := by
  have hname : ("col_" ++ col).toList = "col_".toList ++ col.toList := String.toList_append
  rw [colOf, Option.ite_none_right_eq_some, ← String.toList_inj, hname]
  constructor
  · rintro ⟨htake, hdrop⟩
    rw [← htake, ← Option.some.inj hdrop, String.toList_ofList, List.take_append_drop]
  · intro h
    rw [h]
    exact ⟨rfl, congrArg some String.ofList_toList⟩

theorem colName_inj {first second : String} : "col_" ++ first = "col_" ++ second ↔
    first = second := by
  refine ⟨fun h => ?_, fun h => h ▸ rfl⟩
  exact Option.some.inj ((colOf_eq_some_iff.mpr rfl).symm.trans (colOf_eq_some_iff.mpr h))

/-- The parameter of a column is its last text. -/
theorem lookup_map_col (cols : List (String × String)) (col : String) :
    (cols.map fun entry => ("col_" ++ entry.1, entry.2)).lookup ("col_" ++ col) =
      cols.lookup col := by
  induction cols with
  | nil => rfl
  | cons entry rest ih =>
      have hsame : ("col_" ++ col == "col_" ++ entry.1) = (col == entry.1) := by
        rw [Bool.eq_iff_iff, beq_iff_eq, beq_iff_eq, colName_inj]
      rw [List.map_cons, List.lookup_cons, List.lookup_cons, ih, hsame]

theorem lookup_map_col_of_none {key : String} (h : colOf key = none)
    (cols : List (String × String)) :
    (cols.map fun entry => ("col_" ++ entry.1, entry.2)).lookup key = none := by
  rw [List.lookup_eq_none_iff]
  intro entry hentry
  obtain ⟨source, -, rfl⟩ := List.mem_map.mp hentry
  refine bne_iff_ne.mpr fun heq => ?_
  rw [colOf_eq_some_iff.mpr heq] at h
  cases h

/-- The parameters read as columns. -/
theorem lookup_colParams (params : List (String × String)) (col : String) :
    (colParams params).lookup col = params.lookup ("col_" ++ col) := by
  induction params with
  | nil => rfl
  | cons entry rest ih =>
      rw [colParams, List.filterMap_cons, List.lookup_cons]
      cases hname : colOf entry.1 with
      | none =>
          have hne : ("col_" ++ col == entry.1) = false := by
            refine beq_eq_false_iff_ne.mpr fun heq => ?_
            rw [colOf_eq_some_iff.mpr heq.symm] at hname
            cases hname
          rw [hne]
          exact ih
      | some other =>
          have hsame : ("col_" ++ col == entry.1) = (col == other) := by
            rw [Bool.eq_iff_iff, beq_iff_eq, beq_iff_eq, colOf_eq_some_iff.mp hname, colName_inj]
          rw [hsame]
          simp only [Option.map_some, List.lookup_cons]
          rw [← ih]
          rfl

/-- The last value set for a name is the one in the link. -/
theorem lookup_urlParams (state : FilterState) (key : String) :
    state.urlParams.entries.lookup key = state.paramSets.reverse.lookup key := by
  have h := Dict.get?_foldl_set_last state.paramSets .empty key
  rw [show (Dict.empty : Dict String String).get? key = none from rfl, Option.or_none] at h
  exact h

/-- The link has the filter of each column. -/
theorem lookup_urlParams_col (state : FilterState) (col : String) :
    state.urlParams.entries.lookup ("col_" ++ col) =
      (snapshotCols state.view.filterRow).reverse.lookup col := by
  have hne : ∀ {name : String}, colOf name = none → ("col_" ++ col = name ↔ False) := by
    intro name hname
    refine iff_false_intro fun heq => ?_
    rw [colOf_eq_some_iff.mpr heq.symm] at hname
    cases hname
  rw [lookup_urlParams, paramSets]
  simp only [List.reverse_append, List.lookup_append, reverse_setWhen, colSets_eq,
    ← List.map_reverse, lookup_map_col, lookup_setWhen, @hne "p" rfl, @hne "decomm" rfl,
    @hne "active_status" rfl, @hne "q" rfl, @hne "auth" rfl, @hne "fsfrom" rfl, @hne "fsto" rfl,
    and_false, if_false, Option.none_or, Option.or_none]

/-- The calls of `params.set` for what is not a column filter, the last one first. -/
def nameSets (state : FilterState) : List (String × String) :=
  let fsFrom := fsDateTimeVal state.view.fromDate state.view.fromTime "00:00"
  let fsTo := fsDateTimeVal state.view.toDate state.view.toTime "23:59"
  setWhen (fsTo ≠ "") "fsto" fsTo ++ (setWhen (fsFrom ≠ "") "fsfrom" fsFrom ++
  (setWhen (state.view.authStatus.value ≠ "all") "auth" state.view.authStatus.value ++
  (setWhen (state.fullTextQ ≠ "") "q" state.fullTextQ ++
  (setWhen (state.view.activeStatusFilter ≠ "") "active_status" state.view.activeStatusFilter ++
  (setWhen state.view.decommOnly "decomm" "1" ++
  setWhen state.view.portalOnly "p" "1")))))

theorem lookup_urlParams_name (state : FilterState) {key : String} (h : colOf key = none) :
    state.urlParams.entries.lookup key = state.nameSets.lookup key := by
  rw [lookup_urlParams, paramSets, nameSets]
  simp only [List.reverse_append, List.lookup_append, reverse_setWhen, colSets_eq,
    ← List.map_reverse, lookup_map_col_of_none h, Option.none_or, Option.or_assoc]

/-! ## What the link sets -/

variable {receiver : Receiver}

/-- The view after the link is decoded, before the stored filters are restored. -/
def decoded (state : FilterState) (receiver : Receiver) : FilterState :=
  receiver.opened.applyParams state.urlParams.entries

theorem decoded_portalOnly : (state.decoded receiver).view.portalOnly = state.view.portalOnly := by
  have h := @lookup_urlParams_name state "p" rfl
  simp only [nameSets, lookup_setWhen_append, lookup_setWhen, String.reduceEq, and_false, and_true,
    if_false] at h
  simp only [decoded, applyParams, h]
  cases state.view.portalOnly <;> rfl

theorem decoded_decommOnly : (state.decoded receiver).view.decommOnly = state.view.decommOnly := by
  have h := @lookup_urlParams_name state "decomm" rfl
  simp only [nameSets, lookup_setWhen_append, lookup_setWhen, String.reduceEq, and_false, and_true,
    if_false] at h
  simp only [decoded, applyParams, h]
  cases state.view.decommOnly <;> rfl

/-- Another active status than the two is not decoded. -/
theorem decoded_activeStatusFilter :
    (state.decoded receiver).view.activeStatusFilter =
      if state.view.activeStatusFilter = "Aktiv" ∨ state.view.activeStatusFilter = "Inaktiv" then
        state.view.activeStatusFilter
      else
        "" := by
  have h := @lookup_urlParams_name state "active_status" rfl
  simp only [nameSets, lookup_setWhen_append, lookup_setWhen, String.reduceEq, and_false, and_true,
    if_false, decide_eq_true_eq] at h
  simp only [decoded, applyParams, h]
  by_cases hempty : state.view.activeStatusFilter = ""
  · simp [hempty, Receiver.opened, openedBrowse]
  · rw [if_pos hempty]
    rfl

theorem decoded_fullTextQ : (state.decoded receiver).fullTextQ = state.fullTextQ := by
  have h := @lookup_urlParams_name state "q" rfl
  simp only [nameSets, lookup_setWhen_append, lookup_setWhen, String.reduceEq, and_false, and_true,
    if_false, decide_eq_true_eq] at h
  simp only [decoded, applyParams, h]
  by_cases hempty : state.fullTextQ = ""
  · simp [hempty, Receiver.opened]
  · simp [hempty]

/-- A select that shows none of its options is not decoded. -/
theorem decoded_authStatus :
    (state.decoded receiver).view.authStatus.value =
      if state.view.authStatus.value = "" then "all" else state.view.authStatus.value := by
  have h := @lookup_urlParams_name state "auth" rfl
  simp only [nameSets, lookup_setWhen_append, lookup_setWhen, String.reduceEq, and_false, and_true,
    if_false, decide_eq_true_eq] at h
  simp only [decoded, applyParams, h]
  by_cases hall : state.view.authStatus.value = "all"
  · simp [hall, Receiver.opened, openedBrowse, AuthSelect.set, setSelect, authOptions]
  · rw [if_pos hall]
    by_cases hempty : state.view.authStatus.value = ""
    · simp [hempty, Receiver.opened, openedBrowse, AuthSelect.set, setSelect, authOptions]
    · simp only [hempty, if_false]
      exact state.view.authStatus.option

/-- The parameters of the range, as `firstSeenRestore` gets them. -/
theorem getD_ite_ne_empty (text : String) :
    (if text ≠ "" then some text else none).getD "" = text := by
  by_cases h : text = "" <;> simp [h]

theorem decoded_firstSeen :
    fsDateTimeVal (state.decoded receiver).view.fromDate (state.decoded receiver).view.fromTime
        "00:00" = fsDateTimeVal state.view.fromDate state.view.fromTime "00:00" ∧
      fsDateTimeVal (state.decoded receiver).view.toDate (state.decoded receiver).view.toTime
        "23:59" = fsDateTimeVal state.view.toDate state.view.toTime "23:59" := by
  have hfrom := @lookup_urlParams_name state "fsfrom" rfl
  have hto := @lookup_urlParams_name state "fsto" rfl
  simp only [nameSets, lookup_setWhen_append, lookup_setWhen, String.reduceEq, and_false, and_true,
    if_false, decide_eq_true_eq] at hfrom hto
  simp only [decoded, applyParams, hfrom, hto, getD_ite_ne_empty, decide_eq_true_eq]
  split
  case isTrue => exact ⟨firstSeenFrom_restored _ _, firstSeenTo_restored _ _⟩
  case isFalse hnone =>
      push Not at hnone
      rw [hnone.1, hnone.2]
      exact ⟨rfl, rfl⟩

/-- In a dictionary the last entry of a name is the first one. -/
theorem lookup_reverse_entries (d : Dict String String) (key : String) :
    d.entries.reverse.lookup key = d.entries.lookup key := by
  have hnodup : (d.entries.reverse.map Prod.fst).Nodup := by
    rw [List.map_reverse, List.nodup_reverse]
    exact d.nodup
  refine Option.ext fun value => ⟨fun h => ?_, fun h => ?_⟩
  · exact Dict.lookup_eq_some_of_mem d.nodup (List.mem_reverse.mp (Dict.mem_of_lookup_eq_some h))
  · exact Dict.lookup_eq_some_of_mem hnodup (List.mem_reverse.mpr (Dict.mem_of_lookup_eq_some h))

/-- The columns are decoded as a snapshot restores them. -/
theorem mem_decoded_cols {col text : String} :
    (col, text) ∈ snapshotCols (state.decoded receiver).view.filterRow ↔
      (col, text) ∈
        snapshotCols (receiver.row.clear.restore (snapshotCols state.view.filterRow)) := by
  have hlast : (colParams state.urlParams.entries).reverse.lookup col =
      (snapshotCols state.view.filterRow).reverse.lookup col := by
    rw [colParams, ← List.filterMap_reverse]
    exact (lookup_colParams _ col).trans
      ((lookup_reverse_entries _ _).trans (lookup_urlParams_col state col))
  have hrow : (state.decoded receiver).view.filterRow =
      receiver.row.clear.restore (colParams state.urlParams.entries) := rfl
  rw [hrow, mem_snapshotCols_clear_restore, mem_snapshotCols_clear_restore, hlast]

end FilterState

/-! ## The law -/

open Browse

variable {state : FilterState} {receiver : Receiver} {s : FilterSnapshot}

/-- The filters a link can carry: an active status the view knows, an option of the select, and one
text for each column. -/
def FilterState.Shareable (state : FilterState) : Prop :=
  (state.view.activeStatusFilter = "" ∨ state.view.activeStatusFilter = "Aktiv" ∨
      state.view.activeStatusFilter = "Inaktiv") ∧
    state.view.authStatus.value ≠ "" ∧ Functional (snapshotCols state.view.filterRow)

/-- The stored filters show what the sender has, except that they may leave the filters they do not
reset to the link. -/
structure StoredAgrees (s : FilterSnapshot) (state : FilterState) : Prop where
  portalOnly : s.portalOnly = state.view.portalOnly
  decommOnly : s.decommOnly = true → state.view.decommOnly = true
  activeSet : s.activeStatusFilter ≠ "" → s.activeStatusFilter = state.view.activeStatusFilter
  activeUnset : s.activeStatusFilter = "" → state.view.activeStatusFilter = "" ∨
    state.view.activeStatusFilter = "Aktiv" ∨ state.view.activeStatusFilter = "Inaktiv"
  authStatus : (if s.authStatus ≠ "" then setSelect authOptions s.authStatus else "all") =
    state.view.authStatus.value
  cols : ∀ col text, (col, text) ∈ snapshotCols state.view.filterRow ↔
    col ∈ textColumns ∧ ∃ typed, s.cols.reverse.lookup col = some typed ∧
      jsTrim (inputText typed) = text ∧ text ≠ ""
  firstSeenFrom : fsDateTimeVal (DateInput.set (splitPart s.firstSeenFrom 0))
    (TextInput.set (splitPart s.firstSeenFrom 1)) "00:00" =
      fsDateTimeVal state.view.fromDate state.view.fromTime "00:00"
  firstSeenTo : fsDateTimeVal (DateInput.set (splitPart s.firstSeenTo 0))
    (TextInput.set (splitPart s.firstSeenTo 1)) "23:59" =
      fsDateTimeVal state.view.toDate state.view.toTime "23:59"

/-- What the browser has of its own agrees with the link. -/
def Receiver.Agrees (receiver : Receiver) (state : FilterState) : Prop :=
  (match receiver.stored with
    | none => state.Shareable
    | some s => StoredAgrees s state) ∧
  ∀ pendingEp, receiver.pendingEp = some pendingEp → pendingEp = "" ∨ pendingEp = state.fullTextQ

theorem fullTextQ_searchPending_iff (opened : FilterState) :
    (receiver.searchPending { opened with fullTextQ := state.fullTextQ }).fullTextQ =
        state.fullTextQ ↔
      ∀ pendingEp, receiver.pendingEp = some pendingEp →
        pendingEp = "" ∨ pendingEp = state.fullTextQ := by
  unfold Receiver.searchPending
  cases receiver.pendingEp with
  | none => simp
  | some pendingEp =>
      simp only [Option.some.injEq, forall_eq']
      split <;> simp [*]

theorem view_searchPending (opened : FilterState) :
    (receiver.searchPending opened).view = opened.view := by
  unfold Receiver.searchPending
  split
  · rfl
  · split <;> rfl

/-- Without stored filters the link is all there is. -/
theorem decoded_same_iff :
    SameFilters (state.decoded receiver).view.snapshotFilters state.view.snapshotFilters ↔
      state.Shareable := by
  have hportal := @FilterState.decoded_portalOnly state receiver
  have hdecomm := @FilterState.decoded_decommOnly state receiver
  have hstatus := @FilterState.decoded_activeStatusFilter state receiver
  have hselect := @FilterState.decoded_authStatus state receiver
  have hseen := @FilterState.decoded_firstSeen state receiver
  have hmem := @FilterState.mem_decoded_cols state receiver
  generalize (state.decoded receiver).view = view at *
  have hactive : (if state.view.activeStatusFilter = "Aktiv" ∨
      state.view.activeStatusFilter = "Inaktiv" then state.view.activeStatusFilter else "") =
        state.view.activeStatusFilter ↔ state.view.activeStatusFilter = "" ∨
          state.view.activeStatusFilter = "Aktiv" ∨ state.view.activeStatusFilter = "Inaktiv" := by
    split
    case isTrue h => exact iff_of_true rfl (.inr h)
    case isFalse h => exact ⟨fun hsame => .inl hsame.symm, fun hany => (hany.resolve_right h).symm⟩
  have hauth : (if state.view.authStatus.value = "" then "all" else state.view.authStatus.value) =
      state.view.authStatus.value ↔ state.view.authStatus.value ≠ "" := by
    by_cases h : state.view.authStatus.value = "" <;> simp [h]
  have hcols : (∀ entry, entry ∈ snapshotCols view.filterRow ↔
        entry ∈ snapshotCols state.view.filterRow) ↔
      Functional (snapshotCols state.view.filterRow) := by
    rw [← @restored_cols_iff receiver.row]
    refine forall_congr' fun entry => ?_
    rw [hmem]
  constructor
  · intro h
    exact ⟨hactive.mp (hstatus.symm.trans h.activeStatusFilter),
      hauth.mp (hselect.symm.trans h.authStatus), hcols.mp h.cols⟩
  · rintro ⟨hknown, hoption, hfunctional⟩
    exact ⟨hportal, hdecomm, hstatus.trans (hactive.mpr hknown), hcols.mpr hfunctional,
      hselect.trans (hauth.mpr hoption), hseen.1, hseen.2⟩

/-- What stored filters leave of a view that shows the sender's active status where it can. -/
theorem applied_same_iff {view : Browse} (hdecommOnly : view.decommOnly = state.view.decommOnly)
    (hactiveStatus : view.activeStatusFilter =
      if state.view.activeStatusFilter = "Aktiv" ∨ state.view.activeStatusFilter = "Inaktiv" then
        state.view.activeStatusFilter
      else
        "") :
    SameFilters (view.applyFilterSnapshot s true).snapshotFilters state.view.snapshotFilters ↔
      StoredAgrees s state := by
  have hdecomm : (if s.decommOnly = true then true else view.decommOnly) =
      state.view.decommOnly ↔ (s.decommOnly = true → state.view.decommOnly = true) := by
    rw [hdecommOnly]
    cases s.decommOnly <;> cases state.view.decommOnly <;> decide
  have hauth : (if s.authStatus ≠ "" then AuthSelect.set s.authStatus
      else AuthSelect.set "all").value =
        if s.authStatus ≠ "" then setSelect authOptions s.authStatus else "all" := by
    split <;> rfl
  have hcols : (∀ entry, entry ∈ snapshotCols (view.filterRow.clear.restore s.cols) ↔
        entry ∈ snapshotCols state.view.filterRow) ↔
      ∀ col text, (col, text) ∈ snapshotCols state.view.filterRow ↔
        col ∈ textColumns ∧ ∃ typed, s.cols.reverse.lookup col = some typed ∧
          jsTrim (inputText typed) = text ∧ text ≠ "" := by
    rw [Prod.forall]
    refine forall₂_congr fun col text => ?_
    rw [mem_snapshotCols_clear_restore]
    exact Iff.comm
  constructor
  · intro h
    have hactive : (if s.activeStatusFilter ≠ "" then s.activeStatusFilter
        else view.activeStatusFilter) = state.view.activeStatusFilter := h.activeStatusFilter
    have hfrom := h.firstSeenFrom
    have hto := h.firstSeenTo
    simp only [snapshotFilters, applyFilterSnapshot] at hfrom hto
    refine ⟨h.portalOnly, hdecomm.mp h.decommOnly, fun hset => ?_, fun hunset => ?_,
      hauth.symm.trans h.authStatus, hcols.mp h.cols, hfrom, hto⟩
    · rw [if_pos hset] at hactive
      exact hactive
    · rw [if_neg (not_not_intro hunset), hactiveStatus] at hactive
      split at hactive
      case isTrue hknown => exact .inr hknown
      case isFalse hunknown => exact .inl hactive.symm
  · intro h
    have hactive : (if s.activeStatusFilter ≠ "" then s.activeStatusFilter
        else view.activeStatusFilter) = state.view.activeStatusFilter := by
      split
      case isTrue hset => exact h.activeSet hset
      case isFalse hunset =>
          rw [hactiveStatus]
          split
          case isTrue => rfl
          case isFalse hunknown =>
              exact ((h.activeUnset (not_not.mp hunset)).resolve_right hunknown).symm
    refine ⟨h.portalOnly, hdecomm.mpr h.decommOnly, hactive, hcols.mpr h.cols,
      hauth.trans h.authStatus, ?_, ?_⟩
    · simp only [snapshotFilters, applyFilterSnapshot]
      exact h.firstSeenFrom
    · simp only [snapshotFilters, applyFilterSnapshot]
      exact h.firstSeenTo

/-- The view that is opened from a link shows the sender's filters exactly when what the browser
stores of its own agrees with them, or it stores nothing and the link can carry them. -/
theorem link_reproduces_iff (page : PageUrl) (state : FilterState) (receiver : Receiver) :
    (receiver.followLink (state.encodeFilterToUrl page)).Same state ↔ receiver.Agrees state := by
  have hdecoded : receiver.opened.decodeFilterFromUrl
      (locationHash (state.encodeFilterToUrl page)) = state.decoded receiver :=
    FilterState.decodeFilterFromUrl_encode page state receiver.opened
  unfold FilterState.Same Receiver.Agrees Receiver.followLink
  rw [view_searchPending, hdecoded]
  refine and_congr ?_ ?_
  · unfold Receiver.restoreFilters
    cases receiver.stored with
    | none => exact decoded_same_iff
    | some s =>
        exact applied_same_iff FilterState.decoded_decommOnly FilterState.decoded_activeStatusFilter
  · have hquery :
        (receiver.restoreFilters (state.decoded receiver)).fullTextQ = state.fullTextQ := by
      unfold Receiver.restoreFilters
      cases receiver.stored <;> exact FilterState.decoded_fullTextQ
    rw [← fullTextQ_searchPending_iff (receiver.restoreFilters (state.decoded receiver)), ← hquery]

/-- A link to the endpoints of the portal, opened in a browser that has stored the view without
filters: the stored filters take the place of the link. -/
theorem link_overwritten :
    ¬ ∀ (page : PageUrl) (state : FilterState) (receiver : Receiver),
      (receiver.followLink (state.encodeFilterToUrl page)).Same state := by
  intro h
  have hsame := h ⟨[], List.not_mem_nil⟩ { view := { openedBrowse with portalOnly := true } }
    { row := emptyRow, colVis := .empty, currentSize := 50,
      stored := some openedBrowse.snapshotFilters, pendingEp := none }
  have hportal := hsame.1.portalOnly
  cases hportal

end IsePortal.Frontend
