import IsePortal.Library.LikePatterns
import IsePortal.Library.Quoting
import IsePortal.Platform.Text

/-!
# Searching the audit log

`_query_sync` of `app/core/audit_store.py`. A search goes through the trigram index where there is
one, and through `LIKE` otherwise; both stand in for the documented search, a substring of one of
eight columns up to case. The index finds nothing below three characters, and `LIKE` reads `%` and
`_` as wildcards and knows the case of ASCII only.
-/

namespace IsePortal.AuditSearch

open Library Library.Quoting

/-- The case folding of Unicode, by which a search of the index is case-insensitive. -/
class UnicodeFold where
  fold : Char → Char

/-- A row of `audit_events`. -/
structure AuditEvent where
  id : Nat
  ts : String
  actorId : String
  actorUsername : String
  action : String
  resourceType : String
  resourceId : Option String
  beforeJson : Option String
  afterJson : Option String
  sourceIp : Option String

/-- The columns that are searched; a column may have no value. -/
def AuditEvent.columns (event : AuditEvent) : List (Option String) :=
  [some event.actorUsername, some event.action, some event.resourceType, event.resourceId,
    event.beforeJson, event.afterJson, event.sourceIp, some event.ts]

/-- The filters of a query besides the search; an empty one is none. -/
structure Filters where
  actor : String := ""
  resourceType : String := ""
  resourceId : String := ""
  fromTs : String := ""
  toTs : String := ""

/-- The `WHERE` clause but for the search. -/
def Filters.selects (filters : Filters) (event : AuditEvent) : Bool :=
  (filters.actor = "" || event.actorUsername = filters.actor) &&
    (filters.resourceType = "" || event.resourceType = filters.resourceType) &&
    (filters.resourceId = "" || event.resourceId = some filters.resourceId) &&
    (filters.fromTs = "" || decide (filters.fromTs ≤ event.ts)) &&
    (filters.toTs = "" || decide (event.ts ≤ filters.toTs))

section

variable [UnicodeFold]

/-- The piece is in the text, whatever the case. -/
def Occurs (piece text : String) : Prop :=
  piece.toList.map UnicodeFold.fold <:+: text.toList.map UnicodeFold.fold

instance (piece text : String) : Decidable (Occurs piece text) :=
  inferInstanceAs (Decidable (_ <:+: _))

/-- The search as it is documented. -/
def Contains (search : String) (event : AuditEvent) : Bool :=
  event.columns.any fun column => column.any fun text => decide (Occurs search text)

/-! ## The index -/

/-- `fts_q`: the search with its quotes doubled, between quotes. -/
def ftsQuery (search : String) : String :=
  "\"" ++ String.ofList (doubled search.toList) ++ "\""

/-- The text of a quoted phrase after its opening quote, up to the closing one. -/
def phraseText : List Char → Option (List Char)
  | [] => none
  | '"' :: '"' :: rest => (phraseText rest).map ('"' :: ·)
  | '"' :: rest => if rest = [] then some [] else none
  | char :: rest => (phraseText rest).map (char :: ·)

/-- The phrase of a query that is one quoted phrase. -/
def parsePhrase (query : String) : Option String :=
  match query.toList with
  | '"' :: rest => (phraseText rest).map String.ofList
  | _ => none

/-- `audit_fts MATCH ?`: a phrase of three characters or more is found wherever it occurs, and a
shorter one nowhere. -/
def ftsMatch (query : String) (event : AuditEvent) : Bool :=
  match parsePhrase query with
  | none => false
  | some phrase => decide (3 ≤ phrase.toList.length) && Contains phrase event

end

/-! ## The fallback -/

/-- The columns as the fallback reads them: `IFNULL(column, '')`. -/
def likeMatch (pattern : String) (event : AuditEvent) : Bool :=
  event.columns.any fun column =>
    Like.Matches pattern.toList (Like.lowered ((column.getD "").toList))

variable [UnicodeFold] [PyText]

/-- The clause of the search. -/
def matchesSearch (ftsAvailable : Bool) (search : String) (event : AuditEvent) : Bool :=
  if search = "" then true
  else if ftsAvailable then ftsMatch (ftsQuery search) event
  else likeMatch ("%" ++ PyText.lower search ++ "%") event

/-- `_query_sync`, over the rows in the order of their ids. -/
def querySync (ftsAvailable : Bool) (rows : List AuditEvent) (filters : Filters) (search : String)
    (limit offset : Nat) : List AuditEvent × Nat :=
  let selected := rows.filter fun event =>
    filters.selects event && matchesSearch ftsAvailable search event
  ((selected.reverse.drop offset).take limit, selected.length)

/-! ## The documented search -/

/-- The rows the documentation promises. -/
def found (rows : List AuditEvent) (filters : Filters) (search : String) : List AuditEvent :=
  rows.filter fun event => filters.selects event && Contains search event

/-- The query answers with the promised rows, newest first, and their number. -/
def Documented (ftsAvailable : Bool) (rows : List AuditEvent) (filters : Filters)
    (search : String) : Prop :=
  ∀ limit offset, querySync ftsAvailable rows filters search limit offset =
    (((found rows filters search).reverse.drop offset).take limit,
      (found rows filters search).length)

omit [UnicodeFold] [PyText] in
theorem phraseText_doubled (text : List Char) :
    phraseText (doubled text ++ ['"']) = some text := by
  induction text with
  | nil => rfl
  | cons char rest ih =>
      by_cases hquote : char = '"'
      · rw [hquote, doubled_cons_quote, List.cons_append, List.cons_append, phraseText, ih,
          Option.map_some]
      · rw [doubled_cons_of_ne hquote, List.cons_append, phraseText, ih, Option.map_some]
        · intro others hchar hrest
          exact hquote hchar
        · intro hchar
          exact hquote hchar

omit [UnicodeFold] [PyText] in
/-- The query is the search as one phrase. -/
theorem parsePhrase_ftsQuery (search : String) : parsePhrase (ftsQuery search) = some search := by
  have hlist : (ftsQuery search).toList = '"' :: (doubled search.toList ++ ['"']) := by
    simp [ftsQuery]
  rw [parsePhrase, hlist]
  simp only [phraseText_doubled, Option.map_some, String.ofList_toList]

/-- The query is right exactly where its clause agrees with the documented search on the rows the
other filters leave. -/
theorem documented_iff (ftsAvailable : Bool) (rows : List AuditEvent) (filters : Filters)
    (search : String) : Documented ftsAvailable rows filters search ↔
      ∀ event ∈ rows, filters.selects event = true →
        matchesSearch ftsAvailable search event = Contains search event := by
  constructor
  · intro h event hmem hselects
    have hall := congrArg Prod.fst (h rows.length 0)
    simp only [querySync, List.drop_zero] at hall
    rw [List.take_of_length_le (by simpa using List.length_filter_le _ _),
      List.take_of_length_le (by simpa [found] using List.length_filter_le _ _),
      List.reverse_inj] at hall
    have hiff : event ∈ rows.filter (fun event =>
        filters.selects event && matchesSearch ftsAvailable search event) ↔
          event ∈ found rows filters search := by rw [hall]
    rw [found, List.mem_filter, List.mem_filter] at hiff
    rw [Bool.eq_iff_iff]
    simpa [hmem, hselects] using hiff
  · intro h limit offset
    have hall : rows.filter (fun event =>
        filters.selects event && matchesSearch ftsAvailable search event) =
          found rows filters search := by
      refine List.filter_congr fun event hmem => ?_
      cases hselects : filters.selects event with
      | false => rfl
      | true => rw [h event hmem hselects]
    simp only [querySync, hall]

/-- With the index, a search is right from three characters on, or where it is found nowhere. -/
theorem documented_fts_iff (rows : List AuditEvent) (filters : Filters) {search : String}
    (hsearch : search ≠ "") : Documented true rows filters search ↔
      3 ≤ search.toList.length ∨
        ∀ event ∈ rows, filters.selects event = true → Contains search event = false := by
  have hclause : ∀ event, matchesSearch true search event =
      (decide (3 ≤ search.toList.length) && Contains search event) := by
    intro event
    rw [matchesSearch, if_neg hsearch, if_pos rfl, ftsMatch, parsePhrase_ftsQuery]
  rw [documented_iff]
  simp only [hclause]
  by_cases hlength : 3 ≤ search.toList.length
  · simp [hlength]
  · simp only [hlength, decide_false, Bool.false_and, false_or]
    exact forall₃_congr fun _ _ _ => eq_comm

/-! ## Where the fallback is the documented search -/

/-- The folding of Unicode is that of ASCII on ASCII. -/
class LawfulFold : Prop where
  fold_ascii : ∀ char : Char, char.toNat < 128 → UnicodeFold.fold char = char.toLower

/-- No character of the text is outside ASCII. -/
def Ascii (text : String) : Prop := (text.toList.all fun char => char.toNat < 128) = true

omit [PyText] in
theorem fold_of_ascii [LawfulFold] {text : String} (h : Ascii text) :
    text.toList.map UnicodeFold.fold = Like.lowered text.toList :=
  List.map_congr_left fun char hchar =>
    LawfulFold.fold_ascii char (of_decide_eq_true (List.all_eq_true.mp h char hchar))

omit [UnicodeFold] in
theorem lower_of_ascii [LawfulAscii] {text : String} (h : Ascii text) :
    (PyText.lower text).toList = Like.lowered text.toList := by
  rw [LawfulAscii.lower_ascii text h, String.toList_ofList, Like.lowered]

/-- For a search and a row in ASCII, and a search without wildcards, the fallback is the documented
search. -/
theorem likeMatch_of_ascii [LawfulFold] [LawfulAscii] {search : String} {event : AuditEvent}
    (hsearch : search ≠ "") (hascii : Ascii search) (hliteral : Like.Literal search.toList)
    (hcolumns : ∀ column ∈ event.columns, ∀ text ∈ column, Ascii text) :
    likeMatch ("%" ++ PyText.lower search ++ "%") event = Contains search event := by
  have hpattern : ("%" ++ PyText.lower search ++ "%").toList =
      '%' :: (Like.lowered search.toList ++ ['%']) := by
    rw [String.toList_append, String.toList_append, lower_of_ascii hascii]
    rfl
  rw [likeMatch, Contains, hpattern, Bool.eq_iff_iff, List.any_eq_true, List.any_eq_true]
  refine exists_congr fun column => and_congr_right fun hcolumn => ?_
  rw [Like.matches_literal_iff (Like.literal_lowered hliteral), Like.lowered_lowered,
    Like.lowered_lowered]
  cases column with
  | none =>
      have hnonempty : search.toList ≠ [] := fun h => hsearch (String.toList_eq_nil_iff.mp h)
      simp [Like.lowered, hnonempty]
  | some text =>
      rw [Option.getD_some, Option.any_some, decide_eq_true_eq, Occurs, fold_of_ascii hascii,
        fold_of_ascii (hcolumns _ hcolumn text rfl)]

/-- With and without the index the query is the documented search exactly where the search has three
characters, unless nothing contains it, and its pattern matches the rows that contain it. -/
theorem search_documented_iff (rows : List AuditEvent) (filters : Filters) (search : String)
    (hsearch : search ≠ "") :
    (∀ ftsAvailable, Documented ftsAvailable rows filters search) ↔
      (3 ≤ search.toList.length ∨
        ∀ event ∈ rows, filters.selects event = true → Contains search event = false) ∧
      ∀ event ∈ rows, filters.selects event = true →
        likeMatch ("%" ++ PyText.lower search ++ "%") event = Contains search event := by
  rw [Bool.forall_bool, and_comm, documented_fts_iff rows filters hsearch, documented_iff]
  simp only [matchesSearch, hsearch, if_false, Bool.false_eq_true]

/-! ## One event -/

/-- The folding of ASCII. -/
@[reducible] def asciiFold : UnicodeFold := ⟨Char.toLower⟩

/-- A login. -/
def loginEvent : AuditEvent where
  id := 1
  ts := "2025-01-01T00:00:00+00:00"
  actorId := "u1"
  actorUsername := "root"
  action := "auth.login"
  resourceType := "session"
  resourceId := none
  beforeJson := none
  afterJson := none
  sourceIp := none

omit [UnicodeFold] [PyText] in
theorem Contains_loginEvent : @Contains asciiFold "ro" loginEvent = true := by
  decide

omit [UnicodeFold] [PyText] in
/-- Four letters of the actor find the one event with and without the index. -/
theorem search_documented_login :
    let _ := asciiText
    let _ := asciiFold
    ∀ ftsAvailable, Documented ftsAvailable [loginEvent] {} "ROOT" := by
  intro _ _
  refine (search_documented_iff [loginEvent] {} "ROOT" (by decide)).mpr
    ⟨.inl (by decide), fun event hmem _ => ?_⟩
  rw [List.mem_singleton.mp hmem]
  decide

omit [UnicodeFold] [PyText] in
/-- The actor of the one event is found by the first three characters and not by the first two. -/
theorem search_documented_fails :
    let _ := asciiText
    let _ := asciiFold
    ¬ ∀ (ftsAvailable : Bool) (rows : List AuditEvent) (filters : Filters) (search : String),
      search ≠ "" → Documented ftsAvailable rows filters search := by
  intro _ _ h
  have hdocumented := h true [loginEvent] {} "ro" (by decide)
  rw [documented_fts_iff _ _ (by decide)] at hdocumented
  rcases hdocumented with hlong | hnone
  · exact absurd hlong (by decide)
  · exact Bool.false_ne_true
      ((hnone loginEvent List.mem_cons_self rfl).symm.trans Contains_loginEvent)

end IsePortal.AuditSearch
