import IsePortal.Frontend.Csv

/-!
# An export that is imported again

Where no cell holds a line feed, every row of an export is read back, and it has the values of the
endpoint exactly where the columns that are read are those that were written and no value is wrapped
in single quotes.
-/

namespace IsePortal.Csv

open Library.Quoting

/-! ## The columns that are read -/

/-- The columns with a text besides the MAC. -/
inductive TextColumn where
  | identityGroup
  | description
  | type
  | owner
  | lokation
  | authzVlan
  | authzAcl
  | platformType

namespace TextColumn

/-- The name the column is written under. -/
def written : TextColumn → String
  | identityGroup => "IdentityGroup"
  | description => "Description"
  | type => "CUSTOM.Type"
  | owner => "CUSTOM.Owner"
  | lokation => "CUSTOM.Lokation"
  | authzVlan => "CUSTOM.AuthzVlan"
  | authzAcl => "CUSTOM.AuthzACL"
  | platformType => "CUSTOM.PlatformType"

/-- The key the column is read by. -/
def key : TextColumn → String
  | identityGroup => "identitygroup"
  | description => "description"
  | type => "custom.type"
  | owner => "custom.owner"
  | lokation => "custom.lokation"
  | authzVlan => "custom.authzvlan"
  | authzAcl => "custom.authzacl"
  | platformType => "custom.platformtype"

end TextColumn

def EndpointRow.text (row : EndpointRow) : TextColumn → String
  | .identityGroup => row.groupName
  | .description => row.description
  | .type => row.endpointType
  | .owner => row.owner
  | .lokation => row.lokation
  | .authzVlan => row.authzVlan
  | .authzAcl => row.authzAcl
  | .platformType => row.platformType

def CsvItem.text (item : CsvItem) : TextColumn → String
  | .identityGroup => item.groupName
  | .description => item.description
  | .type => item.endpointType
  | .owner => item.owner
  | .lokation => item.lokation
  | .authzVlan => item.authzVlan
  | .authzAcl => item.authzAcl
  | .platformType => item.platformType

/-- The item has the values of the row, up to whitespace around them. -/
structure Agrees (row : EndpointRow) (item : CsvItem) : Prop where
  mac : jsTrim item.mac = jsTrim row.mac
  staticGroup : item.staticGroup = some row.staticGroup
  text : ∀ column, jsTrim (item.text column) = jsTrim (row.text column)

variable (toLowerCase : String → String)

/-- The export is imported in the ISE format, with an item for every row. -/
def RoundTrips (template : ExportTemplate) (rows : List EndpointRow) : Prop :=
  (parseCsv toLowerCase (toIseCsv template rows)).format = .ise ∧
    List.Forall₂ Agrees rows (parseCsv toLowerCase (toIseCsv template rows)).items

/-- No cell of the export holds a line feed. -/
def SingleLines (template : ExportTemplate) (rows : List EndpointRow) : Prop :=
  (∀ name ∈ template.columns, '\n' ∉ name.toList) ∧
    ∀ row ∈ rows, ∀ cell ∈ cellsOf template.columns row, '\n' ∉ cell.toList

/-- The cell of a row that is read for a key. -/
def readCell (template : ExportTemplate) (row : EndpointRow) (key : String) : String :=
  cellAt (cellsOf template.columns row) (readIndex toLowerCase template.columns key)

/-- The cells that are read for the keys hold the values of the row. -/
structure ReadsBack (template : ExportTemplate) (row : EndpointRow) : Prop where
  mac : jsTrim (readCell toLowerCase template row "macaddress") = jsTrim row.mac
  staticGroup : parseBoolCell toLowerCase
    (readCell toLowerCase template row "staticgroupassignment") = some row.staticGroup
  text : ∀ column : TextColumn,
    jsTrim (stripQuotes (jsTrim (readCell toLowerCase template row column.key))) =
      jsTrim (row.text column)

/-! ## The lines of an export -/

variable {template : ExportTemplate} {rows : List EndpointRow} {row : EndpointRow}

theorem mem_csvQuote {val : String} {char : Char} (h : char ∈ csvQuote val) :
    char = '"' ∨ char ∈ val.toList := by
  rw [csvQuote_eq] at h
  rcases List.mem_cons.mp h with hquote | h
  · exact .inl hquote
  · rcases List.mem_append.mp h with hval | hquote
    · exact .inr (mem_of_mem_doubled hval)
    · exact .inl (List.mem_singleton.mp hquote)

/-- A line of cells without line feeds has none. -/
theorem lineFeed_not_mem_writeLine {cells : List String} (h : ∀ cell ∈ cells, '\n' ∉ cell.toList) :
    '\n' ∉ writeLine cells := by
  have hcell : ∀ cell ∈ cells, '\n' ∉ csvQuote cell := by
    intro cell hmem hfeed
    rcases mem_csvQuote hfeed with hquote | hval
    · exact absurd hquote (by decide)
    · exact h cell hmem hval
  induction cells with
  | nil => exact List.not_mem_nil
  | cons cell rest ih =>
      have hfirst := hcell cell List.mem_cons_self
      have hrest := ih (fun other hother => h other (List.mem_cons_of_mem _ hother))
        fun other hother => hcell other (List.mem_cons_of_mem _ hother)
      cases rest with
      | nil => rwa [writeLine_singleton]
      | cons next rest =>
          rw [writeLine_cons_cons, List.mem_append, List.mem_cons]
          rintro (hcell | hcomma | hline)
          · exact hfirst hcell
          · exact absurd hcomma (by decide)
          · exact hrest hline

/-- A line begins and ends with a quote. -/
theorem writeLine_quotes {cells : List String} (h : cells ≠ []) :
    '"' ∈ writeLine cells ∧ (writeLine cells).getLast? = some '"' := by
  induction cells with
  | nil => exact absurd rfl h
  | cons cell rest ih =>
      cases rest with
      | nil =>
          rw [writeLine_singleton, csvQuote_eq]
          refine ⟨List.mem_cons_self, ?_⟩
          rw [List.getLast?_cons, List.getLast?_append]
          rfl
      | cons next rest =>
          obtain ⟨hmem, hlast⟩ := ih (List.cons_ne_nil _ _)
          rw [writeLine_cons_cons]
          refine ⟨List.mem_append_right _ (List.mem_cons_of_mem _ hmem), ?_⟩
          rw [List.getLast?_append, List.getLast?_cons, hlast]
          rfl

theorem length_fill (columns cells : List String) (text : String × String) :
    (fill columns cells text).length = cells.length := by
  rw [fill]
  split
  · exact List.length_set
  · rfl

theorem length_foldl_fill (columns cells : List String) (texts : List (String × String)) :
    (texts.foldl (fill columns) cells).length = cells.length := by
  induction texts generalizing cells with
  | nil => rfl
  | cons text rest ih => rw [List.foldl_cons, ih, length_fill]

/-- A row has a cell for every column. -/
theorem length_cellsOf (columns : List String) (row : EndpointRow) :
    (cellsOf columns row).length = columns.length := by
  rw [cellsOf, length_foldl_fill, List.length_replicate]

/-! ## What is read -/

theorem jsTrim_ne_empty {text : String} {char : Char} (hmem : char ∈ text.toList)
    (hchar : isTrimmed char = false) : jsTrim text ≠ "" := by
  intro hempty
  rw [jsTrim, String.ofList_eq_empty_iff, List.rdropWhile_eq_nil_iff] at hempty
  have hnil : text.toList.dropWhile isTrimmed = [] := by
    by_contra hne
    have hhead := hempty _ (List.head_mem hne)
    rw [List.head_dropWhile_not isTrimmed hne] at hhead
    exact Bool.false_ne_true hhead
  rw [List.dropWhile_eq_nil_iff.mp hnil char hmem] at hchar
  exact Bool.false_ne_true hchar.symm

/-- A line with a quote is no blank one. -/
theorem quoted_ne_empty {line : List Char} (h : '"' ∈ line) : jsTrim (String.ofList line) ≠ "" := by
  have hmem : '"' ∈ (String.ofList line).toList := by rwa [String.toList_ofList]
  exact jsTrim_ne_empty hmem (by decide)

/-- Lines joined by line feeds, and one at the end. -/
theorem joined_lines (lines : List (List Char)) :
    ['\n'].intercalate lines ++ ['\n'] =
      ((if lines = [] then [[]] else lines).map fun line => line ++ ['\n']).flatten := by
  induction lines with
  | nil => rfl
  | cons line rest ih =>
      cases rest with
      | nil => simp [List.intercalate_singleton]
      | cons next rest =>
          rw [if_neg (List.cons_ne_nil _ _)] at ih ⊢
          rw [List.intercalate_cons_cons, List.append_assoc, ih, List.map_cons, List.flatten_cons]
          rfl

/-- The lines of an export that are no blank ones. -/
theorem lines_toIseCsv (hlines : SingleLines template rows) :
    (splitLines (toIseCsv template rows)).filter (fun line => jsTrim (String.ofList line) ≠ "") =
      writeLine template.columns ::
        rows.map fun row => writeLine (cellsOf template.columns row) := by
  have hcolumns : template.columns ≠ [] :=
    List.ne_nil_of_mem (template.portal "MACAddress" List.mem_cons_self)
  have hcells : ∀ row, cellsOf template.columns row ≠ [] := by
    intro row hnil
    have hlength := length_cellsOf template.columns row
    rw [hnil] at hlength
    exact hcolumns (List.length_eq_zero_iff.mp hlength.symm)
  generalize hwritten : (rows.map fun row => writeLine (cellsOf template.columns row)) = written
  have hall : ∀ line ∈ writeLine template.columns :: written, '\n' ∉ line ∧ '"' ∈ line ∧
      line.getLast? = some '"' := by
    intro line hline
    rcases List.mem_cons.mp hline with rfl | hline
    · exact ⟨lineFeed_not_mem_writeLine hlines.1, writeLine_quotes hcolumns⟩
    · rw [← hwritten] at hline
      obtain ⟨row, hrow, rfl⟩ := List.mem_map.mp hline
      exact ⟨lineFeed_not_mem_writeLine (hlines.2 row hrow), writeLine_quotes (hcells row)⟩
  have htext : toIseCsv template rows = ((writeLine template.columns ::
      (if written = [] then [[]] else written)).map fun line => line ++ ['\n']).flatten := by
    rw [toIseCsv, hwritten, joined_lines, List.map_cons, List.flatten_cons, List.append_assoc,
      List.singleton_append]
  have hkept : (writeLine template.columns :: written).filter
      (fun line => jsTrim (String.ofList line) ≠ "") = writeLine template.columns :: written := by
    exact List.filter_eq_self.mpr fun line hline =>
      decide_eq_true (quoted_ne_empty (hall line hline).2.1)
  have hdropped : [([] : List Char)].filter (fun line => jsTrim (String.ofList line) ≠ "") = [] :=
    List.filter_cons_of_neg (by decide)
  -- Without a row there is a blank line below the header.
  generalize hpadded : (if written = [] then [[]] else written) = padded at htext
  have hfilter : (writeLine template.columns :: padded).filter
      (fun line => jsTrim (String.ofList line) ≠ "") = writeLine template.columns :: written := by
    rw [← hpadded]
    split
    · next hnone =>
        rw [hnone] at hkept
        rw [← List.singleton_append, List.filter_append, hkept, hdropped, hnone, List.append_nil]
    · exact hkept
  have hbreaks : ∀ line ∈ writeLine template.columns :: padded,
      '\n' ∉ line ∧ line.getLast? ≠ some '\r' := by
    intro line hline
    by_cases hnil : line = []
    · rw [hnil]
      exact ⟨List.not_mem_nil, by decide⟩
    · have hmem : line ∈ writeLine template.columns :: written := by
        rw [← hpadded] at hline
        split at hline
        · rcases List.mem_cons.mp hline with hheader | hblank
          · exact hheader ▸ List.mem_cons_self
          · exact absurd (List.mem_singleton.mp hblank) hnil
        · exact hline
      rw [(hall line hmem).2.2]
      exact ⟨(hall line hmem).1, by decide⟩
  rw [htext, splitLines_written (fun line hline => (hbreaks line hline).1)
    fun line hline => (hbreaks line hline).2, List.filter_append, hfilter, hdropped,
    List.append_nil]

/-! ## The items of an import -/

variable (hlower : ∀ text : String, (text.toList.all fun char => char.toNat < 128) = true →
  toLowerCase text = String.ofList (text.toList.map Char.toLower))

theorem lastIndex_append_of_neg {test : String → Bool} {name : String} (h : test name = false)
    (names : List String) : lastIndex test (names ++ [name]) = lastIndex test names := by
  induction names with
  | nil => simp [lastIndex, h]
  | cons first rest ih => rw [List.cons_append, lastIndex, ih, lastIndex]

theorem lastIndex_isSome {test : String → Bool} {names : List String} {name : String}
    (hmem : name ∈ names) (htest : test name = true) :
    ∃ index, lastIndex test names = some index := by
  induction names with
  | nil => cases hmem
  | cons first rest ih =>
      rw [lastIndex]
      cases hrest : lastIndex test rest with
      | some index => exact ⟨index + 1, rfl⟩
      | none =>
          rcases List.mem_cons.mp hmem with rfl | hmem
          · exact ⟨0, if_pos htest⟩
          · obtain ⟨index, hindex⟩ := ih hmem
            rw [hrest] at hindex
            cases hindex

/-- The name at the index passes the test. -/
theorem lastIndex_spec {test : String → Bool} {names : List String} {index : Nat}
    (h : lastIndex test names = some index) :
    ∃ name, names[index]? = some name ∧ test name = true := by
  induction names generalizing index with
  | nil => cases h
  | cons first rest ih =>
      rw [lastIndex] at h
      cases hrest : lastIndex test rest with
      | some later =>
          rw [hrest] at h
          cases h
          exact ih hrest
      | none =>
          cases htest : test first with
          | true =>
              rw [hrest, htest] at h
              cases h
              exact ⟨first, rfl, htest⟩
          | false =>
              rw [hrest, htest] at h
              cases h

theorem parseLine_writeLine (cells : List String) :
    parseLine (writeLine cells) = cells ++ [""] := by
  rw [parseLine, parseRow_writeLine, List.map_append, List.map_map]
  have hsame : cells.map (String.ofList ∘ String.toList) = cells.map id :=
    List.map_congr_left fun cell _ => String.ofList_toList
  rw [hsame, List.map_id]
  rfl

/-- The empty cell after the last is not read. -/
theorem cellAt_written (key : String) (hlowerEmpty : toLowerCase "" = "") (hkey : key ≠ "") :
    cellAt (cellsOf template.columns row ++ [""])
      (readIndex toLowerCase (template.columns ++ [""]) key) =
        readCell toLowerCase template row key := by
  have hempty : decide (toLowerCase (jsTrim "") = key) = false := by
    rw [jsTrim_empty, hlowerEmpty]
    exact decide_eq_false hkey.symm
  rw [readIndex, lastIndex_append_of_neg hempty, readCell, ← readIndex]
  cases hindex : readIndex toLowerCase template.columns key with
  | none => rfl
  | some index =>
      obtain ⟨name, hname, -⟩ := lastIndex_spec hindex
      have hlt : index < (cellsOf template.columns row).length := by
        rw [length_cellsOf]
        exact (List.getElem?_eq_some_iff.mp hname).1
      rw [cellAt, cellAt, Option.bind_some, Option.bind_some, List.getElem?_append_left hlt]

theorem parseIseRow_some {header fields : List String} {col : Nat}
    (hstatic : readIndex toLowerCase header "staticgroupassignment" = some col)
    (hmac : jsTrim (cellAt fields (readIndex toLowerCase header "macaddress")) ≠ "") :
    ∃ item, parseIseRow toLowerCase header fields = some item ∧
      item.mac = jsTrim (cellAt fields (readIndex toLowerCase header "macaddress")) ∧
      item.staticGroup = parseBoolCell toLowerCase
        (cellAt fields (readIndex toLowerCase header "staticgroupassignment")) ∧
      ∀ column : TextColumn, item.text column =
        stripQuotes (jsTrim (cellAt fields (readIndex toLowerCase header column.key))) := by
  refine ⟨_, if_neg hmac, rfl, ?_, fun column => ?_⟩
  · simp only [hstatic, Option.some_or, Option.bind_some]
  · cases column <;> simp only [CsvItem.text, TextColumn.key]

include hlower

theorem lower_of_ascii {text lowered : String} (htrim : jsTrim text = text)
    (hascii : (text.toList.all fun char => char.toNat < 128) = true)
    (hlowered : String.ofList (text.toList.map Char.toLower) = lowered) :
    toLowerCase (jsTrim text) = lowered := by
  rw [htrim, hlower text hascii, hlowered]

theorem lower_empty : toLowerCase "" = "" := by
  rw [hlower "" rfl]
  rfl

theorem parseIseRow_none (hmac : jsTrim (readCell toLowerCase template row "macaddress") = "") :
    parseIseRow toLowerCase (template.columns ++ [""]) (cellsOf template.columns row ++ [""]) =
      none := by
  rw [← cellAt_written toLowerCase "macaddress" (lower_empty toLowerCase hlower) (by decide)]
    at hmac
  exact if_pos hmac

/-- The item of a written row has what is read for each key, unless no MAC is read. -/
theorem parseIseRow_written (hmac : jsTrim (readCell toLowerCase template row "macaddress") ≠ "") :
    ∃ item, parseIseRow toLowerCase (template.columns ++ [""])
        (cellsOf template.columns row ++ [""]) = some item ∧
      item.mac = jsTrim (readCell toLowerCase template row "macaddress") ∧
      item.staticGroup = parseBoolCell toLowerCase
        (readCell toLowerCase template row "staticgroupassignment") ∧
      ∀ column : TextColumn, item.text column =
        stripQuotes (jsTrim (readCell toLowerCase template row column.key)) := by
  have hcell : ∀ key : String, key ≠ "" → cellAt (cellsOf template.columns row ++ [""])
      (readIndex toLowerCase (template.columns ++ [""]) key) =
        readCell toLowerCase template row key :=
    fun key hkey => cellAt_written toLowerCase key (lower_empty toLowerCase hlower) hkey
  obtain ⟨col, hcol⟩ : ∃ col, readIndex toLowerCase (template.columns ++ [""])
      "staticgroupassignment" = some col :=
    lastIndex_isSome (List.mem_append_left _ (template.portal "StaticGroupAssignment" (by decide)))
      (decide_eq_true (lower_of_ascii toLowerCase hlower (by decide) (by decide) (by decide)))
  obtain ⟨item, hitem, hitemMac, hitemStatic, hitemText⟩ :=
    parseIseRow_some toLowerCase hcol ((hcell "macaddress" (by decide)).symm ▸ hmac)
  refine ⟨item, hitem, ?_, ?_, fun column => ?_⟩
  · rw [hitemMac, hcell "macaddress" (by decide)]
  · rw [hitemStatic, hcell "staticgroupassignment" (by decide)]
  · rw [hitemText, hcell column.key (by cases column <;> decide)]

/-- A row is read back by the item that has its values. -/
theorem agrees_iff_readsBack (hmac : jsTrim row.mac ≠ "") :
    (∃ item, parseIseRow toLowerCase (template.columns ++ [""])
      (cellsOf template.columns row ++ [""]) = some item ∧ Agrees row item) ↔
        ReadsBack toLowerCase template row := by
  constructor
  · rintro ⟨item, hitem, hagrees⟩
    by_cases hread : jsTrim (readCell toLowerCase template row "macaddress") = ""
    · rw [parseIseRow_none toLowerCase hlower hread] at hitem
      cases hitem
    · obtain ⟨found, hfound, hfoundMac, hfoundStatic, hfoundText⟩ :=
        parseIseRow_written toLowerCase hlower hread
      obtain rfl : found = item := Option.some.inj (hfound.symm.trans hitem)
      refine ⟨?_, ?_, fun column => ?_⟩
      · rw [← hagrees.mac, hfoundMac, jsTrim_jsTrim]
      · rw [← hagrees.staticGroup, hfoundStatic]
      · rw [← hagrees.text, hfoundText]
  · intro hreads
    have hread : jsTrim (readCell toLowerCase template row "macaddress") ≠ "" := by
      rw [hreads.mac]
      exact hmac
    obtain ⟨found, hfound, hfoundMac, hfoundStatic, hfoundText⟩ :=
      parseIseRow_written toLowerCase hlower hread
    refine ⟨found, hfound, ?_, ?_, fun column => ?_⟩
    · rw [hfoundMac, jsTrim_jsTrim, hreads.mac]
    · rw [hfoundStatic, hreads.staticGroup]
    · rw [hfoundText, hreads.text]

/-! ## The import of an export -/

omit hlower in
/-- Every element has a partner in order exactly where each is kept and is its partner's. -/
theorem forall₂_filterMap_iff {α β : Type} {R : α → β → Prop} {f : α → Option β} {l : List α} :
    List.Forall₂ R l (l.filterMap f) ↔ ∀ a ∈ l, ∃ b, f a = some b ∧ R a b := by
  induction l with
  | nil => simp
  | cons a l ih =>
      rw [List.forall_mem_cons]
      cases ha : f a with
      | some b =>
          rw [List.filterMap_cons_some ha, List.forall₂_cons, ih]
          simp
      | none =>
          rw [List.filterMap_cons_none ha]
          constructor
          · intro h
            have hlength := h.length_eq
            have hle := List.length_filterMap_le f l
            rw [List.length_cons] at hlength
            omega
          · rintro ⟨⟨b, hb, -⟩, -⟩
            cases hb

/-- An export without line feeds is read line by line. -/
theorem parseCsv_toIseCsv (hlines : SingleLines template rows) :
    parseCsv toLowerCase (toIseCsv template rows) =
      ⟨.ise, rows.filterMap fun row => parseIseRow toLowerCase (template.columns ++ [""])
        (cellsOf template.columns row ++ [""])⟩ := by
  have hmac : "macaddress" ∈ (template.columns ++ [""]).map fun name =>
      toLowerCase (jsTrim name) := by
    refine List.mem_map.mpr ⟨"MACAddress", List.mem_append_left _
      (template.portal "MACAddress" List.mem_cons_self), ?_⟩
    exact lower_of_ascii toLowerCase hlower (by decide) (by decide) (by decide)
  rw [parseCsv, lines_toIseCsv hlines]
  simp only [parseLine_writeLine, hmac, if_true, List.map_map]
  rw [List.filterMap_map]
  refine congrArg _ (List.filterMap_congr fun row _ => ?_)
  rw [Function.comp_apply, Function.comp_apply, parseLine_writeLine]

omit hlower in
/-- A valid MAC is no blank text. -/
theorem jsTrim_ne_of_macRe {mac : String} (h : macRe mac = true) : jsTrim mac ≠ "" := by
  rw [macRe] at h
  cases hmac : mac.toList with
  | nil => rw [hmac] at h; cases h
  | cons first rest =>
      have hdigit : Selfregister.isHexDigit first = true := by
        rcases rest with _ | ⟨second, _ | ⟨third, more⟩⟩
        · rw [hmac] at h
          cases h
        · rw [hmac] at h
          cases h
        · rw [hmac, macTest] at h
          simp only [Bool.and_eq_true] at h
          exact h.1.1.1
      have hplain : ("0123456789ABCDEFabcdef".toList.all fun char => !isTrimmed char) = true := by
        decide
      refine jsTrim_ne_empty (hmac ▸ List.mem_cons_self) ?_
      have hall := List.all_eq_true.mp hplain first (of_decide_eq_true hdigit)
      rwa [Bool.not_eq_true'] at hall

/-! ## Where the cells that are read are those that were written -/

section Written

omit hlower

variable {columns : List String} {name value : String} {index : Nat}

theorem lastIndex_name (h : lastIndex (· = name) columns = some index) :
    columns[index]? = some name := by
  obtain ⟨found, hfound, htest⟩ := lastIndex_spec h
  rw [hfound, of_decide_eq_true htest]

/-- A text of another column leaves the cell. -/
theorem getElem?_fill_of_ne {cells : List String} {text : String × String}
    (h : lastIndex (· = name) columns = some index) (hne : text.1 ≠ name) :
    (fill columns cells text)[index]? = cells[index]? := by
  rw [fill]
  cases hother : lastIndex (· = text.1) columns with
  | none => rfl
  | some other =>
      refine List.getElem?_set_ne fun heq => hne ?_
      exact Option.some.inj ((lastIndex_name hother).symm.trans (heq ▸ lastIndex_name h))

theorem getElem?_foldl_fill_of_not_mem {texts : List (String × String)} {cells : List String}
    (h : lastIndex (· = name) columns = some index) (hname : name ∉ texts.map Prod.fst) :
    (texts.foldl (fill columns) cells)[index]? = cells[index]? := by
  induction texts generalizing cells with
  | nil => rfl
  | cons text rest ih =>
      have hne : text.1 ≠ name := fun heq => hname (heq ▸ List.mem_cons_self)
      have hrest : name ∉ rest.map Prod.fst := fun hmem => hname (List.mem_cons_of_mem _ hmem)
      rw [List.foldl_cons, ih hrest, getElem?_fill_of_ne h hne]

/-- Where no name is written twice, the cell of a name holds its text. -/
theorem getElem?_foldl_fill {texts : List (String × String)} {cells : List String}
    (hnodup : (texts.map Prod.fst).Nodup) (hmem : (name, value) ∈ texts)
    (h : lastIndex (· = name) columns = some index) (hlength : cells.length = columns.length) :
    (texts.foldl (fill columns) cells)[index]? = some value := by
  induction texts generalizing cells with
  | nil => cases hmem
  | cons text rest ih =>
      obtain ⟨hfirst, hrest⟩ := List.nodup_cons.mp hnodup
      rw [List.foldl_cons]
      rcases List.mem_cons.mp hmem with rfl | hmem
      · rw [getElem?_foldl_fill_of_not_mem h hfirst, fill, h]
        have hlt := (List.getElem?_eq_some_iff.mp (lastIndex_name h)).1
        exact List.getElem?_set_self (hlength ▸ hlt)
      · exact ih hrest hmem ((length_fill columns cells text).trans hlength)

theorem cellAt_cellsOf (hcolumn : name ∈ columns) (hmem : (name, value) ∈ row.texts) :
    cellAt (cellsOf columns row) (lastIndex (· = name) columns) = value := by
  obtain ⟨index, hindex⟩ : ∃ index, lastIndex (· = name) columns = some index :=
    lastIndex_isSome hcolumn (decide_eq_true rfl)
  have hnodup : (row.texts.map Prod.fst).Nodup := by
    show ["MACAddress", "IdentityGroup", "Description", "StaticAssignment",
      "StaticGroupAssignment", "CUSTOM.Type", "CUSTOM.AuthzVlan", "CUSTOM.AuthzACL",
      "CUSTOM.Lokation", "CUSTOM.Owner", "CUSTOM.PlatformType", "CUSTOM.HypervisionISEPortal",
      "Vendor"].Nodup
    decide
  rw [hindex, cellAt, Option.bind_some, cellsOf,
    getElem?_foldl_fill hnodup hmem hindex List.length_replicate, Option.getD_some]

end Written

/-- Each column that is read is the one that was written: no other column of the template has the
name up to case and whitespace, after the last one that has it exactly. -/
structure PlainNames (template : ExportTemplate) : Prop where
  mac : readIndex toLowerCase template.columns "macaddress" =
    lastIndex (· = "MACAddress") template.columns
  staticGroup : readIndex toLowerCase template.columns "staticgroupassignment" =
    lastIndex (· = "StaticGroupAssignment") template.columns
  text : ∀ column : TextColumn, readIndex toLowerCase template.columns column.key =
    lastIndex (· = column.written) template.columns

/-- A text in single quotes. -/
def Wrapped (text : String) : Prop :=
  2 ≤ text.toList.length ∧ text.toList.head? = some '\'' ∧ text.toList.getLast? = some '\''

instance (text : String) : Decidable (Wrapped text) := inferInstanceAs (Decidable (_ ∧ _ ∧ _))

omit hlower in
theorem length_jsTrim_le (text : String) : (jsTrim text).toList.length ≤ text.toList.length := by
  rw [jsTrim, String.toList_ofList]
  exact (List.rdropWhile_prefix isTrimmed _).length_le.trans
    (List.dropWhile_suffix isTrimmed).length_le

omit hlower in
/-- Stripping keeps a trimmed text exactly where it is in no single quotes. -/
theorem stripQuotes_iff (text : String) :
    jsTrim (stripQuotes (jsTrim text)) = jsTrim text ↔ ¬ Wrapped (jsTrim text) := by
  rw [stripQuotes, Wrapped]
  split
  · next hwrapped =>
      refine iff_of_false (fun hsame => ?_) (not_not_intro hwrapped)
      have hle := length_jsTrim_le (String.ofList (jsTrim text).toList.tail.dropLast)
      rw [hsame, String.toList_ofList, List.length_dropLast, List.length_tail] at hle
      have htwo := hwrapped.1
      omega
  · next hplain => exact iff_of_true (jsTrim_jsTrim text) hplain

theorem parseBoolCell_written (flag : Bool) :
    parseBoolCell toLowerCase (if flag then "true" else "false") = some flag := by
  have htrue : toLowerCase (stripQuotes (jsTrim "true")) = "true" := by
    rw [show stripQuotes (jsTrim "true") = "true" by decide, hlower _ (by decide)]
    decide
  have hfalse : toLowerCase (stripQuotes (jsTrim "false")) = "false" := by
    rw [show stripQuotes (jsTrim "false") = "false" by decide, hlower _ (by decide)]
    decide
  cases flag
  · simp only [Bool.false_eq_true, if_false, parseBoolCell, hfalse]
    decide
  · simp only [if_true, parseBoolCell, htrue]
    decide

/-- Then the cells hold the values exactly where no value is in single quotes. -/
theorem readsBack_iff (hnames : PlainNames toLowerCase template) (hmac : macRe row.mac = true) :
    ReadsBack toLowerCase template row ↔ ∀ column, ¬ Wrapped (jsTrim (row.text column)) := by
  have hne : row.mac ≠ "" := by
    intro hempty
    rw [hempty] at hmac
    cases hmac
  have hreadMac : readCell toLowerCase template row "macaddress" = row.mac := by
    rw [readCell, hnames.mac]
    refine cellAt_cellsOf (template.portal _ (by decide)) ?_
    rw [EndpointRow.texts, orDefault, if_neg hne]
    exact List.mem_cons_self
  have hreadStatic : readCell toLowerCase template row "staticgroupassignment" =
      if row.staticGroup then "true" else "false" := by
    rw [readCell, hnames.staticGroup]
    exact cellAt_cellsOf (template.portal _ (by decide)) (by simp [EndpointRow.texts])
  have hreadText : ∀ column : TextColumn,
      readCell toLowerCase template row column.key = row.text column := by
    intro column
    rw [readCell, hnames.text]
    refine cellAt_cellsOf (template.portal _ (by cases column <;> decide)) ?_
    cases column <;> simp [EndpointRow.texts, EndpointRow.text, TextColumn.written]
  constructor
  · intro hreads column
    have htext := hreads.text column
    rw [hreadText] at htext
    exact (stripQuotes_iff _).mp htext
  · intro hplain
    refine ⟨?_, ?_, fun column => ?_⟩
    · rw [hreadMac]
    · rw [hreadStatic, parseBoolCell_written toLowerCase hlower]
    · rw [hreadText]
      exact (stripQuotes_iff _).mpr (hplain column)

/-- Without line feeds in its cells, an export is imported again exactly where the cells that are
read hold the values of the endpoints: with plain names, where no value is in single quotes. -/
theorem csv_roundtrip_iff (hvalid : ∀ row ∈ rows, macRe row.mac = true)
    (hlines : SingleLines template rows) :
    (RoundTrips toLowerCase template rows ↔
      ∀ row ∈ rows, ReadsBack toLowerCase template row) ∧
    (PlainNames toLowerCase template → ∀ row ∈ rows, ReadsBack toLowerCase template row ↔
      ∀ column, ¬ Wrapped (jsTrim (row.text column))) := by
  refine ⟨?_, fun hnames row hrow => readsBack_iff toLowerCase hlower hnames (hvalid row hrow)⟩
  rw [RoundTrips, parseCsv_toIseCsv toLowerCase hlower hlines]
  simp only [true_and, forall₂_filterMap_iff]
  refine forall₂_congr fun row hrow => ?_
  exact agrees_iff_readsBack toLowerCase hlower (jsTrim_ne_of_macRe (hvalid row hrow))

/-! ## One row -/

/-- The small letters of ASCII. -/
def asciiLower (text : String) : String := String.ofList (text.toList.map Char.toLower)

def defaultExport : ExportTemplate := ⟨defaultTemplate, fun _ h => h⟩

/-- A row with a note. -/
def noteRow (description : String) : EndpointRow where
  mac := "02:00:00:00:00:01"
  name := ""
  groupName := "Printers"
  description := description
  staticGroup := true
  endpointType := ""
  owner := ""
  lokation := ""
  authzVlan := ""
  authzAcl := ""
  platformType := ""
  hypervision := ""
  vendor := ""

omit hlower in
theorem plainNames_default : PlainNames asciiLower defaultExport := by
  refine ⟨by decide, by decide, fun column => ?_⟩
  cases column <;> decide

omit hlower in
/-- A note with quotes and a comma is imported as it was exported. -/
theorem csv_roundtrip_note :
    RoundTrips asciiLower defaultExport [noteRow "3rd floor, \"B\""] := by
  have hlower : ∀ text : String, (text.toList.all fun char => char.toNat < 128) = true →
      asciiLower text = String.ofList (text.toList.map Char.toLower) := fun _ _ => rfl
  have hvalid : ∀ row ∈ [noteRow "3rd floor, \"B\""], macRe row.mac = true := by
    intro row hrow
    rw [List.mem_singleton.mp hrow]
    decide
  have hlines : SingleLines defaultExport [noteRow "3rd floor, \"B\""] := by
    refine ⟨by decide, fun row hrow => ?_⟩
    rw [List.mem_singleton.mp hrow]
    decide
  obtain ⟨hroundTrips, hplain⟩ := csv_roundtrip_iff asciiLower hlower hvalid hlines
  refine hroundTrips.mpr fun row hrow => (hplain plainNames_default row hrow).mpr fun column => ?_
  rw [List.mem_singleton.mp hrow]
  cases column <;> decide

section TwoLines

omit hlower

/-- The first line of the row whose note has two lines. -/
def firstLine : List Char :=
  csvQuote "02:00:00:00:00:01" ++ ',' :: (csvQuote "Printers" ++ ',' :: ['"', 'a'])

theorem parseLine_firstLine :
    parseLine firstLine = ["02:00:00:00:00:01", "Printers", "a", ""] := by
  have hlast : parseRow ['"', 'a'] = [['a'], []] := by
    rw [parseRow, if_pos rfl]
    show ['a'] :: parseRow [] = _
    rw [parseRow]
  rw [parseLine, firstLine, parseRow_csvQuote _ (by simp), skipComma,
    parseRow_csvQuote _ (by simp), skipComma, hlast]
  decide

theorem cellsOf_twoLines :
    cellsOf defaultTemplate (noteRow "a\nb") =
      ["02:00:00:00:00:01", "Printers", "a\nb", "true", "", "", "", "", "", "", ""] := by
  decide

theorem writeLine_twoLines :
    ∃ rest, writeLine (cellsOf defaultTemplate (noteRow "a\nb")) = firstLine ++ '\n' :: rest := by
  have hcell : csvQuote "a\nb" = ['"', 'a'] ++ '\n' :: ['b', '"'] := by decide
  rw [cellsOf_twoLines, writeLine_cons_cons, writeLine_cons_cons, writeLine_cons_cons, hcell,
    firstLine]
  simp only [List.append_assoc, List.cons_append]
  exact ⟨_, rfl⟩

/-- A note of two lines is cut at its line break. -/
theorem csv_roundtrip_fails :
    ¬ ∀ (template : ExportTemplate) (rows : List EndpointRow),
      (∀ row ∈ rows, macRe row.mac = true) → RoundTrips asciiLower template rows := by
  intro h
  have hitems := (h defaultExport [noteRow "a\nb"] fun row hrow => by
    rw [List.mem_singleton.mp hrow]
    decide).2
  obtain ⟨rest, hrest⟩ := writeLine_twoLines
  have htext : toIseCsv defaultExport [noteRow "a\nb"] =
      writeLine defaultTemplate ++ '\n' :: (firstLine ++ '\n' :: (rest ++ ['\n'])) := by
    rw [toIseCsv, List.map_singleton, List.intercalate_singleton]
    show writeLine defaultTemplate ++ '\n' ::
      (writeLine (cellsOf defaultTemplate (noteRow "a\nb")) ++ ['\n']) = _
    rw [hrest, List.append_assoc, List.cons_append]
  have hlines : splitLines (toIseCsv defaultExport [noteRow "a\nb"]) =
      writeLine defaultTemplate :: firstLine :: splitLines (rest ++ ['\n']) := by
    rw [htext, splitLines_append (by decide) (by decide), splitLines_append (by decide) (by decide)]
  have hheader : decide (jsTrim (String.ofList (writeLine defaultTemplate)) ≠ "") = true :=
    decide_eq_true (quoted_ne_empty (writeLine_quotes (by decide)).1)
  have hkept : decide (jsTrim (String.ofList firstLine) ≠ "") = true :=
    decide_eq_true (quoted_ne_empty (by decide))
  have hmac : "macaddress" ∈ (defaultTemplate ++ [""]).map fun name =>
      asciiLower (jsTrim name) := by
    decide
  have hstatic : readIndex asciiLower (defaultTemplate ++ [""]) "staticgroupassignment" =
      some 3 := by decide
  have hread : jsTrim (cellAt ["02:00:00:00:00:01", "Printers", "a", ""]
      (readIndex asciiLower (defaultTemplate ++ [""]) "macaddress")) ≠ "" := by decide
  obtain ⟨item, hitem, -, -, hitemText⟩ := parseIseRow_some asciiLower hstatic hread
  rw [parseCsv, hlines, List.filter_cons, if_pos hheader, List.filter_cons, if_pos hkept] at hitems
  simp only [parseLine_writeLine, hmac, if_true, List.map_cons, parseLine_firstLine] at hitems
  rw [List.filterMap_cons_some hitem, List.forall₂_cons] at hitems
  have hnote := hitems.1.text .description
  rw [hitemText] at hnote
  exact absurd hnote (by decide)

end TwoLines

end IsePortal.Csv
