import IsePortal.Library.Quoting
import IsePortal.Policy.EditorRows
import IsePortal.Selfregister.Bindings

/-!
# The CSV of the browser

The writer and the reader of `js/csv.js`. The writer quotes every cell, so a cell may hold commas
and quotes; the reader splits the text at its line breaks before it looks for quotes, so a cell may
not hold a line feed (`parseRow_written`, `splitLines_append`).
-/

namespace IsePortal.Csv

open Library.Quoting

/-! ## A line -/

/-- `csvQuote`: its two branches write the same, as there is nothing to double in the second. -/
def csvQuote (val : String) : List Char :=
  if '"' ∈ val.toList ∨ ',' ∈ val.toList ∨ '\n' ∈ val.toList then
    '"' :: (doubled val.toList ++ ['"'])
  else '"' :: (val.toList ++ ['"'])

/-- `cells.map(csvQuote).join(",")` -/
def writeLine (cells : List String) : List Char := [','].intercalate (cells.map csvQuote)

/-- A comma after a quoted field is skipped. -/
def skipComma : List Char → List Char
  | ',' :: rest => rest
  | rest => rest

theorem length_skipComma (text : List Char) : (skipComma text).length ≤ text.length := by
  fun_cases skipComma text <;> simp

/-- `parseRow`, from a position of the line on. -/
def parseRow : List Char → List (List Char)
  | [] => [[]]
  | char :: rest =>
      if char = '"' then
        (readQuoted rest).1 :: parseRow (skipComma (readQuoted rest).2)
      else if ',' ∈ char :: rest then
        (char :: rest).takeWhile (· ≠ ',') :: parseRow (((char :: rest).dropWhile (· ≠ ',')).drop 1)
      else [char :: rest]
termination_by line => line.length
decreasing_by
  · have hquoted := length_readQuoted rest
    have hcomma := length_skipComma (readQuoted rest).2
    simp only [List.length_cons]
    omega
  · have hdrop : ((char :: rest).dropWhile (· ≠ ',')).length ≤ (char :: rest).length :=
      (List.dropWhile_suffix _).length_le
    simp only [List.length_drop, List.length_cons] at hdrop ⊢
    omega

/-- A cell is quoted, with its quotes doubled. -/
theorem csvQuote_eq (val : String) : csvQuote val = '"' :: (doubled val.toList ++ ['"']) := by
  rw [csvQuote]
  split
  · rfl
  · next hplain => rw [doubled_eq_self fun hquote => hplain (.inl hquote)]

/-- A written cell is read up to its closing quote. -/
theorem parseRow_csvQuote (cell : String) {rest : List Char} (hrest : rest.head? ≠ some '"') :
    parseRow (csvQuote cell ++ rest) = cell.toList :: parseRow (skipComma rest) := by
  have happend : csvQuote cell ++ rest = '"' :: (doubled cell.toList ++ '"' :: rest) := by
    rw [csvQuote_eq]
    simp
  rw [happend, parseRow, if_pos rfl, readQuoted_doubled _ _ hrest]

theorem writeLine_singleton (cell : String) : writeLine [cell] = csvQuote cell := by
  rw [writeLine, List.map_cons, List.map_nil, List.intercalate_singleton]

theorem writeLine_cons_cons (cell next : String) (rest : List String) :
    writeLine (cell :: next :: rest) = csvQuote cell ++ ',' :: writeLine (next :: rest) := by
  rw [writeLine, List.map_cons, List.map_cons, List.intercalate_cons_cons, List.append_assoc,
    List.singleton_append, writeLine, List.map_cons]

/-- The cells of a line are read back, with an empty one after the last. -/
theorem parseRow_writeLine (cells : List String) :
    parseRow (writeLine cells) = cells.map String.toList ++ [[]] := by
  induction cells with
  | nil => rw [writeLine, List.map_nil, List.intercalate_nil, parseRow]; rfl
  | cons cell rest ih =>
      cases rest with
      | nil =>
          have hline : writeLine [cell] = csvQuote cell ++ [] := by
            rw [writeLine_singleton, List.append_nil]
          rw [hline, parseRow_csvQuote cell (by simp), skipComma, parseRow]
          · rfl
          · simp
      | cons next rest =>
          rw [writeLine_cons_cons, parseRow_csvQuote cell (by simp), skipComma, ih]
          rfl

/-! ## The lines of a text -/

/-- `text.split(/\r?\n/)` -/
def splitLines : List Char → List (List Char)
  | [] => [[]]
  | '\r' :: '\n' :: rest => [] :: splitLines rest
  | '\n' :: rest => [] :: splitLines rest
  | char :: rest => (splitLines rest).modifyHead (char :: ·)

/-- A line without a line feed, and not ending before one, is a line of the text. -/
theorem splitLines_append {line : List Char} (hfeed : '\n' ∉ line)
    (hreturn : line.getLast? ≠ some '\r') (rest : List Char) :
    splitLines (line ++ '\n' :: rest) = line :: splitLines rest := by
  induction line with
  | nil => rw [List.nil_append, splitLines]
  | cons char line ih =>
      have hchar : ¬ char = '\n' := fun heq => hfeed (heq ▸ List.mem_cons_self)
      have hline : '\n' ∉ line := fun hmem => hfeed (List.mem_cons_of_mem _ hmem)
      have hrest : splitLines (line ++ '\n' :: rest) = line :: splitLines rest := by
        refine ih hline fun hlast => hreturn ?_
        rw [List.getLast?_cons, hlast]
        rfl
      rw [List.cons_append, splitLines, hrest]
      · rfl
      · intro others hreturnChar hfeedChar
        cases line with
        | nil => exact hreturn (hreturnChar ▸ rfl)
        | cons first line => exact hline ((List.cons.inj hfeedChar).1 ▸ List.mem_cons_self)
      · intro heq
        exact hchar heq

/-- The lines of a text that is written line by line. -/
theorem splitLines_written {lines : List (List Char)} (hfeed : ∀ line ∈ lines, '\n' ∉ line)
    (hreturn : ∀ line ∈ lines, line.getLast? ≠ some '\r') :
    splitLines ((lines.map fun line => line ++ ['\n']).flatten) = lines ++ [[]] := by
  induction lines with
  | nil => rfl
  | cons line rest ih =>
      rw [List.map_cons, List.flatten_cons, List.append_assoc, List.singleton_append,
        splitLines_append (hfeed line List.mem_cons_self) (hreturn line List.mem_cons_self),
        ih (fun other hother => hfeed other (List.mem_cons_of_mem _ hother))
          fun other hother => hreturn other (List.mem_cons_of_mem _ hother)]
      rfl

/-! ## The writer -/

/-- The row of an endpoint. -/
structure EndpointRow where
  mac : String
  name : String
  groupName : String
  description : String
  staticGroup : Bool
  endpointType : String
  owner : String
  lokation : String
  authzVlan : String
  authzAcl : String
  platformType : String
  hypervision : String
  vendor : String

/-- `DEFAULT_TEMPLATE` -/
def defaultTemplate : List String :=
  ["MACAddress", "IdentityGroup", "Description", "StaticGroupAssignment", "CUSTOM.Type",
    "CUSTOM.Owner", "CUSTOM.Lokation", "CUSTOM.AuthzVlan", "CUSTOM.AuthzACL", "CUSTOM.PlatformType",
    "CUSTOM.HypervisionISEPortal"]

/-- An export template with the columns of the portal. -/
structure ExportTemplate where
  columns : List String
  portal : ∀ name ∈ defaultTemplate, name ∈ columns

/-- The index a loop over the columns leaves for a name: the last one that passes the test. -/
def lastIndex (test : String → Bool) : List String → Option Nat
  | [] => none
  | name :: rest =>
      match lastIndex test rest with
      | some index => some (index + 1)
      | none => if test name then some 0 else none

/-- The texts of a row, by the columns they are written to. -/
def EndpointRow.texts (row : EndpointRow) : List (String × String) :=
  [("MACAddress", orDefault row.mac row.name),
    ("IdentityGroup", row.groupName),
    ("Description", row.description),
    ("StaticAssignment", if row.staticGroup then "true" else "false"),
    ("StaticGroupAssignment", if row.staticGroup then "true" else "false"),
    ("CUSTOM.Type", row.endpointType),
    ("CUSTOM.AuthzVlan", row.authzVlan),
    ("CUSTOM.AuthzACL", row.authzAcl),
    ("CUSTOM.Lokation", row.lokation),
    ("CUSTOM.Owner", row.owner),
    ("CUSTOM.PlatformType", row.platformType),
    ("CUSTOM.HypervisionISEPortal", row.hypervision),
    ("Vendor", row.vendor)]

/-- A text goes to its column, where the template has it. -/
def fill (template : List String) (cells : List String) (text : String × String) : List String :=
  match lastIndex (· = text.1) template with
  | some index => cells.set index text.2
  | none => cells

/-- The cells of a row; those of other columns stay empty. -/
def cellsOf (template : List String) (row : EndpointRow) : List String :=
  row.texts.foldl (fill template) (List.replicate template.length "")

/-- `toIseCsv` -/
def toIseCsv (template : ExportTemplate) (rows : List EndpointRow) : List Char :=
  writeLine template.columns ++ '\n' ::
    (['\n'].intercalate (rows.map fun row => writeLine (cellsOf template.columns row)) ++ ['\n'])

/-! ## The reader -/

/-- `MAC_RE.test`: six pairs of hex digits with a colon or a hyphen after each but the last. -/
def macTest : Nat → List Char → Bool
  | 0, [a, b] => Selfregister.isHexDigit a && Selfregister.isHexDigit b
  | n + 1, a :: b :: c :: rest =>
      Selfregister.isHexDigit a && Selfregister.isHexDigit b && (c = ':' || c = '-') &&
        macTest n rest
  | _, _ => false

/-- `MAC_RE` -/
def macRe (mac : String) : Bool := macTest 5 mac.toList

/-- `stripQuotes` -/
def stripQuotes (text : String) : String :=
  if 2 ≤ text.toList.length ∧ text.toList.head? = some '\'' ∧ text.toList.getLast? = some '\'' then
    String.ofList text.toList.tail.dropLast
  else text

/-- An item of an import. -/
structure CsvItem where
  mac : String
  groupName : String
  description : String
  staticGroup : Option Bool
  endpointType : String
  owner : String
  lokation : String
  authzVlan : String
  authzAcl : String
  platformType : String
  valid : Bool

inductive CsvFormat where
  | ise
  | simple
  deriving DecidableEq

/-- What `parseCsv` returns. -/
structure CsvImport where
  format : CsvFormat
  items : List CsvItem

/-- The fields of a line. -/
def parseLine (line : List Char) : List String := (parseRow line).map String.ofList

/-- A field by its index, empty where there is none. -/
def cellAt (fields : List String) (index : Option Nat) : String :=
  (index.bind fun index => fields[index]?).getD ""

variable (toLowerCase : String → String)

/-- `parseBoolCell` -/
def parseBoolCell (raw : String) : Option Bool :=
  let v := toLowerCase (stripQuotes (jsTrim raw))
  if v = "" then none
  else if v = "true" ∨ v = "1" ∨ v = "yes" then some true
  else if v = "false" ∨ v = "0" ∨ v = "no" then some false
  else none

/-- The index of a column by its name, as the header has it: trimmed and in small letters. -/
def readIndex (header : List String) (key : String) : Option Nat :=
  lastIndex (fun name => toLowerCase (jsTrim name) = key) header

/-- A row of the ISE format; a row without a MAC is left out. -/
def parseIseRow (header : List String) (fields : List String) : Option CsvItem :=
  let index := readIndex toLowerCase header
  let text := fun key => stripQuotes (jsTrim (cellAt fields (index key)))
  let mac := jsTrim (cellAt fields (index "macaddress"))
  let staticCol := (index "staticgroupassignment").or (index "staticassignment")
  if mac = "" then none
  else some {
    mac := mac
    groupName := text "identitygroup"
    description := text "description"
    staticGroup := staticCol.bind fun col => parseBoolCell toLowerCase (cellAt fields (some col))
    endpointType := text "custom.type"
    owner := text "custom.owner"
    lokation := text "custom.lokation"
    authzVlan := text "custom.authzvlan"
    authzAcl := text "custom.authzacl"
    platformType := text "custom.platformtype"
    valid := macRe mac }

/-- A row of the simple format. -/
def parseSimpleRow (fields : List String) : CsvItem :=
  let part := fun index => jsTrim (cellAt fields (some index))
  { mac := part 0
    groupName := part 1
    description := part 2
    staticGroup := none
    endpointType := part 3
    owner := part 4
    lokation := part 5
    authzVlan := part 6
    authzAcl := part 7
    platformType := part 8
    valid := macRe (jsTrim (part 0)) }

/-- `parseCsv` -/
def parseCsv (text : List Char) : CsvImport :=
  match (splitLines text).filter fun line => jsTrim (String.ofList line) ≠ "" with
  | [] => ⟨.simple, []⟩
  | first :: rest =>
      let header := parseLine first
      let headerLower := header.map fun name => toLowerCase (jsTrim name)
      if "macaddress" ∈ headerLower then
        ⟨.ise, (rest.map parseLine).filterMap (parseIseRow toLowerCase header)⟩
      else if headerLower.head? = some "mac" ∨ "mac" ∈ headerLower then
        ⟨.simple, (rest.map parseLine).map parseSimpleRow⟩
      else ⟨.simple, ((first :: rest).map parseLine).map parseSimpleRow⟩

end IsePortal.Csv
