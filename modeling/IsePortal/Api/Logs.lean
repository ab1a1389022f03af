import IsePortal.Platform.Bytes
import IsePortal.Platform.Text
import Mathlib.Data.List.Infix

/-!
# The log listing

`get_logs` of `app/api/logs.py`. A record of the log is a header line with the lines that follow it
up to the next header. The loop filters the headers and joins the other lines to the last entry that
was kept, so a record that is filtered out leaves its further lines to the entry before it. The
listing is that of the records exactly where no such record follows an entry that is returned.
-/

namespace IsePortal.Logs

/-- `\d` on one character. -/
class Digits where
  isDecimal : Char → Bool

/-- What `_parse` gives for a header line. -/
@[ext] structure Entry where
  timestamp : String
  level : String
  logger : String
  message : String
  deriving DecidableEq

/-! ## Header lines -/

/-- `rstrip("\n")` -/
def rstripNewline (raw : String) : List Char :=
  (raw.toList.reverse.dropWhile (· = '\n')).reverse

/-- The text that follows a part of the pattern. -/
def dropText (text chars : List Char) : Option (List Char) :=
  if text <+: chars then some (chars.drop text.length) else none

/-- `(?P<logger>[^|]+?) \| (?P<message>.*)$`: the logger is as short as possible. -/
def loggerAndMessage : List Char → Option (List Char × List Char)
  | [] => none
  | char :: rest =>
      if char = '|' then none
      else
        match dropText " | ".toList rest with
        | some message => some ([char], message)
        | none => (loggerAndMessage rest).map fun parts => (char :: parts.1, parts.2)

/-- `(?P<level>\S+)\s*\| ` and what follows it. The level takes all characters up to a space, or
leaves the last one of them, which is the bar then. -/
def levelAndRest (chars : List Char) : Option (List Char × List Char × List Char) :=
  let level := chars.takeWhile fun char => !isSpace char
  let rest := chars.drop level.length
  let whole := (dropText "| ".toList (rest.dropWhile isSpace)).bind loggerAndMessage
  match whole with
  | some parts => if level = [] then none else some (level, parts)
  | none =>
      if level.dropLast = [] ∨ level.getLast? ≠ some '|' then none
      else ((dropText " ".toList rest).bind loggerAndMessage).map fun parts =>
        (level.dropLast, parts)

section

variable [Digits]

/-- The pattern of a timestamp: a `0` stands for a digit. -/
def isStamp (chars : List Char) : Bool :=
  chars.length = 19 ∧ (chars.zip "0000-00-00 00:00:00".toList).all fun pair =>
    if pair.2 = '0' then Digits.isDecimal pair.1 else pair.1 = pair.2

/-- `_parse` -/
def parse (raw : String) : Option Entry :=
  let chars := rstripNewline raw
  if isStamp (chars.take 19) then
    ((dropText " | ".toList (chars.drop 19)).bind levelAndRest).map fun parts =>
      { timestamp := String.ofList (chars.take 19)
        level := String.ofList parts.1
        logger := String.ofList (strip parts.2.1)
        message := String.ofList parts.2.2 }
  else none

end

/-! ## The listing -/

/-- `newline=None`: a carriage return ends a line too. -/
def universalNewlines : List Char → List Char
  | '\r' :: '\n' :: rest => '\n' :: universalNewlines rest
  | '\r' :: rest => '\n' :: universalNewlines rest
  | char :: rest => char :: universalNewlines rest
  | [] => []

/-- The lines of an open file, each with its line feed. -/
def splitLines : List Char → List (List Char)
  | [] => []
  | char :: rest =>
      if char = '\n' then ['\n'] :: splitLines rest
      else
        match splitLines rest with
        | [] => [[char]]
        | line :: lines => (char :: line) :: lines

/-- `open("r", encoding="utf-8", errors="replace")` -/
def fileLines (file : Bytes) : List String :=
  (splitLines (universalNewlines (decodeReplace file))).map String.ofList

/-- `LEVELS` -/
def levels : List String := ["DEBUG", "INFO", "WARNING", "ERROR", "CRITICAL"]

/-- What the listing is filtered by: the level and the text, in lower case. -/
structure LogFilter where
  wantedLevel : Option String
  needle : Option String

/-- `deque(f, maxlen=…)` -/
def tailOf (filter : LogFilter) (lines : Nat) (file : List String) : List String :=
  let maxlen :=
    if filter.wantedLevel.isSome ∨ filter.needle.isSome then lines * 4 else lines
  file.drop (file.length - maxlen)

/-- `message += "\n" + raw.rstrip("\n")` -/
def Entry.join (entry : Entry) (raw : String) : Entry :=
  { entry with message := entry.message ++ "\n" ++ String.ofList (rstripNewline raw) }

/-- A line that is no header goes to the last entry, if there is one. -/
def joinLast : List Entry → String → List Entry
  | [], _ => []
  | [entry], raw => [entry.join raw]
  | entry :: rest, raw => entry :: joinLast rest raw

section

variable [PyText] [Digits]

/-- The header passes the filter. -/
def LogFilter.passes (filter : LogFilter) (raw : String) (parsed : Entry) : Prop :=
  (∀ level ∈ filter.wantedLevel, parsed.level = level) ∧
    ∀ needle ∈ filter.needle, needle.toList <:+: (PyText.lower raw).toList

instance (filter : LogFilter) (raw : String) (parsed : Entry) :
    Decidable (filter.passes raw parsed) := inferInstanceAs (Decidable (_ ∧ _))

/-- One line of the loop. -/
def addLine (filter : LogFilter) (entries : List Entry) (raw : String) : List Entry :=
  match parse raw with
  | none => joinLast entries raw
  | some parsed => if filter.passes raw parsed then entries ++ [parsed] else entries

/-- The entries of the answer. -/
def listEntries (filter : LogFilter) (lines : Nat) (file : List String) : List Entry :=
  (((tailOf filter lines file).foldl (addLine filter) []).reverse).take lines

/-- The query as a filter. -/
def queryFilter (level search : Option String) : Except HttpError LogFilter :=
  let given := fun text : Option String => text.filter (· ≠ "")
  let wantedLevel := (given level).map PyText.upper
  if (wantedLevel.filter fun level => level ∉ levels).isSome then
    .error ⟨400, "Invalid level: " ++ level.getD ""⟩
  else .ok ⟨wantedLevel, (given search).map PyText.lower⟩

/-- The answer of `get_logs`; without a file it has no entries. -/
structure LogPage where
  entries : List Entry
  returned : Nat
  path : String

/-- `get_logs`, with the contents of the log file if there is one. -/
def getLogs (path : String) (file : Option Bytes) (lines : Nat) (level search : Option String) :
    Except HttpError LogPage :=
  match file with
  | none => .ok ⟨[], 0, path⟩
  | some contents =>
      (queryFilter level search).map fun filter =>
        let entries := listEntries filter lines (fileLines contents)
        ⟨entries, entries.length, path⟩

end

/-! ## Records -/

/-- A header line, what it says, and the lines that follow it. -/
structure LogRecord where
  header : String
  parsed : Entry
  following : List String

/-- The entry of a record. -/
def Entry.joinAll (entry : Entry) (following : List String) : Entry :=
  following.foldl Entry.join entry

/-- The lines before the first header, and the records. -/
def splitRecords [Digits] : List String → List String × List LogRecord
  | [] => ([], [])
  | raw :: rest =>
      match parse raw with
      | none => (raw :: (splitRecords rest).1, (splitRecords rest).2)
      | some parsed => ([], ⟨raw, parsed, (splitRecords rest).1⟩ :: (splitRecords rest).2)

/-- The records of the end of a file are the last ones of the file. -/
theorem splitRecords_append [Digits] (earlier later : List String) :
    (splitRecords later).2 <:+ (splitRecords (earlier ++ later)).2 := by
  induction earlier with
  | nil => exact List.suffix_rfl
  | cons raw rest ih =>
      rw [List.cons_append, splitRecords]
      cases parse raw with
      | none => exact ih
      | some parsed => exact ih.trans (List.suffix_cons _ _)

/-! ## Joining lines -/

theorem joinLast_concat (entries : List Entry) (entry : Entry) (raw : String) :
    joinLast (entries ++ [entry]) raw = entries ++ [entry.join raw] := by
  induction entries with
  | nil => rfl
  | cons first rest ih =>
      cases rest with
      | nil => rfl
      | cons second rest => exact congrArg (first :: ·) ih

/-- Lines that are no headers, one after the other. -/
theorem foldl_joinLast_concat (entries : List Entry) (entry : Entry) (raws : List String) :
    raws.foldl joinLast (entries ++ [entry]) = entries ++ [entry.joinAll raws] := by
  induction raws generalizing entry with
  | nil => rfl
  | cons raw rest ih =>
      rw [List.foldl_cons, joinLast_concat, ih]
      rfl

theorem foldl_joinLast_nil (raws : List String) : raws.foldl joinLast [] = [] := by
  induction raws with
  | nil => rfl
  | cons raw rest ih => exact ih

theorem length_join (entry : Entry) (raw : String) :
    entry.message.toList.length < (entry.join raw).message.toList.length := by
  simp [Entry.join]

theorem length_joinAll_le (entry : Entry) (raws : List String) :
    entry.message.toList.length ≤ (entry.joinAll raws).message.toList.length := by
  induction raws generalizing entry with
  | nil => exact Nat.le_refl _
  | cons raw rest ih => exact (length_join entry raw).le.trans (ih (entry.join raw))

/-- Further lines change the entry. -/
theorem joinAll_eq_iff (entry : Entry) (raws : List String) :
    entry.joinAll raws = entry ↔ raws = [] := by
  constructor
  · intro h
    cases raws with
    | nil => rfl
    | cons raw rest =>
        have hless := (length_join entry raw).trans_le (length_joinAll_le (entry.join raw) rest)
        have heq : ((entry.join raw).joinAll rest).message = entry.message :=
          congrArg Entry.message h
        rw [heq] at hless
        exact absurd hless (Nat.lt_irrefl _)
  · rintro rfl
    rfl

/-! ## What the loop makes of the records -/

section

variable [PyText] {filter : LogFilter}

/-- The record passes when its header does. -/
def LogFilter.keeps (filter : LogFilter) (record : LogRecord) : Bool :=
  filter.passes record.header record.parsed

/-- The records that pass, as entries. -/
def keptEntries (filter : LogFilter) (records : List LogRecord) : List Entry :=
  (records.filter filter.keeps).map fun record => record.parsed.joinAll record.following

/-- The further lines of the records before the first that passes. -/
def leftOver (filter : LogFilter) (records : List LogRecord) : List String :=
  (records.takeWhile fun record => !filter.keeps record).flatMap LogRecord.following

/-- The entries of the loop: what is left over goes to the entry before it. -/
def gathered (filter : LogFilter) : List LogRecord → List Entry
  | [] => []
  | record :: rest =>
      if filter.keeps record then
        record.parsed.joinAll (record.following ++ leftOver filter rest) :: gathered filter rest
      else gathered filter rest

/-- One record of the loop. -/
def addRecord (filter : LogFilter) (entries : List Entry) (record : LogRecord) : List Entry :=
  record.following.foldl joinLast
    (if filter.keeps record then entries ++ [record.parsed] else entries)

theorem leftOver_cons (record : LogRecord) (rest : List LogRecord) :
    leftOver filter (record :: rest) =
      if filter.keeps record then [] else record.following ++ leftOver filter rest := by
  rw [leftOver, List.takeWhile_cons]
  cases filter.keeps record <;> simp [leftOver]

/-- The loop over the lines is a loop over the records. -/
theorem foldl_addLine [Digits] (entries : List Entry) (raws : List String) :
    raws.foldl (addLine filter) entries =
      (splitRecords raws).2.foldl (addRecord filter)
        ((splitRecords raws).1.foldl joinLast entries) := by
  induction raws generalizing entries with
  | nil => rfl
  | cons raw rest ih =>
      rw [List.foldl_cons, ih, addLine, splitRecords]
      cases parse raw with
      | none => rfl
      | some parsed =>
          simp only [List.foldl_nil, List.foldl_cons, addRecord, LogFilter.keeps,
            decide_eq_true_iff]

/-- The loop over the records, with what is left over. -/
theorem foldl_addRecord (entries : List Entry) (records : List LogRecord) :
    records.foldl (addRecord filter) entries =
      (leftOver filter records).foldl joinLast entries ++ gathered filter records := by
  induction records generalizing entries with
  | nil => exact (List.append_nil entries).symm
  | cons record rest ih =>
      rw [List.foldl_cons, ih, addRecord, gathered, leftOver_cons]
      cases hkeeps : filter.keeps record with
      | false => simp
      | true =>
          simp only [if_true, List.foldl_nil]
          rw [← List.foldl_append, foldl_joinLast_concat, List.append_assoc]
          rfl

theorem length_gathered (records : List LogRecord) :
    (gathered filter records).length = (records.filter filter.keeps).length := by
  induction records with
  | nil => rfl
  | cons record rest ih =>
      rw [gathered, List.filter_cons]
      split
      · rw [List.length_cons, List.length_cons, ih]
      · exact ih

/-- Of the newest records that pass, none is followed, before the next one that passes, by a record
that is filtered out and has further lines. -/
def Undisturbed (filter : LogFilter) (lines : Nat) (records : List LogRecord) : Prop :=
  ∀ earlier record later, records = earlier ++ record :: later → filter.keeps record = true →
    (later.filter filter.keeps).length < lines → leftOver filter later = []

theorem undisturbed_cons {lines : Nat} {record : LogRecord} {rest : List LogRecord} :
    Undisturbed filter lines (record :: rest) ↔
      (filter.keeps record = true → (rest.filter filter.keeps).length < lines →
        leftOver filter rest = []) ∧ Undisturbed filter lines rest := by
  constructor
  · intro h
    refine ⟨fun hkeeps hfew => h [] record rest rfl hkeeps hfew, ?_⟩
    rintro earlier other later rfl
    exact h (record :: earlier) other later rfl
  · rintro ⟨hfirst, hrest⟩ earlier other later hall
    cases earlier with
    | nil =>
        cases hall
        exact hfirst
    | cons first earlier =>
        cases hall
        exact hrest earlier other later rfl

theorem reverse_take_eq_iff (lines : Nat) (records : List LogRecord) :
    (gathered filter records).reverse.take lines =
        (keptEntries filter records).reverse.take lines ↔
      Undisturbed filter lines records := by
  induction records with
  | nil =>
      refine iff_of_true rfl fun earlier record later h => ?_
      simp at h
  | cons record rest ih =>
      rw [undisturbed_cons, ← ih, gathered, keptEntries, List.filter_cons]
      cases hkeeps : filter.keeps record with
      | false => simp [keptEntries]
      | true =>
          have hgathered := @length_gathered _ filter rest
          have hkept : (keptEntries filter rest).length = (rest.filter filter.keeps).length :=
            List.length_map _
          rw [if_pos rfl, if_pos rfl, List.map_cons, ← keptEntries, List.reverse_cons,
            List.reverse_cons]
          by_cases hfew : (rest.filter filter.keeps).length < lines
          · -- the record is among the newest
            have htake : ∀ entries : List Entry, entries.length ≤ lines →
                entries.take lines = entries := fun _ => List.take_of_length_le
            rw [htake _ (by simp; omega), htake _ (by simp; omega), htake _ (by simp; omega),
              htake _ (by simp; omega)]
            have hentry : record.parsed.joinAll (record.following ++ leftOver filter rest) =
                record.parsed.joinAll record.following ↔ leftOver filter rest = [] := by
              rw [Entry.joinAll, List.foldl_append]
              exact joinAll_eq_iff _ _
            rw [← List.concat_eq_append, ← List.concat_eq_append, List.concat_inj, hentry, and_comm]
            exact and_congr_left fun _ => ⟨fun h _ _ => h, fun h => h rfl hfew⟩
          · rw [List.take_append_of_le_length (by simp; omega),
              List.take_append_of_le_length (by simp; omega)]
            exact (and_iff_right fun _ h => absurd h hfew).symm

/-- What the listing is meant to have: the newest of the records that pass, newest first, each with
its own lines. -/
def newestRecords [Digits] (filter : LogFilter) (lines : Nat) (file : List String) : List Entry :=
  (keptEntries filter (splitRecords (tailOf filter lines file)).2).reverse.take lines

/-- The records of the lines that are read are the last ones of the file, and the listing has the
newest of them that pass if and only if none that is filtered out leaves lines to one of these. -/
theorem listing_iff [Digits] (filter : LogFilter) (lines : Nat) (file : List String) :
    (splitRecords (tailOf filter lines file)).2 <:+ (splitRecords file).2 ∧
      (listEntries filter lines file = newestRecords filter lines file ↔
        Undisturbed filter lines (splitRecords (tailOf filter lines file)).2) := by
  constructor
  · have happ := splitRecords_append (file.take (file.length - (if filter.wantedLevel.isSome ∨
      filter.needle.isSome then lines * 4 else lines))) (tailOf filter lines file)
    rwa [tailOf, List.take_append_drop] at happ
  · rw [listEntries, foldl_addLine, foldl_addRecord, foldl_joinLast_nil, foldl_joinLast_nil,
      List.nil_append]
    exact reverse_take_eq_iff lines _

/-- `get_logs` lists the newest records that pass, each with its own lines, if and only if none of
them is followed by a record that is filtered out and has further lines. -/
theorem get_logs_iff [Digits] (path : String) (contents : Bytes) (lines : Nat)
    (level search : Option String) (filter : LogFilter)
    (hfilter : queryFilter level search = .ok filter) :
    ∃ page, getLogs path (some contents) lines level search = .ok page ∧
      (splitRecords (tailOf filter lines (fileLines contents))).2 <:+
        (splitRecords (fileLines contents)).2 ∧
      (page.entries = newestRecords filter lines (fileLines contents) ↔
        Undisturbed filter lines (splitRecords (tailOf filter lines (fileLines contents))).2) := by
  refine ⟨⟨listEntries filter lines (fileLines contents),
    (listEntries filter lines (fileLines contents)).length, path⟩, ?_,
    listing_iff filter lines (fileLines contents)⟩
  rw [getLogs, hfilter]
  rfl

end

/-! ## A stack trace below another record -/

/-- The digits of ASCII. -/
@[reducible] def asciiDigits : Digits := ⟨Char.isDigit⟩

/-- A record of an error, one of a start, and a line that follows. -/
def failedLine : String := "2026-01-02 03:04:05 | ERROR | app | failed\n"

def startedLine : String := "2026-01-02 03:04:06 | INFO | app | started\n"

def detailLine : String := "  detail\n"

theorem fileLines_utf8 (text : String) : fileLines (utf8 text.toList) =
    (splitLines (universalNewlines text.toList)).map String.ofList := by
  rw [fileLines, decodeReplace_utf8]

theorem get_logs_failed : ∃ page,
    @getLogs asciiText asciiDigits "app.log" (some (utf8 (failedLine ++ detailLine).toList)) 500
        (some "error") none = .ok page ∧
      page.entries = @newestRecords asciiText asciiDigits ⟨some "ERROR", none⟩ 500
        (fileLines (utf8 (failedLine ++ detailLine).toList)) := by
  let _ := asciiText
  let _ := asciiDigits
  obtain ⟨page, hpage, -, hiff⟩ := get_logs_iff "app.log" (utf8 (failedLine ++ detailLine).toList)
    500 (some "error") none ⟨some "ERROR", none⟩ rfl
  have hrecords : (splitRecords (tailOf ⟨some "ERROR", none⟩ 500
      (fileLines (utf8 (failedLine ++ detailLine).toList)))).2 =
        [⟨failedLine, ⟨"2026-01-02 03:04:05", "ERROR", "app", "failed"⟩, [detailLine]⟩] := by
    rw [fileLines_utf8]
    rfl
  refine ⟨page, hpage, hiff.mpr ?_⟩
  rw [hrecords, undisturbed_cons]
  refine ⟨fun _ _ => rfl, fun earlier record later h => ?_⟩
  simp at h

/-- Of the errors only: the line that follows the start is listed with the error before it. -/
theorem get_logs_misleads : ∃ page,
    @getLogs asciiText asciiDigits "app.log"
        (some (utf8 (failedLine ++ startedLine ++ detailLine).toList)) 500 (some "error") none =
          .ok page ∧
      page.entries ≠ @newestRecords asciiText asciiDigits ⟨some "ERROR", none⟩ 500
        (fileLines (utf8 (failedLine ++ startedLine ++ detailLine).toList)) := by
  let _ := asciiText
  let _ := asciiDigits
  refine ⟨_, rfl, ?_⟩
  show listEntries _ _ (fileLines _) ≠ _
  rw [fileLines_utf8]
  decide

end IsePortal.Logs
