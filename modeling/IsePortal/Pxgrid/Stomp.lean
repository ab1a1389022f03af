import IsePortal.Library.Dict
import IsePortal.Library.Framing
import IsePortal.Platform.Bytes

/-!
# The STOMP codec

`pxgrid/stomp.py`: `encode` writes a frame, `parse_frame` reads one and `split_frames` takes the
complete frames off a buffer. The receive loop of `session_worker.py` appends every chunk
to what was left over and splits again. `splitFrames_spliced` is what makes the cuts between
chunks invisible; `stream_codec` puts it together with the round trip of one frame.
-/

namespace IsePortal.Stomp

open Library

/-- `NULL = b"\x00"` -/
def null : Bytes := [0]

/-- `NEWLINE = b"\n"` -/
def newline : Bytes := [10]

structure StompFrame where
  command : String
  headers : Dict String String
  body : Bytes

/-- `f"{k}:{v}"` -/
def headerLine (header : String × String) : List Char :=
  header.1.toList ++ ':' :: header.2.toList

namespace StompFrame

def encode (frame : StompFrame) : Bytes :=
  utf8 frame.command.toList ++ newline ++
    frame.headers.entries.flatMap (fun header => utf8 (headerLine header) ++ newline) ++
    newline ++ frame.body ++ null

end StompFrame

/-- One line of the head after the first: the first occurrence of a key wins, and a line
without a colon is dropped. -/
def addHeader (headers : Dict String String) (line : List Char) : Dict String String :=
  if ':' ∈ line then
    let k := String.ofList (line.takeWhile (· ≠ ':'))
    let v := String.ofList ((line.dropWhile (· ≠ ':')).drop 1)
    if headers.get? k = none then headers.set k v else headers
  else headers

/-- `none` on a buffer without a complete frame, and on one without the blank line. -/
def parseFrame (raw : Bytes) : Option StompFrame :=
  if raw = [] then none
  else
    let raw := lstripNewlines raw
    if raw = [] then none
    else
      match find null raw with
      | none => none
      | some nullPos =>
          let frameBytes := raw.take nullPos
          match find (newline ++ newline) frameBytes with
          | none => none
          | some headerEnd =>
              let head := decodeReplace (frameBytes.take headerEnd)
              let body := frameBytes.drop (headerEnd + 2)
              let lines := head.splitOn '\n'
              some ⟨String.ofList (strip (lines.headD [])),
                lines.tail.foldl addHeader Dict.empty, body⟩

/-- The complete frames of a buffer, in order, and what is left over. A terminated piece that
does not parse is dropped. -/
def splitFrames (buffer : Bytes) : List StompFrame × Bytes :=
  if buffer = [] then ([], buffer)
  else
    let stripped := lstripNewlines buffer
    if stripped = [] then ([], [])
    else
      match find null stripped with
      | none => ([], stripped)
      | some nullPos =>
          let frameBytes := stripped.take nullPos
          let later := splitFrames (stripped.drop (nullPos + 1))
          match parseFrame (frameBytes ++ null) with
          | some frame => (frame :: later.1, later.2)
          | none => later
  termination_by buffer.length
  decreasing_by
    have hle := length_lstripNewlines_le buffer
    have hpos : 0 < (lstripNewlines buffer).length := List.length_pos_iff.mpr ‹_›
    rw [List.length_drop]
    omega

/-! ## Splitting any buffer -/

theorem splitFrames_nil : splitFrames [] = ([], []) := by
  rw [splitFrames, if_pos rfl]

/-- Newlines alone are skipped. -/
theorem splitFrames_newlines {buffer : Bytes} (h : lstripNewlines buffer = []) :
    splitFrames buffer = ([], []) := by
  by_cases hbuffer : buffer = []
  · rw [hbuffer, splitFrames_nil]
  · rw [splitFrames, if_neg hbuffer]
    simp only [h, if_true]

/-- Without a terminator the buffer is kept, less the newlines in front. -/
theorem splitFrames_incomplete {buffer : Bytes} (h : 0 ∉ buffer) :
    splitFrames buffer = ([], lstripNewlines buffer) := by
  by_cases hstripped : lstripNewlines buffer = []
  · rw [splitFrames_newlines hstripped, hstripped]
  · have hbuffer : buffer ≠ [] := fun heq => hstripped (by rw [heq]; rfl)
    have hnull : (0 : UInt8) ∉ lstripNewlines buffer :=
      fun hmem => h ((List.dropWhile_suffix _).subset hmem)
    rw [splitFrames, if_neg hbuffer]
    simp only [hstripped, if_false, null, find_singleton_eq_none hnull]

/-- Up to the first terminator there is one piece, which is parsed. -/
theorem splitFrames_terminated {buffer piece rest : Bytes}
    (hbuffer : lstripNewlines buffer = piece ++ 0 :: rest) (hpiece : 0 ∉ piece) :
    splitFrames buffer =
      ((parseFrame (piece ++ null)).toList ++ (splitFrames rest).1, (splitFrames rest).2) := by
  have hne : buffer ≠ [] := by
    intro heq
    rw [heq] at hbuffer
    exact absurd hbuffer (by simp [lstripNewlines])
  have hstripped : lstripNewlines buffer ≠ [] := by
    rw [hbuffer]
    exact List.append_ne_nil_of_right_ne_nil piece (List.cons_ne_nil 0 rest)
  rw [splitFrames, if_neg hne]
  simp only [hstripped, if_false]
  rw [hbuffer]
  simp only [null, find_singleton_append hpiece, List.take_left']
  have hdrop : (piece ++ 0 :: rest).drop (piece.length + 1) = rest := by
    rw [List.drop_append, List.drop_eq_nil_of_le (by omega), Nat.add_sub_cancel_left]
    rfl
  rw [hdrop]
  cases parseFrame (piece ++ [0]) <;> rfl

/-- Where the first piece of a buffer with a terminator ends. -/
theorem exists_first_piece {buffer : Bytes} (h : 0 ∈ buffer) :
    ∃ piece rest, 0 ∉ piece ∧ lstripNewlines buffer = piece ++ 0 :: rest := by
  have hmem : 0 ∈ lstripNewlines buffer := (mem_lstripNewlines_iff (by decide) (by decide)).mpr h
  obtain ⟨piece, rest, hsplit, hpiece⟩ := List.eq_append_cons_of_mem hmem
  exact ⟨piece, rest, hpiece, hsplit⟩

/-- Only what follows the newlines in front matters. -/
theorem splitFrames_congr {a b : Bytes} (h : lstripNewlines a = lstripNewlines b) :
    splitFrames a = splitFrames b := by
  by_cases hnull : 0 ∈ a
  · obtain ⟨piece, rest, hpiece, hrest⟩ := exists_first_piece hnull
    rw [splitFrames_terminated hrest hpiece, splitFrames_terminated (h.symm.trans hrest) hpiece]
  · have hstripped : 0 ∉ lstripNewlines a := by
      rw [mem_lstripNewlines_iff (by decide) (by decide)]
      exact hnull
    have hother : 0 ∉ b := by
      rw [h, mem_lstripNewlines_iff (by decide) (by decide)] at hstripped
      exact hstripped
    rw [splitFrames_incomplete hnull, splitFrames_incomplete hother, h]

/-- Splitting early and going on with the leftover is splitting once. -/
theorem splitFrames_spliced : Spliced splitFrames := by
  intro buffer more
  -- The induction follows the loop: a buffer is shorter once its first piece is gone.
  induction hlength : buffer.length using Nat.strong_induction_on generalizing buffer with
  | _ n ih =>
      by_cases hnull : 0 ∈ buffer
      · obtain ⟨piece, rest, hpiece, hrest⟩ := exists_first_piece hnull
        have hshorter : rest.length < n := by
          have hle := length_lstripNewlines_le buffer
          rw [hrest, List.length_append, List.length_cons] at hle
          omega
        have hlonger : lstripNewlines (buffer ++ more) = piece ++ 0 :: (rest ++ more) := by
          have hne : lstripNewlines buffer ≠ [] := by
            rw [hrest]
            exact List.append_ne_nil_of_right_ne_nil piece (List.cons_ne_nil 0 rest)
          rw [lstripNewlines_append_of_ne hne, hrest, List.append_assoc]
          rfl
        rw [splitFrames_terminated hlonger hpiece, splitFrames_terminated hrest hpiece,
          ih rest.length hshorter rest rfl, List.append_assoc]
      · rw [splitFrames_incomplete hnull, List.nil_append]
        refine splitFrames_congr ?_
        by_cases hstripped : lstripNewlines buffer = []
        · rw [lstripNewlines_append_of_eq hstripped, hstripped, List.nil_append]
        · rw [lstripNewlines_append_of_ne hstripped, lstripNewlines_append_of_ne,
            lstripNewlines_idem]
          rw [lstripNewlines_idem]
          exact hstripped

/-! ## One frame -/

/-- What a sender may put in a frame: a command, keys and values that the separators cannot
be mistaken in. Keys are distinct because headers are a dictionary. -/
structure StompFrame.WellFormed (frame : StompFrame) : Prop where
  command_ne : frame.command.toList ≠ []
  command_trimmed : strip frame.command.toList = frame.command.toList
  command_chars : ∀ c ∈ frame.command.toList, c ≠ '\x00' ∧ c ≠ '\n'
  key_ne : ∀ header ∈ frame.headers.entries, header.1.toList ≠ []
  key_chars : ∀ header ∈ frame.headers.entries, ∀ c ∈ header.1.toList,
    c ≠ ':' ∧ c ≠ '\x00' ∧ c ≠ '\n'
  value_chars : ∀ header ∈ frame.headers.entries, ∀ c ∈ header.2.toList,
    c ≠ '\x00' ∧ c ≠ '\n'
  body_bytes : 0 ∉ frame.body

/-- The lines above the blank line. -/
def StompFrame.lines (frame : StompFrame) : List (List Char) :=
  frame.command.toList :: frame.headers.entries.map headerLine

/-- The frame without its terminator. -/
def StompFrame.content (frame : StompFrame) : Bytes :=
  utf8 (['\n'].intercalate frame.lines) ++ 10 :: 10 :: frame.body

theorem utf8_newline : utf8 ['\n'] = [10] := by decide

theorem utf8_join (line : List Char) (lines : List (List Char)) :
    utf8 line ++ newline ++ lines.flatMap (fun other => utf8 other ++ newline) =
      utf8 (['\n'].intercalate (line :: lines)) ++ newline := by
  induction lines generalizing line with
  | nil => simp [newline]
  | cons next lines ih =>
      rw [List.flatMap_cons, List.intercalate_cons_cons, utf8_append, utf8_append, utf8_newline,
        List.append_assoc _ (utf8 _) newline, ← ih next]
      simp only [newline, List.append_assoc]

theorem StompFrame.encode_eq (frame : StompFrame) : frame.encode = frame.content ++ null := by
  have hjoin := utf8_join frame.command.toList (frame.headers.entries.map headerLine)
  rw [List.flatMap_map] at hjoin
  rw [encode, hjoin, content, lines]
  simp only [newline, List.append_assoc, List.cons_append, List.nil_append]

/-- Every line of a head is non-empty and free of the separators around it. -/
theorem StompFrame.WellFormed.line_chars {frame : StompFrame} (h : frame.WellFormed)
    {line : List Char} (hline : line ∈ frame.lines) :
    line ≠ [] ∧ '\n' ∉ line ∧ '\x00' ∉ line := by
  rcases List.mem_cons.mp hline with heq | hheader
  · subst heq
    exact ⟨h.command_ne, fun hc => (h.command_chars _ hc).2 rfl,
      fun hc => (h.command_chars _ hc).1 rfl⟩
  · obtain ⟨header, hmem, rfl⟩ := List.mem_map.mp hheader
    refine ⟨by simp [headerLine], ?_, ?_⟩
    · intro hc
      rcases List.mem_append.mp hc with hkey | hvalue
      · exact (h.key_chars header hmem _ hkey).2.2 rfl
      · rcases List.mem_cons.mp hvalue with hcolon | hvalue
        · exact absurd hcolon (by decide)
        · exact (h.value_chars header hmem _ hvalue).2 rfl
    · intro hc
      rcases List.mem_append.mp hc with hkey | hvalue
      · exact (h.key_chars header hmem _ hkey).2.1 rfl
      · rcases List.mem_cons.mp hvalue with hcolon | hvalue
        · exact absurd hcolon (by decide)
        · exact (h.value_chars header hmem _ hvalue).1 rfl

theorem exists_intercalate_cons (line : List Char) (lines : List (List Char)) :
    ∃ rest, ['\n'].intercalate (line :: lines) = line ++ rest := by
  cases lines with
  | nil => exact ⟨[], by rw [List.intercalate_singleton, List.append_nil]⟩
  | cons next lines =>
      refine ⟨['\n'] ++ ['\n'].intercalate (next :: lines), ?_⟩
      rw [List.intercalate_cons_cons, List.append_assoc]

/-- The blank line is found at the end of the head, whatever the body holds. -/
theorem find_blankLine {line : List Char} {lines : List (List Char)}
    (h : ∀ other ∈ line :: lines, other ≠ [] ∧ '\n' ∉ other) (body : Bytes) :
    find (newline ++ newline) (utf8 (['\n'].intercalate (line :: lines)) ++ 10 :: 10 :: body) =
      some (utf8 (['\n'].intercalate (line :: lines))).length := by
  have hnewline {other : List Char} (hother : '\n' ∉ other) : (10 : UInt8) ∉ utf8 other := by
    rwa [separator_mem_utf8_iff (c := '\n') (by decide) (by decide)]
  show find [10, 10] _ = _
  induction lines generalizing line with
  | nil =>
      rw [List.intercalate_singleton,
        find_append_of_head_not_mem (hnewline (h line List.mem_cons_self).2), find,
        if_pos ⟨body, rfl⟩, Option.map_some, Nat.zero_add]
  | cons next lines ih =>
      have hnext := h next (List.mem_cons_of_mem line List.mem_cons_self)
      have hrest := ih fun other hmem => h other (List.mem_cons_of_mem line hmem)
      obtain ⟨after, hafter⟩ := exists_intercalate_cons next lines
      -- The separator is followed by a line that does not begin with another one.
      have hsingle (rest : Bytes) : ¬ [10, 10] <+: 10 :: (utf8 next ++ rest) := by
        intro hprefix
        obtain ⟨byte, more, hcons⟩ := List.exists_cons_of_ne_nil (utf8_ne_nil hnext.1)
        rw [hcons] at hprefix
        have hbyte := (List.cons_prefix_cons.mp (List.cons_prefix_cons.mp hprefix).2).1
        exact hnewline hnext.2 (by rw [hcons, hbyte]; exact List.mem_cons_self)
      have hnot : ¬ [10, 10] <+:
          10 :: (utf8 (['\n'].intercalate (next :: lines)) ++ 10 :: 10 :: body) := by
        rw [hafter, utf8_append, List.append_assoc]
        exact hsingle _
      rw [List.intercalate_cons_cons, utf8_append, utf8_append, utf8_newline, List.append_assoc,
        List.append_assoc, find_append_of_head_not_mem (hnewline (h line List.mem_cons_self).2)]
      show (find [10, 10] (10 :: (utf8 (['\n'].intercalate (next :: lines)) ++ _))).map _ = _
      rw [find, if_neg hnot, hrest]
      simp only [Option.map_some, List.length_append, List.length_singleton]
      congr 1
      omega

/-- A header line is cut at its first colon, which is the one after the key. -/
theorem addHeader_headerLine {headers : Dict String String} {header : String × String}
    (hkey : ':' ∉ header.1.toList) (hnew : header.1 ∉ headers.keys) :
    addHeader headers (headerLine header) = headers.set header.1 header.2 := by
  have hcolon : ':' ∈ headerLine header :=
    List.mem_append_right header.1.toList List.mem_cons_self
  have hbefore : ∀ c ∈ header.1.toList, decide (c ≠ ':') = true := by
    intro c hc
    rw [decide_eq_true_eq]
    intro heq
    exact hkey (heq ▸ hc)
  have htake : (headerLine header).takeWhile (· ≠ ':') = header.1.toList := by
    rw [headerLine, List.takeWhile_append_of_pos hbefore]
    simp
  have hdrop : ((headerLine header).dropWhile (· ≠ ':')).drop 1 = header.2.toList := by
    rw [headerLine, List.dropWhile_append_of_pos hbefore]
    simp
  rw [addHeader, if_pos hcolon, htake, hdrop]
  simp only [String.ofList_toList]
  rw [if_pos (Dict.get?_eq_none_iff.mpr hnew)]

theorem entries_foldl_addHeader {added : List (String × String)} {headers : Dict String String}
    (hkeys : ∀ header ∈ added, ':' ∉ header.1.toList)
    (hnodup : ((headers.entries ++ added).map Prod.fst).Nodup) :
    ((added.map headerLine).foldl addHeader headers).entries = headers.entries ++ added := by
  induction added generalizing headers with
  | nil => exact (List.append_nil headers.entries).symm
  | cons header added ih =>
      have hnew : header.1 ∉ headers.keys := by
        intro hmem
        rw [List.map_append, List.nodup_append] at hnodup
        exact hnodup.2.2 header.1 hmem header.1 (List.mem_map_of_mem List.mem_cons_self) rfl
      have hset := Dict.entries_set_of_not_mem header.2 hnew
      rw [List.map_cons, List.foldl_cons,
        addHeader_headerLine (hkeys header List.mem_cons_self) hnew,
        ih (fun other hmem => hkeys other (List.mem_cons_of_mem header hmem))
          (by rw [hset, List.append_assoc]; exact hnodup),
        hset, List.append_assoc]
      rfl

theorem not_mem_intercalate {c : Char} (hc : c ≠ '\n') {lines : List (List Char)}
    (h : ∀ line ∈ lines, c ∉ line) : c ∉ ['\n'].intercalate lines := by
  induction lines with
  | nil => exact List.not_mem_nil
  | cons line lines ih =>
      have hrest := ih fun other hmem => h other (List.mem_cons_of_mem line hmem)
      have hline := h line List.mem_cons_self
      cases lines with
      | nil => rwa [List.intercalate_singleton]
      | cons next lines =>
          rw [List.intercalate_cons_cons, List.append_assoc]
          intro hmem
          rcases List.mem_append.mp hmem with hfirst | hmem
          · exact hline hfirst
          · rcases List.mem_cons.mp hmem with heq | hlater
            · exact hc heq
            · exact hrest hlater

/-- The terminator of a frame is its only zero byte. -/
theorem StompFrame.WellFormed.null_not_mem {frame : StompFrame} (h : frame.WellFormed) :
    0 ∉ frame.content := by
  have hjoined : '\x00' ∉ ['\n'].intercalate frame.lines :=
    not_mem_intercalate (by decide) fun line hline => (h.line_chars hline).2.2
  intro hmem
  rcases List.mem_append.mp hmem with hhead | hrest
  · exact hjoined ((separator_mem_utf8_iff (by decide) (by decide)).mp hhead)
  · rcases List.mem_cons.mp hrest with heq | hrest
    · exact absurd heq (by decide)
    · rcases List.mem_cons.mp hrest with heq | hbody
      · exact absurd heq (by decide)
      · exact h.body_bytes hbody

/-- Nothing is stripped off the front of a frame: its command begins with no space. -/
theorem StompFrame.WellFormed.lstripNewlines_eq {frame : StompFrame} (h : frame.WellFormed)
    (rest : Bytes) : lstripNewlines (frame.content ++ rest) = frame.content ++ rest := by
  obtain ⟨c, text, hcommand⟩ := List.exists_cons_of_ne_nil h.command_ne
  have hspace : isSpace c = false := head_of_strip_eq (hcommand ▸ h.command_trimmed)
  obtain ⟨byte, more, hencoded⟩ :=
    List.exists_cons_of_ne_nil (String.utf8EncodeChar_ne_nil (c := c))
  have hbyte : byte ∈ String.utf8EncodeChar c := hencoded ▸ List.mem_cons_self
  have hother {other : UInt8} (hsmall : other.toNat < 128)
      (hcode : ∀ d : Char, d.toNat = other.toNat → isSpace d = true) : byte ≠ other := by
    intro heq
    rw [heq, mem_utf8EncodeChar_iff hsmall] at hbyte
    rw [hcode c hbyte] at hspace
    cases hspace
  have hlf : byte ≠ 10 := hother (by decide) fun d hd => by simp [isSpace, hd]
  have hcr : byte ≠ 13 := hother (by decide) fun d hd => by simp [isSpace, hd]
  obtain ⟨after, hafter⟩ := exists_intercalate_cons frame.command.toList
    (frame.headers.entries.map headerLine)
  have hfront : ∃ tail, frame.content ++ rest = byte :: tail := by
    refine ⟨more ++ utf8 text ++ utf8 after ++ 10 :: 10 :: frame.body ++ rest, ?_⟩
    rw [StompFrame.content, StompFrame.lines, hafter, hcommand, utf8_append, utf8_cons, hencoded]
    simp only [List.append_assoc, List.cons_append]
  obtain ⟨tail, htail⟩ := hfront
  rw [htail, lstripNewlines, List.dropWhile_cons, if_neg]
  simp [hlf, hcr]

/-- Parsing undoes encoding. -/
theorem StompFrame.WellFormed.parse {frame : StompFrame} (h : frame.WellFormed) :
    parseFrame (frame.content ++ null) = some frame := by
  have hstrip : lstripNewlines (frame.content ++ null) = frame.content ++ null :=
    h.lstripNewlines_eq null
  have hne : frame.content ++ null ≠ [] :=
    List.append_ne_nil_of_right_ne_nil frame.content (List.cons_ne_nil 0 [])
  have hnull : find null (frame.content ++ null) = some frame.content.length :=
    find_singleton_append h.null_not_mem []
  have hblank : find (newline ++ newline) frame.content =
      some (utf8 (['\n'].intercalate frame.lines)).length :=
    find_blankLine (fun line hline => ⟨(h.line_chars hline).1, (h.line_chars hline).2.1⟩)
      frame.body
  have hlines : (['\n'].intercalate frame.lines).splitOn '\n' = frame.lines :=
    List.splitOn_intercalate '\n' (fun line hline => (h.line_chars hline).2.1)
      (List.cons_ne_nil _ _)
  have hheaders : (frame.headers.entries.map headerLine).foldl addHeader Dict.empty =
      frame.headers :=
    Dict.ext_entries (entries_foldl_addHeader
      (fun header hmem hc => (h.key_chars header hmem _ hc).1 rfl) frame.headers.nodup)
  have hbody : frame.content.drop ((utf8 (['\n'].intercalate frame.lines)).length + 2) =
      frame.body := by
    rw [StompFrame.content, List.drop_append, List.drop_eq_nil_of_le (by omega),
      Nat.add_sub_cancel_left]
    rfl
  have hhead : frame.content.take (utf8 (['\n'].intercalate frame.lines)).length =
      utf8 (['\n'].intercalate frame.lines) := List.take_left' rfl
  rw [parseFrame, if_neg hne, hstrip]
  simp only [hne, if_false, hnull, List.take_left', hblank, hhead, decodeReplace_utf8, hlines,
    hbody]
  simp only [StompFrame.lines, List.headD_cons, List.tail_cons, h.command_trimmed, hheaders,
    String.ofList_toList]

/-! ## The receive loop -/

inductive Heartbeat where
  | lf
  | crlf

def Heartbeat.toBytes : Heartbeat → Bytes
  | lf => [10]
  | crlf => [13, 10]

def heartbeatBytes (beats : List Heartbeat) : Bytes := beats.flatMap Heartbeat.toBytes

/-- A frame on the wire, with the heartbeats in front of it. -/
structure Delivery where
  heartbeats : List Heartbeat
  frame : StompFrame
  wellFormed : frame.WellFormed

def Delivery.toBytes (delivery : Delivery) : Bytes :=
  heartbeatBytes delivery.heartbeats ++ delivery.frame.encode

/-- A WebSocket message: `ws.recv()` returns bytes or text. -/
inductive Chunk where
  | binary (data : Bytes)
  | text (data : String)

/-- `chunk if isinstance(chunk, bytes) else chunk.encode("utf-8")` -/
def Chunk.toBytes : Chunk → Bytes
  | binary data => data
  | text data => utf8 data.toList

/-- The receive loop from an empty `buf`: all frames pulled out, and the `buf` at the end. -/
def recvAll (chunks : List Chunk) : List StompFrame × Bytes :=
  feed splitFrames [] (chunks.map Chunk.toBytes)

/-- The frames of which every byte is among the first `received` of the stream. -/
def completed : List Delivery → Nat → List StompFrame
  | [], _ => []
  | delivery :: rest, received =>
      if delivery.toBytes.length ≤ received then
        delivery.frame :: completed rest (received - delivery.toBytes.length)
      else []

/-- The chunks only matter through the bytes they carry. -/
theorem recvAll_eq (chunks : List Chunk) :
    recvAll chunks = splitFrames (chunks.flatMap Chunk.toBytes) := by
  have hcarry : splitFrames [] = ([], []) := splitFrames_nil
  rw [recvAll, splitFrames_spliced.feed_eq hcarry, List.nil_append, List.flatMap_def]

theorem heartbeat_bytes {beats : List Heartbeat} {byte : UInt8}
    (h : byte ∈ heartbeatBytes beats) : byte = 10 ∨ byte = 13 := by
  obtain ⟨beat, -, hbyte⟩ := List.mem_flatMap.mp h
  cases beat with
  | lf => exact .inl (List.mem_singleton.mp hbyte)
  | crlf =>
      rcases List.mem_cons.mp hbyte with hcr | hlf
      · exact .inr hcr
      · exact .inl (List.mem_singleton.mp hlf)

theorem lstripNewlines_heartbeats (beats : List Heartbeat) :
    lstripNewlines (heartbeatBytes beats) = [] := by
  refine List.dropWhile_eq_nil_iff.mpr fun byte hbyte => ?_
  rcases heartbeat_bytes hbyte with heq | heq <;> rw [heq] <;> rfl

theorem null_not_mem_heartbeats (beats : List Heartbeat) : 0 ∉ heartbeatBytes beats := by
  intro hmem
  rcases heartbeat_bytes hmem with heq | heq <;> exact absurd heq (by decide)

/-- A complete delivery yields its frame and nothing else. -/
theorem splitFrames_delivery (delivery : Delivery) (rest : Bytes) :
    splitFrames (delivery.toBytes ++ rest) =
      (delivery.frame :: (splitFrames rest).1, (splitFrames rest).2) := by
  have hwell := delivery.wellFormed
  have hstripped : lstripNewlines (delivery.toBytes ++ rest) =
      delivery.frame.content ++ 0 :: rest := by
    rw [Delivery.toBytes, StompFrame.encode_eq, List.append_assoc,
      lstripNewlines_append_of_eq (lstripNewlines_heartbeats _), List.append_assoc,
      hwell.lstripNewlines_eq]
    rfl
  rw [splitFrames_terminated hstripped hwell.null_not_mem, hwell.parse]
  rfl

/-- What has arrived of a stream yields the frames that are complete, and no others. -/
theorem splitFrames_prefix (deliveries : List Delivery) (trailing : List Heartbeat)
    {arrived : Bytes}
    (h : arrived <+: deliveries.flatMap Delivery.toBytes ++ heartbeatBytes trailing) :
    (splitFrames arrived).1 = completed deliveries arrived.length := by
  induction deliveries generalizing arrived with
  | nil =>
      have hnull : 0 ∉ arrived := fun hmem => null_not_mem_heartbeats trailing (h.subset hmem)
      rw [splitFrames_incomplete hnull]
      rfl
  | cons delivery rest ih =>
      rw [List.flatMap_cons, List.append_assoc] at h
      rw [completed]
      split
      · next hlength =>
          -- The first delivery is all there; the rest is a shorter stream.
          obtain ⟨later, rfl⟩ : delivery.toBytes <+: arrived :=
            List.prefix_of_prefix_length_le (List.prefix_append _ _) h hlength
          have hlater := (List.prefix_append_right_inj delivery.toBytes).mp h
          rw [splitFrames_delivery, ih hlater, List.length_append, Nat.add_sub_cancel_left]
      · next hlength =>
          -- The terminator is the last byte of the delivery, and has not arrived.
          have hfront : arrived <+: heartbeatBytes delivery.heartbeats ++
              delivery.frame.content := by
            have hbytes : delivery.toBytes = (heartbeatBytes delivery.heartbeats ++
                delivery.frame.content) ++ [0] := by
              rw [Delivery.toBytes, StompFrame.encode_eq, List.append_assoc]
              rfl
            rw [hbytes, List.length_append, List.length_singleton] at hlength
            rw [hbytes, List.append_assoc] at h
            exact List.prefix_of_prefix_length_le h (List.prefix_append _ _) (by omega)
          have hnull : 0 ∉ arrived := by
            intro hmem
            rcases List.mem_append.mp (hfront.subset hmem) with hbeat | hcontent
            · exact null_not_mem_heartbeats _ hbeat
            · exact delivery.wellFormed.null_not_mem hcontent
          rw [splitFrames_incomplete hnull]

/-- The complete stream leaves nothing over. -/
theorem splitFrames_stream (deliveries : List Delivery) (trailing : List Heartbeat) :
    splitFrames (deliveries.flatMap Delivery.toBytes ++ heartbeatBytes trailing) =
      (deliveries.map Delivery.frame, []) := by
  induction deliveries with
  | nil => exact splitFrames_newlines (lstripNewlines_heartbeats trailing)
  | cons delivery rest ih =>
      rw [List.flatMap_cons, List.append_assoc, splitFrames_delivery, ih]
      rfl

/-- However a stream of frames and heartbeats is cut into chunks: after any number of them the
receive loop has pulled out the frames whose last byte has arrived, at the end it has
pulled out exactly the frames sent and nothing is left, and other cuts change nothing. -/
theorem stream_codec (deliveries : List Delivery) (trailing : List Heartbeat)
    (received later : List Chunk)
    (hstream : (received ++ later).flatMap Chunk.toBytes =
      deliveries.flatMap Delivery.toBytes ++ heartbeatBytes trailing) :
    (recvAll received).1 = completed deliveries (received.flatMap Chunk.toBytes).length ∧
      recvAll (received ++ later) = (deliveries.map Delivery.frame, []) ∧
      ∀ others : List Chunk, others.flatMap Chunk.toBytes = received.flatMap Chunk.toBytes →
        recvAll others = recvAll received := by
  refine ⟨?_, ?_, fun others hsame => ?_⟩
  · rw [recvAll_eq]
    refine splitFrames_prefix deliveries trailing ?_
    rw [← hstream, List.flatMap_append]
    exact List.prefix_append _ _
  · rw [recvAll_eq, hstream, splitFrames_stream]
  · rw [recvAll_eq, recvAll_eq, hsame]

/-- A frame with a colon in a header value and blank lines in its body. -/
def messageFrame : StompFrame :=
  ⟨"MESSAGE", ⟨[("café", "a:b")], by decide⟩, [10, 10, 65, 13]⟩

theorem messageFrame_wellFormed : messageFrame.WellFormed where
  command_ne := by decide
  command_trimmed := by decide
  command_chars := by simp [messageFrame]
  key_ne := by simp [messageFrame]
  key_chars := by simp [messageFrame]
  value_chars := by simp [messageFrame]
  body_bytes := by simp [messageFrame]

def messageDelivery : Delivery := ⟨[.crlf, .lf], messageFrame, messageFrame_wellFormed⟩

/-- The stream of one message after two heartbeats, cut inside its two-byte character. -/
theorem message_cut_inside_character :
    let first : List Chunk := [.binary [13], .text "\n\nMESSAGE\ncaf", .binary [0xC3]]
    let second : List Chunk := [.binary [0xA9], .text ":a:b\n\n\n\nA\r\x00\n"]
    (recvAll first).1 = [] ∧ recvAll (first ++ second) = ([messageFrame], []) := by
  intro first second
  have hstream : (first ++ second).flatMap Chunk.toBytes =
      [messageDelivery].flatMap Delivery.toBytes ++ heartbeatBytes [.lf] := by decide
  have hrun := stream_codec [messageDelivery] [.lf] first second hstream
  have hshort : ¬ messageDelivery.toBytes.length ≤ (first.flatMap Chunk.toBytes).length := by
    decide
  exact ⟨by rw [hrun.1, completed, if_neg hshort], hrun.2.1⟩

end IsePortal.Stomp
