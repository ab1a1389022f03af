import Mathlib.Data.List.Basic
import IsePortal.Platform.Bytes

/-!
# Form-encoded texts in a URL

`URLSearchParams` of the browser: `toString`, and what the constructor makes of a text. The bytes of
a serialized list are ASCII, so the fragment of a URL keeps them as they are, and parsing undoes
serializing (`parseForm_serializeForm`).
-/

namespace IsePortal.UrlEncoded

/-- The hexadecimal digit of a number below 16. -/
def hexByte (n : Nat) : UInt8 := UInt8.ofNat (if n < 10 then 48 + n else 55 + n)

/-- The value of a hexadecimal digit. -/
def hexValue (byte : UInt8) : Option Nat :=
  let n := byte.toNat
  if 48 ≤ n ∧ n ≤ 57 then some (n - 48)
  else if 65 ≤ n ∧ n ≤ 70 then some (n - 55)
  else if 97 ≤ n ∧ n ≤ 102 then some (n - 87)
  else none

/-- A byte as `%XX`. -/
def percentByte (byte : UInt8) : Bytes := [37, hexByte (byte.toNat / 16), hexByte (byte.toNat % 16)]

/-- The bytes that stand for themselves: letters, digits and `*-._`. -/
def isPlain (byte : UInt8) : Bool :=
  let n := byte.toNat
  (48 ≤ n && n ≤ 57) || (65 ≤ n && n ≤ 90) || (97 ≤ n && n ≤ 122) || n == 42 || n == 45 ||
    n == 46 || n == 95

/-- One byte of a name or a value: a space is written `+`. -/
def formByte (byte : UInt8) : Bytes :=
  if byte = 32 then [43] else if isPlain byte then [byte] else percentByte byte

/-- A name or a value. -/
def formText (text : String) : Bytes := (utf8 text.toList).flatMap formByte

/-- `name=value` -/
def formPair (entry : String × String) : Bytes := formText entry.1 ++ 61 :: formText entry.2

/-- `URLSearchParams.toString`, as bytes. -/
def serializeForm (entries : List (String × String)) : Bytes :=
  List.intercalate [38] (entries.map formPair)

/-- Replace `%XX` by the byte. -/
def percentDecode : Bytes → Bytes
  | 37 :: high :: low :: rest =>
      match hexValue high, hexValue low with
      | some h, some l => UInt8.ofNat (16 * h + l) :: percentDecode rest
      | _, _ => 37 :: percentDecode (high :: low :: rest)
  | byte :: rest => byte :: percentDecode rest
  | [] => []

/-- What a name or a value stands for. -/
def readText (raw : Bytes) : String :=
  String.ofList (decodeReplace (percentDecode (raw.map fun byte => if byte = 43 then 32 else byte)))

/-- What `name=value` stands for; without `=` all of it is the name. -/
def readPair (raw : Bytes) : String × String :=
  (readText (raw.takeWhile (· ≠ 61)), readText ((raw.dropWhile (· ≠ 61)).drop 1))

/-- The entries of a serialized text. -/
def parseForm (raw : Bytes) : List (String × String) :=
  ((raw.splitOn 38).filter (· ≠ [])).map readPair

/-- `new URLSearchParams(text)` takes a question mark off the front. -/
def urlSearchParams (text : List Char) : List (String × String) :=
  parseForm (utf8 (if text.head? = some '?' then text.tail else text))

/-- ASCII bytes as a text. -/
def urlText (raw : Bytes) : List Char := raw.map fun byte => Char.ofNat byte.toNat

/-- The characters that the fragment of a URL does not keep. -/
def fragmentEscapes (c : Char) : Bool :=
  c.toNat ≤ 32 || 126 < c.toNat || c == '"' || c == '<' || c == '>' || c == Char.ofNat 96

/-- `location.hash` once a URL is opened: the fragment with its number sign, escaped, or nothing. -/
def locationHash (url : List Char) : List Char :=
  match url.dropWhile (· ≠ '#') with
  | [] | ['#'] => []
  | fragment => fragment.flatMap fun c =>
      if fragmentEscapes c then urlText ((utf8 [c]).flatMap percentByte) else [c]

/-! ## Bytes -/

theorem hexValue_hexByte : ∀ n < 16, hexValue (hexByte n) = some n ∧ hexByte n ≠ 43 ∧
    isPlain (hexByte n) = true := by decide

theorem isPlain_bounds {byte : UInt8} (h : isPlain byte = true) :
    byte ≠ 37 ∧ byte ≠ 43 ∧ byte ≠ 38 ∧ byte ≠ 61 ∧ byte ≠ 32 := by
  refine ⟨?_, ?_, ?_, ?_, ?_⟩ <;> (rintro rfl; revert h; decide)

/-- The bytes that occur in a name or a value. -/
theorem mem_formByte {byte out : UInt8} (h : out ∈ formByte byte) :
    isPlain out = true ∨ out = 43 ∨ out = 37 := by
  unfold formByte at h
  split at h
  · exact .inr (.inl (List.mem_singleton.mp h))
  · split at h
    · rw [List.mem_singleton.mp h]
      exact .inl ‹_›
    · have hsize := byte.toNat_lt
      rcases List.mem_cons.mp h with rfl | h
      · exact .inr (.inr rfl)
      · rcases List.mem_cons.mp h with rfl | h
        · exact .inl (hexValue_hexByte _ (by omega)).2.2
        · rw [List.mem_singleton.mp h]
          exact .inl (hexValue_hexByte _ (by omega)).2.2

theorem percentDecode_cons {byte : UInt8} (h : byte ≠ 37) (rest : Bytes) :
    percentDecode (byte :: rest) = byte :: percentDecode rest := by
  rw [percentDecode]
  rintro high low rest rfl
  exact absurd rfl h

theorem percentDecode_percentByte (byte : UInt8) (rest : Bytes) :
    percentDecode (percentByte byte ++ rest) = byte :: percentDecode rest := by
  have hsize : byte.toNat < 256 := byte.toNat_lt
  have hhigh := (hexValue_hexByte (byte.toNat / 16) (by omega)).1
  have hlow := (hexValue_hexByte (byte.toNat % 16) (by omega)).1
  show percentDecode (37 :: hexByte _ :: hexByte _ :: rest) = _
  rw [percentDecode]
  simp only [hhigh, hlow]
  rw [Nat.div_add_mod, UInt8.ofNat_toNat]

/-- The plus signs of a text read as spaces. -/
def spaced (raw : Bytes) : Bytes := raw.map fun byte => if byte = 43 then 32 else byte

theorem spaced_append (first second : Bytes) :
    spaced (first ++ second) = spaced first ++ spaced second := List.map_append

/-- A written byte is read back. -/
theorem percentDecode_spaced_formByte (byte : UInt8) (rest : Bytes) :
    percentDecode (spaced (formByte byte) ++ rest) = byte :: percentDecode rest := by
  unfold formByte
  split
  case isTrue hspace =>
      subst hspace
      exact percentDecode_cons (by decide) rest
  case isFalse hspace =>
      split
      case isTrue hplain =>
          have hsame : spaced [byte] = [byte] := by
            simp [spaced, (isPlain_bounds hplain).2.1]
          rw [hsame]
          exact percentDecode_cons (isPlain_bounds hplain).1 rest
      case isFalse hplain =>
          have hsize : byte.toNat < 256 := byte.toNat_lt
          have hhigh := (hexValue_hexByte (byte.toNat / 16) (by omega)).2.1
          have hlow := (hexValue_hexByte (byte.toNat % 16) (by omega)).2.1
          have hsame : spaced (percentByte byte) = percentByte byte := by
            simp [spaced, percentByte, hhigh, hlow]
          rw [hsame]
          exact percentDecode_percentByte byte rest

theorem percentDecode_spaced (raw : Bytes) :
    percentDecode (spaced (raw.flatMap formByte)) = raw := by
  induction raw with
  | nil => rfl
  | cons byte rest ih =>
      rw [List.flatMap_cons, spaced_append, percentDecode_spaced_formByte, ih]

/-- A written name or value is read back. -/
theorem readText_formText (text : String) : readText (formText text) = text := by
  have hbytes := percentDecode_spaced (utf8 text.toList)
  unfold spaced at hbytes
  rw [readText, formText, hbytes, decodeReplace_utf8, String.ofList_toList]

/-! ## Entries -/

theorem mem_formText {text : String} {byte : UInt8} (h : byte ∈ formText text) :
    isPlain byte = true ∨ byte = 43 ∨ byte = 37 := by
  obtain ⟨source, -, hmem⟩ := List.mem_flatMap.mp h
  exact mem_formByte hmem

theorem separator_not_mem_formText (text : String) : (38 : UInt8) ∉ formText text ∧
    (61 : UInt8) ∉ formText text := by
  refine ⟨fun h => ?_, fun h => ?_⟩ <;> rcases mem_formText h with hplain | heq | heq <;>
    first | exact absurd hplain (by decide) | exact absurd heq (by decide)

theorem readPair_formPair (entry : String × String) : readPair (formPair entry) = entry := by
  have hname : ∀ byte ∈ formText entry.1, decide (byte ≠ 61) = true := by
    intro byte hbyte
    rw [decide_eq_true_iff]
    rintro rfl
    exact (separator_not_mem_formText entry.1).2 hbyte
  rw [readPair, formPair, List.takeWhile_append_of_pos hname, List.dropWhile_append_of_pos hname]
  simp [readText_formText]

theorem separator_not_mem_formPair (entry : String × String) : (38 : UInt8) ∉ formPair entry := by
  rw [formPair, List.mem_append, List.mem_cons]
  rintro (h | h | h)
  · exact (separator_not_mem_formText _).1 h
  · exact absurd h (by decide)
  · exact (separator_not_mem_formText _).1 h

theorem formPair_ne_nil (entry : String × String) : formPair entry ≠ [] :=
  List.append_ne_nil_of_right_ne_nil _ (List.cons_ne_nil _ _)

/-- Parsing undoes serializing. -/
theorem parseForm_serializeForm (entries : List (String × String)) :
    parseForm (serializeForm entries) = entries := by
  cases entries with
  | nil => rfl
  | cons entry rest =>
      have hpieces : ∀ piece ∈ (entry :: rest).map formPair, (38 : UInt8) ∉ piece := by
        intro piece hpiece
        obtain ⟨source, -, rfl⟩ := List.mem_map.mp hpiece
        exact separator_not_mem_formPair source
      have hfull : ∀ piece ∈ (entry :: rest).map formPair, decide (piece ≠ []) = true := by
        intro piece hpiece
        obtain ⟨source, -, rfl⟩ := List.mem_map.mp hpiece
        exact decide_eq_true (formPair_ne_nil source)
      rw [parseForm, serializeForm, List.splitOn_intercalate 38 hpieces (by simp),
        List.filter_eq_self.mpr hfull, List.map_map]
      exact (List.map_congr_left fun source _ => readPair_formPair source).trans (List.map_id _)

/-! ## In a URL -/

/-- The bytes of a serialized list. -/
def isFormByte (byte : UInt8) : Bool := isPlain byte || byte == 43 || byte == 37 || byte == 61 ||
  byte == 38

theorem isFormByte_of_mem_formText {text : String} {byte : UInt8} (h : byte ∈ formText text) :
    isFormByte byte = true := by
  rcases mem_formText h with hplain | rfl | rfl
  · simp [isFormByte, hplain]
  · rfl
  · rfl

theorem isFormByte_of_mem_formPair {entry : String × String} {byte : UInt8}
    (h : byte ∈ formPair entry) : isFormByte byte = true := by
  rcases List.mem_append.mp h with hname | h
  · exact isFormByte_of_mem_formText hname
  · rcases List.mem_cons.mp h with rfl | hvalue
    · rfl
    · exact isFormByte_of_mem_formText hvalue

theorem mem_serializeForm {entries : List (String × String)} {byte : UInt8}
    (h : byte ∈ serializeForm entries) : isFormByte byte = true := by
  induction entries with
  | nil => cases h
  | cons entry rest ih =>
      cases rest with
      | nil =>
          rw [serializeForm, List.map_singleton, List.intercalate_singleton] at h
          exact isFormByte_of_mem_formPair h
      | cons next rest =>
          rw [serializeForm, List.map_cons, List.map_cons, List.intercalate_cons_cons] at h
          rcases List.mem_append.mp h with h | hrest
          · rcases List.mem_append.mp h with hentry | hsep
            · exact isFormByte_of_mem_formPair hentry
            · rw [List.mem_singleton.mp hsep]
              rfl
          · exact ih hrest

set_option maxRecDepth 4000 in
/-- These bytes are ASCII, and a fragment keeps their characters. -/
theorem fragment_keeps : ∀ n < 128, isFormByte (UInt8.ofNat n) = true →
    fragmentEscapes (Char.ofNat n) = false ∧ Char.ofNat n ≠ '?' := by decide

set_option maxRecDepth 4000 in
theorem utf8EncodeChar_ofNat : ∀ n < 128,
    String.utf8EncodeChar (Char.ofNat n) = [UInt8.ofNat n] := by decide

theorem lt_of_isFormByte {byte : UInt8} (h : isFormByte byte = true) : byte.toNat < 128 := by
  simp only [isFormByte, isPlain, Bool.or_eq_true, Bool.and_eq_true, decide_eq_true_eq,
    beq_iff_eq] at h
  rcases h with (((h | rfl) | rfl) | rfl) | rfl
  · omega
  all_goals decide

theorem isFormByte_char {byte : UInt8} (h : isFormByte byte = true) :
    fragmentEscapes (Char.ofNat byte.toNat) = false ∧ Char.ofNat byte.toNat ≠ '?' := by
  refine fragment_keeps byte.toNat (lt_of_isFormByte h) ?_
  rw [UInt8.ofNat_toNat]
  exact h

theorem utf8_urlText {raw : Bytes} (h : ∀ byte ∈ raw, byte.toNat < 128) :
    utf8 (urlText raw) = raw := by
  induction raw with
  | nil => rfl
  | cons byte rest ih =>
      rw [urlText, List.map_cons, utf8_cons,
        utf8EncodeChar_ofNat byte.toNat (h byte List.mem_cons_self), UInt8.ofNat_toNat]
      exact congrArg (byte :: ·) (ih fun other hother => h other (List.mem_cons_of_mem _ hother))

/-- What was serialized is read back from the text. -/
theorem urlSearchParams_serializeForm (entries : List (String × String)) :
    urlSearchParams (urlText (serializeForm entries)) = entries := by
  have hhead : (urlText (serializeForm entries)).head? ≠ some '?' := by
    cases hraw : serializeForm entries with
    | nil => simp [urlText]
    | cons byte rest =>
        have hform := mem_serializeForm (hraw ▸ List.mem_cons_self)
        simpa [urlText] using (isFormByte_char hform).2
  rw [urlSearchParams, if_neg hhead,
    utf8_urlText fun byte hbyte => lt_of_isFormByte (mem_serializeForm hbyte),
    parseForm_serializeForm]

theorem fragment_keeps_serializeForm {entries : List (String × String)} {c : Char}
    (h : c ∈ urlText (serializeForm entries)) : fragmentEscapes c = false := by
  obtain ⟨byte, hbyte, rfl⟩ := List.mem_map.mp h
  exact (isFormByte_char (mem_serializeForm hbyte)).1

/-- A fragment that needs no escapes is the hash of the URL. -/
theorem locationHash_append {base fragment : List Char} (hbase : '#' ∉ base) (hne : fragment ≠ [])
    (hkeeps : ∀ c ∈ fragment, fragmentEscapes c = false) :
    locationHash (base ++ '#' :: fragment) = '#' :: fragment := by
  have hskip : ∀ c ∈ base, decide (c ≠ '#') = true := by
    intro c hc
    rw [decide_eq_true_iff]
    rintro rfl
    exact hbase hc
  have hdrop : (base ++ '#' :: fragment).dropWhile (· ≠ '#') = '#' :: fragment := by
    rw [List.dropWhile_append_of_pos hskip]
    rfl
  have hall : ∀ c ∈ '#' :: fragment, fragmentEscapes c = false := by
    rintro c hc
    rcases List.mem_cons.mp hc with rfl | hc
    · rfl
    · exact hkeeps c hc
  have hflat : ∀ text : List Char, (∀ c ∈ text, fragmentEscapes c = false) →
      (text.flatMap fun c =>
        if fragmentEscapes c then urlText ((utf8 [c]).flatMap percentByte) else [c]) = text := by
    intro text htext
    refine (List.flatMap_congr fun c hc => ?_).trans (List.flatMap_singleton' text)
    simp [htext c hc]
  rw [locationHash, hdrop]
  split
  case h_1 h => cases h
  case h_2 h => exact absurd (List.cons.inj h).2 hne
  case h_3 => exact hflat _ hall

end IsePortal.UrlEncoded
