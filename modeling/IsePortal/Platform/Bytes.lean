import Mathlib.Data.List.TakeWhile

/-!
# Bytes and their text

`str.encode("utf-8")`, `bytes.decode("utf-8", errors="replace")`, `bytes.lstrip` and
`str.strip` of the Python runtime. A byte below 128 occurs in an encoded character only when
it is that character (`mem_utf8EncodeChar_iff`), so a separator is never found inside one, and
decoding undoes encoding (`decodeReplace_utf8`).
-/

namespace IsePortal

abbrev Bytes := List UInt8

/-- `str.encode("utf-8")`, on the characters of a text without surrogates. -/
def utf8 (text : List Char) : Bytes := text.flatMap String.utf8EncodeChar

/-- The second bytes that may follow the first byte of a longer character. -/
def secondByteFits (first second : UInt8) : Bool :=
  if first = 0xE0 then 0xA0 ≤ second && second ≤ 0xBF
  else if first = 0xED then 0x80 ≤ second && second ≤ 0x9F
  else if first = 0xF0 then 0x90 ≤ second && second ≤ 0xBF
  else if first = 0xF4 then 0x80 ≤ second && second ≤ 0x8F
  else 0xE1 ≤ first && first ≤ 0xF3 && 0x80 ≤ second && second ≤ 0xBF

/-- How many bytes at the front of an undecodable text one replacement character stands for:
the longest part that could still have begun a character. -/
def replacedBytes : Bytes → Nat
  | first :: second :: rest =>
      if secondByteFits first second then
        match rest with
        | third :: _ =>
            if 0xF0 ≤ first && 0x80 ≤ third && third ≤ 0xBF then 3 else 2
        | [] => 2
      else 1
  | _ => 1

/-- Decode, with the given number of bytes still belonging to the character before. -/
def decodeFrom : Nat → Bytes → List Char
  | _, [] => []
  | skip + 1, _ :: rest => decodeFrom skip rest
  | 0, byte :: rest =>
      match (byte :: rest).toByteArray.utf8DecodeChar? 0 with
      | some c => c :: decodeFrom (c.utf8Size - 1) rest
      | none => '\uFFFD' :: decodeFrom (replacedBytes (byte :: rest) - 1) rest

/-- `bytes.decode("utf-8", errors="replace")` -/
def decodeReplace (raw : Bytes) : List Char := decodeFrom 0 raw

/-- The characters `str.strip()` takes off both ends. -/
def isSpace (c : Char) : Bool :=
  let code := c.toNat
  (9 ≤ code && code ≤ 13) || (28 ≤ code && code ≤ 32) || code == 0x85 || code == 0xA0 ||
    code == 0x1680 || (0x2000 ≤ code && code ≤ 0x200A) || code == 0x2028 || code == 0x2029 ||
    code == 0x202F || code == 0x205F || code == 0x3000

/-- `str.strip()` -/
def strip (text : List Char) : List Char :=
  ((text.dropWhile isSpace).reverse.dropWhile isSpace).reverse

/-- `bytes.lstrip(b"\n\r")` -/
def lstripNewlines (raw : Bytes) : Bytes := raw.dropWhile fun byte => byte = 10 || byte = 13

/-! ## Encoding and decoding -/

@[simp] theorem utf8_nil : utf8 [] = [] := rfl

@[simp] theorem utf8_append (a b : List Char) : utf8 (a ++ b) = utf8 a ++ utf8 b :=
  List.flatMap_append

theorem utf8_cons (c : Char) (text : List Char) :
    utf8 (c :: text) = String.utf8EncodeChar c ++ utf8 text := List.flatMap_cons

/-- The bytes of a longer character are all 128 or more. -/
theorem mem_utf8EncodeChar_iff {c : Char} {byte : UInt8} (hbyte : byte.toNat < 128) :
    byte ∈ String.utf8EncodeChar c ↔ c.toNat = byte.toNat := by
  fun_cases String.utf8EncodeChar with
  | case1 v hone =>
      simp only [List.mem_singleton, ← UInt8.toNat_inj, UInt8.toNat_ofNat']
      show _ ↔ v = _
      omega
  | case2 v hone htwo =>
      simp only [List.mem_cons, List.not_mem_nil, or_false, ← UInt8.toNat_inj,
        UInt8.toNat_ofNat']
      show _ ↔ v = _
      omega
  | case3 v hone htwo hthree =>
      simp only [List.mem_cons, List.not_mem_nil, or_false, ← UInt8.toNat_inj,
        UInt8.toNat_ofNat']
      show _ ↔ v = _
      omega
  | case4 v hone htwo hthree =>
      simp only [List.mem_cons, List.not_mem_nil, or_false, ← UInt8.toNat_inj,
        UInt8.toNat_ofNat']
      show _ ↔ v = _
      omega

theorem mem_utf8_iff {text : List Char} {byte : UInt8} (hbyte : byte.toNat < 128) :
    byte ∈ utf8 text ↔ ∃ c ∈ text, c.toNat = byte.toNat := by
  rw [utf8, List.mem_flatMap]
  refine exists_congr fun c => and_congr_right fun _ => ?_
  exact mem_utf8EncodeChar_iff hbyte

/-- An ASCII separator occurs in an encoded text exactly when it occurs in the text. -/
theorem separator_mem_utf8_iff {c : Char} {byte : UInt8} (hbyte : byte.toNat < 128)
    (hc : c.toNat = byte.toNat) {text : List Char} : byte ∈ utf8 text ↔ c ∈ text := by
  rw [mem_utf8_iff hbyte]
  constructor
  · rintro ⟨other, hother, hcode⟩
    rwa [Char.toNat_inj.mp (hc.trans hcode.symm)]
  · exact fun hmem => ⟨c, hmem, hc⟩

theorem utf8_ne_nil {text : List Char} (h : text ≠ []) : utf8 text ≠ [] := by
  obtain ⟨c, rest, rfl⟩ := List.exists_cons_of_ne_nil h
  rw [utf8_cons]
  exact List.append_ne_nil_of_left_ne_nil String.utf8EncodeChar_ne_nil _

theorem decodeFrom_skip (skipped rest : Bytes) :
    decodeFrom skipped.length (skipped ++ rest) = decodeFrom 0 rest := by
  induction skipped with
  | nil => rfl
  | cons byte skipped ih => exact ih

theorem decodeFrom_utf8EncodeChar (c : Char) (rest : Bytes) :
    decodeFrom 0 (String.utf8EncodeChar c ++ rest) = c :: decodeFrom 0 rest := by
  have hdecode :
      ((String.utf8EncodeChar c ++ rest).toByteArray).utf8DecodeChar? 0 = some c := by
    rw [List.toByteArray_append]
    exact ByteArray.utf8DecodeChar?_utf8EncodeChar_append
  have hlength := String.length_utf8EncodeChar c
  cases hencoded : String.utf8EncodeChar c with
  | nil => exact absurd hencoded String.utf8EncodeChar_ne_nil
  | cons byte more =>
      rw [hencoded, List.cons_append] at hdecode
      rw [hencoded] at hlength
      have hskip : c.utf8Size - 1 = more.length := by
        rw [← hlength]
        rfl
      rw [List.cons_append, decodeFrom, hdecode]
      show c :: decodeFrom (c.utf8Size - 1) (more ++ rest) = _
      rw [hskip, decodeFrom_skip]

/-- Decoding undoes encoding. -/
theorem decodeReplace_utf8 (text : List Char) : decodeReplace (utf8 text) = text := by
  induction text with
  | nil => rfl
  | cons c text ih =>
      show decodeFrom 0 (utf8 (c :: text)) = c :: text
      rw [utf8_cons, decodeFrom_utf8EncodeChar]
      exact congrArg (c :: ·) ih

/-- A byte that begins no character, and a character cut short. -/
example : decodeReplace [0xFF, 0xC3, 0xA9, 0x41, 0xE2, 0x82] =
    ['\uFFFD', 'é', 'A', '\uFFFD'] := by decide

/-! ## Stripping -/

theorem lstripNewlines_append_of_ne {a : Bytes} (h : lstripNewlines a ≠ []) (b : Bytes) :
    lstripNewlines (a ++ b) = lstripNewlines a ++ b := by
  induction a with
  | nil => exact absurd rfl h
  | cons byte a ih =>
      simp only [lstripNewlines, List.cons_append, List.dropWhile_cons] at h ih ⊢
      split
      · next hbyte =>
          rw [if_pos hbyte] at h
          exact ih h
      · rfl

theorem lstripNewlines_append_of_eq {a : Bytes} (h : lstripNewlines a = []) (b : Bytes) :
    lstripNewlines (a ++ b) = lstripNewlines b := by
  refine List.dropWhile_append_of_pos fun byte hbyte => ?_
  exact (List.dropWhile_eq_nil_iff.mp h) byte hbyte

theorem lstripNewlines_idem (raw : Bytes) :
    lstripNewlines (lstripNewlines raw) = lstripNewlines raw := by
  induction raw with
  | nil => rfl
  | cons byte raw ih =>
      simp only [lstripNewlines, List.dropWhile_cons] at ih ⊢
      split
      · exact ih
      · next hbyte => rw [List.dropWhile_cons, if_neg hbyte]

theorem length_lstripNewlines_le (raw : Bytes) : (lstripNewlines raw).length ≤ raw.length :=
  (List.dropWhile_suffix _).length_le

/-- Only newlines and carriage returns are taken off. -/
theorem mem_lstripNewlines_iff {byte : UInt8} (hlf : byte ≠ 10) (hcr : byte ≠ 13) {raw : Bytes} :
    byte ∈ lstripNewlines raw ↔ byte ∈ raw := by
  induction raw with
  | nil => rfl
  | cons first raw ih =>
      simp only [lstripNewlines, List.dropWhile_cons] at ih ⊢
      split
      · next hfirst =>
          rw [ih, List.mem_cons]
          refine ⟨Or.inr, fun h => h.resolve_left ?_⟩
          intro heq
          subst heq
          simp [hlf, hcr] at hfirst
      · rfl

/-- A text that stripping leaves alone does not begin with a space. -/
theorem head_of_strip_eq {c : Char} {text : List Char} (h : strip (c :: text) = c :: text) :
    isSpace c = false := by
  by_contra hspace
  rw [Bool.not_eq_false] at hspace
  have hdropped : (strip (c :: text)).length ≤ text.length := by
    rw [strip, List.length_reverse, List.dropWhile_cons, if_pos hspace]
    calc ((text.dropWhile isSpace).reverse.dropWhile isSpace).length
        ≤ (text.dropWhile isSpace).reverse.length := (List.dropWhile_suffix _).length_le
      _ = (text.dropWhile isSpace).length := List.length_reverse
      _ ≤ text.length := (List.dropWhile_suffix _).length_le
  rw [h, List.length_cons] at hdropped
  omega

end IsePortal
