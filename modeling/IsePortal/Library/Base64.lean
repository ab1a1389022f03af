import Mathlib.Data.List.Basic

/-!
# Base64 without padding

Bytes as characters of the URL alphabet, six bits each, and the lenient decoder: it takes both
alphabets, skips what is in neither, and stops at the padding that completes a group. Decoding
undoes encoding once the padding is put back (`decode_encode`). The standard alphabet, with padding,
has a decoder that skips the digits of the other (`decodeStandard_encodeStandard`).
-/

namespace IsePortal.Library.Base64

/-- The character of six bits, in the alphabet for URLs. -/
def digit (value : Nat) : Char :=
  if value < 26 then Char.ofNat (65 + value)
  else if value < 52 then Char.ofNat (97 + (value - 26))
  else if value < 62 then Char.ofNat (48 + (value - 52))
  else if value = 62 then '-'
  else '_'

/-- The six bits a character of either alphabet stands for. -/
def digitValue (char : Char) : Option Nat :=
  if 'A' ≤ char ∧ char ≤ 'Z' then some (char.toNat - 65)
  else if 'a' ≤ char ∧ char ≤ 'z' then some (char.toNat - 97 + 26)
  else if '0' ≤ char ∧ char ≤ '9' then some (char.toNat - 48 + 52)
  else if char = '-' ∨ char = '+' then some 62
  else if char = '_' ∨ char = '/' then some 63
  else none

theorem digitValue_digit {value : Nat} (h : value < 64) :
    digitValue (digit value) = some value := by
  have hall : ∀ value < 64, digitValue (digit value) = some value := by decide
  exact hall value h

/-- The digits are ASCII, and neither a dot nor padding. -/
theorem digit_plain {value : Nat} (h : value < 64) :
    (digit value).toNat < 128 ∧ digit value ≠ '.' ∧ digit value ≠ '=' := by
  have hall : ∀ value < 64,
      (digit value).toNat < 128 ∧ digit value ≠ '.' ∧ digit value ≠ '=' := by decide
  exact hall value h

/-- Three bytes at a time. A rest of one or two bytes takes two or three digits. -/
def encode : List UInt8 → List Char
  | [] => []
  | [first] => [digit (first.toNat / 4), digit (first.toNat % 4 * 16)]
  | [first, second] =>
      [digit (first.toNat / 4), digit (first.toNat % 4 * 16 + second.toNat / 16),
        digit (second.toNat % 16 * 4)]
  | first :: second :: third :: rest =>
      digit (first.toNat / 4) :: digit (first.toNat % 4 * 16 + second.toNat / 16) ::
        digit (second.toNat % 16 * 4 + third.toNat / 64) :: digit (third.toNat % 64) ::
          encode rest

/-- The decoder at a place in a group of four digits, with the bits left over from the digit
before, and the padding seen since. -/
def decodeFrom (place left pads : Nat) : List Char → Option (List UInt8)
  | [] => if place = 0 then some [] else none
  | char :: rest =>
      if char = '=' then
        if 2 ≤ place then
          if 4 ≤ place + (pads + 1) then some [] else decodeFrom place left (pads + 1) rest
        else decodeFrom place left pads rest
      else
        match digitValue char with
        | none => decodeFrom place left pads rest
        | some value =>
            match place with
            | 0 => decodeFrom 1 value 0 rest
            | 1 =>
                (decodeFrom 2 (value % 16) 0 rest).map
                  (UInt8.ofNat (left * 4 + value / 16) :: ·)
            | 2 =>
                (decodeFrom 3 (value % 4) 0 rest).map
                  (UInt8.ofNat (left * 16 + value / 4) :: ·)
            | _ => (decodeFrom 0 0 0 rest).map (UInt8.ofNat (left * 64 + value) :: ·)

/-- The padding that completes a text of this length. -/
def padding (length : Nat) : List Char := List.replicate ((4 - length % 4) % 4) '='

/-- The text with its padding put back. -/
def decode (text : List Char) : Option (List UInt8) :=
  decodeFrom 0 0 0 (text ++ padding text.length)

variable {place left pads value : Nat} {rest : List Char} {char : Char}

/-- A digit, at each of the four places of a group. -/
theorem decodeFrom_digit (h : value < 64) :
    decodeFrom 0 left pads (digit value :: rest) = decodeFrom 1 value 0 rest ∧
      decodeFrom 1 left pads (digit value :: rest) =
        (decodeFrom 2 (value % 16) 0 rest).map (UInt8.ofNat (left * 4 + value / 16) :: ·) ∧
      decodeFrom 2 left pads (digit value :: rest) =
        (decodeFrom 3 (value % 4) 0 rest).map (UInt8.ofNat (left * 16 + value / 4) :: ·) ∧
      decodeFrom 3 left pads (digit value :: rest) =
        (decodeFrom 0 0 0 rest).map (UInt8.ofNat (left * 64 + value) :: ·) := by
  have hdigit : digit value ≠ '=' := (digit_plain h).2.2
  refine ⟨?_, ?_, ?_, ?_⟩ <;> simp only [decodeFrom, if_neg hdigit, digitValue_digit h]

theorem ofNat_eq (byte : UInt8) {number : Nat} (h : number = byte.toNat) :
    UInt8.ofNat number = byte := by
  rw [h, UInt8.ofNat_toNat]

/-- The first two digits of a group give its first byte. -/
theorem decodeFrom_first (first : UInt8) {more : Nat} (hmore : more < 16) :
    decodeFrom 0 0 0 (digit (first.toNat / 4) :: digit (first.toNat % 4 * 16 + more) :: rest) =
      (decodeFrom 2 more 0 rest).map (first :: ·) := by
  have hbyte := first.toNat_lt
  rw [(decodeFrom_digit (by omega)).1, (decodeFrom_digit (by omega)).2.1,
    ofNat_eq first (by omega), show (first.toNat % 4 * 16 + more) % 16 = more by omega]

/-- The third digit of a group gives its second byte. -/
theorem decodeFrom_second (second : UInt8) {more : Nat} (hmore : more < 4) :
    decodeFrom 2 (second.toNat / 16) 0 (digit (second.toNat % 16 * 4 + more) :: rest) =
      (decodeFrom 3 more 0 rest).map (second :: ·) := by
  have hbyte := second.toNat_lt
  rw [(decodeFrom_digit (by omega)).2.2.1, ofNat_eq second (by omega),
    show (second.toNat % 16 * 4 + more) % 4 = more by omega]

/-- The fourth digit of a group gives its third byte. -/
theorem decodeFrom_third (third : UInt8) :
    decodeFrom 3 (third.toNat / 64) 0 (digit (third.toNat % 64) :: rest) =
      (decodeFrom 0 0 0 rest).map (third :: ·) := by
  rw [(decodeFrom_digit (by omega)).2.2.2, ofNat_eq third (by omega)]

theorem padding_add_four (length : Nat) : padding (length + 4) = padding length := by
  rw [padding, padding, Nat.add_mod_right]

/-- Decoding undoes encoding. -/
theorem decode_encode (bytes : List UInt8) : decode (encode bytes) = some bytes := by
  unfold decode
  fun_induction encode bytes with
  | case1 => rfl
  | case2 first =>
      have hzero : first.toNat % 4 * 16 = first.toNat % 4 * 16 + 0 := rfl
      rw [hzero, List.cons_append, List.cons_append, decodeFrom_first first (by decide)]
      rfl
  | case3 first second =>
      have hbyte := second.toNat_lt
      have hzero : second.toNat % 16 * 4 = second.toNat % 16 * 4 + 0 := rfl
      rw [hzero, List.cons_append, List.cons_append, List.cons_append,
        decodeFrom_first first (by omega), decodeFrom_second second (by decide)]
      rfl
  | case4 first second third rest ih =>
      have hsecond := second.toNat_lt
      have hthird := third.toNat_lt
      rw [List.length_cons, List.length_cons, List.length_cons, List.length_cons, padding_add_four,
        List.cons_append, List.cons_append, List.cons_append, List.cons_append,
        decodeFrom_first first (by omega), decodeFrom_second second (by omega), decodeFrom_third,
        ih]
      rfl

/-- Every character of an encoded text is a digit. -/
theorem mem_encode {bytes : List UInt8} (h : char ∈ encode bytes) :
    ∃ value < 64, char = digit value := by
  fun_induction encode bytes with
  | case1 => cases h
  | case2 first =>
      have hbyte := first.toNat_lt
      rcases List.mem_pair.mp h with rfl | rfl
      · exact ⟨_, by omega, rfl⟩
      · exact ⟨_, by omega, rfl⟩
  | case3 first second =>
      have hfirst := first.toNat_lt
      have hsecond := second.toNat_lt
      simp only [List.mem_cons, List.not_mem_nil, or_false] at h
      rcases h with rfl | rfl | rfl
      · exact ⟨_, by omega, rfl⟩
      · exact ⟨_, by omega, rfl⟩
      · exact ⟨_, by omega, rfl⟩
  | case4 first second third rest ih =>
      have hfirst := first.toNat_lt
      have hsecond := second.toNat_lt
      have hthird := third.toNat_lt
      simp only [List.mem_cons] at h
      rcases h with rfl | rfl | rfl | rfl | hrest
      · exact ⟨_, by omega, rfl⟩
      · exact ⟨_, by omega, rfl⟩
      · exact ⟨_, by omega, rfl⟩
      · exact ⟨_, by omega, rfl⟩
      · exact ih hrest

/-- An encoded text is ASCII, without dots. -/
theorem encode_plain {bytes : List UInt8} (h : char ∈ encode bytes) :
    char.toNat < 128 ∧ char ≠ '.' := by
  obtain ⟨value, hvalue, rfl⟩ := mem_encode h
  exact ⟨(digit_plain hvalue).1, (digit_plain hvalue).2.1⟩

/-! ## The standard alphabet -/

/-- A digit of the alphabet for URLs, in the standard alphabet. -/
def standardDigit (char : Char) : Char :=
  if char = '-' then '+' else if char = '_' then '/' else char

/-- Six bits a character in the standard alphabet, with the padding. -/
def encodeStandard (bytes : List UInt8) : List Char :=
  (encode bytes ++ padding (encode bytes).length).map standardDigit

/-- The decoder that skips what is not in the standard alphabet. -/
def decodeStandard (text : List Char) : Option (List UInt8) :=
  decodeFrom 0 0 0 (text.filter fun char => char ≠ '-' && char ≠ '_')

/-- The two alphabets differ in two digits only. -/
theorem standardDigit_cases (char : Char) :
    char = '-' ∧ standardDigit char = '+' ∨ char = '_' ∧ standardDigit char = '/' ∨
      char ≠ '-' ∧ char ≠ '_' ∧ standardDigit char = char := by
  unfold standardDigit
  split
  · next h => exact .inl ⟨h, rfl⟩
  · next h =>
      split
      · next hunder => exact .inr (.inl ⟨hunder, rfl⟩)
      · next hunder => exact .inr (.inr ⟨h, hunder, rfl⟩)

theorem standardDigit_plain (char : Char) :
    standardDigit char ≠ '-' ∧ standardDigit char ≠ '_' := by
  rcases standardDigit_cases char with ⟨-, h⟩ | ⟨-, h⟩ | ⟨hminus, hunder, h⟩
  · rw [h]; decide
  · rw [h]; decide
  · rw [h]; exact ⟨hminus, hunder⟩

/-- The decoder does not tell the alphabets apart. -/
theorem decodeFrom_map_standardDigit (text : List Char) (place left pads : Nat) :
    decodeFrom place left pads (text.map standardDigit) = decodeFrom place left pads text := by
  induction text generalizing place left pads with
  | nil => rfl
  | cons char rest ih =>
      have hpad : standardDigit char = '=' ↔ char = '=' := by
        rcases standardDigit_cases char with ⟨rfl, h⟩ | ⟨rfl, h⟩ | ⟨-, -, h⟩ <;> rw [h]
        all_goals decide
      have hvalue : digitValue (standardDigit char) = digitValue char := by
        rcases standardDigit_cases char with ⟨rfl, h⟩ | ⟨rfl, h⟩ | ⟨-, -, h⟩ <;> rw [h]
        all_goals decide
      rw [List.map_cons, decodeFrom, decodeFrom]
      simp only [hpad, hvalue, ih]

/-- Decoding undoes encoding. -/
theorem decodeStandard_encodeStandard (bytes : List UInt8) :
    decodeStandard (encodeStandard bytes) = some bytes := by
  have hkeep : (encodeStandard bytes).filter (fun char => char ≠ '-' && char ≠ '_') =
      encodeStandard bytes := by
    refine List.filter_eq_self.mpr fun char hchar => ?_
    obtain ⟨digit, -, rfl⟩ := List.mem_map.mp hchar
    simp [standardDigit_plain digit]
  rw [decodeStandard, hkeep, encodeStandard, decodeFrom_map_standardDigit]
  exact decode_encode bytes

/-- An encoded text is ASCII. -/
theorem encodeStandard_ascii {bytes : List UInt8} (h : char ∈ encodeStandard bytes) :
    char.toNat < 128 := by
  obtain ⟨plain, hplain, rfl⟩ := List.mem_map.mp h
  have hascii : plain.toNat < 128 := by
    rcases List.mem_append.mp hplain with hdigit | hpad
    · exact (encode_plain hdigit).1
    · rw [List.eq_of_mem_replicate hpad]
      decide
  rcases standardDigit_cases plain with ⟨-, h⟩ | ⟨-, h⟩ | ⟨-, -, h⟩
  · rw [h]; decide
  · rw [h]; decide
  · rw [h]; exact hascii

end IsePortal.Library.Base64
