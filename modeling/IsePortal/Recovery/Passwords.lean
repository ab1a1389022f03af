import IsePortal.Platform.Bytes
import IsePortal.Platform.Text

/-!
# Password hashes

`recover.py` has its own copy of `hash_password`, and the portal verifies what it has written with
the `verify_password` of `app/core/auth.py`. The two must agree on the text of a hash: the
algorithm, the iterations, the salt and the key, separated by dollar signs. `verify_hash` is that
agreement, whatever the key derivation computes.
-/

namespace IsePortal.Recovery

/-- `PBKDF2_ITERATIONS`, in the tool and in the portal. -/
def pbkdf2Iterations : Nat := 600000

/-- The key derivation of the Python runtime. -/
class KeyDerivation where
  /-- `hashlib.pbkdf2_hmac("sha256", password, salt, iterations)`; the iterations are at least one
  in every hash `hash_password` writes. -/
  pbkdf2Hmac : Bytes → Bytes → Nat → Bytes

/-- The digit `bytes.hex()` writes for half a byte. -/
def hexDigit (value : Nat) : Char := Char.ofNat (if value < 10 then 48 + value else 87 + value)

/-- `bytes.hex()` -/
def hex (raw : Bytes) : List Char :=
  raw.flatMap fun byte => [hexDigit (byte.toNat / 16), hexDigit (byte.toNat % 16)]

/-- The value of a digit, in either case. -/
def hexValue (digit : Char) : Option Nat :=
  if '0' ≤ digit ∧ digit ≤ '9' then some (digit.toNat - 48)
  else if 'a' ≤ digit ∧ digit ≤ 'f' then some (digit.toNat - 87)
  else if 'A' ≤ digit ∧ digit ≤ 'F' then some (digit.toNat - 55)
  else none

/-- `bytes.fromhex`: spaces are skipped between the bytes. -/
def fromHex : List Char → Option Bytes
  | [] => some []
  | [digit] => if digit.isWhitespace then some [] else none
  | high :: low :: rest =>
      if high.isWhitespace then fromHex (low :: rest)
      else do
        let upper ← hexValue high
        let lower ← hexValue low
        let bytes ← fromHex rest
        return UInt8.ofNat (upper * 16 + lower) :: bytes

/-- `int(text)`, of the decimal digits a hash has there. -/
def parseIterations (digits : List Char) : Option Nat :=
  if digits = [] then none else digitsValue digits

variable [KeyDerivation]

/-- The key of a password. -/
def derivedKey (password : String) (salt : Bytes) (iterations : Nat) : Bytes :=
  KeyDerivation.pbkdf2Hmac (utf8 password.toList) salt iterations

/-- `hash_password`; the salt is drawn anew each time. -/
def hashPassword (password : String) (salt : Bytes) : String :=
  String.ofList (['$'].intercalate
    ["pbkdf2_sha256".toList, (toString pbkdf2Iterations).toList, hex salt,
      hex (derivedKey password salt pbkdf2Iterations)])

/-- `verify_password` -/
def verifyPassword (password stored : String) : Bool :=
  match stored.toList.splitOn '$' with
  | [algo, iterations, saltHex, hashHex] =>
      if algo ≠ "pbkdf2_sha256".toList then false
      else
        match parseIterations iterations, fromHex saltHex, fromHex hashHex with
        | some iterations, some salt, some expected =>
            derivedKey password salt iterations = expected
        | _, _, _ => false
  | _ => false

omit [KeyDerivation] in
theorem hexDigit_ok : ∀ value < 16, hexValue (hexDigit value) = some value ∧
    (hexDigit value).isWhitespace = false ∧ hexDigit value ≠ '$' := by
  decide

omit [KeyDerivation] in
/-- Reading the digits of bytes gives the bytes. -/
theorem fromHex_hex (raw : Bytes) : fromHex (hex raw) = some raw := by
  induction raw with
  | nil => rfl
  | cons byte rest ih =>
      have hsize : byte.toNat < 256 := byte.toNat_lt
      obtain ⟨hhigh, hspace, -⟩ := hexDigit_ok (byte.toNat / 16) (by omega)
      obtain ⟨hlow, -⟩ := hexDigit_ok (byte.toNat % 16) (by omega)
      have hbyte : UInt8.ofNat (byte.toNat / 16 * 16 + byte.toNat % 16) = byte := by
        rw [Nat.div_add_mod']
        exact UInt8.ofNat_toNat
      have hcons : hex (byte :: rest) =
          hexDigit (byte.toNat / 16) :: hexDigit (byte.toNat % 16) :: hex rest := rfl
      rw [hcons, fromHex, hspace, hhigh, hlow, ih]
      exact congrArg (fun read => some (read :: rest)) hbyte

omit [KeyDerivation] in
/-- No digit is the separator. -/
theorem dollar_not_mem_hex (raw : Bytes) : '$' ∉ hex raw := by
  intro hmem
  obtain ⟨byte, -, hdigit⟩ := List.mem_flatMap.mp hmem
  have hsize : byte.toNat < 256 := byte.toNat_lt
  obtain ⟨-, -, hhigh⟩ := hexDigit_ok (byte.toNat / 16) (by omega)
  obtain ⟨-, -, hlow⟩ := hexDigit_ok (byte.toNat % 16) (by omega)
  rcases List.mem_cons.mp hdigit with heq | hdigit
  · exact hhigh heq.symm
  · exact hlow (List.mem_singleton.mp hdigit).symm

omit [KeyDerivation] in
theorem parse_pbkdf2Iterations :
    parseIterations (toString pbkdf2Iterations).toList = some pbkdf2Iterations := by
  decide

/-- A password is verified against its own hash, whatever the salt. -/
theorem verify_hash (password : String) (salt : Bytes) :
    verifyPassword password (hashPassword password salt) = true := by
  have hparts : (hashPassword password salt).toList.splitOn '$' =
      ["pbkdf2_sha256".toList, (toString pbkdf2Iterations).toList, hex salt,
        hex (derivedKey password salt pbkdf2Iterations)] := by
    rw [hashPassword, String.toList_ofList]
    refine List.splitOn_intercalate '$' ?_ (List.cons_ne_nil _ _)
    intro part hpart
    simp only [List.mem_cons, List.not_mem_nil, or_false] at hpart
    rcases hpart with rfl | rfl | rfl | rfl
    · decide
    · decide
    · exact dollar_not_mem_hex salt
    · exact dollar_not_mem_hex _
  simp only [verifyPassword, hparts, parse_pbkdf2Iterations, fromHex_hex]
  simp

end IsePortal.Recovery
