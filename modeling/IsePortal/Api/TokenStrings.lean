import IsePortal.Api.AuthStatus
import IsePortal.Library.Base64
import IsePortal.Platform.Bytes
import IsePortal.Platform.Json
import IsePortal.Platform.Words

/-!
# Token strings

`create_token`, `create_tacacs_token` and `verify_token` of `core/auth.py`, on any string. The
encoding of a payload is undone by its decoding, so that an issued token gives its payload back
(`verifyToken_created`). The two steps before the signature is compared take ASCII only and stand
outside every `try` (`verify_token_iff`).
-/

namespace IsePortal.TokenText

/-- `_b64url_encode` -/
def b64urlEncode (data : Bytes) : String := String.ofList (Library.Base64.encode data)

/-- `_b64url_decode` of an ASCII text. `binascii.Error` is a `ValueError`. -/
def b64urlDecode (text : String) : Except PyError Bytes :=
  match Library.Base64.decode text.toList with
  | some data => .ok data
  | none => .error .valueError

/-- The payload of `create_token`. -/
def userPayload (userId username role : String) (gen ttl now : Int) : JsonObject :=
  [("sub", .str userId), ("username", .str username), ("role", .str role), ("gen", .num gen),
    ("iat", .num now), ("exp", .num (now + ttl : Int))]

/-- The payload of `create_tacacs_token`. -/
def tacacsPayload (username role : String) (operatorProfile : Option String)
    (endpointRoles : List String) (ttl now : Int) : JsonObject :=
  [("sub", .str username), ("username", .str username), ("role", .str role),
    ("auth_type", .str "tacacs"), ("operator_profile", .str (operatorProfile.getD "")),
    ("endpoint_roles", .arr (endpointRoles.map .str)), ("iat", .num now),
    ("exp", .num (now + ttl : Int))]

/-- The payloads that are signed, with the moment they expire. -/
inductive Created : JsonObject → Int → Prop
  | user (userId username role : String) (gen ttl now : Int) :
      Created (userPayload userId username role gen ttl now) (now + ttl)
  | tacacs (username role : String) (operatorProfile : Option String)
      (endpointRoles : List String) (ttl now : Int) :
      Created (tacacsPayload username role operatorProfile endpointRoles ttl now) (now + ttl)

variable {payload : JsonObject} {exp now : Int}

theorem toInt_intCast (value : Int) : (Json.num (value : Rat)).toInt = .ok value := by
  rw [Json.toInt, Rat.floor_intCast, Rat.ceil_intCast, ite_self]

/-- Where a created payload keeps the moment it expires. -/
theorem Created.exp_eq (h : Created payload exp) :
    JsonObject.getD payload "exp" (.num 0) = .num (exp : Rat) := by
  cases h with
  | user => simp [userPayload, JsonObject.getD, List.lookup_cons]
  | tacacs => simp [tacacsPayload, JsonObject.getD, List.lookup_cons]

theorem b64urlEncode_plain (data : Bytes) :
    '.' ∉ (b64urlEncode data).toList ∧ isAsciiText (b64urlEncode data) = true := by
  rw [isAsciiText, b64urlEncode, String.toList_ofList]
  refine ⟨fun hdot => (Library.Base64.encode_plain hdot).2 rfl, ?_⟩
  rw [List.all_eq_true]
  exact fun char hchar => decide_eq_true (Library.Base64.encode_plain hchar).1

theorem b64urlDecode_encode (data : Bytes) : b64urlDecode (b64urlEncode data) = .ok data := by
  rw [b64urlDecode, b64urlEncode, String.toList_ofList, Library.Base64.decode_encode]

theorem toList_joined (text sig : String) :
    (text ++ "." ++ sig).toList = text.toList ++ '.' :: sig.toList := by
  simp [String.toList_append]

/-- The end of `verify_token`, on what the signed text says. -/
def unexpired (now : Int) : Except PyError Json → Except PyError (Option JsonObject)
  | .ok (.obj payload) =>
      match (JsonObject.getD payload "exp" (.num 0)).toInt with
      | .ok exp => .ok (if exp < now then none else some payload)
      | .error fault => .error fault
  | .ok _ => .ok none
  | .error .valueError => .ok none
  | .error .jsonDecodeError => .ok none
  | .error fault => .error fault

/-- What the end of the verification says about a created payload. -/
theorem unexpired_created (h : Created payload exp) :
    unexpired now (.ok (.obj payload)) = .ok (if exp < now then none else some payload) := by
  simp only [unexpired, h.exp_eq, toInt_intCast]

/-! ## Issuing and verifying -/

/-- What the tokens need of the runtime, under the portal's secret. -/
class TokenRuntime where
  /-- `json.dumps(payload, separators=(",", ":"))` -/
  dumps : JsonObject → Except PyError String
  /-- `json.loads` of bytes -/
  loads : Bytes → Except PyError Json
  /-- `hmac.new(_secret(), payload_b64.encode("ascii"), hashlib.sha256).hexdigest()` -/
  hexdigest : String → String
  hexdigest_ascii : ∀ payload, isAsciiText (hexdigest payload) = true

section

variable [TokenRuntime]

/-- The token of a payload. -/
def signed (payload : JsonObject) : Except PyError String := do
  let text ← TokenRuntime.dumps payload
  let encoded := b64urlEncode (utf8 text.toList)
  .ok (encoded ++ "." ++ TokenRuntime.hexdigest encoded)

/-- `create_token` -/
def createToken (userId username role : String) (ttl gen now : Int) : Except PyError String :=
  signed (userPayload userId username role gen ttl now)

/-- `create_tacacs_token` -/
def createTacacsToken (username role : String) (operatorProfile : Option String)
    (endpointRoles : List String) (ttl now : Int) : Except PyError String :=
  signed (tacacsPayload username role operatorProfile endpointRoles ttl now)

/-- `verify_token` -/
def verifyToken (now : Int) (token : String) : Except PyError (Option JsonObject) :=
  match splitOnce '.' token with
  | none => .ok none
  | some (payload, sig) =>
      -- `payload_b64.encode("ascii")`: `UnicodeEncodeError` is a `ValueError`
      if ¬ isAsciiText payload then .error .valueError
      -- `compare_digest` takes no text beyond ASCII
      else if ¬ isAsciiText sig then .error .typeError
      else if sig ≠ TokenRuntime.hexdigest payload then .ok none
      else unexpired now (b64urlDecode payload >>= TokenRuntime.loads)

/-! ## Issued tokens -/

/-- The token was issued for this payload. -/
def Issued (token : String) (payload : JsonObject) (exp : Int) : Prop :=
  Created payload exp ∧ signed payload = .ok token

/-- `json.loads(json.dumps(payload))` gives the payload back, from an ASCII text. -/
def WrittenBack (payload : JsonObject) : Prop :=
  ∃ text, TokenRuntime.dumps payload = .ok text ∧
    TokenRuntime.loads (utf8 text.toList) = .ok (.obj payload)

/-- A token with the tag of its text was issued: tags cannot be forged. -/
def NotForged (token : String) : Prop :=
  ∀ text, '.' ∉ text.toList → token = text ++ "." ++ TokenRuntime.hexdigest text →
    ∃ payload exp, Issued token payload exp

/-- An issued token gives its payload until it expires, and any other string gives nothing. -/
def Verified (now : Int) (token : String) : Prop :=
  (∀ payload exp, Issued token payload exp →
    verifyToken now token = .ok (if exp < now then none else some payload)) ∧
  ((¬ ∃ payload exp, Issued token payload exp) → verifyToken now token = .ok none)

variable {token : String}

/-- A token that is the text of a signed payload and its tag. -/
theorem verifyToken_signed {text : String} (hdot : '.' ∉ text.toList)
    (hascii : isAsciiText text = true) :
    verifyToken now (text ++ "." ++ TokenRuntime.hexdigest text) =
      unexpired now (b64urlDecode text >>= TokenRuntime.loads) := by
  have hsplit : splitOnce '.' (text ++ "." ++ TokenRuntime.hexdigest text) =
      some (text, TokenRuntime.hexdigest text) :=
    splitOnce_eq_some_iff.mpr ⟨toList_joined _ _, hdot⟩
  simp only [verifyToken, hsplit, hascii, TokenRuntime.hexdigest_ascii, not_true_eq_false, if_false,
    ne_eq]

/-- An issued token gives its payload until it expires. -/
theorem verifyToken_issued (h : Issued token payload exp) (hback : WrittenBack payload) :
    verifyToken now token = .ok (if exp < now then none else some payload) := by
  obtain ⟨hcreated, hsigned⟩ := h
  obtain ⟨text, hdumps, hloads⟩ := hback
  rw [signed, hdumps] at hsigned
  obtain rfl := Except.ok.inj hsigned
  obtain ⟨hdot, hascii⟩ := b64urlEncode_plain (utf8 text.toList)
  have hread : (b64urlDecode (b64urlEncode (utf8 text.toList)) >>= TokenRuntime.loads) =
      .ok (.obj payload) := by
    rw [b64urlDecode_encode]
    exact hloads
  rw [verifyToken_signed hdot hascii, hread, unexpired_created hcreated]

/-- An issued token is a text and its tag. -/
theorem issued_tag (h : Issued token payload exp) :
    ∃ text, '.' ∉ text.toList ∧ token = text ++ "." ++ TokenRuntime.hexdigest text ∧
      isAsciiText token = true := by
  obtain ⟨-, hsigned⟩ := h
  unfold signed at hsigned
  cases hdumps : TokenRuntime.dumps payload with
  | error fault =>
      rw [hdumps] at hsigned
      cases hsigned
  | ok text =>
      rw [hdumps] at hsigned
      obtain rfl := Except.ok.inj hsigned
      obtain ⟨hdot, hascii⟩ := b64urlEncode_plain (utf8 text.toList)
      refine ⟨_, hdot, rfl, ?_⟩
      have htag := TokenRuntime.hexdigest_ascii (b64urlEncode (utf8 text.toList))
      unfold isAsciiText at hascii htag ⊢
      rw [toList_joined, List.all_append, hascii, List.all_cons, htag]
      rfl

/-- A string without the tag of its text gives nothing, if it is ASCII or has no dot. -/
theorem verifyToken_other
    (h : '.' ∉ token.toList ∨ isAsciiText token = true)
    (hother : ∀ text, '.' ∉ text.toList → token ≠ text ++ "." ++ TokenRuntime.hexdigest text) :
    verifyToken now token = .ok none := by
  unfold verifyToken
  cases hsplit : splitOnce '.' token with
  | none => rfl
  | some parts =>
      obtain ⟨text, sig⟩ := parts
      obtain ⟨htoken, hdot⟩ := splitOnce_eq_some_iff.mp hsplit
      have hmem : '.' ∈ token.toList := by
        rw [htoken]
        exact List.mem_append_right _ List.mem_cons_self
      have hascii := h.resolve_left (not_not_intro hmem)
      unfold isAsciiText at hascii
      rw [htoken, List.all_append, List.all_cons, Bool.and_eq_true, Bool.and_eq_true] at hascii
      have hsig : sig ≠ TokenRuntime.hexdigest text := by
        rintro rfl
        refine hother text hdot ?_
        rw [← String.toList_inj, htoken, toList_joined]
      have htext : isAsciiText text = true := hascii.1
      have hrest : isAsciiText sig = true := hascii.2.2
      simp only [htext, hrest, not_true_eq_false, if_false, if_pos hsig]

/-- A string with a dot that is not ASCII fails before the signature is compared. -/
theorem verifyToken_fails (hdot : '.' ∈ token.toList) (hascii : isAsciiText token = false) :
    ∃ fault, verifyToken now token = .error fault := by
  unfold verifyToken
  cases hsplit : splitOnce '.' token with
  | none => exact absurd hdot (splitOnce_eq_none_iff.mp hsplit)
  | some parts =>
      obtain ⟨text, sig⟩ := parts
      obtain ⟨htoken, -⟩ := splitOnce_eq_some_iff.mp hsplit
      by_cases htext : isAsciiText text = true
      · by_cases hsig : isAsciiText sig = true
        · unfold isAsciiText at hascii htext hsig
          rw [htoken, List.all_append, List.all_cons, htext, hsig] at hascii
          cases hascii
        · exact ⟨.typeError, by simp only [htext, hsig]; rfl⟩
      · exact ⟨.valueError, by simp only [htext]; rfl⟩

/-- A string that is ASCII or has no dot is verified without a fault. -/
theorem verified_of_plain (hnotForged : NotForged token)
    (hback : ∀ payload exp, Issued token payload exp → WrittenBack payload)
    (h : '.' ∉ token.toList ∨ isAsciiText token = true) : Verified now token := by
  refine ⟨fun payload exp hissued => verifyToken_issued hissued (hback payload exp hissued), ?_⟩
  intro hnone
  refine verifyToken_other h fun text hdot htoken => hnone ?_
  exact hnotForged text hdot htoken

/-- Every string is verified without a fault exactly when it is ASCII or has no dot, and every
created token gives its payload back until it expires. -/
theorem verify_token_iff (now : Int) (token : String) (hnotForged : NotForged token)
    (hback : ∀ payload exp, Issued token payload exp → WrittenBack payload) :
    (Verified now token ↔ '.' ∉ token.toList ∨ isAsciiText token = true) ∧
    ∀ payload exp, Created payload exp → WrittenBack payload → now ≤ exp →
      ∃ created, signed payload = .ok created ∧
        verifyToken now created = .ok (some payload) := by
  refine ⟨⟨fun h => ?_, verified_of_plain hnotForged hback⟩, ?_⟩
  · by_contra hplain
    obtain ⟨hdot, hascii⟩ := not_or.mp hplain
    obtain ⟨fault, hfails⟩ : ∃ fault, verifyToken now token = .error fault :=
      verifyToken_fails (not_not.mp hdot) (Bool.eq_false_iff.mpr hascii)
    by_cases hissued : ∃ payload exp, Issued token payload exp
    · obtain ⟨payload, exp, hissued⟩ := hissued
      have hresult := h.1 payload exp hissued
      rw [hfails] at hresult
      cases hresult
    · have hresult := h.2 hissued
      rw [hfails] at hresult
      cases hresult
  · intro payload exp hcreated hwritten hlater
    obtain ⟨text, hdumps, hloads⟩ := hwritten
    have hsigned : signed payload = .ok (b64urlEncode (utf8 text.toList) ++ "." ++
        TokenRuntime.hexdigest (b64urlEncode (utf8 text.toList))) := by
      rw [signed, hdumps]
      rfl
    refine ⟨_, hsigned, ?_⟩
    rw [verifyToken_issued ⟨hcreated, hsigned⟩ ⟨text, hdumps, hloads⟩, if_neg (by omega)]

end

/-- The payload of a user who logged in at 1000. -/
def samplePayload : JsonObject := userPayload "u1" "anna" "admin" 0 28800 1000

/-- What `json.dumps` writes for it. -/
def sampleText : String :=
  "\x7b\"sub\":\"u1\",\"username\":\"anna\",\"role\":\"admin\",\"gen\":0,\"iat\":1000," ++
    "\"exp\":29800\x7d"

/-- A tag of 64 hexadecimal digits. -/
def sampleTag : String := String.ofList (List.replicate 64 '0')

open Classical in
/-- A runtime that writes and reads this payload only. -/
@[reducible] noncomputable def sampleRuntime : TokenRuntime where
  dumps payload := if payload = samplePayload then .ok sampleText else .error .typeError
  loads data :=
    if data = utf8 sampleText.toList then .ok (.obj samplePayload) else .error .jsonDecodeError
  hexdigest _ := sampleTag
  hexdigest_ascii _ := by decide

/-- The token of the payload. -/
def sampleToken : String := b64urlEncode (utf8 sampleText.toList) ++ "." ++ sampleTag

theorem sample_written : @WrittenBack sampleRuntime samplePayload :=
  ⟨sampleText, if_pos rfl, if_pos rfl⟩

theorem sample_issued : @Issued sampleRuntime sampleToken samplePayload 29800 := by
  refine ⟨Created.user "u1" "anna" "admin" 0 28800 1000, ?_⟩
  have hdumps : sampleRuntime.dumps samplePayload = .ok sampleText := if_pos rfl
  rw [@signed.eq_def sampleRuntime, hdumps]
  rfl

/-- The token of the payload is verified in its lifetime. -/
theorem verify_token_sample :
    @Verified sampleRuntime 1000 sampleToken ∧
      ∃ created, @signed sampleRuntime samplePayload = .ok created ∧
        @verifyToken sampleRuntime 1000 created = .ok (some samplePayload) := by
  let _ := sampleRuntime
  have hback : ∀ payload exp, Issued sampleToken payload exp → WrittenBack payload := by
    rintro payload exp ⟨-, hsigned⟩
    by_cases hsame : payload = samplePayload
    · rw [hsame]
      exact sample_written
    · have hdumps : sampleRuntime.dumps payload = .error .typeError := if_neg hsame
      rw [signed, hdumps] at hsigned
      cases hsigned
  obtain ⟨hverified, hcreated⟩ :=
    verify_token_iff 1000 sampleToken (fun _ _ _ => ⟨_, _, sample_issued⟩) hback
  obtain ⟨-, -, -, hascii⟩ := issued_tag sample_issued
  exact ⟨hverified.mpr (Or.inr hascii), hcreated _ _ sample_issued.1 sample_written (by decide)⟩

/-- The cookie is too short for a tag. -/
theorem not_tagged (text : String) (h : "é.x" = text ++ "." ++ sampleTag) : False := by
  have hcookie : "é.x".toList.length = 3 := by decide
  have htag : sampleTag.toList.length = 64 := by decide
  rw [h, toList_joined, List.length_append, List.length_cons, htag] at hcookie
  omega

/-- A cookie beyond ASCII, which nobody forged, is not verified without a fault. -/
theorem verify_token_fails :
    @NotForged sampleRuntime "é.x" ∧ ¬ @Verified sampleRuntime 1000 "é.x" := by
  let _ := sampleRuntime
  refine ⟨fun text _ hsame => (not_tagged text hsame).elim, fun h => ?_⟩
  obtain ⟨fault, hfails⟩ : ∃ fault, verifyToken 1000 "é.x" = .error fault :=
    verifyToken_fails (by decide) (by decide)
  have hnone : ¬ ∃ payload exp, Issued "é.x" payload exp := by
    rintro ⟨payload, exp, hissued⟩
    obtain ⟨text, -, hsame, -⟩ := issued_tag hissued
    exact not_tagged text hsame
  have hresult := h.2 hnone
  rw [hfails] at hresult
  cases hresult

end IsePortal.TokenText
