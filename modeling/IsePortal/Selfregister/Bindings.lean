import IsePortal.Library.Dict
import IsePortal.Platform.Text

/-!
# The bindings of self-registration

`core/selfregister_bindings.py` remembers for ten minutes which MAC address the session lookup found
for the address of a client. `_normalize_mac` and `_MAC_RE` of `api/selfregister.py` are here too:
the former brings every notation of twelve hex digits into one form, and `macDigits` is what it
keeps.
-/

namespace IsePortal

open Library

namespace Selfregister

/-! ## MAC addresses -/

/-- `[0-9A-Fa-f]` -/
def isHexDigit (c : Char) : Bool := c ∈ "0123456789ABCDEFabcdef".toList

/-- The hex digits of a text, in upper case. -/
def macDigits (mac : String) : List Char := (mac.toList.filter isHexDigit).map Char.toUpper

/-- A colon after every second of the digits, but not at the end. -/
def pairwiseColons : List Char → List Char
  | a :: b :: c :: rest => a :: b :: ':' :: pairwiseColons (c :: rest)
  | digits => digits

/-- `_normalize_mac` -/
def normalizeMac (mac : String) : String :=
  if (macDigits mac).length ≠ 12 then mac else String.ofList (pairwiseColons (macDigits mac))

/-- `n` pairs of hex digits with a separator, and then a last pair; the end of the text may be
followed by one line feed. -/
def macPairs : Nat → List Char → Bool
  | 0, [a, b] => isHexDigit a && isHexDigit b
  | 0, [a, b, c] => isHexDigit a && isHexDigit b && c == '\n'
  | n + 1, a :: b :: c :: rest =>
      isHexDigit a && isHexDigit b && (c == ':' || c == '-') && macPairs n rest
  | _, _ => false

/-- `_MAC_RE.match` -/
def macReMatches (mac : String) : Bool := macPairs 5 mac.toList

/-- `DEFAULT_TTL_SECONDS` -/
def defaultTtlSeconds : Time := 600

/-- `MAX_BINDINGS` -/
def maxBindings : Nat := 10000

/-- `_bindings`: the MAC address and the time it expires, by the address of the client. -/
abbrev Bindings := Dict String (String × Time)

/-- `_purge_expired` -/
def purgeExpired (now : Time) (bindings : Bindings) : Bindings :=
  bindings.filterValues fun entry => now < entry.2

/-- `bind`, with the lifetime it is called with. -/
def bind (now : Time) (bindings : Bindings) (clientIp mac : String) : Bindings :=
  if clientIp = "" ∨ mac = "" then bindings
  else
    let live := purgeExpired now bindings
    -- at the limit a new client has to try again
    if maxBindings ≤ live.size ∧ live.get? clientIp = none then live
    else live.set clientIp (mac, now + defaultTtlSeconds)

/-- `lookup`, which takes an expired entry out. -/
def lookup (now : Time) (bindings : Bindings) (clientIp : String) : Option String × Bindings :=
  if clientIp = "" then (none, bindings)
  else
    match bindings.get? clientIp with
    | none => (none, bindings)
    | some (mac, expiresAt) =>
        if expiresAt ≤ now then (none, bindings.erase clientIp) else (some mac, bindings)

/-- `unbind` -/
def unbind (bindings : Bindings) (clientIp : String) : Bindings := bindings.erase clientIp

variable {now : Time} {bindings : Bindings} {clientIp other mac : String} {entry : String × Time}

/-- A purge leaves entries as they are. -/
theorem get?_purgeExpired_eq_some (h : (purgeExpired now bindings).get? other = some entry) :
    bindings.get? other = some entry := by
  rw [purgeExpired, Dict.get?_filterValues] at h
  exact Option.mem_filter_iff.mp h |>.1

/-- An entry after `bind` is the new one or one from before. -/
theorem get?_bind_cases (h : (bind now bindings clientIp mac).get? other = some entry) :
    (other = clientIp ∧ entry = (mac, now + defaultTtlSeconds)) ∨
      bindings.get? other = some entry := by
  unfold bind at h
  split at h
  · exact Or.inr h
  · dsimp only at h
    split at h
    · exact Or.inr (get?_purgeExpired_eq_some h)
    · by_cases hother : other = clientIp
      · subst hother
        rw [Dict.get?_set_self] at h
        exact Or.inl ⟨rfl, (Option.some.inj h).symm⟩
      · rw [Dict.get?_set_ne _ _ hother] at h
        exact Or.inr (get?_purgeExpired_eq_some h)

theorem get?_erase_eq_some (h : (bindings.erase clientIp).get? other = some entry) :
    bindings.get? other = some entry := by
  rw [Dict.get?_erase] at h
  split at h
  · cases h
  · exact h

/-- `lookup` only takes entries out. -/
theorem get?_lookup_eq_some (h : (lookup now bindings clientIp).2.get? other = some entry) :
    bindings.get? other = some entry := by
  unfold lookup at h
  split at h
  · exact h
  · split at h
    · exact h
    · split at h
      · exact get?_erase_eq_some h
      · exact h

/-- What `lookup` finds has not expired. -/
theorem lookup_eq_some (h : (lookup now bindings clientIp).1 = some mac) :
    ∃ expiresAt, bindings.get? clientIp = some (mac, expiresAt) ∧ now < expiresAt := by
  unfold lookup at h
  split at h
  · cases h
  · split at h
    · cases h
    · next bound expiresAt hentry =>
        split at h
        · cases h
        · next hlive =>
            cases h
            exact ⟨expiresAt, hentry, Rat.not_le.mp hlive⟩

end Selfregister

end IsePortal
