import IsePortal.Platform.Text

/-!
# The IP address of a client

Self-registration knows nothing of an anonymous client but the address its request comes from.
`_client_ip` of `api/selfregister.py` and the key of `core/rate_limiter.py` take it from
`X-Forwarded-For` where the peer is a trusted proxy. The proxy of `deploy/nginx-hypervision.conf`
appends the peer it sees to what the client sent, and both functions read the first item.
`client_ip_fixed_iff` says when that makes no difference.
-/

namespace IsePortal

/-- What is read of a request: the address of the direct peer, where it has one, and the header
`X-Forwarded-For`. -/
structure PortalRequest where
  client : Option String
  forwardedFor : Option String := none
  deriving DecidableEq

/-- `header.split(",")[0]` -/
def firstItem (header : String) : String := String.ofList (header.toList.takeWhile (· ≠ ','))

/-- `$proxy_add_x_forwarded_for` of nginx: every header line of the client followed by a comma and
a blank, and then the address of the client. -/
def proxyAddXForwardedFor (lines : List String) (peer : String) : String :=
  String.ofList (lines.flatMap (fun line => line.toList ++ [',', ' ']) ++ peer.toList)

/-- A request of a client as the proxy at `direct` passes it on. -/
def proxied (direct peer : String) (lines : List String) : PortalRequest where
  client := some direct
  forwardedFor := some (proxyAddXForwardedFor lines peer)

variable [PyText]

/-- `request.headers.get("X-Forwarded-For", "").split(",")[0].strip()` -/
def PortalRequest.forwarded (request : PortalRequest) : String :=
  PyText.strip (firstItem (request.forwardedFor.getD ""))

/-- `_client_ip` -/
def clientIp (trustedProxyIps : List String) (request : PortalRequest) : String :=
  let direct := request.client.getD ""
  if trustedProxyIps ≠ [] ∧ direct ∈ trustedProxyIps then
    if request.forwarded ≠ "" then request.forwarded else direct
  else direct

/-- The key of the rate limiter. -/
def rateLimitKey (trustedProxyIps : List String) (request : PortalRequest) : String :=
  let directIp := request.client.getD "unknown"
  if trustedProxyIps ≠ [] ∧ directIp ∈ trustedProxyIps then
    if request.forwarded ≠ "" then request.forwarded else directIp
  else directIp

/-! ## What is read of a proxied header -/

/-- The text the first item is cut from: the first line of the client, or the address the proxy
wrote where the client sent none. -/
def leadingLine (peer : String) (lines : List String) : String := lines.headD peer

/-- Two texts with the same first item, where a blank one stands for the proxy. -/
def SameLeadingItem (direct text text' : String) : Prop :=
  PyText.strip (firstItem text) = PyText.strip (firstItem text') ∨
    (PyText.strip (firstItem text) = "" ∧ PyText.strip (firstItem text') = direct) ∨
    (PyText.strip (firstItem text) = direct ∧ PyText.strip (firstItem text') = "")

omit [PyText] in
/-- What follows a comma does not change the first item. -/
theorem firstItem_append_comma (line : String) (rest : List Char) :
    firstItem (String.ofList (line.toList ++ ',' :: rest)) = firstItem line := by
  unfold firstItem
  rw [String.toList_ofList, List.takeWhile_append]
  split
  · next hall =>
      have hline : line.toList.takeWhile (· ≠ ',') = line.toList :=
        (List.takeWhile_prefix _).eq_of_length hall
      rw [hline]
      simp
  · rfl

omit [PyText] in
/-- The item that is read is the first one of the client's own first line. -/
theorem firstItem_proxyAdd (lines : List String) (peer : String) :
    firstItem (proxyAddXForwardedFor lines peer) = firstItem (leadingLine peer lines) := by
  cases lines with
  | nil => simp [proxyAddXForwardedFor, leadingLine]
  | cons line rest =>
      have hsplit : proxyAddXForwardedFor (line :: rest) peer =
          String.ofList (line.toList ++ ',' :: ' ' ::
            (rest.flatMap (fun line => line.toList ++ [',', ' ']) ++ peer.toList)) := by
        simp [proxyAddXForwardedFor]
      rw [hsplit]
      exact firstItem_append_comma line _

theorem forwarded_proxied (direct peer : String) (lines : List String) :
    (proxied direct peer lines).forwarded = PyText.strip (firstItem (leadingLine peer lines)) :=
  congrArg PyText.strip (firstItem_proxyAdd lines peer)

/-- Where the peer has an address, the two functions read it alike. -/
theorem rateLimitKey_eq_clientIp (trustedProxyIps : List String) {request : PortalRequest}
    {direct : String} (hclient : request.client = some direct) :
    rateLimitKey trustedProxyIps request = clientIp trustedProxyIps request := by
  simp only [rateLimitKey, clientIp, hclient, Option.getD_some]

/-- Behind a trusted proxy the address is the first item, unless that is blank. -/
theorem clientIp_proxied {trustedProxyIps : List String} {direct : String}
    (htrusted : direct ∈ trustedProxyIps) (peer : String) (lines : List String) :
    clientIp trustedProxyIps (proxied direct peer lines) =
      if PyText.strip (firstItem (leadingLine peer lines)) ≠ "" then
        PyText.strip (firstItem (leadingLine peer lines))
      else direct := by
  have hnonempty : trustedProxyIps ≠ [] := List.ne_nil_of_mem htrusted
  unfold clientIp
  rw [forwarded_proxied]
  exact if_pos ⟨hnonempty, htrusted⟩

/-- Two choices between an item and the proxy agree. -/
theorem leadingItem_eq_iff (direct text text' : String) :
    ((if PyText.strip (firstItem text) ≠ "" then PyText.strip (firstItem text) else direct) =
        if PyText.strip (firstItem text') ≠ "" then PyText.strip (firstItem text') else direct) ↔
      SameLeadingItem direct text text' := by
  unfold SameLeadingItem
  by_cases hfirst : PyText.strip (firstItem text) = "" <;>
    by_cases hsecond : PyText.strip (firstItem text') = ""
  · simp [hfirst, hsecond]
  · -- a blank item against one that is not: they agree where that one is the proxy
    simp only [hfirst, hsecond, ne_eq, not_true_eq_false, not_false_eq_true, ↓reduceIte]
    constructor
    · exact fun h => Or.inr (Or.inl ⟨trivial, h.symm⟩)
    · rintro (h | ⟨_, h⟩ | ⟨_, h⟩)
      · exact absurd h.symm hsecond
      · exact h.symm
      · cases h
  · simp only [hfirst, hsecond, ne_eq, not_true_eq_false, not_false_eq_true, ↓reduceIte]
    constructor
    · exact fun h => Or.inr (Or.inr ⟨h, trivial⟩)
    · rintro (h | ⟨h, _⟩ | ⟨h, _⟩)
      · exact h.elim
      · exact h.elim
      · exact h
  · simp [hfirst, hsecond]

/-! ## Requests of one client -/

/-- A direct peer that is no trusted proxy is known by its own address, whatever it sends. Behind a
trusted proxy two requests of one client are known by the same address exactly when their header
lines begin with the same item; for a client that sends none that is its address, and a blank item
stands for the proxy. -/
theorem client_ip_fixed_iff (trustedProxyIps : List String) (direct : String) :
    (direct ∉ trustedProxyIps → ∀ forwardedFor,
      clientIp trustedProxyIps { client := some direct, forwardedFor := forwardedFor } = direct ∧
        rateLimitKey trustedProxyIps { client := some direct, forwardedFor := forwardedFor } =
          direct) ∧
      (direct ∈ trustedProxyIps → ∀ peer lines lines',
        (clientIp trustedProxyIps (proxied direct peer lines) =
              clientIp trustedProxyIps (proxied direct peer lines') ∧
            rateLimitKey trustedProxyIps (proxied direct peer lines) =
              rateLimitKey trustedProxyIps (proxied direct peer lines')) ↔
          SameLeadingItem direct (leadingLine peer lines) (leadingLine peer lines')) := by
  refine ⟨fun huntrusted forwardedFor => ?_, fun htrusted peer lines lines' => ?_⟩
  · have hip : clientIp trustedProxyIps { client := some direct, forwardedFor := forwardedFor } =
        direct := if_neg fun h => huntrusted h.2
    exact ⟨hip, (rateLimitKey_eq_clientIp trustedProxyIps rfl).trans hip⟩
  · rw [rateLimitKey_eq_clientIp trustedProxyIps rfl, rateLimitKey_eq_clientIp trustedProxyIps rfl,
      and_self, clientIp_proxied htrusted, clientIp_proxied htrusted]
    exact leadingItem_eq_iff direct _ _

omit [PyText] in
/-- A client behind the proxy names another address than its own, and is known by it. -/
theorem client_chooses_ip :
    (@clientIp asciiText ["127.0.0.1", "::1"] (proxied "127.0.0.1" "203.0.113.9" []) =
        "203.0.113.9" ∧
      @clientIp asciiText ["127.0.0.1", "::1"]
          (proxied "127.0.0.1" "203.0.113.9" ["198.51.100.7"]) = "198.51.100.7") ∧
      @rateLimitKey asciiText ["127.0.0.1", "::1"] (proxied "127.0.0.1" "203.0.113.9" []) ≠
        @rateLimitKey asciiText ["127.0.0.1", "::1"]
          (proxied "127.0.0.1" "203.0.113.9" ["198.51.100.7"]) := by
  refine ⟨⟨?_, ?_⟩, ?_⟩ <;> decide

end IsePortal
