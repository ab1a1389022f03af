import IsePortal.Platform.Json
import IsePortal.Platform.Words

/-!
# The syntax check of a DACL

`validate_dacl` of `app/services/dacl_service.py`: a consumer of the words of each line that works
by index. `WellFormed` is what a line should be; `validate_ace` tells for every line which of four
things happens to it, and `dacl_validation_iff` when the check of a whole text can be relied on.
-/

namespace IsePortal.Dacl

/-- What `int` and `\d` know of a character beyond ASCII. -/
class PyDigits where
  /-- `unicodedata.decimal`, where a character has one. -/
  decimal : Char → Option Nat

/-- `DaclLineIssue` -/
structure DaclLineIssue where
  line : Nat
  text : String
  severity : String
  message : String
deriving DecidableEq

/-- `DaclValidationResult` -/
structure DaclValidationResult where
  ok : Bool
  issues : List DaclLineIssue
deriving DecidableEq

/-- `_PROTOCOLS` -/
def protocols : List String :=
  ["ip", "icmp", "igmp", "tcp", "udp", "esp", "ahp", "ah", "gre", "eigrp", "ospf", "pim", "nos",
    "pcp", "sctp", "ipinip", "object-group", "ipv6", "icmpv6"]

/-- `_PORT_OPS` -/
def portOps : List String := ["eq", "neq", "gt", "lt", "range"]

/-- The protocols with ports. -/
def portProtocols : List String := ["tcp", "udp", "sctp"]

section Texts

variable [PyText] [PyDigits]

/-- `str.isdigit()` -/
def isDigits (text : String) : Bool := !text.toList.isEmpty && text.toList.all PyText.isDigit

/-- The value of decimal digits; `none` where a character is none. -/
def decimalValue (digits : List Char) : Option Nat :=
  (digits.mapM PyDigits.decimal).map fun values => values.foldl (fun n value => 10 * n + value) 0

/-- `int(text)` on a text of digits: it refuses digits without a decimal value, and more than 4300
of them. -/
def toInt (text : String) : Except PyError Nat :=
  if 4300 < text.toList.length then .error .valueError
  else
    match decimalValue text.toList with
    | some n => .ok n
    | none => .error .valueError

/-- `\d{1,3}` -/
def shortNumber (digits : List Char) : Bool :=
  1 ≤ digits.length && digits.length ≤ 3 && digits.all fun c => (PyDigits.decimal c).isSome

/-- `_ipv4_ok`: `_IPV4_RE` and the bound on each part. -/
def ipv4Ok (s : String) : Bool :=
  let parts := s.toList.splitOn '.'
  parts.length = 4 && parts.all shortNumber &&
    parts.all fun p => (decimalValue p).any fun n => decide (n ≤ 255)

/-- `_IPV6_RE` -/
def ipv6Ok (s : String) : Bool :=
  !s.toList.isEmpty && s.toList.all fun c =>
    c.isDigit || ('a' ≤ c && c ≤ 'f') || ('A' ≤ c && c ≤ 'F') || c = ':'

/-- `_IPV6_PREFIX_RE` -/
def ipv6NetworkOk (s : String) : Bool :=
  match splitOnce '/' s with
  | some (address, bits) => ipv6Ok address && shortNumber bits.toList
  | none => false

/-- `_NAME_RE` -/
def nameOk (s : String) : Bool :=
  !s.toList.isEmpty && s.toList.all fun c => c.isAlphanum || c = '_' || c = '-' || c = '.'

/-- `_consume_address` -/
def consumeAddress (tokens : List String) (i : Nat) (ipv6 : Bool) : Nat × Option String :=
  match tokens[i]? with
  | none => (i, some "manglende adresse")
  | some first =>
      let tok := PyText.lower first
      if tok = "any" then (i + 1, none)
      else if tok = "host" then
        match tokens[i + 1]? with
        | none => (i + 1, some "'host' uden adresse")
        | some addr =>
            if ipv6 then
              if ipv6Ok addr then (i + 2, none)
              else (i + 2, some s!"ugyldig IPv6-adresse: {addr}")
            else if ipv4Ok addr then (i + 2, none)
            else (i + 2, some s!"ugyldig IPv4-adresse: {addr}")
      else if tok = "object-group" then
        match tokens[i + 1]? with
        | none => (i + 2, some "object-group mangler gyldigt navn")
        | some name =>
            if nameOk name then (i + 2, none)
            else (i + 2, some "object-group mangler gyldigt navn")
      else if ipv6 then
        if ipv6NetworkOk first then (i + 1, none)
        else if ipv6Ok first then (i + 1, none)
        else (i + 1, some s!"ugyldig IPv6-adresse: {first}")
      else if ipv4Ok first then
        match tokens[i + 1]? with
        | none => (i + 1, some "IPv4-adresse uden wildcard-maske (eller brug 'host')")
        | some mask =>
            if ipv4Ok mask then (i + 2, none)
            else (i + 2, some s!"ugyldig wildcard-maske: {mask}")
      else (i + 1, some s!"ukendt adresse-spec: {first}")

/-- How many arguments a port operator takes. -/
def portArguments (op : String) : Nat := if op = "range" then 2 else 1

/-- `_consume_port_spec` -/
def consumePortSpec (tokens : List String) (i : Nat) : Nat × Option String :=
  match tokens[i]? with
  | none => (i, none)
  | some first =>
      let op := PyText.lower first
      if op ∉ portOps then (i, none)
      else
        let needed := portArguments op
        if tokens.length ≤ i + needed then
          (i + 1, some s!"port-operator '{op}' mangler argument(er)")
        else (i + 1 + needed, none)

/-- What was consumed, or the message with the part of the line it is about. -/
def labelled (label : String) : Nat × Option String → Except String Nat
  | (i, none) => .ok i
  | (_, some err) => .error s!"{label}: {err}"

/-- The ports of `tcp`, `udp` and `sctp`. -/
def consumePorts (label : String) (tokens : List String) (proto : String) (i : Nat) :
    Except String Nat :=
  if proto ∈ portProtocols then labelled label (consumePortSpec tokens i) else .ok i

/-- The parts of a line from its source on. -/
def consumeParts (tokens : List String) (proto : String) (ipv6 : Bool) : Except String Nat := do
  let i ← labelled "src" (consumeAddress tokens 2 ipv6)
  let i ← consumePorts "src port" tokens proto i
  let i ← labelled "dst" (consumeAddress tokens i ipv6)
  consumePorts "dst port" tokens proto i

/-- Whether a protocol is a keyword or a number up to 255. -/
def knownProtocol (proto : String) : Except PyError Bool :=
  if proto ∈ protocols then .ok true
  else if isDigits proto then (toInt proto).map fun n => decide (n ≤ 255)
  else .ok false

/-- A blank line or a comment. -/
def skipped (raw : String) : Bool :=
  match strip raw.toList with
  | [] => true
  | c :: _ => c = '!' || c = '#'

/-- The words of a line after an optional sequence number. -/
def lineTokens (raw : String) : List String :=
  match splitWords (String.ofList (strip raw.toList)) with
  | [] => []
  | first :: rest => if isDigits first then rest else first :: rest

/-- The check of a line with a known protocol, from its source on. -/
def validateKnown (lineNo : Nat) (raw : String) (tokens : List String) (proto : String)
    (ipv6 : Bool) : Except PyError (Option DaclLineIssue) :=
  let srcFirst := (tokens[2]?.map PyText.lower).getD ""
  if srcFirst ≠ "" ∧ srcFirst ≠ "any" then
    .ok (some ⟨lineNo, raw, "error",
      "src skal være 'any' i DACL — ISE erstatter selv med " ++
        "klient-IP'en ved push (ISE afviser ellers hele DACL'en)"⟩)
  else
    match consumeParts tokens proto ipv6 with
    | .error message => .ok (some ⟨lineNo, raw, "error", message⟩)
    | .ok _ => .ok none

/-- `_validate_line` -/
def validateLine (lineNo : Nat) (raw : String) (ipv6 : Bool) :
    Except PyError (Option DaclLineIssue) :=
  if skipped raw then .ok none
  else
    match lineTokens raw with
    | [] => .ok (some ⟨lineNo, raw, "error", "tom ACE"⟩)
    | first :: rest =>
        let action := PyText.lower first
        if action ∉ ["permit", "deny", "remark"] then
          .ok (some ⟨lineNo, raw, "error",
            s!"linje skal starte med permit/deny/remark (fandt '{first}')"⟩)
        else if action = "remark" then .ok none
        else
          match rest with
          | [] => .ok (some ⟨lineNo, raw, "error", "manglende protocol efter permit/deny"⟩)
          | second :: _ => do
              let proto := PyText.lower second
              if ← knownProtocol proto then validateKnown lineNo raw (lineTokens raw) proto ipv6
              else
                .ok (some ⟨lineNo, raw, "warning",
                  s!"ukendt protocol '{second}' (accepterer ISE evt. alligevel)"⟩)

/-- The loop over the lines of `validate_dacl`. -/
def validateLines (ipv6 : Bool) : Nat → List String → Except PyError (List DaclLineIssue)
  | _, [] => .ok []
  | n, raw :: rest => do
      let issue ← validateLine n raw ipv6
      let issues ← validateLines ipv6 (n + 1) rest
      .ok (issue.toList ++ issues)

/-- `has_any_ace` for one line: it has words, and is no comment or remark. -/
def hasAce (raw : String) : Bool :=
  !skipped raw && match splitWords (String.ofList (strip raw.toList)) with
    | [] => false
    | first :: _ => PyText.lower first ≠ "remark"

/-- `validate_dacl` -/
def validateDacl (text daclType : String) : Except PyError DaclValidationResult := do
  let ipv6 := decide (PyText.upper daclType = "IPV6")
  let issues ← validateLines ipv6 1 (splitLines text)
  let issues :=
    if (splitLines text).any hasAce || (strip text.toList).isEmpty then issues
    else issues ++ [⟨0, "", "warning", "ingen permit/deny linjer fundet"⟩]
  let hasError := issues.any fun issue => issue.severity = "error"
  .ok { ok := !hasError, issues := issues }

/-! ## What a line should be -/

/-- A word that introduces no other form of address. -/
def Plain (tok : String) : Prop := PyText.lower tok ∉ ["any", "host", "object-group"]

/-- An address at the front of some words, and the words after it. -/
inductive Address (ipv6 : Bool) : List String → List String → Prop where
  | any (tok rest) : PyText.lower tok = "any" → Address ipv6 (tok :: rest) rest
  | host (tok addr rest) :
      PyText.lower tok = "host" → (if ipv6 then ipv6Ok addr = true else ipv4Ok addr = true) →
      Address ipv6 (tok :: addr :: rest) rest
  | group (tok name rest) :
      PyText.lower tok = "object-group" → nameOk name = true →
      Address ipv6 (tok :: name :: rest) rest
  | network (tok rest) :
      ipv6 = true → Plain tok → ipv6NetworkOk tok = true ∨ ipv6Ok tok = true →
      Address ipv6 (tok :: rest) rest
  | wildcard (tok mask rest) :
      ipv6 = false → Plain tok → ipv4Ok tok = true → ipv4Ok mask = true →
      Address ipv6 (tok :: mask :: rest) rest

/-- An optional port specification at the front of some words, complete where there is one. -/
inductive Port : List String → List String → Prop where
  | absent (tokens) :
      (∀ tok, tokens.head? = some tok → PyText.lower tok ∉ portOps) → Port tokens tokens
  | present (op args rest) :
      PyText.lower op ∈ portOps → args.length = portArguments (PyText.lower op) →
      Port (op :: (args ++ rest)) rest

/-- The ports of a protocol that has them. -/
def PortPart (proto : String) (tokens rest : List String) : Prop :=
  if proto ∈ portProtocols then Port tokens rest else rest = tokens

/-- `permit` or `deny`. -/
def IsAction (tok : String) : Prop := PyText.lower tok ∈ ["permit", "deny"]

/-- What a line should be: an action, a protocol, the source `any`, an optional source port, a
destination and an optional destination port. What follows is left to ISE. -/
def WellFormed (ipv6 : Bool) (tokens : List String) : Prop :=
  ∃ action proto src rest afterPort afterDst trailing,
    tokens = action :: proto :: src :: rest ∧ IsAction action ∧
      knownProtocol (PyText.lower proto) = .ok true ∧ PyText.lower src = "any" ∧
      PortPart (PyText.lower proto) rest afterPort ∧ Address ipv6 afterPort afterDst ∧
      PortPart (PyText.lower proto) afterDst trailing

/-- A line whose protocol is no keyword and no number up to 255. -/
def UnknownProtocol (tokens : List String) : Prop :=
  ∃ action proto rest, tokens = action :: proto :: rest ∧ IsAction action ∧
    knownProtocol (PyText.lower proto) = .ok false

/-- A line whose protocol is digits that `int` refuses. -/
def RefusedProtocol (tokens : List String) : Prop :=
  ∃ action proto rest, tokens = action :: proto :: rest ∧ IsAction action ∧
    ∃ fault, knownProtocol (PyText.lower proto) = .error fault

/-- The words of a line that is not blank, a comment or a remark. -/
def aceTokens (raw : String) : Option (List String) :=
  if skipped raw ∨ (lineTokens raw).head?.map PyText.lower = some "remark" then none
  else some (lineTokens raw)

/-! ## Addresses and ports -/

variable {tokens rest other : List String} {i j : Nat} {ipv6 : Bool} {tok proto label : String}

omit [PyText] [PyDigits] in
theorem drop_eq_cons_iff :
    tokens.drop i = tok :: rest ↔ tokens[i]? = some tok ∧ tokens.drop (i + 1) = rest := by
  constructor
  · intro h
    refine ⟨?_, ?_⟩
    · have hhead := congrArg (fun list : List String => list[0]?) h
      simpa using hhead
    · rw [← List.drop_drop, h]
      rfl
  · rintro ⟨htok, rfl⟩
    obtain ⟨hlt, rfl⟩ := List.getElem?_eq_some_iff.mp htok
    exact List.drop_eq_getElem_cons hlt

/-- What is consumed is an address. -/
theorem address_of_consume (h : consumeAddress tokens i ipv6 = (j, none)) :
    Address ipv6 (tokens.drop i) (tokens.drop j) := by
  unfold consumeAddress at h
  split at h
  · cases h
  · rename_i first hfirst
    have hdrop := drop_eq_cons_iff.mpr ⟨hfirst, rfl⟩
    have htwo : ∀ {next}, tokens[i + 1]? = some next →
        tokens.drop i = first :: next :: tokens.drop (i + 2) := by
      intro next hnext
      rw [hdrop, drop_eq_cons_iff.mpr ⟨hnext, rfl⟩]
    dsimp only at h
    split at h
    · rename_i hany
      cases h
      rw [hdrop]
      exact .any first _ hany
    · rename_i hany
      split at h
      · rename_i hhost
        split at h
        · cases h
        · rename_i addr hnext
          rw [htwo hnext]
          split at h
          · rename_i hsix
            split at h
            · rename_i hok
              cases h
              exact .host first addr _ hhost (by rw [if_pos hsix]; exact hok)
            · cases h
          · rename_i hfour
            split at h
            · rename_i hok
              cases h
              exact .host first addr _ hhost (by rw [if_neg hfour]; exact hok)
            · cases h
      · rename_i hhost
        split at h
        · rename_i hgroup
          split at h
          · cases h
          · rename_i name hnext
            rw [htwo hnext]
            split at h
            · rename_i hok
              cases h
              exact .group first name _ hgroup hok
            · cases h
        · rename_i hgroup
          have hplain : Plain first := by simp [Plain, hany, hhost, hgroup]
          split at h
          · rename_i hsix
            split at h
            · rename_i hok
              cases h
              rw [hdrop]
              exact .network first _ hsix hplain (Or.inl hok)
            · split at h
              · rename_i hok
                cases h
                rw [hdrop]
                exact .network first _ hsix hplain (Or.inr hok)
              · cases h
          · rename_i hfour
            split at h
            · rename_i hok
              split at h
              · cases h
              · rename_i mask hnext
                split at h
                · rename_i hmask
                  cases h
                  rw [htwo hnext]
                  exact .wildcard first mask _ (by simpa using hfour) hplain hok hmask
                · cases h
            · cases h

/-- An address at the front is consumed. -/
theorem Address.consume (h : Address ipv6 (tokens.drop i) rest) :
    ∃ j, consumeAddress tokens i ipv6 = (j, none) ∧ tokens.drop j = rest := by
  have htwo : ∀ {first next : String}, tokens.drop i = first :: next :: rest →
      tokens[i]? = some first ∧ tokens[i + 1]? = some next ∧ tokens.drop (i + 2) = rest := by
    intro first next hdrop
    obtain ⟨hfirst, hnext⟩ := drop_eq_cons_iff.mp hdrop
    exact ⟨hfirst, drop_eq_cons_iff.mp hnext⟩
  generalize hfront : tokens.drop i = front at h
  cases h with
  | any tok rest hany =>
      obtain ⟨hfirst, hrest⟩ := drop_eq_cons_iff.mp hfront
      exact ⟨i + 1, by simp [consumeAddress, hfirst, hany], hrest⟩
  | host tok addr rest hhost hok =>
      obtain ⟨hfirst, hnext, hrest⟩ := htwo hfront
      refine ⟨i + 2, ?_, hrest⟩
      cases ipv6 <;> simp_all [consumeAddress]
  | group tok name rest hgroup hok =>
      obtain ⟨hfirst, hnext, hrest⟩ := htwo hfront
      exact ⟨i + 2, by simp [consumeAddress, hfirst, hnext, hgroup, hok], hrest⟩
  | network tok rest hsix hplain hok =>
      obtain ⟨hfirst, hrest⟩ := drop_eq_cons_iff.mp hfront
      obtain ⟨hany, hhost, hgroup⟩ : PyText.lower tok ≠ "any" ∧ PyText.lower tok ≠ "host" ∧
          PyText.lower tok ≠ "object-group" := by simpa [Plain] using hplain
      refine ⟨i + 1, ?_, hrest⟩
      simp only [consumeAddress, hfirst, hany, hhost, hgroup, hsix, ↓reduceIte]
      rcases hok with hok | hok <;> simp [hok]
  | wildcard tok mask rest hfour hplain hok hmask =>
      obtain ⟨hfirst, hnext, hrest⟩ := htwo hfront
      obtain ⟨hany, hhost, hgroup⟩ : PyText.lower tok ≠ "any" ∧ PyText.lower tok ≠ "host" ∧
          PyText.lower tok ≠ "object-group" := by simpa [Plain] using hplain
      exact ⟨i + 2, by simp [consumeAddress, hfirst, hnext, hany, hhost, hgroup, hfour, hok, hmask],
        hrest⟩

omit [PyDigits] in
/-- What is consumed is an optional port specification. -/
theorem port_of_consume (h : consumePortSpec tokens i = (j, none)) :
    Port (tokens.drop i) (tokens.drop j) := by
  unfold consumePortSpec at h
  split at h
  · rename_i hnone
    cases h
    refine .absent _ fun tok htok => ?_
    rw [List.head?_drop, hnone] at htok
    cases htok
  · rename_i first hfirst
    dsimp only at h
    split at h
    · rename_i hno
      cases h
      refine .absent _ fun tok htok => ?_
      rw [List.head?_drop, hfirst] at htok
      obtain rfl := Option.some.inj htok
      exact hno
    · rename_i hop
      split at h
      · cases h
      · rename_i hlong
        cases h
        have hargs : ((tokens.drop (i + 1)).take (portArguments (PyText.lower first))).length =
            portArguments (PyText.lower first) := by
          rw [List.length_take, List.length_drop]
          omega
        have hport := Port.present first _ ((tokens.drop (i + 1)).drop
          (portArguments (PyText.lower first))) (by simpa using hop) hargs
        rwa [List.take_append_drop, List.drop_drop,
          ← drop_eq_cons_iff.mpr ⟨hfirst, rfl⟩] at hport

omit [PyDigits] in
/-- An optional port specification at the front is consumed. -/
theorem Port.consume (h : Port (tokens.drop i) rest) :
    ∃ j, consumePortSpec tokens i = (j, none) ∧ tokens.drop j = rest := by
  generalize hfront : tokens.drop i = front at h
  cases h with
  | absent front hno =>
      refine ⟨i, ?_, hfront⟩
      unfold consumePortSpec
      cases hfirst : tokens[i]? with
      | none => rfl
      | some first =>
          have hop := hno first (by rw [← hfront, List.head?_drop, hfirst])
          simp [hop]
  | present op args rest hop hargs =>
      obtain ⟨hfirst, hnext⟩ := drop_eq_cons_iff.mp hfront
      have hlength := congrArg List.length hnext
      rw [List.length_drop, List.length_append] at hlength
      have hlt := (List.getElem?_eq_some_iff.mp hfirst).1
      refine ⟨i + 1 + portArguments (PyText.lower op), ?_, ?_⟩
      · have hlong : ¬ tokens.length ≤ i + portArguments (PyText.lower op) := by omega
        simp [consumePortSpec, hfirst, hop, hlong]
      · rw [← List.drop_drop, hnext, List.drop_left' hargs]

omit [PyText] [PyDigits] in
theorem labelled_eq_ok_iff {result : Nat × Option String} :
    labelled label result = .ok j ↔ result = (j, none) := by
  obtain ⟨i, message⟩ := result
  cases message <;> simp [labelled]

omit [PyDigits] in
theorem portPart_of_consume (h : consumePorts label tokens proto i = .ok j) :
    PortPart proto (tokens.drop i) (tokens.drop j) := by
  unfold consumePorts at h
  unfold PortPart
  split at h
  · rename_i hports
    rw [if_pos hports]
    exact port_of_consume (labelled_eq_ok_iff.mp h)
  · rename_i hports
    rw [if_neg hports]
    cases h
    rfl

omit [PyDigits] in
theorem PortPart.consume (label : String) (h : PortPart proto (tokens.drop i) rest) :
    ∃ j, consumePorts label tokens proto i = .ok j ∧ tokens.drop j = rest := by
  unfold PortPart at h
  split at h
  · rename_i hports
    obtain ⟨j, hconsume, hrest⟩ := h.consume
    exact ⟨j, by rw [consumePorts, if_pos hports, labelled_eq_ok_iff, hconsume], hrest⟩
  · rename_i hports
    exact ⟨i, by rw [consumePorts, if_neg hports], h.symm⟩

/-- The parts of a line are consumed exactly when they are what they should be. -/
theorem consumeParts_ok_iff :
    (∃ i, consumeParts tokens proto ipv6 = .ok i) ↔
      ∃ afterSrc afterPort afterDst trailing,
        Address ipv6 (tokens.drop 2) afterSrc ∧ PortPart proto afterSrc afterPort ∧
          Address ipv6 afterPort afterDst ∧ PortPart proto afterDst trailing := by
  have hbind : ∀ {step : Except String Nat} {next : Nat → Except String Nat} {i : Nat},
      (step >>= next) = .ok i ↔ ∃ j, step = .ok j ∧ next j = .ok i := by
    intro step next i
    cases step <;> simp [bind, Except.bind]
  unfold consumeParts
  simp only [hbind]
  constructor
  · rintro ⟨i₄, i₁, hsrc, i₂, hsport, i₃, hdst, hdport⟩
    exact ⟨_, _, _, _, address_of_consume (labelled_eq_ok_iff.mp hsrc), portPart_of_consume hsport,
      address_of_consume (labelled_eq_ok_iff.mp hdst), portPart_of_consume hdport⟩
  · rintro ⟨afterSrc, afterPort, afterDst, trailing, hsrc, hsport, hdst, hdport⟩
    obtain ⟨i₁, hone, rfl⟩ := hsrc.consume
    obtain ⟨i₂, htwo, rfl⟩ := hsport.consume "src port"
    obtain ⟨i₃, hthree, rfl⟩ := hdst.consume
    obtain ⟨i₄, hfour, rfl⟩ := hdport.consume "dst port"
    exact ⟨i₄, i₁, labelled_eq_ok_iff.mpr hone, i₂, htwo, i₃, labelled_eq_ok_iff.mpr hthree, hfour⟩

/-! ## One line -/

/-- A source that is `any` leaves the rest of the line. -/
theorem Address.of_any (h : Address ipv6 (tok :: other) rest) (hany : PyText.lower tok = "any") :
    rest = other := by
  cases h with
  | any => rfl
  | host _ _ _ hhost => simp [hany] at hhost
  | group _ _ _ hgroup => simp [hany] at hgroup
  | network _ _ _ hplain => simp [Plain, hany] at hplain
  | wildcard _ _ _ _ hplain => simp [Plain, hany] at hplain

/-- A line with a known protocol is passed exactly when its source is `any` and the rest is what it
should be. -/
theorem wellFormed_iff {action src : String} (haction : IsAction action)
    (hproto : knownProtocol (PyText.lower proto) = .ok true) :
    WellFormed ipv6 (action :: proto :: src :: rest) ↔
      PyText.lower src = "any" ∧
        ∃ i, consumeParts (action :: proto :: src :: rest) (PyText.lower proto) ipv6 = .ok i := by
  rw [consumeParts_ok_iff]
  constructor
  · rintro ⟨_, _, _, _, afterPort, afterDst, trailing, heq, -, -, hany, hsport, hdst, hdport⟩
    simp only [List.cons.injEq] at heq
    obtain ⟨rfl, rfl, rfl, rfl⟩ := heq
    exact ⟨hany, _, afterPort, afterDst, trailing, .any src rest hany, hsport, hdst, hdport⟩
  · rintro ⟨hany, afterSrc, afterPort, afterDst, trailing, hsrc, hsport, hdst, hdport⟩
    obtain rfl := Address.of_any hsrc hany
    exact ⟨action, proto, src, _, afterPort, afterDst, trailing, rfl, haction, hproto, hany,
      hsport, hdst, hdport⟩

theorem not_unknown_of_known {action : String}
    (hproto : knownProtocol (PyText.lower proto) = .ok true) :
    ¬ RefusedProtocol (action :: proto :: rest) ∧ ¬ UnknownProtocol (action :: proto :: rest) := by
  constructor
  · rintro ⟨_, _, _, heq, -, fault, hrefused⟩
    simp only [List.cons.injEq] at heq
    obtain ⟨rfl, rfl, rfl⟩ := heq
    rw [hproto] at hrefused
    cases hrefused
  · rintro ⟨_, _, _, heq, -, hunknown⟩
    simp only [List.cons.injEq] at heq
    obtain ⟨rfl, rfl, rfl⟩ := heq
    rw [hproto] at hunknown
    cases hunknown

/-- A line that does not begin with an action and a protocol is none of the three. -/
theorem shapeless (h : ∀ action proto rest, tokens = action :: proto :: rest → ¬ IsAction action) :
    ¬ RefusedProtocol tokens ∧ ¬ UnknownProtocol tokens ∧ ¬ WellFormed ipv6 tokens := by
  refine ⟨?_, ?_, ?_⟩
  · rintro ⟨action, proto, rest, heq, haction, -⟩
    exact h action proto rest heq haction
  · rintro ⟨action, proto, rest, heq, haction, -⟩
    exact h action proto rest heq haction
  · rintro ⟨action, proto, src, rest, -, -, -, heq, haction, -⟩
    exact h action proto (src :: rest) heq haction

omit [PyDigits] in
theorem lower_ne_empty [LawfulText] (h : tok ≠ "") : PyText.lower tok ≠ "" := by
  intro hlower
  have hempty : "".toList <:+: tok.toList := List.nil_infix ..
  have hsame := LawfulText.lower_infix hempty (PyText.lower_empty.trans hlower.symm)
  exact h hsame.symm

omit [PyDigits] in
theorem lineTokens_ne_empty {raw : String} (h : tok ∈ lineTokens raw) : tok ≠ "" := by
  unfold lineTokens at h
  split at h
  · cases h
  · rename_i first rest hwords
    have hword : tok ∈ splitWords (String.ofList (strip raw.toList)) := by
      rw [hwords]
      split at h
      · exact List.mem_cons_of_mem _ h
      · exact h
    exact split_words_ne_empty hword

variable {raw : String}

/-- With a known protocol it is the rest of the line that decides. -/
theorem validate_known (n : Nat) (raw : String) {action : String} (haction : IsAction action)
    (hproto : knownProtocol (PyText.lower proto) = .ok true)
    (hvisible : ∀ tok ∈ action :: proto :: rest, PyText.lower tok ≠ "") :
    (WellFormed ipv6 (action :: proto :: rest) ∧
      validateKnown n raw (action :: proto :: rest) (PyText.lower proto) ipv6 = .ok none) ∨
    ((¬ RefusedProtocol (action :: proto :: rest) ∧ ¬ UnknownProtocol (action :: proto :: rest) ∧
        ¬ WellFormed ipv6 (action :: proto :: rest)) ∧
      ∃ issue, validateKnown n raw (action :: proto :: rest) (PyText.lower proto) ipv6 =
        .ok (some issue) ∧ issue.severity = "error") := by
  obtain ⟨hrefused, hunknown⟩ : ¬ RefusedProtocol (action :: proto :: rest) ∧
      ¬ UnknownProtocol (action :: proto :: rest) := not_unknown_of_known hproto
  unfold validateKnown
  dsimp only
  match rest with
  | [] =>
      have hshort : ¬ WellFormed ipv6 [action, proto] := by
        rintro ⟨_, _, _, _, _, _, _, heq, -⟩
        simp at heq
      rw [if_neg (by simp)]
      cases hparts : consumeParts [action, proto] (PyText.lower proto) ipv6 with
      | error message => exact Or.inr ⟨⟨hrefused, hunknown, hshort⟩, _, rfl, rfl⟩
      | ok i =>
          obtain ⟨_, _, _, _, hsrc, -⟩ := consumeParts_ok_iff.mp ⟨i, hparts⟩
          cases hsrc
  | src :: others =>
      have hsrc : (((action :: proto :: src :: others)[2]?).map PyText.lower).getD "" =
          PyText.lower src := rfl
      rw [hsrc]
      by_cases hany : PyText.lower src = "any"
      · rw [if_neg fun hboth => hboth.2 hany]
        cases hparts : consumeParts (action :: proto :: src :: others) (PyText.lower proto)
            ipv6 with
        | error message =>
            refine Or.inr ⟨⟨hrefused, hunknown, fun hgood => ?_⟩, _, rfl, rfl⟩
            obtain ⟨-, i, hok⟩ := (wellFormed_iff haction hproto).mp hgood
            rw [hparts] at hok
            cases hok
        | ok i => exact Or.inl ⟨(wellFormed_iff haction hproto).mpr ⟨hany, i, hparts⟩, rfl⟩
      · rw [if_pos ⟨hvisible src (by simp), hany⟩]
        refine Or.inr ⟨⟨hrefused, hunknown, fun hgood => ?_⟩, _, rfl, rfl⟩
        exact hany ((wellFormed_iff haction hproto).mp hgood).1

/-- The check of a line raises for a protocol that `int` refuses, warns of an unknown one, passes a
line that is what it should be and finds an error in every other one. -/
theorem validate_ace [LawfulText] (n : Nat) (ipv6 : Bool) (h : aceTokens raw = some tokens) :
    (RefusedProtocol tokens ∧ ∃ fault, validateLine n raw ipv6 = .error fault) ∨
    (UnknownProtocol tokens ∧ ∃ issue, validateLine n raw ipv6 = .ok (some issue) ∧
      issue.severity = "warning") ∨
    (WellFormed ipv6 tokens ∧ validateLine n raw ipv6 = .ok none) ∨
    ((¬ RefusedProtocol tokens ∧ ¬ UnknownProtocol tokens ∧ ¬ WellFormed ipv6 tokens) ∧
      ∃ issue, validateLine n raw ipv6 = .ok (some issue) ∧ issue.severity = "error") := by
  unfold aceTokens at h
  split at h
  · cases h
  · rename_i hkept
    obtain ⟨hskipped, hremark⟩ := not_or.mp hkept
    have htokens : lineTokens raw = tokens := Option.some.inj h
    have hvisible : ∀ tok ∈ tokens, PyText.lower tok ≠ "" :=
      fun tok htok => lower_ne_empty (lineTokens_ne_empty (htokens ▸ htok))
    rw [htokens] at hremark
    unfold validateLine
    rw [if_neg hskipped, htokens]
    match tokens with
    | [] => exact Or.inr (Or.inr (Or.inr ⟨shapeless (by simp), _, rfl, rfl⟩))
    | first :: rest =>
        dsimp only
        have hnot : PyText.lower first ≠ "remark" := by simpa using hremark
        by_cases haction : IsAction first
        · have hlisted : ¬ PyText.lower first ∉ ["permit", "deny", "remark"] := by
            rw [IsAction] at haction
            simp only [List.mem_cons, List.not_mem_nil, or_false] at haction ⊢
            exact not_not.mpr (haction.imp_right Or.inl)
          rw [if_neg hlisted, if_neg hnot]
          match rest with
          | [] => exact Or.inr (Or.inr (Or.inr ⟨shapeless (by simp), _, rfl, rfl⟩))
          | second :: tail =>
              dsimp only
              cases hproto : knownProtocol (PyText.lower second) with
              | error fault =>
                  exact Or.inl ⟨⟨first, second, tail, rfl, haction, fault, hproto⟩, fault, rfl⟩
              | ok known =>
                  cases known with
                  | false =>
                      exact Or.inr (Or.inl
                        ⟨⟨first, second, tail, rfl, haction, hproto⟩, _, rfl, rfl⟩)
                  | true => exact Or.inr (Or.inr (validate_known n raw haction hproto hvisible))
        · refine Or.inr (Or.inr (Or.inr ⟨shapeless ?_, ?_⟩))
          · rintro _ _ _ heq
            rw [← (List.cons.inj heq).1]
            exact haction
          · have hout : PyText.lower first ∉ ["permit", "deny", "remark"] := by
              rw [IsAction] at haction
              simp only [List.mem_cons, List.not_mem_nil, or_false, not_or] at haction ⊢
              exact ⟨haction.1, haction.2, hnot⟩
            rw [if_pos hout]
            exact ⟨_, rfl, rfl⟩

/-! ## A whole text -/

theorem validate_skipped (n : Nat) (ipv6 : Bool) (h : aceTokens raw = none) :
    validateLine n raw ipv6 = .ok none := by
  unfold aceTokens at h
  split at h
  · rename_i hskip
    unfold validateLine
    split
    · rfl
    · rename_i hvisible
      have hremark := hskip.resolve_left hvisible
      cases htokens : lineTokens raw with
      | nil => simp [htokens] at hremark
      | cons first rest =>
          have haction : PyText.lower first = "remark" := by simpa [htokens] using hremark
          simp [haction]
  · cases h

/-- A line in error, as far as its protocol lets the check see it. -/
def InError (ipv6 : Bool) (tokens : List String) : Prop :=
  ¬ RefusedProtocol tokens ∧ ¬ UnknownProtocol tokens ∧ ¬ WellFormed ipv6 tokens

/-- What the check of a line gives, by what the line is. -/
theorem validateLine_eq [LawfulText] (n : Nat) (raw : String) (ipv6 : Bool) :
    ((∃ fault, validateLine n raw ipv6 = .error fault) ∧
      ∃ tokens, aceTokens raw = some tokens ∧ RefusedProtocol tokens) ∨
    ((∀ tokens, aceTokens raw = some tokens → ¬ RefusedProtocol tokens) ∧
      ∃ issue : Option DaclLineIssue, validateLine n raw ipv6 = .ok issue ∧
        ((∃ found ∈ issue, found.severity = "error") ↔
          ∃ tokens, aceTokens raw = some tokens ∧ InError ipv6 tokens)) := by
  cases hace : aceTokens raw with
  | none =>
      refine Or.inr ⟨by simp, none, validate_skipped n ipv6 hace, by simp⟩
  | some tokens =>
      rcases validate_ace n ipv6 hace with ⟨hrefused, hfault⟩ | ⟨hunknown, issue, hline, hwarn⟩ |
        ⟨hgood, hline⟩ | ⟨hbad, issue, hline, herror⟩
      · exact Or.inl ⟨hfault, tokens, rfl, hrefused⟩
      · have hknown : ¬ RefusedProtocol tokens := by
          obtain ⟨action, proto, rest, rfl, -, hproto⟩ := hunknown
          rintro ⟨_, _, _, heq, -, fault, hrefused⟩
          simp only [List.cons.injEq] at heq
          obtain ⟨rfl, rfl, rfl⟩ := heq
          rw [hproto] at hrefused
          cases hrefused
        refine Or.inr ⟨by simpa using hknown, some issue, hline, ?_⟩
        refine iff_of_false ?_ ?_
        · rintro ⟨found, hfound, herror⟩
          obtain rfl := Option.some.inj hfound
          rw [hwarn] at herror
          exact absurd herror (by decide)
        · rintro ⟨_, heq, hbad⟩
          obtain rfl := Option.some.inj heq
          exact hbad.2.1 hunknown
      · have hgood' := hgood
        obtain ⟨action, proto, src, rest, _, _, _, rfl, -, hproto, -⟩ := hgood'
        refine Or.inr ⟨?_, none, hline, ?_⟩
        · simpa using (not_unknown_of_known hproto).1
        · refine iff_of_false (by simp) ?_
          rintro ⟨_, heq, hbad⟩
          obtain rfl := Option.some.inj heq
          exact hbad.2.2 hgood
      · refine Or.inr ⟨by simpa using hbad.1, some issue, hline, ?_⟩
        exact iff_of_true ⟨issue, rfl, herror⟩ ⟨tokens, rfl, hbad⟩

/-- The loop raises at a refused protocol, and otherwise finds the errors there are. -/
theorem validateLines_eq [LawfulText] (ipv6 : Bool) (lines : List String) (n : Nat) :
    ((∃ fault, validateLines ipv6 n lines = .error fault) ∧
      ∃ raw ∈ lines, ∃ tokens, aceTokens raw = some tokens ∧ RefusedProtocol tokens) ∨
    ((∀ raw ∈ lines, ∀ tokens, aceTokens raw = some tokens → ¬ RefusedProtocol tokens) ∧
      ∃ issues, validateLines ipv6 n lines = .ok issues ∧
        ((∃ issue ∈ issues, issue.severity = "error") ↔
          ∃ raw ∈ lines, ∃ tokens, aceTokens raw = some tokens ∧ InError ipv6 tokens)) := by
  induction lines generalizing n with
  | nil => exact Or.inr ⟨by simp, [], rfl, by simp⟩
  | cons raw rest ih =>
      rw [validateLines]
      rcases validateLine_eq n raw ipv6 with
        ⟨⟨fault, hfault⟩, hrefused⟩ | ⟨hknown, issue, hline, herror⟩
      · rw [hfault]
        exact Or.inl ⟨⟨fault, rfl⟩, raw, List.mem_cons_self .., hrefused⟩
      · rw [hline]
        rcases ih (n + 1) with ⟨⟨fault, hfault⟩, other, hmem, hrefused⟩ |
          ⟨hothers, issues, hlines, herrors⟩
        · refine Or.inl ⟨⟨fault, ?_⟩, other, List.mem_cons_of_mem _ hmem, hrefused⟩
          simp only [hfault]
          rfl
        · refine Or.inr ⟨List.forall_mem_cons.mpr ⟨hknown, hothers⟩,
            issue.toList ++ issues, ?_, ?_⟩
          · simp only [hlines]
            rfl
          · simp only [List.mem_append, or_and_right, exists_or, List.mem_cons,
              exists_eq_left, Option.mem_toList, herrors]
            exact or_congr_left herror

/-- A text without an error on a line is passed; the warning about missing lines is none. -/
theorem validateDacl_of_lines {text daclType : String} {issues : List DaclLineIssue}
    (h : validateLines (decide (PyText.upper daclType = "IPV6")) 1 (splitLines text) =
      .ok issues) :
    ∃ result, validateDacl text daclType = .ok result ∧
      (result.ok = true ↔ ¬ ∃ issue ∈ issues, issue.severity = "error") := by
  unfold validateDacl
  dsimp only
  rw [h]
  refine ⟨_, rfl, ?_⟩
  dsimp only
  rw [Bool.not_eq_true', ← Bool.not_eq_true, List.any_eq_true]
  refine not_congr ?_
  simp only [decide_eq_true_eq]
  split
  · rfl
  · simp

/-- What a check of a text promises: it returns, and a text it passes has no line that is not what
it should be. -/
def Reliable (text daclType : String) : Prop :=
  ∃ result, validateDacl text daclType = .ok result ∧
    (result.ok = true → ∀ raw ∈ splitLines text, ∀ tokens, aceTokens raw = some tokens →
      WellFormed (decide (PyText.upper daclType = "IPV6")) tokens)

/-- The check of a text can be relied on exactly when no line has a protocol that `int` refuses, and
no line an unknown one unless another line is in error. -/
theorem dacl_validation_iff [LawfulText] (text daclType : String) :
    Reliable text daclType ↔
      (∀ raw ∈ splitLines text, ∀ tokens, aceTokens raw = some tokens →
        ¬ RefusedProtocol tokens) ∧
      ((∀ raw ∈ splitLines text, ∀ tokens, aceTokens raw = some tokens →
        ¬ UnknownProtocol tokens) ∨
        ∃ raw ∈ splitLines text, ∃ tokens, aceTokens raw = some tokens ∧
          ¬ UnknownProtocol tokens ∧
          ¬ WellFormed (decide (PyText.upper daclType = "IPV6")) tokens) := by
  rcases validateLines_eq (decide (PyText.upper daclType = "IPV6")) (splitLines text) 1 with
    ⟨⟨fault, hfault⟩, raw, hraw, tokens, hace, hrefused⟩ | ⟨hknown, issues, hlines, herrors⟩
  · refine iff_of_false ?_ fun hall => hall.1 raw hraw tokens hace hrefused
    rintro ⟨result, hresult, -⟩
    unfold validateDacl at hresult
    dsimp only at hresult
    rw [hfault] at hresult
    cases hresult
  · obtain ⟨result, hresult, hok⟩ := validateDacl_of_lines hlines
    rw [herrors] at hok
    constructor
    · rintro ⟨_, hsame, hlines⟩
      obtain rfl := Except.ok.inj (hresult.symm.trans hsame)
      refine ⟨hknown, ?_⟩
      by_cases herror : ∃ raw ∈ splitLines text, ∃ tokens, aceTokens raw = some tokens ∧
          InError (decide (PyText.upper daclType = "IPV6")) tokens
      · obtain ⟨raw, hraw, tokens, hace, hbad⟩ := herror
        exact Or.inr ⟨raw, hraw, tokens, hace, hbad.2⟩
      · refine Or.inl fun raw hraw tokens hace => ?_
        obtain ⟨action, proto, src, rest, _, _, _, rfl, -, hproto, -⟩ :=
          hlines (hok.mpr herror) raw hraw tokens hace
        exact (not_unknown_of_known hproto).2
    · rintro ⟨-, hcond⟩
      refine ⟨result, hresult, fun hpassed raw hraw tokens hace => ?_⟩
      have hnone := hok.mp hpassed
      rcases hcond with hall | ⟨other, hother, words, hwords, hunknown, hbad⟩
      · by_contra hbad
        exact hnone ⟨raw, hraw, tokens, hace, hknown raw hraw tokens hace,
          hall raw hraw tokens hace, hbad⟩
      · exact absurd ⟨other, hother, words, hwords, hknown other hother words hwords, hunknown,
          hbad⟩ hnone

end Texts

/-! ## Texts the check gets wrong -/

/-- The decimal digits of ASCII; a superscript is none. -/
@[reducible] def asciiDigits : PyDigits where
  decimal c := if c.isDigit then some (c.toNat - '0'.toNat) else none

/-- The text functions on ASCII input and superscripts, which count as digits. -/
@[reducible] def superscriptText : PyText where
  __ := asciiText
  isDigit c := c.isDigit || ['²', '³', '¹'].contains c

section

local instance validationDigits : PyDigits := asciiDigits

/-- An unknown protocol ends the check before the source, and a superscript one raises. -/
theorem unchecked_source :
    ¬ @Reliable asciiText _ "permit foo host 10.0.0.1 any" "IPV4" ∧
      ¬ @Reliable superscriptText _ "permit ² any any" "IPV4" := by
  constructor
  · let _ := asciiText
    rintro ⟨result, hresult, hlines⟩
    have hpassed : validateDacl "permit foo host 10.0.0.1 any" "IPV4" =
        .ok ⟨true, [⟨1, "permit foo host 10.0.0.1 any", "warning",
          "ukendt protocol 'foo' (accepterer ISE evt. alligevel)"⟩]⟩ := by
      with_unfolding_all decide
    obtain rfl := Except.ok.inj (hpassed.symm.trans hresult)
    have hace : aceTokens "permit foo host 10.0.0.1 any" =
        some ["permit", "foo", "host", "10.0.0.1", "any"] := by with_unfolding_all decide
    obtain ⟨_, _, src, _, _, _, _, heq, -, -, hany, -⟩ :=
      hlines rfl "permit foo host 10.0.0.1 any" (by with_unfolding_all decide) _ hace
    simp only [List.cons.injEq] at heq
    obtain ⟨-, -, rfl, -⟩ := heq
    exact absurd hany (by decide)
  · let _ := superscriptText
    rintro ⟨result, hresult, -⟩
    have hraised : validateDacl "permit ² any any" "IPV4" = .error .valueError := by
      with_unfolding_all decide
    rw [hraised] at hresult
    cases hresult

/-- A line with a sequence number and ports. -/
theorem numbered_line_reliable :
    @Reliable asciiText _ "10 permit tcp any eq 80 host 10.0.0.1" "IPV4" := by
  let _ := asciiText
  have hlines : splitLines "10 permit tcp any eq 80 host 10.0.0.1" =
      ["10 permit tcp any eq 80 host 10.0.0.1"] := by with_unfolding_all decide
  have hace : aceTokens "10 permit tcp any eq 80 host 10.0.0.1" =
      some ["permit", "tcp", "any", "eq", "80", "host", "10.0.0.1"] := by with_unfolding_all decide
  have hknown : knownProtocol (PyText.lower "tcp") = .ok true := by with_unfolding_all decide
  refine (@dacl_validation_iff asciiText _ lawful_ascii _ _).mpr ⟨?_, Or.inl ?_⟩
  · rw [hlines]
    intro raw hraw tokens htokens
    rw [List.mem_singleton.mp hraw, hace] at htokens
    obtain rfl := Option.some.inj htokens
    exact (not_unknown_of_known hknown).1
  · rw [hlines]
    intro raw hraw tokens htokens
    rw [List.mem_singleton.mp hraw, hace] at htokens
    obtain rfl := Option.some.inj htokens
    exact (not_unknown_of_known hknown).2

end

end IsePortal.Dacl
