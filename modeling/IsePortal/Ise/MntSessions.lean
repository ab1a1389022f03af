import IsePortal.Ise.Server
import IsePortal.Library.Dict
import IsePortal.Platform.ElementTree

/-!
# The session of an IP address

`session_by_ip` of `app/ise/mnt_sessions.py`. The address lookup of ISE is read by one reader, and
where it answers with 500 the list of the active sessions is searched by another. The first reads
one session, under exact tags without a namespace; the second reads all of them, under tags up to
case and namespace, and goes on where a session has no usable MAC.
-/

namespace IsePortal.Mnt

open Library

variable [PyText]

/-- `CwaSession` -/
structure CwaSession where
  mac : String
  acsSessionId : String
  nasIp : String
  nasPortId : String
  framedIp : String
  deriving DecidableEq

/-- `len(mac) == 17 and mac.count(":") == 5` -/
def macShaped (mac : String) : Bool :=
  mac.toList.length = 17 && mac.toList.count ':' = 5

/-! ## The reader of the address lookup -/

/-- `_get`: the first of the children that has a text. -/
def get (session : Element) (names : List String) : String :=
  (names.findSome? fun name =>
    ((session.find name).bind Element.text).bind fun text =>
      if PyText.strip text = "" then none else some (PyText.strip text)).getD ""

/-- The names under which the address lookup has the MAC. -/
def macNames : List String :=
  ["Calling-Station-ID", "calling_station_id", "callingStationId", "Calling-Station-Id"]

/-- The session of an element, read by exact names. -/
def sessionOfElement (session : Element) : Option CwaSession :=
  let macRaw := get session macNames
  if macRaw = "" then none
  else
    let mac := IseServer.normalizeMac macRaw
    if !macShaped mac then none
    else some {
      mac := mac
      acsSessionId := get session ["ACSSessionID", "acs_session_id", "Session-ID"]
      nasIp := get session ["NAS-IP-Address", "nas_ip_address", "nasIpAddress"]
      nasPortId := get session ["NAS-Port-Id", "nas_port_id", "nasPortId"]
      framedIp := get session ["Framed-IP-Address", "framed_ip_address", "framedIpAddress"] }

omit [PyText] in
/-- `session_el` -/
def sessionElement (root : Element) : Element :=
  if root.tag = "activeSession" ∨ root.tag = "authSession" then root
  else
    -- An element without children is false, and `or` goes on.
    let found := match root.findBelow "activeSession" with
      | some session => if session.truthy then some session else root.findBelow "authSession"
      | none => root.findBelow "authSession"
    found.getD root

/-! ## The reader of the list -/

/-- `tag.lower().endswith("activesession")` -/
def isListed (session : Element) : Bool :=
  decide ("activesession".toList <:+ (PyText.lower session.tag).toList)

/-- The row of a session: its texts under the names in small letters. -/
def rowOf (session : Element) : Dict String String :=
  session.children.foldl (fun row child =>
    row.set (PyText.lower (localName child.tag)) (PyText.strip (child.text.getD ""))) .empty

/-- `_f`: the first of the fields that has a text. -/
def field (row : Dict String String) (keys : List String) : String :=
  (keys.findSome? fun key =>
    let value := PyText.strip ((row.get? key).getD "")
    if value = "" then none else some value).getD ""

/-- The keys under which the list has the MAC. -/
def macKeys : List String :=
  ["calling_station_id", "callingstationid", "calling-station-id", "user_name", "username"]

/-- The keys under which the list has the address. -/
def framedIpKeys : List String :=
  ["framed_ip_address", "framedipaddress", "framed-ip-address"]

/-- `_session_from_active_list_row` -/
def sessionFromActiveListRow (row : Dict String String) : Option CwaSession :=
  let macRaw := field row macKeys
  if macRaw = "" then none
  else
    let mac := IseServer.normalizeMac macRaw
    if !macShaped mac then none
    else some {
      mac := mac
      acsSessionId :=
        field row ["acssessionid", "acs_session_id", "audit_session_id", "auditSessionId"]
      nasIp := field row ["nas_ip_address", "nasipaddress", "nas-ip-address"]
      nasPortId := field row ["nas_port_id", "nasportid", "nas-port-id"]
      framedIp := field row framedIpKeys }

/-! ## The MAC of a session -/

/-- A session: an element one of the readers takes for one, or would without its namespace. -/
def isSession (element : Element) : Bool :=
  isListed element || decide (localName element.tag ∈ ["activeSession", "authSession"])

/-- The framed address of a session, under any of its spellings. -/
def framedIp (session : Element) : String := field (rowOf session) framedIpKeys

/-- A raw text as a MAC, where it has the shape of one. -/
def usableMac (macRaw : String) : Option String :=
  if macRaw = "" then none
  else if macShaped (IseServer.normalizeMac macRaw) then some (IseServer.normalizeMac macRaw)
  else none

/-- The MAC of a session under the exact names. -/
def exactMac (session : Element) : Option String := usableMac (get session macNames)

/-- The MAC of a session under the keys of its row. -/
def rowMac (session : Element) : Option String := usableMac (field (rowOf session) macKeys)

omit [PyText] in
/-- The session the address lookup reads: the first that is tagged exactly as an active session, or
else as an authentication. -/
def addressed (sessions : List Element) : Option Element :=
  (sessions.find? fun session => session.tag = "activeSession").or
    (sessions.find? fun session => session.tag = "authSession")

/-- The first usable MAC among the rows of the sessions. -/
def firstRowMac (sessions : List Element) : Option String :=
  (sessions.filter isListed).findSome? rowMac

theorem sessionOfElement_mac (session : Element) :
    (sessionOfElement session).map CwaSession.mac = exactMac session := by
  rw [sessionOfElement, exactMac, usableMac]
  by_cases hraw : get session macNames = ""
  · simp [hraw]
  · cases hshape : macShaped (IseServer.normalizeMac (get session macNames)) <;>
      simp [hraw, hshape]

theorem sessionFromRow_mac (session : Element) :
    (sessionFromActiveListRow (rowOf session)).map CwaSession.mac = rowMac session := by
  rw [sessionFromActiveListRow, rowMac, usableMac]
  by_cases hraw : field (rowOf session) macKeys = ""
  · simp [hraw]
  · cases hshape : macShaped (IseServer.normalizeMac (field (rowOf session) macKeys)) <;>
      simp [hraw, hshape]

theorem field_empty (row : Dict String String) (hrow : row.entries = []) (keys : List String) :
    field row keys = "" := by
  rw [field, List.findSome?_eq_none_iff.mpr, Option.getD_none]
  intro key _
  simp [Dict.get?, hrow, PyText.strip_empty]

theorem framedIp_of_row {session : Element} {found : CwaSession}
    (h : sessionFromActiveListRow (rowOf session) = some found) :
    found.framedIp = framedIp session := by
  rw [sessionFromActiveListRow] at h
  by_cases hraw : field (rowOf session) macKeys = ""
  · simp [hraw] at h
  · cases hshape : macShaped (IseServer.normalizeMac (field (rowOf session) macKeys)) with
    | false => simp [hraw, hshape] at h
    | true =>
        simp only [hraw, hshape, if_false, Bool.not_true, Bool.false_eq_true,
          Option.some.injEq] at h
        rw [← h, framedIp]

theorem isSession_of_tag {element : Element}
    (h : element.tag = "activeSession" ∨ element.tag = "authSession") :
    isSession element = true := by
  have hmem : localName element.tag ∈ ["activeSession", "authSession"] := by
    rcases h with h | h <;> rw [h] <;> decide
  rw [isSession, decide_eq_true hmem, Bool.or_true]

/-- A session with an address has a child. -/
theorem truthy_of_framedIp {session : Element} (h : framedIp session ≠ "") :
    session.truthy = true := by
  cases hchildren : session.children with
  | cons child rest => rw [Element.truthy, hchildren]; rfl
  | nil =>
      refine absurd ?_ h
      rw [framedIp, rowOf, hchildren, List.foldl_nil, field, List.findSome?_eq_none_iff.mpr,
        Option.getD_none]
      intro key _
      simp [PyText.strip_empty]

theorem get_of_no_name {session : Element} {names : List String}
    (h : ∀ child ∈ session.children, child.tag ∉ names) : get session names = "" := by
  have hnone : ∀ name ∈ names, session.find name = none := by
    intro name hname
    refine List.find?_eq_none.mpr fun child hchild htag => h child hchild ?_
    rwa [of_decide_eq_true htag]
  rw [get, List.findSome?_eq_none_iff.mpr, Option.getD_none]
  intro name hname
  rw [hnone name hname]
  rfl

/-! ## The lookup -/

/-- An answer of MnT. -/
structure Response where
  statusCode : Nat
  text : String
  contentType : String := ""
  location : String := ""

/-- MnT as the portal reaches it: the password of the settings, and the answer to a `GET`, or the
text of the transport error. -/
structure MntServer where
  isePassword : String
  get : String → Except String Response

omit [PyText] in
/-- `_mnt_get_xml` -/
def MntServer.mntGetXml (server : MntServer) (path : String) :
    Except IseApiError (Nat × String) :=
  if server.isePassword = "" then .error { statusCode := 0, message := "ISE password ikke sat." }
  else
    match server.get path with
    | .error exc => .error { statusCode := 0, message := "MnT transport error: " ++ exc }
    | .ok response => .ok (response.statusCode, response.text)

/-- The answer is XML by its content type or its first characters. -/
def Response.isXml (response : Response) : Bool :=
  decide ("xml".toList <:+: (PyText.lower response.contentType).toList) ||
    (response.text.toList.take 20).contains '<'

variable [XmlParser]

/-- `_parse_cwa_session` -/
def parseCwaSession (text : String) : Option CwaSession :=
  (XmlParser.fromString text).bind fun root => sessionOfElement (sessionElement root)

/-- `_parse_session_xml` -/
def parseSessionXml (text : String) : List (Dict String String) :=
  match XmlParser.fromString text with
  | none => []
  | some root =>
      ((root.iter.filter isListed).map rowOf).filter fun row => !row.entries.isEmpty

/-- `fetch_active_sessions` -/
def MntServer.fetchActiveSessions (server : MntServer) :
    Except IseApiError (List (Dict String String)) :=
  if server.isePassword = "" then
    .error { statusCode := 0, message := "ISE password ikke sat — kan ikke kalde MnT." }
  else
    match server.get "/admin/API/mnt/Session/ActiveList" with
    | .error exc => .error { statusCode := 0, message := "MnT transport error: " ++ exc }
    | .ok response =>
        if response.statusCode ∈ [301, 302, 303, 307, 308] then
          .error {
            statusCode := response.statusCode
            message := "MnT redirected til " ++
              (if response.location = "" then "?" else response.location) ++
              " — brugeren mangler MnT Admin-rolle." }
        else if 400 ≤ response.statusCode then
          .error {
            statusCode := response.statusCode
            message := "MnT HTTP " ++ toString response.statusCode ++ ": " ++
              String.ofList (response.text.toList.take 200) }
        else if !response.isXml then
          .error {
            statusCode := response.statusCode
            message := "MnT returnerede ikke XML — sandsynligvis HTML login-side; " ++
              "brugeren mangler 'MnT Admin'/'Super Admin'." }
        else .ok (parseSessionXml response.text)

/-- `_session_by_ip_from_active_list` -/
def MntServer.sessionByIpFromActiveList (server : MntServer) (ip : String) : Option CwaSession :=
  match server.fetchActiveSessions with
  | .error _ => none
  | .ok rows =>
      rows.findSome? fun row =>
        (sessionFromActiveListRow row).filter fun session => session.framedIp = ip

/-- `session_by_ip` -/
def MntServer.sessionByIp (server : MntServer) (clientIp : String) : Option CwaSession :=
  let ip := PyText.strip clientIp
  if ip = "" then none
  else
    match server.mntGetXml ("/admin/API/mnt/Session/IPAddress/" ++ ip) with
    | .error _ => none
    | .ok (status, text) =>
        if status = 404 ∨ PyText.strip text = "" then none
        else if status = 500 then server.sessionByIpFromActiveList ip
        else if 400 ≤ status then none
        else parseCwaSession text

/-- A document of the sessions, at any depth below its root: the root is no session, and has no
field of one for a child. -/
structure DocumentOf (sessions : List Element) where
  text : String
  root : Element
  parsed : XmlParser.fromString text = some root
  root_not_session : isSession root = false
  root_no_field : ∀ child ∈ root.children, child.tag ∉ macNames
  sessions_eq : root.iter.filter isSession = sessions

/-- The address lookup answers 200 with the sessions. -/
def AnswersWith (server : MntServer) (ip : String) (sessions : List Element) : Prop :=
  server.isePassword ≠ "" ∧
    ∃ (document : DocumentOf sessions) (response : Response),
      server.get ("/admin/API/mnt/Session/IPAddress/" ++ ip) = .ok response ∧
        response.statusCode = 200 ∧ response.text = document.text

/-- The address lookup answers 500 with a text, and the list of the active sessions answers with
the sessions. -/
def FallsBackTo (server : MntServer) (ip failure : String) (sessions : List Element) : Prop :=
  server.isePassword ≠ "" ∧
    (∃ response, server.get ("/admin/API/mnt/Session/IPAddress/" ++ ip) = .ok response ∧
      response.statusCode = 500 ∧ response.text = failure) ∧
    ∃ (document : DocumentOf sessions) (response : Response),
      server.get "/admin/API/mnt/Session/ActiveList" = .ok response ∧
        response.statusCode = 200 ∧ response.isXml = true ∧ response.text = document.text

/-! ## What each lookup finds -/

variable {ip failure : String} {sessions : List Element}

/-- The sessions of a document are below its root. -/
theorem DocumentOf.descendants_eq (document : DocumentOf sessions) :
    document.root.descendants.filter isSession = sessions := by
  have heq := document.sessions_eq
  rwa [Element.iter_eq, List.filter_cons_of_neg
    (document.root_not_session ▸ Bool.false_ne_true)] at heq

theorem DocumentOf.findBelow_eq (document : DocumentOf sessions) {name : String}
    (hname : name = "activeSession" ∨ name = "authSession") :
    document.root.findBelow name = sessions.find? fun session => session.tag = name := by
  refine Eq.trans ?_ (congrArg (List.find? _) document.descendants_eq)
  rw [List.find?_filter, Element.findBelow]
  congr 1
  funext element
  refine decide_eq_decide.mpr ⟨fun htag => ?_, fun h => of_decide_eq_true h.2⟩
  exact ⟨isSession_of_tag (htag ▸ hname), decide_eq_true htag⟩

/-- Where every session has an address, the address lookup reads the first exactly tagged one. -/
theorem DocumentOf.sessionElement_eq (document : DocumentOf sessions)
    (haddress : ∀ session ∈ sessions, framedIp session ≠ "") :
    sessionElement document.root = (addressed sessions).getD document.root := by
  have hroot : ¬ (document.root.tag = "activeSession" ∨ document.root.tag = "authSession") :=
    fun htag => Bool.false_ne_true (document.root_not_session.symm.trans (isSession_of_tag htag))
  rw [sessionElement, if_neg hroot, document.findBelow_eq (.inl rfl),
    document.findBelow_eq (.inr rfl), addressed]
  cases hactive : sessions.find? fun session => session.tag = "activeSession" with
  | none => rfl
  | some session =>
      simp only [truthy_of_framedIp (haddress session (List.mem_of_find?_eq_some hactive)),
        if_true, Option.some_or]

/-- The address lookup finds the MAC of the session it reads. -/
theorem AnswersWith.mac_eq {server : MntServer} (h : AnswersWith server ip sessions)
    (hip : PyText.strip ip = ip) (hne : ip ≠ "")
    (haddress : ∀ session ∈ sessions, framedIp session ≠ "") :
    (server.sessionByIp ip).map CwaSession.mac = (addressed sessions).bind exactMac := by
  obtain ⟨hpassword, document, response, hget, hstatus, htext⟩ := h
  have hblank : PyText.strip document.text ≠ "" := by
    intro hblank
    have hnone := XmlParser.fromString_blank _ hblank
    rw [document.parsed] at hnone
    exact Option.some_ne_none _ hnone
  have hparse : server.sessionByIp ip = parseCwaSession document.text := by
    simp only [MntServer.sessionByIp, hip, hne, if_false, MntServer.mntGetXml, hpassword, hget,
      hstatus, htext, hblank]
    rfl
  rw [hparse, parseCwaSession, document.parsed, Option.bind_some, sessionOfElement_mac,
    document.sessionElement_eq haddress]
  cases addressed sessions with
  | some session => rfl
  | none =>
      rw [Option.getD_none, exactMac, get_of_no_name document.root_no_field]
      rfl

/-- The rows of a document are those of its listed sessions. -/
theorem DocumentOf.findSome?_rows (document : DocumentOf sessions) :
    ((parseSessionXml document.text).findSome? fun row =>
      (sessionFromActiveListRow row).filter fun session => session.framedIp = ip).map
        CwaSession.mac = firstRowMac (sessions.filter fun session => framedIp session = ip) := by
  have hrows : parseSessionXml document.text = ((document.root.iter.filter isListed).map
      rowOf).filter fun row => !row.entries.isEmpty := by
    rw [parseSessionXml, document.parsed]
  have hsessions : firstRowMac (sessions.filter fun session => framedIp session = ip) =
      firstRowMac ((document.root.iter.filter isSession).filter
        fun session => framedIp session = ip) := by
    rw [document.sessions_eq]
  rw [hrows, hsessions, firstRowMac, ← List.head?_filterMap, ← List.head?_filterMap,
    ← List.head?_map, List.map_filterMap]
  congr 1
  rw [List.filterMap_filter, List.filterMap_map, List.filterMap_filter, List.filterMap_filter,
    List.filterMap_filter, List.filterMap_filter]
  refine List.filterMap_congr fun element _ => ?_
  cases hlisted : isListed element with
  | false => simp
  | true =>
      have hsession : isSession element = true := by rw [isSession, hlisted, Bool.true_or]
      simp only [Function.comp_apply, hsession, if_true, ← sessionFromRow_mac]
      cases hfound : sessionFromActiveListRow (rowOf element) with
      | none => simp
      | some found =>
          have hrow : (rowOf element).entries.isEmpty = false := by
            by_contra hempty
            have hraw := field_empty (rowOf element)
              (List.isEmpty_iff.mp (Bool.not_eq_false _ ▸ hempty)) macKeys
            rw [sessionFromActiveListRow, hraw] at hfound
            exact Option.some_ne_none _ hfound.symm
          by_cases hip : framedIp element = ip <;>
            simp [hrow, Option.filter, framedIp_of_row hfound, hip]

/-- The list finds the first usable MAC among the rows of the address, unless the refusal had no
body: that is taken for no session before its status is looked at. -/
theorem FallsBackTo.mac_eq {server : MntServer} (h : FallsBackTo server ip failure sessions)
    (hip : PyText.strip ip = ip) (hne : ip ≠ "") :
    (server.sessionByIp ip).map CwaSession.mac =
      if PyText.strip failure = "" then none
      else firstRowMac (sessions.filter fun session => framedIp session = ip) := by
  obtain ⟨hpassword, ⟨refused, hrefused, hstatus, htext⟩, document, response, hget, hok, hxml,
    hbody⟩ := h
  have hrows : server.fetchActiveSessions = .ok (parseSessionXml document.text) := by
    rw [MntServer.fetchActiveSessions, if_neg hpassword, hget]
    simp [hok, hxml, hbody]
  by_cases hblank : PyText.strip failure = ""
  · simp [MntServer.sessionByIp, hip, hne, MntServer.mntGetXml, hpassword, hrefused, htext, hblank]
  · rw [if_neg hblank, ← document.findSome?_rows]
    simp [MntServer.sessionByIp, hip, hne, MntServer.mntGetXml, hpassword, hrefused, hstatus,
      htext, hblank, MntServer.sessionByIpFromActiveList, hrows]

/-! ## The same device -/

omit [PyText] [XmlParser] in
/-- A hexadecimal digit. -/
def isHexDigit (char : Char) : Bool :=
  char.isDigit || ('a' ≤ char && char ≤ 'f') || ('A' ≤ char && char ≤ 'F')

/-- Six pairs of hexadecimal digits between colons. -/
def hexPairs (mac : String) : Bool :=
  let pairs := mac.toList.splitOn ':'
  pairs.length = 6 && pairs.all fun pair => pair.length = 2 && pair.all isHexDigit

/-- Both lookups find the same MAC, or none, and a MAC that is found is one. -/
def SameDevice (direct fallback : Option CwaSession) : Prop :=
  direct.map CwaSession.mac = fallback.map CwaSession.mac ∧
    ∀ session, direct = some session ∨ fallback = some session → hexPairs session.mac = true

/-- The sessions of an address read alike under exact names and by rows: the first exactly tagged
one has the MAC of the first usable row, and that is one. -/
def ReadAlike (sessions : List Element) (failure : String) : Prop :=
  (addressed sessions).bind exactMac =
      (if PyText.strip failure = "" then none else firstRowMac sessions) ∧
    ∀ mac, (addressed sessions).bind exactMac = some mac → hexPairs mac = true

/-- The two lookups of an address agree exactly where its sessions read alike. -/
theorem session_by_ip_agrees_iff {direct fallback : MntServer}
    (hip : PyText.strip ip = ip) (hne : ip ≠ "")
    (hdirect : AnswersWith direct ip (sessions.filter fun session => framedIp session = ip))
    (hfallback : FallsBackTo fallback ip failure sessions) :
    SameDevice (direct.sessionByIp ip) (fallback.sessionByIp ip) ↔
      ReadAlike (sessions.filter fun session => framedIp session = ip) failure := by
  have haddress : ∀ session ∈ sessions.filter (fun session => framedIp session = ip),
      framedIp session ≠ "" := by
    intro session hmem
    rw [of_decide_eq_true (List.mem_filter.mp hmem).2]
    exact hne
  rw [SameDevice, ReadAlike, ← hdirect.mac_eq hip hne haddress, ← hfallback.mac_eq hip hne]
  refine and_congr_right fun hsame => ⟨fun h mac hmac => ?_, fun h session hsession => ?_⟩
  · obtain ⟨session, hsession, rfl⟩ := Option.map_eq_some_iff.mp hmac
    exact h session (.inl hsession)
  · refine h session.mac ?_
    rcases hsession with hsession | hsession
    · rw [hsession, Option.map_some]
    · rw [hsame, hsession, Option.map_some]

/-! ## Two documents -/

/-- A session with one field for the MAC and one for the address. -/
def sampleSession (macName : String) : Element :=
  .mk "activeSession" none [.mk macName (some "02:00:00:00:00:01") [],
    .mk "framed_ip_address" (some "::1") []]

/-- The list of one session. -/
def sampleRoot (macName : String) : Element := .mk "activeList" none [sampleSession macName]

/-- A text between two tags. -/
def tagged (name text : String) : String := "<" ++ name ++ ">" ++ text ++ "</" ++ name ++ ">"

/-- The text of the list. -/
def sampleText (macName : String) : String :=
  tagged "activeList" (tagged "activeSession"
    (tagged macName "02:00:00:00:00:01" ++ tagged "framed_ip_address" "::1"))

omit [PyText] [XmlParser] in
theorem tagged_toList (name text : String) : ∃ rest, (tagged name text).toList = '<' :: rest := by
  simp only [tagged, String.toList_append]
  exact ⟨_, rfl⟩

omit [PyText] [XmlParser] in
theorem strip_sampleText (macName : String) :
    @PyText.strip asciiText (sampleText macName) ≠ "" := by
  obtain ⟨rest, hrest⟩ := tagged_toList "activeList" _
  intro hblank
  have hin : "<".toList <:+: (sampleText macName).toList :=
    ⟨[], rest, by rw [sampleText, hrest]; rfl⟩
  have hpart := lawfulStrip_ascii.strip_part hin hblank
  exact absurd hpart (by decide)

/-- The parser on the list with a name for the MAC. -/
@[reducible] def sampleParser (macName : String) : @XmlParser asciiText :=
  let _ := asciiText
  { fromString := fun text => if text = sampleText macName then some (sampleRoot macName) else none
    fromString_blank := by
      intro text hblank
      by_cases htext : text = sampleText macName
      · rw [htext] at hblank
        exact absurd hblank (strip_sampleText macName)
      · exact if_neg htext }

/-- MnT answering the address lookup. -/
def directServer (macName : String) : MntServer where
  isePassword := "secret"
  get _ := .ok { statusCode := 200, text := sampleText macName }

/-- MnT failing the address lookup. -/
def failingServer (macName : String) : MntServer where
  isePassword := "secret"
  get path :=
    if path = "/admin/API/mnt/Session/ActiveList" then
      .ok { statusCode := 200, text := sampleText macName, contentType := "application/xml" }
    else .ok { statusCode := 500, text := "error" }

omit [PyText] [XmlParser] in
theorem sampleParser_text (macName : String) :
    @XmlParser.fromString asciiText (sampleParser macName) (sampleText macName) =
      some (sampleRoot macName) := by
  show (if sampleText macName = sampleText macName then _ else _) = _
  rw [if_pos (Eq.refl (sampleText macName))]

omit [XmlParser] in
theorem isSession_congr {element other : Element} (h : element.tag = other.tag) :
    isSession element = isSession other := by
  rw [isSession, isSession, isListed, isListed, h]

omit [PyText] [XmlParser] in
theorem isSession_activeList {element : Element} (h : element.tag = "activeList") :
    @isSession asciiText element = false := by
  have hleaf : @isSession asciiText (.mk "activeList" none []) = false := by decide
  exact (@isSession_congr asciiText element (.mk "activeList" none []) h).trans hleaf

/-- The list as a document, where the name for the MAC is not that of a session. -/
def sampleDocument (macName : String)
    (hname : @isSession asciiText (.mk macName none []) = false) :
    @DocumentOf asciiText (sampleParser macName) [sampleSession macName] :=
  let _ := asciiText
  let _ := sampleParser macName
  { text := sampleText macName
    root := sampleRoot macName
    parsed := sampleParser_text macName
    root_not_session := isSession_activeList rfl
    root_no_field := by
      intro child hchild
      rw [List.mem_singleton.mp hchild]
      show "activeSession" ∉ macNames
      decide
    sessions_eq := by
      have hroot : isSession (sampleRoot macName) = false := isSession_activeList rfl
      have hsession : isSession (sampleSession macName) = true := isSession_of_tag (.inl rfl)
      have hmac : isSession (.mk macName (some "02:00:00:00:00:01") []) = false :=
        (isSession_congr rfl).trans hname
      have haddress : isSession (.mk "framed_ip_address" (some "::1") []) = false := by decide
      have hiter : (sampleRoot macName).iter = [sampleRoot macName, sampleSession macName,
          .mk macName (some "02:00:00:00:00:01") [], .mk "framed_ip_address" (some "::1") []] :=
        rfl
      rw [hiter, List.filter_cons_of_neg (hroot ▸ Bool.false_ne_true),
        List.filter_cons_of_pos hsession, List.filter_cons_of_neg (hmac ▸ Bool.false_ne_true),
        List.filter_cons_of_neg (haddress ▸ Bool.false_ne_true), List.filter_nil] }

omit [PyText] [XmlParser] in
theorem sample_filter {macName : String}
    (hframed : @framedIp asciiText (sampleSession macName) = "::1") :
    [sampleSession macName].filter (fun session => @framedIp asciiText session = "::1") =
      [sampleSession macName] :=
  List.filter_cons_of_pos (decide_eq_true hframed)

omit [PyText] [XmlParser] in
theorem directServer_answers {macName : String}
    (hname : @isSession asciiText (.mk macName none []) = false)
    (hframed : @framedIp asciiText (sampleSession macName) = "::1") :
    @AnswersWith asciiText (sampleParser macName) (directServer macName) "::1"
      ([sampleSession macName].filter fun session => @framedIp asciiText session = "::1") := by
  rw [sample_filter hframed]
  have hpassword : (directServer macName).isePassword ≠ "" := by
    show "secret" ≠ ""
    decide
  exact ⟨hpassword, sampleDocument macName hname, _, rfl, rfl, rfl⟩

omit [PyText] [XmlParser] in
theorem failingServer_fallsBack {macName : String}
    (hname : @isSession asciiText (.mk macName none []) = false) :
    @FallsBackTo asciiText (sampleParser macName) (failingServer macName) "::1" "error"
      [sampleSession macName] := by
  have hpassword : (failingServer macName).isePassword ≠ "" := by
    show "secret" ≠ ""
    decide
  have hpath : "/admin/API/mnt/Session/IPAddress/" ++ "::1" ≠
      "/admin/API/mnt/Session/ActiveList" := by
    decide
  have htype : "xml".toList <:+: (@PyText.lower asciiText "application/xml").toList := by decide
  refine ⟨hpassword, ⟨{ statusCode := 500, text := "error" }, ?_, rfl, rfl⟩,
    sampleDocument macName hname,
    { statusCode := 200, text := sampleText macName, contentType := "application/xml" },
    ?_, rfl, ?_, rfl⟩
  · simp only [failingServer, hpath, if_false]
  · simp only [failingServer, if_true]
  · exact Bool.or_eq_true_iff.mpr (.inl (decide_eq_true htype))

omit [PyText] [XmlParser] in
/-- With the MAC as `calling_station_id` both lookups find the device. -/
theorem session_by_ip_agrees_sample :
    let _ := asciiText
    let _ := sampleParser "calling_station_id"
    SameDevice ((directServer "calling_station_id").sessionByIp "::1")
      ((failingServer "calling_station_id").sessionByIp "::1") := by
  intro _ _
  have hname : isSession (.mk "calling_station_id" none []) = false := by decide
  have hframed : framedIp (sampleSession "calling_station_id") = "::1" := by decide
  have hblank : PyText.strip "error" ≠ "" := by decide
  have hdirect : (addressed [sampleSession "calling_station_id"]).bind exactMac =
      some "02:00:00:00:00:01" := by decide
  have hlist : firstRowMac [sampleSession "calling_station_id"] = some "02:00:00:00:00:01" := by
    decide
  refine (session_by_ip_agrees_iff (by decide) (by decide) (directServer_answers hname hframed)
    (failingServer_fallsBack hname)).mpr ?_
  rw [sample_filter hframed, ReadAlike, if_neg hblank, hdirect, hlist]
  refine ⟨rfl, fun mac hmac => ?_⟩
  rw [← Option.some.inj hmac]
  decide

omit [PyText] [XmlParser] in
/-- With the MAC as the user name only the list has it. -/
theorem session_by_ip_disagrees :
    let _ := asciiText
    let _ := sampleParser "user_name"
    ¬ ∀ (ip failure : String) (sessions : List Element) (direct fallback : MntServer),
      PyText.strip ip = ip → ip ≠ "" →
      AnswersWith direct ip (sessions.filter fun session => framedIp session = ip) →
      FallsBackTo fallback ip failure sessions →
      SameDevice (direct.sessionByIp ip) (fallback.sessionByIp ip) := by
  intro _ _ h
  have hname : isSession (.mk "user_name" none []) = false := by decide
  have hframed : framedIp (sampleSession "user_name") = "::1" := by decide
  have hblank : PyText.strip "error" ≠ "" := by decide
  have hstrip : PyText.strip "::1" = "::1" := by decide
  have hsome : "::1" ≠ "" := by decide
  have hfound : firstRowMac [sampleSession "user_name"] = some "02:00:00:00:00:01" := by decide
  have hmissed : (addressed [sampleSession "user_name"]).bind exactMac = none := by decide
  have hlist := (failingServer_fallsBack hname).mac_eq hstrip hsome
  have hdirect := (directServer_answers hname hframed).mac_eq hstrip hsome fun session hmem => by
    rw [of_decide_eq_true (List.mem_filter.mp hmem).2]
    exact hsome
  rw [sample_filter hframed, if_neg hblank, hfound] at hlist
  rw [sample_filter hframed, hmissed] at hdirect
  have hsame := (h "::1" "error" _ _ _ hstrip hsome (directServer_answers hname hframed)
    (failingServer_fallsBack hname)).1
  rw [hlist, hdirect] at hsame
  exact Option.some_ne_none _ hsame.symm

end IsePortal.Mnt
