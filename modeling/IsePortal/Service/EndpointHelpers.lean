import IsePortal.Library.Dict
import IsePortal.Schema.Endpoint

/-!
# Custom attributes of a write

The helpers of `app/services/_endpoint_helpers.py` that prepare a write, and the attribute
blocks `create_endpoint` and `update_endpoint` send to ISE. ISE merges the block of an update
into the attributes it has, so an attribute that is left out keeps its value.
-/

namespace IsePortal

open Library

/-- Custom attributes by name. -/
abbrev Attrs := Dict String String

/-- `ca.get(name, "")` -/
def Attrs.attr (ca : Attrs) (name : String) : String := (ca.get? name).getD ""

/-- An attribute after a merge: what was sent, or else what was there. -/
theorem Attrs.attr_merge (stored sent : Attrs) (name : String) :
    Attrs.attr (stored.merge sent) name = (sent.get? name).getD (stored.attr name) := by
  unfold Attrs.attr
  rw [Dict.get?_merge]
  cases sent.get? name <;> rfl

/-- An empty attribute reads like one that is left out. -/
theorem Attrs.attr_filterValues (ca : Attrs) (name : String) :
    Attrs.attr (ca.filterValues (· ≠ "")) name = ca.attr name := by
  unfold Attrs.attr
  rw [Dict.get?_filterValues]
  cases ca.get? name with
  | none => rfl
  | some value =>
      by_cases hvalue : value = "" <;> simp [Option.filter, hvalue]

/-- `HIDDEN_ATTR` -/
def hiddenAttr : String := "HypervisionISEPortal"
/-- `ROLES_ATTR` -/
def rolesAttr : String := "HypervisionRoles"
/-- `PSK_MODE_ATTR` -/
def pskModeAttr : String := "PSK_Mode"
/-- `PSK_KEY_ATTR` -/
def pskKeyAttr : String := "PSK_Key"
/-- `REGISTERED_AT_ATTR` -/
def registeredAtAttr : String := "HypervisionRegisteredAt"
/-- `ACTIVE_ATTR` -/
def activeAttr : String := "HypervisionActive"
/-- The attribute that marks a self-registered guest. -/
def guestRegistrationAttr : String := "GuestRegistration"
/-- `GUEST_EXPERY_DATE_ATTR` -/
def guestExperyDateAttr : String := "GuestExperyDate"
/-- `GUEST_ACCESS_EXPIRE_ATTR` -/
def guestAccessExpireAttr : String := "GuestAccessExpire"

/-- `PSK_MASKED` -/
def pskMasked : String := "****"
/-- `PSK_IPSK_PREFIX` -/
def pskIpskPrefix : String := "psk="

/-- `PskPolicy` -/
structure PskPolicy where
  minLength : Nat
  requireUppercase : Bool
  requireNumbers : Bool
  requireSpecial : Bool

/-- The PSK settings in force. -/
structure PskSettings where
  pskType : String := "MPSK"
  policy : PskPolicy

/-- `string.punctuation` -/
def punctuation : List Char :=
  "!\"#$%&'()*+,-./:;<=>?@[\\]^_`\x7b|\x7d~".toList

variable [PyText]

/-- `validate_psk_key`: the errors, empty when the key is accepted. -/
def validatePskKey (key : String) (policy : PskPolicy) : List String :=
  (if key.length < policy.minLength then
    ["PSK-nøgle skal være mindst " ++ toString policy.minLength ++ " tegn"] else []) ++
  (if policy.requireUppercase && !key.toList.any PyText.isUpper then
    ["PSK-nøgle skal indeholde mindst ét stort bogstav"] else []) ++
  (if policy.requireNumbers && !key.toList.any PyText.isDigit then
    ["PSK-nøgle skal indeholde mindst ét tal"] else []) ++
  (if policy.requireSpecial && !key.toList.any (· ∈ punctuation) then
    ["PSK-nøgle skal indeholde mindst ét specialtegn"] else [])

/-- `_validate_psk`: the text of the `ValueError` where it raises. -/
def validatePsk (psk : PskSettings) (ca : Attrs) : Except String Unit :=
  let key := ca.attr pskKeyAttr
  if key = pskMasked then
    .error ("PSK Key indeholder den maskerede sentinel-værdi '****' — " ++
      "send den faktiske nøgle eller lad feltet være tomt")
  else if PyText.lower (ca.attr pskModeAttr) = "true" ∧ key ≠ "" then
    match validatePskKey key psk.policy with
    | [] => .ok ()
    | errors => .error ("PSK Key overholder ikke politik: " ++ "; ".intercalate errors)
  else .ok ()

omit [PyText] in
/-- `key.startswith(PSK_IPSK_PREFIX)` -/
def hasPskPrefix (key : String) : Bool := pskIpskPrefix.toList.isPrefixOf key.toList

/-- `_psk_encode` -/
def pskEncode (psk : PskSettings) (key : String) : String :=
  if key = "" then key
  else if PyText.upper psk.pskType ≠ "IPSK" then key
  else if hasPskPrefix key then key
  else pskIpskPrefix ++ key

omit [PyText] in
/-- `_psk_decode` -/
def pskDecode (raw : String) : String :=
  if hasPskPrefix raw then String.ofList (raw.toList.drop pskIpskPrefix.length) else raw

/-- `_psk_encode_ca` -/
def pskEncodeCa (psk : PskSettings) (ca : Attrs) : Attrs :=
  if ca.attr pskKeyAttr ≠ "" then ca.set pskKeyAttr (pskEncode psk (ca.attr pskKeyAttr)) else ca

/-- `_apply_auto_tag`: roles that were chosen are kept. -/
def applyAutoTag (ca : Attrs) (autoTagUsername : Option String) : Attrs :=
  match autoTagUsername with
  | none => ca
  | some username =>
      if username = "" ∨ PyText.strip (ca.attr rolesAttr) ≠ "" then ca
      else ca.set rolesAttr username

omit [PyText] in
/-- Store the value of a field unless `exclude_none` leaves it out. -/
def setSome (ca : Attrs) (name : String) (value : Option String) : Attrs :=
  match value with
  | none => ca
  | some value => ca.set name value

omit [PyText] in
/-- `custom_attributes.model_dump(exclude_none=True)` -/
def modelDump (attrs : CustomAttrs) : Attrs :=
  let ca := Dict.empty
    |>.set "Type" attrs.type |>.set "Owner" attrs.owner |>.set "Lokation" attrs.lokation
    |>.set "AuthzVlan" attrs.authzVlan |>.set "AuthzACL" attrs.authzACL
    |>.set "PlatformType" attrs.platformType |>.set "RegistretBy" attrs.registretBy
    |>.set guestRegistrationAttr attrs.guestRegistration
    |>.set rolesAttr attrs.hypervisionRoles
  let ca := setSome ca "HypervisionStatus" attrs.hypervisionStatus
  let ca := setSome ca activeAttr attrs.hypervisionActive
  let ca := setSome ca pskModeAttr attrs.pskMode
  let ca := setSome ca pskKeyAttr attrs.pskKey
  let ca := setSome ca guestExperyDateAttr attrs.guestExperyDate
  setSome ca guestAccessExpireAttr attrs.guestAccessExpire

omit [PyText] in
/-- The attributes of a request, none without an attribute block. -/
def requestAttrs (attrs : Option CustomAttrs) : Attrs :=
  match attrs with
  | none => Dict.empty
  | some attrs => modelDump attrs

omit [PyText] in
/-- Stamp the registration date unless the request brings one. -/
def stampRegisteredAt (ca : Attrs) (stamp : String) : Attrs :=
  if ca.attr registeredAtAttr = "" then ca.set registeredAtAttr stamp else ca

/-- The attributes `create_endpoint` hands to the repository, or the text of its `ValueError`. -/
def createAttrs (psk : PskSettings) (attrs : Option CustomAttrs) (autoTagUsername : Option String)
    (stamp : String) : Except String Attrs :=
  let ca := applyAutoTag ((requestAttrs attrs).set hiddenAttr "true") autoTagUsername
  let ca := stampRegisteredAt ca stamp
  match validatePsk psk ca with
  | .error text => .error text
  | .ok () => .ok (pskEncodeCa psk ca)

omit [PyText] in
/-- What `update_endpoint` stamps from its snapshot `before`: an active status where neither
the request nor the endpoint has one, and the registration date. -/
def stampFromSnapshot (before : Option EndpointDetail) (stamp : String) (ca : Attrs) : Attrs :=
  match before with
  | none => stampRegisteredAt ca stamp
  | some detail =>
      let ca :=
        if (ca.get? activeAttr).isNone && detail.activeStatus = "" then ca.set activeAttr "Aktiv"
        else ca
      stampRegisteredAt ca (if detail.createTime ≠ "" then detail.createTime else stamp)

/-- The attributes `update_endpoint` sends, or the text of its `ValueError`. `stamp` is the
registration date it falls back on. -/
def updateAttrs (psk : PskSettings) (attrs : Option CustomAttrs) (autoTagUsername : Option String)
    (before : Option EndpointDetail) (stamp : String) : Except String Attrs :=
  let ca := applyAutoTag ((requestAttrs attrs).set hiddenAttr "true") autoTagUsername
  match validatePsk psk ca with
  | .error text => .error text
  | .ok () => .ok (stampFromSnapshot before stamp (pskEncodeCa psk ca))

/-! ## Attributes the preparation leaves alone -/

/-- A name the preparation of a write never sets. -/
def Untouched (name : String) : Prop :=
  name ≠ hiddenAttr ∧ name ≠ rolesAttr ∧ name ≠ pskKeyAttr ∧ name ≠ registeredAtAttr ∧
    name ≠ activeAttr

omit [PyText] in
instance (name : String) : Decidable (Untouched name) := inferInstanceAs (Decidable (_ ∧ _))

theorem get?_applyAutoTag (ca : Attrs) (autoTagUsername : Option String) {name : String}
    (hname : Untouched name) : (applyAutoTag ca autoTagUsername).get? name = ca.get? name := by
  unfold applyAutoTag
  cases autoTagUsername with
  | none => rfl
  | some username =>
      dsimp only
      split
      · rfl
      · exact Dict.get?_set_ne _ _ hname.2.1

/-- A request without roles gets the username for a role. -/
theorem applyAutoTag_blank {ca : Attrs} {username : String} (hname : username ≠ "")
    (hblank : PyText.strip (ca.attr rolesAttr) = "") :
    applyAutoTag ca (some username) = ca.set rolesAttr username :=
  if_neg fun h => h.elim hname fun hroles => hroles hblank

theorem get?_pskEncodeCa_ne (psk : PskSettings) (ca : Attrs) {name : String}
    (hname : name ≠ pskKeyAttr) : (pskEncodeCa psk ca).get? name = ca.get? name := by
  unfold pskEncodeCa
  split
  · exact Dict.get?_set_ne _ _ hname
  · rfl

theorem get?_pskEncodeCa (psk : PskSettings) (ca : Attrs) {name : String}
    (hname : Untouched name) : (pskEncodeCa psk ca).get? name = ca.get? name :=
  get?_pskEncodeCa_ne psk ca hname.2.2.1

omit [PyText] in
theorem get?_stampRegisteredAt_ne (ca : Attrs) (stamp : String) {name : String}
    (hname : name ≠ registeredAtAttr) : (stampRegisteredAt ca stamp).get? name = ca.get? name := by
  unfold stampRegisteredAt
  split
  · exact Dict.get?_set_ne _ _ hname
  · rfl

omit [PyText] in
theorem get?_stampRegisteredAt (ca : Attrs) (stamp : String) {name : String}
    (hname : Untouched name) : (stampRegisteredAt ca stamp).get? name = ca.get? name :=
  get?_stampRegisteredAt_ne ca stamp hname.2.2.2.1

omit [PyText] in
theorem get?_stampFromSnapshot (before : Option EndpointDetail) (stamp : String) (ca : Attrs)
    {name : String} (hname : Untouched name) :
    (stampFromSnapshot before stamp ca).get? name = ca.get? name := by
  unfold stampFromSnapshot
  cases before with
  | none => exact get?_stampRegisteredAt _ _ hname
  | some detail =>
      dsimp only
      rw [get?_stampRegisteredAt _ _ hname]
      split
      · exact Dict.get?_set_ne _ _ hname.2.2.2.2
      · rfl

/-- A create request that is accepted keeps every other attribute as it was sent. -/
theorem get?_createAttrs {psk : PskSettings} {attrs : Option CustomAttrs}
    {autoTagUsername : Option String} {stamp : String} {ca : Attrs} {name : String}
    (hca : createAttrs psk attrs autoTagUsername stamp = .ok ca) (hname : Untouched name) :
    ca.get? name = (requestAttrs attrs).get? name := by
  simp only [createAttrs] at hca
  split at hca
  · cases hca
  · cases hca
    rw [get?_pskEncodeCa _ _ hname, get?_stampRegisteredAt _ _ hname,
      get?_applyAutoTag _ _ hname, Dict.get?_set_ne _ _ hname.1]

/-- An update request that is accepted keeps every other attribute as it was sent. -/
theorem get?_updateAttrs {psk : PskSettings} {attrs : Option CustomAttrs}
    {autoTagUsername : Option String} {before : Option EndpointDetail} {stamp : String}
    {ca : Attrs} {name : String}
    (hca : updateAttrs psk attrs autoTagUsername before stamp = .ok ca)
    (hname : Untouched name) : ca.get? name = (requestAttrs attrs).get? name := by
  simp only [updateAttrs] at hca
  split at hca
  · cases hca
  · cases hca
    rw [get?_stampFromSnapshot _ _ _ hname, get?_pskEncodeCa _ _ hname,
      get?_applyAutoTag _ _ hname, Dict.get?_set_ne _ _ hname.1]

omit [PyText] in
theorem get?_setSome (ca : Attrs) (name other : String) (value : Option String) :
    (setSome ca name value).get? other =
      if other = name then value.or (ca.get? other) else ca.get? other := by
  unfold setSome
  cases value with
  | none => simp
  | some value => simp [Dict.get?_set]

omit [PyText] in
theorem get?_guestRegistration (attrs : Option CustomAttrs) :
    (requestAttrs attrs).get? guestRegistrationAttr = attrs.map CustomAttrs.guestRegistration := by
  cases attrs with
  | none => rfl
  | some attrs =>
      simp [requestAttrs, modelDump, get?_setSome, Dict.get?_set, guestRegistrationAttr, rolesAttr,
        activeAttr, pskModeAttr, pskKeyAttr, guestExperyDateAttr, guestAccessExpireAttr]

omit [PyText] in
theorem get?_guestExperyDate (attrs : Option CustomAttrs) :
    (requestAttrs attrs).get? guestExperyDateAttr = attrs.bind CustomAttrs.guestExperyDate := by
  cases attrs with
  | none => rfl
  | some attrs =>
      simp [requestAttrs, modelDump, get?_setSome, Dict.get?_set, guestRegistrationAttr, rolesAttr,
        activeAttr, pskModeAttr, pskKeyAttr, guestExperyDateAttr, guestAccessExpireAttr]

omit [PyText] in
theorem get?_guestAccessExpire (attrs : Option CustomAttrs) :
    (requestAttrs attrs).get? guestAccessExpireAttr =
      attrs.bind CustomAttrs.guestAccessExpire := by
  cases attrs with
  | none => rfl
  | some attrs =>
      simp [requestAttrs, modelDump, get?_setSome, Dict.get?_set, guestRegistrationAttr, rolesAttr,
        activeAttr, pskModeAttr, pskKeyAttr, guestExperyDateAttr, guestAccessExpireAttr]

end IsePortal
