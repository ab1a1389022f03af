import IsePortal.Service.EndpointHelpers

/-!
# What an update leaves alone

ISE merges the attribute block of an update into what it has stored, so `update_endpoint` keeps an
attribute exactly by leaving it out. `CustomAttrs` leaves six of its fields out when the request
does; the nine others are sent empty. Without a role in the request the auto-tag puts the username
in, also on an update.
-/

namespace IsePortal

open Library

/-- A value of the JSON object `custom_attributes`. -/
inductive JsonField where
  | null
  | text (value : String)
  | other
  deriving DecidableEq

/-- The attribute block of a request, `none` where it is absent or null. -/
abbrev AttrBlock := Option (Dict String JsonField)

/-- The fields of `CustomAttrs` with the default `""`. -/
def textFields : List String :=
  ["Type", "Owner", "Lokation", "AuthzVlan", "AuthzACL", "PlatformType", "RegistretBy",
    guestRegistrationAttr, rolesAttr]

/-- The fields of `CustomAttrs` with the default `None`. -/
def nullableFields : List String :=
  ["HypervisionStatus", activeAttr, pskModeAttr, pskKeyAttr, guestExperyDateAttr,
    guestAccessExpireAttr]

/-- Whether pydantic accepts what the object has for a field. -/
def acceptsField (object : Dict String JsonField) (nullable : Bool) (name : String) : Bool :=
  match object.get? name with
  | none | some (.text _) => true
  | some .null => nullable
  | some .other => false

/-- The value of a field with the default `""`. -/
def textField (object : Dict String JsonField) (name : String) : String :=
  match object.get? name with
  | some (.text value) => value
  | _ => ""

/-- The value of a field with the default `None`. -/
def nullableField (object : Dict String JsonField) (name : String) : Option String :=
  match object.get? name with
  | some (.text value) => some value
  | _ => none

/-- The `CustomAttrs` of an object; keys that are no fields are ignored. -/
def CustomAttrs.ofJson (object : Dict String JsonField) : Option CustomAttrs :=
  if textFields.all (acceptsField object false) ∧
      nullableFields.all (acceptsField object true) then
    some
      { type := textField object "Type"
        owner := textField object "Owner"
        lokation := textField object "Lokation"
        authzVlan := textField object "AuthzVlan"
        authzACL := textField object "AuthzACL"
        platformType := textField object "PlatformType"
        registretBy := textField object "RegistretBy"
        guestRegistration := textField object guestRegistrationAttr
        hypervisionRoles := textField object rolesAttr
        hypervisionStatus := nullableField object "HypervisionStatus"
        hypervisionActive := nullableField object activeAttr
        pskMode := nullableField object pskModeAttr
        pskKey := nullableField object pskKeyAttr
        guestExperyDate := nullableField object guestExperyDateAttr
        guestAccessExpire := nullableField object guestAccessExpireAttr }
  else none

/-- `EndpointUpdate.custom_attributes`; the outer `none` is a request that is refused. -/
def attrsOfBlock : AttrBlock → Option (Option CustomAttrs)
  | none => some none
  | some object => (CustomAttrs.ofJson object).map some

section Update

variable [PyText]

/-- The attributes ISE has after `update_endpoint`, or the text of its `ValueError`. -/
def storedAfterUpdate (psk : PskSettings) (stored : Attrs) (attrs : Option CustomAttrs)
    (autoTagUsername : Option String) (before : Option EndpointDetail) (stamp : String) :
    Except String Attrs :=
  match updateAttrs psk attrs autoTagUsername before stamp with
  | .error text => .error text
  | .ok ca => .ok (stored.merge ca)

end Update

/-- The request has the attribute as a key of its block. -/
def Named (block : AttrBlock) (name : String) : Prop :=
  ∃ object, block = some object ∧ name ∈ object.keys

/-- What the request does not name has its stored value, apart from the portal's own stamps: the
hidden marker, the registration date and the active status where the endpoint has none. -/
def KeepsUnnamed (block : AttrBlock) (stored after : Attrs) : Prop :=
  ∀ name, ¬ Named block name → name ≠ hiddenAttr → name ≠ registeredAtAttr →
    (name = activeAttr → stored.attr activeAttr ≠ "") → after.get? name = stored.get? name

/-- No role is put in for the caller. -/
def Untagged (autoTagUsername : Option String) : Prop :=
  autoTagUsername = none ∨ autoTagUsername = some ""

/-- An attribute the update leaves out: not named, no stamp of the portal (which goes by the active
status of its snapshot), no role an auto-tag brings, and no text field of a block. -/
structure Spared (block : AttrBlock) (autoTagUsername : Option String)
    (before : Option EndpointDetail) (name : String) : Prop where
  unnamed : ¬ Named block name
  notHidden : name ≠ hiddenAttr
  notRegisteredAt : name ≠ registeredAtAttr
  active : name = activeAttr → ∀ detail, before = some detail → detail.activeStatus ≠ ""
  roles : name = rolesAttr → Untagged autoTagUsername
  text : name ∈ textFields → block = none

/-! ## The attributes of a request -/

section Request

variable {block : AttrBlock} {attrs : Option CustomAttrs} {object : Dict String JsonField}
  {name : String}

theorem get?_of_unnamed (h : ¬ Named (some object) name) : object.get? name = none := by
  cases hvalue : object.get? name with
  | none => rfl
  | some value => exact absurd ⟨object, rfl, Dict.mem_keys_iff.mpr ⟨value, hvalue⟩⟩ h

theorem setSome_spared {ca : Attrs} {field : String} {value : Option String}
    (h : name = field → value = none) : (setSome ca field value).get? name = ca.get? name := by
  rw [get?_setSome]
  split
  · rename_i hname
    rw [h hname]
    rfl
  · rfl

/-- A field with the default `None` is left out like a name that is no field. -/
theorem get?_requestAttrs_of_unnamed (hparse : attrsOfBlock block = some attrs)
    (hunnamed : ¬ Named block name) (htext : name ∈ textFields → block = none) :
    (requestAttrs attrs).get? name = none := by
  cases block with
  | none =>
      cases hparse
      rfl
  | some object =>
      have hvalue := get?_of_unnamed hunnamed
      have hnullable : ∀ field, name = field → nullableField object field = none := by
        rintro field rfl
        rw [nullableField, hvalue]
      have hfield : ∀ field ∈ textFields, name ≠ field := by
        rintro field hmem rfl
        cases htext hmem
      simp only [attrsOfBlock, CustomAttrs.ofJson, Option.map_eq_some_iff,
        Option.ite_none_right_eq_some] at hparse
      obtain ⟨parsed, ⟨_, hparsed⟩, rfl⟩ := hparse
      cases hparsed
      simp only [requestAttrs, modelDump]
      rw [setSome_spared (hnullable _), setSome_spared (hnullable _),
        setSome_spared (hnullable _), setSome_spared (hnullable _),
        setSome_spared (hnullable _), setSome_spared (hnullable _)]
      simp only [textFields, List.forall_mem_cons] at hfield
      obtain ⟨h1, h2, h3, h4, h5, h6, h7, h8, h9, _⟩ := hfield
      rw [Dict.get?_set_ne _ _ h9, Dict.get?_set_ne _ _ h8, Dict.get?_set_ne _ _ h7,
        Dict.get?_set_ne _ _ h6, Dict.get?_set_ne _ _ h5, Dict.get?_set_ne _ _ h4,
        Dict.get?_set_ne _ _ h3, Dict.get?_set_ne _ _ h2, Dict.get?_set_ne _ _ h1]
      rfl

/-- A block that does not name the roles brings none, whether it leaves them out or empty. -/
theorem attr_roles_of_unnamed (hparse : attrsOfBlock block = some attrs)
    (hunnamed : ¬ Named block rolesAttr) : (requestAttrs attrs).attr rolesAttr = "" := by
  cases block with
  | none =>
      cases hparse
      rfl
  | some object =>
      have hvalue := get?_of_unnamed hunnamed
      simp only [attrsOfBlock, CustomAttrs.ofJson, Option.map_eq_some_iff,
        Option.ite_none_right_eq_some] at hparse
      obtain ⟨parsed, ⟨_, hparsed⟩, rfl⟩ := hparse
      cases hparsed
      have hroles : textField object rolesAttr = "" := by rw [textField, hvalue]
      simp only [requestAttrs, modelDump, Attrs.attr]
      rw [hroles, setSome_spared (fun h => absurd h (by decide)),
        setSome_spared (fun h => absurd h (by decide)),
        setSome_spared (fun h => absurd h (by decide)),
        setSome_spared (fun h => absurd h (by decide)),
        setSome_spared (fun h => absurd h (by decide)),
        setSome_spared (fun h => absurd h (by decide)), Dict.get?_set_self]
      rfl

end Request

/-! ## The steps that prepare the write -/

section Preparation

variable [PyText] {ca : Attrs} {name : String} {autoTagUsername : Option String}

theorem applyAutoTag_untagged (h : Untagged autoTagUsername) :
    applyAutoTag ca autoTagUsername = ca := by
  obtain rfl | rfl := h
  · rfl
  · simp only [applyAutoTag, true_or, ↓reduceIte]

theorem get?_applyAutoTag_spared (h : name = rolesAttr → Untagged autoTagUsername) :
    (applyAutoTag ca autoTagUsername).get? name = ca.get? name := by
  by_cases hroles : name = rolesAttr
  · rw [applyAutoTag_untagged (h hroles)]
  · unfold applyAutoTag
    cases autoTagUsername with
    | none => rfl
    | some username =>
        simp only
        split
        · rfl
        · exact Dict.get?_set_ne _ _ hroles

/-- Encoding changes a key that is there, it adds none. -/
theorem get?_pskEncodeCa_spared (psk : PskSettings) (h : ca.get? name = none) :
    (pskEncodeCa psk ca).get? name = none := by
  unfold pskEncodeCa
  split
  · rename_i hkey
    rw [Dict.get?_set_ne]
    · exact h
    · rintro rfl
      exact hkey (by rw [Attrs.attr, h]; rfl)
  · exact h

omit [PyText] in
theorem get?_stampFromSnapshot_spared {before : Option EndpointDetail} (stamp : String)
    (hname : name ≠ registeredAtAttr)
    (hactive : name = activeAttr → ∀ detail, before = some detail → detail.activeStatus ≠ "") :
    (stampFromSnapshot before stamp ca).get? name = ca.get? name := by
  unfold stampFromSnapshot
  cases before with
  | none => exact get?_stampRegisteredAt_ne _ _ hname
  | some detail =>
      simp only
      rw [get?_stampRegisteredAt_ne _ _ hname]
      split
      · rename_i hempty
        have hstatus : detail.activeStatus = "" := by
          simp only [Bool.and_eq_true, decide_eq_true_eq] at hempty
          exact hempty.2
        exact Dict.get?_set_ne _ _ fun h => hactive h detail rfl hstatus
      · rfl

end Preparation

/-! ## The whole update -/

section Frame

variable [PyText] {psk : PskSettings} {block : AttrBlock} {attrs : Option CustomAttrs}
  {autoTagUsername : Option String} {before : Option EndpointDetail} {stamp : String}
  {stored after : Attrs}

/-- An accepted update sends its prepared attributes and ISE merges them. -/
theorem storedAfterUpdate_ok
    (h : storedAfterUpdate psk stored attrs autoTagUsername before stamp = .ok after) :
    after = stored.merge (stampFromSnapshot before stamp
      (pskEncodeCa psk (applyAutoTag ((requestAttrs attrs).set hiddenAttr "true")
        autoTagUsername))) := by
  simp only [storedAfterUpdate, updateAttrs] at h
  split at h
  · cases h
  · rename_i hca
    split at hca
    · cases hca
    · cases hca
      cases h
      rfl

/-- An accepted update leaves every spared attribute as it was stored, and puts the username of an
auto-tagged caller in for roles the request does not name. -/
theorem update_keeps_unnamed (hparse : attrsOfBlock block = some attrs)
    (hupdate : storedAfterUpdate psk stored attrs autoTagUsername before stamp = .ok after) :
    (∀ name, Spared block autoTagUsername before name → after.get? name = stored.get? name) ∧
      ∀ username, autoTagUsername = some username → username ≠ "" → ¬ Named block rolesAttr →
        after.get? rolesAttr = some username := by
  have hafter := storedAfterUpdate_ok hupdate
  constructor
  · intro name h
    have hrequest : ((requestAttrs attrs).set hiddenAttr "true").get? name = none := by
      rw [Dict.get?_set_ne _ _ h.notHidden]
      exact get?_requestAttrs_of_unnamed hparse h.unnamed h.text
    have htagged : (applyAutoTag ((requestAttrs attrs).set hiddenAttr "true")
        autoTagUsername).get? name = none := by
      rw [get?_applyAutoTag_spared h.roles]
      exact hrequest
    rw [hafter, Dict.get?_merge, get?_stampFromSnapshot_spared stamp h.notRegisteredAt h.active,
      get?_pskEncodeCa_spared psk htagged]
    rfl
  · rintro username rfl hname hunnamed
    have hroles : PyText.strip
        (Attrs.attr ((requestAttrs attrs).set hiddenAttr "true") rolesAttr) = "" := by
      unfold Attrs.attr
      rw [Dict.get?_set_ne _ _ (by decide)]
      exact (congrArg PyText.strip (attr_roles_of_unnamed hparse hunnamed)).trans PyText.strip_empty
    rw [hafter, applyAutoTag_blank hname hroles, Dict.get?_merge,
      get?_stampFromSnapshot_spared stamp (by decide) (fun h => absurd h (by decide)),
      get?_pskEncodeCa_ne psk _ (by decide), Dict.get?_set_self]
    rfl

end Frame

/-! ## Updates of one endpoint -/

section Examples

local instance updateText : PyText := asciiText

def lenientPsk : PskSettings where
  policy := { minLength := 8, requireUppercase := false, requireNumbers := false,
              requireSpecial := false }

/-- An inactive printer of the role `ops`. -/
def printerAttrs : Attrs :=
  Dict.empty.set "Owner" "Network" |>.set rolesAttr "ops" |>.set activeAttr "Inaktiv"

/-- A block that only names the type. -/
def typeBlock : AttrBlock := some (Dict.empty.set "Type" (.text "printer"))

theorem update_keeps_unnamed_owner :
    ∃ after, storedAfterUpdate lenientPsk printerAttrs none (some "jan") none "2026-02-01" =
        .ok after ∧
      after.get? "Owner" = printerAttrs.get? "Owner" ∧ after.get? rolesAttr = some "jan" := by
  have hparse : attrsOfBlock none = some none := rfl
  have hnamed : ∀ name, ¬ Named none name := by
    rintro name ⟨object, hobject, _⟩
    cases hobject
  obtain ⟨after, hupdate⟩ : ∃ after,
      storedAfterUpdate lenientPsk printerAttrs none (some "jan") none "2026-02-01" =
        .ok after := ⟨_, rfl⟩
  obtain ⟨hspared, htagged⟩ := update_keeps_unnamed hparse hupdate
  refine ⟨after, hupdate, hspared "Owner" ⟨hnamed _, by decide, by decide, ?_, ?_, fun _ => rfl⟩,
    htagged "jan" rfl (by decide) (hnamed _)⟩
  · intro h
    exact absurd h (by decide)
  · intro h
    exact absurd h (by decide)

/-- The auto-tag replaces roles the request does not name, a block empties the text fields it does
not name, and an active status the snapshot does not have yet is overwritten. -/
theorem update_changes_unnamed :
    (∃ after, storedAfterUpdate lenientPsk printerAttrs none (some "jan") none "2026-02-01" =
        .ok after ∧ ¬ KeepsUnnamed none printerAttrs after) ∧
      (∃ attrs after, attrsOfBlock typeBlock = some attrs ∧
        storedAfterUpdate lenientPsk printerAttrs attrs none none "2026-02-01" = .ok after ∧
          ¬ KeepsUnnamed typeBlock printerAttrs after) ∧
      ∃ after, storedAfterUpdate lenientPsk printerAttrs none none
          (some { id := "ep-1", name := "printer" }) "2026-02-01" = .ok after ∧
        ¬ KeepsUnnamed none printerAttrs after := by
  have hnamed : ∀ name, ¬ Named none name := by
    rintro name ⟨object, hobject, _⟩
    cases hobject
  refine ⟨⟨_, rfl, fun h => ?_⟩, ⟨_, _, rfl, rfl, fun h => ?_⟩, ⟨_, rfl, fun h => ?_⟩⟩
  · have hroles := h rolesAttr (hnamed _) (by decide) (by decide) (by decide)
    exact absurd hroles (by decide)
  · have hroles := h rolesAttr ?_ (by decide) (by decide) (by decide)
    · exact absurd hroles (by decide)
    · rintro ⟨object, hobject, hmem⟩
      cases hobject
      exact absurd hmem (by decide)
  · have hactive := h activeAttr (hnamed _) (by decide) (by decide) (by decide)
    exact absurd hactive (by decide)

end Examples

end IsePortal
