import IsePortal.Settings.Service

/-!
# What the readers of the sections show

Once the keys of a section have the values of a request, its reader shows the request: for the two
sections whose fields are copied this is a property of their lists, `WellListed`, and the PSK policy
and the language are read off one by one. A reader depends on the keys of its own section only.
-/

namespace IsePortal

/-- The response can be built when each of its fields has a value of its type, or a default where it
has none, and then it shows these values. -/
theorem build_shows [Validation] {schema : List SchemaField} {given : JsonObject}
    (hnodup : (schema.map SchemaField.name).Nodup) (value : SchemaField → Json)
    (h : ∀ field ∈ schema, given.lookup field.name = some (value field) ∧
        field.type.admits (value field) = true ∨
      given.lookup field.name = none ∧ field.default = some (value field)) :
    ∃ fields, build schema given = some fields ∧
      ∀ field ∈ schema, fields.lookup field.name = some (value field) := by
  have hvalue : ∀ field ∈ schema, buildField given field = some (value field) := by
    intro field hfield
    unfold buildField
    obtain ⟨hgiven, hadmits⟩ | ⟨hgiven, hdefault⟩ := h field hfield
    · rw [hgiven]
      exact Validation.convert_of_admits hadmits
    · rw [hgiven]
      exact hdefault
  obtain ⟨fields, hfields⟩ := exists_build fun field hfield => ⟨_, hvalue field hfield⟩
  refine ⟨fields, hfields, fun field hfield => ?_⟩
  obtain ⟨found, hfound, hlookup⟩ := lookup_build hnodup hfields hfield
  rw [hvalue field hfield, Option.some.injEq] at hfound
  rw [hlookup, hfound]

/-! ## Copied sections -/

/-- The lists of a section fit together, but for the fields in `left`: these are in neither list,
and the response takes its default `True` for them. -/
structure WellListed (copied : CopiedSection) (left : List String) : Prop where
  nodup : (copied.response.map SchemaField.name).Nodup
  overrides_nodup : copied.overrides.Nodup
  secret : copied.secret ∉ copied.overrides
  fields : ∀ field ∈ copied.response,
    (field.name = copied.secretSet ∧ field.type = .flag ∧ field.name ∉ copied.attributes) ∨
      (field.name ∈ copied.attributes ∧ field.name ∈ copied.overrides ∧
        ∃ sent ∈ copied.update, sent.name = field.name ∧ sent.type = field.type) ∨
      (field.name ∈ left ∧ field.name ∉ copied.attributes ∧ field.name ≠ copied.secretSet ∧
        field.default.elim false fun value => value.truthy && FieldType.flag.admits value)
  sent : ∀ field ∈ copied.update, field.name ≠ copied.secret →
    ∃ shown ∈ copied.response, shown.name = field.name ∧ shown.name ≠ copied.secretSet ∧
      (field.name ∈ left ∧ field.name ∉ copied.attributes ∨ field.name ∈ copied.attributes)

theorem backend_wellListed : WellListed backendSection ["decomm_set_authz"] where
  nodup := by decide +kernel
  overrides_nodup := by decide +kernel
  secret := by decide +kernel
  fields := by decide +kernel
  sent := by decide +kernel

theorem pxgrid_wellListed : WellListed pxgridSection [] where
  nodup := by decide
  overrides_nodup := by decide
  secret := by decide
  fields := by decide
  sent := by decide

namespace CopiedSection

variable {copied : CopiedSection} {left : List String}

theorem lookup_arguments (copied : CopiedSection) (s : ConfigSettings) (name : String) :
    (copied.arguments s).lookup name =
      if name ∈ copied.attributes then some (s name)
      else if name = copied.secretSet then some (.bool (s copied.secret).truthy)
      else none := by
  rw [arguments, List.lookup_append, JsonObject.lookup_map_self]
  by_cases hname : name ∈ copied.attributes
  · simp [hname]
  · by_cases hset : name = copied.secretSet
    · subst hset
      simp [hname]
    · have hne : (name == copied.secretSet) = false := by simpa using hset
      simp [hname, hset, List.lookup_cons, hne]

theorem arguments_congr {s other : ConfigSettings}
    (h : ∀ key ∈ copied.secret :: copied.attributes, s key = other key) :
    copied.arguments s = copied.arguments other := by
  unfold arguments
  rw [h copied.secret List.mem_cons_self]
  congr 1
  exact List.map_congr_left fun name hname =>
    congrArg (Prod.mk name) (h name (List.mem_cons_of_mem _ hname))

theorem lookup_changes (copied : CopiedSection) (new : JsonObject) (key : String) :
    (copied.changes new).lookup key =
      if key ∈ copied.overrides then some (new.getD key .null)
      else if key = copied.secret ∧ (new.getD copied.secret .null).truthy then
        some (new.getD copied.secret .null)
      else none := by
  rw [changes, List.lookup_append, JsonObject.lookup_map_self]
  by_cases hkey : key ∈ copied.overrides
  · simp [hkey]
  · by_cases hgiven : (new.getD copied.secret .null).truthy
    · by_cases hsame : key = copied.secret
      · subst hsame
        simp [hkey, hgiven]
      · have hne : (key == copied.secret) = false := by simpa using hsame
        simp [hkey, hgiven, hsame, List.lookup_cons, hne]
    · simp [hkey, hgiven]

theorem nodup_changes (h : WellListed copied left) (new : JsonObject) :
    ((copied.changes new).map Prod.fst).Nodup := by
  have hkeys : (copied.overrides.map fun key => (key, new.getD key .null)).map Prod.fst =
      copied.overrides := by
    rw [List.map_map]
    exact List.map_id _
  rw [changes, List.map_append, hkeys]
  split
  · rw [List.map_singleton, List.nodup_append]
    refine ⟨h.overrides_nodup, by simp, ?_⟩
    intro key hkey other hother heq
    rw [List.mem_singleton] at hother
    rw [heq, hother] at hkey
    exact h.secret hkey
  · simpa using h.overrides_nodup

/-- Once the keys have the values of a validated request, the reader shows each field of the request
but the secret, and `True` for the fields the lists leave out. -/
theorem build_response [Validation] (h : WellListed copied left) {new : JsonObject}
    (hfits : Fits copied.update new) {s : ConfigSettings}
    (hs : ∀ key ∈ copied.overrides, s key = new.getD key .null) :
    ∃ fields, build copied.response (copied.arguments s) = some fields ∧
      ∀ field ∈ copied.update, field.name ≠ copied.secret →
        (field.name ∈ left → new.getD field.name .null = .bool true) →
          fields.lookup field.name = some (new.getD field.name .null) := by
  let value : SchemaField → Json := fun field =>
    if field.name ∈ copied.attributes then new.getD field.name .null
    else if field.name = copied.secretSet then .bool (s copied.secret).truthy
    else .bool true
  have hgiven : ∀ field ∈ copied.response,
      (copied.arguments s).lookup field.name = some (value field) ∧
          field.type.admits (value field) = true ∨
        (copied.arguments s).lookup field.name = none ∧ field.default = some (value field) := by
    intro field hfield
    rw [lookup_arguments]
    obtain ⟨hset, htype, hnot⟩ | ⟨hattr, hover, sent, hsent, hname, htype⟩ |
      ⟨-, hnot, hset, hdefault⟩ := h.fields field hfield
    · left
      rw [hset] at hnot ⊢
      simp only [value, hset, hnot, htype, ↓reduceIte]
      exact ⟨trivial, rfl⟩
    · left
      obtain ⟨given, hlookup, hadmits⟩ := hfits sent hsent
      rw [hname] at hlookup
      have hget : new.getD field.name .null = given := by rw [JsonObject.getD, hlookup]; rfl
      simp only [value, hattr, ↓reduceIte, hs field.name hover, hget, true_and]
      rw [← htype]
      exact hadmits
    · right
      simp only [value, hnot, hset, ↓reduceIte, true_and]
      cases hgiven : field.default with
      | none => simp [hgiven] at hdefault
      | some given =>
          rw [hgiven] at hdefault
          cases given <;> simp_all [FieldType.admits, Json.truthy]
  obtain ⟨fields, hbuild, hshows⟩ := build_shows h.nodup value hgiven
  refine ⟨fields, hbuild, fun field hfield hsecret hleft => ?_⟩
  obtain ⟨shown, hshown, hname, hset, hwhere⟩ := h.sent field hfield hsecret
  have hfound := hshows shown hshown
  rw [hname] at hfound hset
  rw [hfound]
  obtain ⟨hmem, hnot⟩ | hattr := hwhere
  · simp only [value, hname, hnot, hset, ↓reduceIte, hleft hmem]
  · simp only [value, hname, hattr, ↓reduceIte]

end CopiedSection

/-- The paths a reset of pxGrid clears. -/
def clearedPaths : List String := ["pxgrid_cert_path", "pxgrid_key_path", "pxgrid_ca_bundle_path"]

/-- Where the reader of the pxGrid section answers, it answers with the paths cleared too. -/
theorem getPxgridSettings_cleared [Validation] {s cleared : ConfigSettings} {before : JsonObject}
    (hbefore : getPxgridSettings s = some before)
    (hpaths : ∀ key ∈ clearedPaths, cleared key = .str "")
    (hrest : ∀ key ∈ pxgridSection.attributes, key ∉ clearedPaths → cleared key = s key) :
    ∃ fields, getPxgridSettings cleared = some fields ∧
      ∀ key ∈ clearedPaths, fields.lookup key = some (.str "") := by
  have htypes : ∀ field ∈ pxGridSettingsResponse,
      (field.name ∈ clearedPaths → field.type = .text ∧ field.name ∈ pxgridSection.attributes) ∧
        (field.name = pxgridSection.secretSet →
          field.type = .flag ∧ field.name ∉ pxgridSection.attributes) := by decide
  have hlisted : ∀ key ∈ clearedPaths, ∃ field ∈ pxGridSettingsResponse, field.name = key := by
    decide
  have hbuilt : ∀ field ∈ pxGridSettingsResponse, ∃ value,
      buildField (pxgridSection.arguments cleared) field = some value ∧
        (field.name ∈ clearedPaths → value = .str "") := by
    intro field hfield
    by_cases hpath : field.name ∈ clearedPaths
    · obtain ⟨htype, hattr⟩ := (htypes field hfield).1 hpath
      refine ⟨.str "", ?_, fun _ => rfl⟩
      rw [buildField, CopiedSection.lookup_arguments, if_pos hattr, hpaths _ hpath, htype]
      exact Validation.convert_of_admits rfl
    · by_cases hset : field.name = pxgridSection.secretSet
      · obtain ⟨htype, hattr⟩ := (htypes field hfield).2 hset
        refine ⟨.bool (cleared pxgridSection.secret).truthy, ?_, fun h => absurd h hpath⟩
        rw [buildField, CopiedSection.lookup_arguments, if_neg hattr, if_pos hset, htype]
        exact Validation.convert_of_admits rfl
      · obtain ⟨value, hvalue, -⟩ := lookup_build pxgrid_wellListed.nodup hbefore hfield
        refine ⟨value, ?_, fun h => absurd h hpath⟩
        have hsame : (pxgridSection.arguments cleared).lookup field.name =
            (pxgridSection.arguments s).lookup field.name := by
          rw [CopiedSection.lookup_arguments, CopiedSection.lookup_arguments]
          by_cases hattr : field.name ∈ pxgridSection.attributes
          · rw [if_pos hattr, if_pos hattr, hrest _ hattr hpath]
          · rw [if_neg hattr, if_neg hattr, if_neg hset, if_neg hset]
        rw [buildField, hsame]
        exact hvalue
  obtain ⟨fields, hfields⟩ := exists_build fun field hfield =>
    (hbuilt field hfield).imp fun _ h => h.1
  refine ⟨fields, hfields, fun key hkey => ?_⟩
  obtain ⟨field, hfield, rfl⟩ := hlisted key hkey
  obtain ⟨value, hvalue, hlookup⟩ := lookup_build pxgrid_wellListed.nodup hfields hfield
  obtain ⟨found, hfound, hempty⟩ := hbuilt field hfield
  rw [hfound, Option.some.injEq] at hvalue
  rw [hlookup, ← hvalue, hempty hkey]

/-! ## The PSK policy and the language -/

/-- A field of a request that fits has a value of its type. -/
theorem Payload.get_admits {schema : List SchemaField} (new : Payload schema) {field : SchemaField}
    (hfield : field ∈ schema) : field.type.admits (new.get field.name) = true := by
  obtain ⟨value, hlookup, hadmits⟩ := new.fits field hfield
  rw [Payload.get, JsonObject.getD, hlookup]
  exact hadmits

theorem FieldType.admits_text {value : Json} (h : FieldType.text.admits value = true) :
    ∃ text, value = .str text := by
  cases value with
  | str text => exact ⟨text, rfl⟩
  | _ => cases h

theorem FieldType.admits_flag {value : Json} (h : FieldType.flag.admits value = true) :
    .bool value.truthy = value := by
  cases value with
  | bool value => rfl
  | _ => cases h

theorem FieldType.admits_choice {values : List String} {value : Json}
    (h : (FieldType.choice values).admits value = true) : ∃ word ∈ values, value = .str word := by
  cases value with
  | str word => exact ⟨word, by simpa [FieldType.admits] using h, rfl⟩
  | _ => cases h

theorem FieldType.admits_intBetween {least most : Int} {value : Json}
    (h : (FieldType.intBetween least most).admits value = true) :
    ∃ number : Int, least ≤ number ∧ number ≤ most ∧ value = .num number := by
  cases value with
  | num value =>
      simp only [FieldType.admits, Bool.and_eq_true, decide_eq_true_eq] at h
      obtain ⟨⟨hden, hleast⟩, hmost⟩ := h
      exact ⟨value.num, hleast, hmost, by rw [Rat.coe_int_num_of_den_eq_one hden]⟩
  | _ => cases h

theorem toInt_int (number : Int) : (Json.num (number : Rat)).toInt = .ok number := by
  unfold Json.toInt
  simp

section Readers

variable [PyText] [LawfulUpper]

theorem upper_code {code : String} (hcode : code ∈ ["MPSK", "IPSK"]) :
    PyText.upper code = code := by
  apply LawfulUpper.upper_capitals
  rcases List.mem_cons.mp hcode with rfl | hcode
  · decide
  · rw [List.mem_singleton.mp hcode]
    decide

/-- `psk_type` is stored as one of the two codes. -/
theorem normalisedPskType_cases (pskType : String) :
    ∃ code ∈ ["MPSK", "IPSK"], normalisedPskType (.str pskType) = .str code := by
  show ∃ code ∈ ["MPSK", "IPSK"],
    Json.str (if pskType ∈ ["MPSK", "IPSK"] then PyText.upper pskType else "MPSK") = .str code
  by_cases hmem : pskType ∈ ["MPSK", "IPSK"]
  · exact ⟨pskType, hmem, by rw [if_pos hmem, upper_code hmem]⟩
  · exact ⟨"MPSK", by decide, by rw [if_neg hmem]⟩

variable [PyJson]

/-- The reader takes a stored code as it is. -/
theorem storedPskType_eq {s : ConfigSettings} {code : String} (hcode : code ∈ ["MPSK", "IPSK"])
    (hs : s "psk_type" = .str code) : storedPskType s = code := by
  have hne : code ≠ "" := by
    intro hempty
    rw [hempty] at hcode
    exact absurd hcode (by decide)
  rw [storedPskType, hs, PyJson.str_str, upper_code hcode, if_neg hne]

variable [Validation]

/-- Once the keys have the values of a request, the reader of the PSK policy shows it. -/
theorem getPskPolicy_shows (new : Payload pskPolicy) {s : ConfigSettings}
    (hs : ∀ entry ∈ (SettingsCall.updatePskPolicy new).changes, s entry.1 = entry.2) :
    ∃ fields, getPskPolicy s = some fields ∧
      fields.lookup "psk_type" = some (normalisedPskType (new.get "psk_type")) ∧
        ∀ field ∈ pskPolicy, field.name ≠ "psk_type" →
          fields.lookup field.name = some (new.get field.name) := by
  have hin : ∀ field ∈ pskPolicy, field.type.admits (new.get field.name) = true :=
    fun field hfield => new.get_admits hfield
  simp only [SettingsCall.changes, List.forall_mem_cons, List.not_mem_nil, false_implies,
    implies_true, and_true] at hs
  obtain ⟨htype, hrest⟩ := List.forall_mem_cons.mp hin
  obtain ⟨hshow, hrest⟩ := List.forall_mem_cons.mp hrest
  obtain ⟨hmin, hrest⟩ := List.forall_mem_cons.mp hrest
  obtain ⟨hupper, hrest⟩ := List.forall_mem_cons.mp hrest
  obtain ⟨hnumber, hrest⟩ := List.forall_mem_cons.mp hrest
  obtain ⟨hspecial, -⟩ := List.forall_mem_cons.mp hrest
  obtain ⟨pskType, hpsk⟩ : ∃ text, new.get "psk_type" = .str text := FieldType.admits_text htype
  obtain ⟨code, hcode, hnormal⟩ := normalisedPskType_cases pskType
  obtain ⟨minLength, -, -, hlength⟩ : ∃ number : Int, 8 ≤ number ∧ number ≤ 128 ∧
      new.get "min_length" = .num number := FieldType.admits_intBetween hmin
  have hstored : storedPskType s = code :=
    storedPskType_eq hcode (hs.1.trans (by rw [hpsk, hnormal]))
  have hread : (s "psk_min_length").toInt = .ok minLength := by
    rw [hs.2.2.1, hlength, toInt_int]
  let value : SchemaField → Json := fun field =>
    if field.name = "psk_type" then .str code else new.get field.name
  let given : JsonObject :=
    [("psk_type", .str code), ("show_key_in_table", new.get "show_key_in_table"),
     ("min_length", new.get "min_length"), ("require_uppercase", new.get "require_uppercase"),
     ("require_numbers", new.get "require_numbers"),
     ("require_special", new.get "require_special")]
  have hpolicy : getPskPolicy s = build pskPolicy given := by
    rw [getPskPolicy, hread, hstored, hs.2.1, hs.2.2.2.1, hs.2.2.2.2.1, hs.2.2.2.2.2,
      FieldType.admits_flag hshow, FieldType.admits_flag hupper, FieldType.admits_flag hnumber,
      FieldType.admits_flag hspecial]
    simp only [given, hlength]
    rfl
  have hgiven : ∀ field ∈ pskPolicy,
      given.lookup field.name = some (value field) ∧ field.type.admits (value field) = true ∨
        given.lookup field.name = none ∧ field.default = some (value field) := by
    intro field hfield
    left
    rcases List.mem_cons.mp hfield with rfl | hmem
    · exact ⟨rfl, rfl⟩
    · have hname : field.name ≠ "psk_type" := by
        intro hname
        exact absurd (List.mem_map.mpr ⟨field, hmem, hname⟩) (by decide)
      refine ⟨?_, ?_⟩
      · simp only [List.mem_cons, List.not_mem_nil, or_false] at hmem
        rcases hmem with rfl | rfl | rfl | rfl | rfl <;> rfl
      · rw [show value field = new.get field.name from if_neg hname]
        exact hin field hfield
  obtain ⟨fields, hbuild, hshows⟩ := build_shows (by decide) value hgiven
  refine ⟨fields, hpolicy.trans hbuild, ?_, fun field hfield hname => ?_⟩
  · rw [hpsk, hnormal]
    exact hshows _ List.mem_cons_self
  · rw [hshows field hfield]
    exact congrArg some (if_neg hname)

omit [LawfulUpper] in
/-- The reader of the PSK policy depends on the six keys. -/
theorem getPskPolicy_congr {s other : ConfigSettings}
    (h : ∀ key ∈ ["psk_type", "psk_show_key_in_table", "psk_min_length", "psk_require_uppercase",
      "psk_require_numbers", "psk_require_special"], s key = other key) :
    getPskPolicy s = getPskPolicy other := by
  simp only [List.forall_mem_cons, List.not_mem_nil, false_implies, implies_true, and_true] at h
  obtain ⟨htype, hshow, hmin, hupper, hnumber, hspecial⟩ := h
  unfold getPskPolicy storedPskType
  rw [htype, hshow, hmin, hupper, hnumber, hspecial]

end Readers

/-- The file is absent or holds a dictionary. -/
def HoldsDict : Option Json → Prop
  | none => True
  | some (.obj _) => True
  | some _ => False

section Locale

variable [Validation]

/-- The reader of the language depends on its key. -/
theorem getPortalLocale_congr {config other : Option Json} (hconfig : HoldsDict config)
    (hother : HoldsDict other)
    (h : storedValue config "default_language" = storedValue other "default_language") :
    getPortalLocale false config = getPortalLocale false other := by
  have hread : ∀ {data : Option Json}, HoldsDict data → ∃ overrides : JsonObject,
      loadOverrides false data = .obj overrides ∧
        overrides.lookup "default_language" = storedValue data "default_language" := by
    intro data hdata
    match data, hdata with
    | none, _ => exact ⟨[], rfl, rfl⟩
    | some (.obj fields), _ => exact ⟨fields, rfl, rfl⟩
  obtain ⟨overrides, hload, hlookup⟩ := hread hconfig
  obtain ⟨others, hothers, hlookup'⟩ := hread hother
  unfold getPortalLocale
  rw [hload, hothers]
  simp only [JsonObject.getD, hlookup, hlookup', h]

/-- Once its key has the value of a request, the reader of the language shows it. -/
theorem getPortalLocale_shows (new : Payload portalLocaleUpdate) {config : Option Json}
    (hconfig : HoldsDict config)
    (h : storedValue config "default_language" = some (new.get "default_language")) :
    ∃ fields, getPortalLocale false config = some fields ∧
      fields.lookup "default_language" = some (new.get "default_language") := by
  obtain ⟨lang, hlang, hget⟩ : ∃ lang ∈ ["da", "en"], new.get "default_language" = .str lang :=
    FieldType.admits_choice (new.get_admits List.mem_cons_self)
  rw [hget] at h ⊢
  match config, hconfig with
  | some (.obj overrides), _ =>
      have hread : getPortalLocale false (some (.obj overrides)) =
          build portalLocaleResponse [("default_language", .str lang)] := by
        have hlookup : overrides.lookup "default_language" = some (.str lang) := h
        unfold getPortalLocale
        simp only [loadOverrides, JsonObject.getD, hlookup, Option.getD_some, hlang, ↓reduceIte,
          Bool.false_eq_true]
      have hgiven : ∀ field ∈ portalLocaleResponse,
          List.lookup field.name [("default_language", Json.str lang)] = some (.str lang) ∧
              field.type.admits (.str lang) = true ∨
            List.lookup field.name [("default_language", Json.str lang)] = none ∧
              field.default = some (.str lang) := by
        intro field hfield
        rw [portalLocaleResponse, List.mem_singleton] at hfield
        subst hfield
        exact Or.inl ⟨rfl, by simpa [FieldType.admits] using hlang⟩
      obtain ⟨fields, hbuild, hshows⟩ :=
        build_shows (by decide) (fun _ => Json.str lang) hgiven
      exact ⟨fields, hread.trans hbuild, hshows _ List.mem_cons_self⟩

end Locale

end IsePortal
