import IsePortal.Settings.Schema

/-!
# The settings service

The readers and updates of `app/services/settings_service.py` for the sections kept in
`config.json`, over `app/core/settings_store.py` and the `Settings` object of `app/core/config.py`.
An update reads the whole file, sets the keys of its section and writes the whole file back; then
the settings object is loaded again, from the environment with the values of the file over it. Every
read of the file may fault, and `load_overrides` answers a fault with the empty dictionary.
-/

namespace IsePortal

/-- The attributes of a `config.Settings` object, by name. -/
abbrev ConfigSettings := String → Json

/-- What a call meets outside: whether its reads of `config.json` fault, before the update, for the
update and after it, and whether its write fails. -/
structure Faults where
  before : Bool := false
  load : Bool := false
  refresh : Bool := false
  save : Bool := false

/-- What `config.json` holds, if there is one, and `config.settings`. -/
structure PortalConfig where
  config : Option Json
  settings : ConfigSettings

/-- What the file holds under the key. -/
def storedValue (config : Option Json) (key : String) : Option Json :=
  match config with
  | some (.obj fields) => fields.lookup key
  | _ => none

/-- `load_overrides` -/
def loadOverrides (fault : Bool) (config : Option Json) : Json :=
  match config with
  | none => .obj []
  | some data => if fault then .obj [] else data

/-- `_load`: the settings of the environment with the stored values over them; `none` where
`model_copy` raises, on stored data that is no dictionary. -/
def loadSettings (base : ConfigSettings) : Json → Option ConfigSettings
  | .obj overrides => some fun key => (overrides.lookup key).getD (base key)
  | data => if data.truthy then none else some base

/-- The portal after a start with this file. -/
def PortalConfig.started (base : ConfigSettings) (config : Option Json) : Option PortalConfig :=
  (loadSettings base (loadOverrides false config)).map fun settings => ⟨config, settings⟩

/-! ## Sections whose fields are copied -/

/-- A section whose fields have the same name everywhere, as its three lists give them: the keys an
update writes, the attributes the reader passes on, and the models of both ends. Its secret is
written only when it is not empty, and read only as a flag. -/
structure CopiedSection where
  update : List SchemaField
  response : List SchemaField
  overrides : List String
  attributes : List String
  secret : String
  secretSet : String

/-- The keys an update of the section sets, with their values. -/
def CopiedSection.changes (copied : CopiedSection) (new : JsonObject) : JsonObject :=
  (copied.overrides.map fun key => (key, new.getD key .null)) ++
    if (new.getD copied.secret .null).truthy then
      [(copied.secret, new.getD copied.secret .null)]
    else []

/-- What the reader of the section gives its response model. -/
def CopiedSection.arguments (copied : CopiedSection) (s : ConfigSettings) : JsonObject :=
  (copied.attributes.map fun name => (name, s name)) ++
    [(copied.secretSet, .bool (s copied.secret).truthy)]

/-- The lists of `get_backend_settings` and `update_backend_settings`. -/
def backendSection : CopiedSection where
  update := backendSettingsUpdate
  response := backendSettingsResponse
  overrides :=
    ["ise_base_url", "ise_read_base_url", "ise_username", "ise_verify_tls", "ise_timeout",
     "ise_api_type", "coa_psn_name", "coa_reauth_type", "coa_disconnect_type", "cache_enabled",
     "cache_ttl_seconds", "cache_stale_while_revalidate", "cache_sync_interval_seconds",
     "cache_disk_path", "cache_prewarm_concurrency", "cache_prewarm_interval_s",
     "cache_prewarm_skip_fresh_s", "cache_max_entries", "cache_max_memory_mb",
     "adaptive_pacing_enabled", "adaptive_pacing_range_pct", "adaptive_ttl_enabled",
     "adaptive_ttl_max_seconds", "adaptive_scan_max_seconds", "ise_group_cache_ttl_s",
     "debug_pxgrid_sessions", "github_branch", "decomm_authz_vlan", "decomm_authz_acl",
     "selfregister_enabled", "selfregister_group_id", "selfregister_intro_text",
     "selfregister_success_text", "selfregister_redirect_url", "selfregister_terms",
     "selfregister_authz_vlan", "selfregister_authz_acl", "selfregister_ipsk_enabled",
     "selfregister_expiry_enabled", "selfregister_expiry_mode", "selfregister_expiry_days",
     "selfregister_expiry_date", "selfregister_expiry_time", "selfregister_expiry_coa_enabled",
     "selfregister_expiry_coa_type", "guest_expiry_check_interval_seconds"]
  attributes :=
    ["ise_base_url", "ise_read_base_url", "ise_username", "ise_verify_tls", "ise_timeout",
     "ise_api_type", "coa_psn_name", "coa_reauth_type", "coa_disconnect_type", "cache_enabled",
     "cache_ttl_seconds", "cache_stale_while_revalidate", "cache_sync_interval_seconds",
     "cache_disk_path", "cache_prewarm_concurrency", "cache_prewarm_interval_s",
     "cache_prewarm_skip_fresh_s", "cache_max_entries", "cache_max_memory_mb",
     "adaptive_pacing_enabled", "adaptive_pacing_range_pct", "adaptive_ttl_enabled",
     "adaptive_ttl_max_seconds", "adaptive_scan_max_seconds", "ise_group_cache_ttl_s",
     "debug_pxgrid_sessions", "github_branch", "decomm_authz_vlan", "decomm_authz_acl",
     "selfregister_enabled", "selfregister_group_id", "selfregister_intro_text",
     "selfregister_success_text", "selfregister_redirect_url", "selfregister_terms",
     "selfregister_authz_vlan", "selfregister_authz_acl", "selfregister_ipsk_enabled",
     "selfregister_expiry_enabled", "selfregister_expiry_mode", "selfregister_expiry_days",
     "selfregister_expiry_date", "selfregister_expiry_time", "selfregister_expiry_coa_enabled",
     "selfregister_expiry_coa_type", "guest_expiry_check_interval_seconds"]
  secret := "ise_password"
  secretSet := "ise_password_set"

/-- The lists of `get_pxgrid_settings` and `update_pxgrid_settings`. -/
def pxgridSection : CopiedSection where
  update := pxGridSettingsUpdate
  response := pxGridSettingsResponse
  overrides :=
    ["pxgrid_enabled", "pxgrid_node_name", "pxgrid_psn_fqdn", "pxgrid_cert_mode",
     "pxgrid_cert_path", "pxgrid_key_path", "pxgrid_ca_bundle_path", "pxgrid_cert_extra_sans",
     "pxgrid_session_topic", "pxgrid_stomp_heartbeat_ms", "pxgrid_stomp_reconnect_min_s",
     "pxgrid_stomp_reconnect_max_s", "pxgrid_stomp_recv_timeout_s",
     "pxgrid_session_cache_max_age_s", "pxgrid_worker_enabled", "pxgrid_endpoint_topic_enabled",
     "pxgrid_endpoint_topic", "pxgrid_endpoint_service"]
  attributes :=
    ["pxgrid_enabled", "pxgrid_node_name", "pxgrid_psn_fqdn", "pxgrid_cert_mode",
     "pxgrid_cert_path", "pxgrid_key_path", "pxgrid_ca_bundle_path", "pxgrid_cert_extra_sans",
     "pxgrid_session_topic", "pxgrid_stomp_heartbeat_ms", "pxgrid_stomp_reconnect_min_s",
     "pxgrid_stomp_reconnect_max_s", "pxgrid_stomp_recv_timeout_s",
     "pxgrid_session_cache_max_age_s", "pxgrid_worker_enabled", "pxgrid_endpoint_topic_enabled",
     "pxgrid_endpoint_topic", "pxgrid_endpoint_service"]
  secret := "pxgrid_password"
  secretSet := "pxgrid_password_set"

/-! ## The readers -/

/-- `str(psk_type).upper() or "MPSK"` -/
def storedPskType [PyText] [PyJson] (s : ConfigSettings) : String :=
  if PyText.upper (PyJson.str (s "psk_type")) = "" then "MPSK"
  else PyText.upper (PyJson.str (s "psk_type"))

section Readers

variable [Validation]

/-- `get_backend_settings` -/
def getBackendSettings (s : ConfigSettings) : Option JsonObject :=
  build backendSettingsResponse (backendSection.arguments s)

/-- `get_pxgrid_settings` -/
def getPxgridSettings (s : ConfigSettings) : Option JsonObject :=
  build pxGridSettingsResponse (pxgridSection.arguments s)

/-- `get_psk_policy`; `int()` may raise on the stored length. -/
def getPskPolicy [PyText] [PyJson] (s : ConfigSettings) : Option JsonObject := do
  let minLength ← (s "psk_min_length").toInt.toOption
  build pskPolicy
    [("psk_type", .str (storedPskType s)),
     ("show_key_in_table", .bool (s "psk_show_key_in_table").truthy),
     ("min_length", .num minLength),
     ("require_uppercase", .bool (s "psk_require_uppercase").truthy),
     ("require_numbers", .bool (s "psk_require_numbers").truthy),
     ("require_special", .bool (s "psk_require_special").truthy)]

/-- `get_portal_locale`, which reads the file each time. A stored list or object is unhashable, so
`lang not in _VALID_LOCALES` raises on it. -/
def getPortalLocale (fault : Bool) (config : Option Json) : Option JsonObject :=
  match loadOverrides fault config with
  | .obj overrides =>
      match JsonObject.getD overrides "default_language" (.str "en") with
      | .arr _ => none
      | .obj _ => none
      | .str lang =>
          build portalLocaleResponse
            [("default_language", .str (if lang ∈ ["da", "en"] then lang else "en"))]
      | _ => build portalLocaleResponse [("default_language", .str "en")]
  | _ => none

end Readers

/-! ## The updates -/

/-- A validated request. -/
structure Payload (schema : List SchemaField) where
  fields : JsonObject
  fits : Fits schema fields

/-- `new.name` -/
def Payload.get {schema : List SchemaField} (new : Payload schema) (name : String) : Json :=
  JsonObject.getD new.fields name .null

/-- The request a body is validated to. -/
def Payload.ofBody [Validation] {schema : List SchemaField} (hschema : schema ∈ updateSchemas)
    (body : JsonObject) (h : (build schema body).isSome) : Payload schema where
  fields := (build schema body).get h
  fits := fits_build (updateSchemas_wellFormed schema hschema).1
    (updateSchemas_wellFormed schema hschema).2 (Option.some_get h).symm

/-- A field of a request has what the body gives for it, or its default. -/
theorem Payload.get_ofBody [Validation] {schema : List SchemaField}
    (hschema : schema ∈ updateSchemas) {body : JsonObject} (h : (build schema body).isSome)
    {field : SchemaField} (hfield : field ∈ schema) :
    buildField body field = some ((Payload.ofBody hschema body h).get field.name) := by
  obtain ⟨value, hvalue, hlookup⟩ :=
    lookup_build (updateSchemas_wellFormed schema hschema).1 (Option.some_get h).symm hfield
  rw [hvalue, Payload.get, JsonObject.getD]
  show some value = some ((List.lookup field.name ((build schema body).get h)).getD .null)
  rw [hlookup]
  rfl

/-- The calls that write `config.json`. -/
inductive SettingsCall where
  | updateBackendSettings (new : Payload backendSettingsUpdate)
  | updatePxgridSettings (new : Payload pxGridSettingsUpdate)
  | updatePskPolicy (new : Payload pskPolicy)
  | updatePortalLocale (new : Payload portalLocaleUpdate)
  | pxgridReset

/-- `psk_type` as `update_psk_policy` stores it. -/
def normalisedPskType [PyText] (pskType : Json) : Json :=
  match pskType with
  | .str text => .str (if text ∈ ["MPSK", "IPSK"] then PyText.upper text else "MPSK")
  | _ => .str "MPSK"

/-- The keys a call sets in the overrides, with their values. -/
def SettingsCall.changes [PyText] : SettingsCall → JsonObject
  | .updateBackendSettings new => backendSection.changes new.fields
  | .updatePxgridSettings new => pxgridSection.changes new.fields
  | .updatePskPolicy new =>
      [("psk_type", normalisedPskType (new.get "psk_type")),
       ("psk_show_key_in_table", new.get "show_key_in_table"),
       ("psk_min_length", new.get "min_length"),
       ("psk_require_uppercase", new.get "require_uppercase"),
       ("psk_require_numbers", new.get "require_numbers"),
       ("psk_require_special", new.get "require_special")]
  | .updatePortalLocale new => [("default_language", new.get "default_language")]
  | .pxgridReset =>
      [("pxgrid_cert_path", .str ""), ("pxgrid_key_path", .str ""),
       ("pxgrid_ca_bundle_path", .str ""), ("pxgrid_password", .str "")]

/-- `load_overrides`, `update` and `save_overrides`: what the file holds then. Stored data that is
no dictionary has no `update`. -/
def savedConfig (faults : Faults) (changes : JsonObject) (config : Option Json) : Option Json :=
  match loadOverrides faults.load config with
  | .obj overrides => if faults.save then none else some (.obj (JsonObject.merge overrides changes))
  | _ => none

section Updates

variable [PyText] [PyJson] [Validation] (base : ConfigSettings)

/-- An update of a section that is read from `config.settings`: the reader for the audit record, the
update of the file, and `refresh_settings`. -/
def updateSection (reader : ConfigSettings → Option JsonObject) (changes : JsonObject)
    (faults : Faults) (portal : PortalConfig) : Option PortalConfig := do
  let _before ← reader portal.settings
  let config ← savedConfig faults changes portal.config
  let settings ← loadSettings base (loadOverrides faults.refresh (some config))
  return { config := some config, settings := settings }

/-- `update_backend_settings`, `update_pxgrid_settings`, `update_psk_policy`, `pxgrid_reset` and
`update_portal_locale` up to their answer; `none` where they raise before anything is written. The
language is no attribute of the settings object, so its update does not load that again. -/
def SettingsCall.perform (call : SettingsCall) (faults : Faults) (portal : PortalConfig) :
    Option PortalConfig :=
  match call with
  | .updateBackendSettings _ => updateSection base getBackendSettings call.changes faults portal
  | .updatePxgridSettings _ => updateSection base getPxgridSettings call.changes faults portal
  | .updatePskPolicy _ => updateSection base getPskPolicy call.changes faults portal
  | .pxgridReset => updateSection base getPxgridSettings call.changes faults portal
  | .updatePortalLocale _ => do
      let _before ← getPortalLocale faults.before portal.config
      let config ← savedConfig faults call.changes portal.config
      return { portal with config := some config }

end Updates

end IsePortal
