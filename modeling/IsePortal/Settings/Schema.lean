import IsePortal.Platform.Json

/-!
# The settings schemas

The request and response models of `app/schemas/settings.py` for the four sections that share
`config.json`: the backend, pxGrid, the PSK policy and the language of the portal. A model is the
list of its fields with their types and defaults, and building one is the same for all of them: a
field that is not given takes its default, and every value has to fit its type.
-/

namespace IsePortal

/-- The types of the fields. -/
inductive FieldType where
  | text
  | flag
  | int
  | float
  /-- `Literal[...]` -/
  | choice (values : List String)
  /-- `int` with `ge` and `le` -/
  | intBetween (least most : Int)
  deriving DecidableEq

/-- The value is one of the type. -/
def FieldType.admits : FieldType → Json → Bool
  | .text, .str _ => true
  | .flag, .bool _ => true
  | .int, .num value => value.den = 1
  | .float, .num _ => true
  | .float, .nonFinite _ => true
  | .choice values, .str word => word ∈ values
  | .intBetween least most, .num value => value.den = 1 && least ≤ value.num && value.num ≤ most
  | _, _ => false

/-- The validation of pydantic: a value that fits is taken as it is, and some others are turned
into one that fits, such as the text of a number; `none` where it raises `ValidationError`. -/
class Validation where
  convert : FieldType → Json → Option Json
  convert_of_admits {type : FieldType} {value : Json} :
    type.admits value = true → convert type value = some value
  admits_of_convert {type : FieldType} {value converted : Json} :
    convert type value = some converted → type.admits converted = true

/-- The validation that only takes what fits (for the examples). -/
@[reducible] def strictValidation : Validation where
  convert type value := if type.admits value then some value else none
  convert_of_admits h := if_pos h
  admits_of_convert := by
    intro type value converted h
    split at h
    · next hadmits =>
        cases h
        exact hadmits
    · cases h

/-- A field of a model; without a default it has to be given. -/
structure SchemaField where
  name : String
  type : FieldType
  default : Option Json := none

/-- Every default fits the type of its field. -/
def SchemaField.DefaultFits (field : SchemaField) : Bool :=
  match field.default with
  | none => true
  | some value => field.type.admits value

/-- A validated object of the model: each field with a value of its type. -/
def Fits (schema : List SchemaField) (fields : JsonObject) : Prop :=
  ∀ field ∈ schema, ∃ value, fields.lookup field.name = some value ∧
    field.type.admits value = true

section Building

variable [Validation]

/-- The value of one field. -/
def buildField (given : JsonObject) (field : SchemaField) : Option Json :=
  match given.lookup field.name with
  | some value => Validation.convert field.type value
  | none => field.default

/-- `Model(**given)` -/
def build (schema : List SchemaField) (given : JsonObject) : Option JsonObject :=
  schema.mapM fun field => (buildField given field).map fun value => (field.name, value)

/-- Of a model that could be built, every field has the value built for it. -/
theorem lookup_build {schema : List SchemaField} {given fields : JsonObject}
    (hnodup : (schema.map SchemaField.name).Nodup) (h : build schema given = some fields)
    {field : SchemaField} (hfield : field ∈ schema) :
    ∃ value, buildField given field = some value ∧ fields.lookup field.name = some value := by
  induction schema generalizing fields with
  | nil => cases hfield
  | cons first rest ih =>
      obtain ⟨hnew, hrest⟩ := List.nodup_cons.mp hnodup
      rw [build, List.mapM_cons] at h
      obtain ⟨entry, hentry, hrun⟩ := Option.bind_eq_some_iff.mp h
      obtain ⟨others, hothers, hfields⟩ := Option.bind_eq_some_iff.mp hrun
      obtain ⟨value, hvalue, rfl⟩ := Option.map_eq_some_iff.mp hentry
      cases hfields
      rcases List.mem_cons.mp hfield with heq | hmem
      · subst heq
        exact ⟨value, hvalue, by simp⟩
      · obtain ⟨found, hfound, hlookup⟩ := ih hrest hothers hmem
        have hne : (field.name == first.name) = false := by
          simp only [beq_eq_false_iff_ne, ne_eq]
          intro heq
          exact hnew (heq ▸ List.mem_map.mpr ⟨field, hmem, rfl⟩)
        exact ⟨found, hfound, by rw [List.lookup_cons, hne]; exact hlookup⟩

/-- A model can be built when each of its fields can. -/
theorem exists_build {schema : List SchemaField} {given : JsonObject}
    (h : ∀ field ∈ schema, ∃ value, buildField given field = some value) :
    ∃ fields, build schema given = some fields := by
  induction schema with
  | nil => exact ⟨[], rfl⟩
  | cons first rest ih =>
      obtain ⟨value, hvalue⟩ := h first List.mem_cons_self
      obtain ⟨others, hothers⟩ := ih fun field hfield => h field (List.mem_cons_of_mem first hfield)
      have hrest : (rest.mapM fun field =>
          (buildField given field).map fun value => (field.name, value)) = some others := hothers
      refine ⟨(first.name, value) :: others, ?_⟩
      rw [build, List.mapM_cons, hvalue, hrest]
      rfl

/-- What is built from a request body fits the model, when the defaults do. -/
theorem fits_build {schema : List SchemaField} {given fields : JsonObject}
    (hnodup : (schema.map SchemaField.name).Nodup)
    (hdefaults : schema.all SchemaField.DefaultFits = true) (h : build schema given = some fields) :
    Fits schema fields := by
  intro field hfield
  obtain ⟨value, hbuilt, hlookup⟩ := lookup_build hnodup h hfield
  refine ⟨value, hlookup, ?_⟩
  have hdefault := List.all_eq_true.mp hdefaults field hfield
  unfold buildField at hbuilt
  split at hbuilt
  · exact Validation.admits_of_convert hbuilt
  · rw [SchemaField.DefaultFits, hbuilt] at hdefault
    exact hdefault

end Building

/-! ## The models -/

/-- `BackendSettingsUpdate` -/
def backendSettingsUpdate : List SchemaField :=
  [⟨"ise_base_url", .text, none⟩,
   ⟨"ise_read_base_url", .text, some (.str "")⟩,
   ⟨"ise_username", .text, none⟩,
   ⟨"ise_password", .text, some (.str "")⟩,
   ⟨"ise_verify_tls", .flag, some (.bool false)⟩,
   ⟨"ise_timeout", .float, some (.num 30)⟩,
   ⟨"ise_api_type", .choice ["ers", "openapi"], some (.str "ers")⟩,
   ⟨"coa_psn_name", .text, some (.str "")⟩,
   ⟨"coa_reauth_type", .int, some (.num 1)⟩,
   ⟨"coa_disconnect_type", .int, some (.num 0)⟩,
   ⟨"cache_enabled", .flag, some (.bool true)⟩,
   ⟨"cache_ttl_seconds", .float, some (.num 60)⟩,
   ⟨"cache_stale_while_revalidate", .flag, some (.bool true)⟩,
   ⟨"cache_sync_interval_seconds", .float, some (.num 300)⟩,
   ⟨"cache_disk_path", .text, some (.str "cache/endpoints.json")⟩,
   ⟨"cache_prewarm_concurrency", .int, some (.num 5)⟩,
   ⟨"cache_prewarm_interval_s", .float, some (.num 1800)⟩,
   ⟨"cache_prewarm_skip_fresh_s", .float, some (.num 900)⟩,
   ⟨"cache_max_entries", .int, some (.num 5000)⟩,
   ⟨"cache_max_memory_mb", .int, some (.num 300)⟩,
   ⟨"adaptive_pacing_enabled", .flag, some (.bool true)⟩,
   ⟨"adaptive_pacing_range_pct", .float, some (.num 50)⟩,
   ⟨"adaptive_ttl_enabled", .flag, some (.bool true)⟩,
   ⟨"adaptive_ttl_max_seconds", .float, some (.num 3600)⟩,
   ⟨"adaptive_scan_max_seconds", .float, some (.num 14400)⟩,
   ⟨"ise_group_cache_ttl_s", .float, some (.num 7200)⟩,
   ⟨"debug_pxgrid_sessions", .flag, some (.bool false)⟩,
   ⟨"github_branch", .text, some (.str "main")⟩,
   ⟨"decomm_set_authz", .flag, some (.bool true)⟩,
   ⟨"decomm_authz_vlan", .text, some (.str "999")⟩,
   ⟨"decomm_authz_acl", .text, some (.str "deny_all_ipv4_traffic")⟩,
   ⟨"selfregister_enabled", .flag, some (.bool false)⟩,
   ⟨"selfregister_group_id", .text, some (.str "")⟩,
   ⟨"selfregister_intro_text", .text,
     some (.str "Registrér din enhed for at få adgang til netværket.")⟩,
   ⟨"selfregister_success_text", .text, some (.str "Din enhed er nu registreret på netværket.")⟩,
   ⟨"selfregister_redirect_url", .text, some (.str "")⟩,
   ⟨"selfregister_terms", .text,
     some (.str ("Jeg accepterer at min enheds MAC-adresse registreres og at netværksadgang " ++
       "logges."))⟩,
   ⟨"selfregister_authz_vlan", .text, some (.str "")⟩,
   ⟨"selfregister_authz_acl", .text, some (.str "")⟩,
   ⟨"selfregister_ipsk_enabled", .flag, some (.bool false)⟩,
   ⟨"selfregister_expiry_enabled", .flag, some (.bool false)⟩,
   ⟨"selfregister_expiry_mode", .text, some (.str "period")⟩,
   ⟨"selfregister_expiry_days", .int, some (.num 30)⟩,
   ⟨"selfregister_expiry_date", .text, some (.str "")⟩,
   ⟨"selfregister_expiry_time", .text, some (.str "23:59")⟩,
   ⟨"selfregister_expiry_coa_enabled", .flag, some (.bool false)⟩,
   ⟨"selfregister_expiry_coa_type", .text, some (.str "reauth")⟩,
   ⟨"guest_expiry_check_interval_seconds", .float, some (.num 60)⟩]

/-- `BackendSettingsResponse` -/
def backendSettingsResponse : List SchemaField :=
  [⟨"ise_base_url", .text, none⟩,
   ⟨"ise_read_base_url", .text, some (.str "")⟩,
   ⟨"ise_username", .text, none⟩,
   ⟨"ise_password_set", .flag, none⟩,
   ⟨"ise_verify_tls", .flag, none⟩,
   ⟨"ise_timeout", .float, none⟩,
   ⟨"ise_api_type", .choice ["ers", "openapi"], none⟩,
   ⟨"coa_psn_name", .text, some (.str "")⟩,
   ⟨"coa_reauth_type", .int, some (.num 1)⟩,
   ⟨"coa_disconnect_type", .int, some (.num 0)⟩,
   ⟨"cache_enabled", .flag, some (.bool true)⟩,
   ⟨"cache_ttl_seconds", .float, some (.num 60)⟩,
   ⟨"cache_stale_while_revalidate", .flag, some (.bool true)⟩,
   ⟨"cache_sync_interval_seconds", .float, some (.num 300)⟩,
   ⟨"cache_disk_path", .text, some (.str "cache/endpoints.json")⟩,
   ⟨"cache_prewarm_concurrency", .int, some (.num 5)⟩,
   ⟨"cache_prewarm_interval_s", .float, some (.num 1800)⟩,
   ⟨"cache_prewarm_skip_fresh_s", .float, some (.num 900)⟩,
   ⟨"cache_max_entries", .int, some (.num 5000)⟩,
   ⟨"cache_max_memory_mb", .int, some (.num 300)⟩,
   ⟨"adaptive_pacing_enabled", .flag, some (.bool true)⟩,
   ⟨"adaptive_pacing_range_pct", .float, some (.num 50)⟩,
   ⟨"adaptive_ttl_enabled", .flag, some (.bool true)⟩,
   ⟨"adaptive_ttl_max_seconds", .float, some (.num 3600)⟩,
   ⟨"adaptive_scan_max_seconds", .float, some (.num 14400)⟩,
   ⟨"ise_group_cache_ttl_s", .float, some (.num 7200)⟩,
   ⟨"debug_pxgrid_sessions", .flag, some (.bool false)⟩,
   ⟨"github_branch", .text, some (.str "main")⟩,
   ⟨"decomm_set_authz", .flag, some (.bool true)⟩,
   ⟨"decomm_authz_vlan", .text, some (.str "999")⟩,
   ⟨"decomm_authz_acl", .text, some (.str "deny_all_ipv4_traffic")⟩,
   ⟨"selfregister_enabled", .flag, some (.bool false)⟩,
   ⟨"selfregister_group_id", .text, some (.str "")⟩,
   ⟨"selfregister_intro_text", .text,
     some (.str "Registrér din enhed for at få adgang til netværket.")⟩,
   ⟨"selfregister_success_text", .text, some (.str "Din enhed er nu registreret på netværket.")⟩,
   ⟨"selfregister_redirect_url", .text, some (.str "")⟩,
   ⟨"selfregister_terms", .text,
     some (.str ("Jeg accepterer at min enheds MAC-adresse registreres og at netværksadgang " ++
       "logges."))⟩,
   ⟨"selfregister_authz_vlan", .text, some (.str "")⟩,
   ⟨"selfregister_authz_acl", .text, some (.str "")⟩,
   ⟨"selfregister_ipsk_enabled", .flag, some (.bool false)⟩,
   ⟨"selfregister_expiry_enabled", .flag, some (.bool false)⟩,
   ⟨"selfregister_expiry_mode", .text, some (.str "period")⟩,
   ⟨"selfregister_expiry_days", .int, some (.num 30)⟩,
   ⟨"selfregister_expiry_date", .text, some (.str "")⟩,
   ⟨"selfregister_expiry_time", .text, some (.str "23:59")⟩,
   ⟨"selfregister_expiry_coa_enabled", .flag, some (.bool false)⟩,
   ⟨"selfregister_expiry_coa_type", .text, some (.str "reauth")⟩,
   ⟨"guest_expiry_check_interval_seconds", .float, some (.num 60)⟩]

/-- `PxGridSettingsUpdate` -/
def pxGridSettingsUpdate : List SchemaField :=
  [⟨"pxgrid_enabled", .flag, some (.bool false)⟩,
   ⟨"pxgrid_node_name", .text, some (.str "hypervision-portal")⟩,
   ⟨"pxgrid_psn_fqdn", .text, some (.str "")⟩,
   ⟨"pxgrid_cert_mode", .choice ["upload", "csr"], some (.str "upload")⟩,
   ⟨"pxgrid_cert_path", .text, some (.str "")⟩,
   ⟨"pxgrid_key_path", .text, some (.str "")⟩,
   ⟨"pxgrid_ca_bundle_path", .text, some (.str "")⟩,
   ⟨"pxgrid_password", .text, some (.str "")⟩,
   ⟨"pxgrid_cert_extra_sans", .text, some (.str "")⟩,
   ⟨"pxgrid_session_topic", .text, some (.str "/topic/com.cisco.ise.session")⟩,
   ⟨"pxgrid_stomp_heartbeat_ms", .int, some (.num 30000)⟩,
   ⟨"pxgrid_stomp_reconnect_min_s", .float, some (.num 1)⟩,
   ⟨"pxgrid_stomp_reconnect_max_s", .float, some (.num 300)⟩,
   ⟨"pxgrid_stomp_recv_timeout_s", .float, some (.num 7200)⟩,
   ⟨"pxgrid_session_cache_max_age_s", .float, some (.num 0)⟩,
   ⟨"pxgrid_worker_enabled", .flag, some (.bool true)⟩,
   ⟨"pxgrid_endpoint_topic_enabled", .flag, some (.bool false)⟩,
   ⟨"pxgrid_endpoint_topic", .text, some (.str "/topic/com.cisco.ise.endpoint")⟩,
   ⟨"pxgrid_endpoint_service", .text, some (.str "com.cisco.ise.endpoint")⟩]

/-- `PxGridSettingsResponse`, but for `cert_status`: that is no setting, it says which of the files
behind the paths exist. -/
def pxGridSettingsResponse : List SchemaField :=
  [⟨"pxgrid_enabled", .flag, none⟩,
   ⟨"pxgrid_node_name", .text, none⟩,
   ⟨"pxgrid_psn_fqdn", .text, none⟩,
   ⟨"pxgrid_cert_mode", .choice ["upload", "csr"], none⟩,
   ⟨"pxgrid_cert_path", .text, none⟩,
   ⟨"pxgrid_key_path", .text, none⟩,
   ⟨"pxgrid_ca_bundle_path", .text, none⟩,
   ⟨"pxgrid_password_set", .flag, none⟩,
   ⟨"pxgrid_cert_extra_sans", .text, some (.str "")⟩,
   ⟨"pxgrid_session_topic", .text, some (.str "/topic/com.cisco.ise.session")⟩,
   ⟨"pxgrid_stomp_heartbeat_ms", .int, some (.num 30000)⟩,
   ⟨"pxgrid_stomp_reconnect_min_s", .float, some (.num 1)⟩,
   ⟨"pxgrid_stomp_reconnect_max_s", .float, some (.num 300)⟩,
   ⟨"pxgrid_stomp_recv_timeout_s", .float, some (.num 7200)⟩,
   ⟨"pxgrid_session_cache_max_age_s", .float, some (.num 0)⟩,
   ⟨"pxgrid_worker_enabled", .flag, some (.bool true)⟩,
   ⟨"pxgrid_endpoint_topic_enabled", .flag, some (.bool false)⟩,
   ⟨"pxgrid_endpoint_topic", .text, some (.str "/topic/com.cisco.ise.endpoint")⟩,
   ⟨"pxgrid_endpoint_service", .text, some (.str "com.cisco.ise.endpoint")⟩]

/-- `PskPolicy` -/
def pskPolicy : List SchemaField :=
  [⟨"psk_type", .text, some (.str "MPSK")⟩,
   ⟨"show_key_in_table", .flag, some (.bool false)⟩,
   ⟨"min_length", .intBetween 8 128, some (.num 8)⟩,
   ⟨"require_uppercase", .flag, some (.bool false)⟩,
   ⟨"require_numbers", .flag, some (.bool false)⟩,
   ⟨"require_special", .flag, some (.bool false)⟩]

/-- `PortalLocaleUpdate` -/
def portalLocaleUpdate : List SchemaField :=
  [⟨"default_language", .choice ["da", "en"], some (.str "en")⟩]

/-- `PortalLocaleResponse` -/
def portalLocaleResponse : List SchemaField := [⟨"default_language", .choice ["da", "en"], none⟩]

/-- The request models. -/
def updateSchemas : List (List SchemaField) :=
  [backendSettingsUpdate, pxGridSettingsUpdate, pskPolicy, portalLocaleUpdate]

/-- No request model has two fields of one name, and every default fits its field. -/
theorem updateSchemas_wellFormed :
    ∀ schema ∈ updateSchemas,
      (schema.map SchemaField.name).Nodup ∧ schema.all SchemaField.DefaultFits = true := by
  decide +kernel

end IsePortal
