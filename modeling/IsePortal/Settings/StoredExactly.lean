import IsePortal.Settings.Sections
import IsePortal.Library.Runs

/-!
# Settings are stored exactly

The four sections of `config.json` under any sequence of updates, where every read of the file may
fault and every write may fail. A call stores what it was sent, keeps an empty secret, and leaves
the other sections alone, but for two defects: the request model of the backend has a field that
neither of the two lists of the service has, and a read fault at the start of an update makes it
write the section over everything else the file holds.
-/

namespace IsePortal

open Library

/-! ## Sections -/

inductive SettingsSection where
  | backend
  | pxgrid
  | psk
  | locale
  deriving DecidableEq

/-- The keys of `config.json` that belong to the section. -/
def SettingsSection.keys : SettingsSection → List String
  | .backend => "ise_password" :: backendSection.overrides
  | .pxgrid => "pxgrid_password" :: pxgridSection.overrides
  | .psk =>
      ["psk_type", "psk_show_key_in_table", "psk_min_length", "psk_require_uppercase",
       "psk_require_numbers", "psk_require_special"]
  | .locale => ["default_language"]

/-- The keys with a secret. -/
def secretKeys : List String := ["ise_password", "pxgrid_password"]

/-- No key belongs to two sections. -/
theorem SettingsSection.keys_disjoint {part other : SettingsSection} (hne : part ≠ other)
    {key : String} (hkey : key ∈ part.keys) : key ∉ other.keys := by
  revert key
  cases part <;> cases other <;> first | exact absurd rfl hne | decide

namespace SettingsCall

/-- The section a call belongs to. -/
def target : SettingsCall → SettingsSection
  | .updateBackendSettings _ => .backend
  | .updatePxgridSettings _ => .pxgrid
  | .updatePskPolicy _ => .psk
  | .updatePortalLocale _ => .locale
  | .pxgridReset => .pxgrid

/-- The secret a call replaces under the key; a reset clears its own. -/
def newSecret : SettingsCall → String → Option Json
  | .updateBackendSettings new, key =>
      if key = "ise_password" ∧ (new.get "ise_password").truthy then some (new.get key) else none
  | .updatePxgridSettings new, key =>
      if key = "pxgrid_password" ∧ (new.get "pxgrid_password").truthy then some (new.get key)
      else none
  | .pxgridReset, key => if key = "pxgrid_password" then some (.str "") else none
  | _, _ => none

/-- The fields of a request but its secret, as the reader of the section has to show them. -/
def sent [PyText] : SettingsCall → List (String × Json)
  | .updateBackendSettings new =>
      (backendSettingsUpdate.filter fun field => field.name ≠ "ise_password").map fun field =>
        (field.name, new.get field.name)
  | .updatePxgridSettings new =>
      (pxGridSettingsUpdate.filter fun field => field.name ≠ "pxgrid_password").map fun field =>
        (field.name, new.get field.name)
  | .updatePskPolicy new =>
      pskPolicy.map fun field =>
        (field.name, if field.name = "psk_type" then normalisedPskType (new.get "psk_type")
          else new.get field.name)
  | .updatePortalLocale new => [("default_language", new.get "default_language")]
  | .pxgridReset =>
      [("pxgrid_cert_path", .str ""), ("pxgrid_key_path", .str ""),
       ("pxgrid_ca_bundle_path", .str "")]

end SettingsCall

/-! ## What a call writes -/

theorem mem_keys_of_copied {copied : CopiedSection} {new : JsonObject} {key : String}
    (h : (copied.changes new).lookup key ≠ none) : key ∈ copied.secret :: copied.overrides := by
  rw [CopiedSection.lookup_changes] at h
  by_cases hkey : key ∈ copied.overrides
  · exact List.mem_cons_of_mem _ hkey
  · rw [if_neg hkey] at h
    by_cases hsecret : key = copied.secret
    · exact hsecret ▸ List.mem_cons_self
    · exact absurd (if_neg fun hgiven => hsecret hgiven.1) h

theorem mem_of_lookup_ne_none {fields : JsonObject} {key : String}
    (h : fields.lookup key ≠ none) : key ∈ fields.map Prod.fst := by
  obtain ⟨value, hvalue⟩ := Option.ne_none_iff_exists'.mp h
  exact List.mem_map.mpr ⟨_, Dict.mem_of_lookup_eq_some hvalue, rfl⟩

namespace SettingsCall

variable [PyText]

theorem nodup_changes (call : SettingsCall) : (call.changes.map Prod.fst).Nodup := by
  cases call with
  | updateBackendSettings new => exact CopiedSection.nodup_changes backend_wellListed new.fields
  | updatePxgridSettings new => exact CopiedSection.nodup_changes pxgrid_wellListed new.fields
  | updatePskPolicy new =>
      show ["psk_type", "psk_show_key_in_table", "psk_min_length", "psk_require_uppercase",
        "psk_require_numbers", "psk_require_special"].Nodup
      decide
  | updatePortalLocale new => exact List.nodup_singleton _
  | pxgridReset =>
      show ["pxgrid_cert_path", "pxgrid_key_path", "pxgrid_ca_bundle_path",
        "pxgrid_password"].Nodup
      decide

/-- Of the secrets, a call writes the ones it replaces. -/
theorem lookup_changes_secret (call : SettingsCall) {secret : String}
    (hsecret : secret ∈ secretKeys) : call.changes.lookup secret = call.newSecret secret := by
  cases call with
  | updateBackendSettings new =>
      rw [changes, CopiedSection.lookup_changes]
      rcases List.mem_cons.mp hsecret with rfl | hsecret
      · rw [if_neg (by decide)]
        rfl
      · rw [List.mem_singleton.mp hsecret, if_neg (by decide),
          if_neg fun h => absurd h.1 (by decide)]
        rfl
  | updatePxgridSettings new =>
      rw [changes, CopiedSection.lookup_changes]
      rcases List.mem_cons.mp hsecret with rfl | hsecret
      · rw [if_neg (by decide), if_neg fun h => absurd h.1 (by decide)]
        rfl
      · rw [List.mem_singleton.mp hsecret, if_neg (by decide)]
        rfl
  | updatePskPolicy new =>
      rcases List.mem_cons.mp hsecret with rfl | hsecret
      · rfl
      · rw [List.mem_singleton.mp hsecret]
        rfl
  | updatePortalLocale new =>
      rcases List.mem_cons.mp hsecret with rfl | hsecret
      · rfl
      · rw [List.mem_singleton.mp hsecret]
        rfl
  | pxgridReset =>
      rcases List.mem_cons.mp hsecret with rfl | hsecret
      · rfl
      · rw [List.mem_singleton.mp hsecret]
        rfl

/-- A call writes keys of its own section. -/
theorem mem_keys_of_lookup_changes (call : SettingsCall) {key : String}
    (h : call.changes.lookup key ≠ none) : key ∈ call.target.keys := by
  cases call with
  | updateBackendSettings new => exact mem_keys_of_copied h
  | updatePxgridSettings new => exact mem_keys_of_copied h
  | updatePskPolicy new => exact mem_of_lookup_ne_none h
  | updatePortalLocale new => exact mem_of_lookup_ne_none h
  | pxgridReset =>
      have hcleared : ∀ key ∈ ["pxgrid_cert_path", "pxgrid_key_path", "pxgrid_ca_bundle_path",
          "pxgrid_password"], key ∈ SettingsSection.pxgrid.keys := by decide
      exact hcleared key (mem_of_lookup_ne_none h)

end SettingsCall

section Reading

variable [PyText] [PyJson] [Validation]

/-- The reader of the section. -/
def SettingsSection.read (portal : PortalConfig) : SettingsSection → Option JsonObject
  | .backend => getBackendSettings portal.settings
  | .pxgrid => getPxgridSettings portal.settings
  | .psk => getPskPolicy portal.settings
  | .locale => getPortalLocale false portal.config

/-- The call did what it was sent to do, and nothing else. -/
structure StoredExactly (call : SettingsCall) (portal next : PortalConfig) : Prop where
  shows : ∃ fields, call.target.read next = some fields ∧
    ∀ entry ∈ call.sent, fields.lookup entry.1 = some entry.2
  secrets : ∀ secret ∈ secretKeys,
    next.settings secret = (call.newSecret secret).getD (portal.settings secret) ∧
      storedValue next.config secret =
        (call.newSecret secret).or (storedValue portal.config secret)
  others : ∀ other ≠ call.target, other.read next = other.read portal
  stored : ∀ key ∉ call.target.keys, storedValue next.config key = storedValue portal.config key

/-- Two settings objects show the same. -/
structure SameShown (s other : ConfigSettings) : Prop where
  backend : getBackendSettings s = getBackendSettings other
  pxgrid : getPxgridSettings s = getPxgridSettings other
  psk : getPskPolicy s = getPskPolicy other
  secrets : ∀ secret ∈ secretKeys, s secret = other secret

/-- A read fault loses nothing: all that the file holds are keys the call writes. -/
def NothingToLose (call : SettingsCall) : Option Json → Prop
  | none => True
  | some (.obj fields) => ∀ key, fields.lookup key ≠ none → call.changes.lookup key ≠ none
  | some _ => False

variable (base : ConfigSettings)

/-- The condition on a call: it changes no field the lists leave out; a fault of the read for the
update loses nothing; and where the read after it faults, the settings of the environment show what
is stored. -/
structure Storable (portal : PortalConfig) (request : SettingsCall × Faults) : Prop where
  left : ∀ new, request.1 = .updateBackendSettings new →
    new.get "decomm_set_authz" = .bool true
  load : request.2.load = true → NothingToLose request.1 portal.config
  refresh : request.2.refresh = true → request.1.target ≠ .locale → ∀ config loaded,
    savedConfig request.2 request.1.changes portal.config = some config →
      loadSettings base config = some loaded → SameShown base loaded

/-- A call as a step: one that raises before it writes changes nothing. -/
def settingsStep (portal : PortalConfig) (request : SettingsCall × Faults) : Option PortalConfig :=
  some ((request.1.perform base request.2 portal).getD portal)

/-- The settings object shows what the file holds. -/
def InSync (portal : PortalConfig) : Prop :=
  ∃ loaded, loadSettings base (loadOverrides false portal.config) = some loaded ∧
    SameShown portal.settings loaded

end Reading

/-! ## What the portal shows of a file -/

/-- The settings a file gives. -/
def effective (base : ConfigSettings) (config : Option Json) : ConfigSettings := fun key =>
  (storedValue config key).getD (base key)

theorem loadSettings_dict (base : ConfigSettings) {config : Option Json} (h : HoldsDict config) :
    loadSettings base (loadOverrides false config) = some (effective base config) := by
  match config, h with
  | none, _ => rfl
  | some (.obj fields), _ => rfl

/-- What is saved is a dictionary: the values of the changes, and for the other keys what the read
found. -/
theorem savedConfig_eq {faults : Faults} {changes : JsonObject} {config : Option Json}
    {saved : Json} (hnodup : (changes.map Prod.fst).Nodup)
    (h : savedConfig faults changes config = some saved) :
    HoldsDict (some saved) ∧ (faults.load = false → HoldsDict config) ∧
      ∀ key, storedValue (some saved) key =
        (changes.lookup key).or (if faults.load then none else storedValue config key) := by
  have hread : ∀ {overrides : JsonObject}, loadOverrides faults.load config = .obj overrides →
      (faults.load = false → HoldsDict config) ∧
        ∀ key, overrides.lookup key = if faults.load then none else storedValue config key := by
    intro overrides hload
    unfold loadOverrides at hload
    cases config with
    | none =>
        cases hload
        exact ⟨fun _ => trivial, fun key => by simp [storedValue]⟩
    | some data =>
        cases hfault : faults.load with
        | true =>
            rw [hfault] at hload
            cases hload
            exact ⟨fun hfalse => Bool.noConfusion hfalse, fun _ => rfl⟩
        | false =>
            rw [hfault] at hload
            have hdata : data = .obj overrides := hload
            rw [hdata]
            exact ⟨fun _ => trivial, fun _ => rfl⟩
  unfold savedConfig at h
  split at h
  · next overrides hload =>
      split at h
      · cases h
      · cases h
        obtain ⟨hdict, hlookup⟩ := hread hload
        refine ⟨trivial, hdict, fun key => ?_⟩
        rw [← hlookup key]
        exact JsonObject.lookup_merge_of_nodup hnodup overrides key
  · cases h

section Keeping

variable [PyText] [PyJson] [Validation] {base : ConfigSettings}

omit [PyJson] [Validation] in
/-- A call that loses nothing leaves every key it does not write as it is. -/
theorem storedValue_kept {call : SettingsCall} {faults : Faults} {config : Option Json}
    {saved : Json} (hload : faults.load = true → NothingToLose call config)
    (h : savedConfig faults call.changes config = some saved) :
    HoldsDict config ∧ ∀ key, call.changes.lookup key = none →
      storedValue (some saved) key = storedValue config key := by
  obtain ⟨-, hdict, hvalue⟩ := savedConfig_eq call.nodup_changes h
  cases hfault : faults.load with
  | false =>
      refine ⟨hdict hfault, fun key hnone => ?_⟩
      rw [hvalue, hnone, hfault]
      rfl
  | true =>
      have hlost := hload hfault
      match config, hlost with
      | none, _ =>
          refine ⟨trivial, fun key hnone => ?_⟩
          rw [hvalue, hnone, hfault]
          rfl
      | some (.obj fields), hlost =>
          refine ⟨trivial, fun key hnone => ?_⟩
          rw [hvalue, hnone, hfault]
          show none = fields.lookup key
          by_contra hstored
          exact hlost key (fun hno => hstored hno.symm) hnone

omit [PyText] [PyJson] [Validation] in
theorem effective_congr {config other : Option Json} {key : String}
    (h : storedValue config key = storedValue other key) :
    effective base config key = effective base other key := by
  rw [effective, effective, h]

/-- The reader of a section depends on the keys of the section. -/
theorem read_congr {part : SettingsSection} {portal next : PortalConfig}
    (hportal : HoldsDict portal.config) (hnext : HoldsDict next.config)
    (hstored : ∀ key ∈ part.keys, storedValue portal.config key = storedValue next.config key)
    (hsettings : ∀ key ∈ part.keys, portal.settings key = next.settings key) :
    part.read portal = part.read next := by
  cases part with
  | backend =>
      exact congrArg (build backendSettingsResponse) (CopiedSection.arguments_congr hsettings)
  | pxgrid =>
      exact congrArg (build pxGridSettingsResponse) (CopiedSection.arguments_congr hsettings)
  | psk => exact getPskPolicy_congr hsettings
  | locale => exact getPortalLocale_congr hportal hnext (hstored _ List.mem_cons_self)

/-- The settings objects that show the same are read alike. -/
theorem SameShown.read_eq {config : Option Json} {s other : ConfigSettings} (h : SameShown s other)
    (part : SettingsSection) : part.read ⟨config, s⟩ = part.read ⟨config, other⟩ := by
  cases part with
  | backend => exact h.backend
  | pxgrid => exact h.pxgrid
  | psk => exact h.psk
  | locale => rfl

theorem SameShown.refl (s : ConfigSettings) : SameShown s s := ⟨rfl, rfl, rfl, fun _ _ => rfl⟩

theorem SameShown.trans {s other third : ConfigSettings} (h : SameShown s other)
    (hother : SameShown other third) : SameShown s third :=
  ⟨h.backend.trans hother.backend, h.pxgrid.trans hother.pxgrid, h.psk.trans hother.psk,
    fun secret hsecret => (h.secrets secret hsecret).trans (hother.secrets secret hsecret)⟩

/-- What a call that goes through leaves: the file it saved, and the settings loaded from it, from
the environment alone where that read faults; a change of the language keeps the settings. -/
theorem perform_cases {call : SettingsCall} {faults : Faults} {portal next : PortalConfig}
    (h : call.perform base faults portal = some next) :
    ∃ saved, savedConfig faults call.changes portal.config = some saved ∧
      next.config = some saved ∧
        (call.target = .locale ∧ next.settings = portal.settings ∨
          call.target ≠ .locale ∧ (∃ fields, call.target.read portal = some fields) ∧
            next.settings =
              if faults.refresh then base else effective base (some saved)) := by
  have hsection : ∀ {reader : ConfigSettings → Option JsonObject},
      updateSection base reader call.changes faults portal = some next →
        ∃ saved, savedConfig faults call.changes portal.config = some saved ∧
          next.config = some saved ∧ (∃ fields, reader portal.settings = some fields) ∧
            next.settings = if faults.refresh then base else effective base (some saved) := by
    intro reader hupdate
    obtain ⟨fields, hbefore, hrun⟩ := Option.bind_eq_some_iff.mp hupdate
    obtain ⟨saved, hsaved, hrun⟩ := Option.bind_eq_some_iff.mp hrun
    obtain ⟨settings, hsettings, hrun⟩ := Option.bind_eq_some_iff.mp hrun
    cases hrun
    refine ⟨saved, hsaved, rfl, ⟨fields, hbefore⟩, ?_⟩
    cases hfault : faults.refresh with
    | true =>
        rw [hfault] at hsettings
        exact (Option.some.inj hsettings).symm
    | false =>
        rw [hfault, loadSettings_dict base (savedConfig_eq call.nodup_changes hsaved).1,
          Option.some.injEq] at hsettings
        exact hsettings.symm
  cases call with
  | updateBackendSettings new =>
      obtain ⟨saved, hsaved, hconfig, hbefore, hsettings⟩ := hsection h
      exact ⟨saved, hsaved, hconfig, Or.inr ⟨nofun, hbefore, hsettings⟩⟩
  | updatePxgridSettings new =>
      obtain ⟨saved, hsaved, hconfig, hbefore, hsettings⟩ := hsection h
      exact ⟨saved, hsaved, hconfig, Or.inr ⟨nofun, hbefore, hsettings⟩⟩
  | updatePskPolicy new =>
      obtain ⟨saved, hsaved, hconfig, hbefore, hsettings⟩ := hsection h
      exact ⟨saved, hsaved, hconfig, Or.inr ⟨nofun, hbefore, hsettings⟩⟩
  | pxgridReset =>
      obtain ⟨saved, hsaved, hconfig, hbefore, hsettings⟩ := hsection h
      exact ⟨saved, hsaved, hconfig, Or.inr ⟨nofun, hbefore, hsettings⟩⟩
  | updatePortalLocale new =>
      obtain ⟨fields, -, hrun⟩ := Option.bind_eq_some_iff.mp h
      obtain ⟨saved, hsaved, hrun⟩ := Option.bind_eq_some_iff.mp hrun
      cases hrun
      exact ⟨saved, hsaved, rfl, Or.inl ⟨rfl, rfl⟩⟩

variable [LawfulUpper]

/-- Of a file in which the call saved its changes and kept the rest, the reader of its section shows
what was sent. -/
theorem shows_saved {call : SettingsCall} {config : Option Json} {saved : Json}
    (hleft : ∀ new, call = .updateBackendSettings new → new.get "decomm_set_authz" = .bool true)
    (hdict : HoldsDict (some saved))
    (hwritten : ∀ entry ∈ call.changes, storedValue (some saved) entry.1 = some entry.2)
    (hkept : ∀ key, call.changes.lookup key = none →
      storedValue (some saved) key = storedValue config key)
    (hbefore : call.target ≠ .locale → ∃ fields,
      call.target.read ⟨config, effective base config⟩ = some fields) :
    ∃ fields, call.target.read ⟨some saved, effective base (some saved)⟩ = some fields ∧
      ∀ entry ∈ call.sent, fields.lookup entry.1 = some entry.2 := by
  have hshown : ∀ entry ∈ call.changes, effective base (some saved) entry.1 = entry.2 := by
    intro entry hentry
    rw [effective, hwritten entry hentry]
    rfl
  cases call with
  | updateBackendSettings new =>
      obtain ⟨fields, hbuild, hshows⟩ := CopiedSection.build_response backend_wellListed new.fits
        fun key hkey => hshown (key, JsonObject.getD new.fields key .null)
          (List.mem_append_left _ (List.mem_map.mpr ⟨key, hkey, rfl⟩))
      refine ⟨fields, hbuild, fun entry hentry => ?_⟩
      obtain ⟨field, hfield, rfl⟩ := List.mem_map.mp hentry
      obtain ⟨hmem, hsecret⟩ := List.mem_filter.mp hfield
      refine hshows field hmem (of_decide_eq_true hsecret) fun hdecomm => ?_
      rw [List.mem_singleton.mp hdecomm]
      exact hleft new rfl
  | updatePxgridSettings new =>
      obtain ⟨fields, hbuild, hshows⟩ := CopiedSection.build_response pxgrid_wellListed new.fits
        fun key hkey => hshown (key, JsonObject.getD new.fields key .null)
          (List.mem_append_left _ (List.mem_map.mpr ⟨key, hkey, rfl⟩))
      refine ⟨fields, hbuild, fun entry hentry => ?_⟩
      obtain ⟨field, hfield, rfl⟩ := List.mem_map.mp hentry
      obtain ⟨hmem, hsecret⟩ := List.mem_filter.mp hfield
      exact hshows field hmem (of_decide_eq_true hsecret) fun hnone => nomatch hnone
  | updatePskPolicy new =>
      obtain ⟨fields, hread, htype, hshows⟩ := getPskPolicy_shows new hshown
      refine ⟨fields, hread, fun entry hentry => ?_⟩
      obtain ⟨field, hfield, rfl⟩ := List.mem_map.mp hentry
      by_cases hname : field.name = "psk_type"
      · simp only [hname, ↓reduceIte]
        exact htype
      · simp only [hname, ↓reduceIte]
        exact hshows field hfield hname
  | updatePortalLocale new =>
      obtain ⟨fields, hread, hshows⟩ :=
        getPortalLocale_shows new hdict (hwritten _ List.mem_cons_self)
      refine ⟨fields, hread, fun entry hentry => ?_⟩
      rw [List.mem_singleton.mp hentry]
      exact hshows
  | pxgridReset =>
      obtain ⟨before, hbefore⟩ := hbefore nofun
      have hpaths : ∀ key ∈ clearedPaths,
          (key, Json.str "") ∈ SettingsCall.pxgridReset.changes := by
        simp [clearedPaths, SettingsCall.changes]
      have hrest : ∀ key ∈ pxgridSection.attributes, key ∉ clearedPaths →
          key ∉ ["pxgrid_cert_path", "pxgrid_key_path", "pxgrid_ca_bundle_path",
            "pxgrid_password"] := by decide
      obtain ⟨fields, hread, hshows⟩ := getPxgridSettings_cleared hbefore
        (fun key hkey => hshown _ (hpaths key hkey))
        fun key hattr hother => effective_congr <| hkept key <| by
          by_contra hchanged
          exact hrest key hattr hother (mem_of_lookup_ne_none hchanged)
      refine ⟨fields, hread, fun entry hentry => ?_⟩
      obtain ⟨key, hkey, rfl⟩ : ∃ key ∈ clearedPaths, (key, Json.str "") = entry := by
        simpa [clearedPaths, SettingsCall.sent, eq_comm] using hentry
      exact hshows key hkey

/-- One call that meets the condition. -/
theorem perform_stored {call : SettingsCall} {faults : Faults} {portal next : PortalConfig}
    (hsync : InSync base portal) (hgood : Storable base portal (call, faults))
    (h : call.perform base faults portal = some next) :
    InSync base next ∧ StoredExactly call portal next := by
  obtain ⟨saved, hsaved, hconfig, hsettings⟩ := perform_cases h
  obtain ⟨hdict, hkept⟩ := storedValue_kept hgood.load hsaved
  obtain ⟨hnewdict, -, hvalue⟩ := savedConfig_eq call.nodup_changes hsaved
  obtain ⟨loaded, hloaded, hold⟩ := hsync
  rw [loadSettings_dict base hdict, Option.some.injEq] at hloaded
  subst hloaded
  have hforeign : ∀ key ∉ call.target.keys,
      storedValue (some saved) key = storedValue portal.config key := by
    intro key hkey
    refine hkept key ?_
    by_contra hwritten
    exact hkey (call.mem_keys_of_lookup_changes hwritten)
  have hothers : ∀ other ≠ call.target,
      other.read ⟨some saved, effective base (some saved)⟩ =
        other.read ⟨portal.config, effective base portal.config⟩ := by
    intro other hother
    have hkeys : ∀ key ∈ other.keys, storedValue (some saved) key = storedValue portal.config key :=
      fun key hkey => hforeign key (SettingsSection.keys_disjoint hother hkey)
    exact read_congr hnewdict hdict hkeys fun key hkey => effective_congr (hkeys key hkey)
  have hsecrets : ∀ secret ∈ secretKeys, storedValue (some saved) secret =
      (call.newSecret secret).or (storedValue portal.config secret) := by
    intro secret hsecret
    rw [← call.lookup_changes_secret hsecret]
    cases hlookup : call.changes.lookup secret with
    | none => exact hkept secret hlookup
    | some value => rw [hvalue, hlookup]; rfl
  have hnew : SameShown next.settings (effective base (some saved)) := by
    obtain ⟨hlocale, hsame⟩ | ⟨hne, -, hloaded⟩ := hsettings
    · rw [hsame]
      refine hold.trans ⟨?_, ?_, ?_, ?_⟩
      · exact (hothers .backend (by rw [hlocale]; nofun)).symm
      · exact (hothers .pxgrid (by rw [hlocale]; nofun)).symm
      · exact (hothers .psk (by rw [hlocale]; nofun)).symm
      · intro secret hsecret
        have hne : secret ∉ call.target.keys := by
          rw [hlocale]
          revert secret
          decide
        exact effective_congr (hforeign secret hne).symm
    · rw [hloaded]
      split
      · next hfault =>
          exact hgood.refresh hfault hne saved _ hsaved (loadSettings_dict base hnewdict)
      · exact SameShown.refl _
  have hread : ∀ part : SettingsSection,
      part.read next = part.read ⟨some saved, effective base (some saved)⟩ := by
    intro part
    obtain ⟨config, settings⟩ := next
    cases hconfig
    exact hnew.read_eq part
  have hreadOld : ∀ part : SettingsSection,
      part.read portal = part.read ⟨portal.config, effective base portal.config⟩ :=
    fun part => hold.read_eq part
  refine ⟨⟨effective base (some saved), ?_, hnew⟩, ?_, ?_, ?_, ?_⟩
  · rw [hconfig]
    exact loadSettings_dict base hnewdict
  · rw [hread]
    refine shows_saved hgood.left hnewdict ?_ hkept ?_
    · intro entry hentry
      rw [hvalue, Dict.lookup_eq_some_of_mem call.nodup_changes hentry]
      rfl
    · intro hne
      obtain ⟨hlocale, -⟩ | ⟨-, hbefore, -⟩ := hsettings
      · exact absurd hlocale hne
      · rw [← hreadOld]
        exact hbefore
  · intro secret hsecret
    rw [hnew.secrets secret hsecret, hconfig, hold.secrets secret hsecret]
    refine ⟨?_, hsecrets secret hsecret⟩
    rw [effective, hsecrets secret hsecret, effective]
    cases call.newSecret secret <;> rfl
  · intro other hother
    rw [hread, hreadOld]
    exact hothers other hother
  · rw [hconfig]
    exact hforeign

end Keeping

section Claim

variable [PyText] [LawfulUpper] [PyJson] [Validation]

/-- In every sequence of calls that meet the condition, from the start of the portal on any file,
each call that goes through stores exactly what it was sent. -/
theorem settings_stored_exactly (base : ConfigSettings) (config : Option Json)
    (portal : PortalConfig) (hstart : PortalConfig.started base config = some portal)
    (requests : List (SettingsCall × Faults))
    (hgood : Guarded (settingsStep base) (Storable base) portal requests) :
    Guarded (settingsStep base) (fun portal request => ∀ next,
      request.1.perform base request.2 portal = some next → StoredExactly request.1 portal next)
      portal requests := by
  have hsync : InSync base portal := by
    obtain ⟨settings, hsettings, rfl⟩ := Option.map_eq_some_iff.mp hstart
    exact ⟨settings, hsettings, SameShown.refl settings⟩
  refine guarded_of_guarded (I := InSync base) ?_ hgood hsync
  intro before request next hstep hsync hstorable
  obtain ⟨call, faults⟩ := request
  cases hrun : call.perform base faults before with
  | none =>
      rw [settingsStep, hrun] at hstep
      cases hstep
      exact ⟨hsync, fun next hnext => nomatch hnext⟩
  | some after =>
      rw [settingsStep, hrun] at hstep
      cases hstep
      obtain ⟨hnext, hstored⟩ := perform_stored hsync hstorable hrun
      refine ⟨hnext, fun next hnext => ?_⟩
      rw [← Option.some.inj hnext]
      exact hstored

omit [LawfulUpper] in
/-- Where nothing faults, only the field that the lists leave out matters. -/
theorem guarded_faultless (base : ConfigSettings) (portal : PortalConfig)
    {requests : List (SettingsCall × Faults)} (hfaultless : ∀ request ∈ requests, request.2 = {})
    (hleft : ∀ request ∈ requests, ∀ new, request.1 = .updateBackendSettings new →
      new.get "decomm_set_authz" = .bool true) :
    Guarded (settingsStep base) (Storable base) portal requests := by
  have hlabels : Guarded (settingsStep base) (fun _ request => request.2 = {} ∧
      ∀ new, request.1 = .updateBackendSettings new → new.get "decomm_set_authz" = .bool true)
      portal requests :=
    guarded_of_forall fun request hrequest => ⟨hfaultless request hrequest, hleft request hrequest⟩
  refine guarded_of_guarded (I := fun _ => True) ?_ hlabels trivial
  intro before request next _ _ hgood
  refine ⟨trivial, hgood.2, ?_, ?_⟩
  · intro hload
    rw [hgood.1] at hload
    cases hload
  · intro hrefresh
    rw [hgood.1] at hrefresh
    cases hrefresh

omit [LawfulUpper] in
/-- The condition on the field is needed: the reader answers with its default. -/
theorem StoredExactly.left {new : Payload backendSettingsUpdate} {portal next : PortalConfig}
    (h : StoredExactly (.updateBackendSettings new) portal next) :
    new.get "decomm_set_authz" = .bool true := by
  obtain ⟨fields, hread, hshows⟩ := h.shows
  obtain ⟨field, hfield, hname, hdefault⟩ : ∃ field ∈ backendSettingsResponse,
      field.name = "decomm_set_authz" ∧ field.default = some (.bool true) :=
    ⟨⟨"decomm_set_authz", .flag, some (.bool true)⟩, by simp [backendSettingsResponse], rfl, rfl⟩
  obtain ⟨value, hvalue, hlookup⟩ := lookup_build backend_wellListed.nodup hread hfield
  have hnone : (backendSection.arguments next.settings).lookup field.name = none := by
    rw [CopiedSection.lookup_arguments, hname, if_neg (by decide),
      if_neg (by decide)]
  rw [buildField, hnone] at hvalue
  have hsent : ("decomm_set_authz", new.get "decomm_set_authz") ∈
      (SettingsCall.updateBackendSettings new).sent :=
    List.mem_map.mpr ⟨⟨"decomm_set_authz", .flag, some (.bool true)⟩,
      by simp [backendSettingsUpdate], rfl⟩
  have hshown := hshows _ hsent
  rw [← hname, hlookup, ← hvalue, hdefault] at hshown
  rw [← hname]
  exact (Option.some.inj hshown).symm

omit [LawfulUpper] in
/-- The condition on a faulting read is needed: what the file held of another section is lost. -/
theorem StoredExactly.load {base : ConfigSettings} {call : SettingsCall} {faults : Faults}
    {portal next : PortalConfig} (h : StoredExactly call portal next)
    (hrun : call.perform base faults portal = some next) (hfault : faults.load = true)
    {key : String} (hkey : key ∉ call.target.keys) : storedValue portal.config key = none := by
  obtain ⟨saved, hsaved, hconfig, -⟩ := perform_cases hrun
  obtain ⟨-, -, hvalue⟩ := savedConfig_eq call.nodup_changes hsaved
  rw [← h.stored key hkey, hconfig, hvalue, hfault]
  have hnone : call.changes.lookup key = none := by
    by_contra hwritten
    exact hkey (call.mem_keys_of_lookup_changes hwritten)
  rw [hnone]
  rfl

end Claim

/-! ## Three portals -/

section Examples

local instance settingsText : PyText := asciiText

local instance settingsJson : PyJson := PyJson.ofLoads fun _ => .error .jsonDecodeError

local instance settingsValidation : Validation := strictValidation

/-- An environment that leaves every setting at its default. -/
def defaultSettings : ConfigSettings := fun key =>
  if key = "psk_min_length" then .num 8
  else
    (((backendSettingsUpdate ++ pxGridSettingsUpdate).find? fun field => field.name = key).bind
      SchemaField.default).getD (.str "")

/-- The administrator asks for stricter keys and for Danish. -/
def strictKeys : Payload pskPolicy :=
  Payload.ofBody (by simp [updateSchemas]) [("psk_type", .str "IPSK"), ("min_length", .num 12)] rfl

def danish : Payload portalLocaleUpdate :=
  Payload.ofBody (by simp [updateSchemas]) [("default_language", .str "da")] rfl

def freshPortal : PortalConfig := ⟨none, effective defaultSettings none⟩

theorem settings_stored_exactly_danish :
    Guarded (settingsStep defaultSettings) (fun portal request => ∀ next,
      request.1.perform defaultSettings request.2 portal = some next →
        StoredExactly request.1 portal next) freshPortal
      [(.updatePskPolicy strictKeys, {}), (.updatePortalLocale danish, {})] := by
  have hlawful : LawfulUpper := lawfulUpper_ascii
  refine settings_stored_exactly defaultSettings none freshPortal rfl _ ?_
  refine guarded_faultless defaultSettings freshPortal ?_ ?_
  · simp
  · intro request hrequest new hnew
    rcases List.mem_cons.mp hrequest with rfl | hrequest
    · cases hnew
    · rw [List.mem_singleton.mp hrequest] at hnew
      cases hnew

def keepAuthzBody : JsonObject :=
  [("ise_base_url", .str "https://ise.local"), ("ise_username", .str "ers"),
   ("decomm_set_authz", .bool false)]

theorem isSome_keepAuthz : (build backendSettingsUpdate keepAuthzBody).isSome := rfl

/-- The administrator turns `decomm_set_authz` off. -/
def keepAuthz : Payload backendSettingsUpdate :=
  Payload.ofBody (by simp [updateSchemas]) keepAuthzBody isSome_keepAuthz

theorem keepAuthz_decomm : keepAuthz.get "decomm_set_authz" = .bool false := by
  have hfield : (⟨"decomm_set_authz", .flag, some (.bool true)⟩ : SchemaField) ∈
      backendSettingsUpdate := by simp [backendSettingsUpdate]
  have hget := Payload.get_ofBody (by simp [updateSchemas]) isSome_keepAuthz hfield
  exact (Option.some.inj hget).symm

/-- A portal that has a password stored. -/
def storedPortal : PortalConfig :=
  ⟨some (.obj [("ise_password", .str "secret")]),
    effective defaultSettings (some (.obj [("ise_password", .str "secret")]))⟩

/-- The reader answers `True` for the field that was sent as `False`, and a change of the language
during which the file cannot be read loses the password. -/
theorem settings_not_stored :
    PortalConfig.started defaultSettings none = some freshPortal ∧
      PortalConfig.started defaultSettings storedPortal.config = some storedPortal ∧
      ¬ Guarded (settingsStep defaultSettings) (fun portal request => ∀ next,
        request.1.perform defaultSettings request.2 portal = some next →
          StoredExactly request.1 portal next) freshPortal
        [(.updateBackendSettings keepAuthz, {})] ∧
      ¬ Guarded (settingsStep defaultSettings) (fun portal request => ∀ next,
        request.1.perform defaultSettings request.2 portal = some next →
          StoredExactly request.1 portal next) storedPortal
        [(.updatePortalLocale danish, { load := true })] := by
  refine ⟨rfl, rfl, fun h => ?_, fun h => ?_⟩
  · have hruns : ((SettingsCall.updateBackendSettings keepAuthz).perform defaultSettings {}
        freshPortal).isSome = true := by decide
    obtain ⟨next, hnext⟩ := Option.isSome_iff_exists.mp hruns
    have hleft := (h.1 next hnext).left
    rw [keepAuthz_decomm] at hleft
    cases hleft
  · have hruns : ((SettingsCall.updatePortalLocale danish).perform defaultSettings
        { load := true } storedPortal).isSome = true := by decide
    obtain ⟨next, hnext⟩ := Option.isSome_iff_exists.mp hruns
    have hother : "ise_password" ∉ (SettingsCall.updatePortalLocale danish).target.keys := by
      decide
    have hlost := (h.1 next hnext).load hnext rfl hother
    cases hlost

end Examples

end IsePortal
