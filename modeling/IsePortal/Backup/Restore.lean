import IsePortal.Backup.Tables
import IsePortal.Library.Base64
import IsePortal.Platform.Bytes
import Mathlib.Data.List.Sort

/-!
# Backup and restore

`app/api/config_backup.py` and `app/core/backup_crypto.py`. A plain backup has the config files
without their secrets and the two tables; one with a passphrase has everything, encrypted. A restore
writes the config files one by one, imports the tables, and writes certificates and signing key.
Nothing undoes what is done when a later step raises.
-/

namespace IsePortal.ConfigBackup

open Library

/-- A path inside `backend/`, relative to it. -/
abbrev FilePath := String

/-- The files inside `backend/`. -/
abbrev Files := Dict FilePath Bytes

/-- `_DEFAULT_ITERATIONS` -/
def defaultIterations : Int := 200000

/-- What the portal takes from the runtime: paths, `json` with UTF-8 around it, PBKDF2 and
Fernet. -/
class BackupRuntime where
  /-- `(_BACKEND_DIR / rel).resolve()`; `none` outside `backend/` or where it raises. -/
  resolve : String → Option FilePath
  /-- `json.loads(raw.decode("utf-8"))` -/
  loads : Bytes → Except PyError Json
  /-- `json.dumps(value, ensure_ascii=False, indent=indent).encode("utf-8")` -/
  dumps : Option Nat → Json → Bytes
  /-- `_derive_key`; `none` where it raises. -/
  deriveKey : String → Bytes → Int → Option Bytes
  /-- `Fernet(key).encrypt(data)` -/
  encrypt : Bytes → Bytes → Bytes
  /-- `Fernet(key).decrypt(token)`; `none` for `InvalidToken`. -/
  decrypt : Bytes → Bytes → Option Bytes
  deriveKey_isSome : ∀ passphrase salt, (deriveKey passphrase salt defaultIterations).isSome
  decrypt_encrypt : ∀ key data, decrypt key (encrypt key data) = some data

/-- `_CONFIG_FILES` -/
def configFiles : List String :=
  ["config.json", "auth_config.json", "operator_profiles.json", "users.json", "endpoint_roles.json",
    "templates.json", "custom_attr_values.json", "platform_mapping.json"]

/-- `_REDACTED` -/
def redactedText : String := "__REDACTED__"

/-- `_SENSITIVE_FIELDS` -/
def sensitiveFields (name : String) : List String :=
  if name = "config.json" then ["ise_password", "pxgrid_password"]
  else if name = "auth_config.json" then ["tacacs_secret"]
  else []

/-- `_CERT_PATH_KEYS` -/
def certPathKeys : List String :=
  ["ise_ca_bundle", "pxgrid_cert_path", "pxgrid_key_path", "pxgrid_ca_bundle_path"]

/-- `_auth_secret_path` -/
def authSecretPath : FilePath := "auth_secret.key"

variable [Sqlite]

/-- The components a backup covers. -/
structure Backend where
  files : Files := Dict.empty
  guestExpiry : Dict EndpointId TrackedRow := Dict.empty
  firstSeen : Dict String SeenRow := Dict.empty

/-- What a call meets besides: the time, which writes of a file fail, leaving the file as it was or
with other bytes in it, and which database does. -/
structure Call extends Clock where
  writeFails : FilePath → Bytes → Option (Option Bytes) := fun _ _ => none
  guestFails : Bool := false
  seenFails : Bool := false

/-- `json.loads` gives a dictionary; a key that occurs again replaces the value it had. -/
def toDict (fields : JsonObject) : Dict String Json := Dict.empty.write fields

/-- `value == _REDACTED` -/
def isRedacted : Json → Bool
  | .str text => text = redactedText
  | _ => false

/-- `base64.b64encode(raw).decode("ascii")` -/
def b64encode (raw : Bytes) : String := String.ofList (Base64.encodeStandard raw)

/-- `base64.b64decode(value)`; `none` where it raises. -/
def b64decode : Json → Option Bytes
  | .str text =>
      if text.toList.all fun char => char.toNat < 128 then Base64.decodeStandard text.toList
      else none
  | _ => none

/-! ## The backup -/

section Backup

variable [BackupRuntime]

/-- `_read_config_file` -/
def readConfigFile (files : Files) (name : String) : Option Json :=
  (files.get? name).bind fun raw => (BackupRuntime.loads raw).toOption

/-- `_redact` -/
def redact (name : String) : Json → Json
  | .obj fields => .obj (fields.map fun (field, value) =>
      (field, if field ∈ sensitiveFields name ∧ value.truthy then .str redactedText else value))
  | data => data

/-- `_collect_files` -/
def collectFiles (redacted : Bool) (files : Files) : JsonObject :=
  configFiles.filterMap fun name =>
    match readConfigFile files name with
    | some .null | none => none
    | some data => some (name, if redacted then redact name data else data)

/-- `_resolve_backend_path` of a text -/
def resolveBackendPath (rel : String) : Option FilePath :=
  if rel = "" then none else BackupRuntime.resolve rel

/-- `_collect_certs`, with the stripped settings -/
def collectCerts (settings : String → String) (files : Files) : JsonObject :=
  certPathKeys.filterMap fun key => do
    let path ← resolveBackendPath (settings key)
    let raw ← files.get? path
    pure (key, .obj [("path", .str (settings key)), ("data", .str (b64encode raw))])

/-- `_collect_extras` -/
def collectExtras (includeSensitive : Bool) (settings : String → String) (backend : Backend) :
    JsonObject :=
  [("guest_expiry", .arr (backend.guestExpiry.entries.map exportTracked)),
    ("first_seen", .arr (backend.firstSeen.entries.map exportSeen))] ++
  if includeSensitive then
    ("certs", .obj (collectCerts settings backend.files)) ::
      ((backend.files.get? authSecretPath).map fun raw =>
        ("auth_secret", .str (b64encode raw))).toList
  else []

/-- `encrypt_obj`, of a passphrase that is not empty, with the salt that is drawn -/
def encryptObj (salt : Bytes) (obj : Json) (passphrase : String) : Option Json :=
  (BackupRuntime.deriveKey passphrase salt defaultIterations).map fun key =>
    .obj [("algo", .str "pbkdf2_sha256+fernet"), ("iterations", .num defaultIterations),
      ("salt", .str (b64encode salt)),
      ("ciphertext", .str (b64encode (BackupRuntime.encrypt key (BackupRuntime.dumps none obj))))]

/-- `inner`: what is encrypted -/
def innerPayload (settings : String → String) (backend : Backend) : Json :=
  .obj [("files", .obj (collectFiles false backend.files)),
    ("extras", .obj (collectExtras true settings backend))]

/-- `build_backup_payload`; `none` where it raises -/
def buildBackupPayload (createdAt : String) (salt : Bytes) (settings : String → String)
    (backend : Backend) (passphrase : String) : Option JsonObject :=
  if passphrase ≠ "" then
    (encryptObj salt (innerPayload settings backend) passphrase).map fun enc =>
      [("version", .num 2), ("created_at", .str createdAt), ("encrypted", .bool true), ("enc", enc)]
  else
    some [("version", .num 2), ("created_at", .str createdAt), ("encrypted", .bool false),
      ("credentials_redacted", .bool true), ("files", .obj (collectFiles true backend.files)),
      ("extras", .obj (collectExtras false settings backend))]

end Backup

/-! ## The restore -/

/-- How a restore ends that raises: status 400, status 500 with an exception in its text, or an
exception of the decryption that is no `BackupCryptoError`. -/
inductive RestoreError where
  | badRequest (detail : String)
  | failed (cause : Failure)
  | uncaught
  deriving DecidableEq

/-- Write a file, and whether that succeeds. -/
def writeFile (call : Call) (files : Files) (path : FilePath) (raw : Bytes) : Files × Bool :=
  match call.writeFails path raw with
  | none => (files.set path raw, true)
  | some left => (left.elim files (files.set path), false)

/-- `_merge_without_redacted` -/
def mergeWithoutRedacted : Json → Json → Json
  | .obj existing, .obj incoming => .obj (incoming.map fun (key, value) =>
      (key, if isRedacted value then (existing.lookup key).getD value else value))
  | _, incoming => incoming

section Restore

variable [BackupRuntime]

/-- What is written to a config file. -/
def mergedFile (redacted : Bool) (files : Files) (name : String) (incoming : Json) : Json :=
  if redacted then
    mergeWithoutRedacted (((readConfigFile files name).getD .null).or (.obj [])) incoming
  else incoming

/-- The loop of `_apply_files` -/
def applyEach (call : Call) (redacted : Bool) :
    Files → List (String × Json) → Files × Except RestoreError (List String)
  | files, [] => (files, .ok [])
  | files, (name, incoming) :: rest =>
      if incoming.isNull then applyEach call redacted files rest
      else
        let raw := BackupRuntime.dumps (some 2) (mergedFile redacted files name incoming)
        match writeFile call files name raw with
        | (after, false) => (after, .error (.failed .os))
        | (after, true) =>
            let (final, restored) := applyEach call redacted after rest
            (final, restored.map (name :: ·))

/-- `set(files.keys()) - set(_CONFIG_FILES)`, sorted -/
def unknownFiles (incoming : Dict String Json) : List String :=
  (incoming.keys.filter fun name => name ∉ configFiles).insertionSort (· ≤ ·)

/-- `_apply_files` -/
def applyFiles (call : Call) (redacted : Bool) (files : Files) (incoming : Dict String Json) :
    Files × Except RestoreError (List String) :=
  if unknownFiles incoming ≠ [] then
    (files, .error (.badRequest
      ("Ukendte konfigurationsfiler: " ++ ", ".intercalate (unknownFiles incoming))))
  else applyEach call redacted files incoming.entries

/-- The part of `_apply_extras` about a table. -/
def applyTable {α : Type} (read : Json → Except Failure (Option (String × α)))
    (insert : Dict String α → String × α → Dict String α) (fails : Bool) (label : String)
    (table : Dict String α) : Json → Dict String α × Except Failure (List String)
  | .arr rows =>
      let (after, imported) := importTable read insert fails table rows
      (after, imported.map fun n => [label ++ " (" ++ toString n ++ ")"])
  | _ => (table, .ok [])

/-- `_resolve_backend_path` of the path of a certificate; `Path` takes texts only. -/
def certPath : Json → Except Failure (Option FilePath)
  | .str rel => .ok (resolveBackendPath rel)
  | rel => if rel.truthy then .error (.python .typeError) else .ok none

/-- What `_apply_extras` writes for an entry of `certs`, if anything. -/
def readCert (entry : String × Json) : Except Failure (Option (String × FilePath × Bytes)) :=
  match entry.2 with
  | .obj fields =>
      let data := JsonObject.getD fields "data" .null
      (certPath (JsonObject.getD fields "path" (.str ""))).map fun path =>
        if data.truthy then
          path.bind fun path => (b64decode data).map fun raw => (entry.1, path, raw)
        else none
  | _ => .ok none

/-- The part of the loop over `certs` that catches every exception. -/
def writeCert (call : Call) (state : Files × List String)
    (cert : Option (String × FilePath × Bytes)) : Files × List String :=
  cert.elim state fun (key, path, raw) =>
    let (after, written) := writeFile call state.1 path raw
    (after, if written then state.2 ++ ["cert:" ++ key] else state.2)

/-- The loop over `certs` -/
def applyCerts (call : Call) (files : Files) (applied : List String) :
    Json → (Files × List String) × Option Failure
  | .obj certs => foldUntil readCert (writeCert call) (files, applied) (toDict certs).entries
  | _ => ((files, applied), none)

/-- The end of `_apply_extras`: the signing key -/
def applySecret (call : Call) (files : Files) (secret : Json) : Files × List String :=
  if secret.truthy then
    match b64decode secret with
    | none => (files, [])
    | some raw =>
        let (after, written) := writeFile call files authSecretPath raw
        (after, if written then ["auth_secret"] else [])
  else (files, [])

/-- `_apply_extras` -/
def applyExtras [PyText] (call : Call) (backend : Backend) :
    Json → Backend × Except Failure (List String)
  | .obj extras =>
      let guests := applyTable (readTracked call.toClock) insertTracked call.guestFails
        "guest_expiry" backend.guestExpiry (JsonObject.getD extras "guest_expiry" .null)
      let backend := { backend with guestExpiry := guests.1 }
      match guests.2 with
      | .error raised => (backend, .error raised)
      | .ok guestsApplied =>
          let seen := applyTable (readSeen call.toClock) insertSeen call.seenFails "first_seen"
            backend.firstSeen (JsonObject.getD extras "first_seen" .null)
          let backend := { backend with firstSeen := seen.1 }
          match seen.2 with
          | .error raised => (backend, .error raised)
          | .ok seenApplied =>
              let certs := applyCerts call backend.files (guestsApplied ++ seenApplied)
                (JsonObject.getD extras "certs" .null)
              let backend := { backend with files := certs.1.1 }
              match certs.2 with
              | some raised => (backend, .error raised)
              | none =>
                  let secret := applySecret call backend.files
                    (JsonObject.getD extras "auth_secret" .null)
                  ({ backend with files := secret.1 }, .ok (certs.1.2 ++ secret.2))
  | _ => (backend, .ok [])

/-- `base64.b64decode(enc[key])` -/
def encField (fields : JsonObject) (key : String) : Except RestoreError Bytes :=
  match (fields.lookup key).bind b64decode with
  | some raw => .ok raw
  | none => .error (.badRequest "Ugyldigt krypteret backup-format")

/-- `int(enc.get("iterations", _DEFAULT_ITERATIONS))` -/
def encIterations (fields : JsonObject) : Except RestoreError Int :=
  match fields.getD "iterations" (.num defaultIterations) with
  -- OverflowError is no ValueError
  | .nonFinite "Infinity" | .nonFinite "-Infinity" => .error .uncaught
  | value =>
      match value.toInt with
      | .ok iterations => .ok iterations
      | .error _ => .error (.badRequest "Ugyldigt krypteret backup-format")

/-- The end of `decrypt_obj`: derive the key, decrypt and parse. -/
def readToken (passphrase : String) (salt : Bytes) (iterations : Int) (token : Bytes) :
    Except RestoreError Json :=
  match BackupRuntime.deriveKey passphrase salt iterations with
  | none => .error .uncaught
  | some key =>
      match BackupRuntime.decrypt key token with
      | none => .error (.badRequest
          "Forkert passphrase, eller backup-filen er beskadiget/manipuleret")
      | some plaintext =>
          match BackupRuntime.loads plaintext with
          | .ok value => .ok value
          | .error .recursionError => .error .uncaught
          | .error _ => .error (.badRequest "Dekrypteret indhold er ikke gyldig JSON")

/-- `decrypt_obj` -/
def decryptObj (enc : Json) (passphrase : String) : Except RestoreError Json :=
  if passphrase = "" then
    .error (.badRequest "Passphrase mangler til dekryptering af krypteret backup")
  else
    match enc with
    | .obj fields => do
        let salt ← encField fields "salt"
        let iterations ← encIterations fields
        let token ← encField fields "ciphertext"
        readToken passphrase salt iterations token
    | _ => .error (.badRequest "Ugyldigt krypteret backup-format")

/-- `inner.get("files", {})` and `inner.get("extras", {})`, of a dictionary -/
def innerParts : Json → Json × Json
  | .obj inner =>
      (JsonObject.getD inner "files" (.obj []), JsonObject.getD inner "extras" (.obj []))
  | _ => (.obj [], .obj [])

/-- The start of `apply_restore`: the files and the extras of a backup, and whether its secrets are
redacted. -/
def openBackup (obj : JsonObject) (passphrase : String) :
    Except RestoreError (Dict String Json × Json × Bool) :=
  let version := (obj.getD "version" .null).number
  if version ≠ some 1 ∧ version ≠ some 2 then
    .error (.badRequest "Ugyldigt backup-format (version)")
  else do
    let (files, extras, redacted) ←
      if (obj.getD "encrypted" .null).truthy then
        (decryptObj (obj.getD "enc" (.obj [])) passphrase).map fun inner =>
          ((innerParts inner).1, (innerParts inner).2, false)
      else
        .ok (obj.getD "files" (.obj []), obj.getD "extras" (.obj []),
          (obj.getD "credentials_redacted" .null).truthy)
    match files with
    | .obj files => pure (toDict files, extras, redacted)
    | _ => .error (.badRequest "files-feltet mangler eller er ugyldigt")

/-- `apply_restore`: the state it leaves, and the files and the extras it has restored. -/
def applyRestore [PyText] (call : Call) (backend : Backend) (obj : JsonObject)
    (passphrase : String) : Backend × Except RestoreError (List String × List String) :=
  match openBackup obj passphrase with
  | .error raised => (backend, .error raised)
  | .ok (incoming, extras, redacted) =>
      let files := applyFiles call redacted backend.files incoming
      let backend := { backend with files := files.1 }
      match files.2 with
      | .error raised => (backend, .error raised)
      | .ok restored =>
          let applied := applyExtras call backend extras
          (applied.1, match applied.2 with
            | .error raised => .error (.failed raised)
            | .ok restoredExtras => .ok (restored, restoredExtras))

end Restore

end IsePortal.ConfigBackup
