import IsePortal.Backup.FailedRestore
import Mathlib.Data.List.ReduceOption

/-!
# A backup that is restored

Where nothing fails, a restore writes every config file of the backup, imports both tables, and
writes the certificates and the signing key it has. `backup_restored_iff` says when the encrypted
backup of one state, restored onto another, makes the components equal, and when its plain backup
keeps the secrets of the other.
-/

namespace IsePortal.ConfigBackup

open Library

section General

variable [Sqlite] [PyText] [BackupRuntime]

/-! ## A restore without faults -/

/-- What the signing key of a backup writes. -/
def secretWrites (call : Call) (secret : Json) : List (FilePath × Bytes) :=
  if secret.truthy then (b64decode secret).elim [] (effect call authSecretPath) else []

omit [PyText] [BackupRuntime] in
theorem applySecret_fst (call : Call) (files : Files) (secret : Json) :
    (applySecret call files secret).1 = files.write (secretWrites call secret) := by
  unfold applySecret secretWrites
  split
  · cases b64decode secret with
    | none => rfl
    | some raw => exact writeFile_fst call files authSecretPath raw
  · rfl

/-- The files and the rows a restore leaves that raises nowhere. -/
theorem applyRestore_of_ok {call : Call} {before : Backend} {obj : JsonObject}
    {passphrase : String} {incoming : Dict String Json} {extras : JsonObject} {redacted : Bool}
    (hopen : openBackup obj passphrase = .ok (incoming, .obj extras, redacted))
    (hknown : unknownFiles incoming = [])
    (hfiles : ¬ Stops call (configWrites redacted before.files incoming.entries))
    (hguests : ¬ GuestsFail call extras) (hseen : ¬ SeenFails call extras)
    (hcerts : ¬ CertsFail (extras.getD "certs" .null)) :
    (applyRestore call before obj passphrase).1.files =
        (before.files.write (configWrites redacted before.files incoming.entries)).write
          (certWrites call (extras.getD "certs" .null) ++
            secretWrites call (extras.getD "auth_secret" .null)) ∧
      (applyRestore call before obj passphrase).1.guestExpiry =
        (applyTable (readTracked call.toClock) insertTracked call.guestFails "guest_expiry"
          before.guestExpiry (extras.getD "guest_expiry" .null)).1 ∧
      (applyRestore call before obj passphrase).1.firstSeen =
        (applyTable (readSeen call.toClock) insertSeen call.seenFails "first_seen"
          before.firstSeen (extras.getD "first_seen" .null)).1 := by
  have happly : applyFiles call redacted before.files incoming =
      applyEach call redacted before.files incoming.entries := if_neg (not_not_intro hknown)
  obtain ⟨hwritten, hstops⟩ := applyEach_spec call redacted incoming.nodup before.files
  rw [attempted_of_not_stops hfiles] at hwritten
  cases hends : (applyEach call redacted before.files incoming.entries).2 with
  | error raised => exact absurd (hstops.mp ⟨raised, hends⟩) hfiles
  | ok restored =>
      obtain ⟨-, guestsApplied, hguestsEnds⟩ := @applyTable_of_ok _ _ insertTracked _
        "guest_expiry" before.guestExpiry _ hguests
      obtain ⟨-, seenApplied, hseenEnds⟩ := @applyTable_of_ok _ _ insertSeen _ "first_seen"
        before.firstSeen _ hseen
      generalize configWrites redacted before.files incoming.entries = writes at hwritten ⊢
      obtain ⟨hcertsFst, hraises⟩ := applyCerts_spec call (before.files.write writes)
        (guestsApplied ++ seenApplied) (JsonObject.getD extras "certs" .null)
      have hcertsEnd : (applyCerts call (before.files.write writes)
          (guestsApplied ++ seenApplied) (JsonObject.getD extras "certs" .null)).2 = none :=
        not_not.mp fun h => hcerts (hraises.mp h)
      simp only [applyRestore, hopen, happly, hends, hwritten, applyExtras, hguestsEnds, hseenEnds,
        hcertsEnd, hcertsFst, applySecret_fst]
      exact ⟨(Dict.write_append _ _ _).symm, trivial, trivial⟩

/-! ## The parts of a backup -/

section Parts

omit [Sqlite] [PyText] [BackupRuntime]

/-- A dictionary that is read has the entries of its text, where no key occurs twice. -/
theorem entries_toDict {fields : JsonObject} (hnodup : (fields.map Prod.fst).Nodup) :
    (toDict fields).entries = fields := by
  have hall : ∀ (rest : JsonObject) (d : Dict String Json),
      ((d.entries ++ rest).map Prod.fst).Nodup → (d.write rest).entries = d.entries ++ rest := by
    intro rest
    induction rest with
    | nil => exact fun d _ => (List.append_nil _).symm
    | cons entry rest ih =>
        intro d hd
        have hnew : entry.1 ∉ d.keys := by
          rw [List.map_append, List.nodup_append] at hd
          exact fun hmem => hd.2.2 _ hmem _ List.mem_cons_self rfl
        have hset : (d.set entry.1 entry.2).entries = d.entries ++ [entry] :=
          Dict.entries_set_of_not_mem entry.2 hnew
        show ((d.set entry.1 entry.2).write rest).entries = _
        rw [ih _ (by rw [hset, List.append_assoc]; exact hd), hset, List.append_assoc]
        rfl
  exact hall fields Dict.empty hnodup

theorem b64decode_encode (raw : Bytes) : b64decode (.str (b64encode raw)) = some raw := by
  have hascii : (Base64.encodeStandard raw).all (fun char => char.toNat < 128) = true :=
    List.all_eq_true.mpr fun char hchar => decide_eq_true (Base64.encodeStandard_ascii hchar)
  show (if ((b64encode raw).toList.all fun char => char.toNat < 128) = true then
    Base64.decodeStandard (b64encode raw).toList else none) = _
  rw [b64encode, String.toList_ofList, if_pos hascii, Base64.decodeStandard_encodeStandard]

theorem b64encode_truthy (raw : Bytes) : (Json.str (b64encode raw)).truthy = true ↔ raw ≠ [] := by
  constructor
  · rintro h rfl
    cases h
  · intro h
    refine decide_eq_true fun hempty => h ?_
    have hback := b64decode_encode raw
    rw [hempty] at hback
    exact (Option.some.inj hback).symm

end Parts

section Collected

omit [Sqlite] [PyText]

/-- The entry of a backup for a config file. -/
def fileEntry (redacted : Bool) (files : Files) (name : String) : Option (String × Json) :=
  (readConfigFile files name).bind fun data =>
    if data.isNull then none else some (name, if redacted then redact name data else data)

theorem collectFiles_eq (redacted : Bool) (files : Files) :
    collectFiles redacted files = configFiles.filterMap (fileEntry redacted files) := by
  refine List.filterMap_congr fun name _ => ?_
  unfold fileEntry
  cases readConfigFile files name with
  | none => rfl
  | some data => cases data <;> rfl

theorem fileEntry_fst {redacted : Bool} {files : Files} {name : String} {entry : String × Json}
    (h : fileEntry redacted files name = some entry) : entry.1 = name := by
  obtain ⟨data, -, hdata⟩ := Option.bind_eq_some_iff.mp h
  split at hdata <;> cases hdata
  rfl

theorem collectFiles_nodup (redacted : Bool) (files : Files) :
    ((collectFiles redacted files).map Prod.fst).Nodup := by
  rw [collectFiles_eq]
  have hnames : (configFiles.map id).Nodup := by decide
  exact hnames.sublist (map_fst_filterMap_sublist fun name _ entry => fileEntry_fst)

/-- Every file of a backup is a config file. -/
theorem unknownFiles_collectFiles (redacted : Bool) (files : Files) :
    unknownFiles (toDict (collectFiles redacted files)) = [] := by
  have hnone : (toDict (collectFiles redacted files)).keys.filter (fun name => name ∉ configFiles) =
      [] := by
    refine List.filter_eq_nil_iff.mpr fun name hname => ?_
    rw [Dict.keys, entries_toDict (collectFiles_nodup redacted files), collectFiles_eq] at hname
    obtain ⟨entry, hentry, rfl⟩ := List.mem_map.mp hname
    obtain ⟨source, hsource, himage⟩ := List.mem_filterMap.mp hentry
    simp [fileEntry_fst himage, hsource]
  rw [unknownFiles, hnone]
  rfl

/-- The entry of a backup for a certificate. -/
def certEntry (settings : String → String) (files : Files) (key : String) :
    Option (String × Json) :=
  (resolveBackendPath (settings key)).bind fun path => (files.get? path).map fun raw =>
    (key, .obj [("path", .str (settings key)), ("data", .str (b64encode raw))])

theorem collectCerts_nodup (settings : String → String) (files : Files) :
    ((collectCerts settings files).map Prod.fst).Nodup := by
  have hkeys : (certPathKeys.map id).Nodup := by decide
  refine hkeys.sublist (map_fst_filterMap_sublist fun key _ entry hentry => ?_)
  obtain ⟨path, -, hpath⟩ := Option.bind_eq_some_iff.mp hentry
  obtain ⟨raw, -, hraw⟩ := Option.bind_eq_some_iff.mp hpath
  cases hraw
  rfl

end Collected

/-! ## Opening a backup -/

section Opening

omit [PyText]

omit [Sqlite] [BackupRuntime] in
theorem encField_of_lookup {fields : JsonObject} {key : String} {raw : Bytes}
    (h : fields.lookup key = some (.str (b64encode raw))) : encField fields key = .ok raw := by
  rw [encField, h, Option.bind_some, b64decode_encode]

omit [Sqlite] in
/-- `decrypt_obj` undoes `encrypt_obj`. -/
theorem decryptObj_encryptObj {salt : Bytes} {value enc : Json} {passphrase : String}
    (hpass : passphrase ≠ "")
    (hvalue : BackupRuntime.loads (BackupRuntime.dumps none value) = .ok value)
    (henc : encryptObj salt value passphrase = some enc) :
    decryptObj enc passphrase = .ok value := by
  obtain ⟨key, hkey, rfl⟩ := Option.map_eq_some_iff.mp henc
  rw [decryptObj, if_neg hpass]
  show (encField _ "salt" >>= fun salt => encIterations _ >>= fun iterations =>
    encField _ "ciphertext" >>= _) = _
  rw [@encField_of_lookup _ "salt" salt rfl, @encField_of_lookup _ "ciphertext"
    (BackupRuntime.encrypt key (BackupRuntime.dumps none value)) rfl]
  show readToken passphrase salt defaultIterations
    (BackupRuntime.encrypt key (BackupRuntime.dumps none value)) = _
  simp only [readToken, hkey, BackupRuntime.decrypt_encrypt, hvalue]

theorem openBackup_encrypted {createdAt passphrase : String} {salt : Bytes}
    {settings : String → String} {source : Backend} {obj : JsonObject} (hpass : passphrase ≠ "")
    (hinner : BackupRuntime.loads (BackupRuntime.dumps none (innerPayload settings source)) =
      .ok (innerPayload settings source))
    (hbuild : buildBackupPayload createdAt salt settings source passphrase = some obj) :
    openBackup obj passphrase =
      .ok (toDict (collectFiles false source.files), .obj (collectExtras true settings source),
        false) := by
  rw [buildBackupPayload, if_pos hpass] at hbuild
  obtain ⟨enc, henc, rfl⟩ := Option.map_eq_some_iff.mp hbuild
  show ((decryptObj enc passphrase).map _ >>= _) = _
  rw [decryptObj_encryptObj hpass hinner henc]
  rfl

theorem openBackup_plain (createdAt passphrase : String) (salt : Bytes)
    (settings : String → String) (source : Backend) :
    ∃ obj, buildBackupPayload createdAt salt settings source "" = some obj ∧
      openBackup obj passphrase =
        .ok (toDict (collectFiles true source.files), .obj (collectExtras false settings source),
          true) :=
  ⟨_, rfl, rfl⟩

end Opening

/-! ## The files a backup restores -/

section RestoredFiles

omit [Sqlite] [PyText]

/-- What a restore of a backup of these files writes to a config file. -/
def fileContent (redacted : Bool) (source target : Files) (name : String) : Option Bytes :=
  (fileEntry redacted source name).map fun entry =>
    BackupRuntime.dumps (some 2) (mergedFile redacted target name entry.2)

omit [BackupRuntime] in
theorem isNull_redact (name : String) (data : Json) : (redact name data).isNull = data.isNull := by
  cases data <;> rfl

theorem fileEntry_not_null {redacted : Bool} {files : Files} {name : String}
    {entry : String × Json} (h : fileEntry redacted files name = some entry) :
    entry.2.isNull = false := by
  obtain ⟨data, -, hdata⟩ := Option.bind_eq_some_iff.mp h
  cases hnull : data.isNull with
  | true =>
      rw [if_pos hnull] at hdata
      cases hdata
  | false =>
      rw [if_neg (by simp [hnull])] at hdata
      cases hdata
      cases redacted with
      | false => exact hnull
      | true => exact (isNull_redact name data).trans hnull

theorem mem_configWrites {redacted : Bool} {source target : Files} {name : String} {raw : Bytes} :
    (name, raw) ∈ configWrites redacted target (collectFiles redacted source) ↔
      name ∈ configFiles ∧ fileContent redacted source target name = some raw := by
  rw [configWrites, collectFiles_eq, List.filterMap_filterMap, List.mem_filterMap]
  have hwrite : ∀ other, ((fileEntry redacted source other).bind fun entry =>
      if entry.2.isNull then none
      else some (entry.1,
        BackupRuntime.dumps (some 2) (mergedFile redacted target entry.1 entry.2))) =
        (fileContent redacted source target other).map fun content => (other, content) := by
    intro other
    unfold fileContent
    cases hentry : fileEntry redacted source other with
    | none => rfl
    | some entry =>
        rw [Option.bind_some, if_neg (by simp [fileEntry_not_null hentry]), fileEntry_fst hentry]
        rfl
  simp only [hwrite, Option.map_eq_some_iff, Prod.mk.injEq]
  constructor
  · rintro ⟨other, hother, content, hcontent, rfl, rfl⟩
    exact ⟨hother, hcontent⟩
  · rintro ⟨hname, hcontent⟩
    exact ⟨name, hname, raw, hcontent, rfl, rfl⟩

/-- A config file that is in the backup has its content, and every other file what it had. -/
theorem get?_configWrites (redacted : Bool) (source target : Files) (path : FilePath) :
    (target.write (configWrites redacted target (collectFiles redacted source))).get? path =
      if path ∈ configFiles then
        (fileContent redacted source target path).or (target.get? path)
      else target.get? path := by
  by_cases hmem : path ∈ (configWrites redacted target (collectFiles redacted source)).map Prod.fst
  · obtain ⟨⟨name, raw⟩, hentry, rfl⟩ := List.mem_map.mp hmem
    obtain ⟨hname, hcontent⟩ := mem_configWrites.mp hentry
    rw [if_pos hname, hcontent, Option.some_or]
    refine Dict.get?_write_of_mem target hmem fun other hother heq => ?_
    have hcontents := (mem_configWrites.mp (show (other.1, other.2) ∈ _ from hother)).2
    rw [heq, hcontent] at hcontents
    exact (Option.some.inj hcontents).symm
  · rw [Dict.get?_write_of_not_mem target hmem]
    split
    · next hname =>
        cases hcontent : fileContent redacted source target path with
        | none => rw [Option.none_or]
        | some raw =>
            exact absurd (List.mem_map_of_mem (mem_configWrites.mpr ⟨hname, hcontent⟩)) hmem
    · rfl

end RestoredFiles

/-! ## Certificates and signing key -/

section Sensitive

omit [PyText]

/-- A certificate or the signing key. -/
def IsSensitive (settings : String → String) (path : FilePath) : Prop :=
  (∃ key ∈ certPathKeys, resolveBackendPath (settings key) = some path) ∨ path = authSecretPath

omit [Sqlite] in
/-- A certificate of a backup is read, and written unless it is empty. -/
theorem readCert_certEntry {settings : String → String} {files : Files} {key : String}
    {entry : String × Json} (h : certEntry settings files key = some entry) :
    ∃ path raw, resolveBackendPath (settings key) = some path ∧ files.get? path = some raw ∧
      readCert entry = .ok (if raw ≠ [] then some (key, path, raw) else none) := by
  obtain ⟨path, hpath, hcert⟩ := Option.bind_eq_some_iff.mp h
  obtain ⟨raw, hraw, rfl⟩ := Option.map_eq_some_iff.mp hcert
  refine ⟨path, raw, hpath, hraw, ?_⟩
  show (Except.ok (resolveBackendPath (settings key))).map (fun path =>
    if (Json.str (b64encode raw)).truthy = true then path.bind fun path =>
      (b64decode (.str (b64encode raw))).map fun raw => (key, path, raw) else none) = _
  rw [hpath]
  show Except.ok (if (Json.str (b64encode raw)).truthy = true then
    (b64decode (.str (b64encode raw))).map fun raw => (key, path, raw) else none) = _
  simp only [b64encode_truthy, b64decode_encode, Option.map_some]

omit [Sqlite] in
theorem collectCerts_eq (settings : String → String) (files : Files) :
    collectCerts settings files = certPathKeys.filterMap (certEntry settings files) := by
  refine List.filterMap_congr fun key _ => ?_
  unfold certEntry
  cases resolveBackendPath (settings key) with
  | none => rfl
  | some path =>
      show ((files.get? path).bind fun raw => some _) = (files.get? path).map _
      cases files.get? path <;> rfl

omit [Sqlite] in
theorem reads_collectCerts (settings : String → String) (files : Files) :
    ∀ entry ∈ collectCerts settings files, Reads readCert entry := by
  intro entry hentry
  rw [collectCerts_eq] at hentry
  obtain ⟨key, -, himage⟩ := List.mem_filterMap.mp hentry
  obtain ⟨path, raw, -, -, hread⟩ := readCert_certEntry himage
  exact ⟨_, hread⟩

omit [Sqlite] in
theorem not_certsFail (settings : String → String) (files : Files) :
    ¬ CertsFail (.obj (collectCerts settings files)) := by
  rintro ⟨entry, hentry, hraises⟩
  rw [entries_toDict (collectCerts_nodup settings files)] at hentry
  exact hraises (reads_collectCerts settings files entry hentry)

/-- The certificates of a backup are written as they are, unless they are empty. -/
theorem mem_certWrites {clock : Clock} {settings : String → String} {files : Files}
    {path : FilePath} {raw : Bytes} :
    (path, raw) ∈ certWrites { toClock := clock } (.obj (collectCerts settings files)) ↔
      (∃ key ∈ certPathKeys, resolveBackendPath (settings key) = some path) ∧
        files.get? path = some raw ∧ raw ≠ [] := by
  have hall : (toDict (collectCerts settings files)).entries.takeWhile (readsOk readCert) =
      collectCerts settings files := by
    rw [entries_toDict (collectCerts_nodup settings files)]
    exact List.takeWhile_eq_self_iff.mpr fun entry hentry =>
      readsOk_iff.mpr (reads_collectCerts settings files entry hentry)
  simp only [certWrites, hall]
  simp only [readable, collectCerts_eq, List.mem_flatMap, List.reduceOption_mem_iff,
    List.mem_filterMap]
  constructor
  · rintro ⟨⟨key, other, content⟩, ⟨entry, ⟨source, hsource, hentry⟩, hread⟩, heffect⟩
    cases List.mem_singleton.mp (show (path, raw) ∈ [(other, content)] from heffect)
    obtain ⟨place, bytes, hplace, hbytes, hcert⟩ := readCert_certEntry hentry
    rw [hcert] at hread
    have hwritten := Option.some.inj hread
    split at hwritten
    · next hne =>
        cases hwritten
        exact ⟨⟨_, hsource, hplace⟩, hbytes, hne⟩
    · cases hwritten
  · rintro ⟨⟨key, hkey, hpath⟩, hraw, hne⟩
    have hentry : certEntry settings files key = some (key, .obj [("path", .str (settings key)),
        ("data", .str (b64encode raw))]) := by
      rw [certEntry, hpath, Option.bind_some, hraw, Option.map_some]
    obtain ⟨place, bytes, hplace, hbytes, hcert⟩ := readCert_certEntry hentry
    cases hpath.symm.trans hplace
    cases hraw.symm.trans hbytes
    rw [if_pos hne] at hcert
    refine ⟨(key, path, raw), ⟨_, ⟨key, hkey, hentry⟩, ?_⟩, List.mem_singleton_self _⟩
    rw [hcert]
    rfl

theorem mem_secretWrites {clock : Clock} {settings : String → String} {source : Backend}
    {path : FilePath} {raw : Bytes} :
    (path, raw) ∈ secretWrites { toClock := clock }
        ((collectExtras true settings source).getD "auth_secret" .null) ↔
      path = authSecretPath ∧ source.files.get? path = some raw ∧ raw ≠ [] := by
  have hsecret : (collectExtras true settings source).getD "auth_secret" .null =
      ((source.files.get? authSecretPath).map fun raw => Json.str (b64encode raw)).getD .null := by
    unfold collectExtras
    cases source.files.get? authSecretPath <;> rfl
  rw [hsecret]
  cases hkey : source.files.get? authSecretPath with
  | none =>
      refine iff_of_false List.not_mem_nil ?_
      rintro ⟨rfl, hraw, -⟩
      cases hkey.symm.trans hraw
  | some bytes =>
      rw [Option.map_some, Option.getD_some, secretWrites, b64decode_encode]
      simp only [b64encode_truthy]
      split
      · next hne =>
          show (path, raw) ∈ [(authSecretPath, bytes)] ↔ _
          rw [List.mem_singleton, Prod.mk.injEq]
          constructor
          · rintro ⟨rfl, rfl⟩
            exact ⟨rfl, hkey, hne⟩
          · rintro ⟨rfl, hraw, -⟩
            cases hkey.symm.trans hraw
            exact ⟨rfl, rfl⟩
      · next hempty =>
          refine iff_of_false List.not_mem_nil ?_
          rintro ⟨rfl, hraw, hne⟩
          cases hkey.symm.trans hraw
          exact hempty hne

/-- What an encrypted backup writes to certificates and signing key. -/
def sensitiveWrites (clock : Clock) (settings : String → String) (source : Backend) :
    List (FilePath × Bytes) :=
  certWrites { toClock := clock } (.obj (collectCerts settings source.files)) ++
    secretWrites { toClock := clock }
      ((collectExtras true settings source).getD "auth_secret" .null)

/-- A certificate or a signing key that is not empty. -/
def Carried (settings : String → String) (files : Files) (path : FilePath) : Prop :=
  IsSensitive settings path ∧ ∃ raw, files.get? path = some raw ∧ raw ≠ []

theorem mem_sensitiveWrites {clock : Clock} {settings : String → String} {source : Backend}
    {path : FilePath} {raw : Bytes} :
    (path, raw) ∈ sensitiveWrites clock settings source ↔
      IsSensitive settings path ∧ source.files.get? path = some raw ∧ raw ≠ [] := by
  rw [sensitiveWrites, List.mem_append, mem_certWrites, mem_secretWrites, ← or_and_right,
    IsSensitive]

/-- It is restored as it was. -/
theorem get?_sensitiveWrites {clock : Clock} {settings : String → String} {source : Backend}
    {path : FilePath} (h : Carried settings source.files path) (files : Files) :
    (files.write (sensitiveWrites clock settings source)).get? path =
      source.files.get? path := by
  obtain ⟨hsensitive, raw, hraw, hne⟩ := h
  have hmem : (path, raw) ∈ sensitiveWrites clock settings source :=
    mem_sensitiveWrites.mpr ⟨hsensitive, hraw, hne⟩
  rw [hraw]
  refine Dict.get?_write_of_mem files (List.mem_map_of_mem hmem) fun other hother heq => ?_
  have hother := (mem_sensitiveWrites.mp (show (other.1, other.2) ∈ _ from hother)).2.1
  rw [heq, hraw] at hother
  exact (Option.some.inj hother).symm

/-- Every other file is left to the config files. -/
theorem get?_sensitiveWrites_of_not {clock : Clock} {settings : String → String}
    {source : Backend} {path : FilePath} (h : ¬ Carried settings source.files path)
    (files : Files) :
    (files.write (sensitiveWrites clock settings source)).get? path = files.get? path := by
  refine Dict.get?_write_of_not_mem files fun hmem => h ?_
  obtain ⟨⟨place, raw⟩, hentry, rfl⟩ := List.mem_map.mp hmem
  obtain ⟨hsensitive, hraw, hne⟩ := mem_sensitiveWrites.mp hentry
  exact ⟨hsensitive, raw, hraw, hne⟩

end Sensitive

/-! ## The encrypted backup -/

section Encrypted

/-- Every component is as it is in the source. A config file that the source has not is ignored. -/
structure Restores (settings : String → String) (source after : Backend) : Prop where
  files : ∀ name ∈ configFiles, ∀ value, readConfigFile source.files name = some value →
    readConfigFile after.files name = some value
  guestExpiry : after.guestExpiry.Same source.guestExpiry
  firstSeen : after.firstSeen.Same source.firstSeen
  certificates : ∀ key ∈ certPathKeys, ∀ path raw,
    resolveBackendPath (settings key) = some path → source.files.get? path = some raw →
      after.files.get? path = some raw
  signingKey : after.files.get? authSecretPath = source.files.get? authSecretPath

/-- What an encrypted backup does not carry is in the target as it is in the source. -/
structure Restorable (clock : Clock) (settings : String → String) (source target : Backend) :
    Prop where
  nullFile : ∀ name ∈ configFiles, readConfigFile source.files name = some .null →
    ¬ Carried settings source.files name → readConfigFile target.files name = some .null
  emptyFile : ∀ path, IsSensitive settings path → source.files.get? path = some [] →
    target.files.get? path = some []
  noKey : source.files.get? authSecretPath = none → target.files.get? authSecretPath = none
  guestRow : ∀ entry ∈ source.guestExpiry.entries, entry.1 ≠ "" ∧ entry.2.expiryStr ≠ ""
  seenRow : ∀ entry ∈ source.firstSeen.entries, SeenKept clock entry

/-- `json.loads` gives back what `json.dumps` was given, for the values of a backup and of its
restore. -/
structure JsonKept (settings : String → String) (source target : Backend) : Prop where
  inner : BackupRuntime.loads (BackupRuntime.dumps none (innerPayload settings source)) =
    .ok (innerPayload settings source)
  files : ∀ name ∈ configFiles, ∀ value, readConfigFile source.files name = some value →
    BackupRuntime.loads (BackupRuntime.dumps (some 2) value) = .ok value
  merged : ∀ name ∈ configFiles, ∀ value, readConfigFile source.files name = some value →
    BackupRuntime.loads (BackupRuntime.dumps (some 2)
        (mergedFile true target.files name (redact name value))) =
      .ok (mergedFile true target.files name (redact name value))
  empty : ∀ value, BackupRuntime.loads [] ≠ .ok value

variable {clock : Clock} {settings : String → String} {source target : Backend}

omit [PyText] [BackupRuntime] in
theorem not_stops_of_clock (writes : List (FilePath × Bytes)) :
    ¬ Stops { toClock := clock } writes :=
  fun ⟨_, _, h⟩ => h rfl

/-- What the restore of an encrypted backup leaves. -/
theorem applyRestore_encrypted {createdAt passphrase : String} {salt : Bytes} {obj : JsonObject}
    (hpass : passphrase ≠ "") (hjson : JsonKept settings source target)
    (hbuild : buildBackupPayload createdAt salt settings source passphrase = some obj) :
    (applyRestore { toClock := clock } target obj passphrase).1.files =
        (target.files.write (configWrites false target.files
          (collectFiles false source.files))).write (sensitiveWrites clock settings source) ∧
      (applyRestore { toClock := clock } target obj passphrase).1.guestExpiry =
        (importTable (readTracked clock) insertTracked false target.guestExpiry
          (source.guestExpiry.entries.map exportTracked)).1 ∧
      (applyRestore { toClock := clock } target obj passphrase).1.firstSeen =
        (importTable (readSeen clock) insertSeen false target.firstSeen
          (source.firstSeen.entries.map exportSeen)).1 := by
  have hguests : ¬ GuestsFail { toClock := clock } (collectExtras true settings source) :=
    not_importFails_encode (readTracked_export clock) _
  have hseen : ¬ SeenFails { toClock := clock } (collectExtras true settings source) :=
    not_importFails_encode (readSeen_export clock) _
  obtain ⟨hfiles, hguest, hseen⟩ := applyRestore_of_ok
    (openBackup_encrypted hpass hjson.inner hbuild) (unknownFiles_collectFiles false source.files)
    (not_stops_of_clock _) hguests hseen (not_certsFail settings source.files)
  rw [entries_toDict (collectFiles_nodup false source.files)] at hfiles
  exact ⟨hfiles, hguest, hseen⟩

omit [Sqlite] [PyText] in
theorem fileEntry_false {files : Files} {name : String} {value : Json}
    (hread : readConfigFile files name = some value) (hnull : value.isNull = false) :
    fileEntry false files name = some (name, value) := by
  rw [fileEntry, hread, Option.bind_some, if_neg (by simp [hnull])]
  rfl

omit [Sqlite] [PyText] in
theorem fileEntry_eq_none {redacted : Bool} {files : Files} {name : String}
    (h : ∀ value, readConfigFile files name = some value → value.isNull = true) :
    fileEntry redacted files name = none := by
  rw [fileEntry]
  cases hread : readConfigFile files name with
  | none => rfl
  | some value => rw [Option.bind_some, if_pos (h value hread)]

/-- What the files of such a restore hold. -/
def EncryptedFiles (settings : String → String) (source target after : Files) : Prop :=
  (∀ path, Carried settings source path → after.get? path = source.get? path) ∧
    ∀ path, ¬ Carried settings source path → after.get? path =
      if path ∈ configFiles then (fileContent false source target path).or (target.get? path)
      else target.get? path

omit [PyText] in
theorem encryptedFiles (clock : Clock) :
    EncryptedFiles settings source.files target.files
      ((target.files.write (configWrites false target.files
        (collectFiles false source.files))).write (sensitiveWrites clock settings source)) :=
  ⟨fun _ h => get?_sensitiveWrites h _, fun path h => by
    rw [get?_sensitiveWrites_of_not h, get?_configWrites]⟩

omit [Sqlite] [PyText] in
/-- A file that is in no part of the backup is the target's. -/
theorem EncryptedFiles.untouched {source target after : Files} {path : FilePath}
    (h : EncryptedFiles settings source target after) (hcarried : ¬ Carried settings source path)
    (hnone : ∀ value, readConfigFile source path = some value → value.isNull = true) :
    after.get? path = target.get? path := by
  rw [h.2 path hcarried, fileContent, fileEntry_eq_none hnone]
  split <;> rfl

omit [Sqlite] [PyText] in
theorem readConfigFile_congr {files other : Files} {name : String}
    (h : files.get? name = other.get? name) :
    readConfigFile files name = readConfigFile other name := by
  rw [readConfigFile, h, readConfigFile]

omit [Sqlite] [PyText] in
/-- A config file is restored exactly where it is carried, or is not `null`, or the target's is
`null` too. -/
theorem EncryptedFiles.config_iff {source target after : Files} {name : String} {value : Json}
    (h : EncryptedFiles settings source target after) (hname : name ∈ configFiles)
    (hread : readConfigFile source name = some value)
    (hback : BackupRuntime.loads (BackupRuntime.dumps (some 2) value) = .ok value) :
    readConfigFile after name = some value ↔
      (value = .null → ¬ Carried settings source name →
        readConfigFile target name = some .null) := by
  by_cases hcarried : Carried settings source name
  · rw [readConfigFile_congr (h.1 name hcarried)]
    exact iff_of_true hread fun _ hno => absurd hcarried hno
  cases hnull : value.isNull with
  | false =>
      have hcontent : after.get? name = some (BackupRuntime.dumps (some 2) value) := by
        rw [h.2 name hcarried, if_pos hname, fileContent, fileEntry_false hread hnull]
        rfl
      refine iff_of_true ?_ fun heq => by simp [heq, Json.isNull] at hnull
      rw [readConfigFile, hcontent, Option.bind_some, hback]
      rfl
  | true =>
      have hvalue : value = .null := by
        cases value <;> first | rfl | cases hnull
      subst hvalue
      have hsame := h.untouched hcarried fun other hother => by
        cases hread.symm.trans hother
        rfl
      rw [readConfigFile_congr hsame]
      exact ⟨fun hafter _ _ => hafter, fun hafter => hafter rfl hcarried⟩

omit [Sqlite] [PyText] in
/-- A file that is empty or missing is restored exactly where it is so in the target. -/
theorem EncryptedFiles.unread {source target after : Files} {path : FilePath}
    (h : EncryptedFiles settings source target after)
    (hempty : ∀ value, BackupRuntime.loads [] ≠ .ok value)
    (hget : source.get? path = none ∨ source.get? path = some []) :
    after.get? path = target.get? path := by
  refine h.untouched (fun ⟨_, raw, hraw, hne⟩ => ?_) fun value hread => ?_
  · rcases hget with hget | hget <;> cases hget.symm.trans hraw
    exact hne rfl
  · exfalso
    rcases hget with hget | hget
    · rw [readConfigFile, hget] at hread
      cases hread
    · rw [readConfigFile, hget, Option.bind_some] at hread
      cases hloads : BackupRuntime.loads [] with
      | error raised =>
          rw [hloads] at hread
          cases hread
      | ok read => exact hempty read hloads

/-- An encrypted backup makes the components equal exactly where what it does not carry is. -/
theorem restores_iff {createdAt passphrase : String} {salt : Bytes} {obj : JsonObject}
    (hnormal : ∀ mac, FirstSeenStore.macKey (FirstSeenStore.macKey mac) =
      FirstSeenStore.macKey mac)
    (hpass : passphrase ≠ "") (hjson : JsonKept settings source target)
    (hbuild : buildBackupPayload createdAt salt settings source passphrase = some obj) :
    Restores settings source (applyRestore { toClock := clock } target obj passphrase).1 ↔
      Restorable clock settings source target := by
  obtain ⟨hfiles, hguests, hseen⟩ := @applyRestore_encrypted _ _ _ clock settings source target
    createdAt passphrase salt obj hpass hjson hbuild
  have hafter := @encryptedFiles _ _ settings source target clock
  rw [← hfiles] at hafter
  constructor
  · intro h
    refine ⟨fun name hname hread => ?_, fun path hpath hempty => ?_, fun hnone => ?_, ?_, ?_⟩
    · exact (hafter.config_iff hname hread (hjson.files name hname _ hread)).mp
        (h.files name hname _ hread) rfl
    · rw [← hafter.unread hjson.empty (.inr hempty)]
      rcases hpath with ⟨key, hkey, hresolve⟩ | rfl
      · exact h.certificates key hkey path [] hresolve hempty
      · exact h.signingKey.trans hempty
    · rw [← hafter.unread hjson.empty (.inl hnone)]
      exact h.signingKey.trans hnone
    · have hsame := h.guestExpiry
      rw [hguests] at hsame
      exact (importTracked_export_iff clock _ _).mp hsame
    · have hsame := h.firstSeen
      rw [hseen] at hsame
      exact (importSeen_export_iff hnormal clock _ _).mp hsame
  · intro h
    have hsensitive : ∀ path, IsSensitive settings path → ∀ raw,
        source.files.get? path = some raw →
          (applyRestore { toClock := clock } target obj passphrase).1.files.get? path =
            some raw := by
      intro path hpath raw hraw
      by_cases hempty : raw = []
      · subst hempty
        rw [hafter.unread hjson.empty (.inr hraw)]
        exact h.emptyFile path hpath hraw
      · rw [hafter.1 path ⟨hpath, raw, hraw, hempty⟩, hraw]
    refine ⟨fun name hname value hread => ?_, ?_, ?_, fun key hkey path raw hresolve hraw => ?_, ?_⟩
    · refine (hafter.config_iff hname hread (hjson.files name hname _ hread)).mpr ?_
      rintro rfl hcarried
      exact h.nullFile name hname hread hcarried
    · rw [hguests]
      exact (importTracked_export_iff clock _ _).mpr h.guestRow
    · rw [hseen]
      exact (importSeen_export_iff hnormal clock _ _).mpr h.seenRow
    · exact hsensitive path (.inl ⟨key, hkey, hresolve⟩) raw hraw
    · cases hkey : source.files.get? authSecretPath with
      | none => rw [hafter.unread hjson.empty (.inl hkey), h.noKey hkey]
      | some raw => exact hsensitive authSecretPath (.inr rfl) raw hkey

end Encrypted

/-! ## The plain backup -/

section Plain

/-- A field of a config file that is a dictionary. -/
def fieldOf (field : String) : Json → Option Json
  | .obj fields => fields.lookup field
  | _ => none

/-- A secret of a config file. -/
def secretOf (files : Files) (name field : String) : Option Json :=
  (readConfigFile files name).bind (fieldOf field)

/-- A restore does not store the text that stands for a secret, and keeps the secret there was. -/
def KeepsSecret (target after : Files) (name field : String) : Prop :=
  (∀ value, secretOf after name field = some value → isRedacted value = false) ∧
    ∀ value, secretOf target name field = some value → value.truthy = true →
      secretOf after name field = some value

/-- A backup has the file. -/
def InBackup (files : Files) (name : String) : Prop :=
  ∃ value, readConfigFile files name = some value ∧ value.isNull = false

/-- The target has a secret where the backup has one, and has none where the backup has the file
without it. -/
structure SecretSafe (source target : Files) (name field : String) : Prop where
  present : ∀ value, secretOf source name field = some value → value.truthy = true →
    ∃ kept, secretOf target name field = some kept ∧ isRedacted kept = false
  untouched : ¬ InBackup source name → ∀ kept, secretOf target name field = some kept →
    isRedacted kept = false
  absent : InBackup source name →
    (∀ value, secretOf source name field = some value → value.truthy = false) →
      ∀ kept, secretOf target name field = some kept → kept.truthy = false

omit [Sqlite] [PyText] [BackupRuntime] in
theorem lookup_map_values (fields : JsonObject) (change : String → Json → Json) (key : String) :
    (fields.map fun entry => (entry.1, change entry.1 entry.2)).lookup key =
      (fields.lookup key).map (change key) := by
  induction fields with
  | nil => rfl
  | cons entry rest ih =>
      rw [List.map_cons, List.lookup_cons, List.lookup_cons, ih]
      by_cases h : key = entry.1
      · subst h
        simp
      · have hb : (key == entry.1) = false := by simpa using h
        rw [hb]

omit [Sqlite] [PyText] [BackupRuntime] in
/-- A secret of the file that is there takes the place of a redacted one. -/
theorem fieldOf_merge (existing : Json) (incoming : JsonObject) (field : String) :
    fieldOf field (mergeWithoutRedacted existing (.obj incoming)) =
      (incoming.lookup field).map fun value =>
        if isRedacted value then (fieldOf field existing).getD value else value := by
  cases existing with
  | obj old => exact lookup_map_values incoming (fun key value =>
      if isRedacted value then (old.lookup key).getD value else value) field
  | _ =>
      show incoming.lookup field = _
      cases incoming.lookup field <;> simp [fieldOf]

omit [Sqlite] [PyText] in
theorem fieldOf_existing (files : Files) (name field : String) :
    fieldOf field (((readConfigFile files name).getD .null).or (.obj [])) =
      secretOf files name field := by
  unfold secretOf
  cases readConfigFile files name with
  | none => rfl
  | some value =>
      rw [Option.getD_some, Option.bind_some, Json.or]
      split
      · rfl
      · next hfalsy =>
          cases value with
          | obj fields =>
              cases fields with
              | nil => rfl
              | cons entry rest => exact absurd rfl hfalsy
          | _ => rfl

omit [Sqlite] [PyText] [BackupRuntime] in
theorem isRedacted_of_falsy {value : Json} (h : value.truthy = false) :
    isRedacted value = false := by
  cases value with
  | str text =>
      refine decide_eq_false fun heq => ?_
      subst heq
      cases h
  | _ => rfl

omit [Sqlite] [PyText] in
/-- What a plain backup puts in the place of a secret. -/
theorem fieldOf_mergedFile {target : Files} {name field : String}
    (hfield : field ∈ sensitiveFields name) (value : Json) :
    fieldOf field (mergedFile true target name (redact name value)) =
      (fieldOf field value).map fun secret =>
        if secret.truthy then (secretOf target name field).getD (.str redactedText)
        else secret := by
  rw [mergedFile, if_pos rfl]
  cases value with
  | obj fields =>
      have hredact : redact name (.obj fields) = .obj (fields.map fun entry => (entry.1,
        if entry.1 ∈ sensitiveFields name ∧ entry.2.truthy then .str redactedText
        else entry.2)) := rfl
      rw [hredact, fieldOf_merge, fieldOf_existing,
        lookup_map_values fields fun key value =>
          if key ∈ sensitiveFields name ∧ value.truthy then .str redactedText else value]
      show _ = (fields.lookup field).map _
      cases fields.lookup field with
      | none => rfl
      | some secret =>
          cases htruthy : secret.truthy with
          | true => simp [hfield, htruthy, isRedacted]
          | false => simp [htruthy, isRedacted_of_falsy htruthy]
  | _ =>
      show fieldOf field (mergeWithoutRedacted _ _) = none
      cases ((readConfigFile target name).getD .null).or (.obj []) <;> rfl

variable {clock : Clock} {settings : String → String} {source target : Backend}

/-- What the restore of a plain backup leaves. -/
theorem applyRestore_plain {createdAt passphrase : String} {salt : Bytes} {obj : JsonObject}
    (hbuild : buildBackupPayload createdAt salt settings source "" = some obj) :
    (applyRestore { toClock := clock } target obj passphrase).1.files =
      target.files.write (configWrites true target.files (collectFiles true source.files)) := by
  have hguests : ¬ GuestsFail { toClock := clock } (collectExtras false settings source) :=
    not_importFails_encode (readTracked_export clock) _
  have hseen : ¬ SeenFails { toClock := clock } (collectExtras false settings source) :=
    not_importFails_encode (readSeen_export clock) _
  obtain ⟨other, hother, hopen⟩ := openBackup_plain createdAt passphrase salt settings source
  cases hbuild.symm.trans hother
  obtain ⟨hfiles, -, -⟩ := applyRestore_of_ok hopen (unknownFiles_collectFiles true source.files)
    (not_stops_of_clock _) hguests hseen id
  rw [entries_toDict (collectFiles_nodup true source.files)] at hfiles
  exact hfiles

omit [PyText] in
/-- The secret after the restore of a plain backup. -/
theorem secretOf_plain (hjson : JsonKept settings source target) {name field : String}
    (hname : name ∈ configFiles) (hfield : field ∈ sensitiveFields name) {after : Files}
    (hafter : after = target.files.write
      (configWrites true target.files (collectFiles true source.files))) :
    (InBackup source.files name → secretOf after name field =
      (secretOf source.files name field).map fun secret =>
        if secret.truthy then (secretOf target.files name field).getD (.str redactedText)
        else secret) ∧
    (¬ InBackup source.files name →
      secretOf after name field = secretOf target.files name field) := by
  have hget : after.get? name =
      (fileContent true source.files target.files name).or (target.files.get? name) := by
    rw [hafter, get?_configWrites, if_pos hname]
  constructor
  · rintro ⟨value, hread, hnull⟩
    have hentry : fileEntry true source.files name = some (name, redact name value) := by
      rw [fileEntry, hread, Option.bind_some, if_neg (by simp [hnull])]
      rfl
    rw [fileContent, hentry, Option.map_some, Option.some_or] at hget
    have hwritten : readConfigFile after name =
        some (mergedFile true target.files name (redact name value)) := by
      rw [readConfigFile, hget, Option.bind_some, hjson.merged name hname value hread]
      rfl
    have hsource : secretOf source.files name field = fieldOf field value := by
      rw [secretOf, hread, Option.bind_some]
    have hsecret : secretOf after name field =
        fieldOf field (mergedFile true target.files name (redact name value)) := by
      rw [secretOf, hwritten, Option.bind_some]
    rw [hsecret, hsource, fieldOf_mergedFile hfield]
  · intro hmissing
    have hnone : fileEntry true source.files name = none := fileEntry_eq_none fun value hread =>
      Bool.eq_true_of_not_eq_false fun hnull => hmissing ⟨value, hread, hnull⟩
    rw [fileContent, hnone, Option.map_none, Option.none_or] at hget
    exact congrArg (fun read => read.bind (fieldOf field)) (readConfigFile_congr hget)

omit [PyText] in
/-- A plain backup keeps a secret exactly where both states have one, or neither has. -/
theorem keepsSecret_iff (hjson : JsonKept settings source target) {name field : String}
    (hname : name ∈ configFiles) (hfield : field ∈ sensitiveFields name) {after : Files}
    (hafter : after = target.files.write
      (configWrites true target.files (collectFiles true source.files))) :
    KeepsSecret target.files after name field ↔
      SecretSafe source.files target.files name field := by
  obtain ⟨hin, hout⟩ := secretOf_plain hjson hname hfield hafter
  have hbackup : ∀ value, secretOf source.files name field = some value →
      InBackup source.files name := by
    intro value hvalue
    obtain ⟨read, hread, hsecret⟩ := Option.bind_eq_some_iff.mp hvalue
    refine ⟨read, hread, ?_⟩
    cases read with
    | null => cases hsecret
    | _ => rfl
  unfold KeepsSecret
  by_cases hmem : InBackup source.files name
  · rw [hin hmem]
    cases hsource : secretOf source.files name field with
    | none =>
        constructor
        · rintro ⟨-, hkept⟩
          refine ⟨fun _ h => (by cases hsource.symm.trans h), fun h => absurd hmem h,
            fun _ _ kept htarget => Bool.eq_false_of_not_eq_true fun htruthy => ?_⟩
          cases hkept kept htarget htruthy
        · intro h
          refine ⟨fun _ h => (by cases h), fun kept htarget htruthy => ?_⟩
          have hfalsy := h.absent hmem (fun _ h => (by cases hsource.symm.trans h)) kept htarget
          rw [htruthy] at hfalsy
          cases hfalsy
    | some secret =>
        rw [Option.map_some]
        cases htruthy : secret.truthy with
        | true =>
            rw [if_pos rfl]
            constructor
            · rintro ⟨hsafe, -⟩
              refine ⟨fun _ _ _ => ?_, fun h => absurd hmem h, fun _ h => ?_⟩
              · cases htarget : secretOf target.files name field with
                | none =>
                    rw [htarget] at hsafe
                    cases hsafe _ rfl
                | some kept =>
                    rw [htarget] at hsafe
                    exact ⟨kept, rfl, hsafe kept rfl⟩
              · cases htruthy.symm.trans (h secret hsource)
            · intro h
              obtain ⟨kept, htarget, hsafe⟩ := h.present secret hsource htruthy
              rw [htarget, Option.getD_some]
              refine ⟨fun value hvalue => ?_, fun value hvalue _ => hvalue⟩
              cases hvalue
              exact hsafe
        | false =>
            rw [if_neg Bool.false_ne_true]
            constructor
            · rintro ⟨-, hkept⟩
              refine ⟨fun value hvalue hyes => ?_, fun h => absurd hmem h,
                fun _ _ kept htarget => Bool.eq_false_of_not_eq_true fun hyes => ?_⟩
              · cases hsource.symm.trans hvalue
                cases htruthy.symm.trans hyes
              · cases hkept kept htarget hyes
                cases htruthy.symm.trans hyes
            · intro h
              refine ⟨fun value hvalue => ?_, fun kept htarget hyes => ?_⟩
              · cases hvalue
                exact isRedacted_of_falsy htruthy
              · have hfalsy := h.absent hmem (fun value hvalue => by
                  cases hsource.symm.trans hvalue
                  exact htruthy) kept htarget
                cases hfalsy.symm.trans hyes
  · rw [hout hmem]
    constructor
    · rintro ⟨hsafe, -⟩
      exact ⟨fun value hvalue => absurd (hbackup value hvalue) hmem, fun _ => hsafe,
        fun h => absurd h hmem⟩
    · intro h
      exact ⟨h.untouched hmem, fun value hvalue _ => hvalue⟩

end Plain

/-! ## Both -/

/-- The encrypted backup of one state, restored onto another with its passphrase, makes every
component equal exactly where what it does not carry is. Its plain backup leaves no redacted text in
a secret and keeps each secret there was exactly where both have it, or neither. -/
theorem backup_restored_iff
    (hnormal : ∀ mac, FirstSeenStore.macKey (FirstSeenStore.macKey mac) =
      FirstSeenStore.macKey mac)
    (clock : Clock) (createdAt passphrase : String) (salt : Bytes) (settings : String → String)
    (source target : Backend) (hpass : passphrase ≠ "")
    (hjson : JsonKept settings source target) :
    ((∃ obj, buildBackupPayload createdAt salt settings source passphrase = some obj ∧
        Restores settings source (applyRestore { toClock := clock } target obj passphrase).1) ∧
      ∃ obj, buildBackupPayload createdAt salt settings source "" = some obj ∧
        ∀ name ∈ configFiles, ∀ field ∈ sensitiveFields name, KeepsSecret target.files
          (applyRestore { toClock := clock } target obj passphrase).1.files name field) ↔
    Restorable clock settings source target ∧
      ∀ name ∈ configFiles, ∀ field ∈ sensitiveFields name,
        SecretSafe source.files target.files name field := by
  have hencrypted : ∃ obj,
      buildBackupPayload createdAt salt settings source passphrase = some obj := by
    obtain ⟨key, hkey⟩ := Option.isSome_iff_exists.mp
      (BackupRuntime.deriveKey_isSome passphrase salt)
    rw [buildBackupPayload, if_pos hpass, encryptObj, hkey]
    exact ⟨_, rfl⟩
  obtain ⟨encrypted, hencrypted⟩ := hencrypted
  obtain ⟨plain, hplain, -⟩ := openBackup_plain createdAt passphrase salt settings source
  refine and_congr ?_ ?_
  · rw [← @restores_iff _ _ _ clock settings source target createdAt passphrase salt encrypted
      hnormal hpass hjson hencrypted]
    constructor
    · rintro ⟨obj, hobj, h⟩
      cases hencrypted.symm.trans hobj
      exact h
    · exact fun h => ⟨encrypted, hencrypted, h⟩
  · have hsafe : ∀ name ∈ configFiles, ∀ field ∈ sensitiveFields name, (KeepsSecret target.files
        (applyRestore { toClock := clock } target plain passphrase).1.files name field ↔
          SecretSafe source.files target.files name field) :=
      fun name hname field hfield => keepsSecret_iff hjson hname hfield (applyRestore_plain hplain)
    constructor
    · rintro ⟨obj, hobj, h⟩ name hname field hfield
      cases hplain.symm.trans hobj
      exact (hsafe name hname field hfield).mp (h name hname field hfield)
    · exact fun h => ⟨plain, hplain, fun name hname field hfield =>
        (hsafe name hname field hfield).mpr (h name hname field hfield)⟩

end General

/-! ## A backend with a signing key -/

section SigningKey

theorem toUpper_toUpper (c : Char) : c.toUpper.toUpper = c.toUpper := by
  by_cases h : c.toNat < 128
  · have hall : ∀ n < 128, (Char.ofNat n).toUpper.toUpper = (Char.ofNat n).toUpper := by decide
    have hascii := hall c.toNat h
    rwa [Char.ofNat_toNat] at hascii
  · have hsame : c.toUpper = c := by
      unfold Char.toUpper
      rw [dif_neg]
      rintro ⟨-, hle⟩
      have hsmall : c.toNat ≤ 122 := hle
      omega
    rw [hsame, hsame]

theorem macKey_macKey_ascii (mac : String) :
    @FirstSeenStore.macKey asciiText (@FirstSeenStore.macKey asciiText mac) =
      @FirstSeenStore.macKey asciiText mac := by
  have hupper : asciiText.upper (@FirstSeenStore.macKey asciiText mac) =
      @FirstSeenStore.macKey asciiText mac := by
    have hinfix := @LawfulText.strip_infix asciiText lawful_ascii (asciiText.upper mac)
    have hsame : ∀ c ∈ (@FirstSeenStore.macKey asciiText mac).toList, c.toUpper = c := by
      intro c hc
      have hmem := hinfix.subset hc
      rw [show (asciiText.upper mac).toList = mac.toList.map Char.toUpper from
        String.toList_ofList] at hmem
      obtain ⟨source, -, rfl⟩ := List.mem_map.mp hmem
      exact toUpper_toUpper source
    show String.ofList ((@FirstSeenStore.macKey asciiText mac).toList.map Char.toUpper) = _
    rw [List.map_congr_left hsame, List.map_id', String.ofList_toList]
  show asciiText.strip (asciiText.upper (@FirstSeenStore.macKey asciiText mac)) = _
  rw [hupper]
  exact @LawfulStrip.strip_strip asciiText lawfulStrip_ascii _

theorem loads_textRuntime (text : String) (value : Json) (rest : List (String × Json))
    (written : String) :
    (textRuntime ((text, value) :: rest) written).loads (utf8 text.toList) = .ok value := by
  have hfound : ((text, value) :: rest).find?
      (fun entry => utf8 entry.1.toList = utf8 text.toList) = some (text, value) :=
    List.find?_cons_of_pos (decide_eq_true rfl)
  show (List.find? _ _).elim _ _ = _
  rw [hfound]
  rfl

/-- What its encrypted backup holds. -/
def keyPayload : Json :=
  .obj [("files", .obj []), ("extras", .obj [("guest_expiry", .arr []), ("first_seen", .arr []),
    ("certs", .obj []), ("auth_secret", .str "Bw==")])]

/-- Its text -/
def keyText : String := "\x7b\"files\": \x7b\x7d, \"extras\": \x7b\"guest_expiry\": [], " ++
  "\"first_seen\": [], \"certs\": \x7b\x7d, \"auth_secret\": \"Bw==\"\x7d\x7d"

local instance keySqlite : Sqlite := plainSqlite

local instance keyMacs : PyText := asciiText

local instance keyRuntime : BackupRuntime := textRuntime [(keyText, keyPayload)] keyText

/-- A moment -/
def epoch : Clock := { now := 0, nowText := "", now_stored := rfl }

/-- The signing key -/
def keyBackend : Backend where
  files := Dict.empty.set authSecretPath [7]

/-- It has no config file. -/
theorem readConfigFile_key {name : String} (h : name ∈ configFiles) :
    readConfigFile keyBackend.files name = none := by
  have hne : name ≠ authSecretPath := by
    rintro rfl
    revert h
    decide
  have hget : keyBackend.files.get? name = none := Dict.get?_set_ne Dict.empty [7] hne
  rw [readConfigFile, hget]
  rfl

theorem jsonKept_key : JsonKept (fun _ => "") keyBackend {} where
  inner := by
    have hinner : innerPayload (fun _ => "") keyBackend = keyPayload := rfl
    rw [hinner]
    exact loads_textRuntime keyText keyPayload [] keyText
  files name hname value hread := by
    cases (readConfigFile_key hname).symm.trans hread
  merged name hname value hread := by
    cases (readConfigFile_key hname).symm.trans hread
  empty value h := by cases h

/-- The signing key comes back, and there is no secret to lose. -/
theorem backup_restored_key :
    (∃ obj, buildBackupPayload "2026-01-01" [] (fun _ => "") keyBackend "pw" = some obj ∧
        Restores (fun _ => "") keyBackend (applyRestore { toClock := epoch } {} obj "pw").1) ∧
      ∃ obj, buildBackupPayload "2026-01-01" [] (fun _ => "") keyBackend "" = some obj ∧
        ∀ name ∈ configFiles, ∀ field ∈ sensitiveFields name, KeepsSecret Dict.empty
          (applyRestore { toClock := epoch } {} obj "pw").1.files name field := by
  refine (backup_restored_iff macKey_macKey_ascii epoch "2026-01-01" "pw" [] (fun _ => "")
    keyBackend {} (by decide) jsonKept_key).mpr
      ⟨⟨fun name hname hread => ?_, fun path _ hempty => ?_, fun hnone => ?_,
        fun entry hentry => ?_, fun entry hentry => ?_⟩, fun name hname field _ =>
          ⟨fun value hvalue => ?_, fun _ kept hkept => ?_, fun _ _ kept hkept => ?_⟩⟩
  · cases (readConfigFile_key hname).symm.trans hread
  · by_cases hpath : path = authSecretPath
    · subst hpath
      cases hempty
    · have hget : keyBackend.files.get? path = none := Dict.get?_set_ne Dict.empty [7] hpath
      cases hget.symm.trans hempty
  · cases hnone
  · cases hentry
  · cases hentry
  · rw [secretOf, readConfigFile_key hname] at hvalue
    cases hvalue
  · cases hkept
  · cases hkept

end SigningKey

/-! ## A target without the secret -/

/-- The config file of a backend with a password -/
def passwordText : String := "\x7b\"ise_password\": \"s\"\x7d"

/-- What a restore of its plain backup writes -/
def redactedFile : String := "\x7b\n  \"ise_password\": \"__REDACTED__\"\n\x7d"

/-- The values of both -/
@[reducible] def passwordRuntime : BackupRuntime :=
  textRuntime [(passwordText, .obj [("ise_password", .str "s")]),
    (redactedFile, .obj [("ise_password", .str redactedText)])] redactedFile

/-- The plain backup of a backend with a password, restored onto one without config files, stores
the text that stands for it. -/
theorem plain_restore_stores_redacted :
    ¬ ∀ (_ : Sqlite) (_ : PyText) (_ : BackupRuntime) (clock : Clock)
      (createdAt passphrase : String) (salt : Bytes) (settings : String → String)
      (source target : Backend) (obj : JsonObject),
      buildBackupPayload createdAt salt settings source "" = some obj →
        ∀ name ∈ configFiles, ∀ field ∈ sensitiveFields name, KeepsSecret target.files
          (applyRestore { toClock := clock } target obj passphrase).1.files name field := by
  intro h
  let sqlite := plainSqlite
  have hkeeps := h sqlite asciiText passwordRuntime
    { now := 0, nowText := "", now_stored := rfl } "2026-01-01" "" [] (fun _ => "")
    { files := Dict.empty.set "config.json" (utf8 passwordText.toList) } {} _ rfl
    "config.json" (by decide) "ise_password" (by decide)
  cases hkeeps.1 (.str redactedText) rfl

end IsePortal.ConfigBackup
