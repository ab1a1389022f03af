import IsePortal.Backup.Restore

/-!
# A restore that raises

The steps of a restore are not undone when a later one raises: a file that cannot be written, a row
that is no dictionary, a certificate whose path is no text. What each step leaves is stated on the
backup and the state before, and `failed_restore_iff` says when a restore that raises has changed
nothing.
-/

namespace IsePortal.ConfigBackup

open Library

variable [Sqlite]

/-- The two states hold the same files and rows. -/
structure Backend.Same (backend other : Backend) : Prop where
  files : backend.files.Same other.files
  guestExpiry : backend.guestExpiry.Same other.guestExpiry
  firstSeen : backend.firstSeen.Same other.firstSeen

/-- The last bytes written to a file are those it has. -/
def Unchanged (files : Files) (writes : List (FilePath × Bytes)) : Prop :=
  ∀ path raw, writes.reverse.lookup path = some raw → files.get? path = some raw

/-- What a write that may fail leaves in the file. -/
def effect (call : Call) (path : FilePath) (raw : Bytes) : List (FilePath × Bytes) :=
  match call.writeFails path raw with
  | none => [(path, raw)]
  | some left => (left.map (path, ·)).toList

theorem writeFile_fst (call : Call) (files : Files) (path : FilePath) (raw : Bytes) :
    (writeFile call files path raw).1 = files.write (effect call path raw) := by
  unfold writeFile effect
  cases call.writeFails path raw with
  | none => rfl
  | some left => cases left <;> rfl

/-! ## Config files -/

/-- A write fails. -/
def Stops (call : Call) (writes : List (FilePath × Bytes)) : Prop :=
  ∃ entry ∈ writes, call.writeFails entry.1 entry.2 ≠ none

/-- What is written up to the first write that fails. -/
def attempted (call : Call) : List (FilePath × Bytes) → List (FilePath × Bytes)
  | [] => []
  | (path, raw) :: rest =>
      effect call path raw ++
        if call.writeFails path raw = none then attempted call rest else []

theorem attempted_of_not_stops {call : Call} {writes : List (FilePath × Bytes)}
    (h : ¬ Stops call writes) : attempted call writes = writes := by
  induction writes with
  | nil => rfl
  | cons entry rest ih =>
      have hfirst : call.writeFails entry.1 entry.2 = none := not_not.mp fun hfails =>
        h ⟨entry, List.mem_cons_self, hfails⟩
      have hrest : ¬ Stops call rest := fun ⟨other, hother, hfails⟩ =>
        h ⟨other, List.mem_cons_of_mem entry hother, hfails⟩
      rw [attempted, if_pos hfirst, ih hrest, effect, hfirst]
      rfl

theorem stops_cons_of_none {call : Call} {path : FilePath} {raw : Bytes}
    {rest : List (FilePath × Bytes)} (h : call.writeFails path raw = none) :
    Stops call ((path, raw) :: rest) ↔ Stops call rest := by
  simp [Stops, h]

section Files

variable [BackupRuntime]

/-- What a restore writes to the config files. -/
def configWrites (redacted : Bool) (files : Files) (incoming : List (String × Json)) :
    List (FilePath × Bytes) :=
  incoming.filterMap fun entry =>
    if entry.2.isNull then none
    else some (entry.1, BackupRuntime.dumps (some 2) (mergedFile redacted files entry.1 entry.2))

omit [Sqlite] in
/-- A file that is written does not change what is written to the others. -/
theorem configWrites_set {redacted : Bool} {files : Files} {name : String} {raw : Bytes}
    {incoming : List (String × Json)} (h : name ∉ incoming.map Prod.fst) :
    configWrites redacted (files.set name raw) incoming =
      configWrites redacted files incoming := by
  refine List.filterMap_congr fun entry hentry => ?_
  have hne : entry.1 ≠ name := fun heq => h (heq ▸ List.mem_map_of_mem hentry)
  have hread : readConfigFile (files.set name raw) entry.1 = readConfigFile files entry.1 := by
    rw [readConfigFile, Dict.get?_set_ne files raw hne, readConfigFile]
  simp only [mergedFile, hread]

/-- The config files are written in order, up to the first write that fails. -/
theorem applyEach_spec (call : Call) (redacted : Bool) {incoming : List (String × Json)}
    (hnodup : (incoming.map Prod.fst).Nodup) (files : Files) :
    (applyEach call redacted files incoming).1 =
        files.write (attempted call (configWrites redacted files incoming)) ∧
      ((∃ error, (applyEach call redacted files incoming).2 = .error error) ↔
        Stops call (configWrites redacted files incoming)) := by
  induction incoming generalizing files with
  | nil => exact ⟨rfl, iff_of_false (fun ⟨_, h⟩ => by cases h) fun ⟨_, h, _⟩ => by cases h⟩
  | cons entry rest ih =>
      obtain ⟨name, value⟩ := entry
      obtain ⟨hname, hrest⟩ := List.nodup_cons.mp hnodup
      rw [applyEach]
      cases hnull : value.isNull with
      | true =>
          have hwrites : configWrites redacted files ((name, value) :: rest) =
              configWrites redacted files rest := by
            simp [configWrites, hnull]
          rw [if_pos rfl, hwrites]
          exact ih hrest files
      | false =>
          have hwrites : configWrites redacted files ((name, value) :: rest) =
              (name, BackupRuntime.dumps (some 2) (mergedFile redacted files name value)) ::
                configWrites redacted files rest := by
            simp [configWrites, hnull]
          rw [if_neg Bool.false_ne_true, hwrites]
          generalize BackupRuntime.dumps (some 2) (mergedFile redacted files name value) = raw
          cases hfails : call.writeFails name raw with
          | some left =>
              have hfile : writeFile call files name raw =
                  (files.write (effect call name raw), false) := by
                refine Prod.ext (writeFile_fst call files name raw) ?_
                rw [writeFile, hfails]
              simp only [hfile]
              refine ⟨?_, iff_of_true ⟨_, rfl⟩ ⟨_, List.mem_cons_self, ?_⟩⟩
              · rw [attempted, if_neg (by simp [hfails]), List.append_nil]
              · simp [hfails]
          | none =>
              have hfile : writeFile call files name raw = (files.set name raw, true) := by
                rw [writeFile, hfails]
              have hlater := ih hrest (files.set name raw)
              rw [configWrites_set hname] at hlater
              simp only [hfile]
              constructor
              · rw [hlater.1, attempted, if_pos hfails, effect, hfails]
                rfl
              · rw [stops_cons_of_none hfails, ← hlater.2]
                cases (applyEach call redacted (files.set name raw) rest).2 <;> simp [Except.map]

end Files

/-! ## Tables -/

section Tables

variable {α : Type}

/-- The import of a table raises. -/
def TableFails (read : Json → Except Failure (Option (String × α))) (fails : Bool) : Json → Prop
  | .arr rows => ImportFails read fails rows
  | _ => False

/-- The import of a table, where it does not raise, changes no row. -/
def TableKept (read : Json → Except Failure (Option (String × α)))
    (insert : Dict String α → String × α → Dict String α) (table : Dict String α) : Json → Prop
  | .arr rows => ((boundRows read rows).foldl insert Dict.empty).Same table
  | _ => True

variable {read : Json → Except Failure (Option (String × α))}
  {insert : Dict String α → String × α → Dict String α} {fails : Bool} {label : String}
  {table : Dict String α} {value : Json}

omit [Sqlite] in
theorem applyTable_of_fails (h : TableFails read fails value) :
    (applyTable read insert fails label table value).1 = table ∧
      ∃ raised, (applyTable read insert fails label table value).2 = .error raised := by
  cases value with
  | arr rows =>
      obtain ⟨hsame, raised, hraises⟩ := @importTable_of_fails _ _ insert _ table _ h
      refine ⟨hsame, raised, ?_⟩
      show (importTable read insert fails table rows).2.map _ = _
      rw [hraises]
      rfl
  | _ => exact h.elim

omit [Sqlite] in
theorem applyTable_of_ok (h : ¬ TableFails read fails value) :
    ((applyTable read insert fails label table value).1.Same table ↔
        TableKept read insert table value) ∧
      ∃ applied, (applyTable read insert fails label table value).2 = .ok applied := by
  cases value with
  | arr rows =>
      obtain ⟨htable, imported, hends⟩ := @importTable_of_ok _ _ insert _ table _ h
      refine ⟨?_, [label ++ " (" ++ toString imported ++ ")"], ?_⟩
      · show (importTable read insert fails table rows).1.Same table ↔ _
        rw [htable]
        rfl
      · show (importTable read insert fails table rows).2.map _ = _
        rw [hends]
        rfl
  | _ => exact ⟨iff_of_true (Dict.Same.refl table) trivial, [], rfl⟩

end Tables

/-! ## Certificates -/

section Certs

variable [BackupRuntime]

/-- A certificate whose path is no text ends the restore. -/
def CertsFail : Json → Prop
  | .obj certs => ∃ entry ∈ (toDict certs).entries, ¬ Reads readCert entry
  | _ => False

/-- What is written of the certificates up to such a one. -/
def certWrites (call : Call) : Json → List (FilePath × Bytes)
  | .obj certs =>
      (readable readCert ((toDict certs).entries.takeWhile (readsOk readCert))).reduceOption.flatMap
        fun cert => effect call cert.2.1 cert.2.2
  | _ => []

omit [BackupRuntime] in
theorem foldl_writeCert (call : Call) (certs : List (Option (String × FilePath × Bytes)))
    (state : Files × List String) :
    (certs.foldl (writeCert call) state).1 =
      state.1.write (certs.reduceOption.flatMap fun cert => effect call cert.2.1 cert.2.2) := by
  induction certs generalizing state with
  | nil => rfl
  | cons cert rest ih =>
      rw [List.foldl_cons, ih]
      cases cert with
      | none => rfl
      | some cert =>
          show (writeFile call state.1 cert.2.1 cert.2.2).1.write _ =
            state.1.write (effect call cert.2.1 cert.2.2 ++ rest.reduceOption.flatMap _)
          rw [writeFile_fst, Dict.write_append]

theorem applyCerts_spec (call : Call) (files : Files) (applied : List String) (value : Json) :
    (applyCerts call files applied value).1.1 = files.write (certWrites call value) ∧
      ((applyCerts call files applied value).2 ≠ none ↔ CertsFail value) := by
  cases value with
  | obj certs =>
      constructor
      · show (foldUntil readCert (writeCert call) (files, applied) _).1.1 = _
        rw [foldUntil_fst, foldl_writeCert]
        rfl
      · show (foldUntil readCert (writeCert call) (files, applied) _).2 ≠ none ↔ _
        rw [Ne, foldUntil_snd_eq_none_iff, CertsFail]
        simp only [not_forall, exists_prop]
  | _ => exact ⟨rfl, iff_of_false (fun h => h rfl) id⟩

end Certs

/-! ## The restore -/

section Restore

variable [PyText] [BackupRuntime]

/-- The dictionary of extras; other values are ignored. -/
def extrasFields : Json → JsonObject
  | .obj fields => fields
  | _ => []

/-- The import of `guest_expiry`, of `first_seen`, the certificates: each may raise. -/
def GuestsFail (call : Call) (extras : JsonObject) : Prop :=
  TableFails (readTracked call.toClock) call.guestFails (extras.getD "guest_expiry" .null)

def SeenFails (call : Call) (extras : JsonObject) : Prop :=
  TableFails (readSeen call.toClock) call.seenFails (extras.getD "first_seen" .null)

/-- The rows in the backup are those of the table. -/
def GuestsKept (call : Call) (before : Backend) (extras : JsonObject) : Prop :=
  TableKept (readTracked call.toClock) insertTracked before.guestExpiry
    (extras.getD "guest_expiry" .null)

def SeenSame (call : Call) (before : Backend) (extras : JsonObject) : Prop :=
  TableKept (readSeen call.toClock) insertSeen before.firstSeen (extras.getD "first_seen" .null)

/-- Whichever step raises first, what is written before it is there already. -/
structure FailsHarmlessly (call : Call) (before : Backend) (writes : List (FilePath × Bytes))
    (extras : JsonObject) : Prop where
  atFile : Stops call writes → Unchanged before.files (attempted call writes)
  atGuests : ¬ Stops call writes → GuestsFail call extras → Unchanged before.files writes
  atSeen : ¬ Stops call writes → ¬ GuestsFail call extras → SeenFails call extras →
    Unchanged before.files writes ∧ GuestsKept call before extras
  atCerts : ¬ Stops call writes → ¬ GuestsFail call extras → ¬ SeenFails call extras →
    CertsFail (extras.getD "certs" .null) →
      Unchanged before.files (writes ++ certWrites call (extras.getD "certs" .null)) ∧
        GuestsKept call before extras ∧ SeenSame call before extras

/-- What `_apply_extras` leaves where it raises. -/
theorem applyExtras_spec (call : Call) (before : Backend) (files : Files) (extras : Json) :
    (∀ raised, (applyExtras call { before with files } extras).2 = .error raised →
      (applyExtras call { before with files } extras).1.Same before) ↔
    (GuestsFail call (extrasFields extras) → files.Same before.files) ∧
    (¬ GuestsFail call (extrasFields extras) → SeenFails call (extrasFields extras) →
      files.Same before.files ∧ GuestsKept call before (extrasFields extras)) ∧
    (¬ GuestsFail call (extrasFields extras) → ¬ SeenFails call (extrasFields extras) →
      CertsFail ((extrasFields extras).getD "certs" .null) →
        (files.write (certWrites call ((extrasFields extras).getD "certs" .null))).Same
            before.files ∧
          GuestsKept call before (extrasFields extras) ∧
          SeenSame call before (extrasFields extras)) := by
  cases extras with
  | obj fields =>
      simp only [extrasFields]
      by_cases hguests : GuestsFail call fields
      · obtain ⟨hsame, raised, hraises⟩ := @applyTable_of_fails _ _ insertTracked _ "guest_expiry"
          before.guestExpiry _ hguests
        simp only [applyExtras, hraises, hsame, hguests, not_true_eq_false, false_implies,
          and_true, true_implies]
        exact ⟨fun h => (h raised rfl).files,
          fun h _ _ => ⟨h, Dict.Same.refl _, Dict.Same.refl _⟩⟩
      obtain ⟨hguestsKept, guestsApplied, hguestsEnds⟩ := @applyTable_of_ok _ _ insertTracked _
        "guest_expiry" before.guestExpiry _ hguests
      by_cases hseen : SeenFails call fields
      · obtain ⟨hsame, raised, hraises⟩ := @applyTable_of_fails _ _ insertSeen _ "first_seen"
          before.firstSeen _ hseen
        simp only [applyExtras, hguestsEnds, hraises, hsame, hguests, hseen, not_true_eq_false,
          not_false_eq_true, false_implies, true_implies, implies_true, and_true, true_and]
        exact ⟨fun h => ⟨(h raised rfl).files, hguestsKept.mp (h raised rfl).guestExpiry⟩,
          fun h _ _ => ⟨h.1, hguestsKept.mpr h.2, Dict.Same.refl _⟩⟩
      obtain ⟨hseenKept, seenApplied, hseenEnds⟩ := @applyTable_of_ok _ _ insertSeen _
        "first_seen" before.firstSeen _ hseen
      obtain ⟨hfiles, hcerts⟩ := applyCerts_spec call files (guestsApplied ++ seenApplied)
        (JsonObject.getD fields "certs" .null)
      simp only [applyExtras, hguestsEnds, hseenEnds, hguests, hseen, not_false_eq_true,
        false_implies, true_implies, true_and]
      cases hraises : (applyCerts call files (guestsApplied ++ seenApplied)
        (JsonObject.getD fields "certs" .null)).2 with
      | none =>
          have hno : ¬ CertsFail (JsonObject.getD fields "certs" .null) := fun h =>
            hcerts.mpr h hraises
          exact iff_of_true (fun raised h => by cases h) fun h => absurd h hno
      | some raised =>
          have hyes : CertsFail (JsonObject.getD fields "certs" .null) :=
            hcerts.mp (by simp [hraises])
          simp only [hyes, true_implies, hfiles]
          exact ⟨fun h => ⟨(h raised rfl).files, hguestsKept.mp (h raised rfl).guestExpiry,
              hseenKept.mp (h raised rfl).firstSeen⟩,
            fun h _ _ => ⟨h.1, hguestsKept.mpr h.2.1, hseenKept.mpr h.2.2⟩⟩
  | _ =>
      refine iff_of_true (fun raised h => by cases h) ⟨fun h => h.elim, fun _ h => h.elim,
        fun _ _ h => h.elim⟩

omit [Sqlite] [PyText] [BackupRuntime] in
theorem same_write_iff_unchanged {files : Files} {writes : List (FilePath × Bytes)} :
    (files.write writes).Same files ↔ Unchanged files writes :=
  Dict.same_write_iff

/-- What a restore leaves where it raises, once the backup is opened and names config files only. -/
theorem applyRestore_spec {call : Call} {before : Backend} {obj : JsonObject}
    {passphrase : String} {incoming : Dict String Json} {extras : Json} {redacted : Bool}
    (hopen : openBackup obj passphrase = .ok (incoming, extras, redacted))
    (hknown : unknownFiles incoming = []) :
    (∀ error, (applyRestore call before obj passphrase).2 = .error error →
      (applyRestore call before obj passphrase).1.Same before) ↔
    FailsHarmlessly call before (configWrites redacted before.files incoming.entries)
      (extrasFields extras) := by
  obtain ⟨hfiles, hstops⟩ := applyEach_spec call redacted incoming.nodup before.files
  have happly : applyFiles call redacted before.files incoming =
      applyEach call redacted before.files incoming.entries := if_neg (not_not_intro hknown)
  generalize configWrites redacted before.files incoming.entries = writes
    at hfiles hstops ⊢
  simp only [applyRestore, hopen, happly]
  cases hends : (applyEach call redacted before.files incoming.entries).2 with
  | error raised =>
      have hyes : Stops call writes := hstops.mp ⟨raised, hends⟩
      constructor
      · intro h
        have hsame := (h raised rfl).files
        rw [hfiles] at hsame
        exact ⟨fun _ => same_write_iff_unchanged.mp hsame, fun hno => absurd hyes hno,
          fun hno => absurd hyes hno, fun hno => absurd hyes hno⟩
      · intro h error _
        refine ⟨?_, Dict.Same.refl _, Dict.Same.refl _⟩
        rw [hfiles]
        exact same_write_iff_unchanged.mpr (h.atFile hyes)
  | ok restored =>
      have hno : ¬ Stops call writes := fun h => by
        obtain ⟨error, hraises⟩ := hstops.mpr h
        cases hends.symm.trans hraises
      rw [attempted_of_not_stops hno] at hfiles
      have hspec := applyExtras_spec call before (before.files.write writes) extras
      rw [← Dict.write_append, same_write_iff_unchanged, same_write_iff_unchanged] at hspec
      simp only [hfiles]
      constructor
      · intro h
        obtain ⟨hguests, hseen, hcerts⟩ := hspec.mp fun raised hraises =>
          h (.failed raised) (by rw [hraises])
        exact ⟨fun hyes => absurd hyes hno, fun _ => hguests, fun _ => hseen, fun _ => hcerts⟩
      · intro h error hraises
        cases hextras : (applyExtras call { before with files := before.files.write writes }
            extras).2 with
        | error raised =>
            exact hspec.mpr ⟨h.atGuests hno, h.atSeen hno, h.atCerts hno⟩ raised hextras
        | ok applied =>
            rw [hextras] at hraises
            cases hraises

/-- A restore that raises has changed nothing exactly where what it wrote before was there already.
-/
theorem failed_restore_iff (call : Call) (before : Backend) (obj : JsonObject)
    (passphrase : String) :
    (∀ error, (applyRestore call before obj passphrase).2 = .error error →
      (applyRestore call before obj passphrase).1.Same before) ↔
    ∀ incoming extras redacted, openBackup obj passphrase = .ok (incoming, extras, redacted) →
      unknownFiles incoming = [] →
        FailsHarmlessly call before (configWrites redacted before.files incoming.entries)
          (extrasFields extras) := by
  constructor
  · intro h incoming extras redacted hopen hknown
    exact (applyRestore_spec hopen hknown).mp h
  · intro h error hraises
    cases hopen : openBackup obj passphrase with
    | error raised =>
        simp only [applyRestore, hopen]
        exact ⟨Dict.Same.refl _, Dict.Same.refl _, Dict.Same.refl _⟩
    | ok opened =>
        obtain ⟨incoming, extras, redacted⟩ := opened
        by_cases hknown : unknownFiles incoming = []
        · exact (applyRestore_spec hopen hknown).mpr (h incoming extras redacted hopen hknown)
            error hraises
        · simp only [applyRestore, hopen, applyFiles, if_pos hknown]
          exact ⟨Dict.Same.refl _, Dict.Same.refl _, Dict.Same.refl _⟩

end Restore

/-! ## A row that is no dictionary -/

/-- A database that stores texts and numbers as they are. -/
@[reducible] def plainSqlite : Sqlite where
  asText
    | .str text => .ok (some text)
    | .null => .ok none
    | _ => .error .sqlite
  asReal value := .ok value
  asText_str _ := rfl
  asReal_stored _ := rfl

/-- A runtime that reads these texts and writes one of them. -/
@[reducible] def textRuntime (known : List (String × Json)) (written : String) : BackupRuntime where
  resolve rel := some rel
  loads raw :=
    (known.find? fun entry => utf8 entry.1.toList = raw).elim (.error .jsonDecodeError) fun entry =>
      .ok entry.2
  dumps _ _ := utf8 written.toList
  deriveKey _ _ _ := some []
  encrypt _ data := data
  decrypt _ token := some token
  deriveKey_isSome _ _ := rfl
  decrypt_encrypt _ _ := rfl

/-- `{"version": 1, "files": {"users.json": []}, "extras": {"first_seen": ["x"]}}` -/
def stringRow : JsonObject :=
  [("version", .num 1), ("files", .obj [("users.json", .arr [])]),
    ("extras", .obj [("first_seen", .arr [.str "x"])])]

omit [Sqlite] in
/-- The row raises `AttributeError`, and `users.json` is written. -/
theorem failed_restore_changes_users :
    ¬ ∀ (_ : Sqlite) (_ : PyText) (_ : BackupRuntime) (call : Call) (before : Backend)
      (obj : JsonObject) (passphrase : String) (error : RestoreError),
      (applyRestore call before obj passphrase).2 = .error error →
        (applyRestore call before obj passphrase).1.Same before := by
  intro h
  let sqlite := plainSqlite
  have hsame := h sqlite asciiText (textRuntime [("[]", .arr [])] "[]")
    { now := 0, nowText := "", now_stored := rfl } {} stringRow "" _ rfl
  have husers := hsame.files "users.json"
  cases husers

end IsePortal.ConfigBackup
