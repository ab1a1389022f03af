import IsePortal.Guest.ExpiryStore
import IsePortal.Library.Aborting
import IsePortal.Library.Writes
import IsePortal.Platform.Json
import IsePortal.Prewarm.FirstSeenStore

/-!
# The tables of a backup

`export_rows` and `import_rows` of `app/core/guest_expiry_store.py` and
`app/core/first_seen_store.py`. An import replaces the table in one transaction: a row that raises
leaves the table as it was. A table that is exported and imported is the same exactly where each of
its rows is kept (`importTable_export_iff`).
-/

namespace IsePortal

/-- `value is None` -/
def Json.isNull : Json → Bool
  | .null => true
  | _ => false

namespace ConfigBackup

open Library

/-- The exceptions of a restore besides `HTTPException`. -/
inductive Failure where
  | python (error : PyError)
  | sqlite
  | os
  deriving DecidableEq

/-- What SQLite stores of a value: `none` and `null` for `NULL`. A column of numbers stores a text
that is no number as it is. A value that cannot be bound raises. -/
class Sqlite where
  asText : Json → Except Failure (Option String)
  asReal : Json → Except Failure Json
  asText_str : ∀ text, asText (.str text) = .ok (some text)
  asReal_stored : ∀ {value cell}, asReal value = .ok cell → asReal cell = .ok cell

variable [Sqlite]

/-- A value in a column that is `NOT NULL`. -/
def textCell (value : Json) : Except Failure String :=
  match Sqlite.asText value with
  | .ok (some text) => .ok text
  | .ok none => .error .sqlite
  | .error raised => .error raised

theorem textCell_str (text : String) : textCell (.str text) = .ok text := by
  rw [textCell, Sqlite.asText_str]

/-- The dictionary `row or {}` that `get` is called on. -/
def rowFields (row : Json) : Except Failure JsonObject :=
  match row.or (.obj []) with
  | .obj fields => .ok fields
  | _ => .error (.python .attributeError)

/-! ## The rows -/

/-- One row of the table `guest_expiry`, with the column that only the backup reads. -/
structure TrackedRow extends GuestRow where
  registeredAt : String
  deriving DecidableEq

/-- What a column of numbers holds. -/
@[ext] structure RealCell where
  value : Json
  stored : Sqlite.asReal value = .ok value

/-- A value in a column of numbers. -/
def realCell (value : Json) : Except Failure RealCell :=
  match h : Sqlite.asReal value with
  | .ok cell => .ok ⟨cell, Sqlite.asReal_stored h⟩
  | .error raised => .error raised

/-- One row of the table `first_seen`. -/
structure SeenRow where
  firstSeenAt : RealCell
  endpointId : String
  deletedAt : RealCell

/-- The moment of an import: `time.time()`, which is stored as it is, and `strftime('…','now')`. -/
structure Clock where
  now : Time
  nowText : String
  now_stored : Sqlite.asReal (.num now) = .ok (.num now)

/-- An entry of `guest_expiry_store.export_rows`. -/
def exportTracked (entry : EndpointId × TrackedRow) : Json :=
  .obj [("endpoint_id", .str entry.1), ("mac", .str entry.2.mac),
    ("expiry_str", .str entry.2.expiryStr), ("registered_at", .str entry.2.registeredAt)]

/-- An entry of `first_seen_store.export_rows`. -/
def exportSeen (entry : String × SeenRow) : Json :=
  .obj [("mac", .str entry.1), ("first_seen_at", entry.2.firstSeenAt.value),
    ("endpoint_id", .str entry.2.endpointId), ("deleted_at", entry.2.deletedAt.value)]

/-- What `guest_expiry_store.import_rows` binds for a row; `none` where it goes on to the next. -/
def readTracked (clock : Clock) (row : Json) :
    Except Failure (Option (EndpointId × TrackedRow)) := do
  let fields ← rowFields row
  let ep := fields.getD "endpoint_id" .null
  let expiry := fields.getD "expiry_str" .null
  if ep.truthy && expiry.truthy then
    let endpointId ← textCell ep
    let mac ← textCell (fields.getD "mac" (.str ""))
    let expiryStr ← textCell expiry
    -- COALESCE(?, strftime('…','now'))
    let registered ← Sqlite.asText (fields.getD "registered_at" .null)
    pure (some (endpointId, { mac, expiryStr, registeredAt := registered.getD clock.nowText }))
  else pure none

/-- The text `value or ""` that `upper` is called on. -/
def textOrEmpty (value : Json) : Except Failure String :=
  match value.or (.str "") with
  | .str text => .ok text
  | _ => .error (.python .attributeError)

omit [Sqlite] in
theorem textOrEmpty_str (text : String) : textOrEmpty (.str text) = .ok text := by
  by_cases h : text = "" <;> simp [textOrEmpty, Json.or, Json.truthy, h]

/-- What `first_seen_store.import_rows` binds for a row. -/
def readSeen [PyText] (clock : Clock) (row : Json) :
    Except Failure (Option (String × SeenRow)) := do
  let fields ← rowFields row
  let mac ← textOrEmpty (fields.getD "mac" .null)
  if FirstSeenStore.macKey mac = "" then pure none
  else
    let firstSeenAt ← realCell ((fields.getD "first_seen_at" .null).or (.num clock.now))
    let endpointId ← textCell (fields.getD "endpoint_id" (.str ""))
    let deletedAt ← realCell (fields.getD "deleted_at" .null)
    -- first_seen_at is NOT NULL
    if firstSeenAt.value.isNull then .error .sqlite
    else pure (some (FirstSeenStore.macKey mac, { firstSeenAt, endpointId, deletedAt }))

/-! ## The import -/

section Import

variable {α : Type}

/-- One row of an import: the table and the number of rows that were not skipped. -/
def importRow (insert : Dict String α → String × α → Dict String α) (state : Dict String α × Nat)
    (bound : Option (String × α)) : Dict String α × Nat :=
  bound.elim state fun entry => (insert state.1 entry, state.2 + 1)

/-- `import_rows`: the rows, one after the other, in a table that is cleared first, with the number
of rows that are not skipped. Where the database fails or a row raises nothing is committed. -/
def importTable (read : Json → Except Failure (Option (String × α)))
    (insert : Dict String α → String × α → Dict String α) (fails : Bool) (before : Dict String α)
    (rows : List Json) : Dict String α × Except Failure Nat :=
  if fails then (before, .error .sqlite)
  else
    match foldUntil read (importRow insert) (Dict.empty, 0) rows with
    | (_, some raised) => (before, .error raised)
    | ((after, imported), none) => (after, .ok imported)

/-- An import raises where the database fails or a row does. -/
def ImportFails (read : Json → Except Failure (Option (String × α))) (fails : Bool)
    (rows : List Json) : Prop :=
  fails = true ∨ ∃ row ∈ rows, ¬ Reads read row

/-- What an import binds, in order. -/
def boundRows (read : Json → Except Failure (Option (String × α))) (rows : List Json) :
    List (String × α) :=
  (readable read rows).reduceOption

variable {read : Json → Except Failure (Option (String × α))}
  {insert : Dict String α → String × α → Dict String α} {fails : Bool} {before : Dict String α}
  {rows : List Json}

omit [Sqlite] in
/-- A row that raises, like a database that fails, leaves the table as it was. -/
theorem importTable_of_fails (h : ImportFails read fails rows) :
    (importTable read insert fails before rows).1 = before ∧
      ∃ raised, (importTable read insert fails before rows).2 = .error raised := by
  unfold importTable
  cases fails with
  | true => exact ⟨rfl, .sqlite, rfl⟩
  | false =>
      obtain ⟨row, hrow, hraises⟩ := h.resolve_left Bool.false_ne_true
      rw [if_neg Bool.false_ne_true]
      split
      · next raised _ => exact ⟨rfl, raised, rfl⟩
      · next after imported hloop =>
          have hends := (foldUntil_snd_eq_none_iff _ rows).mp (congrArg Prod.snd hloop)
          exact absurd (hends row hrow) hraises

omit [Sqlite] in
theorem foldl_importRow (items : List (Option (String × α))) (state : Dict String α × Nat) :
    (items.foldl (importRow insert) state).1 = items.reduceOption.foldl insert state.1 := by
  induction items generalizing state with
  | nil => rfl
  | cons item rest ih =>
      rw [List.foldl_cons, ih]
      cases item <;> rfl

omit [Sqlite] in
/-- Otherwise the table is what the rows are inserted into. -/
theorem importTable_of_ok (h : ¬ ImportFails read fails rows) :
    (importTable read insert fails before rows).1 =
        (boundRows read rows).foldl insert Dict.empty ∧
      ∃ imported, (importTable read insert fails before rows).2 = .ok imported := by
  obtain ⟨hfails, hrows⟩ := not_or.mp h
  have hreads : ∀ row ∈ rows, Reads read row := fun row hrow =>
    not_not.mp fun hraises => hrows ⟨row, hrow, hraises⟩
  unfold importTable
  rw [if_neg hfails]
  split
  · next raised hloop =>
      have hends : (foldUntil read (importRow insert) (Dict.empty, 0) rows).2 = none :=
        (foldUntil_snd_eq_none_iff _ rows).mpr hreads
      rw [hloop] at hends
      cases hends
  · next after imported hloop =>
      have hfst : (foldUntil read (importRow insert) (Dict.empty, 0) rows).1 =
          (readable read rows).foldl (importRow insert) (Dict.empty, 0) :=
        foldUntil_fst_of_reads _ hreads
      have htable := congrArg Prod.fst hfst
      rw [hloop, foldl_importRow] at htable
      exact ⟨htable, imported, rfl⟩

end Import

/-- `ON CONFLICT(endpoint_id) DO UPDATE SET mac = …, expiry_str = …` -/
def insertTracked (rows : Dict EndpointId TrackedRow) (entry : EndpointId × TrackedRow) :
    Dict EndpointId TrackedRow :=
  rows.set entry.1 { entry.2 with
    registeredAt := ((rows.get? entry.1).map TrackedRow.registeredAt).getD entry.2.registeredAt }

/-- `ON CONFLICT(mac) DO UPDATE SET` every other column. -/
def insertSeen (rows : Dict String SeenRow) (entry : String × SeenRow) : Dict String SeenRow :=
  rows.set entry.1 entry.2

/-! ## A table that is exported and imported -/

section RoundTrip

variable {α : Type} {insert : Dict String α → String × α → Dict String α}

omit [Sqlite] in
/-- Inserting touches only the row of its key. -/
theorem get?_foldl_insert_of_not_mem
    (hother : ∀ d entry key, key ≠ entry.1 → (insert d entry).get? key = d.get? key)
    {entries : List (String × α)} {d : Dict String α} {key : String}
    (h : key ∉ entries.map Prod.fst) : (entries.foldl insert d).get? key = d.get? key := by
  induction entries generalizing d with
  | nil => rfl
  | cons entry rest ih =>
      rw [List.map_cons, List.mem_cons, not_or] at h
      rw [List.foldl_cons, ih h.2, hother d entry key h.1]

omit [Sqlite] in
/-- Rows of different keys are all inserted as they are. -/
theorem get?_foldl_insert_of_nodup
    (hother : ∀ d entry key, key ≠ entry.1 → (insert d entry).get? key = d.get? key)
    (hnew : ∀ d entry, d.get? entry.1 = none → (insert d entry).get? entry.1 = some entry.2)
    {entries : List (String × α)} (hnodup : (entries.map Prod.fst).Nodup) {d : Dict String α}
    (hfresh : ∀ entry ∈ entries, d.get? entry.1 = none) {key : String} {row : α}
    (h : (key, row) ∈ entries) : (entries.foldl insert d).get? key = some row := by
  induction entries generalizing d with
  | nil => cases h
  | cons entry rest ih =>
      obtain ⟨hfirst, hrest⟩ := List.nodup_cons.mp hnodup
      rw [List.foldl_cons]
      rcases List.mem_cons.mp h with rfl | hmem
      · rw [get?_foldl_insert_of_not_mem hother hfirst]
        exact hnew d _ (hfresh _ List.mem_cons_self)
      · refine ih hrest (fun other hmember => ?_) hmem
        have hne : other.1 ≠ entry.1 := fun heq =>
          hfirst (heq ▸ List.mem_map_of_mem hmember)
        rw [hother d entry other.1 hne]
        exact hfresh other (List.mem_cons_of_mem entry hmember)

omit [Sqlite] in
theorem map_fst_filterMap_sublist {β : Type} {image : β → Option (String × α)} {key : β → String}
    {items : List β}
    (hself : ∀ item ∈ items, ∀ entry, image item = some entry → entry.1 = key item) :
    ((items.filterMap image).map Prod.fst).Sublist (items.map key) := by
  induction items with
  | nil => exact List.Sublist.refl []
  | cons item rest ih =>
      have hrest := ih fun other hother => hself other (List.mem_cons_of_mem item hother)
      rw [List.filterMap_cons, List.map_cons]
      cases hentry : image item with
      | none => exact hrest.cons (key item)
      | some entry =>
          rw [List.map_cons, hself item List.mem_cons_self entry hentry]
          exact hrest.cons_cons (key item)

omit [Sqlite] in
/-- The rows an import binds are those of the table exactly where each of them is bound as it is. -/
theorem foldl_images_same_iff {rows : Dict String α}
    (hother : ∀ d entry key, key ≠ entry.1 → (insert d entry).get? key = d.get? key)
    (hnew : ∀ d entry, d.get? entry.1 = none → (insert d entry).get? entry.1 = some entry.2)
    (image : String × α → Option (String × α)) (normal : String → String)
    (hnormal : ∀ key, normal (normal key) = normal key)
    (himage : ∀ entry bound, image entry = some bound → bound.1 = normal entry.1) :
    ((rows.entries.filterMap image).foldl insert Dict.empty).Same rows ↔
      ∀ entry ∈ rows.entries, image entry = some entry := by
  constructor
  · intro hsame
    -- A row comes from a row of the same key, as the key of a row that was bound is normal.
    have hkey : ∀ entry ∈ rows.entries, normal entry.1 = entry.1 := by
      intro entry hentry
      have hget := (hsame entry.1).trans (Dict.get?_eq_some_iff.mpr hentry)
      by_cases hmem : entry.1 ∈ (rows.entries.filterMap image).map Prod.fst
      · obtain ⟨bound, hbound, hfst⟩ := List.mem_map.mp hmem
        obtain ⟨source, -, hsource⟩ := List.mem_filterMap.mp hbound
        rw [← hfst, himage source bound hsource, hnormal]
      · rw [get?_foldl_insert_of_not_mem hother hmem] at hget
        cases hget
    have hself : ∀ entry ∈ rows.entries, ∀ bound, image entry = some bound → bound.1 = entry.1 :=
      fun entry hentry bound hbound => (himage entry bound hbound).trans (hkey entry hentry)
    have hnodup := rows.nodup.sublist (map_fst_filterMap_sublist hself)
    intro entry hentry
    have hget := (hsame entry.1).trans (Dict.get?_eq_some_iff.mpr hentry)
    by_cases hmem : entry.1 ∈ (rows.entries.filterMap image).map Prod.fst
    · obtain ⟨bound, hbound, hfst⟩ := List.mem_map.mp hmem
      obtain ⟨source, hsource, himaged⟩ := List.mem_filterMap.mp hbound
      have hfrom : source = entry := by
        have hkeys : source.1 = entry.1 := (hself source hsource bound himaged).symm.trans hfst
        have hrow := Dict.get?_eq_some_iff.mpr hsource
        rw [hkeys, Dict.get?_eq_some_iff.mpr hentry] at hrow
        exact Prod.ext hkeys (Option.some.inj hrow).symm
      have hrow := get?_foldl_insert_of_nodup hother hnew hnodup (d := Dict.empty)
        (fun _ _ => rfl) hbound
      rw [hfst, hget] at hrow
      rw [← hfrom, himaged, hfrom]
      exact congrArg some (Prod.ext hfst (Option.some.inj hrow).symm)
    · rw [get?_foldl_insert_of_not_mem hother hmem] at hget
      cases hget
  · intro hall key
    have hentries : rows.entries.filterMap image = rows.entries := by
      rw [List.filterMap_congr hall, List.filterMap_some]
    rw [hentries]
    cases hrow : rows.get? key with
    | some row =>
        exact get?_foldl_insert_of_nodup hother hnew rows.nodup (fun _ _ => rfl)
          (Dict.get?_eq_some_iff.mp hrow)
    | none =>
        rw [get?_foldl_insert_of_not_mem hother (Dict.get?_eq_none_iff.mp hrow), Dict.get?_empty]

variable {read : Json → Except Failure (Option (String × α))} {encode : String × α → Json}
  {image : String × α → Option (String × α)}

omit [Sqlite] in
theorem not_importFails_encode (hread : ∀ entry, read (encode entry) = .ok (image entry))
    (entries : List (String × α)) : ¬ ImportFails read false (entries.map encode) := by
  rintro (hfails | ⟨row, hrow, hraises⟩)
  · cases hfails
  · obtain ⟨entry, -, rfl⟩ := List.mem_map.mp hrow
    exact hraises ⟨image entry, hread entry⟩

omit [Sqlite] in
theorem boundRows_encode (hread : ∀ entry, read (encode entry) = .ok (image entry))
    (entries : List (String × α)) :
    boundRows read (entries.map encode) = entries.filterMap image := by
  induction entries with
  | nil => rfl
  | cons entry rest ih =>
      have hhead : (read (encode entry)).toOption = some (image entry) := by
        rw [hread]
        rfl
      rw [boundRows, readable, List.map_cons, List.filterMap_cons, hhead, List.filterMap_cons]
      cases hbound : image entry with
      | none => exact ih
      | some bound => exact congrArg (bound :: ·) ih

end RoundTrip

/-- What an import makes of a row of `guest_expiry` that was exported. -/
def trackedImage (entry : EndpointId × TrackedRow) : Option (EndpointId × TrackedRow) :=
  if entry.1 ≠ "" ∧ entry.2.expiryStr ≠ "" then some entry else none

theorem readTracked_export (clock : Clock) (entry : EndpointId × TrackedRow) :
    readTracked clock (exportTracked entry) = .ok (trackedImage entry) := by
  obtain ⟨endpointId, row⟩ := entry
  show (if ((Json.str endpointId).truthy && (Json.str row.expiryStr).truthy) = true then
      textCell (.str endpointId) >>= fun _ => textCell (.str row.mac) >>= fun _ =>
        textCell (.str row.expiryStr) >>= fun _ => Sqlite.asText (.str row.registeredAt) >>= _
    else _) = _
  unfold trackedImage
  by_cases hkept : endpointId ≠ "" ∧ row.expiryStr ≠ ""
  · have htruthy : ((Json.str endpointId).truthy && (Json.str row.expiryStr).truthy) = true := by
      simp [Json.truthy, hkept]
    rw [if_pos hkept, if_pos htruthy]
    simp only [textCell_str, Sqlite.asText_str]
    rfl
  · have hfalsy : ¬ ((Json.str endpointId).truthy && (Json.str row.expiryStr).truthy) = true := by
      simpa [Json.truthy] using hkept
    rw [if_neg hkept, if_neg hfalsy]
    rfl

/-- A table `guest_expiry` that is exported and imported is the same exactly where every row has an
endpoint and a date. -/
theorem importTracked_export_iff (clock : Clock) (before rows : Dict EndpointId TrackedRow) :
    (importTable (readTracked clock) insertTracked false before
        (rows.entries.map exportTracked)).1.Same rows ↔
      ∀ entry ∈ rows.entries, entry.1 ≠ "" ∧ entry.2.expiryStr ≠ "" := by
  rw [(importTable_of_ok (not_importFails_encode (readTracked_export clock) _)).1,
    boundRows_encode (readTracked_export clock),
    foldl_images_same_iff ?_ ?_ trackedImage id (fun _ => rfl) ?_]
  · refine forall₂_congr fun entry _ => ?_
    unfold trackedImage
    split <;> simp_all
  · intro d entry key hne
    exact Dict.get?_set_ne d _ hne
  · intro d entry hnone
    rw [insertTracked, Dict.get?_set_self, hnone]
    rfl
  · intro entry bound hbound
    unfold trackedImage at hbound
    split at hbound
    · cases hbound
      rfl
    · cases hbound

/-- `first_seen_at or time.time()` -/
def orNow (clock : Clock) (cell : RealCell) : RealCell :=
  if cell.value.truthy then cell else ⟨.num clock.now, clock.now_stored⟩

/-- What an import makes of a row of `first_seen` that was exported. -/
def seenImage [PyText] (clock : Clock) (entry : String × SeenRow) : Option (String × SeenRow) :=
  if FirstSeenStore.macKey entry.1 = "" then none
  else some (FirstSeenStore.macKey entry.1,
    { entry.2 with firstSeenAt := orNow clock entry.2.firstSeenAt })

theorem realCell_value (cell : RealCell) : realCell cell.value = .ok cell := by
  unfold realCell
  split
  · next value hvalue =>
      rw [cell.stored] at hvalue
      cases hvalue
      rfl
  · next raised hraises =>
      rw [cell.stored] at hraises
      cases hraises

theorem or_eq_orNow (clock : Clock) (cell : RealCell) :
    cell.value.or (.num clock.now) = (orNow clock cell).value := by
  unfold Json.or orNow
  split <;> rfl

theorem isNull_orNow (clock : Clock) (cell : RealCell) :
    (orNow clock cell).value.isNull = false := by
  unfold orNow
  split
  · next htruthy =>
      cases hvalue : cell.value with
      | null =>
          rw [hvalue] at htruthy
          cases htruthy
      | _ => rfl
  · rfl

theorem readSeen_export [PyText] (clock : Clock) (entry : String × SeenRow) :
    readSeen clock (exportSeen entry) = .ok (seenImage clock entry) := by
  obtain ⟨mac, row⟩ := entry
  show (textOrEmpty (.str mac) >>= fun mac => if FirstSeenStore.macKey mac = "" then _
    else realCell (row.firstSeenAt.value.or (.num clock.now)) >>= fun _ =>
      textCell (.str row.endpointId) >>= fun _ => realCell row.deletedAt.value >>= _) = _
  rw [textOrEmpty_str]
  show (if FirstSeenStore.macKey mac = "" then _ else _) = _
  unfold seenImage
  split
  · rfl
  · rw [or_eq_orNow, realCell_value, textCell_str, realCell_value]
    show (if (orNow clock row.firstSeenAt).value.isNull = true then _ else _) = _
    rw [isNull_orNow]
    rfl

/-- A row of `first_seen` that an import keeps: its MAC address is normalised, and it has a moment
that is not zero. -/
def SeenKept [PyText] (clock : Clock) (entry : String × SeenRow) : Prop :=
  FirstSeenStore.macKey entry.1 = entry.1 ∧ entry.1 ≠ "" ∧
    (entry.2.firstSeenAt.value.truthy = true ∨ entry.2.firstSeenAt.value = .num clock.now)

theorem orNow_eq_iff (clock : Clock) (cell : RealCell) :
    orNow clock cell = cell ↔ cell.value.truthy = true ∨ cell.value = .num clock.now := by
  unfold orNow
  split
  · next htruthy => exact iff_of_true rfl (.inl htruthy)
  · next hfalsy =>
      rw [or_iff_right hfalsy]
      exact ⟨fun h => (congrArg RealCell.value h).symm, fun h => RealCell.ext h.symm⟩

/-- A table `first_seen` that is exported and imported is the same exactly where the import keeps
every row. -/
theorem importSeen_export_iff [PyText]
    (hnormal : ∀ mac, FirstSeenStore.macKey (FirstSeenStore.macKey mac) = FirstSeenStore.macKey mac)
    (clock : Clock) (before rows : Dict String SeenRow) :
    (importTable (readSeen clock) insertSeen false before (rows.entries.map exportSeen)).1.Same
        rows ↔
      ∀ entry ∈ rows.entries, SeenKept clock entry := by
  rw [(importTable_of_ok (not_importFails_encode (readSeen_export clock) _)).1,
    boundRows_encode (readSeen_export clock),
    foldl_images_same_iff ?_ ?_ (seenImage clock) FirstSeenStore.macKey hnormal ?_]
  · refine forall₂_congr fun entry _ => ?_
    unfold seenImage SeenKept
    rw [← orNow_eq_iff]
    split
    · next hempty =>
        refine iff_of_false (fun h => by cases h) fun h => h.2.1 (h.1.symm.trans hempty)
    · next hmac =>
        rw [Option.some_inj]
        constructor
        · intro heq
          have hkey : FirstSeenStore.macKey entry.1 = entry.1 := congrArg Prod.fst heq
          exact ⟨hkey, hkey ▸ hmac, congrArg (fun bound => bound.2.firstSeenAt) heq⟩
        · rintro ⟨hkey, -, hcell⟩
          rw [hkey, hcell]
  · intro d entry key hne
    exact Dict.get?_set_ne d _ hne
  · intro d entry _
    exact Dict.get?_set_self d _ _
  · intro entry bound hbound
    unfold seenImage at hbound
    split at hbound
    · cases hbound
    · cases hbound
      rfl

end ConfigBackup

end IsePortal
