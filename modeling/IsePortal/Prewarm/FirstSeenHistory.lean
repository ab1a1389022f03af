import IsePortal.Prewarm.FirstSeenStore

/-!
# The history of the first-seen store

Every sequence of `record`, `delete` and `import_rows`. A MAC that was deleted in ISE and created
again is told by its new id, but an id is stored only where the row is created: a row that was
stored without one never gets one, and the next change of the id is not seen. `history_iff` says
for which histories the times of the table are right.
-/

namespace IsePortal.FirstSeenStore

open Library

section

variable [PyText]

/-- One row of a backup. -/
structure BackupRow where
  mac : String
  firstSeenAt : Option Time := none
  endpointId : String := ""
  deletedAt : Option Time := none

omit [PyText] in
/-- What `import_rows` stores of it. A time of zero counts as none. -/
def BackupRow.stored (now : Time) (row : BackupRow) : FirstSeenRow where
  firstSeenAt :=
    match row.firstSeenAt with
    | some stamp => if stamp ≠ 0 then stamp else now
    | none => now
  endpointId := row.endpointId
  deletedAt := row.deletedAt

/-- The rows that have a MAC, by its key. -/
def keyed (now : Time) (backup : List BackupRow) : List (String × FirstSeenRow) :=
  (backup.filter fun row => macKey row.mac ≠ "").map fun row => (macKey row.mac, row.stored now)

/-- `import_rows` -/
def importRows (now : Time) (rows : FirstSeenStore) (backup : List BackupRow) (replace : Bool) :
    FirstSeenStore :=
  (keyed now backup).foldl (fun table entry => table.set entry.1 entry.2)
    (if replace then Dict.empty else rows)

/-- One call of the store. -/
inductive Call where
  | record (mac endpointId : String) (seedTs : Option Time)
  | delete (mac : String)
  | importRows (backup : List BackupRow) (replace : Bool)

/-- The calls with their times, the last one first. -/
abbrev History := List (Time × Call)

/-- The table after the calls. -/
def table : History → FirstSeenStore
  | [] => Dict.empty
  | (now, .record mac endpointId seedTs) :: earlier =>
      (record now (table earlier) mac endpointId seedTs).1
  | (now, .delete mac) :: earlier => delete now (table earlier) mac
  | (now, .importRows backup replace) :: earlier => importRows now (table earlier) backup replace

/-! ## What the calls say about a MAC -/

/-- The row an import brings for a MAC; of several, the last one stays. -/
def restored (now : Time) (key : String) (backup : List BackupRow) : Option FirstSeenRow :=
  (keyed now backup).reverse.lookup key

/-- When the MAC was last recorded. An import records the MACs it brings, and forgets the others
where it replaces the table. -/
def lastRecord (key : String) : History → Option Time
  | [] => none
  | (now, .record mac _ _) :: earlier =>
      if key = macKey mac then some now else lastRecord key earlier
  | (_, .delete _) :: earlier => lastRecord key earlier
  | (now, .importRows backup replace) :: earlier =>
      match restored now key backup with
      | some _ => some now
      | none => if replace then none else lastRecord key earlier

/-- The last id recorded for the MAC that is not empty; empty where there is none. -/
def lastId (key : String) : History → String
  | [] => ""
  | (_, .record mac endpointId _) :: earlier =>
      if key = macKey mac ∧ endpointId ≠ "" then endpointId else lastId key earlier
  | (_, .delete _) :: earlier => lastId key earlier
  | (now, .importRows backup replace) :: earlier =>
      match restored now key backup with
      | some row =>
          if row.endpointId ≠ "" ∨ replace = true then row.endpointId else lastId key earlier
      | none => if replace then "" else lastId key earlier

/-- Whether the last call about the MAC left it live. -/
def leftLive (key : String) : History → Bool
  | [] => false
  | (_, .record mac _ _) :: earlier => if key = macKey mac then true else leftLive key earlier
  | (_, .delete mac) :: earlier => if key = macKey mac then false else leftLive key earlier
  | (now, .importRows backup replace) :: earlier =>
      match restored now key backup with
      | some row => row.deletedAt.isNone
      | none => if replace then false else leftLive key earlier

/-- The id is another one than the last one recorded for the MAC. -/
def Recreated (earlier : History) (key endpointId : String) : Prop :=
  endpointId ≠ "" ∧ lastId key earlier ≠ "" ∧ lastId key earlier ≠ endpointId

/-- A record of another id sets the time to now, and every other one keeps it. -/
def CallRight (earlier : History) (now : Time) : Call → Prop
  | .record mac endpointId seedTs =>
      macKey mac ≠ "" →
        (Recreated earlier (macKey mac) endpointId →
          ∃ row, (record now (table earlier) mac endpointId seedTs).1.get? (macKey mac) = some row ∧
            row.firstSeenAt = now) ∧
        (¬ Recreated earlier (macKey mac) endpointId →
          ∀ old, (table earlier).get? (macKey mac) = some old →
            ∃ row, (record now (table earlier) mac endpointId seedTs).1.get? (macKey mac) =
              some row ∧ row.firstSeenAt = old.firstSeenAt)
  | _ => True

/-- No MAC was seen first after it was last recorded, and the live rows are those that the last
call about them left so. -/
def StateRight (history : History) : Prop :=
  ∀ key ≠ "", ∀ row, (table history).get? key = some row →
    (∀ last, lastRecord key history = some last → row.firstSeenAt ≤ last) ∧
      (row.deletedAt = none ↔ leftLive key history = true)

/-- Every call and every state of the history is right. -/
def Right : History → Prop
  | [] => True
  | (now, call) :: earlier =>
      Right earlier ∧ CallRight earlier now call ∧ StateRight ((now, call) :: earlier)

/-- The times do not decrease. -/
def InOrder (history : History) : Prop :=
  history.Pairwise fun later earlier => earlier.1 ≤ later.1

/-- Another id does not meet a row that was stored without one, and an import brings no time of
the future. -/
def CallSound (earlier : History) (now : Time) : Call → Prop
  | .record mac endpointId _ =>
      macKey mac ≠ "" → Recreated earlier (macKey mac) endpointId →
        ∀ row, (table earlier).get? (macKey mac) = some row →
          row.endpointId = "" → row.firstSeenAt = now
  | .delete _ => True
  | .importRows backup _ =>
      ∀ key ≠ "", ∀ row, restored now key backup = some row → row.firstSeenAt ≤ now

/-- Every call of the history is sound. -/
def Sound : History → Prop
  | [] => True
  | (now, call) :: earlier => Sound earlier ∧ CallSound earlier now call

/-! ## One call -/

variable {now : Time} {key mac endpointId : String} {seedTs : Option Time} {rows : FirstSeenStore}

omit [PyText] in
/-- The time a new row gets. -/
def insertTs (now : Time) (seedTs : Option Time) : Time :=
  match seedTs with
  | some seed => if seed ≠ 0 ∧ seed ≤ now then seed else now
  | none => now

omit [PyText] in
theorem insertTs_le : insertTs now seedTs ≤ now := by
  unfold insertTs
  split
  · split
    · rename_i hseed
      exact hseed.2
    · exact le_rfl
  · exact le_rfl

omit [PyText] in
/-- The row `record` leaves for its MAC. -/
def recordRow (now : Time) (endpointId : String) (seedTs : Option Time) :
    Option FirstSeenRow → FirstSeenRow
  | none => { firstSeenAt := insertTs now seedTs, endpointId := endpointId }
  | some row =>
      if endpointId ≠ "" ∧ row.endpointId ≠ "" ∧ row.endpointId ≠ endpointId then
        { firstSeenAt := now, endpointId := endpointId }
      else { row with deletedAt := none }

theorem get?_record (hkey : key ≠ "") :
    (record now rows mac endpointId seedTs).1.get? key =
      if key = macKey mac then some (recordRow now endpointId seedTs (rows.get? key))
      else rows.get? key := by
  unfold record
  by_cases hmac : macKey mac = ""
  · rw [if_pos hmac, if_neg (hmac ▸ hkey)]
  · rw [if_neg hmac]
    by_cases hsame : key = macKey mac
    · subst hsame
      rw [if_pos rfl]
      cases hrow : rows.get? (macKey mac) with
      | none => exact Dict.get?_set_self ..
      | some row =>
          dsimp only [recordRow]
          split
          · exact Dict.get?_set_self ..
          · exact Dict.get?_set_self ..
    · rw [if_neg hsame]
      cases hrow : rows.get? (macKey mac) with
      | none => exact Dict.get?_set_ne _ _ hsame
      | some row =>
          dsimp only
          split
          · exact Dict.get?_set_ne _ _ hsame
          · exact Dict.get?_set_ne _ _ hsame

theorem get?_delete (hkey : key ≠ "") :
    (delete now rows mac).get? key =
      if key = macKey mac then (rows.get? key).map (stampDeleted now) else rows.get? key := by
  unfold delete
  by_cases hmac : macKey mac = ""
  · rw [if_pos hmac, if_neg (hmac ▸ hkey)]
  · rw [if_neg hmac, Dict.get?_modify]
    by_cases hsame : key = macKey mac
    · rw [if_pos hsame, if_pos hsame, hsame]
    · rw [if_neg hsame, if_neg hsame]

theorem get?_importRows (backup : List BackupRow) (replace : Bool) :
    (importRows now rows backup replace).get? key =
      (restored now key backup).or (if replace then none else rows.get? key) := by
  rw [importRows, Dict.get?_foldl_set_last, restored]
  cases replace with
  | true => rfl
  | false => rfl

omit [PyText] in
theorem recordRow_deletedAt (old : Option FirstSeenRow) :
    (recordRow now endpointId seedTs old).deletedAt = none := by
  cases old with
  | none => rfl
  | some row =>
      rw [recordRow]
      split
      · rfl
      · rfl

/-! ## Every history -/

/-- A stored id is the last one recorded, and without a row there is none. -/
theorem lastId_table (history : History) (hkey : key ≠ "") :
    ((table history).get? key = none → lastId key history = "") ∧
      ∀ row, (table history).get? key = some row → row.endpointId ≠ "" →
        lastId key history = row.endpointId := by
  induction history with
  | nil => exact ⟨fun _ => rfl, fun row hrow => absurd hrow nofun⟩
  | cons event earlier ih =>
      obtain ⟨now, call⟩ := event
      cases call with
      | record mac endpointId seedTs =>
          rw [table, get?_record hkey, lastId]
          by_cases hsame : key = macKey mac
          · rw [if_pos hsame]
            refine ⟨nofun, ?_⟩
            rintro row hrow hid
            obtain rfl := Option.some.inj hrow
            cases hold : (table earlier).get? key with
            | none =>
                rw [hold] at hid
                have hne : endpointId ≠ "" := hid
                rw [if_pos ⟨hsame, hne⟩]
                rfl
            | some old =>
                rw [hold, recordRow] at hid
                rw [recordRow]
                split at hid
                · rename_i hreset
                  rw [if_pos hreset, if_pos ⟨hsame, hreset.1⟩]
                · rename_i hkept
                  rw [if_neg hkept]
                  have hold_id := ih.2 old hold hid
                  by_cases hne : endpointId = ""
                  · rw [if_neg fun h => h.2 hne]
                    exact hold_id
                  · rw [if_pos ⟨hsame, hne⟩]
                    by_contra hother
                    exact hkept ⟨hne, hid, fun heq => hother heq.symm⟩
          · rw [if_neg hsame, if_neg fun h => hsame h.1]
            exact ih
      | delete mac =>
          rw [table, get?_delete hkey, lastId]
          by_cases hsame : key = macKey mac
          · rw [if_pos hsame]
            refine ⟨fun hnone => ih.1 (Option.map_eq_none_iff.mp hnone), ?_⟩
            intro row hrow hid
            obtain ⟨old, hold, rfl⟩ := Option.map_eq_some_iff.mp hrow
            have hsameId : (stampDeleted now old).endpointId = old.endpointId := by
              unfold stampDeleted
              split
              · rfl
              · rfl
            rw [hsameId] at hid ⊢
            exact ih.2 old hold hid
          · rw [if_neg hsame]
            exact ih
      | importRows backup replace =>
          rw [table, get?_importRows, lastId]
          cases hrestored : restored now key backup with
          | some row =>
              refine ⟨nofun, ?_⟩
              intro other hother hid
              obtain rfl := Option.some.inj hother
              exact if_pos (Or.inl hid)
          | none =>
              cases replace with
              | true => exact ⟨fun _ => rfl, fun row hrow => absurd hrow nofun⟩
              | false => exact ih

/-- A row is live exactly when the last call about its MAC left it so. -/
theorem deletedAt_table (history : History) (hkey : key ≠ "") {row : FirstSeenRow}
    (hrow : (table history).get? key = some row) :
    row.deletedAt = none ↔ leftLive key history = true := by
  induction history generalizing row with
  | nil => cases hrow
  | cons event earlier ih =>
      obtain ⟨now, call⟩ := event
      cases call with
      | record mac endpointId seedTs =>
          rw [table, get?_record hkey] at hrow
          rw [leftLive]
          by_cases hsame : key = macKey mac
          · rw [if_pos hsame] at hrow ⊢
            obtain rfl := Option.some.inj hrow
            simp [recordRow_deletedAt]
          · rw [if_neg hsame] at hrow ⊢
            exact ih hrow
      | delete mac =>
          rw [table, get?_delete hkey] at hrow
          rw [leftLive]
          by_cases hsame : key = macKey mac
          · rw [if_pos hsame] at hrow ⊢
            obtain ⟨old, -, rfl⟩ := Option.map_eq_some_iff.mp hrow
            simp [stampDeleted_deletedAt]
          · rw [if_neg hsame] at hrow ⊢
            exact ih hrow
      | importRows backup replace =>
          rw [table, get?_importRows] at hrow
          rw [leftLive]
          cases hrestored : restored now key backup with
          | some given =>
              rw [hrestored] at hrow
              obtain rfl := Option.some.inj hrow
              simp
          | none =>
              rw [hrestored] at hrow
              cases replace with
              | true => cases hrow
              | false => exact ih hrow

/-- A row was recorded, and not after the last call. -/
theorem lastRecord_table (history : History) (hkey : key ≠ "") {row : FirstSeenRow}
    (hrow : (table history).get? key = some row) :
    ∃ last, lastRecord key history = some last ∧ ∃ event ∈ history, event.1 = last := by
  induction history generalizing row with
  | nil => cases hrow
  | cons event earlier ih =>
      have hearlier : ∀ {row : FirstSeenRow}, (table earlier).get? key = some row →
          ∃ last, lastRecord key earlier = some last ∧
            ∃ old ∈ event :: earlier, old.1 = last := by
        intro row hold
        obtain ⟨last, hlast, old, hmem, htime⟩ := ih hold
        exact ⟨last, hlast, old, List.mem_cons_of_mem _ hmem, htime⟩
      obtain ⟨now, call⟩ := event
      cases call with
      | record mac endpointId seedTs =>
          rw [table, get?_record hkey] at hrow
          rw [lastRecord]
          by_cases hsame : key = macKey mac
          · rw [if_pos hsame]
            exact ⟨now, rfl, _, List.mem_cons_self, rfl⟩
          · rw [if_neg hsame] at hrow ⊢
            exact hearlier hrow
      | delete mac =>
          rw [table, get?_delete hkey] at hrow
          rw [lastRecord]
          by_cases hsame : key = macKey mac
          · rw [if_pos hsame] at hrow
            obtain ⟨old, hold, -⟩ := Option.map_eq_some_iff.mp hrow
            exact hearlier hold
          · rw [if_neg hsame] at hrow
            exact hearlier hrow
      | importRows backup replace =>
          rw [table, get?_importRows] at hrow
          rw [lastRecord]
          cases hrestored : restored now key backup with
          | some given => exact ⟨now, rfl, _, List.mem_cons_self, rfl⟩
          | none =>
              rw [hrestored] at hrow
              cases replace with
              | true => cases hrow
              | false => exact hearlier hrow

/-! ## Right histories -/

variable {earlier history : History}

/-- What a record does to the time of its row. -/
theorem record_right_iff (hmac : macKey mac ≠ "") :
    CallRight earlier now (.record mac endpointId seedTs) ↔
      CallSound earlier now (.record mac endpointId seedTs) := by
  obtain ⟨hnone, hstored⟩ := lastId_table earlier hmac
  simp only [CallRight, CallSound, get?_record hmac, if_true, Option.some.injEq, exists_eq_left']
  cases hrow : (table earlier).get? (macKey mac) with
  | none =>
      have hnot : ¬ Recreated earlier (macKey mac) endpointId := fun h => h.2.1 (hnone hrow)
      simp [hnot]
  | some row =>
      by_cases hrecreated : Recreated earlier (macKey mac) endpointId
      · by_cases hempty : row.endpointId = ""
        · simp [hrecreated, recordRow, hempty, hmac]
        · have hlast := hstored row hrow hempty
          have hreset : endpointId ≠ "" ∧ row.endpointId ≠ "" ∧ row.endpointId ≠ endpointId :=
            ⟨hrecreated.1, hempty, hlast ▸ hrecreated.2.2⟩
          simp [hrecreated, recordRow, hreset]
      · have hkept : ¬ (endpointId ≠ "" ∧ row.endpointId ≠ "" ∧ row.endpointId ≠ endpointId) := by
          rintro ⟨hid, hempty, hother⟩
          have hlast := hstored row hrow hempty
          exact hrecreated ⟨hid, hlast ▸ hempty, hlast ▸ hother⟩
        simp [hrecreated, recordRow, hkept]

/-- No row has a time after the last call, once the state before is right. -/
theorem firstSeen_le (hearlier : StateRight earlier) (horder : ∀ event ∈ earlier, event.1 ≤ now)
    (hkey : key ≠ "") {row : FirstSeenRow} (hrow : (table earlier).get? key = some row) :
    row.firstSeenAt ≤ now := by
  obtain ⟨last, hlast, event, hmem, rfl⟩ := lastRecord_table earlier hkey hrow
  exact ((hearlier key hkey row hrow).1 _ hlast).trans (horder event hmem)

/-- The step: a call from a right state leads to a right state, unless it brings a time of the
future. -/
theorem stateRight_cons_iff {call : Call} (hearlier : StateRight earlier)
    (horder : ∀ event ∈ earlier, event.1 ≤ now) :
    StateRight ((now, call) :: earlier) ↔
      ∀ backup replace, call = .importRows backup replace → CallSound earlier now call := by
  have hlive : ∀ key ≠ "", ∀ row, (table ((now, call) :: earlier)).get? key = some row →
      (row.deletedAt = none ↔ leftLive key ((now, call) :: earlier) = true) :=
    fun key hkey row hrow => deletedAt_table _ hkey hrow
  constructor
  · rintro h backup replace rfl key hkey row hrestored
    have hrow : (table ((now, .importRows backup replace) :: earlier)).get? key = some row := by
      rw [table, get?_importRows, hrestored]
      rfl
    refine (h key hkey row hrow).1 now ?_
    rw [lastRecord, hrestored]
  · intro hsound key hkey row hrow
    refine ⟨fun last hlast => ?_, hlive key hkey row hrow⟩
    cases call with
    | record mac endpointId seedTs =>
        rw [table, get?_record hkey] at hrow
        rw [lastRecord] at hlast
        by_cases hsame : key = macKey mac
        · rw [if_pos hsame] at hrow hlast
          obtain rfl := Option.some.inj hrow
          obtain rfl := Option.some.inj hlast
          cases hold : (table earlier).get? key with
          | none => exact insertTs_le
          | some old =>
              have hfirst := firstSeen_le hearlier horder hkey hold
              rw [recordRow]
              split
              · exact le_rfl
              · exact hfirst
        · rw [if_neg hsame] at hrow hlast
          exact (hearlier key hkey row hrow).1 last hlast
    | delete mac =>
        rw [table, get?_delete hkey] at hrow
        rw [lastRecord] at hlast
        by_cases hsame : key = macKey mac
        · rw [if_pos hsame] at hrow
          obtain ⟨old, hold, rfl⟩ := Option.map_eq_some_iff.mp hrow
          have hkept : (stampDeleted now old).firstSeenAt = old.firstSeenAt := by
            unfold stampDeleted
            split
            · rfl
            · rfl
          rw [hkept]
          exact (hearlier key hkey old hold).1 last hlast
        · rw [if_neg hsame] at hrow
          exact (hearlier key hkey row hrow).1 last hlast
    | importRows backup replace =>
        rw [table, get?_importRows] at hrow
        rw [lastRecord] at hlast
        cases hrestored : restored now key backup with
        | some given =>
            rw [hrestored] at hrow hlast
            obtain rfl := Option.some.inj hrow
            obtain rfl := Option.some.inj hlast
            exact hsound backup replace rfl key hkey _ hrestored
        | none =>
            rw [hrestored] at hrow hlast
            cases replace with
            | true => cases hrow
            | false => exact (hearlier key hkey row hrow).1 last hlast

theorem Right.state (h : Right history) : StateRight history := by
  cases history with
  | nil =>
      intro key _ row hrow
      cases hrow
  | cons event earlier => exact h.2.2

/-- One call from a right state is right, and leads to a right state, exactly when it is sound. -/
theorem call_right_iff {call : Call} (hearlier : StateRight earlier)
    (horder : ∀ event ∈ earlier, event.1 ≤ now) :
    (CallRight earlier now call ∧ StateRight ((now, call) :: earlier)) ↔
      CallSound earlier now call := by
  rw [stateRight_cons_iff hearlier horder]
  cases call with
  | record mac endpointId seedTs =>
      by_cases hmac : macKey mac = ""
      · simp [CallRight, CallSound, hmac]
      · simp [record_right_iff hmac]
  | delete mac => simp [CallRight, CallSound]
  | importRows backup replace => simp [CallRight]

/-- The calls of a history are right exactly when all of them are sound. -/
theorem history_iff (history : History) (horder : InOrder history) :
    Right history ↔ Sound history := by
  induction history with
  | nil => exact Iff.rfl
  | cons event earlier ih =>
      obtain ⟨now, call⟩ := event
      obtain ⟨hlast, hrest⟩ := List.pairwise_cons.mp horder
      rw [Right, Sound, ← ih hrest]
      exact and_congr_right fun hright => call_right_iff hright.state hlast

end

/-- A MAC recorded without an id, and then with two. -/
def lateId : History :=
  [(30, .record "0a" "B" none), (20, .record "0a" "A" none), (10, .record "0a" "" none)]

/-- A MAC recorded twice with one id. -/
def sameId : History := [(20, .record "0a" "A" none), (10, .record "0a" "A" none)]

/-- A history whose calls are sound is right. -/
theorem history_same_id : @Right asciiText sameId := by
  let _ := asciiText
  have horder : InOrder sameId := by
    unfold InOrder sameId
    decide
  refine (history_iff sameId horder).mpr ⟨⟨trivial, ?_⟩, ?_⟩
  · intro _ hrecreated
    exact absurd hrecreated.2.1 (by decide)
  · intro _ hrecreated
    exact absurd hrecreated.2.2 (by decide)

/-- The second id of a MAC that was stored without one leaves the time as it was. -/
theorem history_late_id : InOrder lateId ∧ ¬ @Right asciiText lateId := by
  let _ := asciiText
  refine ⟨by unfold InOrder lateId; decide, fun h => ?_⟩
  have hmac : macKey "0a" ≠ "" := by decide
  have hsound := (record_right_iff hmac).mp h.2.1
  have hrecreated : Recreated lateId.tail (macKey "0a") "B" := by
    unfold Recreated
    decide
  have hrow : (table lateId.tail).get? (macKey "0a") = some { firstSeenAt := 10 } := by decide
  exact absurd (hsound hmac hrecreated _ hrow rfl) (by decide)

end IsePortal.FirstSeenStore
