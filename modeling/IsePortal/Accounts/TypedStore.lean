import IsePortal.Accounts.StoredService
import Mathlib.Data.List.Forall2

/-!
# The typed store and the stored records

`Accounts/UserService` has the operations of the user service on a store of whole records,
`Accounts/StoredService` on the dictionaries of `users.json`. Where the dictionaries hold the
records of a store, the second does what the first does: an operation that answers with a change
saves what the change makes of the store, and one that raises saves nothing (`Performs`).
-/

namespace IsePortal

open Library StoredUsers

/-- The dictionary holds the record. Preferences and views, which only the pages of the user read,
are beside the point. -/
def StoresRecord (stored : StoredRecord) (entry : String × UserRecord) : Prop :=
  ∃ views prefs, stored = { entry.2.stored entry.1 with savedViews := views, prefs := prefs }

/-- The list holds the records of the store, in the same order. -/
def Users.StoredAs (users : Users) (records : StoredUsers) : Prop :=
  List.Forall₂ StoresRecord records users.entries

theorem Users.storedAs_stored (users : Users) : users.StoredAs users.stored := by
  unfold StoredAs stored
  rw [List.forall₂_map_left_iff]
  exact List.forall₂_same.mpr fun entry _ => ⟨none, none, rfl⟩

/-! ## Looking records up -/

section Lookup

variable {records : StoredUsers} {entries : List (String × UserRecord)}

/-- What a test finds among the dictionaries is what it finds among the records. -/
theorem find?_storesRecord (h : List.Forall₂ StoresRecord records entries)
    {wanted : StoredRecord → Bool} {wantedEntry : String × UserRecord → Bool}
    (hsame : ∀ stored entry, StoresRecord stored entry → wanted stored = wantedEntry entry) :
    Option.Rel StoresRecord (records.find? wanted) (entries.find? wantedEntry) := by
  induction h with
  | nil => exact .none
  | cons hhead _ ih =>
      rw [List.find?_cons, List.find?_cons, hsame _ _ hhead]
      split
      · exact .some hhead
      · exact ih

theorem eq_none_of_rel {stored : Option StoredRecord} {entry : Option (String × UserRecord)}
    (h : Option.Rel StoresRecord stored entry) (hnone : entry = none) : stored = none := by
  subst hnone
  cases h
  rfl

theorem exists_of_rel {stored : Option StoredRecord} {entry : Option (String × UserRecord)}
    (h : Option.Rel StoresRecord stored entry) {held : String × UserRecord}
    (hsome : entry = some held) : ∃ record, stored = some record ∧ StoresRecord record held := by
  subst hsome
  cases h with
  | some hstores => exact ⟨_, rfl, hstores⟩

theorem isSome_of_rel {stored : Option StoredRecord} {entry : Option (String × UserRecord)}
    (h : Option.Rel StoresRecord stored entry) : stored.isSome = entry.isSome := by
  cases h <;> rfl

/-- The first record of an id is the one under the id. -/
theorem find?_id_eq_lookup (entries : List (String × UserRecord)) (userId : String) :
    (entries.find? fun entry => decide (entry.1 = userId)) =
      (entries.lookup userId).map fun record => (userId, record) := by
  induction entries with
  | nil => rfl
  | cons entry rest ih =>
      obtain ⟨id, record⟩ := entry
      rw [List.lookup_cons, List.find?_cons]
      by_cases hid : id = userId
      · subst hid
        rw [decide_eq_true rfl, beq_self_eq_true]
        rfl
      · rw [decide_eq_false hid, beq_false_of_ne fun h => hid h.symm]
        exact ih

theorem StoresRecord.hasId {stored : StoredRecord} {entry : String × UserRecord}
    (h : StoresRecord stored entry) (userId : String) :
    StoredUsers.hasId userId stored = decide (entry.1 = userId) := by
  obtain ⟨views, prefs, rfl⟩ := h
  simp [StoredUsers.hasId, UserRecord.stored]

theorem StoresRecord.id_eq {stored : StoredRecord} {entry : String × UserRecord}
    (h : StoresRecord stored entry) : stored.id = some entry.1 := by
  obtain ⟨views, prefs, rfl⟩ := h
  rfl

theorem StoresRecord.role_eq {stored : StoredRecord} {entry : String × UserRecord}
    (h : StoresRecord stored entry) : stored.role = some entry.2.role := by
  obtain ⟨views, prefs, rfl⟩ := h
  rfl

theorem StoresRecord.username_eq {stored : StoredRecord} {entry : String × UserRecord}
    (h : StoresRecord stored entry) : stored.username = some entry.2.username := by
  obtain ⟨views, prefs, rfl⟩ := h
  rfl

theorem StoresRecord.hasUsername [PyText] {stored : StoredRecord} {entry : String × UserRecord}
    (h : StoresRecord stored entry) (username : String) :
    StoredUsers.hasUsername username stored =
      decide (PyText.lower entry.2.username = PyText.lower username) := by
  obtain ⟨views, prefs, rfl⟩ := h
  rfl

end Lookup

namespace Users.StoredAs

variable {users : Users} {records : StoredUsers}

theorem findById (h : users.StoredAs records) (userId : String) :
    Option.Rel StoresRecord (records.findById userId)
      ((users.findById userId).map fun record => (userId, record)) := by
  have hfound := find?_storesRecord h fun _ _ hstores => hstores.hasId userId
  rw [find?_id_eq_lookup] at hfound
  exact hfound

theorem findByUsername [PyText] (h : users.StoredAs records) (username : String) :
    Option.Rel StoresRecord (records.findByUsername username) (users.findByUsername username) :=
  find?_storesRecord h fun _ _ hstores => hstores.hasUsername username

/-- There is no dictionary of an id without a record. -/
theorem findById_none (h : users.StoredAs records) {userId : String}
    (hnone : users.findById userId = none) : records.findById userId = none :=
  eq_none_of_rel (h.findById userId) (by rw [hnone]; rfl)

/-- There is one of an id with a record. -/
theorem findById_some (h : users.StoredAs records) {userId : String} {record : UserRecord}
    (hsome : users.findById userId = some record) :
    ∃ stored, records.findById userId = some stored ∧ StoresRecord stored (userId, record) :=
  exists_of_rel (h.findById userId) (by rw [hsome]; rfl)

end Users.StoredAs

/-! ## Changing the records -/

/-- Nothing is edited where nothing is found. -/
theorem editFirst_of_none {records : StoredUsers} {wanted : StoredRecord → Bool}
    (h : records.find? wanted = none) (edit : StoredRecord → StoredRecord) :
    records.editFirst wanted edit = records := by
  induction records with
  | nil => rfl
  | cons record rest ih =>
      rw [List.find?_eq_none] at h
      obtain ⟨hrecord, hrest⟩ := List.forall_mem_cons.mp h
      rw [editFirst, if_neg hrecord, ih (List.find?_eq_none.mpr hrest)]

/-- An edit of the dictionary that is found is an edit of the record. -/
theorem storesRecord_editFirst {records : StoredUsers} {entries : List (String × UserRecord)}
    (h : List.Forall₂ StoresRecord records entries) (hnodup : (entries.map Prod.fst).Nodup)
    {wanted : StoredRecord → Bool} {wantedEntry : String × UserRecord → Bool}
    (hsame : ∀ stored entry, StoresRecord stored entry → wanted stored = wantedEntry entry)
    {userId : String} {record changed : UserRecord}
    (hfound : entries.find? wantedEntry = some (userId, record))
    {edit : StoredRecord → StoredRecord}
    (hedit : ∀ stored, StoresRecord stored (userId, record) →
      StoresRecord (edit stored) (userId, changed)) :
    List.Forall₂ StoresRecord (records.editFirst wanted edit)
      (Dict.replaceList userId changed entries) := by
  induction h with
  | nil => cases hfound
  | @cons stored entry rest others hhead htail ih =>
      rw [List.map_cons, List.nodup_cons] at hnodup
      rw [editFirst, Dict.replaceList, List.map_cons, hsame _ _ hhead]
      rw [List.find?_cons] at hfound
      cases hwanted : wantedEntry entry with
      | true =>
          rw [hwanted] at hfound
          cases hfound
          -- the record that is found; its id does not occur again behind it
          rw [if_pos rfl, if_pos rfl]
          refine .cons (hedit _ hhead) ?_
          rwa [← Dict.replaceList, Dict.replaceList_of_not_mem changed hnodup.1]
      | false =>
          rw [hwanted] at hfound
          -- the record that is found comes later, so this one has another id
          have hmem : userId ∈ others.map Prod.fst :=
            List.mem_map.mpr ⟨_, List.mem_of_find?_eq_some hfound, rfl⟩
          have hother : entry.1 ≠ userId := fun hid => hnodup.1 (hid ▸ hmem)
          rw [if_neg Bool.false_ne_true, if_neg hother]
          exact .cons hhead (ih hnodup.2 hfound)

namespace Users.StoredAs

variable {users : Users} {records : StoredUsers}

theorem editFirst (h : users.StoredAs records)
    {wanted : StoredRecord → Bool} {wantedEntry : String × UserRecord → Bool}
    (hsame : ∀ stored entry, StoresRecord stored entry → wanted stored = wantedEntry entry)
    {userId : String} {record changed : UserRecord}
    (hfound : users.entries.find? wantedEntry = some (userId, record))
    {edit : StoredRecord → StoredRecord}
    (hedit : ∀ stored, StoresRecord stored (userId, record) →
      StoresRecord (edit stored) (userId, changed)) :
    StoredAs (users.set userId changed) (records.editFirst wanted edit) := by
  have hmem : userId ∈ users.keys :=
    List.mem_map.mpr ⟨_, List.mem_of_find?_eq_some hfound, rfl⟩
  unfold StoredAs
  rw [Dict.entries_set_of_mem changed hmem]
  exact storesRecord_editFirst h users.nodup hsame hfound hedit

/-- Editing the dictionary of an id edits its record. -/
theorem editById (h : users.StoredAs records) {userId : String} {record changed : UserRecord}
    (hrecord : users.findById userId = some record) {edit : StoredRecord → StoredRecord}
    (hedit : ∀ stored, StoresRecord stored (userId, record) →
      StoresRecord (edit stored) (userId, changed)) :
    StoredAs (users.set userId changed) (records.editFirst (StoredUsers.hasId userId) edit) := by
  refine h.editFirst (fun _ _ hstores => hstores.hasId userId) ?_ hedit
  rw [find?_id_eq_lookup]
  exact congrArg _ hrecord

theorem applyEdit (h : users.StoredAs records) {userId : String} {record : UserRecord}
    (hrecord : users.findById userId = some record) {edit : StoredRecord → StoredRecord}
    {edits : FieldEdits}
    (hedit : ∀ stored, StoresRecord stored (userId, record) →
      StoresRecord (edit stored) (userId, edits.apply record)) :
    StoredAs ((Change.edit userId edits).apply users)
      (records.editFirst (StoredUsers.hasId userId) edit) := by
  have hget : users.get? userId = some record := hrecord
  rw [Change.apply, Dict.modify, hget]
  exact h.editById hrecord hedit

/-- A dictionary at the end is a record with a new id. -/
theorem append (h : users.StoredAs records) {userId : String} (hnew : userId ∉ users.keys)
    {stored : StoredRecord} {record : UserRecord}
    (hstores : StoresRecord stored (userId, record)) :
    StoredAs (users.set userId record) (records ++ [stored]) := by
  unfold StoredAs
  rw [Dict.entries_set_of_not_mem record hnew]
  exact List.rel_append h (.cons hstores .nil)

end Users.StoredAs

/-! ## One operation -/

/-- The call returns and leaves the dictionaries of the store, or it raises what is raised and saves
nothing. -/
def Yields {α : Type} (call : StoreM α) (records : StoredUsers) : Except HttpError Users → Prop
  | .ok changed => Returns call records fun _ next => changed.StoredAs next
  | .error raised => call.run records = .error (.http raised) records

/-- The call does to the dictionaries of the store what the operation with this outcome does to the
store. -/
def Performs {α : Type} (call : StoreM α) (users : Users) (outcome : Except HttpError Users) :
    Prop :=
  ∀ records, users.StoredAs records → Yields call records outcome

/-- The store an operation leaves, or what it raises. -/
def saved (users : Users) : Except HttpError Change → Except HttpError Users
  | .ok change => .ok (change.apply users)
  | .error raised => .error raised

/-- The dictionary of a record is shown as the record is. -/
theorem StoresRecord.toPublic {stored : StoredRecord} {userId : String} {record : UserRecord}
    (h : StoresRecord stored (userId, record)) :
    stored.toPublic =
      .ok { toCurrentUser := record.currentUser userId, userType := record.type } := by
  obtain ⟨views, prefs, rfl⟩ := h
  rfl

namespace StoredService

theorem run_attempt {α : Type} {computed : Except Fault α} {value : α}
    (h : computed = .ok value) (state : StoredUsers) :
    (attempt computed).run state = .ok value state := by
  rw [h]
  rfl

section Found

variable {α : Type} {users : Users} {outcome : Except HttpError Users}

/-- What is loaded are the stored records. -/
theorem yields_get {call : StoredUsers → StoreM α} {records : StoredUsers}
    (h : Yields (call records) records outcome) :
    Yields (do let records ← get; call records : StoreM α) records outcome := by
  cases outcome with
  | error raised => exact (run_bind_ok rfl).trans h
  | ok changed => exact Returns.bind rfl h

/-- The step before the rest of a call has returned. -/
theorem yields_bind {β : Type} {call : StoreM β} {rest : β → StoreM α} {records : StoredUsers}
    {value : β} (hcall : call.run records = .ok value records)
    (h : Yields (rest value) records outcome) : Yields (call >>= rest) records outcome := by
  cases outcome with
  | error raised => exact (run_bind_ok hcall).trans h
  | ok changed => exact Returns.bind hcall h

/-- An operation on the record of an id: 404 where there is none, and else it goes on with its
dictionary. -/
theorem performs_found {userId : String} {rest : StoredUsers → StoredRecord → StoreM α}
    (hmissing : users.findById userId = none → outcome = .error userNotFound)
    (hfound : ∀ record, users.findById userId = some record → ∀ records stored,
      users.StoredAs records → StoresRecord stored (userId, record) →
        Yields (rest records stored) records outcome) :
    Performs (do let records ← get; let record ← recordOf records userId; rest records record)
      users outcome := by
  intro records h
  refine yields_get ?_
  unfold recordOf
  cases hrecord : users.findById userId with
  | none =>
      rw [hmissing hrecord, h.findById_none hrecord]
      rfl
  | some record =>
      obtain ⟨stored, hstored, hstores⟩ := h.findById_some hrecord
      rw [hstored]
      exact yields_bind rfl (hfound record hrecord records stored h hstores)

end Found

/-! ## Administration of the typed store -/

/-- `update_user` assigns the same to the dictionary as to the record. -/
theorem storesRecord_edit (payload : UserUpdate) (newHash : String) {userId : String}
    {record : UserRecord} {stored : StoredRecord} (h : StoresRecord stored (userId, record)) :
    StoresRecord (UserUpdate.edit payload record.role newHash stored)
      (userId, FieldEdits.apply
        { role := payload.role, userType := payload.userType
          passwordHash := if payload.password.any (· ≠ "") then some newHash else none
          bumpTokenGen := payload.role.any (· ≠ record.role) || payload.password.any (· ≠ "") }
        record) := by
  obtain ⟨views, prefs, rfl⟩ := h
  refine ⟨views, prefs, ?_⟩
  have hrole : payload.role.or (some record.role) = some (payload.role.getD record.role) := by
    cases payload.role <;> rfl
  have hhash : (if payload.password.any (· ≠ "") then some newHash
      else some record.passwordHash) =
        some ((if payload.password.any (· ≠ "") then some newHash else none).getD
          record.passwordHash) := by
    split <;> rfl
  simp only [UserUpdate.edit, UserRecord.stored, FieldEdits.apply, hrole, hhash, Option.none_or]

theorem performs_updateUser (users : Users) (userId : String) (payload : UserUpdate)
    (newHash : String) :
    Performs (updateUser userId payload newHash) users
      (saved users (IsePortal.updateUser users userId payload newHash)) := by
  unfold IsePortal.updateUser
  refine performs_found (fun hnone => by rw [hnone]; rfl) ?_
  intro record hrecord records stored h hstores
  have hedit := storesRecord_edit payload newHash hstores
  have hnext := h.applyEdit hrecord fun _ => storesRecord_edit payload newHash
  rw [hrecord]
  obtain ⟨views, prefs, rfl⟩ := hstores
  refine Returns.bind rfl (.bind rfl (.bind rfl ?_))
  exact .of_run (run_attempt hedit.toPublic _) hnext

/-- The end of `set_endpoint_roles` and `set_user_templates`. -/
theorem returns_assign {users : Users} {records : StoredUsers} (h : users.StoredAs records)
    {userId : String} {record : UserRecord} (hrecord : users.findById userId = some record)
    {stored : StoredRecord} (hstores : StoresRecord stored (userId, record))
    {edit : StoredRecord → StoredRecord} {edits : FieldEdits}
    (hedit : ∀ stored, StoresRecord stored (userId, record) →
      StoresRecord (edit stored) (userId, edits.apply record)) :
    Returns (assign records userId stored edit) records fun _ next =>
      ((Change.edit userId edits).apply users).StoredAs next := by
  have hshown := (hedit stored hstores).toPublic
  have hnext := h.applyEdit hrecord hedit
  obtain ⟨views, prefs, rfl⟩ := hstores
  refine .bind rfl (.bind rfl ?_)
  exact .of_run (run_attempt hshown _) hnext

theorem performs_setEndpointRoles [PyText] (catalog : List String) (users : Users)
    (userId : String) (roles : List String) :
    Performs (setEndpointRoles catalog userId roles) users
      (saved users (IsePortal.setEndpointRoles catalog users userId roles)) := by
  unfold IsePortal.setEndpointRoles
  refine performs_found (fun hnone => by rw [hnone]; rfl) ?_
  intro record hrecord records stored h hstores
  rw [hrecord]
  dsimp only
  cases resolveRoles catalog roles [] [] with
  | error raised => rfl
  | ok resolved =>
      refine Returns.bind rfl (returns_assign h hrecord hstores ?_)
      rintro _ ⟨views, prefs, rfl⟩
      exact ⟨views, prefs, rfl⟩

theorem performs_setUserTemplates (templates : List String) (users : Users) (userId : String)
    (templateIds : List String) :
    Performs (setUserTemplates templates userId templateIds) users
      (saved users (IsePortal.setUserTemplates templates users userId templateIds)) := by
  unfold IsePortal.setUserTemplates
  refine performs_found (fun hnone => by rw [hnone]; rfl) ?_
  intro record hrecord records stored h hstores
  rw [hrecord]
  dsimp only
  cases templateIds.filter (· ∉ templates) with
  | cons id rest => rfl
  | nil =>
      refine returns_assign h hrecord hstores ?_
      rintro _ ⟨views, prefs, rfl⟩
      exact ⟨views, prefs, rfl⟩

/-- The admins are counted alike. -/
theorem adminsLeft_storesRecord {records : StoredUsers} {entries : List (String × UserRecord)}
    (h : List.Forall₂ StoresRecord records entries) (userId : String) :
    adminsLeft userId records =
      .ok (entries.countP fun entry => entry.2.role = .admin ∧ entry.1 ≠ userId) := by
  induction h with
  | nil => rfl
  | @cons stored entry rest others hhead _ ih =>
      rw [List.countP_cons]
      simp only [adminsLeft, hhead.role_eq, hhead.id_eq, getItem, ih, bind, Except.bind, pure,
        Except.pure]
      by_cases hrole : entry.2.role = .admin
      · by_cases hid : entry.1 = userId <;> simp [hrole, hid]
      · simp [hrole]

/-- Without the id, the dictionaries are those of the other records. -/
theorem without_storesRecord {records : StoredUsers} {entries : List (String × UserRecord)}
    (h : List.Forall₂ StoresRecord records entries) (userId : String) :
    ∃ remaining, without userId records = .ok remaining ∧
      List.Forall₂ StoresRecord remaining (entries.filter fun entry => entry.1 ≠ userId) := by
  induction h with
  | nil => exact ⟨[], rfl, .nil⟩
  | @cons stored entry rest others hhead _ ih =>
      obtain ⟨remaining, hremaining, hstores⟩ := ih
      simp only [without, hhead.id_eq, getItem, hremaining, bind, Except.bind, pure, Except.pure]
      by_cases hid : entry.1 = userId
      · refine ⟨remaining, by simp [hid], ?_⟩
        rw [List.filter_cons_of_neg (by simp [hid])]
        exact hstores
      · refine ⟨stored :: remaining, by simp [hid], ?_⟩
        rw [List.filter_cons_of_pos (by simp [hid])]
        exact .cons hhead hstores

theorem performs_deleteUser (users : Users) (userId requesterId : String) :
    Performs (deleteUser userId requesterId) users
      (saved users (IsePortal.deleteUser users userId requesterId)) := by
  unfold IsePortal.deleteUser deleteUser
  by_cases hself : userId = requesterId
  · rw [if_pos hself, if_pos hself]
    exact fun records _ => rfl
  · rw [if_neg hself, if_neg hself]
    refine performs_found (fun hnone => by rw [hnone]; rfl) ?_
    intro record hrecord records stored h hstores
    have hadmins : adminsLeft userId records = .ok (IsePortal.adminsLeft users userId) :=
      adminsLeft_storesRecord h userId
    have hrole : getItem "role" stored.role = .ok record.role := by
      rw [hstores.role_eq]
      rfl
    rw [hrecord]
    dsimp only
    refine yields_bind (run_attempt hadmins records) (yields_bind (run_attempt hrole records) ?_)
    by_cases hlast : record.role = .admin ∧ IsePortal.adminsLeft users userId = 0
    · rw [if_pos hlast, if_pos hlast]
      rfl
    · rw [if_neg hlast, if_neg hlast, hstores.username_eq]
      obtain ⟨remaining, hremaining, hnext⟩ := without_storesRecord h userId
      refine Returns.bind rfl (.bind (run_attempt hremaining records) ?_)
      exact .of_run rfl hnext

/-- The tokens of the same user are revoked. -/
theorem performs_revokeTokens (users : Users) (userId : String) :
    Performs (revokeTokens userId) users (.ok ((IsePortal.revokeTokens userId).apply users)) := by
  intro records h
  refine Returns.bind rfl (.of_run rfl ?_)
  unfold incrementTokenGen IsePortal.revokeTokens
  -- without a record there is nothing to revoke, on either side
  cases hrecord : users.findById userId with
  | none =>
      have hget : users.get? userId = none := hrecord
      rw [Change.apply, Dict.modify, hget, editFirst_of_none (h.findById_none hrecord)]
      exact h
  | some record =>
      refine h.applyEdit hrecord ?_
      rintro _ ⟨views, prefs, rfl⟩
      exact ⟨views, prefs, rfl⟩

/-- `create_user` in terms of its password check. -/
theorem createUser_eq [PyText] (tacacsMode : Bool) (users : Users) (payload : UserCreate)
    (newId newHash now : String) :
    IsePortal.createUser tacacsMode users payload newId newHash now =
      if (users.findByUsername payload.username).isSome then
        .error ⟨409, "Brugernavn findes allerede"⟩
      else
        (checkPassword tacacsMode payload.password).map fun _ =>
          .create newId
            { username := payload.username, passwordHash := newHash, role := payload.role
              createdAt := now } := by
  unfold IsePortal.createUser checkPassword
  split
  · rfl
  · by_cases hpassword : payload.password ≠ ""
    · simp only [if_pos hpassword]
      cases validatePasswordStrength payload.password <;> rfl
    · simp only [if_neg hpassword]
      cases tacacsMode <;> rfl

/-- The role of its name is assigned to a record that has just been created. -/
theorem apply_assignOwnRole (users : Users) (newId username : String) (record : UserRecord) :
    (assignOwnRole newId username).apply (users.set newId record) =
      users.set newId (FieldEdits.apply { assignedEndpointRoles := some [username] } record) := by
  rw [assignOwnRole, Change.apply, Dict.modify, Dict.get?_set_self]
  exact Dict.set_set ..

/-- A user is created with an id that is new; the role of the same name is assigned afterwards. -/
theorem performs_createUser [PyText] (tacacsMode roleEnsured : Bool) (users : Users)
    (payload : UserCreate) {newId : String} (hnew : newId ∉ users.keys) (newHash now : String) :
    Performs (createUser tacacsMode roleEnsured payload newId newHash now) users
      ((saved users (IsePortal.createUser tacacsMode users payload newId newHash now)).map
        fun created =>
          if roleEnsured then (assignOwnRole newId payload.username).apply created
          else created) := by
  rw [createUser_eq]
  intro records h
  refine yields_get ?_
  rw [isSome_of_rel (h.findByUsername payload.username)]
  by_cases hname : (users.findByUsername payload.username).isSome
  · rw [if_pos hname, if_pos hname]
    rfl
  · rw [if_neg hname, if_neg hname]
    cases checkPassword tacacsMode payload.password with
    | error raised => rfl
    | ok checked =>
        refine Returns.bind rfl (.bind rfl ?_)
        cases roleEnsured with
        | false => exact .of_run rfl (h.append hnew ⟨none, none, rfl⟩)
        | true =>
            have hassigned := apply_assignOwnRole users newId payload.username
              { username := payload.username, passwordHash := newHash, role := payload.role
                createdAt := now }
            refine .bind rfl (.of_run rfl ?_)
            refine (congrArg (Users.StoredAs · _) hassigned).mpr ?_
            exact h.append hnew ⟨none, none, rfl⟩

/-- The first admin is created where there are no users. -/
theorem performs_setupFirstAdmin (users : Users) (username newId newHash now : String)
    (seconds : Nat) :
    Performs (setupFirstAdmin username newId newHash now seconds) users
      (if setupRequired users then
        .ok ((IsePortal.setupFirstAdmin username newId newHash now).apply users)
      else .error ⟨400, "Opsætning er allerede gennemført"⟩) := by
  intro records h
  refine yields_get ?_
  rw [show records.length = users.size from List.Forall₂.length_eq h]
  unfold setupRequired
  by_cases hsize : users.size = 0
  · have hnew : newId ∉ users.keys := by
      rw [Dict.keys, List.length_eq_zero_iff.mp hsize]
      exact List.not_mem_nil
    rw [if_neg (not_not.mpr hsize), if_pos (decide_eq_true hsize)]
    exact Returns.bind rfl (.bind rfl (.of_run rfl (h.append hnew ⟨none, none, rfl⟩)))
  · rw [if_pos hsize, if_neg (by rwa [decide_eq_true_eq])]
    rfl

/-! ## Login to the typed store -/

/-- The store a login leaves, or what it raises; `locked` is the 429 of a locked account. -/
def loginSaved (locked : Option HttpError) (users : Users) : LoginVerdict → Except HttpError Users
  | .success change => .ok (change.apply users)
  | .profileMissing name =>
      .error ⟨401, "Operatørprofil '" ++ name ++ "' er ikke konfigureret i portalen. " ++
        "Kontakt din administrator."⟩
  | .blocked =>
      .error ⟨401, "Denne konto autentificeres via TACACS+ og kan ikke bruges til lokal login."⟩
  | .tacacsRefused => .error (locked.getD ⟨401, "Forkert brugernavn eller password"⟩)
  | .badCredentials => .error (locked.getD ⟨401, "Forkert brugernavn eller password"⟩)

/-- The same logins go to TACACS. -/
theorem useTacacs_of_rel (cfg : AuthConfig) {stored : Option StoredRecord}
    {entry : Option (String × UserRecord)} (h : Option.Rel StoresRecord stored entry) :
    useTacacs cfg stored = IsePortal.useTacacs cfg entry := by
  have hadmin : isAdminUser stored = IsePortal.isAdminUser entry := by
    cases h with
    | none => rfl
    | some hstores =>
        obtain ⟨views, prefs, rfl⟩ := hstores
        exact decide_eq_decide.mpr (by simp [UserRecord.stored, UserRecord.type])
  rw [useTacacs, IsePortal.useTacacs, hadmin]

/-- The same profiles exist. -/
theorem anyOperator_storesRecord {records : StoredUsers} {entries : List (String × UserRecord)}
    (h : List.Forall₂ StoresRecord records entries) :
    (records.any fun record => record.userType = some .operator) =
      entries.any fun entry => entry.2.userType = some .operator := by
  induction h with
  | nil => rfl
  | cons hhead _ ih =>
      obtain ⟨views, prefs, rfl⟩ := hhead
      rw [List.any_cons, List.any_cons, ih]
      rfl

section Login

variable {users : Users} {records : StoredUsers} (h : users.StoredAs records)
include h

/-- A profile grants the same. -/
theorem run_tacacsGrant (name username : String) :
    (tacacsGrant records name username).run records =
      match IsePortal.tacacsGrant users name username with
      | some granted => .ok granted records
      | none =>
          .error (.http ⟨401, "Operatørprofil '" ++ name ++ "' er ikke konfigureret i portalen. " ++
            "Kontakt din administrator."⟩) records := by
  have hprofile : Option.Rel StoresRecord (profileRecord records name)
      (users.entries.find? fun entry =>
        entry.2.username = name ∧ entry.2.userType ≠ some .tacacsShadow) := by
    refine find?_storesRecord h ?_
    rintro _ entry ⟨views, prefs, rfl⟩
    simp [UserRecord.stored]
  unfold tacacsGrant IsePortal.tacacsGrant IsePortal.profileRecord anyOperatorProfiles
  revert hprofile
  generalize profileRecord records name = stored
  generalize (users.entries.find? fun entry =>
    entry.2.username = name ∧ entry.2.userType ≠ some .tacacsShadow) = entry
  rintro (⟨views, prefs, rfl⟩ | _)
  · rfl
  · rw [anyOperator_storesRecord h]
    dsimp only [Option.map_none]
    cases users.entries.any fun entry => entry.2.userType = some .operator <;> rfl

/-- The shadow record is made or brought up to date alike. -/
theorem upsertShadow_storedAs (username : String) (role : Role)
    (endpointRoles templates : List String) (now : String) :
    Users.StoredAs
      ((IsePortal.upsertShadow username role endpointRoles templates now).apply users)
      (upsertShadow records username role endpointRoles templates now) := by
  unfold IsePortal.upsertShadow upsertShadow
  rw [Change.apply]
  cases hrecord : users.findById (shadowId username) with
  | none =>
      rw [h.findById_none hrecord]
      exact h.append (Dict.get?_eq_none_iff.mp hrecord) ⟨some [], some {}, rfl⟩
  | some record =>
      obtain ⟨stored, hfound, -⟩ := h.findById_some hrecord
      rw [hfound]
      refine h.editById hrecord ?_
      rintro _ ⟨views, prefs, rfl⟩
      exact ⟨views, prefs, rfl⟩

/-- After TACACS has accepted. -/
theorem yields_tacacsLogin (locked : Option HttpError) (result : TacacsAuthResult)
    (username now : String) (seconds : Nat) :
    Yields (tacacsLogin records result username now seconds) records
      (loginSaved locked users (IsePortal.tacacsLogin users result username now)) := by
  unfold IsePortal.tacacsLogin
  have hgrant := run_tacacsGrant h (profileName result username) username
  dsimp only
  cases hgranted : IsePortal.tacacsGrant users (profileName result username) username with
  | none =>
      rw [hgranted] at hgrant
      exact run_bind_error hgrant
  | some granted =>
      rw [hgranted] at hgrant
      obtain ⟨role, endpointRoles, templates⟩ := granted
      refine Returns.bind hgrant (.bind rfl (.of_run rfl ?_))
      exact upsertShadow_storedAs h username role _ templates now

/-- Locally. -/
theorem yields_localLogin [PyText] (verify : String → String → Bool) (locked : Option HttpError)
    (username password now : String) (seconds : Nat) :
    Yields (localLogin verify locked records username password now seconds) records
      (loginSaved locked users
        (IsePortal.localLogin verify (users.findByUsername username) password now)) := by
  cases hentry : users.findByUsername username with
  | none =>
      have hnone : records.findByUsername username = none :=
        eq_none_of_rel (h.findByUsername username) hentry
      unfold localLogin
      rw [hnone]
      rfl
  | some entry =>
      obtain ⟨userId, record⟩ := entry
      obtain ⟨stored, hfound, hstores⟩ := exists_of_rel (h.findByUsername username) hentry
      have hrecord : users.findById userId = some record :=
        Dict.get?_eq_some_iff.mpr (List.mem_of_find?_eq_some hentry)
      have hstamp : ∀ stored, StoresRecord stored (userId, record) →
          StoresRecord (stampLogin now stored)
            (userId, FieldEdits.apply { lastLogin := some now } record) := by
        rintro _ ⟨views, prefs, rfl⟩
        exact ⟨views, prefs, rfl⟩
      have hshown := (hstamp stored hstores).toPublic
      have hnext : Users.StoredAs
          ((Change.edit userId { lastLogin := some now }).apply users)
          (records.editFirst (hasUsername username) (stampLogin now)) := by
        rw [Change.apply, Dict.modify, show users.get? userId = some record from hrecord]
        exact h.editFirst (fun _ _ hsame => hsame.hasUsername username) hentry hstamp
      unfold localLogin IsePortal.localLogin
      rw [hfound]
      obtain ⟨views, prefs, rfl⟩ := hstores
      dsimp only [UserRecord.stored, Option.getD_some]
      by_cases hremote : record.userType = some .operator ∨ record.userType = some .tacacsShadow
      · rw [if_pos hremote, if_pos hremote]
        rfl
      · rw [if_neg hremote, if_neg hremote]
        by_cases hverify : verify password record.passwordHash = true
        -- the time is saved, then four keys are read, which a whole record has
        · rw [if_pos hverify, if_pos hverify]
          refine Returns.bind rfl (.bind rfl (.bind rfl (.bind rfl ?_)))
          exact .bind (run_attempt hshown _) (.of_run rfl hnext)
        · rw [if_neg hverify, if_neg hverify]
          rfl

end Login

/-- A login does the same on the store, whatever the lockout answers. -/
theorem performs_login [PyText] (cfg : AuthConfig) (tacacs : TacacsAuthResult)
    (verify : String → String → Bool) (locked : Option HttpError) (users : Users)
    (username password now : String) (seconds : Nat) :
    Performs (login cfg tacacs verify locked username password now seconds) users
      (loginSaved locked users
        (IsePortal.login cfg tacacs verify users username password now)) := by
  intro records h
  have hlocal := yields_localLogin h verify locked username password now seconds
  have hroute := useTacacs_of_rel cfg (h.findByUsername username)
  unfold IsePortal.login
  refine yields_get ?_
  dsimp only
  rw [hroute]
  by_cases htacacs : IsePortal.useTacacs cfg (users.findByUsername username) = true
  · rw [if_pos htacacs, if_pos htacacs]
    by_cases haccepted : tacacs.success = true
    · rw [if_pos haccepted, if_pos haccepted]
      exact yields_tacacsLogin h locked tacacs username now seconds
    · rw [if_neg haccepted, if_neg haccepted]
      by_cases hfallback : cfg.tacacsFallbackToLocal = true
      · rw [if_pos hfallback, if_pos hfallback]
        exact hlocal
      · rw [if_neg hfallback, if_neg hfallback]
        rfl
  · rw [if_neg htacacs, if_neg htacacs]
    exact hlocal

end StoredService

end IsePortal
