import IsePortal.Api.EndpointRoutes
import IsePortal.Service.UpdateFrame

/-!
# Rolling an event back

`POST /audit/{id}/rollback` restores the state before an event from its before-snapshot
(`app/api/audit.py`). The snapshot is a flattened `EndpointDetail`; the rollback makes an update of
it and has `update_endpoint` write it. Of the attributes the portal manages, eight are copied from
the snapshot, three are sent empty, and four are left out, which leaves them as the operation left
them. `rollback_restores_iff`: the rollback takes an endpoint back exactly where that does no harm.
-/

namespace IsePortal

open Library

/-! ## Writes -/

/-- An endpoint after ISE took a `PUT`: what is sent replaces what is stored, and the attribute
block is merged. A group without a flag is assigned statically. -/
def RawEndpoint.afterPut (raw : RawEndpoint) (fields : PutFields) : RawEndpoint :=
  { raw with
    description := fields.description.or raw.description
    groupId := fields.groupId.getD raw.groupId
    staticGroupAssignment :=
      fields.staticGroupAssignment.getD (fields.groupId.isSome || raw.staticGroupAssignment)
    customAttributes := raw.customAttributes.merge fields.customAttributes }

/-- An endpoint after the writes ISE took for it. -/
def RawEndpoint.afterWrites (raw : RawEndpoint) (writes : List IseWrite) : RawEndpoint :=
  writes.foldl (fun raw write =>
    match write with
    | .put _ fields => raw.afterPut fields
    | _ => raw) raw

section Operations

variable [PyText]

/-- What `update_endpoint` sends, or the text of its `ValueError`. -/
def updateFields (psk : PskSettings) (stamp : String) (update : EndpointUpdate)
    (autoTagUsername : Option String) (before : Option EndpointDetail) :
    Except String PutFields :=
  match updateAttrs psk update.customAttributes autoTagUsername before stamp with
  | .error text => .error text
  | .ok ca =>
      .ok
        { description := update.description
          groupId := update.groupId
          staticGroupAssignment := update.staticGroupAssignment
          customAttributes := ca }

/-- The operations whose events hold a snapshot the rollback goes by. -/
inductive SnapshotOp where
  | updateEndpoint (req : EndpointUpdate) (autoTagUsername : Option String) (stamp : String)
  | decommission
  | applyTemplate (template : Template)

/-- The action of the event. -/
def SnapshotOp.action : SnapshotOp → String
  | .updateEndpoint .. => "updated"
  | .decommission => "decommissioned"
  | .applyTemplate _ => "template_applied"

/-- What the operation sends, once it has recorded the snapshot. -/
def SnapshotOp.fields (settings : PortalSettings) (snap : EndpointDetail) :
    SnapshotOp → Except String PutFields
  | .updateEndpoint req autoTagUsername stamp =>
      updateFields settings.psk stamp req autoTagUsername (some snap)
  | .decommission => .ok { customAttributes := decommissionAttrs settings }
  | .applyTemplate template =>
      .ok
        { description := orNone template.description
          groupId := orNone template.groupId
          staticGroupAssignment := template.staticGroupAssignment
          customAttributes := template.customAttributes.set hiddenAttr "true" }

end Operations

/-! ## The rollback -/

/-- `_endpoint_update_from_snapshot` -/
def endpointUpdateFromSnapshot (snap : EndpointDetail) : EndpointUpdate where
  groupId := snap.groupId
  description := snap.description
  staticGroupAssignment := some snap.staticGroup
  customAttributes := some
    { type := snap.endpointType
      owner := snap.owner
      lokation := snap.lokation
      authzVlan := snap.authzVlan
      authzACL := snap.authzAcl
      platformType := snap.platformType
      hypervisionStatus := some snap.status
      hypervisionActive := some snap.activeStatus }

/-- What a rollback did, and its answer: the endpoint as it is read afterwards, with a message. An
`IseApiError` of that last read is not caught. -/
structure Rollback where
  writes : List IseWrite := []
  answer : Except (HttpError ⊕ IseApiError) (Option EndpointDetail × String)

/-- A refusal with 400. -/
def Rollback.refused (detail : String) : Rollback where
  answer := .error (.inl ⟨400, detail⟩)

section Routes

variable [PyText] [DetailCodec]

/-- The snapshot is written, and the endpoint read again. -/
def writeSnapshot (ctx : RouteContext) (endpointId : EndpointId) (snap : EndpointDetail)
    (message : String) : Rollback :=
  let current := (ctx.portal.getEndpoint ctx.lookups endpointId none true false).toOption
  match updateFields ctx.settings.psk ctx.stamp (endpointUpdateFromSnapshot snap) none current with
  | .error text => { answer := .error (.inl ⟨500, text⟩) }
  | .ok fields =>
      let written := putEndpoint ctx.portal.ise endpointId fields
      match written.result with
      | .error exc => { answer := .error (.inl ⟨502, "ISE afviste update: " ++ exc.text⟩) }
      | .ok () =>
          { writes := written.writes
            answer :=
              match ctx.afterUpdate.getEndpoint ctx.lookups endpointId none false false with
              | .error exc => .error (.inr exc)
              | .ok restored => .ok (some restored, message) }

/-- The branches of `_rollback_endpoint` that restore a snapshot. -/
def restoreSnapshot (ctx : RouteContext) (resourceId : Option String)
    (before : Option EndpointDetail) (missing : String) (message : String → String) : Rollback :=
  match before, resourceId.filter (· ≠ "") with
  | some snap, some endpointId => writeSnapshot ctx endpointId snap (message endpointId)
  | _, _ => .refused missing

/-- `_rollback_endpoint` -/
def rollbackEndpoint (ctx : RouteContext) (action : String) (resourceId : Option String)
    (before : Option EndpointDetail) : Rollback :=
  if action = "created" then
    match resourceId.filter (· ≠ "") with
    | none => .refused "Mangler resource_id til rollback af oprettelse"
    | some endpointId =>
        let deleted := deleteEndpoint ctx.portal.ise endpointId
        match deleted.result with
        | .error exc => { answer := .error (.inl ⟨502, "ISE afviste delete: " ++ exc.text⟩) }
        | .ok () =>
            { writes := deleted.writes
              answer := .ok (none, "Endpoint " ++ endpointId ++
                " slettet (rollback af oprettelse)") }
  else if action = "updated" then
    restoreSnapshot ctx resourceId before "Mangler before-snapshot til rollback af update"
      fun endpointId => "Endpoint " ++ endpointId ++ " rullet tilbage"
  else if action = "decommissioned" then
    restoreSnapshot ctx resourceId before
      "Mangler before-snapshot til rollback af dekommissionering"
      fun endpointId => "Endpoint " ++ endpointId ++ " gendannet fra dekommissionering"
  else if action = "template_applied" then
    restoreSnapshot ctx resourceId before
      ("Mangler before-snapshot til rollback af template_applied — " ++
        "ældre events har ingen snapshot")
      fun endpointId => "Endpoint " ++ endpointId ++
        " rullet tilbage til tilstand før skabelon-anvendelse"
  else if action = "deleted" then
    .refused "Rollback af sletning er ikke understøttet — genopret manuelt"
  else .refused ("Rollback understøttes ikke for action=" ++ action)

end Routes

/-! ## What the portal manages -/

/-- The attributes the rollback copies, with what the snapshot has for them. -/
def copiedAttrs (snap : EndpointDetail) : List (String × String) :=
  [("Type", snap.endpointType), ("Owner", snap.owner), ("Lokation", snap.lokation),
    ("AuthzVlan", snap.authzVlan), ("AuthzACL", snap.authzAcl),
    ("PlatformType", snap.platformType), ("HypervisionStatus", snap.status),
    (activeAttr, snap.activeStatus)]

/-- The attributes the rollback sends empty. -/
def clearedAttrs : List String := ["RegistretBy", guestRegistrationAttr, rolesAttr]

/-- The attributes the rollback leaves out. -/
def omittedAttrs : List String :=
  [pskModeAttr, pskKeyAttr, guestExperyDateAttr, guestAccessExpireAttr]

/-- Two states of an endpoint are the same in what the portal manages; a missing attribute counts
as an empty one. -/
structure SameManaged (first second : RawEndpoint) : Prop where
  attrs : ∀ name ∈ textFields ++ nullableFields,
    first.customAttributes.attr name = second.customAttributes.attr name
  group : first.groupId = second.groupId
  staticGroup : first.staticGroupAssignment = second.staticGroupAssignment
  description : first.description = second.description

/-- The rollback does no harm: what it copies is the value of the state before the operation, what
it sends empty was empty in that state, and what it leaves out has not been changed. -/
structure Recoverable (snap : EndpointDetail) (state changed : RawEndpoint) : Prop where
  copied : ∀ entry ∈ copiedAttrs snap, entry.2 = state.customAttributes.attr entry.1
  cleared : ∀ name ∈ clearedAttrs, state.customAttributes.attr name = ""
  omitted : ∀ name ∈ omittedAttrs,
    changed.customAttributes.attr name = state.customAttributes.attr name
  group : ∀ groupId, snap.groupId = some groupId → groupId = state.groupId
  groupOmitted : snap.groupId = none → changed.groupId = state.groupId
  staticGroup : snap.staticGroup = state.staticGroupAssignment
  description : ∀ text, snap.description = some text → state.description = some text
  descriptionOmitted : snap.description = none → changed.description = state.description

/-! ## The attributes of a rollback -/

/-- The attribute block made of a snapshot. -/
def snapshotAttrs (snap : EndpointDetail) : Attrs :=
  requestAttrs (endpointUpdateFromSnapshot snap).customAttributes

theorem get?_snapshotAttrs_copied (snap : EndpointDetail) :
    ∀ entry ∈ copiedAttrs snap, (snapshotAttrs snap).get? entry.1 = some entry.2 := by
  simp [copiedAttrs, snapshotAttrs, requestAttrs, endpointUpdateFromSnapshot, modelDump, setSome,
    Dict.get?_set, guestRegistrationAttr, rolesAttr, activeAttr]

theorem get?_snapshotAttrs_cleared (snap : EndpointDetail) :
    ∀ name ∈ clearedAttrs, (snapshotAttrs snap).get? name = some "" := by
  simp [clearedAttrs, snapshotAttrs, requestAttrs, endpointUpdateFromSnapshot, modelDump, setSome,
    Dict.get?_set, guestRegistrationAttr, rolesAttr, activeAttr]

theorem get?_snapshotAttrs_omitted (snap : EndpointDetail) :
    ∀ name ∈ omittedAttrs, (snapshotAttrs snap).get? name = none := by
  simp [omittedAttrs, snapshotAttrs, requestAttrs, endpointUpdateFromSnapshot, modelDump, setSome,
    Dict.get?_set, guestRegistrationAttr, rolesAttr, activeAttr, pskModeAttr, pskKeyAttr,
    guestExperyDateAttr, guestAccessExpireAttr]

/-- Every attribute the portal manages is copied, sent empty or left out. -/
theorem forall_managed_iff (snap : EndpointDetail) (P : String → Prop) :
    (∀ name ∈ textFields ++ nullableFields, P name) ↔
      (∀ entry ∈ copiedAttrs snap, P entry.1) ∧ (∀ name ∈ clearedAttrs, P name) ∧
        ∀ name ∈ omittedAttrs, P name := by
  simp only [textFields, nullableFields, copiedAttrs, clearedAttrs, omittedAttrs,
    List.cons_append, List.nil_append, List.forall_mem_cons, List.not_mem_nil, false_implies,
    implies_true, and_true]
  tauto

/-- The stamps of the portal are no attributes it manages. -/
theorem ne_stamps_of_managed :
    ∀ name ∈ textFields ++ nullableFields, name ≠ hiddenAttr ∧ name ≠ registeredAtAttr := by
  decide

/-- Where the request has an active status, nothing but the registration date is stamped. -/
theorem get?_stampFromSnapshot_active {before : Option EndpointDetail} {stamp : String} {ca : Attrs}
    {status name : String} (hactive : ca.get? activeAttr = some status)
    (hname : name ≠ registeredAtAttr) :
    (stampFromSnapshot before stamp ca).get? name = ca.get? name := by
  unfold stampFromSnapshot
  cases before with
  | none => exact get?_stampRegisteredAt_ne ca stamp hname
  | some detail =>
      simp only [hactive, Option.isNone_some, Bool.false_and, Bool.false_eq_true, if_false]
      exact get?_stampRegisteredAt_ne ca _ hname

section Update

variable [PyText]

/-- A request without a key, made by an admin, is written with the stamps of the portal. -/
theorem updateAttrs_without_key (psk : PskSettings) {attrs : Option CustomAttrs}
    (hkey : Attrs.attr ((requestAttrs attrs).set hiddenAttr "true") pskKeyAttr = "")
    (before : Option EndpointDetail) (stamp : String) :
    updateAttrs psk attrs none before stamp =
      .ok (stampFromSnapshot before stamp ((requestAttrs attrs).set hiddenAttr "true")) := by
  have hvalid : validatePsk psk ((requestAttrs attrs).set hiddenAttr "true") = .ok () := by
    simp only [validatePsk, hkey]
    -- without a key neither check of `_validate_psk` can fail
    rw [if_neg (by decide), if_neg fun h => h.2 rfl]
  have hencoded : pskEncodeCa psk ((requestAttrs attrs).set hiddenAttr "true") =
      (requestAttrs attrs).set hiddenAttr "true" := by
    simp only [pskEncodeCa, hkey]
    rw [if_neg fun h => h rfl]
  simp only [updateAttrs, applyAutoTag, hvalid, hencoded]

/-- The update of a rollback is always prepared, and sends the attributes of the snapshot beside
the stamps of the portal. -/
theorem updateFields_snapshot (psk : PskSettings) (stamp : String) (snap : EndpointDetail)
    (current : Option EndpointDetail) :
    ∃ ca, updateFields psk stamp (endpointUpdateFromSnapshot snap) none current =
        .ok
          { description := snap.description, groupId := snap.groupId
            staticGroupAssignment := some snap.staticGroup, customAttributes := ca } ∧
      ∀ name ∈ textFields ++ nullableFields, ca.get? name = (snapshotAttrs snap).get? name := by
  have hkept : ∀ name, name ≠ hiddenAttr →
      ((snapshotAttrs snap).set hiddenAttr "true").get? name = (snapshotAttrs snap).get? name :=
    fun name hname => Dict.get?_set_ne _ _ hname
  have hkey : Attrs.attr ((snapshotAttrs snap).set hiddenAttr "true") pskKeyAttr = "" := by
    unfold Attrs.attr
    rw [hkept _ (by decide), get?_snapshotAttrs_omitted snap _ (by decide)]
    rfl
  have hactive : ((snapshotAttrs snap).set hiddenAttr "true").get? activeAttr =
      some snap.activeStatus := by
    rw [hkept _ (by decide)]
    exact get?_snapshotAttrs_copied snap (activeAttr, snap.activeStatus) (by simp [copiedAttrs])
  refine ⟨stampFromSnapshot current stamp ((snapshotAttrs snap).set hiddenAttr "true"), ?_, ?_⟩
  · unfold updateFields
    rw [updateAttrs_without_key psk hkey current stamp]
    rfl
  · intro name hname
    obtain ⟨hhidden, hregistered⟩ := ne_stamps_of_managed name hname
    rw [get?_stampFromSnapshot_active hactive hregistered]
    exact hkept name hhidden

end Update

/-! ## When a rollback restores -/

/-- The attributes after a rollback are those of the state before the operation exactly where what
was copied, sent empty or left out does no harm. -/
theorem managedAttrs_merge_iff {snap : EndpointDetail} {ca : Attrs}
    (hca : ∀ name ∈ textFields ++ nullableFields, ca.get? name = (snapshotAttrs snap).get? name)
    (state changed : Attrs) :
    (∀ name ∈ textFields ++ nullableFields,
        Attrs.attr (changed.merge ca) name = state.attr name) ↔
      (∀ entry ∈ copiedAttrs snap, entry.2 = state.attr entry.1) ∧
        (∀ name ∈ clearedAttrs, state.attr name = "") ∧
        ∀ name ∈ omittedAttrs, changed.attr name = state.attr name := by
  obtain ⟨hcopied, hcleared, homitted⟩ :=
    (forall_managed_iff snap (· ∈ textFields ++ nullableFields)).mp fun _ hname => hname
  have hattr : ∀ name ∈ textFields ++ nullableFields, Attrs.attr (changed.merge ca) name =
      ((snapshotAttrs snap).get? name).getD (changed.attr name) := by
    intro name hname
    rw [Attrs.attr_merge, hca name hname]
  rw [forall_managed_iff snap]
  refine and_congr ?_ (and_congr ?_ ?_)
  · refine forall₂_congr fun entry hentry => ?_
    rw [hattr _ (hcopied entry hentry), get?_snapshotAttrs_copied snap entry hentry]
    rfl
  · refine forall₂_congr fun name hname => ?_
    rw [hattr _ (hcleared name hname), get?_snapshotAttrs_cleared snap name hname, eq_comm]
    rfl
  · refine forall₂_congr fun name hname => ?_
    rw [hattr _ (homitted name hname), get?_snapshotAttrs_omitted snap name hname]
    rfl

/-- Writing the update of a snapshot takes an endpoint back exactly where that does no harm. -/
theorem sameManaged_afterPut_iff {snap : EndpointDetail} {ca : Attrs}
    (hca : ∀ name ∈ textFields ++ nullableFields, ca.get? name = (snapshotAttrs snap).get? name)
    (state changed : RawEndpoint) :
    SameManaged
        (changed.afterPut
          { description := snap.description, groupId := snap.groupId
            staticGroupAssignment := some snap.staticGroup, customAttributes := ca })
        state ↔
      Recoverable snap state changed := by
  have hmanaged := managedAttrs_merge_iff hca state.customAttributes changed.customAttributes
  constructor
  -- a field the snapshot has is overwritten, one it does not have is left
  · intro h
    obtain ⟨hcopied, hcleared, homitted⟩ := hmanaged.mp h.attrs
    refine ⟨hcopied, hcleared, homitted, ?_, ?_, h.staticGroup, ?_, ?_⟩
    · intro groupId hgroup
      have hsame := h.group
      simp only [RawEndpoint.afterPut, hgroup, Option.getD_some] at hsame
      exact hsame
    · intro hgroup
      have hsame := h.group
      simp only [RawEndpoint.afterPut, hgroup, Option.getD_none] at hsame
      exact hsame
    · intro text htext
      have hsame := h.description
      simp only [RawEndpoint.afterPut, htext, Option.some_or] at hsame
      exact hsame.symm
    · intro htext
      have hsame := h.description
      simp only [RawEndpoint.afterPut, htext, Option.none_or] at hsame
      exact hsame
  · intro h
    refine ⟨hmanaged.mpr ⟨h.copied, h.cleared, h.omitted⟩, ?_, h.staticGroup, ?_⟩
    · cases hgroup : snap.groupId with
      | none => exact h.groupOmitted hgroup
      | some groupId => exact h.group groupId hgroup
    · cases htext : snap.description with
      | none => exact h.descriptionOmitted htext
      | some text => exact (h.description text htext).symm

section Restores

variable [PyText] [DetailCodec]

/-- The endpoint after the operation; one that is refused leaves it, and records no event. -/
def SnapshotOp.changed (settings : PortalSettings) (snap : EndpointDetail) (op : SnapshotOp)
    (state : RawEndpoint) : RawEndpoint :=
  match op.fields settings snap with
  | .error _ => state
  | .ok fields => state.afterPut fields

/-- The rollback is written: the event names its endpoint, and ISE takes the write. -/
def Taken (ctx : RouteContext) (endpointId : EndpointId) : Prop :=
  endpointId ≠ "" ∧ ctx.portal.ise.put endpointId = .ok ()

/-- Every operation is rolled back by restoring its snapshot. -/
theorem rollbackEndpoint_action (ctx : RouteContext) (op : SnapshotOp)
    (resourceId : Option String) (before : Option EndpointDetail) :
    ∃ missing message, rollbackEndpoint ctx op.action resourceId before =
      restoreSnapshot ctx resourceId before missing message := by
  unfold rollbackEndpoint
  cases op with
  | updateEndpoint req autoTagUsername stamp =>
      simp only [SnapshotOp.action, String.reduceEq, if_false, if_true]
      exact ⟨_, _, rfl⟩
  | decommission =>
      simp only [SnapshotOp.action, String.reduceEq, if_false, if_true]
      exact ⟨_, _, rfl⟩
  | applyTemplate template =>
      simp only [SnapshotOp.action, String.reduceEq, if_false, if_true]
      exact ⟨_, _, rfl⟩

/-- The update of the snapshot is all that is written, if ISE takes it. -/
theorem writeSnapshot_writes (ctx : RouteContext) (endpointId : EndpointId)
    (snap : EndpointDetail) (message : String) {fields : PutFields}
    (hfields : updateFields ctx.settings.psk ctx.stamp (endpointUpdateFromSnapshot snap) none
      (ctx.portal.getEndpoint ctx.lookups endpointId none true false).toOption = .ok fields) :
    (writeSnapshot ctx endpointId snap message).writes =
      if ctx.portal.ise.put endpointId = .ok () then [.put endpointId fields] else [] := by
  unfold writeSnapshot
  dsimp only
  rw [hfields]
  unfold putEndpoint
  cases ctx.portal.ise.put endpointId <;> rfl

/-- A rollback that is written writes the update of the snapshot, any other writes nothing. -/
theorem restoreSnapshot_writes (ctx : RouteContext) (endpointId : EndpointId)
    (snap : EndpointDetail) (missing : String) (message : String → String) {fields : PutFields}
    (hfields : updateFields ctx.settings.psk ctx.stamp (endpointUpdateFromSnapshot snap) none
      (ctx.portal.getEndpoint ctx.lookups endpointId none true false).toOption = .ok fields) :
    (Taken ctx endpointId →
        (restoreSnapshot ctx (some endpointId) (some snap) missing message).writes =
          [.put endpointId fields]) ∧
      (¬ Taken ctx endpointId →
        (restoreSnapshot ctx (some endpointId) (some snap) missing message).writes = []) := by
  unfold restoreSnapshot
  by_cases hid : endpointId = ""
  · have hunnamed : (some endpointId).filter (· ≠ "") = none := by simp [hid]
    rw [hunnamed]
    exact ⟨fun h => absurd hid h.1, fun _ => rfl⟩
  · have hnamed : (some endpointId).filter (· ≠ "") = some endpointId := by simp [hid]
    rw [hnamed]
    dsimp only
    rw [writeSnapshot_writes ctx endpointId snap (message endpointId) hfields]
    exact ⟨fun h => if_pos h.2, fun h => if_neg fun hput => h ⟨hid, hput⟩⟩

/-- A rollback that is written takes the endpoint back exactly where that does no harm. -/
theorem sameManaged_rollback_iff (ctx : RouteContext) (op : SnapshotOp) (snap : EndpointDetail)
    (state changed : RawEndpoint) {endpointId : EndpointId} (htaken : Taken ctx endpointId) :
    SameManaged
        (changed.afterWrites
          (rollbackEndpoint ctx op.action (some endpointId) (some snap)).writes)
        state ↔
      Recoverable snap state changed := by
  obtain ⟨missing, message, hrollback⟩ :=
    rollbackEndpoint_action ctx op (some endpointId) (some snap)
  obtain ⟨ca, hupdate, hca⟩ := updateFields_snapshot ctx.settings.psk ctx.stamp snap
    (ctx.portal.getEndpoint ctx.lookups endpointId none true false).toOption
  rw [hrollback, (restoreSnapshot_writes ctx endpointId snap missing message hupdate).1 htaken]
  exact sameManaged_afterPut_iff hca state changed

/-- A rollback that is refused writes nothing. -/
theorem rollback_writes_nil (ctx : RouteContext) (op : SnapshotOp) (snap : EndpointDetail)
    {endpointId : EndpointId} (hrefused : ¬ Taken ctx endpointId) :
    (rollbackEndpoint ctx op.action (some endpointId) (some snap)).writes = [] := by
  obtain ⟨missing, message, hrollback⟩ :=
    rollbackEndpoint_action ctx op (some endpointId) (some snap)
  obtain ⟨ca, hupdate, -⟩ := updateFields_snapshot ctx.settings.psk ctx.stamp snap
    (ctx.portal.getEndpoint ctx.lookups endpointId none true false).toOption
  rw [hrollback]
  exact (restoreSnapshot_writes ctx endpointId snap missing message hupdate).2 hrefused

/-- For every endpoint, every operation that records a snapshot (whatever the portal had cached of
the endpoint) and every rollback of its event: what the portal manages is taken back exactly where
the rollback is written and does no harm, or is not written and there is nothing to take back. -/
theorem rollback_restores_iff (settings : PortalSettings) (op : SnapshotOp)
    (state : RawEndpoint) (snap : EndpointDetail) (ctx : RouteContext)
    (endpointId : EndpointId) :
    SameManaged
        ((op.changed settings snap state).afterWrites
          (rollbackEndpoint ctx op.action (some endpointId) (some snap)).writes)
        state ↔
      (Taken ctx endpointId ∧ Recoverable snap state (op.changed settings snap state)) ∨
        (¬ Taken ctx endpointId ∧ SameManaged (op.changed settings snap state) state) := by
  by_cases h : Taken ctx endpointId
  · simp only [h, true_and, not_true_eq_false, false_and, or_false]
    exact sameManaged_rollback_iff ctx op snap state (op.changed settings snap state) h
  · rw [rollback_writes_nil ctx op snap h]
    simp only [h, false_and, not_false_eq_true, true_and, false_or]
    exact Iff.rfl

omit [DetailCodec] in
/-- With a snapshot that was read from ISE right before the operation, the fields that are copied
do no harm. -/
theorem recoverable_fresh_iff (lookups : Lookups) (endpointId : EndpointId)
    (state changed : RawEndpoint) :
    Recoverable (fetchEndpointDetail lookups endpointId state) state changed ↔
      (∀ name ∈ clearedAttrs, state.customAttributes.attr name = "") ∧
        (∀ name ∈ omittedAttrs,
          changed.customAttributes.attr name = state.customAttributes.attr name) ∧
        (state.description = none → changed.description = none) := by
  constructor
  · intro h
    refine ⟨h.cleared, h.omitted, fun hnone => ?_⟩
    exact (h.descriptionOmitted hnone).trans hnone
  · rintro ⟨hcleared, homitted, hdescription⟩
    refine ⟨?_, hcleared, homitted, ?_, ?_, rfl, fun _ htext => htext, ?_⟩
    · simp [copiedAttrs, fetchEndpointDetail]
    · intro groupId hgroup
      exact (Option.some.inj hgroup).symm
    · intro hgroup
      cases hgroup
    · intro hnone
      exact (hdescription hnone).trans (Eq.symm hnone)

omit [PyText] [DetailCodec] in
/-- A decommission leaves what the rollback leaves out. -/
theorem get?_decommissionAttrs (settings : PortalSettings) :
    ∀ name ∈ omittedAttrs, (decommissionAttrs settings).get? name = none := by
  unfold decommissionAttrs
  split <;>
    simp [omittedAttrs, Dict.get?_set, activeAttr, hiddenAttr, pskModeAttr, pskKeyAttr,
      guestExperyDateAttr, guestAccessExpireAttr]

/-- A decommission is taken back exactly for the endpoints without registrar, guest registration
and roles. -/
theorem rollback_decommission_iff (settings : PortalSettings) (lookups : Lookups)
    (state : RawEndpoint) (ctx : RouteContext) {endpointId : EndpointId}
    (htaken : Taken ctx endpointId) :
    SameManaged
        ((SnapshotOp.decommission.changed settings
            (fetchEndpointDetail lookups endpointId state) state).afterWrites
          (rollbackEndpoint ctx "decommissioned" (some endpointId)
            (some (fetchEndpointDetail lookups endpointId state))).writes)
        state ↔
      ∀ name ∈ clearedAttrs, state.customAttributes.attr name = "" := by
  refine (sameManaged_rollback_iff ctx .decommission _ state _ htaken).trans ?_
  rw [recoverable_fresh_iff]
  refine and_iff_left ⟨fun name hname => ?_, fun hnone => hnone⟩
  show Attrs.attr (state.customAttributes.merge (decommissionAttrs settings)) name = _
  rw [Attrs.attr_merge, get?_decommissionAttrs settings name hname]
  rfl

end Restores

section Examples

local instance rollbackText : PyText := asciiText

local instance rollbackCodec : DetailCodec := plainJson

/-- The printer of the role `ops`, as ISE has it. -/
def opsPrinter : RawEndpoint :=
  { name := "AA:BB:CC:00:00:02", mac := "AA:BB:CC:00:00:02"
    customAttributes := printerAttrs }

def decommissionedPrinter : RawEndpoint :=
  opsPrinter.afterPut { customAttributes := decommissionAttrs { psk := lenientPsk } }

/-- A portal with an empty cache, once the printer is decommissioned. -/
def decommissionedPortal : PortalState :=
  { now := 0
    ise := { endpoints := fun endpointId =>
      if endpointId = "ep-2" then some decommissionedPrinter else none } }

def rollbackContext : RouteContext :=
  { settings := { psk := lenientPsk }
    lookups := { setOrder := fun _ => [] }
    portal := decommissionedPortal
    afterUpdate := decommissionedPortal }

/-- A decommissioned printer is rolled back, ISE takes the write, and the printer has no role. -/
theorem rollback_loses_roles :
    Taken rollbackContext "ep-2" ∧
      ¬ SameManaged
        ((SnapshotOp.decommission.changed rollbackContext.settings
            (fetchEndpointDetail rollbackContext.lookups "ep-2" opsPrinter)
            opsPrinter).afterWrites
          (rollbackEndpoint rollbackContext "decommissioned" (some "ep-2")
            (some (fetchEndpointDetail rollbackContext.lookups "ep-2" opsPrinter))).writes)
        opsPrinter := by
  have htaken : Taken rollbackContext "ep-2" := ⟨by decide, rfl⟩
  refine ⟨htaken, fun h => ?_⟩
  have hcleared := (rollback_decommission_iff rollbackContext.settings rollbackContext.lookups
    opsPrinter rollbackContext htaken).mp h
  exact absurd (hcleared rolesAttr (by decide)) (by decide)

end Examples

end IsePortal
