import IsePortal.Api.EndpointRoutes

/-!
# The scope of the endpoint routes

`get_endpoint` answers 404 for an endpoint whose roles do not meet those of the user. The routes
keyed by an endpoint id hand the id to the service and ask for the role of the user only.
`endpoint_scope_iff` says for which requests no write is made and nothing is shown outside the
scope: those that reach no endpoint out of it.
-/

namespace IsePortal

open Library EndpointCache

/-- The endpoints an answer to a request for these ids carries data of. -/
def RouteAnswer.Discloses (answer : RouteAnswer) (endpointIds : List EndpointId)
    (endpointId : EndpointId) : Prop :=
  match answer with
  | .action .. | .ancStatus .. | .profilerProfile .. | .profilingData .. =>
      endpointId ∈ endpointIds
  | .history events _ => events ≠ [] ∧ endpointId ∈ endpointIds
  | .bulkCoa results _ => ∃ item ∈ results, item.id = endpointId ∧ item.mac ≠ none
  | _ => False

/-- A write for the endpoint was made, or its data returned. -/
def Outcome.Touches (outcome : Outcome) (endpointIds : List EndpointId)
    (endpointId : EndpointId) : Prop :=
  (∃ write ∈ outcome.writes, write.endpointId = endpointId) ∨
    ∃ answer, outcome.answer = .ok answer ∧ answer.Discloses endpointIds endpointId

section Scope

variable [PyText] [DetailCodec]

/-- The roles ISE has for the endpoint meet the effective roles of the user. -/
def VisibleTo (ctx : RouteContext) (user : User) (endpointId : EndpointId) : Prop :=
  ∃ raw, ctx.portal.ise.endpoints endpointId = some raw ∧
    endpointVisible (fetchEndpointDetail ctx.lookups endpointId raw) (effectiveRoles user) = true

/-- The request makes no write for, and returns no data of, an endpoint out of scope. -/
def InScope (ctx : RouteContext) (user : User) (request : EndpointRequest) : Prop :=
  ∀ endpointId, (handle ctx user request).Touches request.endpointIds endpointId →
    VisibleTo ctx user endpointId

omit [DetailCodec] in
/-- ISE has the endpoint and answers for it, and for the call on its MAC where it has one. -/
def ReachesMac (ise : IseServer) (endpointId : EndpointId)
    (action : String → Except IseApiError (Bool × String)) : Prop :=
  ∃ raw, ise.get endpointId = .ok raw ∧
    (raw.macOrName ≠ "" → ∃ answer, action raw.macOrName = .ok answer)

/-- The endpoints a request gets through to: it names them, its own checks pass, and ISE, or the
audit log, has what is asked for. -/
def EndpointRequest.Reaches (ctx : RouteContext) (user : User) (request : EndpointRequest)
    (endpointId : EndpointId) : Prop :=
  endpointId ∈ request.endpointIds.take 200 ∧
    match request with
    | .updateEndpoint _ req =>
        validatePsk ctx.settings.psk
            (applyAutoTag ((requestAttrs req.customAttributes).set hiddenAttr "true")
              (autotagFor user)) = .ok () ∧
          ctx.portal.ise.put endpointId = .ok ()
    | .deleteEndpoint _ => ctx.portal.ise.delete endpointId = .ok ()
    | .decommissionEndpoint _ | .undecommissionEndpoint _ | .bulkDecommission ..
    | .bulkUndecommission .. => ctx.portal.ise.put endpointId = .ok ()
    | .setActiveStatus _ activeStatus =>
        (activeStatus = "Aktiv" ∨ activeStatus = "Inaktiv") ∧
          ctx.portal.ise.put endpointId = .ok ()
    | .bulkApplyTemplate _ _ templateId =>
        (ctx.templates templateId).isSome ∧ ctx.portal.ise.put endpointId = .ok ()
    | .coaReauth _ => ReachesMac ctx.portal.ise endpointId (ctx.portal.ise.callMnt .reauth)
    | .coaDisconnect _ =>
        ReachesMac ctx.portal.ise endpointId (ctx.portal.ise.callMnt .disconnect)
    | .bulkCoa _ action =>
        ReachesMac ctx.portal.ise endpointId (ctx.portal.ise.callMnt action)
    | .ancQuarantine .. | .ancClear _ | .ancStatus _ =>
        ∃ raw, ctx.portal.ise.get endpointId = .ok raw
    | .getEndpointHistory .. => resourceRows ctx.portal.audit "endpoint" endpointId ≠ []
    | .getProfilerProfile _ =>
        ∃ raw, ctx.portal.ise.get endpointId = .ok raw ∧
          (raw.profileId ≠ "" →
            ∃ profile, ctx.portal.ise.getProfilerProfile raw.profileId = .ok profile)
    | .getEndpointProfilingData _ => ∃ raw, ctx.portal.ise.getProbes endpointId = .ok raw

/-! ## What each kind of route touches -/

omit [PyText] [DetailCodec] in
/-- A service function whose result shows nothing touches the endpoints it writes. -/
theorem touches_outcome_of_silent {performed : Performed Unit} {answer : RouteAnswer}
    {endpointIds : List EndpointId} {endpointId : EndpointId}
    (hsilent : ¬ answer.Discloses endpointIds endpointId) :
    (performed.outcome fun _ => answer).Touches endpointIds endpointId ↔
      ∃ write ∈ performed.writes, write.endpointId = endpointId := by
  constructor
  · intro hcases
    rcases hcases with hwrite | ⟨body, hbody, hdiscloses⟩
    · exact hwrite
    · unfold Performed.outcome at hbody
      dsimp only at hbody
      split at hbody
      · cases hbody
      · cases hbody
        exact absurd hdiscloses hsilent
  · exact Or.inl

omit [PyText] [DetailCodec] in
theorem mem_writes_putEndpoint {ise : IseServer} {target endpointId : EndpointId}
    {fields : PutFields} :
    (∃ write ∈ (putEndpoint ise target fields).writes, write.endpointId = endpointId) ↔
      endpointId = target ∧ ise.put target = .ok () := by
  unfold putEndpoint
  split
  · rename_i exc hput
    simp [hput]
  · rename_i hput
    simp [hput, IseWrite.endpointId, eq_comm]

omit [PyText] [DetailCodec] in
theorem mem_writes_deleteEndpoint {ise : IseServer} {target endpointId : EndpointId} :
    (∃ write ∈ (deleteEndpoint ise target).writes, write.endpointId = endpointId) ↔
      endpointId = target ∧ ise.delete target = .ok () := by
  unfold deleteEndpoint
  split
  · rename_i exc hdelete
    simp [hdelete]
  · rename_i hdelete
    simp [hdelete, IseWrite.endpointId, eq_comm]

omit [PyText] [DetailCodec] in
theorem touches_bulkOutcome {endpointIds shown : List EndpointId} {endpointId : EndpointId}
    {one : EndpointId → Performed Unit} :
    (bulkOutcome endpointIds one).Touches shown endpointId ↔
      ∃ target ∈ endpointIds.take 200,
        ∃ write ∈ (one target).writes, write.endpointId = endpointId := by
  constructor
  · intro hcases
    rcases hcases with ⟨write, hwrite, hid⟩ | ⟨body, hbody, hdiscloses⟩
    · obtain ⟨target, htarget, hmem⟩ := List.mem_flatMap.mp hwrite
      exact ⟨target, htarget, write, hmem, hid⟩
    · cases hbody
      cases hdiscloses
  · intro hgiven
    obtain ⟨target, htarget, write, hwrite, hid⟩ := hgiven
    exact Or.inl ⟨write, List.mem_flatMap.mpr ⟨target, htarget, hwrite⟩, hid⟩

omit [PyText] [DetailCodec] in
/-- A bulk request that makes one attribute write for each id. -/
theorem touches_bulk_put {ise : IseServer} {endpointIds shown : List EndpointId}
    {endpointId : EndpointId} {fields : PutFields} :
    (bulkOutcome endpointIds (putEndpoint ise · fields)).Touches shown endpointId ↔
      endpointId ∈ endpointIds.take 200 ∧ ise.put endpointId = .ok () := by
  rw [touches_bulkOutcome]
  simp only [mem_writes_putEndpoint]
  constructor
  · intro hgiven
    obtain ⟨target, htarget, rfl, hput⟩ := hgiven
    exact ⟨htarget, hput⟩
  · intro hgiven
    obtain ⟨hmem, hput⟩ := hgiven
    exact ⟨endpointId, hmem, rfl, hput⟩

omit [PyText] [DetailCodec] in
/-- A service function whose result is shown, and that writes only for its endpoint and not
without a result. -/
theorem touches_outcome_of_shown {α : Type} {performed : Performed α} {answer : α → RouteAnswer}
    {target endpointId : EndpointId}
    (hshown : ∀ value, (answer value).Discloses [target] endpointId ↔ endpointId = target)
    (hwrites : ∀ write ∈ performed.writes,
      write.endpointId = target ∧ ∃ value, performed.result = .ok value) :
    (performed.outcome answer).Touches [target] endpointId ↔
      endpointId = target ∧ ∃ value, performed.result = .ok value := by
  constructor
  · intro hcases
    rcases hcases with ⟨write, hwrite, rfl⟩ | ⟨body, hbody, hdiscloses⟩
    · exact hwrites write hwrite
    · unfold Performed.outcome at hbody
      dsimp only at hbody
      split at hbody
      · cases hbody
      · rename_i value hresult
        cases hbody
        exact ⟨(hshown value).mp hdiscloses, value, hresult⟩
  · intro hgiven
    obtain ⟨hid, value, hresult⟩ := hgiven
    refine Or.inr ⟨answer value, ?_, (hshown value).mpr hid⟩
    simp [Performed.outcome, hresult]

omit [PyText] [DetailCodec] in
/-- An action on a MAC has a result exactly when it gets through, and writes only then. -/
theorem onMac_spec (ise : IseServer) (target : EndpointId)
    (action : String → Except IseApiError (Bool × String)) (write : String → IseWrite) :
    ((∃ value, (onMac ise target action write).result = .ok value) ↔
        ReachesMac ise target action) ∧
      ∀ made ∈ (onMac ise target action write).writes,
        (∃ mac, made = write mac) ∧
          ∃ value, (onMac ise target action write).result = .ok value := by
  unfold onMac ReachesMac
  cases hget : ise.get target with
  | error exc => simp
  | ok raw =>
      by_cases hmac : raw.macOrName = ""
      · simp [hmac]
      · cases haction : action raw.macOrName with
        | error exc => simp [hmac, haction]
        | ok answer =>
            obtain ⟨ok, message⟩ := answer
            cases ok <;> simp [hmac, haction]

omit [PyText] [DetailCodec] in
/-- A route whose answer is that of an action on a MAC. -/
theorem touches_onMac {ise : IseServer} {target endpointId : EndpointId}
    (action : String → Except IseApiError (Bool × String)) (write : String → IseWrite)
    (hwrite : ∀ mac, (write mac).endpointId = target) :
    ((onMac ise target action write).outcome
        fun (ok, mac, message) => .action ok mac message).Touches [target] endpointId ↔
      endpointId = target ∧ ReachesMac ise target action := by
  obtain ⟨hresult, hwrites⟩ := onMac_spec ise target action write
  rw [touches_outcome_of_shown (fun _ => List.mem_singleton), hresult]
  intro made hmade
  obtain ⟨⟨mac, rfl⟩, hvalue⟩ := hwrites made hmade
  exact ⟨hwrite mac, hvalue⟩

omit [DetailCodec] in
theorem touches_bulkCoa {ise : IseServer} {endpointIds shown : List EndpointId}
    {action : CoaAction} {endpointId : EndpointId} :
    (bulkCoa ise endpointIds action).Touches shown endpointId ↔
      endpointId ∈ endpointIds.take 200 ∧ ReachesMac ise endpointId (ise.callMnt action) := by
  have hspec (target : EndpointId) :=
    onMac_spec ise target (ise.callMnt action) (.coa target action)
  constructor
  · intro hcases
    rcases hcases with ⟨write, hwrite, rfl⟩ | ⟨body, hbody, hdiscloses⟩
    · obtain ⟨target, htarget, hmem⟩ := List.mem_flatMap.mp hwrite
      obtain ⟨⟨mac, rfl⟩, hvalue⟩ := (hspec target).2 write hmem
      exact ⟨htarget, (hspec target).1.mp hvalue⟩
    · cases hbody
      obtain ⟨item, hitem, rfl, hmac⟩ := hdiscloses
      obtain ⟨target, htarget, rfl⟩ := List.mem_map.mp hitem
      -- an entry with a MAC is one of a call that had a result
      cases hresult : (coa ise action target).result with
      | error exc =>
          rw [hresult] at hmac
          exact absurd rfl hmac
      | ok value =>
          exact ⟨by simpa [hresult] using htarget,
            by simpa [hresult] using (hspec target).1.mp ⟨value, hresult⟩⟩
  · intro hgiven
    obtain ⟨hmem, hreaches⟩ := hgiven
    obtain ⟨value, hresult⟩ := (hspec endpointId).1.mpr hreaches
    refine Or.inr ⟨_, rfl, _, List.mem_map.mpr ⟨endpointId, hmem, rfl⟩, ?_⟩
    have hcoa : (coa ise action endpointId).result = .ok value := hresult
    simp [hcoa]

omit [PyText] [DetailCodec] in
/-- The route of the profile definition shows what it answers. -/
theorem touches_getProfilerProfile {ise : IseServer} {target endpointId : EndpointId} :
    (getProfilerProfile ise target).Touches [target] endpointId ↔
      endpointId = target ∧ ∃ raw, ise.get target = .ok raw ∧
        (raw.profileId ≠ "" → ∃ profile, ise.getProfilerProfile raw.profileId = .ok profile) := by
  have hshown (profileId : Option String) (profile : Option (Dict String String)) :
      (RouteAnswer.profilerProfile target profileId profile).Discloses [target] endpointId ↔
        endpointId = target := List.mem_singleton
  unfold getProfilerProfile Outcome.Touches
  cases hget : ise.get target with
  | error exc => simp
  | ok raw =>
      by_cases hprofile : raw.profileId = ""
      · simp [hprofile, hshown]
      · cases hdef : ise.getProfilerProfile raw.profileId with
        | error exc => simp [hprofile, hdef]
        | ok profile => simp [hprofile, hdef, hshown]

/-! ## What a request touches -/

omit [DetailCodec] in
/-- The check of the attributes is all that can refuse them. -/
theorem updateAttrs_ok_iff (psk : PskSettings) (attrs : Option CustomAttrs)
    (autoTag : Option String) (before : Option EndpointDetail) (stamp : String) :
    (∃ ca, updateAttrs psk attrs autoTag before stamp = .ok ca) ↔
      validatePsk psk (applyAutoTag ((requestAttrs attrs).set hiddenAttr "true") autoTag) =
        .ok () := by
  unfold updateAttrs
  dsimp only
  split
  · rename_i text hinvalid
    simp [hinvalid]
  · rename_i hvalid
    simp [hvalid]

theorem mem_guestExpireCoa {ctx : RouteContext} {user : User} {target : EndpointId}
    {req : EndpointUpdate} {write : IseWrite}
    (h : write ∈ guestExpireCoa ctx user target req) : write.endpointId = target := by
  cases hattrs : req.customAttributes with
  | none => simp [guestExpireCoa, hattrs] at h
  | some attrs =>
      simp only [guestExpireCoa, hattrs] at h
      split at h
      · split at h
        · cases h
        · split at h
          · cases h
          · -- the one branch that sends a CoA
            split at h
            · obtain rfl := List.mem_singleton.mp h
              rfl
            · cases h
      · cases h

theorem touches_updateEndpoint {ctx : RouteContext} {user : User} {target endpointId : EndpointId}
    {req : EndpointUpdate} :
    (updateEndpoint ctx user target req).Touches [target] endpointId ↔
      endpointId = target ∧
        validatePsk ctx.settings.psk
            (applyAutoTag ((requestAttrs req.customAttributes).set hiddenAttr "true")
              (autotagFor user)) = .ok () ∧
          ctx.portal.ise.put target = .ok () := by
  rw [← updateAttrs_ok_iff _ _ _
    (ctx.portal.getEndpoint ctx.lookups target none true false).toOption ctx.stamp]
  unfold updateEndpoint putEndpoint Outcome.Touches
  dsimp only
  cases hca : updateAttrs ctx.settings.psk req.customAttributes (autotagFor user)
      (ctx.portal.getEndpoint ctx.lookups target none true false).toOption ctx.stamp with
  | error text => simp
  | ok ca =>
      cases hput : ctx.portal.ise.put target with
      | error exc => simp
      | ok done =>
          constructor
          · intro hcases
            rcases hcases with ⟨write, hwrite, rfl⟩ | ⟨body, hbody, hdiscloses⟩
            · refine ⟨?_, ⟨ca, rfl⟩, rfl⟩
              obtain hput | hcoa := List.mem_append.mp hwrite
              · obtain rfl := List.mem_singleton.mp hput
                rfl
              · exact mem_guestExpireCoa hcoa
            · cases hbody
              cases hdiscloses
          · intro hgiven
            obtain ⟨rfl, -, -⟩ := hgiven
            exact Or.inl ⟨_, List.mem_append_left _ (List.mem_singleton_self _), rfl⟩

omit [PyText] [DetailCodec] in
/-- An action that never raises gets through where ISE answers for the endpoint. -/
theorem touches_onMac_total {ise : IseServer} {target endpointId : EndpointId}
    (action : String → Bool × String) (write : String → IseWrite)
    (hwrite : ∀ mac, (write mac).endpointId = target) :
    ((onMac ise target (fun mac => .ok (action mac)) write).outcome
        fun (ok, mac, message) => .action ok mac message).Touches [target] endpointId ↔
      endpointId = target ∧ ∃ raw, ise.get target = .ok raw := by
  rw [touches_onMac _ write hwrite]
  simp [ReachesMac]

omit [PyText] [DetailCodec] in
/-- A read whose answer is always shown. -/
theorem touches_read {α : Type} {result : Except IseApiError α} {answer : α → RouteAnswer}
    {target endpointId : EndpointId}
    (hshown : ∀ value, (answer value).Discloses [target] endpointId ↔ endpointId = target) :
    (({ result := result : Performed α }).outcome answer).Touches [target] endpointId ↔
      endpointId = target ∧ ∃ value, result = .ok value :=
  touches_outcome_of_shown hshown fun write hwrite => by cases hwrite

omit [PyText] [DetailCodec] in
theorem exists_map_ok {α β ε : Type} {result : Except ε α} (f : α → β) :
    (∃ value, result.map f = .ok value) ↔ ∃ value, result = .ok value := by
  cases result <;> simp [Except.map]

omit [PyText] [DetailCodec] in
/-- A history shows events as soon as there is a row, since its limit is positive. -/
theorem historyRows_ne_nil {audit : List AuditRow} {endpointId : EndpointId} {limit : Nat}
    (hlimit : 0 < limit) :
    (historyRows audit endpointId limit).1.map AuditRow.event ≠ [] ↔
      resourceRows audit "endpoint" endpointId ≠ [] := by
  show List.map _ (((resourceRows audit "endpoint" endpointId).drop 0).take limit) ≠ [] ↔ _
  rw [List.drop_zero, Ne, List.map_eq_nil_iff, List.take_eq_nil_iff]
  have : limit ≠ 0 := by omega
  simp [this]

omit [PyText] [DetailCodec] in
/-- A condition on the endpoint of a request with a single id. -/
theorem single_iff {target endpointId : EndpointId} (P : EndpointId → Prop) :
    endpointId = target ∧ P target ↔ endpointId ∈ [target].take 200 ∧ P endpointId := by
  constructor
  · intro hgiven
    obtain ⟨rfl, h⟩ := hgiven
    exact ⟨List.mem_singleton_self _, h⟩
  · intro hgiven
    obtain ⟨hmem, h⟩ := hgiven
    obtain rfl := List.mem_singleton.mp hmem
    exact ⟨rfl, h⟩

omit [PyText] [DetailCodec] in
/-- A route that makes one attribute write and shows nothing. -/
theorem touches_put {ise : IseServer} {target endpointId : EndpointId} {fields : PutFields}
    {answer : RouteAnswer} (hsilent : ¬ answer.Discloses [target] endpointId) :
    ((putEndpoint ise target fields).outcome fun _ => answer).Touches [target] endpointId ↔
      endpointId ∈ [target].take 200 ∧ ise.put endpointId = .ok () :=
  ((touches_outcome_of_silent hsilent).trans mem_writes_putEndpoint).trans
    (single_iff fun id => ise.put id = .ok ())

/-- What a request that is admitted touches is what it gets through to. -/
theorem touches_run_iff (ctx : RouteContext) (user : User) (request : EndpointRequest)
    (endpointId : EndpointId) :
    (request.run ctx user).Touches request.endpointIds endpointId ↔
      request.Reaches ctx user endpointId := by
  unfold EndpointRequest.Reaches
  cases request with
  | updateEndpoint target req =>
      exact touches_updateEndpoint.trans (single_iff fun id => _ ∧ ctx.portal.ise.put id = .ok ())
  | deleteEndpoint target =>
      exact ((touches_outcome_of_silent id).trans mem_writes_deleteEndpoint).trans
        (single_iff fun id => ctx.portal.ise.delete id = .ok ())
  | decommissionEndpoint target =>
      exact touches_put id
  | undecommissionEndpoint target =>
      exact touches_put id
  | setActiveStatus target activeStatus =>
      by_cases hstatus : activeStatus = "Aktiv" ∨ activeStatus = "Inaktiv"
      · -- the status is one of the two, or the service raises before it writes
        simp only [EndpointRequest.run, hstatus, ↓reduceIte, true_and]
        exact touches_put id
      · simp [EndpointRequest.run, hstatus, Outcome.Touches]
  | bulkDecommission targets hmax => exact touches_bulk_put
  | bulkUndecommission targets hmax => exact touches_bulk_put
  | bulkApplyTemplate targets hmax templateId =>
      cases htemplate : ctx.templates templateId with
      | none => simp [EndpointRequest.run, htemplate, Outcome.Touches]
      | some template =>
          simp only [EndpointRequest.run, htemplate, Option.isSome_some, true_and]
          exact touches_bulk_put
  | coaReauth target =>
      exact (touches_onMac _ (.coa target .reauth) fun _ => rfl).trans
        (single_iff fun id => ReachesMac ctx.portal.ise id _)
  | coaDisconnect target =>
      exact (touches_onMac _ (.coa target .disconnect) fun _ => rfl).trans
        (single_iff fun id => ReachesMac ctx.portal.ise id _)
  | bulkCoa targets action => exact touches_bulkCoa
  -- a failed ANC call is answered with `ok: false`, so only the read of the MAC can raise
  | ancQuarantine target policyName =>
      exact (touches_onMac_total _ (.ancApply target · policyName) fun _ => rfl).trans
        (single_iff fun id => ∃ raw, ctx.portal.ise.get id = .ok raw)
  | ancClear target =>
      exact (touches_onMac_total _ (.ancClear target) fun _ => rfl).trans
        (single_iff fun id => ∃ raw, ctx.portal.ise.get id = .ok raw)
  | getEndpointHistory target limit hlimit =>
      refine Iff.trans ?_ (single_iff fun id => resourceRows ctx.portal.audit "endpoint" id ≠ [])
      rw [← historyRows_ne_nil hlimit, and_comm]
      constructor
      · intro hcases
        rcases hcases with ⟨write, hwrite, -⟩ | ⟨body, hbody, hdiscloses⟩
        · cases hwrite
        · cases hbody
          exact ⟨hdiscloses.1, List.mem_singleton.mp hdiscloses.2⟩
      · intro hgiven
        obtain ⟨hevents, hid⟩ := hgiven
        exact Or.inr ⟨_, rfl, hevents, List.mem_singleton.mpr hid⟩
  | ancStatus target =>
      refine (touches_read fun _ => List.mem_singleton).trans ?_
      rw [IsePortal.ancStatus, exists_map_ok]
      exact single_iff fun id => ∃ raw, ctx.portal.ise.get id = .ok raw
  | getProfilerProfile target =>
      exact touches_getProfilerProfile.trans (single_iff fun id => ∃ raw,
        ctx.portal.ise.get id = .ok raw ∧ (raw.profileId ≠ "" →
          ∃ profile, ctx.portal.ise.getProfilerProfile raw.profileId = .ok profile))
  | getEndpointProfilingData target =>
      exact (touches_read fun _ => List.mem_singleton).trans
        (single_iff fun id => ∃ raw, ctx.portal.ise.getProbes id = .ok raw)

/-! ## The scope -/

/-- A request stays in scope exactly when its route does not admit the role of the user, or it
gets through to endpoints in scope only. -/
theorem endpoint_scope_iff (ctx : RouteContext) (user : User) (request : EndpointRequest) :
    InScope ctx user request ↔
      (user.role ∈ request.roles →
        ∀ endpointId, request.Reaches ctx user endpointId → VisibleTo ctx user endpointId) := by
  unfold InScope handle requireRoles
  by_cases hadmitted : user.role ∈ request.roles
  · simp only [hadmitted, ↓reduceIte, forall_const]
    refine forall_congr' fun endpointId => ?_
    rw [touches_run_iff]
  · simp [hadmitted, Outcome.Touches]

end Scope

section Editing

local instance editingText : PyText := asciiText

local instance editingCodec : DetailCodec where
  jsonSize _ := 0
  jsonDigest _ := ""

/-- One endpoint of alice, and an editor without a role on it. -/
def aliceEndpoint : RawEndpoint :=
  { name := "AA:BB:CC:00:00:01", mac := "AA:BB:CC:00:00:01"
    customAttributes := Dict.empty.set rolesAttr "alice" }

/-- The portal with that endpoint and an empty cache. -/
def alicePortal : PortalState :=
  { now := 0
    ise := { endpoints := fun endpointId =>
      if endpointId = "ep-1" then some aliceEndpoint else none } }

def aliceContext : RouteContext :=
  { settings := { psk := { policy :=
      { minLength := 8, requireUppercase := true, requireNumbers := true,
        requireSpecial := false } } }
    lookups := { setOrder := fun _ => [] }
    portal := alicePortal
    afterUpdate := alicePortal }

def bob : User := { username := "bob", role := .editor }

theorem aliceEndpoint_not_visible : ¬ VisibleTo aliceContext bob "ep-1" := by
  intro hgiven
  obtain ⟨raw, hraw, hvisible⟩ := hgiven
  cases hraw
  revert hvisible
  decide

/-- `get_endpoint` answers bob with 404, and yet his update is written to ISE, his delete
deletes the endpoint, and its quarantine status is shown to him. -/
theorem editor_out_of_scope :
    respond aliceContext.lookups alicePortal bob (.getEndpoint "ep-1" true) =
        .error { statusCode := 404, detail := "Endpoint ikke fundet" } ∧
      ¬ InScope aliceContext bob (.updateEndpoint "ep-1" { description := some "bob" }) ∧
      ¬ InScope aliceContext bob (.deleteEndpoint "ep-1") ∧
      ¬ InScope aliceContext bob (.ancStatus "ep-1") := by
  refine ⟨by rfl, fun h => ?_, fun h => ?_, fun h => ?_⟩
  · exact aliceEndpoint_not_visible (h "ep-1" (Or.inl ⟨_, List.mem_cons_self, rfl⟩))
  · exact aliceEndpoint_not_visible (h "ep-1" (Or.inl ⟨_, List.mem_cons_self, rfl⟩))
  · exact aliceEndpoint_not_visible
      (h "ep-1" (Or.inr ⟨_, rfl, List.mem_singleton_self _⟩))

end Editing

end IsePortal
