import IsePortal.Api.EndpointRoutes
import IsePortal.Service.Redaction

/-!
# PSK keys in the answers to reads

Two portals that differ in the stored PSK keys only, seen by a user who may not see keys. Masked
answers tell them apart only by what the mask leaves of a key; the history of an endpoint masks
nothing. `psk_reads_iff` says when the two answers are the same.
-/

namespace IsePortal

open Library EndpointCache

section Answers

variable [PyText] [DetailCodec]

/-! ## Answers -/

/-- An answer with other details in it. -/
def ReadAnswer.mapDetails (g : EndpointDetail → EndpointDetail) : ReadAnswer → ReadAnswer
  | .detail value headers => .detail (g value) headers
  | .summaries items => .summaries items
  | .page listed => .page (listed.mapItems g)
  | .details items => .details (items.map g)
  | .history events total => .history events total

/-- The details in an answer. -/
def ReadAnswer.covered : ReadAnswer → List EndpointDetail
  | .detail value _ => [value]
  | .summaries _ => []
  | .page listed => listed.items
  | .details items => items
  | .history _ _ => []

/-- An answer without keys. -/
def ReadAnswer.redact : ReadAnswer → ReadAnswer
  | .history events total =>
      .history (events.map fun event =>
        { event with before := event.before.map AuditSnapshot.redact
                     after := event.after.map AuditSnapshot.redact }) total
  | answer => answer.mapDetails redactDetail

omit [DetailCodec] in
theorem cacheHeaders_redact (lookups : Lookups) (portal : PortalState) (endpointId : EndpointId)
    (fresh : Bool) :
    cacheHeaders lookups portal.redact endpointId fresh =
      cacheHeaders lookups portal endpointId fresh := by
  have hentry : portal.redact.cache.details.get? endpointId =
      (portal.cache.details.get? endpointId).map redactEntry := Dict.get?_mapValues ..
  have hcfg : portal.redact.cfg = portal.cfg := rfl
  have hnow : portal.redact.now = portal.now := rfl
  unfold cacheHeaders
  rw [getDetail_redact, hentry, hcfg, hnow, Option.map_map]
  cases portal.getDetail lookups endpointId fresh <;> rfl

/-- Masking a read is masking its answer. -/
theorem run_masked (lookups : Lookups) (portal : PortalState) (scope : Option (List String))
    (request : ReadRequest) :
    request.run lookups portal scope false =
      (request.run lookups portal scope true).map (ReadAnswer.mapDetails maskPsk) := by
  have hshows := shows_masked lookups portal
  have hmask : rekey maskKey = maskPsk := funext fun detail => (maskPsk_eq detail).symm
  cases request with
  | getEndpoint endpointId fresh =>
      unfold ReadRequest.run
      dsimp only
      rw [hshows.endpoint, hmask]
      cases portal.getEndpoint lookups endpointId scope true fresh <;> rfl
  | listEndpoints page size search filter =>
      unfold ReadRequest.run
      dsimp only
      cases portal.listEndpoints lookups page size search filter scope <;> rfl
  | listEndpointDetails page size search filter =>
      unfold ReadRequest.run
      dsimp only
      rw [hshows.listEndpointDetails, hmask]
      rfl
  | listAllEndpointDetails search q filter =>
      unfold ReadRequest.run
      dsimp only
      rw [hshows.listAllEndpointDetails, hmask]
      rfl
  | getEndpointHistory endpointId limit => rfl

/-- The summaries of a listing do not show keys. -/
theorem listEndpoints_redact (lookups : Lookups) (portal : PortalState) (page size : Nat)
    (search : Option String) (filters : List String) (scope : Option (List String)) :
    portal.redact.listEndpoints lookups page size search filters scope =
      portal.listEndpoints lookups page size search filters scope := by
  unfold PortalState.listEndpoints
  cases scope with
  | none => rfl
  | some roles =>
      dsimp only
      rw [(shows_masked lookups portal.redact).listEndpointDetails,
        (shows_masked lookups portal).listEndpointDetails,
        (shows_redacted lookups portal).listEndpointDetails]
      simp only [PaginatedEndpointDetails.mapItems, List.map_map]
      rfl

omit [PyText] [DetailCodec] in
theorem historyRows_redact (audit : List AuditRow) (endpointId : EndpointId) (limit : Nat) :
    historyRows (audit.map AuditRow.redact) endpointId limit =
      ((historyRows audit endpointId limit).1.map AuditRow.redact,
        (historyRows audit endpointId limit).2) := by
  have hrows : resourceRows (audit.map AuditRow.redact) "endpoint" endpointId =
      (resourceRows audit "endpoint" endpointId).map AuditRow.redact := by
    unfold resourceRows
    rw [List.filter_map, List.map_reverse]
    rfl
  unfold historyRows auditQuery
  rw [hrows, List.length_map, List.map_take, List.map_drop]

/-- The reads of a portal without keys are the reads of the portal, less the keys. -/
theorem run_redact (lookups : Lookups) (portal : PortalState) (scope : Option (List String))
    (request : ReadRequest) :
    request.run lookups portal.redact scope true =
      (request.run lookups portal scope true).map ReadAnswer.redact := by
  have hshows := shows_redacted lookups portal
  cases request with
  | getEndpoint endpointId fresh =>
      unfold ReadRequest.run
      dsimp only
      rw [hshows.endpoint, cacheHeaders_redact]
      cases portal.getEndpoint lookups endpointId scope true fresh <;> rfl
  | listEndpoints page size search filter =>
      unfold ReadRequest.run
      dsimp only
      rw [listEndpoints_redact]
      cases portal.listEndpoints lookups page size search filter scope <;> rfl
  | listEndpointDetails page size search filter =>
      unfold ReadRequest.run
      dsimp only
      rw [hshows.listEndpointDetails]
      rfl
  | listAllEndpointDetails search q filter =>
      unfold ReadRequest.run
      dsimp only
      rw [hshows.listAllEndpointDetails]
      rfl
  | getEndpointHistory endpointId limit =>
      unfold ReadRequest.run
      dsimp only
      rw [show portal.redact.audit = portal.audit.map AuditRow.redact from rfl, historyRows_redact]
      simp only [Except.map, ReadAnswer.redact, List.map_map]
      rfl

/-! ## When two answers are the same -/

omit [PyText] [DetailCodec] in
theorem snapshot_eq_iff {first second : AuditSnapshot} (hrest : first.redact = second.redact) :
    first = second ↔ first.key = second.key := by
  constructor
  · intro heq
    subst heq
    rfl
  · intro hkey
    cases first with
    | detail value =>
        cases second with
        | detail other =>
            have hredact : redactDetail value = redactDetail other :=
              AuditSnapshot.detail.inj hrest
            have hsame : value.pskKey = other.pskKey := Option.some.inj hkey
            have hback (detail : EndpointDetail) :
                detail = { redactDetail detail with pskKey := detail.pskKey } := rfl
            rw [hback value, hback other, hredact, hsame]
        | created => cases hrest
        | fields => cases hrest
    | created mac groupId description static attrs =>
        cases second with
        | created mac' groupId' description' static' attrs' =>
            simp only [AuditSnapshot.redact, AuditSnapshot.created.injEq] at hrest
            obtain ⟨rfl, rfl, rfl, rfl, hattrs⟩ := hrest
            rw [Dict.eq_of_modify_eq hattrs hkey]
        | detail => cases hrest
        | fields => cases hrest
    | fields values =>
        cases second with
        | fields others => exact hrest
        | detail => cases hrest
        | created => cases hrest

omit [PyText] [DetailCodec] in
/-- An event shows the keys of its row. -/
theorem event_eq_iff {first second : AuditRow} (hrest : first.redact = second.redact) :
    first.event = second.event ↔ first.keys = second.keys := by
  simp only [AuditRow.redact, AuditRow.mk.injEq] at hrest
  obtain ⟨hid, hts, hactor, haction, -, -, hbefore, hafter⟩ := hrest
  simp only [AuditRow.event, HistoryEvent.mk.injEq, AuditRow.keys, Prod.mk.injEq, hid, hts,
    hactor, haction, true_and]
  rw [eq_iff_of_map_eq (fun _ _ => snapshot_eq_iff) hbefore,
    eq_iff_of_map_eq (fun _ _ => snapshot_eq_iff) hafter]

omit [PyText] [DetailCodec] in
/-- Two masked answers that are no histories are the same when they cover keys alike. -/
theorem masked_eq_iff {first second : ReadAnswer} (hrest : first.redact = second.redact)
    (hhistory : ∀ events total, first ≠ .history events total) :
    first.mapDetails maskPsk = second.mapDetails maskPsk ↔
      first.covered.map hasKey = second.covered.map hasKey := by
  -- answers that are the same without their keys are of one kind
  cases first with
  | detail value headers =>
      cases second with
      | detail other headers' =>
          simp only [ReadAnswer.redact, ReadAnswer.mapDetails, ReadAnswer.detail.injEq] at hrest
          simp [ReadAnswer.mapDetails, ReadAnswer.covered, hrest.2, maskPsk_eq_iff hrest.1]
      | _ => cases hrest
  | summaries items =>
      cases second with
      | summaries others =>
          simp only [ReadAnswer.redact, ReadAnswer.mapDetails, ReadAnswer.summaries.injEq] at hrest
          simp [ReadAnswer.mapDetails, ReadAnswer.covered, hrest]
      | _ => cases hrest
  | page listed =>
      cases second with
      | page other =>
          simp only [ReadAnswer.redact, ReadAnswer.mapDetails, ReadAnswer.page.injEq,
            PaginatedEndpointDetails.mapItems, PaginatedEndpointDetails.mk.injEq] at hrest
          obtain ⟨hitems, htotal, hpage, hsize⟩ := hrest
          simp [ReadAnswer.mapDetails, ReadAnswer.covered, PaginatedEndpointDetails.mapItems,
            htotal, hpage, hsize, map_maskPsk_eq_iff hitems]
      | _ => cases hrest
  | details items =>
      cases second with
      | details others =>
          simp only [ReadAnswer.redact, ReadAnswer.mapDetails, ReadAnswer.details.injEq] at hrest
          simp [ReadAnswer.mapDetails, ReadAnswer.covered, map_maskPsk_eq_iff hrest]
      | _ => cases hrest
  | history events total => exact absurd rfl (hhistory events total)

/-- The endpoints a read covers, with their keys as they are stored. -/
def ReadRequest.covers (lookups : Lookups) (portal : PortalState) (user : User)
    (request : ReadRequest) : List EndpointDetail :=
  match request.run lookups portal (scopeFor user) true with
  | .ok answer => answer.covered
  | .error _ => []

/-- What an answer may depend on: of a read the user may make, which of the endpoints it covers
have a key at all; of a history the user may see, the keys in the rows it asks for. -/
def KeysAlike (lookups : Lookups) (portal other : PortalState) (user : User)
    (request : ReadRequest) : Prop :=
  match request with
  | .getEndpointHistory endpointId limit =>
      user.role = .editor →
        (historyRows portal.audit endpointId limit).1.map AuditRow.keys =
          (historyRows other.audit endpointId limit).1.map AuditRow.keys
  | request =>
      user.role ∈ request.roles →
        (request.covers lookups portal user).map hasKey =
          (request.covers lookups other user).map hasKey

/-- Only the history route answers with a history. -/
theorem run_ne_history {lookups : Lookups} {portal : PortalState}
    {scope : Option (List String)} {isPskEditor : Bool} {request : ReadRequest}
    {events : List HistoryEvent} {total : Nat}
    (hhistory : ∀ endpointId limit, request ≠ .getEndpointHistory endpointId limit) :
    request.run lookups portal scope isPskEditor ≠ .ok (.history events total) := by
  intro h
  cases request with
  | getEndpoint endpointId fresh =>
      simp only [ReadRequest.run] at h
      split at h <;> cases h
  | listEndpoints page size search filter =>
      simp only [ReadRequest.run] at h
      split at h <;> cases h
  | listEndpointDetails page size search filter => cases h
  | listAllEndpointDetails search q filter => cases h
  | getEndpointHistory endpointId limit => exact hhistory _ _ rfl

omit [PyText] [DetailCodec] in
/-- The histories of two portals without their keys. -/
theorem history_rest {portal other : PortalState} (hkeys : portal.redact = other.redact)
    (endpointId : EndpointId) (limit : Nat) :
    (historyRows portal.audit endpointId limit).1.map AuditRow.redact =
        (historyRows other.audit endpointId limit).1.map AuditRow.redact ∧
      (historyRows portal.audit endpointId limit).2 =
        (historyRows other.audit endpointId limit).2 := by
  have haudit : portal.audit.map AuditRow.redact = other.audit.map AuditRow.redact :=
    congrArg PortalState.audit hkeys
  have hrows := congrArg (historyRows · endpointId limit) haudit
  simp only [historyRows_redact, Prod.mk.injEq] at hrows
  exact hrows

/-- A read of a user without keys that is no history. -/
theorem masked_run_eq_iff (lookups : Lookups) {portal other : PortalState} (user : User)
    {request : ReadRequest} (hkeys : portal.redact = other.redact)
    (hhistory : ∀ endpointId limit, request ≠ .getEndpointHistory endpointId limit) :
    request.run lookups portal (scopeFor user) false =
        request.run lookups other (scopeFor user) false ↔
      (request.covers lookups portal user).map hasKey =
        (request.covers lookups other user).map hasKey := by
  have hrest : (request.run lookups portal (scopeFor user) true).map ReadAnswer.redact =
      (request.run lookups other (scopeFor user) true).map ReadAnswer.redact := by
    rw [← run_redact, ← run_redact, hkeys]
  rw [run_masked, run_masked]
  unfold ReadRequest.covers
  cases hfirst : request.run lookups portal (scopeFor user) true with
  | error refused =>
      cases hsecond : request.run lookups other (scopeFor user) true with
      | error refused' =>
          rw [hfirst, hsecond] at hrest
          simpa [Except.map] using hrest
      | ok answer =>
          rw [hfirst, hsecond] at hrest
          cases hrest
  | ok answer =>
      cases hsecond : request.run lookups other (scopeFor user) true with
      | error refused =>
          rw [hfirst, hsecond] at hrest
          cases hrest
      | ok answer' =>
          rw [hfirst, hsecond] at hrest
          have hplain (events : List HistoryEvent) (total : Nat) :
              answer ≠ .history events total := by
            intro heq
            subst heq
            exact run_ne_history hhistory hfirst
          have hiff := masked_eq_iff (Except.ok.inj hrest) hplain
          simpa [Except.map] using hiff

/-- Two portals that differ in keys only answer a user who may not see keys the same exactly when
the endpoints the answer covers have a key in both or in neither, and a history holds the same
keys in both. -/
theorem psk_reads_iff (lookups : Lookups) (portal other : PortalState) (user : User)
    (request : ReadRequest) (hkeys : portal.redact = other.redact)
    (hrole : user.role ≠ .admin ∧ user.role ≠ .editorPsk) :
    respond lookups portal user request = respond lookups other user request ↔
      KeysAlike lookups portal other user request := by
  have hmasked : isPskEditorFor user = false := by
    simp [isPskEditorFor, hrole.1, hrole.2]
  unfold respond
  rw [hmasked]
  by_cases hadmitted : user.role ∈ request.roles
  · rw [guarded_of_mem _ hadmitted, guarded_of_mem _ hadmitted]
    cases request with
    | getEndpointHistory endpointId limit =>
        -- the route admits admins and editors
        have heditor : user.role = .editor := by
          simpa [ReadRequest.roles, requireEditor, hrole.1] using hadmitted
        obtain ⟨hrows, htotal⟩ := history_rest hkeys endpointId limit
        have hevents := map_eq_map_iff (fun _ _ => event_eq_iff) hrows
        simp only [ReadRequest.run, KeysAlike, heditor, forall_const, Except.ok.injEq,
          ReadAnswer.history.injEq, htotal, and_true]
        exact hevents
    | _ =>
        refine (masked_run_eq_iff lookups user hkeys fun _ _ => by simp).trans ?_
        simp only [KeysAlike, hadmitted, forall_const]
  · -- a role the route does not admit gets the same refusal twice
    refine iff_of_true (guarded_of_not_mem _ _ hadmitted) ?_
    cases request with
    | getEndpointHistory endpointId limit =>
        intro heditor
        exact absurd (by simp [ReadRequest.roles, requireEditor, heditor]) hadmitted
    | _ => exact fun h => absurd h hadmitted

end Answers

section Keys

local instance keysText : PyText := asciiText

local instance keysCodec : DetailCodec where
  jsonSize _ := 0
  jsonDigest _ := ""

/-- An endpoint of dave with this value of `PSK_Key` in ISE. -/
def keyedEndpoint (stored : String) : RawEndpoint :=
  { name := "AA:BB:CC:00:00:01", mac := "AA:BB:CC:00:00:01"
    customAttributes := Dict.empty |>.set rolesAttr "dave" |>.set pskKeyAttr stored }

/-- A portal with that endpoint, once updated. -/
def keyedPortal (stored : String) : PortalState :=
  { now := 0
    ise := { endpoints := fun endpointId =>
      if endpointId = "ep-1" then some (keyedEndpoint stored) else none }
    audit :=
      [{ id := 1, ts := "2026-01-02T00:00:00+00:00", actorUsername := "dave"
         action := "updated", resourceType := "endpoint", resourceId := some "ep-1"
         before := some (.detail
          { id := "ep-1", name := "AA:BB:CC:00:00:01", pskKey := pskDecode stored }) }] }

def noLookups : Lookups := { setOrder := fun _ => [] }

def dave : User := { username := "dave", role := .viewer }

def erin : User := { username := "erin", role := .editor }

/-- The two portals differ in the stored key only. -/
theorem keyedPortal_redact (first second : String) :
    (keyedPortal first).redact = (keyedPortal second).redact := by
  have hendpoints (endpointId : EndpointId) :
      ((keyedPortal first).ise.endpoints endpointId).map RawEndpoint.redact =
        ((keyedPortal second).ise.endpoints endpointId).map RawEndpoint.redact := by
    by_cases h : endpointId = "ep-1"
    · subst h
      rfl
    · simp [keyedPortal, h]
  unfold PortalState.redact
  rw [funext hendpoints]
  rfl

theorem psk_reads_viewer :
    (keyedPortal "psk=Alpha12345").redact = (keyedPortal "psk=Bravo67890").redact ∧
      (respond noLookups (keyedPortal "psk=Alpha12345") dave (.getEndpoint "ep-1" true) =
          respond noLookups (keyedPortal "psk=Bravo67890") dave (.getEndpoint "ep-1" true) ↔
        KeysAlike noLookups (keyedPortal "psk=Alpha12345") (keyedPortal "psk=Bravo67890") dave
          (.getEndpoint "ep-1" true)) :=
  ⟨keyedPortal_redact _ _,
    psk_reads_iff noLookups _ _ dave _ (keyedPortal_redact _ _) ⟨by decide, by decide⟩⟩

/-- The keys a history shows. -/
def shownKeys : Except HttpError ReadAnswer → List (Option (Option String))
  | .ok (.history events _) => events.map fun event => event.before.map AuditSnapshot.key
  | _ => []

/-- The key a read of one endpoint shows. -/
def shownKey : Except HttpError ReadAnswer → Option String
  | .ok (.detail value _) => some value.pskKey
  | _ => none

/-- The history shows an editor the key itself, and a read shows a viewer whether ISE holds more
than the bare prefix. -/
theorem psk_reads_differ :
    (keyedPortal "psk=Alpha12345").redact = (keyedPortal "psk=Bravo67890").redact ∧
      respond noLookups (keyedPortal "psk=Alpha12345") erin (.getEndpointHistory "ep-1" 50) ≠
        respond noLookups (keyedPortal "psk=Bravo67890") erin (.getEndpointHistory "ep-1" 50) ∧
      (keyedPortal "psk=").redact = (keyedPortal "psk=Alpha12345").redact ∧
      respond noLookups (keyedPortal "psk=") dave (.getEndpoint "ep-1" true) ≠
        respond noLookups (keyedPortal "psk=Alpha12345") dave (.getEndpoint "ep-1" true) := by
  refine ⟨keyedPortal_redact _ _, fun h => ?_, keyedPortal_redact _ _, fun h => ?_⟩
  · have hkeys := congrArg shownKeys h
    revert hkeys
    decide
  · have hkey := congrArg shownKey h
    revert hkey
    decide

end Keys

end IsePortal
