import IsePortal.Ise.CircuitBreaker
import IsePortal.Ise.Server

/-!
# The split between reading and writing

`IseClient.request` (`app/ise/client.py`) with its two hosts, each behind a breaker of its own.
Reads go to the read host and fall back to the Primary when the read host cannot serve them; all
else goes to the Primary. Whether to fall back is read off the status code of the error, and a
refusal by the breaker has the code of a real HTTP 503. `read_write_split_iff`: requests are
routed as documented exactly in the runs in which the read host never answers 503.

The 401 counter, the node status and the metrics are left out: no route depends on them.
-/

namespace IsePortal

open Library

/-- The two hosts. -/
inductive Host where
  | primary
  | read
  deriving DecidableEq

/-- The label of a host in messages. -/
def Host.label : Host → String
  | .primary => "primary"
  | .read => "read"

/-- A response: the status, the message `_request_on` finds in the body, and the data of the body,
`none` where it is no JSON. -/
structure HttpResponse where
  status : Nat
  message : String := ""
  data : Option String := some ""
  deriving DecidableEq

/-- How `_request_on` comes to an end on one host. -/
inductive HostEnd where
  /-- The breaker refuses. -/
  | refused
  | response (response : HttpResponse)
  | transportError (text : String)
  | raised
  | cancelled
  deriving DecidableEq

/-- What a caller gets. -/
inductive HostAnswer where
  | returned (data : String)
  | apiError (error : IseApiError)
  | raised
  | cancelled
  deriving DecidableEq

/-- What `_request_on` does with a response. -/
def HttpResponse.answer (response : HttpResponse) : HostAnswer :=
  if response.status = 401 then .apiError { statusCode := 401, message := response.message }
  else if isRedirect response.status then
    .apiError
      { statusCode := response.status
        message := "HTTP " ++ toString response.status ++ " redirect — noden serverer ikke ERS " ++
          "(typisk en Secondary PAN der peger på Primary)" }
  else if 400 ≤ response.status then
    .apiError { statusCode := response.status, message := response.message }
  else
    match response.data with
    | some data => .returned data
    | none => .raised

/-- What `_request_on` returns or raises; the text of a refusal without its remaining time. -/
def HostEnd.answer (host : Host) : HostEnd → HostAnswer
  | .refused =>
      .apiError
        { statusCode := 503
          message := "Circuit breaker open (" ++ host.label ++ ") — ISE er utilgængelig" }
  | .response answered => answered.answer
  | .transportError text => .apiError { statusCode := 0, message := "transport error: " ++ text }
  | .raised => .raised
  | .cancelled => .cancelled

/-- `exc.status_code in (0, 503) or 300 <= exc.status_code < 400` -/
def HostAnswer.fallsBack : HostAnswer → Bool
  | .apiError error => error.statusCode = 0 || error.statusCode = 503 || isRedirect error.statusCode
  | _ => false

/-- One call of `request`: where it is on its way, with the number of the attempt, and what has
become of it. -/
structure ClientRequest where
  method : String
  running : Option (Host × Nat) := none
  sentToRead : Bool := false
  readEnd : Option HostEnd := none
  askedPrimary : Bool := false
  answer : Option HostAnswer := none

/-- A call of a breaker. -/
inductive BreakerCall where
  | asked (now : Time)
  | told (now : Time) (requestEnd : RequestEnd)

/-- The breaker after a call. -/
def BreakerCall.apply (cfg : BreakerConfig) (cb : CircuitBreaker) : BreakerCall → CircuitBreaker
  | .asked now => (cb.isOpen cfg now).2
  | .told now requestEnd => cb.settle cfg now requestEnd

/-- The breaker after the calls, the last of them first. -/
def replay (cfg : BreakerConfig) : List BreakerCall → CircuitBreaker
  | [] => {}
  | call :: earlier => call.apply cfg (replay cfg earlier)

/-- The client. The log is a ghost: which calls of which breaker were made. -/
structure IseClient where
  split : Bool
  now : Time
  breaker : Host → CircuitBreaker := fun _ => {}
  requests : Dict Nat ClientRequest := Dict.empty
  log : List (Host × BreakerCall) := []

/-- One event. -/
inductive ClientEvent where
  | tick (seconds : Time)
  | request (task : Nat) (method : String)
  /-- An attempt ends with a `TransportError`. -/
  | transportError (task : Nat) (text : String)
  | response (task : Nat) (response : HttpResponse)
  | raised (task : Nat)
  | cancelled (task : Nat)

/-- `method.upper() == "GET"` -/
def isRead [PyText] (method : String) : Bool := PyText.upper method = "GET"

namespace IseClient

/-- Call the breaker of a host. -/
def call (cfg : BreakerConfig) (client : IseClient) (host : Host) (made : BreakerCall) :
    IseClient :=
  { client with
    breaker := fun other =>
      if other = host then made.apply cfg (client.breaker other) else client.breaker other
    log := (host, made) :: client.log }

/-- The requests with one of them changed. -/
def put (client : IseClient) (task : Nat) (request : ClientRequest) : IseClient :=
  { client with requests := client.requests.set task request }

/-- Whether the breaker of a host refuses now. -/
def refuses (cfg : BreakerConfig) (client : IseClient) (host : Host) : Bool :=
  ((client.breaker host).isOpen cfg client.now).1

/-- `_request_on` on the Primary. -/
def askPrimary (cfg : BreakerConfig) (client : IseClient) (task : Nat)
    (request : ClientRequest) : IseClient :=
  (client.call cfg .primary (.asked client.now)).put task
    (if client.refuses cfg .primary then
      { request with
        askedPrimary := true, running := none, answer := some (HostEnd.refused.answer .primary) }
    else { request with askedPrimary := true, running := some (.primary, 1) })

/-- `request` when the read host is done: its errors that count as unusable lead to the
Primary, everything else goes to the caller. -/
def afterRead (cfg : BreakerConfig) (client : IseClient) (task : Nat) (request : ClientRequest)
    (hostEnd : HostEnd) : IseClient :=
  if (hostEnd.answer .read).fallsBack then
    client.askPrimary cfg task { request with readEnd := some hostEnd }
  else
    client.put task
      { request with
        running := none, readEnd := some hostEnd, answer := some (hostEnd.answer .read) }

/-- `_request_on` on the read host. -/
def askRead (cfg : BreakerConfig) (client : IseClient) (task : Nat) (request : ClientRequest) :
    IseClient :=
  let asked := client.call cfg .read (.asked client.now)
  if client.refuses cfg .read then asked.afterRead cfg task request .refused
  else asked.put task { request with sentToRead := true, running := some (.read, 1) }

/-- A host is done with a request. -/
def finish (cfg : BreakerConfig) (client : IseClient) (task : Nat) (request : ClientRequest)
    (host : Host) (hostEnd : HostEnd) (requestEnd : RequestEnd) : IseClient :=
  let told := client.call cfg host (.told client.now requestEnd)
  match host with
  | .read => told.afterRead cfg task request hostEnd
  | .primary =>
      told.put task { request with running := none, answer := some (hostEnd.answer .primary) }

/-- The request that is on its way under a number, with its host and attempt. -/
def onItsWay (client : IseClient) (task : Nat) : Option (ClientRequest × Host × Nat) :=
  match client.requests.get? task with
  | none => none
  | some request => request.running.map fun place => (request, place)

section Steps

variable [PyText]

/-- One event; `none` is an end of a request that is not on its way. -/
def step (cfg : BreakerConfig) (client : IseClient) (label : ClientEvent) : Option IseClient :=
  match label with
  | .tick seconds => if 0 ≤ seconds then some { client with now := client.now + seconds } else none
  | .request task method =>
      match client.requests.get? task with
      | some _ => none
      | none =>
          if isRead method ∧ client.split then some (client.askRead cfg task { method := method })
          else some (client.askPrimary cfg task { method := method })
  | .transportError task text =>
      (client.onItsWay task).map fun (request, host, attempt) =>
        if attempt < cfg.retryAttempts then
          client.put task { request with running := some (host, attempt + 1) }
        else client.finish cfg task request host (.transportError text) .transportError
  | .response task response =>
      (client.onItsWay task).map fun (request, host, _) =>
        client.finish cfg task request host (.response response) (.response response.status)
  | .raised task =>
      (client.onItsWay task).map fun (request, host, _) =>
        client.finish cfg task request host .raised .raised
  | .cancelled task =>
      (client.onItsWay task).map fun (request, host, _) =>
        client.finish cfg task request host .cancelled .cancelled

end Steps

/-- A client with an active split, before its first request. -/
def start (now : Time) : IseClient where
  split := true
  now := now

/-! ## What routing promises -/

/-- The read host cannot serve the request: its breaker refuses, it is unreachable, or it answers
with a redirect. -/
def unusable : HostEnd → Bool
  | .refused => true
  | .response answered => isRedirect answered.status
  | .transportError _ => true
  | .raised => false
  | .cancelled => false

section Routing

variable [PyText]

/-- What one request went through. -/
structure RoutesWell (request : ClientRequest) : Prop where
  /-- Only reads go to the read host. -/
  writes : isRead request.method = false →
    request.sentToRead = false ∧ ∀ place, request.running = some place → place.1 = .primary
  /-- A read is retried on the Primary exactly when the read host cannot serve it. -/
  fallsBack : isRead request.method = true →
    (request.askedPrimary = true ↔ ∃ hostEnd, request.readEnd = some hostEnd ∧
      unusable hostEnd = true)
  /-- Every other status of the read host goes to the caller as it is. -/
  asIs : ∀ answered, request.readEnd = some (.response answered) →
    isRedirect answered.status = false → request.answer = some answered.answer

omit [PyText] in
/-- Each breaker is what the calls for its own host make it. -/
def Independent (cfg : BreakerConfig) (client : IseClient) : Prop :=
  ∀ host, client.breaker host = replay cfg ((client.log.filter (·.1 = host)).map Prod.snd)

/-- Every request is routed well, and the breakers are independent. -/
structure SplitHolds (cfg : BreakerConfig) (client : IseClient) : Prop where
  routes : ∀ task request, client.requests.get? task = some request → RoutesWell request
  independent : client.Independent cfg

/-- The read host does not answer with 503. -/
def ReadHostNot503 (client : IseClient) (label : ClientEvent) : Prop :=
  match label with
  | .response task answered =>
      ∀ request attempt, client.onItsWay task = some (request, .read, attempt) →
        answered.status ≠ 503
  | _ => True

/-- What the code makes of every request. -/
structure Routed (request : ClientRequest) : Prop where
  writes : isRead request.method = false →
    request.sentToRead = false ∧ request.readEnd = none ∧
      ∀ place, request.running = some place → place.1 = .primary
  onRead : ∀ attempt, request.running = some (.read, attempt) →
    request.readEnd = none ∧ request.askedPrimary = false
  onPrimary : ∀ attempt, request.running = some (.primary, attempt) → request.askedPrimary = true
  unread : isRead request.method = true → request.readEnd = none → request.askedPrimary = false
  decided : ∀ hostEnd, request.readEnd = some hostEnd →
    request.askedPrimary = (hostEnd.answer .read).fallsBack ∧
      ((hostEnd.answer .read).fallsBack = false →
        request.answer = some (hostEnd.answer .read))

/-- The client only ever holds such requests, and its breakers hear of their own hosts alone. -/
structure SoundClient (cfg : BreakerConfig) (client : IseClient) : Prop where
  split : client.split = true
  routed : ∀ task request, client.requests.get? task = some request → Routed request
  independent : client.Independent cfg

omit [PyText] in
/-- Falling back is decided by the code of the error: a host that cannot serve the request, or a
real 503. -/
theorem fallsBack_iff (hostEnd : HostEnd) :
    (hostEnd.answer .read).fallsBack = true ↔
      unusable hostEnd = true ∨
        ∃ answered, hostEnd = .response answered ∧ answered.status = 503 := by
  cases hostEnd with
  | refused => simp [HostEnd.answer, HostAnswer.fallsBack, unusable]
  | transportError text => simp [HostEnd.answer, HostAnswer.fallsBack, unusable]
  | raised => simp [HostEnd.answer, HostAnswer.fallsBack, unusable]
  | cancelled => simp [HostEnd.answer, HostAnswer.fallsBack, unusable]
  | response answered =>
      simp only [HostEnd.answer, HttpResponse.answer, unusable, HostEnd.response.injEq,
        exists_eq_left']
      split
      · rename_i hstatus
        simp [HostAnswer.fallsBack, isRedirect, hstatus]
      · split
        · rename_i hredirect
          simp [HostAnswer.fallsBack, hredirect]
        · rename_i hredirect
          simp only [hredirect, false_or, Bool.false_eq_true]
          split
          · rename_i hstatus
            have hne : answered.status ≠ 0 := by omega
            simp [HostAnswer.fallsBack, hredirect, hne]
          · rename_i hstatus
            have hne : answered.status ≠ 503 := by omega
            split <;> simp [HostAnswer.fallsBack, hne]

/-- A request is routed well exactly when its read host did not answer 503. -/
theorem routesWell_iff {request : ClientRequest} (h : Routed request) :
    RoutesWell request ↔
      ∀ answered, request.readEnd = some (.response answered) → answered.status ≠ 503 := by
  constructor
  · intro hroutes answered hend hstatus
    have hredirect : isRedirect answered.status = false := by
      rw [hstatus]
      decide
    have hfalls : ((HostEnd.response answered).answer .read).fallsBack = true :=
      (fallsBack_iff _).mpr (Or.inr ⟨answered, rfl, hstatus⟩)
    have hasked : request.askedPrimary = true := (h.decided _ hend).1.trans hfalls
    cases hread : isRead request.method with
    | false =>
        rw [(h.writes hread).2.1] at hend
        cases hend
    | true =>
        obtain ⟨hostEnd, hend', hunusable⟩ := (hroutes.fallsBack hread).mp hasked
        rw [hend] at hend'
        cases hend'
        rw [unusable, hredirect] at hunusable
        cases hunusable
  · intro hnot
    have hfalls : ∀ hostEnd, request.readEnd = some hostEnd →
        ((hostEnd.answer .read).fallsBack = true ↔ unusable hostEnd = true) := by
      intro hostEnd hend
      rw [fallsBack_iff]
      constructor
      · intro hcause
        rcases hcause with hunusable | ⟨answered, rfl, hstatus⟩
        · exact hunusable
        · exact absurd hstatus (hnot answered hend)
      · exact Or.inl
    refine ⟨fun hwrite => ⟨(h.writes hwrite).1, (h.writes hwrite).2.2⟩, ?_, ?_⟩
    · intro hread
      constructor
      · intro hasked
        cases hend : request.readEnd with
        | none =>
            rw [h.unread hread hend] at hasked
            cases hasked
        | some hostEnd =>
            refine ⟨hostEnd, rfl, (hfalls hostEnd hend).mp ?_⟩
            rw [← (h.decided hostEnd hend).1]
            exact hasked
      · intro hcause
        obtain ⟨hostEnd, hend, hunusable⟩ := hcause
        rw [(h.decided hostEnd hend).1]
        exact (hfalls hostEnd hend).mpr hunusable
    · intro answered hend hredirect
      have hstays : ((HostEnd.response answered).answer .read).fallsBack = false := by
        rw [Bool.eq_false_iff, ne_eq, hfalls _ hend, unusable, hredirect]
        exact Bool.false_ne_true
      exact (h.decided _ hend).2 hstays

/-! ## One event -/

variable {cfg : BreakerConfig} {client next : IseClient} {label : ClientEvent}

omit [PyText] in
/-- A call of one breaker leaves the other alone. -/
theorem independent_call (h : client.Independent cfg) (host : Host) (made : BreakerCall) :
    (client.call cfg host made).Independent cfg := by
  intro other
  by_cases hhost : other = host
  · subst hhost
    simp [call, replay, ← h other]
  · have hother : (host = other) = False := eq_false (Ne.symm hhost)
    simp [call, hhost, hother, ← h other]

theorem sound_call (h : SoundClient cfg client) (host : Host) (made : BreakerCall) :
    SoundClient cfg (client.call cfg host made) where
  split := h.split
  routed := h.routed
  independent := independent_call h.independent host made

theorem sound_put (h : SoundClient cfg client) (task : Nat) {request : ClientRequest}
    (hrouted : Routed request) : SoundClient cfg (client.put task request) where
  split := h.split
  routed := by
    intro other found hfound
    simp only [put, Dict.get?_set] at hfound
    split at hfound
    · cases hfound
      exact hrouted
    · exact h.routed other found hfound
  independent := h.independent

/-- A write, or a read that falls back, is put to the Primary. -/
theorem sound_askPrimary (h : SoundClient cfg client) (task : Nat) {request : ClientRequest}
    (hwrite : isRead request.method = false →
      request.sentToRead = false ∧ request.readEnd = none)
    (hread : isRead request.method = true → request.readEnd ≠ none)
    (hfalls : ∀ hostEnd, request.readEnd = some hostEnd →
      (hostEnd.answer .read).fallsBack = true) :
    SoundClient cfg (client.askPrimary cfg task request) := by
  refine sound_put (sound_call h .primary _) task ?_
  have hdecided : ∀ hostEnd answer, request.readEnd = some hostEnd →
      true = (hostEnd.answer .read).fallsBack ∧
        ((hostEnd.answer .read).fallsBack = false → answer = some (hostEnd.answer .read)) := by
    intro hostEnd answer hend
    rw [hfalls hostEnd hend]
    exact ⟨rfl, fun hfalse => by cases hfalse⟩
  split
  · refine ⟨fun hmethod => ?_, ?_, ?_, ?_, ?_⟩
    · exact ⟨(hwrite hmethod).1, (hwrite hmethod).2, fun place hplace => by cases hplace⟩
    · intro attempt hplace
      cases hplace
    · intro attempt hplace
      cases hplace
    · intro hmethod hend
      exact absurd hend (hread hmethod)
    · intro hostEnd hend
      exact hdecided hostEnd _ hend
  · refine ⟨fun hmethod => ?_, ?_, ?_, ?_, ?_⟩
    · refine ⟨(hwrite hmethod).1, (hwrite hmethod).2, fun place hplace => ?_⟩
      cases hplace
      rfl
    · intro attempt hplace
      cases hplace
    · intro attempt _
      rfl
    · intro hmethod hend
      exact absurd hend (hread hmethod)
    · intro hostEnd hend
      exact hdecided hostEnd _ hend

theorem sound_afterRead (h : SoundClient cfg client) (task : Nat) {request : ClientRequest}
    (hmethod : isRead request.method = true) (hasked : request.askedPrimary = false)
    (hostEnd : HostEnd) : SoundClient cfg (client.afterRead cfg task request hostEnd) := by
  have hread : isRead request.method ≠ false := by simp [hmethod]
  unfold afterRead
  split
  · rename_i hfalls
    refine sound_askPrimary h task (fun hwrite => absurd hwrite hread) (fun _ => by simp) ?_
    intro hostEnd' hend
    cases hend
    exact hfalls
  · rename_i hstays
    rw [Bool.not_eq_true] at hstays
    refine sound_put h task ⟨fun hwrite => absurd hwrite hread, ?_, ?_, ?_, ?_⟩
    · intro attempt hplace
      cases hplace
    · intro attempt hplace
      cases hplace
    · intro _ hend
      cases hend
    · intro hostEnd' hend
      cases hend
      exact ⟨hasked.trans hstays.symm, fun _ => rfl⟩

theorem sound_finish (h : SoundClient cfg client) {task attempt : Nat} {request : ClientRequest}
    {host : Host} (hrouted : Routed request) (hrunning : request.running = some (host, attempt))
    (hostEnd : HostEnd) (requestEnd : RequestEnd) :
    SoundClient cfg (client.finish cfg task request host hostEnd requestEnd) := by
  have htold := sound_call h host (.told client.now requestEnd)
  cases host with
  | read =>
      refine sound_afterRead htold task ?_ (hrouted.onRead attempt hrunning).2 hostEnd
      -- a write is never on its way to the read host
      cases hmethod : isRead request.method with
      | true => rfl
      | false =>
          have hplace := (hrouted.writes hmethod).2.2 _ hrunning
          cases hplace
  | primary =>
      have hasked := hrouted.onPrimary attempt hrunning
      refine sound_put htold task ⟨fun hmethod => ?_, ?_, ?_, hrouted.unread, ?_⟩
      · exact ⟨(hrouted.writes hmethod).1, (hrouted.writes hmethod).2.1,
          fun place hplace => by cases hplace⟩
      · intro attempt' hplace
        cases hplace
      · intro attempt' hplace
        cases hplace
      · intro hostEnd' hend
        have hdecided := (hrouted.decided hostEnd' hend).1
        refine ⟨hdecided, fun hstays => ?_⟩
        rw [← hdecided, hasked] at hstays
        cases hstays

/-- Sending a request once more changes nothing but the attempt. -/
theorem routed_again {request : ClientRequest} {host : Host} {attempt : Nat} (h : Routed request)
    (hrunning : request.running = some (host, attempt)) :
    Routed { request with running := some (host, attempt + 1) } := by
  refine ⟨fun hmethod => ?_, ?_, ?_, h.unread, h.decided⟩
  · refine ⟨(h.writes hmethod).1, (h.writes hmethod).2.1, fun place hplace => ?_⟩
    cases hplace
    exact (h.writes hmethod).2.2 (host, attempt) hrunning
  · intro attempt' hplace
    cases hplace
    exact h.onRead attempt hrunning
  · intro attempt' hplace
    cases hplace
    exact h.onPrimary attempt hrunning

omit [PyText] in
theorem onItsWay_eq {task : Nat} {request : ClientRequest} {place : Host × Nat} :
    client.onItsWay task = some (request, place) ↔
      client.requests.get? task = some request ∧ request.running = some place := by
  unfold onItsWay
  cases client.requests.get? task with
  | none => simp
  | some found =>
      simp only [Option.map_eq_some_iff, Prod.mk.injEq, Option.some.injEq]
      constructor
      · intro h
        obtain ⟨place', hplace, rfl, rfl⟩ := h
        exact ⟨rfl, hplace⟩
      · intro h
        obtain ⟨rfl, hplace⟩ := h
        exact ⟨place, hplace, rfl, rfl⟩

theorem sound_step (hstep : client.step cfg label = some next) (h : SoundClient cfg client) :
    SoundClient cfg next := by
  cases label with
  | tick seconds =>
      simp only [step] at hstep
      split at hstep
      · cases hstep
        exact ⟨h.split, h.routed, h.independent⟩
      · cases hstep
  | request task method =>
      simp only [step] at hstep
      split at hstep
      · cases hstep
      · split at hstep
        · rename_i hread
          cases hstep
          have hasked := sound_call h .read (.asked client.now)
          unfold askRead
          dsimp only
          split
          · exact sound_afterRead hasked task hread.1 rfl .refused
          · refine sound_put hasked task ⟨fun hmethod => ?_, ?_, ?_, ?_, ?_⟩
            · rw [hread.1] at hmethod
              cases hmethod
            · intro attempt _
              exact ⟨rfl, rfl⟩
            · intro attempt hplace
              cases hplace
            · intro _ _
              rfl
            · intro hostEnd hend
              cases hend
        · -- with a split, what is not put to the read host is a write
          rename_i hwrite
          cases hstep
          have hmethod : isRead method ≠ true := fun hread => hwrite ⟨hread, h.split⟩
          exact sound_askPrimary h task (fun _ => ⟨rfl, rfl⟩) (fun hread => absurd hread hmethod)
            (fun hostEnd hend => by cases hend)
  | transportError task text =>
      obtain ⟨⟨request, host, attempt⟩, hplace, rfl⟩ := Option.map_eq_some_iff.mp hstep
      obtain ⟨hrequest, hrunning⟩ := onItsWay_eq.mp hplace
      have hrouted := h.routed task request hrequest
      dsimp only
      split
      · exact sound_put h task (routed_again hrouted hrunning)
      · exact sound_finish h hrouted hrunning _ _
  | response task answered =>
      obtain ⟨⟨request, host, attempt⟩, hplace, rfl⟩ := Option.map_eq_some_iff.mp hstep
      obtain ⟨hrequest, hrunning⟩ := onItsWay_eq.mp hplace
      exact sound_finish h (h.routed task request hrequest) hrunning _ _
  | raised task =>
      obtain ⟨⟨request, host, attempt⟩, hplace, rfl⟩ := Option.map_eq_some_iff.mp hstep
      obtain ⟨hrequest, hrunning⟩ := onItsWay_eq.mp hplace
      exact sound_finish h (h.routed task request hrequest) hrunning _ _
  | cancelled task =>
      obtain ⟨⟨request, host, attempt⟩, hplace, rfl⟩ := Option.map_eq_some_iff.mp hstep
      obtain ⟨hrequest, hrunning⟩ := onItsWay_eq.mp hplace
      exact sound_finish h (h.routed task request hrequest) hrunning _ _

omit [PyText] in
/-- No read host has answered 503. -/
def No503 (client : IseClient) : Prop :=
  ∀ task request answered, client.requests.get? task = some request →
    request.readEnd = some (.response answered) → answered.status ≠ 503

theorem splitHolds_iff (h : SoundClient cfg client) : client.SplitHolds cfg ↔ client.No503 := by
  constructor
  · intro hholds task request answered hrequest
    exact (routesWell_iff (h.routed task request hrequest)).mp (hholds.routes task request hrequest)
      answered
  · intro hnot
    refine ⟨fun task request hrequest => ?_, h.independent⟩
    exact (routesWell_iff (h.routed task request hrequest)).mpr
      (fun answered => hnot task request answered hrequest)

omit [PyText] in
theorem no503_put (h : client.No503) (task : Nat) (request : ClientRequest) :
    (client.put task request).No503 ↔
      ∀ answered, request.readEnd = some (.response answered) → answered.status ≠ 503 := by
  constructor
  · intro hafter answered
    exact hafter task request answered (Dict.get?_set_self ..)
  · intro hnot other found answered hfound hend
    simp only [put, Dict.get?_set] at hfound
    split at hfound
    · cases hfound
      exact hnot answered hend
    · exact h other found answered hfound hend

omit [PyText] in
theorem no503_askPrimary (h : client.No503) (task : Nat) (request : ClientRequest) :
    (client.askPrimary cfg task request).No503 ↔
      ∀ answered, request.readEnd = some (.response answered) → answered.status ≠ 503 := by
  unfold askPrimary
  rw [no503_put (by exact h)]
  split <;> exact Iff.rfl

omit [PyText] in
/-- When the read host is done, its end is what counts. -/
theorem no503_afterRead (h : client.No503) (task : Nat) (request : ClientRequest)
    (hostEnd : HostEnd) :
    (client.afterRead cfg task request hostEnd).No503 ↔
      ∀ answered, hostEnd = .response answered → answered.status ≠ 503 := by
  unfold afterRead
  split
  · rw [no503_askPrimary h]
    simp
  · rw [no503_put h]
    simp

omit [PyText] in
theorem no503_finish (h : client.No503) {task attempt : Nat} {request : ClientRequest}
    {host : Host} (hplace : client.onItsWay task = some (request, host, attempt))
    (hostEnd : HostEnd) (requestEnd : RequestEnd) :
    (client.finish cfg task request host hostEnd requestEnd).No503 ↔
      (host = .read → ∀ answered, hostEnd = .response answered → answered.status ≠ 503) := by
  cases host with
  | read =>
      simp only [finish]
      rw [no503_afterRead (by exact h)]
      simp
  | primary =>
      simp only [finish]
      rw [no503_put (by exact h)]
      refine iff_of_true ?_ (fun hread => by cases hread)
      exact fun answered => h task request answered (onItsWay_eq.mp hplace).1

/-- One event keeps the read host free of 503 exactly when it brings none. -/
theorem no503_step (hstep : client.step cfg label = some next) (h : client.No503) :
    next.No503 ↔ client.ReadHostNot503 label := by
  cases label with
  | tick seconds =>
      refine iff_of_true ?_ trivial
      simp only [step] at hstep
      split at hstep
      · cases hstep
        exact h
      · cases hstep
  | request task method =>
      refine iff_of_true ?_ trivial
      simp only [step] at hstep
      split at hstep
      · cases hstep
      · split at hstep
        · cases hstep
          unfold askRead
          dsimp only
          split
          · exact (no503_afterRead (by exact h) task _ _).mpr (by simp)
          · exact (no503_put (by exact h) task _).mpr (by simp)
        · cases hstep
          exact (no503_askPrimary h task _).mpr (by simp)
  | transportError task text =>
      refine iff_of_true ?_ trivial
      obtain ⟨⟨request, host, attempt⟩, hplace, rfl⟩ := Option.map_eq_some_iff.mp hstep
      dsimp only
      split
      · exact (no503_put h task _).mpr
          fun answered => h task request answered (onItsWay_eq.mp hplace).1
      · exact (no503_finish h hplace _ _).mpr (by simp)
  | response task answered =>
      obtain ⟨⟨request, host, attempt⟩, hplace, rfl⟩ := Option.map_eq_some_iff.mp hstep
      rw [no503_finish h hplace]
      cases host with
      | read => simp [ReadHostNot503, hplace]
      | primary => simp [ReadHostNot503, hplace]
  | raised task =>
      refine iff_of_true ?_ trivial
      obtain ⟨⟨request, host, attempt⟩, hplace, rfl⟩ := Option.map_eq_some_iff.mp hstep
      exact (no503_finish h hplace _ _).mpr (by simp)
  | cancelled task =>
      refine iff_of_true ?_ trivial
      obtain ⟨⟨request, host, attempt⟩, hplace, rfl⟩ := Option.map_eq_some_iff.mp hstep
      exact (no503_finish h hplace _ _).mpr (by simp)

theorem sound_start (cfg : BreakerConfig) (now : Time) : SoundClient cfg (start now) where
  split := rfl
  routed := by simp [start]
  independent := by simp [Independent, start, replay]

/-- In every run with an active split, whatever the hosts answer and however requests overlap,
every request is routed as documented and the breakers are independent in every state exactly
when the read host never answers a request with 503. -/
theorem read_write_split_iff (cfg : BreakerConfig) (now : Time) (labels : List ClientEvent) :
    Always (step cfg) (SplitHolds cfg) (start now) labels ↔
      Guarded (step cfg) ReadHostNot503 (start now) labels := by
  refine always_iff_guarded (fun _ _ _ hstep h => sound_step hstep h) ?_ (sound_start cfg now) ?_
  · intro client label next hstep hsound h
    rw [splitHolds_iff hsound] at h
    rw [splitHolds_iff (sound_step hstep hsound)]
    exact no503_step hstep h
  · rw [splitHolds_iff (sound_start cfg now)]
    simp [No503, start]

end Routing

section Overloaded

local instance overloadedText : PyText := asciiText

/-- The read host answers a read with 503. -/
def overloadedRead : List ClientEvent :=
  [.request 1 "GET", .response 1 { status := 503, message := "overloaded" }]

/-- The default settings. -/
def defaultBreaker : BreakerConfig := breakerConfig 5 60 3

/-- The answer is taken for a refusal of the breaker, and the read is sent to the Primary. -/
theorem overloaded_read_is_retried :
    ¬ Always (step defaultBreaker) (SplitHolds defaultBreaker) (start 1000) overloadedRead := by
  intro halways
  have hrun : (run (step defaultBreaker) (start 1000) overloadedRead).map
      (fun client => (client.requests.get? 1).map fun request =>
        (request.method, request.readEnd, request.askedPrimary)) =
      some (some ("GET", some (.response { status := 503, message := "overloaded" }), true)) := by
    decide
  obtain ⟨final, hfinal, hstate⟩ := Option.map_eq_some_iff.mp hrun
  obtain ⟨request, hrequest, hfields⟩ := Option.map_eq_some_iff.mp hstate
  simp only [Prod.mk.injEq] at hfields
  obtain ⟨hmethod, hend, hasked⟩ := hfields
  have hroutes := (halways.last hfinal).routes 1 request hrequest
  have hread : isRead request.method = true := by
    rw [hmethod]
    decide
  obtain ⟨hostEnd, hend', hunusable⟩ := (hroutes.fallsBack hread).mp hasked
  rw [hend] at hend'
  cases hend'
  exact absurd hunusable (by decide)

end Overloaded

end IseClient

end IsePortal
