import IsePortal.Library.Dict
import IsePortal.Library.OwnWrites
import IsePortal.Policy.PolicySets

/-!
# The policy caches

`services/policy_service.py` keeps what it reads of the policy in three module-level caches: the
listed sets, the sets by id and their rules by id. A call serves an entry that is at most
`_POLICY_CACHE_TTL` old and otherwise fetches it and stores it under the time the fetch was begun;
a mutation of a rule drops the entries of its set once ISE has answered. A step is what happens
between two `await` of a call.

ISE counts the changes it has taken, and `history` gives the policy after each of them. Every entry
carries the count at the moment its request was sent.
-/

namespace IsePortal

open Library

/-- `_POLICY_CACHE_TTL` -/
def policyCacheTtl : Time := 300

/-- `_sets_cache`, `_ps_cache` and `_rules_cache`. -/
structure PolicyCaches where
  sets : Option (Time × Stamped (List PolicySet)) := none
  policySets : Dict String (Time × Stamped PolicySet) := Dict.empty
  rules : Dict String (Time × Stamped (List PolicyRule)) := Dict.empty

/-- The value of an entry that is not too old. -/
def freshHit {α : Type} (now : Time) (entry : Option (Time × α)) : Option α :=
  match entry with
  | some (storedAt, value) => if now - storedAt ≤ policyCacheTtl then some value else none
  | none => none

/-- `invalidate_policy_cache` -/
def invalidatePolicyCache (caches : PolicyCaches) (policySetId : Option String) : PolicyCaches :=
  match policySetId with
  | none => { sets := none, policySets := Dict.empty, rules := Dict.empty }
  | some id =>
      { sets := none, policySets := caches.policySets.erase id, rules := caches.rules.erase id }

/-- The reading calls of the service. -/
inductive PolicyCall where
  | listPolicySets
  | getPolicySetDetail (policySetId : String)
  | listAuthorizationRules (policySetId : String)
  | matchEndpoint (policySetId : String) (request : MatchRequest)

/-- What a call returns; the summaries and details of the schemas are functions of these. -/
inductive PolicyResult where
  | sets (sets : List PolicySet)
  | detail (ps : PolicySet) (rules : List PolicyRule)
  | rules (rules : List PolicyRule)
  | matched (result : PolicyMatchResult)

/-- Where a call waits, with what it does once it goes on. -/
inductive PolicyAwait where
  /-- `_fetch_ep_from_ise` in `match_endpoint` -/
  | endpoint (policySetId : String) (request : MatchRequest)
  | sets
  | policySet (policySetId : String) (after : PolicySet → List PolicyRule → PolicyResult)
  | rules (policySetId : String) (after : List PolicyRule → PolicyResult)

/-- A call in flight. `floor` has the mutations that had returned when it was made; a request to ISE
counts as issued once it has been sent. -/
structure PolicyRead where
  id : Nat
  floor : List (OwnWrite String)
  awaits : PolicyAwait
  startedAt : Time
  issued : Option Nat := none

/-- A mutation of a rule that ISE has taken. -/
structure RuleMutation where
  id : Nat
  policySetId : String
  version : Nat

/-- A call that has returned, with the rule list it was made from. -/
structure PolicyAnswer where
  floor : List (OwnWrite String)
  rules : Option (String × Stamped (List PolicyRule))
  result : PolicyResult

/-- The service with everything on its way. `returned` and `answers` only serve the statements. -/
structure PolicyTraffic where
  caches : PolicyCaches := {}
  iseChanges : Nat := 0
  reads : List PolicyRead := []
  mutations : List RuleMutation := []
  returned : List (OwnWrite String) := []
  answers : List PolicyAnswer := []
  nextId : Nat := 0

/-- The steps. A time is what the call reads from the clock where it goes on. -/
inductive PolicyStep where
  | call (call : PolicyCall) (now : Time)
  /-- The endpoint of a simulation is there, or could not be fetched. -/
  | endpointDone (readId : Nat) (ep : Option PolicyEndpoint) (now : Time)
  /-- The request of a call goes to ISE, for the first time or in a further attempt. -/
  | send (readId : Nat)
  /-- ISE's answer to it arrives, read after so many changes. -/
  | deliver (readId version : Nat) (now : Time)
  /-- The call raises. -/
  | fail (readId : Nat)
  /-- ISE takes a `create_rule`, `update_rule` or `delete_rule`. -/
  | commit (policySetId : String)
  /-- Someone else changes the policy in ISE. -/
  | change
  /-- ISE's answer to a mutation arrives, and it returns. -/
  | finish (mutationId : Nat)
  /-- A mutation raises although ISE has taken it. -/
  | abandon (mutationId : Nat)

/-- `list_policy_sets` orders by rank. -/
def listedSets (sets : List PolicySet) : List PolicySet :=
  sets.mergeSort fun a b => a.rank ≤ b.rank

namespace PolicyTraffic

variable (traffic : PolicyTraffic)

/-- A call returns. -/
def answer (floor : List (OwnWrite String)) (rules : Option (String × Stamped (List PolicyRule)))
    (result : PolicyResult) : PolicyTraffic :=
  { traffic with
    answers := { floor := floor, rules := rules, result := result } :: traffic.answers }

/-- A call waits. -/
def await (floor : List (OwnWrite String)) (awaits : PolicyAwait) (now : Time) : PolicyTraffic :=
  { traffic with
    reads :=
      { id := traffic.nextId, floor := floor, awaits := awaits, startedAt := now } :: traffic.reads
    nextId := traffic.nextId + 1 }

/-- A call is no longer in flight. -/
def leave (read : PolicyRead) : PolicyTraffic :=
  { traffic with reads := traffic.reads.filter (·.id ≠ read.id) }

/-- `_cached_policy_sets`, with what follows it in `list_policy_sets`. -/
def cachedPolicySets (floor : List (OwnWrite String)) (now : Time) : PolicyTraffic :=
  match freshHit now traffic.caches.sets with
  | some sets => traffic.answer floor none (.sets (listedSets sets.value))
  | none => traffic.await floor .sets now

/-- `_cached_rules`, with what follows it. -/
def cachedRules (floor : List (OwnWrite String)) (now : Time) (policySetId : String)
    (after : List PolicyRule → PolicyResult) : PolicyTraffic :=
  match freshHit now (traffic.caches.rules.get? policySetId) with
  | some rules => traffic.answer floor (some (policySetId, rules)) (after rules.value)
  | none => traffic.await floor (.rules policySetId after) now

/-- `_cached_policy_set`, followed by `_cached_rules`. -/
def cachedPolicySet (floor : List (OwnWrite String)) (now : Time) (policySetId : String)
    (after : PolicySet → List PolicyRule → PolicyResult) : PolicyTraffic :=
  match freshHit now (traffic.caches.policySets.get? policySetId) with
  | some ps => traffic.cachedRules floor now policySetId (after ps.value)
  | none => traffic.await floor (.policySet policySetId after) now

/-- A rule list that was fetched is stored, and goes into the answer of the call. -/
def storeRules (read : PolicyRead) (policySetId : String) (rules : Stamped (List PolicyRule))
    (result : PolicyResult) : PolicyTraffic :=
  { traffic.leave read with
    caches := { traffic.caches with
      rules := traffic.caches.rules.set policySetId (read.startedAt, rules) } }.answer
    read.floor (some (policySetId, rules)) result

section Simulator

variable [PyText] [PyRegex]

/-- `match_endpoint` once the endpoint is known. -/
def matchWith (floor : List (OwnWrite String)) (now : Time) (policySetId : String)
    (request : MatchRequest) (ep : Option PolicyEndpoint) : PolicyTraffic :=
  traffic.cachedPolicySet floor now policySetId fun ps rules =>
    .matched (matchEndpoint (fun _ => ep) policySetId ps.name rules request)

/-- A call up to its first `await`. -/
def begin (call : PolicyCall) (now : Time) : PolicyTraffic :=
  match call with
  | .listPolicySets => traffic.cachedPolicySets traffic.returned now
  | .getPolicySetDetail policySetId =>
      traffic.cachedPolicySet traffic.returned now policySetId .detail
  | .listAuthorizationRules policySetId =>
      traffic.cachedRules traffic.returned now policySetId .rules
  | .matchEndpoint policySetId request =>
      if request.endpointId = "" then
        traffic.matchWith traffic.returned now policySetId request none
      else traffic.await traffic.returned (.endpoint policySetId request) now

omit [PyText] [PyRegex] in
/-- ISE's answer is stored, and the call goes on with it. -/
def store (server : PolicyServer) (read : PolicyRead) (issued : Nat) (now : Time) :
    Option PolicyTraffic :=
  let rest := traffic.leave read
  match read.awaits with
  | .endpoint _ _ => none
  | .sets =>
      let sets : Stamped (List PolicySet) := { value := server.policySets, version := issued }
      some ({ rest with
        caches := { rest.caches with sets := some (read.startedAt, sets) } }.answer
          read.floor none (.sets (listedSets sets.value)))
  | .policySet policySetId after =>
      (server.policySets.find? (·.id = policySetId)).map fun ps =>
        { rest with
          caches := { rest.caches with
            policySets := rest.caches.policySets.set policySetId
              (read.startedAt, { value := ps, version := issued }) } }.cachedRules
          read.floor now policySetId (after ps)
  | .rules policySetId after =>
      let rules : Stamped (List PolicyRule) :=
        { value := listAuthorizationRules (server.rulesOf policySetId), version := issued }
      some (traffic.storeRules read policySetId rules (after rules.value))

omit [PyText] [PyRegex] in
/-- The rest of a mutation after ISE's answer. -/
def finish (mutation : RuleMutation) : PolicyTraffic :=
  { traffic with
    caches := invalidatePolicyCache traffic.caches (some mutation.policySetId)
    mutations := traffic.mutations.filter (·.id ≠ mutation.id)
    returned :=
      { key := mutation.policySetId, version := mutation.version } :: traffic.returned }

/-- One step; `none` is a step that is not possible. -/
def step (history : Nat → PolicyServer) (label : PolicyStep) : Option PolicyTraffic :=
  match label with
  | .call call now => some (traffic.begin call now)
  | .endpointDone readId ep now =>
      match traffic.reads.find? (·.id = readId) with
      | none => none
      | some read =>
          match read.awaits with
          | .endpoint policySetId request =>
              some ((traffic.leave read).matchWith read.floor now policySetId request ep)
          | _ => none
  | .send readId =>
      some { traffic with
        reads := traffic.reads.map fun read =>
          if read.id = readId then { read with issued := some traffic.iseChanges } else read }
  | .deliver readId version now =>
      match traffic.reads.find? (·.id = readId) with
      | none => none
      | some read =>
          match read.issued with
          | none => none
          | some issued =>
              -- ISE read the policy after the request was sent
              if issued ≤ version ∧ version ≤ traffic.iseChanges then
                traffic.store (history version) read issued now
              else none
  | .fail readId => (traffic.reads.find? (·.id = readId)).map traffic.leave
  | .commit policySetId =>
      some { traffic with
        iseChanges := traffic.iseChanges + 1
        mutations :=
          { id := traffic.nextId, policySetId := policySetId
            version := traffic.iseChanges + 1 } :: traffic.mutations
        nextId := traffic.nextId + 1 }
  | .change => some { traffic with iseChanges := traffic.iseChanges + 1 }
  | .finish mutationId =>
      (traffic.mutations.find? (·.id = mutationId)).map traffic.finish
  | .abandon mutationId =>
      some { traffic with mutations := traffic.mutations.filter (·.id ≠ mutationId) }

end Simulator

end PolicyTraffic

end IsePortal
