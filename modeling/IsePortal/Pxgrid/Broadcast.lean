import IsePortal.Library.BoundedQueue
import IsePortal.Library.Dict
import IsePortal.Library.Runs

/-!
# Broadcasting to the event streams

`subscribe`, `unsubscribe` and `_broadcast` of `pxgrid/session_cache.py`, and the consumers of
`api/pxgrid.py`. Every open event stream has a queue of its own; a broadcast never waits for a
slow one but drops its oldest event. Between two awaits nothing interrupts a function, so a run is
any interleaving of the four operations. The observers of a broadcast touch no queue.
-/

namespace IsePortal

open Library

/-- How an event left a queue: a consumer took it, or a broadcast that found `held` in the queue
dropped it. -/
inductive Departure (α : Type) where
  | consumed (event : α)
  | dropped (event : α) (held : List α)

def Departure.event {α : Type} : Departure α → α
  | .consumed event => event
  | .dropped event _ => event

/-- The queue of one event stream. The code has the queue and whether it is in `_subscribers`;
`departures` is what has left the queue so far. -/
structure Subscription (α : Type) where
  queue : BoundedQueue α
  subscribed : Bool := true
  departures : List (Departure α) := []

namespace Subscription

variable {α : Type}

/-- What the consumer has got, in order. -/
def consumed (subscription : Subscription α) : List α :=
  subscription.departures.filterMap fun departure =>
    match departure with
    | .consumed event => some event
    | .dropped _ _ => none

/-- Everything that was ever put into the queue. -/
def received (subscription : Subscription α) : List α :=
  subscription.departures.map Departure.event ++ subscription.queue.items

/-- The oldest event of a full queue makes room. -/
def overflow (subscription : Subscription α) : List (Departure α) :=
  match subscription.queue.items with
  | [] => []
  | oldest :: _ =>
      if subscription.queue.full then [.dropped oldest subscription.queue.items] else []

/-- The loop body of `_broadcast`. A queue that takes no event even then would be dead, and is no
subscriber any more. -/
def deliver (subscription : Subscription α) (event : α) : Subscription α :=
  if subscription.subscribed then
    match subscription.queue.offer event with
    | some queue =>
        { subscription with
          queue := queue
          departures := subscription.departures ++ subscription.overflow }
    -- the branch that discards a dead queue
    | none => { subscription with subscribed := false }
  else subscription

/-- Every event that was dropped was the oldest of a queue that was full. -/
def LossesFit (subscription : Subscription α) : Prop :=
  ∀ event held, .dropped event held ∈ subscription.departures →
    subscription.queue.maxsize ≠ 0 ∧ held.length = subscription.queue.maxsize ∧
      held.head? = some event

end Subscription

/-- The queues by the identity of the queue object. -/
abbrev Broadcaster (α : Type) := Dict Nat (Subscription α)

inductive BroadcastOp (α : Type) where
  | broadcast (event : α)
  /-- A new queue; asyncio takes the size zero for no bound. -/
  | subscribe (id : Nat) (maxsize : Nat := 256)
  | unsubscribe (id : Nat)
  /-- `queue.get()` of a consumer returns; with an empty queue it waits. -/
  | consume (id : Nat)

namespace Broadcaster

variable {α : Type}

def step (state : Broadcaster α) : BroadcastOp α → Option (Broadcaster α)
  | .broadcast event => some (state.mapValues fun subscription => subscription.deliver event)
  | .subscribe id maxsize =>
      if (state.get? id).isNone then some (state.set id { queue := .empty maxsize }) else none
  | .unsubscribe id =>
      some (state.modify id fun subscription => { subscription with subscribed := false })
  | .consume id =>
      (state.get? id).bind fun subscription =>
        subscription.queue.get?.map fun popped =>
          state.set id
            { subscription with
              queue := popped.2
              departures := subscription.departures ++ [.consumed popped.1] }

/-- Whether a queue is a subscriber after an operation. -/
def listens (id : Nat) (listening : Bool) : BroadcastOp α → Bool
  | .subscribe other _ => listening || other = id
  | .unsubscribe other => listening && other ≠ id
  | _ => listening

/-- The event a subscriber is sent by an operation. -/
def heardNow (listening : Bool) : BroadcastOp α → List α
  | .broadcast event => if listening then [event] else []
  | _ => []

/-- The events broadcast while the queue is a subscriber. -/
def heardFrom (id : Nat) : Bool → List (BroadcastOp α) → List α
  | _, [] => []
  | listening, op :: rest => heardNow listening op ++ heardFrom id (listens id listening op) rest

/-- The events broadcast while the queue was a subscriber, over a whole run. -/
def heard (id : Nat) (ops : List (BroadcastOp α)) : List α := heardFrom id false ops

/-- A broadcast, or an operation on this queue. -/
def concerns (id : Nat) : BroadcastOp α → Bool
  | .broadcast _ => true
  | .subscribe other _ | .unsubscribe other | .consume other => other = id

end Broadcaster

/-! ## One delivery -/

section Delivery

variable {α : Type} (subscription : Subscription α) (event : α)

/-- A subscriber is never found dead: it gets the event, and only a full queue loses one. -/
theorem deliver_subscribed (h : subscription.subscribed = true) :
    ∃ queue, queue.maxsize = subscription.queue.maxsize ∧
      subscription.deliver event =
        { subscription with
          queue := queue
          departures := subscription.departures ++ subscription.overflow } ∧
      subscription.overflow.map Departure.event ++ queue.items =
        subscription.queue.items ++ [event] := by
  obtain ⟨queue, hoffer, hmaxsize, hitems⟩ := subscription.queue.offer_eq_some event
  refine ⟨queue, hmaxsize, ?_, ?_⟩
  · rw [Subscription.deliver, if_pos h, hoffer]
  · rw [hitems, Subscription.overflow]
    cases hheld : subscription.queue.items with
    | nil => simp
    | cons oldest rest =>
        cases subscription.queue.full with
        | false => rfl
        | true => rfl

theorem deliver_unsubscribed (h : subscription.subscribed = false) :
    subscription.deliver event = subscription := by
  rw [Subscription.deliver, h, if_neg Bool.false_ne_true]

@[simp] theorem subscribed_deliver :
    (subscription.deliver event).subscribed = subscription.subscribed := by
  cases h : subscription.subscribed with
  | false => rw [deliver_unsubscribed subscription event h, h]
  | true =>
      obtain ⟨queue, _, hdeliver, _⟩ := deliver_subscribed subscription event h
      rw [hdeliver]
      exact h

theorem received_deliver :
    (subscription.deliver event).received =
      subscription.received ++ if subscription.subscribed then [event] else [] := by
  cases h : subscription.subscribed with
  | false => rw [deliver_unsubscribed subscription event h, if_neg Bool.false_ne_true,
      List.append_nil]
  | true =>
      obtain ⟨queue, _, hdeliver, hitems⟩ := deliver_subscribed subscription event h
      rw [hdeliver, if_pos rfl]
      simp only [Subscription.received, List.map_append, List.append_assoc, hitems]

theorem lossesFit_deliver (h : subscription.LossesFit) :
    (subscription.deliver event).LossesFit := by
  cases hsubscribed : subscription.subscribed with
  | false =>
      rw [deliver_unsubscribed subscription event hsubscribed]
      exact h
  | true =>
      obtain ⟨queue, hmaxsize, hdeliver, _⟩ := deliver_subscribed subscription event hsubscribed
      rw [hdeliver]
      intro lost held hmem
      simp only [hmaxsize]
      rcases List.mem_append.mp hmem with hold | hnew
      · exact h lost held hold
      · cases hfull : subscription.queue.full with
        -- nothing makes room in a queue that is not full
        | false =>
            simp only [Subscription.overflow, hfull, Bool.false_eq_true, if_false] at hnew
            split at hnew <;> cases hnew
        | true =>
            obtain ⟨oldest, rest, hitems, hmax, hlength⟩ :=
              BoundedQueue.exists_oldest_of_full hfull
            simp only [Subscription.overflow, hitems, hfull, if_true, List.mem_singleton,
              Departure.dropped.injEq] at hnew
            obtain ⟨rfl, rfl⟩ := hnew
            rw [hitems] at hlength
            exact ⟨hmax, hlength, rfl⟩

end Delivery

/-! ## Runs -/

namespace Broadcaster

variable {α : Type} {state next final : Broadcaster α} {op : BroadcastOp α} {id : Nat}

/-- What was put into a queue, nothing for one that does not exist yet. -/
def receivedBy (state : Broadcaster α) (id : Nat) : List α :=
  ((state.get? id).map Subscription.received).getD []

/-- The queue is in `_subscribers`. -/
def listening (state : Broadcaster α) (id : Nat) : Bool :=
  (state.get? id).any Subscription.subscribed

/-- A queue that an operation does not concern is left alone. -/
theorem get?_step_of_not_concerns (hstep : step state op = some next)
    (h : concerns id op = false) : next.get? id = state.get? id := by
  cases op with
  | broadcast event => cases h
  | subscribe other maxsize =>
      have hne : id ≠ other := fun heq => by simp [concerns, heq] at h
      simp only [step] at hstep
      split at hstep
      · cases hstep
        exact Dict.get?_set_ne _ _ hne
      · cases hstep
  | unsubscribe other =>
      have hne : id ≠ other := fun heq => by simp [concerns, heq] at h
      cases hstep
      rw [Dict.get?_modify, if_neg hne]
  | consume other =>
      -- a consumer takes from its own queue only
      have hne : id ≠ other := fun heq => by simp [concerns, heq] at h
      obtain ⟨subscription, _, hstep⟩ := Option.bind_eq_some_iff.mp hstep
      obtain ⟨popped, _, rfl⟩ := Option.map_eq_some_iff.mp hstep
      exact Dict.get?_set_ne _ _ hne

/-- What an operation does to a queue only depends on that queue. -/
theorem step_congr {alone : Broadcaster α} (hsame : alone.get? id = state.get? id)
    (hstep : step state op = some next) (h : concerns id op = true) :
    ∃ after, step alone op = some after ∧ after.get? id = next.get? id := by
  cases op with
  | broadcast event =>
      cases hstep
      refine ⟨_, rfl, ?_⟩
      rw [Dict.get?_mapValues, Dict.get?_mapValues, hsame]
  | subscribe other maxsize =>
      obtain rfl : other = id := by simpa [concerns] using h
      simp only [step] at hstep
      split at hstep
      · next hfresh =>
          cases hstep
          rw [← hsame] at hfresh
          refine ⟨_, if_pos hfresh, ?_⟩
          rw [Dict.get?_set_self, Dict.get?_set_self]
      · cases hstep
  | unsubscribe other =>
      obtain rfl : other = id := by simpa [concerns] using h
      cases hstep
      refine ⟨_, rfl, ?_⟩
      rw [Dict.get?_modify, Dict.get?_modify, hsame]
  | consume other =>
      obtain rfl : other = id := by simpa [concerns] using h
      obtain ⟨subscription, hqueue, hstep⟩ := Option.bind_eq_some_iff.mp hstep
      obtain ⟨popped, hpopped, rfl⟩ := Option.map_eq_some_iff.mp hstep
      have htaken : step alone (.consume other) =
          some (alone.set other
            { subscription with
              queue := popped.2
              departures := subscription.departures ++ [.consumed popped.1] }) := by
        rw [step, hsame, hqueue, Option.bind_some, hpopped, Option.map_some]
      refine ⟨_, htaken, ?_⟩
      rw [Dict.get?_set_self, Dict.get?_set_self]

/-- An operation puts into a queue exactly what it broadcasts to a subscriber. -/
theorem receivedBy_step (id : Nat) (hstep : step state op = some next) :
    listening next id = listens id (listening state id) op ∧
      receivedBy next id = receivedBy state id ++ heardNow (listening state id) op := by
  unfold listening receivedBy
  cases op with
  | broadcast event =>
      cases hstep
      rw [Dict.get?_mapValues]
      cases state.get? id with
      | none => exact ⟨rfl, rfl⟩
      | some subscription =>
          exact ⟨subscribed_deliver subscription event, received_deliver subscription event⟩
  | subscribe other maxsize =>
      simp only [step, Option.ite_none_right_eq_some, Option.isNone_iff_eq_none] at hstep
      obtain ⟨hfresh, hstep⟩ := hstep
      cases hstep
      by_cases hid : id = other
      · subst hid
        rw [Dict.get?_set_self, hfresh]
        exact ⟨by simp [listens], rfl⟩
      · have hother : ¬ other = id := fun heq => hid heq.symm
        rw [Dict.get?_set_ne _ _ hid]
        exact ⟨by simp [listens, hother], (List.append_nil _).symm⟩
  | unsubscribe other =>
      cases hstep
      rw [Dict.get?_modify]
      by_cases hid : id = other
      · subst hid
        rw [if_pos rfl]
        cases state.get? id with
        | none => exact ⟨by simp [listens], rfl⟩
        | some subscription => exact ⟨by simp [listens], (List.append_nil _).symm⟩
      · have hother : ¬ other = id := fun heq => hid heq.symm
        rw [if_neg hid]
        exact ⟨by simp [listens, hother], (List.append_nil _).symm⟩
  | consume other =>
      obtain ⟨subscription, hqueue, hstep⟩ := Option.bind_eq_some_iff.mp hstep
      obtain ⟨popped, hpopped, rfl⟩ := Option.map_eq_some_iff.mp hstep
      obtain ⟨_, hitems⟩ := BoundedQueue.get?_eq_some_iff.mp hpopped
      by_cases hid : id = other
      · subst hid
        rw [Dict.get?_set_self, hqueue]
        refine ⟨rfl, ?_⟩
        simp only [Option.map_some, Option.getD_some, Subscription.received, List.map_append,
          List.map_cons, List.map_nil, List.append_assoc, List.singleton_append, hitems, heardNow,
          List.append_nil]
        rfl
      · rw [Dict.get?_set_ne _ _ hid]
        exact ⟨rfl, (List.append_nil _).symm⟩

/-- Over a run, a queue receives the events broadcast while it is a subscriber. -/
theorem receivedBy_run {ops : List (BroadcastOp α)} (id : Nat)
    (hrun : run step state ops = some final) :
    receivedBy final id = receivedBy state id ++ heardFrom id (listening state id) ops := by
  induction ops generalizing state with
  | nil =>
      cases hrun
      exact (List.append_nil _).symm
  | cons op rest ih =>
      obtain ⟨next, hstep, hrest⟩ := run_cons_some hrun
      obtain ⟨hlistening, hreceived⟩ := receivedBy_step id hstep
      rw [ih hrest, hreceived, hlistening, heardFrom, List.append_assoc]

/-- Every loss so far was the oldest event of a full queue. -/
def AllLossesFit (state : Broadcaster α) : Prop :=
  ∀ id subscription, state.get? id = some subscription → subscription.LossesFit

theorem allLossesFit_set (h : AllLossesFit state) {subscription : Subscription α}
    (hnew : subscription.LossesFit) : AllLossesFit (state.set id subscription) := by
  intro other stored hstored
  rw [Dict.get?_set] at hstored
  split at hstored
  · cases hstored
    exact hnew
  · exact h other stored hstored

theorem allLossesFit_step (hstep : step state op = some next) (h : AllLossesFit state) :
    AllLossesFit next := by
  cases op with
  | broadcast event =>
      cases hstep
      intro id stored hstored
      rw [Dict.get?_mapValues] at hstored
      obtain ⟨subscription, hget, rfl⟩ := Option.map_eq_some_iff.mp hstored
      exact lossesFit_deliver subscription event (h id subscription hget)
  | subscribe other maxsize =>
      simp only [step, Option.ite_none_right_eq_some] at hstep
      obtain ⟨_, hstep⟩ := hstep
      cases hstep
      exact allLossesFit_set h fun event held hmem => by cases hmem
  | unsubscribe other =>
      cases hstep
      intro id stored hstored
      rw [Dict.get?_modify] at hstored
      split at hstored
      · obtain ⟨subscription, hget, rfl⟩ := Option.map_eq_some_iff.mp hstored
        exact h other subscription hget
      · exact h id stored hstored
  | consume other =>
      obtain ⟨subscription, hqueue, hstep⟩ := Option.bind_eq_some_iff.mp hstep
      obtain ⟨popped, hpopped, rfl⟩ := Option.map_eq_some_iff.mp hstep
      obtain ⟨hmaxsize, _⟩ := BoundedQueue.get?_eq_some_iff.mp hpopped
      refine allLossesFit_set h fun event held hmem => ?_
      simp only [hmaxsize]
      rcases List.mem_append.mp hmem with hold | hnew
      · exact h other subscription hqueue event held hold
      · cases List.mem_singleton.mp hnew

/-- Leaving out what does not concern a queue changes nothing for it. -/
theorem run_alone {ops : List (BroadcastOp α)} {alone : Broadcaster α}
    (hsame : alone.get? id = state.get? id) (hrun : run step state ops = some final) :
    ∃ last, run step alone (ops.filter (concerns id)) = some last ∧
      last.get? id = final.get? id := by
  induction ops generalizing state alone with
  | nil =>
      cases hrun
      exact ⟨alone, rfl, hsame⟩
  | cons op rest ih =>
      obtain ⟨next, hstep, hrest⟩ := run_cons_some hrun
      -- an operation on another queue is left out, any other is made in both runs
      cases hconcerns : concerns id op with
      | false =>
          rw [List.filter_cons_of_neg (by rw [hconcerns]; exact Bool.false_ne_true)]
          exact ih (hsame.trans (get?_step_of_not_concerns hstep hconcerns).symm) hrest
      | true =>
          obtain ⟨after, hafter, hget⟩ := step_congr hsame hstep hconcerns
          obtain ⟨last, hlast, hfinal⟩ := ih hget hrest
          refine ⟨last, ?_, hfinal⟩
          rw [List.filter_cons_of_pos hconcerns, run, hafter]
          exact hlast

/-- After any run: a queue keeps to its size, holds the latest of the events broadcast while it was
a subscriber, and its consumer has got events before these, in order and each at most once;
whatever else was broadcast to it was the oldest event of its full queue; and the operations on
other queues make no difference. -/
theorem broadcast_fan_out (ops : List (BroadcastOp α)) (final : Broadcaster α)
    (hrun : run step Dict.empty ops = some final) (id : Nat) (subscription : Subscription α)
    (hqueue : final.get? id = some subscription) :
    (subscription.queue.maxsize ≠ 0 →
        subscription.queue.items.length ≤ subscription.queue.maxsize) ∧
      subscription.queue.items <:+ heard id ops ∧
      (subscription.consumed ++ subscription.queue.items).Sublist (heard id ops) ∧
      heard id ops = subscription.departures.map Departure.event ++ subscription.queue.items ∧
      subscription.LossesFit ∧
      ∃ alone, run step Dict.empty (ops.filter (concerns id)) = some alone ∧
        alone.get? id = some subscription := by
  have hreceived : subscription.received = heard id ops := by
    have hall := receivedBy_run id hrun
    rw [receivedBy, hqueue] at hall
    exact hall
  have hlosses : AllLossesFit final :=
    (always_of_step (fun _ _ _ hstep h => allLossesFit_step hstep h) ops
      (fun other stored hstored => by cases hstored)).last hrun
  have hconsumed : subscription.consumed.Sublist
      (subscription.departures.map Departure.event) := by
    rw [Subscription.consumed, ← List.filterMap_eq_map]
    induction subscription.departures with
    | nil => exact List.Sublist.refl _
    | cons departure rest ih =>
        cases departure with
        | consumed event => exact ih.cons_cons event
        | dropped event held => exact ih.cons event
  refine ⟨subscription.queue.fits, ?_, ?_, hreceived.symm, hlosses id subscription hqueue, ?_⟩
  · rw [← hreceived]
    exact List.suffix_append _ _
  · rw [← hreceived]
    exact hconsumed.append (List.Sublist.refl _)
  · obtain ⟨alone, halone, hget⟩ := run_alone (rfl : _ = Dict.empty.get? id) hrun
    exact ⟨alone, halone, hget.trans hqueue⟩

end Broadcaster

/-- A queue of two events and a consumer that keeps up beside one that does not. -/
def twoStreams : List (BroadcastOp String) :=
  [.subscribe 0 2, .subscribe 1, .broadcast "upsert", .broadcast "remove", .consume 1,
    .broadcast "clear"]

theorem broadcast_fan_out_two_streams :
    ∃ final subscription, run Broadcaster.step Dict.empty twoStreams = some final ∧
      final.get? 0 = some subscription ∧ subscription.queue.items = ["remove", "clear"] ∧
      subscription.queue.items <:+ Broadcaster.heard 0 twoStreams := by
  obtain ⟨final, hrun⟩ : ∃ final, run Broadcaster.step Dict.empty twoStreams = some final :=
    ⟨_, rfl⟩
  obtain ⟨subscription, hqueue⟩ : ∃ subscription, final.get? 0 = some subscription := by
    cases hrun
    exact ⟨_, rfl⟩
  obtain ⟨_, hsuffix, _, _, _, _⟩ :=
    Broadcaster.broadcast_fan_out twoStreams final hrun 0 subscription hqueue
  refine ⟨final, subscription, hrun, hqueue, ?_, hsuffix⟩
  cases hrun
  cases hqueue
  rfl

end IsePortal
