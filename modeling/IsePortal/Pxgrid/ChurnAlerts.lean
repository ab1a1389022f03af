import IsePortal.Library.Dict
import IsePortal.Library.Runs
import IsePortal.Library.SlidingWindow
import IsePortal.Platform.Text
import Mathlib.Algebra.Order.Ring.Rat
import Mathlib.Data.Finset.Card

/-!
# Alerts about sessions that move

The observer of `app/pxgrid/anomaly_detector.py` and the alerts it sets in
`app/core/alert_store.py`. The table of MACs is capped by dropping its oldest key, which leaves the alert of that MAC behind
and forgets its last minute. `TracksAll` is the step that loses neither; `churn_alerts_grounded`
says what holds in a run of such steps.
-/

namespace IsePortal.Anomaly

open Library Library.SlidingWindow

/-- `BULK_THRESHOLD`, `BULK_WINDOW_S`, `CHURN_THRESHOLD`, `CHURN_WINDOW_S`, `MAX_CHURN_MACS` -/
def bulkThreshold : Nat := 10
def bulkWindow : Time := 30
def churnThreshold : Nat := 3
def churnWindow : Time := 60
def maxChurnMacs : Nat := 50

/-- `Alert` -/
structure Alert where
  id : String
  severity : String
  title : String
  body : String
  since : Time

/-- `_alerts` -/
abbrev AlertStore := Dict String Alert

namespace AlertStore

/-- `set_alert` -/
def setAlert (alerts : AlertStore) (now : Time) (alertId severity title body : String) :
    AlertStore :=
  match alerts.get? alertId with
  | some a => alerts.set alertId { a with severity := severity, title := title, body := body }
  | none => alerts.set alertId ⟨alertId, severity, title, body, now⟩

/-- `clear_alert` -/
def clearAlert (alerts : AlertStore) (alertId : String) : AlertStore := alerts.erase alertId

end AlertStore

/-- An event of the session cache, with the fields the observer reads. -/
inductive SessionEvent where
  | upsert (mac nasIp : String)
  | remove
  | clear
deriving DecidableEq

/-- `AnomalyDetector` -/
structure AnomalyDetector where
  disconnectTimes : List Time := []
  nasHistory : Dict String (List (Time × String)) := Dict.empty

/-- The detector, the alerts, and the events observed so far with their times. -/
structure Observed where
  detector : AnomalyDetector := {}
  alerts : AlertStore := Dict.empty
  past : List (Time × SessionEvent) := []

/-- `_handle_disconnect` -/
def handleDisconnect (detector : AnomalyDetector) (alerts : AlertStore) (now : Time) :
    AnomalyDetector × AlertStore :=
  let times := prune bulkWindow now (detector.disconnectTimes ++ [now])
  ({ detector with disconnectTimes := times },
    if bulkThreshold ≤ times.length then
      alerts.setAlert now "anomaly_bulk_disconnect" "warning" "Bulk-disconnect detekteret"
        (s!"{times.length} endpoints disconnectet inden for 30s. " ++
          "Mulig switch-fejl, ISE-genstart eller angreb.")
    else alerts.clearAlert "anomaly_bulk_disconnect")

/-- The tracked MAC that a new one takes the place of: the oldest one of a full table. -/
def evicted (history : Dict String (List (Time × String))) (mac : String) : Option String :=
  if mac ∉ history.keys ∧ maxChurnMacs ≤ history.size then history.keys.head? else none

/-- Begin to track a MAC. -/
def track (history : Dict String (List (Time × String))) (mac : String) :
    Dict String (List (Time × String)) :=
  if mac ∈ history.keys then history
  else
    match evicted history mac with
    | some oldest => (history.erase oldest).set mac []
    | none => history.set mac []

/-- The deque of a MAC after an event. -/
def nextHist (history : Dict String (List (Time × String))) (now : Time) (mac nasIp : String) :
    List (Time × String) :=
  (((track history mac).get? mac).getD [] ++ [(now, nasIp)]).dropWhile fun seen =>
    decide (seen.1 < now - churnWindow)

/-- How the alerts about churn are named. -/
def churnAlerts : String := "anomaly_nas_churn_"

/-- `f"anomaly_nas_churn_{mac}"` -/
def churnAlertId (mac : String) : String := churnAlerts ++ mac

/-- `_handle_upsert` -/
def handleUpsert (detector : AnomalyDetector) (alerts : AlertStore) (now : Time)
    (mac nasIp : String) : AnomalyDetector × AlertStore :=
  if mac = "" ∨ nasIp = "" then (detector, alerts)
  else
    let hist := nextHist detector.nasHistory now mac nasIp
    let uniqueIps := (hist.map Prod.snd).toFinset.card
    ({ detector with nasHistory := (track detector.nasHistory mac).set mac hist },
      if churnThreshold ≤ uniqueIps then
        alerts.setAlert now (churnAlertId mac) "warning" "NAS-IP churn detekteret"
          (s!"MAC {mac} har skiftet NAS-IP {uniqueIps} gange inden for 60s — " ++
            "mulig MAC-spoofing eller roaming-fejl.")
      else alerts.clearAlert (churnAlertId mac))

/-- No event came after this time. -/
abbrev Later (past : List (Time × SessionEvent)) (now : Time) : Prop :=
  ∀ before ∈ past, before.1 ≤ now

/-- `_on_event` -/
def handle (state : Observed) (now : Time) : SessionEvent → AnomalyDetector × AlertStore
  | .remove => handleDisconnect state.detector state.alerts now
  | .upsert mac nasIp => handleUpsert state.detector state.alerts now mac nasIp
  | .clear => ({ state.detector with disconnectTimes := [] }, state.alerts)

/-- One event, at a time no earlier than the events before. -/
def onEvent (state : Observed) (seen : Time × SessionEvent) : Option Observed :=
  if Later state.past seen.1 then
    some
      { detector := (handle state seen.1 seen.2).1
        alerts := (handle state seen.1 seen.2).2
        past := state.past ++ [seen] }
  else none

/-! ## What the alerts should say -/

/-- An alert about churn. -/
def isChurnAlert (alertId : String) : Bool := churnAlerts.toList.isPrefixOf alertId.toList

/-- The NAS addresses a MAC was seen at, with their times. -/
def seenAt (mac : String) (past : List (Time × SessionEvent)) : List (Time × String) :=
  past.filterMap fun seen =>
    match seen.2 with
    | .upsert other nasIp => if other = mac ∧ nasIp ≠ "" then some (seen.1, nasIp) else none
    | _ => none

/-- The distinct ones from a time on. -/
def nasIpsSince (mac : String) (since : Time) (past : List (Time × SessionEvent)) :
    Finset String :=
  (((seenAt mac past).filter fun seen => decide (since ≤ seen.1)).map Prod.snd).toFinset

/-- The alerts about churn are no more than the table has room for, they belong to tracked MACs, and
right after an event of a MAC its alert says whether it moved too often in the last minute. -/
structure Grounded (state : Observed) : Prop where
  bounded : (state.alerts.keys.filter isChurnAlert).length ≤ maxChurnMacs
  tracked : ∀ alertId ∈ state.alerts.keys, isChurnAlert alertId = true →
    ∃ mac ∈ state.detector.nasHistory.keys, alertId = churnAlertId mac
  latest : ∀ before now mac nasIp, state.past = before ++ [(now, .upsert mac nasIp)] → mac ≠ "" →
    (churnAlertId mac ∈ state.alerts.keys ↔
      churnThreshold ≤ (nasIpsSince mac (now - churnWindow) state.past).card)

/-- An event that loses nothing: one without a NAS address comes for a MAC without an alert, and a
MAC that is not tracked was not seen in the last minute and evicts none with an alert. -/
def TracksAll (state : Observed) (seen : Time × SessionEvent) : Prop :=
  match seen.2 with
  | .upsert mac nasIp =>
      mac ≠ "" →
        if nasIp = "" then churnAlertId mac ∉ state.alerts.keys
        else
          mac ∉ state.detector.nasHistory.keys →
            nasIpsSince mac (seen.1 - churnWindow) state.past = ∅ ∧
            ∀ oldest ∈ evicted state.detector.nasHistory mac,
              churnAlertId oldest ∉ state.alerts.keys
  | _ => True

instance (state : Observed) (seen : Time × SessionEvent) : Decidable (TracksAll state seen) :=
  match seen with
  | (_, .upsert _ _) => inferInstanceAs (Decidable (_ → ite _ _ _))
  | (_, .remove) | (_, .clear) => .isTrue trivial

variable {state next : Observed} {past : List (Time × SessionEvent)} {event : SessionEvent}
  {history : Dict String (List (Time × String))} {alerts : AlertStore} {now later since : Time}
  {mac other nasIp alertId : String}

/-! ### Alerts -/

theorem churnAlertId_inj (h : churnAlertId mac = churnAlertId other) : mac = other := by
  have hlist := congrArg String.toList h
  rw [churnAlertId, churnAlertId, String.toList_append, String.toList_append] at hlist
  exact String.toList_inj.mp (List.append_cancel_left hlist)

theorem isChurnAlert_churnAlertId (mac : String) : isChurnAlert (churnAlertId mac) = true := by
  rw [isChurnAlert, churnAlertId, String.toList_append, List.isPrefixOf_iff_prefix]
  exact List.prefix_append _ _

theorem mem_keys_setAlert {severity title body : String} :
    other ∈ (alerts.setAlert now alertId severity title body).keys ↔
      other = alertId ∨ other ∈ alerts.keys := by
  unfold AlertStore.setAlert
  split <;> exact Dict.mem_keys_set _

/-- A burst of disconnects concerns no alert about churn. -/
theorem churn_of_handleDisconnect (detector : AnomalyDetector) (h : isChurnAlert alertId = true) :
    alertId ∈ (handleDisconnect detector alerts now).2.keys ↔ alertId ∈ alerts.keys := by
  have hne : alertId ≠ "anomaly_bulk_disconnect" := by
    rintro rfl
    exact absurd h (by decide)
  unfold handleDisconnect
  dsimp only
  split
  · simp [mem_keys_setAlert, hne]
  · simp [AlertStore.clearAlert, Dict.mem_keys_erase, hne]

/-! ### The addresses a MAC was seen at -/

@[simp] theorem seenAt_append (mac : String) (past events : List (Time × SessionEvent)) :
    seenAt mac (past ++ events) = seenAt mac past ++ seenAt mac events :=
  List.filterMap_append

theorem seenAt_self (now : Time) (mac : String) (h : nasIp ≠ "") :
    seenAt mac [(now, .upsert mac nasIp)] = [(now, nasIp)] := by
  simp [seenAt, h]

theorem seenAt_ne (now : Time) (nasIp : String) (h : other ≠ mac) :
    seenAt mac [(now, .upsert other nasIp)] = [] := by
  simp [seenAt, h]

/-- The addresses of a MAC come in the order of the events. -/
theorem seenAt_sorted (h : past.Pairwise fun before after => before.1 ≤ after.1) (mac : String) :
    (seenAt mac past).Pairwise fun before after => before.1 ≤ after.1 := by
  unfold seenAt
  refine List.Pairwise.filterMap _ ?_ h
  intro before after hle first hfirst last hlast
  have htime : ∀ {seen : Time × SessionEvent} {entry : Time × String},
      (match seen.2 with
        | .upsert other nasIp => if other = mac ∧ nasIp ≠ "" then some (seen.1, nasIp) else none
        | _ => none) = some entry → entry.1 = seen.1 := by
    intro seen entry hentry
    split at hentry
    · split at hentry
      · cases hentry
        rfl
      · cases hentry
    · cases hentry
  rw [htime hfirst, htime hlast]
  exact hle

/-- An event of others leaves the addresses of a MAC as they are. -/
theorem nasIpsSince_append (h : seenAt mac [(now, event)] = []) :
    nasIpsSince mac since (past ++ [(now, event)]) = nasIpsSince mac since past := by
  rw [nasIpsSince, seenAt_append, h, List.append_nil, nasIpsSince]

/-- A later start leaves no more of them. -/
theorem nasIpsSince_subset (h : since ≤ later) :
    nasIpsSince mac later past ⊆ nasIpsSince mac since past := by
  intro nasIp hmem
  simp only [nasIpsSince, List.mem_toFinset, List.mem_map, List.mem_filter,
    decide_eq_true_eq] at hmem ⊢
  obtain ⟨seen, ⟨hseen, hlater⟩, hip⟩ := hmem
  exact ⟨seen, ⟨hseen, h.trans hlater⟩, hip⟩

/-! ### The table of MACs -/

theorem mem_keys_of_evicted (h : evicted history mac = some other) : other ∈ history.keys := by
  unfold evicted at h
  split at h
  · exact List.mem_of_head? h
  · cases h

theorem get?_track_self (history : Dict String (List (Time × String))) (mac : String) :
    (track history mac).get? mac = some ((history.get? mac).getD []) := by
  unfold track
  split
  · rename_i hmem
    obtain ⟨hist, hhist⟩ := Dict.mem_keys_iff.mp hmem
    simp [hhist]
  · rename_i hnew
    have hnone := Dict.get?_eq_none_iff.mpr hnew
    cases evicted history mac <;> simp [hnone]

/-- Another MAC is tracked with its deque unless it is evicted. -/
theorem get?_track_ne (h : other ≠ mac) :
    (track history mac).get? other =
      if evicted history mac = some other then none else history.get? other := by
  unfold track
  split
  · rename_i hmem
    have hnone : evicted history mac = none := if_neg fun hboth => hboth.1 hmem
    simp [hnone]
  · cases hold : evicted history mac with
    | none => simp [Dict.get?_set_ne _ _ h]
    | some oldest =>
        rw [Dict.get?_set_ne _ _ h, Dict.get?_erase]
        simp only [Option.some.injEq, eq_comm]

theorem mem_keys_track :
    other ∈ (track history mac).keys ↔
      other = mac ∨ (other ∈ history.keys ∧ evicted history mac ≠ some other) := by
  by_cases h : other = mac
  · subst h
    simp [Dict.mem_keys_iff, get?_track_self]
  · rw [Dict.mem_keys_iff, get?_track_ne h, Dict.mem_keys_iff]
    by_cases hold : evicted history mac = some other <;> simp [h, hold]

/-- The table never outgrows its cap. -/
theorem size_track (h : history.size ≤ maxChurnMacs) (mac : String) :
    (track history mac).size ≤ maxChurnMacs := by
  unfold track
  split
  · exact h
  · rename_i hnew
    cases hold : evicted history mac with
    | none =>
        have hroom : ¬ maxChurnMacs ≤ history.size := by
          intro hfull
          rw [evicted, if_pos ⟨hnew, hfull⟩, List.head?_eq_none_iff] at hold
          have hempty : history.size = 0 := by
            rw [Dict.size, ← List.length_map Prod.fst]
            exact congrArg List.length hold
          rw [hempty] at hfull
          exact absurd hfull (by decide)
        rw [Dict.size_set_of_not_mem _ hnew]
        omega
    | some oldest =>
        have hsmaller := Dict.size_erase_of_mem (mem_keys_of_evicted hold)
        have hout : mac ∉ (history.erase oldest).keys :=
          fun hmem => hnew (Dict.mem_keys_erase.mp hmem).2
        rw [Dict.size_set_of_not_mem _ hout]
        omega

/-! ## Runs -/

/-- What a step keeps: the deque of a tracked MAC misses nothing of the last minute, and a MAC
without an alert did not move too often in it. -/
structure ChurnInv (state : Observed) : Prop where
  sorted : state.past.Pairwise fun before after => before.1 ≤ after.1
  room : state.detector.nasHistory.size ≤ maxChurnMacs
  kept : ∀ mac hist, mac ≠ "" → state.detector.nasHistory.get? mac = some hist →
    ∃ old, seenAt mac state.past = old ++ hist ∧
      ∀ now, Later state.past now → ∀ seen ∈ old, seen.1 < now - churnWindow
  tracked : ∀ alertId ∈ state.alerts.keys, isChurnAlert alertId = true →
    ∃ mac ∈ state.detector.nasHistory.keys, alertId = churnAlertId mac
  quiet : ∀ mac, mac ≠ "" → churnAlertId mac ∉ state.alerts.keys →
    ∀ now, Later state.past now →
      (nasIpsSince mac (now - churnWindow) state.past).card < churnThreshold

/-- Every alert about churn takes up a place in the table. -/
theorem ChurnInv.bounded (h : ChurnInv state) :
    (state.alerts.keys.filter isChurnAlert).length ≤ maxChurnMacs := by
  have hsubset : state.alerts.keys.filter isChurnAlert ⊆
      state.detector.nasHistory.keys.map churnAlertId := by
    intro alertId hmem
    obtain ⟨hactive, hchurn⟩ := List.mem_filter.mp hmem
    obtain ⟨mac, hmac, rfl⟩ := h.tracked alertId hactive hchurn
    exact List.mem_map_of_mem hmac
  have hnodup : (state.alerts.keys.filter isChurnAlert).Nodup := state.alerts.nodup.filter _
  have hlength := (hnodup.subperm hsubset).length_le
  have hsize : state.detector.nasHistory.keys.length = state.detector.nasHistory.size :=
    List.length_map _
  rw [List.length_map, hsize] at hlength
  exact hlength.trans h.room

theorem later_append (h : Later (past ++ [(now, event)]) later) : now ≤ later ∧ Later past later :=
  ⟨h (now, event) (by simp), fun before hbefore => h before (List.mem_append_left _ hbefore)⟩

theorem sorted_append (h : past.Pairwise fun before after => before.1 ≤ after.1)
    (hlater : Later past now) (event : SessionEvent) :
    (past ++ [(now, event)]).Pairwise fun before after => before.1 ≤ after.1 := by
  rw [List.pairwise_append]
  refine ⟨h, List.pairwise_singleton _ _, fun before hbefore after hafter => ?_⟩
  rw [List.mem_singleton.mp hafter]
  exact hlater before hbefore

/-- An event that names no NAS address keeps the invariant. -/
theorem ChurnInv.other_event (h : ChurnInv state) (hlater : Later state.past now)
    {detector : AnomalyDetector} (htable : detector.nasHistory = state.detector.nasHistory)
    (halerts : ∀ alertId, isChurnAlert alertId = true →
      (alertId ∈ alerts.keys ↔ alertId ∈ state.alerts.keys))
    (hevent : ∀ mac, mac ≠ "" → seenAt mac [(now, event)] = []) :
    ChurnInv ⟨detector, alerts, state.past ++ [(now, event)]⟩ where
  sorted := sorted_append h.sorted hlater event
  room := by
    rw [htable]
    exact h.room
  kept mac hist hmac hhist := by
    rw [htable] at hhist
    obtain ⟨old, hsplit, hold⟩ := h.kept mac hist hmac hhist
    refine ⟨old, ?_, fun later hnext => hold later (later_append hnext).2⟩
    rw [seenAt_append, hevent mac hmac, List.append_nil, hsplit]
  tracked alertId hmem hchurn := by
    rw [htable]
    exact h.tracked alertId ((halerts alertId hchurn).mp hmem) hchurn
  quiet mac hmac hactive later hnext := by
    rw [halerts _ (isChurnAlert_churnAlertId mac)] at hactive
    rw [nasIpsSince_append (hevent mac hmac)]
    exact h.quiet mac hmac hactive later (later_append hnext).2

/-- The deque of a MAC that was tracked, or was not seen in the last minute, ends up with all it was
seen at in the last minute. -/
theorem ChurnInv.nextHist_eq (h : ChurnInv state) (hlater : Later state.past now)
    (hmac : mac ≠ "") (hip : nasIp ≠ "")
    (hfresh : mac ∉ state.detector.nasHistory.keys →
      nasIpsSince mac (now - churnWindow) state.past = ∅) :
    nextHist state.detector.nasHistory now mac nasIp =
        (seenAt mac (state.past ++ [(now, .upsert mac nasIp)])).filter
          (fun seen => decide (now - churnWindow ≤ seen.1)) ∧
      ∃ old, seenAt mac (state.past ++ [(now, .upsert mac nasIp)]) =
          old ++ nextHist state.detector.nasHistory now mac nasIp ∧
        ∀ seen ∈ old, seen.1 < now - churnWindow := by
  -- what the deque misses is older than a minute
  have hmissing : ∃ old, seenAt mac state.past =
      old ++ (state.detector.nasHistory.get? mac).getD [] ∧
      ∀ seen ∈ old, seen.1 < now - churnWindow := by
    cases hget : state.detector.nasHistory.get? mac with
    | some hist =>
        obtain ⟨old, hsplit, hold⟩ := h.kept mac hist hmac hget
        exact ⟨old, hsplit, hold now hlater⟩
    | none =>
        refine ⟨seenAt mac state.past, by simp, fun seen hseen => ?_⟩
        have hempty := hfresh (Dict.get?_eq_none_iff.mp hget)
        by_contra hrecent
        have hmem : seen.2 ∈ nasIpsSince mac (now - churnWindow) state.past := by
          simp only [nasIpsSince, List.mem_toFinset, List.mem_map, List.mem_filter,
            decide_eq_true_eq]
          exact ⟨seen, ⟨hseen, not_lt.mp hrecent⟩, rfl⟩
        rw [hempty] at hmem
        exact absurd hmem (Finset.notMem_empty _)
  obtain ⟨old, hsplit, hold⟩ := hmissing
  have hall : seenAt mac (state.past ++ [(now, .upsert mac nasIp)]) =
      old ++ ((state.detector.nasHistory.get? mac).getD [] ++ [(now, nasIp)]) := by
    rw [seenAt_append, seenAt_self now mac hip, hsplit, List.append_assoc]
  have hsorted := seenAt_sorted (sorted_append h.sorted hlater (.upsert mac nasIp)) mac
  rw [hall, List.pairwise_append] at hsorted
  have hhist : nextHist state.detector.nasHistory now mac nasIp =
      ((state.detector.nasHistory.get? mac).getD [] ++ [(now, nasIp)]).filter
        fun seen => decide (now - churnWindow ≤ seen.1) := by
    rw [nextHist, get?_track_self, Option.getD_some]
    exact dropWhile_lt_eq_filter Prod.fst hsorted.2.1
  have hgone : old.filter (fun seen => decide (now - churnWindow ≤ seen.1)) = [] := by
    rw [List.filter_eq_nil_iff]
    intro seen hseen
    rw [decide_eq_true_eq]
    exact not_le.mpr (hold seen hseen)
  refine ⟨by rw [hall, List.filter_append, hgone, List.nil_append, hhist], ?_⟩
  refine ⟨old ++ ((state.detector.nasHistory.get? mac).getD [] ++ [(now, nasIp)]).takeWhile
    (fun seen => decide (seen.1 < now - churnWindow)), ?_, fun seen hseen => ?_⟩
  · rw [hall, List.append_assoc, nextHist, get?_track_self, Option.getD_some,
      List.takeWhile_append_dropWhile]
  · rcases List.mem_append.mp hseen with hmem | hmem
    · exact hold seen hmem
    · have hbefore := List.mem_takeWhile_imp hmem
      exact of_decide_eq_true hbefore

/-- What an event with a NAS address does to the alerts. -/
theorem mem_keys_handleUpsert (detector : AnomalyDetector) (alerts : AlertStore) (now : Time)
    (hmac : mac ≠ "") (hip : nasIp ≠ "") :
    alertId ∈ (handleUpsert detector alerts now mac nasIp).2.keys ↔
      if alertId = churnAlertId mac then
        churnThreshold ≤
          ((nextHist detector.nasHistory now mac nasIp).map Prod.snd).toFinset.card
      else alertId ∈ alerts.keys := by
  rw [handleUpsert, if_neg (not_or.mpr ⟨hmac, hip⟩)]
  dsimp only
  split
  · rename_i hmany
    rw [mem_keys_setAlert]
    by_cases hid : alertId = churnAlertId mac <;> simp [hid, hmany]
  · rename_i hfew
    rw [AlertStore.clearAlert, Dict.mem_keys_erase]
    by_cases hid : alertId = churnAlertId mac <;> simp [hid, hfew]

/-- An event of a MAC that loses nothing keeps the invariant, and its alert is right after it. -/
theorem ChurnInv.upsert (h : ChurnInv state) (hlater : Later state.past now) (hmac : mac ≠ "")
    (hip : nasIp ≠ "")
    (hfresh : mac ∉ state.detector.nasHistory.keys →
      nasIpsSince mac (now - churnWindow) state.past = ∅ ∧
        ∀ oldest ∈ evicted state.detector.nasHistory mac,
          churnAlertId oldest ∉ state.alerts.keys)
    (hnext : next = ⟨(handleUpsert state.detector state.alerts now mac nasIp).1,
      (handleUpsert state.detector state.alerts now mac nasIp).2,
      state.past ++ [(now, .upsert mac nasIp)]⟩) :
    ChurnInv next ∧ (churnAlertId mac ∈ next.alerts.keys ↔
      churnThreshold ≤ (nasIpsSince mac (now - churnWindow) next.past).card) := by
  obtain ⟨hhist, hmissing⟩ := h.nextHist_eq hlater hmac hip fun hnew => (hfresh hnew).1
  have hips : ((nextHist state.detector.nasHistory now mac nasIp).map Prod.snd).toFinset =
      nasIpsSince mac (now - churnWindow) (state.past ++ [(now, .upsert mac nasIp)]) := by
    rw [hhist, nasIpsSince]
  have hkeys : ∀ alertId, alertId ∈ next.alerts.keys ↔
      if alertId = churnAlertId mac then
        churnThreshold ≤
          (nasIpsSince mac (now - churnWindow) (state.past ++ [(now, .upsert mac nasIp)])).card
      else alertId ∈ state.alerts.keys := by
    intro alertId
    rw [hnext, mem_keys_handleUpsert _ _ _ hmac hip, hips]
  have hothers : ∀ {other}, other ≠ mac → churnAlertId other ≠ churnAlertId mac :=
    fun hne hsame => hne (churnAlertId_inj hsame)
  have htable : next.detector.nasHistory = (track state.detector.nasHistory mac).set mac
      (nextHist state.detector.nasHistory now mac nasIp) := by
    rw [hnext, handleUpsert, if_neg (not_or.mpr ⟨hmac, hip⟩)]
  have hpast : next.past = state.past ++ [(now, .upsert mac nasIp)] := by rw [hnext]
  have htracked : mac ∈ (track state.detector.nasHistory mac).keys :=
    mem_keys_track.mpr (Or.inl rfl)
  refine ⟨⟨?_, ?_, fun other hist hother hget => ?_, fun alertId hmem hchurn => ?_,
    fun other hother hactive later hafter => ?_⟩, ?_⟩
  · rw [hpast]
    exact sorted_append h.sorted hlater _
  · rw [htable, Dict.size_set_of_mem _ htracked]
    exact size_track h.room mac
  · rw [hpast]
    rw [htable, Dict.get?_set] at hget
    by_cases hsame : other = mac
    · subst hsame
      rw [if_pos rfl] at hget
      obtain rfl := Option.some.inj hget
      obtain ⟨old, hsplit, hold⟩ := hmissing
      refine ⟨old, hsplit, fun later hafter seen hseen => (hold seen hseen).trans_le ?_⟩
      exact sub_le_sub_right (later_append hafter).1 _
    · rw [if_neg hsame, get?_track_ne hsame] at hget
      split at hget
      · cases hget
      · obtain ⟨old, hsplit, hold⟩ := h.kept other hist hother hget
        refine ⟨old, ?_, fun later hafter => hold later (later_append hafter).2⟩
        rw [seenAt_append, seenAt_ne now nasIp (Ne.symm hsame), List.append_nil, hsplit]
  · have hmem' := (hkeys alertId).mp hmem
    rw [htable]
    split at hmem'
    · rename_i hid
      exact ⟨mac, (Dict.mem_keys_set _).mpr (Or.inl rfl), hid⟩
    · rename_i hid
      obtain ⟨other, hother, rfl⟩ := h.tracked alertId hmem' hchurn
      refine ⟨other, (Dict.mem_keys_set _).mpr (Or.inr (mem_keys_track.mpr (Or.inr ?_))), rfl⟩
      refine ⟨hother, fun hold => ?_⟩
      -- only a MAC that is not tracked evicts another
      have hnew : mac ∉ state.detector.nasHistory.keys := by
        intro hin
        rw [evicted, if_neg fun hboth => hboth.1 hin] at hold
        cases hold
      exact (hfresh hnew).2 other hold hmem'
  · rw [hpast] at hafter ⊢
    rw [hkeys] at hactive
    by_cases hsame : other = mac
    · subst hsame
      rw [if_pos rfl, Nat.not_le] at hactive
      refine (Finset.card_le_card (nasIpsSince_subset ?_)).trans_lt hactive
      exact sub_le_sub_right (later_append hafter).1 _
    · rw [if_neg (hothers hsame)] at hactive
      rw [nasIpsSince_append (seenAt_ne now nasIp (Ne.symm hsame))]
      exact h.quiet other hother hactive later (later_append hafter).2
  · rw [hkeys, if_pos rfl, hpast]

/-- Every step that loses nothing keeps the invariant, and what the alerts should say. -/
theorem grounded_step {seen : Time × SessionEvent} (hstep : onEvent state seen = some next)
    (hgood : TracksAll state seen) (h : ChurnInv state) : ChurnInv next ∧ Grounded next := by
  obtain ⟨now, event⟩ := seen
  by_cases hlater : Later state.past now
  · rw [onEvent, if_pos hlater] at hstep
    obtain hnext := (Option.some.inj hstep).symm
    have hpast : next.past = state.past ++ [(now, event)] := by rw [hnext]
    suffices hinv : ChurnInv next ∧ ∀ mac nasIp, event = .upsert mac nasIp → mac ≠ "" →
        (churnAlertId mac ∈ next.alerts.keys ↔
          churnThreshold ≤ (nasIpsSince mac (now - churnWindow) next.past).card) by
      refine ⟨hinv.1, hinv.1.bounded, hinv.1.tracked, fun before time mac nasIp hend hmac => ?_⟩
      rw [hpast] at hend
      obtain ⟨-, hlast⟩ := List.append_inj' hend rfl
      obtain ⟨rfl, hevent⟩ := Prod.mk.inj (List.cons.inj hlast).1
      exact hinv.2 mac nasIp hevent hmac
    cases event with
    | remove =>
        refine ⟨?_, fun _ _ hevent => by cases hevent⟩
        rw [hnext]
        exact h.other_event hlater rfl
          (fun _ hchurn => churn_of_handleDisconnect _ hchurn) (fun _ _ => rfl)
    | clear =>
        refine ⟨?_, fun _ _ hevent => by cases hevent⟩
        rw [hnext]
        exact h.other_event hlater rfl (fun _ _ => Iff.rfl) (fun _ _ => rfl)
    | upsert mac nasIp =>
        by_cases hnone : mac = "" ∨ nasIp = ""
        · -- an event without a MAC or a NAS address does nothing
          have hsame : handle state now (.upsert mac nasIp) = (state.detector, state.alerts) :=
            if_pos hnone
          have hevent : ∀ other, other ≠ "" → seenAt other [(now, .upsert mac nasIp)] = [] := by
            intro other hother
            rcases hnone with rfl | rfl
            · exact seenAt_ne now nasIp hother.symm
            · simp [seenAt]
          refine ⟨?_, fun other _ hother hnamed => ?_⟩
          · rw [hnext, hsame]
            exact h.other_event hlater rfl (fun _ _ => Iff.rfl) hevent
          · cases hother
            have hquiet : churnAlertId mac ∉ state.alerts.keys := by
              have hkept := hgood hnamed
              rwa [if_pos (hnone.resolve_left hnamed)] at hkept
            have hfew := h.quiet mac hnamed hquiet now hlater
            rw [hpast, nasIpsSince_append (hevent mac hnamed), hnext, hsame]
            exact iff_of_false hquiet (Nat.not_le.mpr hfew)
        · obtain ⟨hmac, hip⟩ := not_or.mp hnone
          have hkept := hgood hmac
          rw [if_neg hip] at hkept
          obtain ⟨hinv, hright⟩ := h.upsert hlater hmac hip hkept hnext
          refine ⟨hinv, fun other _ hother _ => ?_⟩
          cases hother
          exact hright
  · rw [onEvent, if_neg hlater] at hstep
    cases hstep

theorem churnInv_start (h : ∀ alertId ∈ alerts.keys, isChurnAlert alertId = false) :
    ChurnInv { alerts := alerts } where
  sorted := List.Pairwise.nil
  room := Nat.zero_le _
  kept mac hist _ hget := by
    rw [Dict.get?_empty] at hget
    cases hget
  tracked alertId hmem hchurn := by
    rw [h alertId hmem] at hchurn
    cases hchurn
  quiet _ _ _ _ _ := by simp [nasIpsSince, seenAt, churnThreshold]

/-- From an alert store without alerts about churn, as long as no event loses a MAC's last minute or
the alert of an evicted one: the alerts about churn are bounded, belong to tracked MACs, and
right after an event of a MAC its alert is right. -/
theorem churn_alerts_grounded (alerts : AlertStore)
    (hclean : ∀ alertId ∈ alerts.keys, isChurnAlert alertId = false)
    (events : List (Time × SessionEvent))
    (hgood : Guarded onEvent TracksAll { alerts := alerts } events) :
    Always onEvent Grounded { alerts := alerts } events := by
  have hstart := churnInv_start hclean
  have hfirst : Grounded { alerts := alerts } :=
    ⟨hstart.bounded, hstart.tracked, fun before _ _ _ hend => by simp at hend⟩
  have hrun := always_of_guarded (P := fun state => ChurnInv state ∧ Grounded state)
    (fun _ _ _ hstep hgood h => grounded_step hstep hgood h.1) hgood ⟨hstart, hfirst⟩
  exact hrun.mono fun _ h => h.2

/-- A MAC that is seen at three switches within a minute. -/
def movingDesk : List (Time × SessionEvent) :=
  [(0, .upsert "AA:BB:CC:00:00:01" "10.0.0.1"), (10, .upsert "AA:BB:CC:00:00:01" "10.0.0.2"),
    (20, .upsert "AA:BB:CC:00:00:01" "10.0.0.3")]

theorem moving_desk_tracks : Guarded onEvent TracksAll {} movingDesk := by
  with_unfolding_all decide

theorem moving_desk_grounded : Always onEvent Grounded {} movingDesk :=
  churn_alerts_grounded Dict.empty (by simp [Dict.empty, Dict.keys]) movingDesk moving_desk_tracks

theorem moving_desk_run :
    (run onEvent {} movingDesk).map
        (fun state => (state.detector.nasHistory.keys, state.alerts.keys, state.past)) =
      some (["AA:BB:CC:00:00:01"], ["anomaly_nas_churn_AA:BB:CC:00:00:01"], movingDesk) := by
  with_unfolding_all decide

/-! ### An evicted MAC keeps its alert -/

/-- A MAC that is not tracked yet goes to the end of the table, where the oldest one leaves a full
one. -/
theorem keys_track_new (h : mac ∉ history.keys) :
    (track history mac).keys =
      (if maxChurnMacs ≤ history.size then history.keys.tail else history.keys) ++ [mac] := by
  have hkeys : ∀ {table : Dict String (List (Time × String))}, mac ∉ table.keys →
      (table.set mac []).keys = table.keys ++ [mac] := by
    intro table hout
    rw [Dict.keys, Dict.entries_set_of_not_mem _ hout, List.map_append]
    rfl
  rw [track, if_neg h]
  by_cases hfull : maxChurnMacs ≤ history.size
  · have hold : evicted history mac = history.keys.head? := if_pos ⟨h, hfull⟩
    rw [hold, if_pos hfull]
    cases hlist : history.keys with
    | nil =>
        rw [List.head?_nil]
        dsimp only
        rw [hkeys h, hlist]
        rfl
    | cons oldest rest =>
        have hrest : (history.erase oldest).keys = rest := by
          have hnodup := history.nodup
          rw [show history.entries.map Prod.fst = oldest :: rest from hlist,
            List.nodup_cons] at hnodup
          have hfilter : (history.erase oldest).keys =
              history.keys.filter fun key => decide (key ≠ oldest) := by
            rw [Dict.keys, Dict.erase, Dict.keys, List.filter_map]
            rfl
          rw [hfilter, hlist, List.filter_cons_of_neg (by simp), List.filter_eq_self]
          exact fun key hkey => decide_eq_true fun heq => hnodup.1 (heq ▸ hkey)
        have hout : mac ∉ (history.erase oldest).keys :=
          fun hmem => h (Dict.mem_keys_erase.mp hmem).2
        rw [List.head?_cons]
        dsimp only
        rw [hkeys hout, hrest, List.tail_cons]
  · have hold : evicted history mac = none := if_neg fun hboth => hfull hboth.2
    rw [hold, if_neg hfull]
    exact hkeys h

/-- The first event of a MAC touches the alert of no other. -/
theorem newcomer (nasIp : String) (hlater : Later state.past now) (hmac : mac ≠ "") (hip : nasIp ≠ "") :
    ∃ next, onEvent state (now, .upsert mac nasIp) = some next ∧ Later next.past now ∧
      next.detector.nasHistory.keys = (track state.detector.nasHistory mac).keys ∧
      ∀ other ≠ mac, churnAlertId other ∈ next.alerts.keys ↔
        churnAlertId other ∈ state.alerts.keys := by
  have hstep : onEvent state (now, .upsert mac nasIp) =
      some ⟨(handleUpsert state.detector state.alerts now mac nasIp).1,
        (handleUpsert state.detector state.alerts now mac nasIp).2,
        state.past ++ [(now, .upsert mac nasIp)]⟩ := if_pos hlater
  refine ⟨_, hstep, fun before hbefore => ?_, ?_, fun other hother => ?_⟩
  · rcases List.mem_append.mp hbefore with hold | hlast
    · exact hlater before hold
    · rw [List.mem_singleton.mp hlast]
  · have htracked : mac ∈ (track state.detector.nasHistory mac).keys :=
      mem_keys_track.mpr (Or.inl rfl)
    rw [handleUpsert, if_neg (not_or.mpr ⟨hmac, hip⟩), Dict.keys,
      Dict.entries_set_of_mem _ htracked, Dict.map_fst_replaceList]
    rfl
  · rw [mem_keys_handleUpsert _ _ _ hmac hip,
      if_neg fun hsame => hother (churnAlertId_inj hsame)]

/-- As long as there is room, new MACs queue up behind the tracked ones. -/
theorem newcomers_run (nasIp : String) (hip : nasIp ≠ "") (macs : List String) (hlater : Later state.past now)
    (hnodup : macs.Nodup) (hnew : ∀ mac ∈ macs, mac ≠ "" ∧ mac ∉ state.detector.nasHistory.keys)
    (hroom : state.detector.nasHistory.keys.length + macs.length ≤ maxChurnMacs) :
    ∃ final, run onEvent state (macs.map fun mac => (now, .upsert mac nasIp)) = some final ∧
      Later final.past now ∧
      final.detector.nasHistory.keys = state.detector.nasHistory.keys ++ macs ∧
      ∀ other ∉ macs, churnAlertId other ∈ final.alerts.keys ↔
        churnAlertId other ∈ state.alerts.keys := by
  induction macs generalizing state with
  | nil => exact ⟨state, rfl, hlater, by simp, fun _ _ => Iff.rfl⟩
  | cons mac rest ih =>
      obtain ⟨hfirst, hrest⟩ := List.nodup_cons.mp hnodup
      obtain ⟨hmac, hout⟩ := hnew mac (List.mem_cons_self ..)
      obtain ⟨next, hstep, hnext, hkeys, halerts⟩ := newcomer nasIp hlater hmac hip
      have hsize : ¬ maxChurnMacs ≤ state.detector.nasHistory.size := by
        have hlength : state.detector.nasHistory.keys.length = state.detector.nasHistory.size :=
          List.length_map _
        rw [List.length_cons] at hroom
        omega
      rw [keys_track_new hout, if_neg hsize] at hkeys
      obtain ⟨final, hrun, hfinal, hall, hothers⟩ := ih hnext hrest
        (fun other hother => by
          obtain ⟨hnamed, hfree⟩ := hnew other (List.mem_cons_of_mem _ hother)
          refine ⟨hnamed, fun hmem => ?_⟩
          rw [hkeys, List.mem_append, List.mem_singleton] at hmem
          rcases hmem with hmem | rfl
          · exact hfree hmem
          · exact hfirst hother)
        (by
          rw [hkeys, List.length_append, List.length_singleton]
          rw [List.length_cons] at hroom
          omega)
      refine ⟨final, ?_, hfinal, ?_, fun other hother => ?_⟩
      · rw [List.map_cons, run, hstep]
        exact hrun
      · rw [hall, hkeys, List.append_assoc, List.singleton_append]
      · obtain ⟨hne, hmem⟩ := not_or.mp (fun h => hother (List.mem_cons.mpr h))
        exact (hothers other hmem).trans (halerts other hne)

/-- The MACs of fifty other endpoints. -/
def otherMacs : List String :=
  (List.range 50).map fun n =>
    "AA:BB:CC:00:01:" ++ String.ofList [Nat.digitChar (n / 10), Nat.digitChar (n % 10)]

theorem otherMacs_nodup : otherMacs.Nodup := by
  have hdigits : ∀ n < 10, ∀ k < 10, Nat.digitChar n = Nat.digitChar k → n = k := by decide
  refine List.Nodup.map_on ?_ List.nodup_range
  intro n hn k hk hsame
  have hlist := congrArg String.toList hsame
  rw [String.toList_append, String.toList_append] at hlist
  have htail := List.append_cancel_left hlist
  simp only [String.toList_ofList, List.cons.injEq, and_true] at htail
  rw [List.mem_range] at hn hk
  have htens := hdigits (n / 10) (by omega) (k / 10) (by omega) htail.1
  have hunits := hdigits (n % 10) (by omega) (k % 10) (by omega) htail.2
  omega

/-- Fifty other endpoints connect within the minute: the alert of the desk stays when the desk is no
longer tracked. -/
theorem desk_alert_left_behind :
    ∃ final, run onEvent {}
        (movingDesk ++ otherMacs.map fun mac => (20, .upsert mac "10.0.0.1")) = some final ∧
      ¬ Grounded final := by
  obtain ⟨desk, hdesk, hread⟩ := Option.map_eq_some_iff.mp moving_desk_run
  obtain ⟨hkeys, hactive, hpast⟩ : desk.detector.nasHistory.keys = ["AA:BB:CC:00:00:01"] ∧
      desk.alerts.keys = ["anomaly_nas_churn_AA:BB:CC:00:00:01"] ∧ desk.past = movingDesk := by
    simpa using hread
  have hlater : Later desk.past 20 := by
    rw [hpast]
    with_unfolding_all decide
  have hlength : otherMacs.length = 50 := by simp [otherMacs]
  have hnonempty : otherMacs ≠ [] := by
    rw [← List.length_pos_iff]
    omega
  have hsplit := List.dropLast_concat_getLast hnonempty
  have hnamed : ∀ mac ∈ otherMacs, mac ≠ "" ∧ mac ∉ desk.detector.nasHistory.keys := by
    intro mac hmac
    obtain ⟨n, _, rfl⟩ := List.mem_map.mp hmac
    rw [hkeys, List.mem_singleton]
    refine ⟨fun hsame => ?_, fun hsame => ?_⟩
    · exact absurd (congrArg String.toList hsame) (by simp)
    · exact absurd (congrArg String.toList hsame) (by simp)
  -- the first forty-nine fill the table, the last one takes the place of the desk
  have hnodup := otherMacs_nodup
  rw [← hsplit, List.nodup_append] at hnodup
  have hsize : otherMacs.dropLast.length = 49 := by rw [List.length_dropLast, hlength]
  obtain ⟨full, hfull, hnow, hall, hothers⟩ := newcomers_run "10.0.0.1" (by decide)
    otherMacs.dropLast hlater hnodup.1
    (fun mac hmac => hnamed mac (List.mem_of_mem_dropLast hmac))
    (by
      rw [hkeys, hsize]
      decide)
  rw [hkeys, List.singleton_append] at hall
  have hcap : full.detector.nasHistory.size = maxChurnMacs := by
    have hlist := congrArg List.length hall
    rw [Dict.keys, List.length_map, List.length_cons, hsize] at hlist
    exact hlist
  obtain ⟨hlast, hnew⟩ := hnamed (otherMacs.getLast _) (List.getLast_mem _)
  have hout : otherMacs.getLast hnonempty ∉
      full.detector.nasHistory.keys := by
    rw [hall, ← List.singleton_append, ← hkeys]
    intro hmem
    rcases List.mem_append.mp hmem with hold | hother
    · exact hnew hold
    · exact hnodup.2.2 _ hother _ (List.mem_singleton.mpr rfl) rfl
  obtain ⟨final, hstep, -, htable, halerts⟩ :=
    newcomer "10.0.0.1" hnow hlast (by decide)
  refine ⟨final, ?_, fun hgrounded => ?_⟩
  · rw [run_append, hdesk, ← hsplit, List.map_append]
    simp only [Option.bind_some, run_append, hfull]
    simp only [List.map_cons, List.map_nil, run, hstep]
  · have hdeskKey : ∀ mac ∈ otherMacs, "AA:BB:CC:00:00:01" ≠ mac := by
      intro mac hmac hsame
      have hfree := (hnamed mac hmac).2
      rw [hkeys, List.mem_singleton] at hfree
      exact hfree hsame.symm
    have hsaid : churnAlertId "AA:BB:CC:00:00:01" ∈ desk.alerts.keys := by
      rw [hactive]
      decide
    have hstays : churnAlertId "AA:BB:CC:00:00:01" ∈ final.alerts.keys := by
      refine (halerts _ (hdeskKey _ (List.getLast_mem _))).mpr
        ((hothers _ fun hmem => ?_).mpr hsaid)
      exact hdeskKey _ (List.mem_of_mem_dropLast hmem) rfl
    obtain ⟨mac, hmac, hsame⟩ := hgrounded.tracked _ hstays (isChurnAlert_churnAlertId _)
    rw [← churnAlertId_inj hsame, htable, keys_track_new hout, if_pos hcap.ge, hall,
      List.tail_cons, hsplit] at hmac
    exact hdeskKey _ hmac rfl

end IsePortal.Anomaly
