import IsePortal.Guest.Tracking
import IsePortal.Selfregister.Registration

/-!
# The end of a guest's access

A registration with an expiry writes the configured date and time into one attribute, from which
`_sync_guest_expiry` makes a row of the guest-expiry store. The worker (`guest_expiry_worker.py`)
ends the access of the rows whose moment has come and drops the rows it cannot read.
`guest_expiry_kept_iff` says for which settings the row stays, with the configured moment, until
the access has been ended.
-/

namespace IsePortal

open Library

namespace Selfregister

/-! ## The configured moment -/

/-- The two halves of the form of a row: a date and a time of day of their own. -/
class PyDates where
  /-- `datetime.strptime(text, "%Y-%m-%d")` as the moment the day begins. -/
  strpDate : String → Option Time
  /-- `datetime.strptime(text, "%H:%M")` as the time since the day began. -/
  strpTime : String → Option Time

/-- What the runtime does on the texts of a registration: letters in lower case are left alone, and
a date and a time of day with a colon between them are read as that time of that day, with no
blank to cut at either end. -/
class LawfulDates [PyText] [PyCalendar] [PyDates] : Prop where
  lower_letters (text : String) : (∀ c ∈ text.toList, 'a' ≤ c ∧ c ≤ 'z') → PyText.lower text = text
  strptime_empty : PyCalendar.strptime "" = none
  strptime_join {date time : String} {day clock : Time} :
    PyDates.strpDate date = some day → PyDates.strpTime time = some clock →
      PyCalendar.strptime (PyText.strip (date ++ ":" ++ time)) = some (day + clock)

/-- The dates from today on are read back, in their order. -/
def ReadsDaysAhead [PyDates] (dayAfter : Int → Option String) : Prop :=
  ∀ days more, 0 ≤ days → days < more → ∀ text later,
    dayAfter days = some text → dayAfter more = some later →
      ∃ day other, PyDates.strpDate text = some day ∧ PyDates.strpDate later = some other ∧
        day < other

/-- A fixed date is configured. -/
def FixedDate (s : RegisterSettings) : Prop := s.expiryMode = "date" ∧ s.expiryDate ≠ ""

instance (s : RegisterSettings) : Decidable (FixedDate s) := inferInstanceAs (Decidable (_ ∧ _))

/-- The configured date: the fixed one, or the one so many days from today. -/
def configuredDate (s : RegisterSettings) (dayAfter : Int → Option String) : Option String :=
  if FixedDate s then some s.expiryDate else dayAfter s.expiryDays

/-- The configured time of day, which is the end of the day where none is given. -/
def configuredTime (s : RegisterSettings) : String := orElse s.expiryTime "23:59"

/-- The moment the settings ask for; `none` where they name none. -/
def configuredMoment [PyDates] (s : RegisterSettings) (dayAfter : Int → Option String) :
    Option Time :=
  match (configuredDate s dayAfter).bind PyDates.strpDate, PyDates.strpTime (configuredTime s) with
  | some day, some clock => some (day + clock)
  | _, _ => none

/-- The condition on the settings: the configured date and the configured time of day are written
in the form that is read, and a period is not of 0 days, which are taken for 30. -/
def ReadableExpiry [PyDates] (s : RegisterSettings) (dayAfter : Int → Option String) : Prop :=
  (∃ day, (configuredDate s dayAfter).bind PyDates.strpDate = some day) ∧
    (∃ clock, PyDates.strpTime (configuredTime s) = some clock) ∧
    (FixedDate s ∨ s.expiryDays ≠ 0)

theorem configuredMoment_eq_some_iff [PyDates] {s : RegisterSettings}
    {dayAfter : Int → Option String} {moment : Time} :
    configuredMoment s dayAfter = some moment ↔
      ∃ day clock, (configuredDate s dayAfter).bind PyDates.strpDate = some day ∧
        PyDates.strpTime (configuredTime s) = some clock ∧ day + clock = moment := by
  unfold configuredMoment
  cases (configuredDate s dayAfter).bind PyDates.strpDate with
  | none => simp
  | some day =>
      cases PyDates.strpTime (configuredTime s) with
      | none => simp
      | some clock => simp

/-- The date a registration writes: 0 days are no number of days. -/
theorem expiryText_eq (s : RegisterSettings) (dayAfter : Int → Option String) :
    expiryText s dayAfter =
      (if FixedDate s ∨ s.expiryDays ≠ 0 then configuredDate s dayAfter else dayAfter 30).map
        fun date => date ++ ":" ++ configuredTime s := by
  unfold expiryText configuredDate
  by_cases hfixed : FixedDate s
  · rw [if_pos (Or.inl hfixed), if_pos hfixed]
    exact congrArg (Option.map _) (if_pos hfixed)
  · have hperiod : ¬ (s.expiryMode = "date" ∧ s.expiryDate ≠ "") := hfixed
    by_cases hdays : s.expiryDays = 0
    · simp [hperiod, hdays, hfixed, configuredTime]
    · simp [hperiod, hdays, hfixed, configuredTime]

section Read

variable [PyText] [PyCalendar] [PyDates] [LawfulDates] {s : RegisterSettings}
  {dayAfter : Int → Option String} {text : String}

/-- Settings under the condition write a text that is read as the configured moment. -/
theorem strptime_expiryText (hread : ReadableExpiry s dayAfter)
    (htext : expiryText s dayAfter = some text) :
    ∃ moment, configuredMoment s dayAfter = some moment ∧
      PyCalendar.strptime (PyText.strip text) = some moment := by
  obtain ⟨⟨day, hday⟩, ⟨clock, hclock⟩, hdays⟩ := hread
  obtain ⟨date, hdate, hstrp⟩ := Option.bind_eq_some_iff.mp hday
  rw [expiryText_eq, if_pos hdays, hdate] at htext
  cases htext
  exact ⟨day + clock, configuredMoment_eq_some_iff.mpr ⟨day, clock, hday, hclock, rfl⟩,
    LawfulDates.strptime_join hstrp hclock⟩

/-- A text that is read as the configured moment comes from settings under the condition. -/
theorem readableExpiry_of_strptime {moment : Time} (hahead : ReadsDaysAhead dayAfter)
    (htext : expiryText s dayAfter = some text)
    (hmoment : configuredMoment s dayAfter = some moment)
    (hread : PyCalendar.strptime (PyText.strip text) = some moment) :
    ReadableExpiry s dayAfter := by
  obtain ⟨day, clock, hday, hclock, rfl⟩ := configuredMoment_eq_some_iff.mp hmoment
  refine ⟨⟨day, hday⟩, ⟨clock, hclock⟩, ?_⟩
  by_contra hneither
  obtain ⟨hfixed, hdays⟩ := not_or.mp hneither
  rw [not_not] at hdays
  -- the text has the date thirty days ahead where today is configured
  rw [expiryText_eq, if_neg hneither] at htext
  obtain ⟨later, hlater, rfl⟩ := Option.map_eq_some_iff.mp htext
  obtain ⟨today, htoday, hstrp⟩ := Option.bind_eq_some_iff.mp hday
  rw [configuredDate, if_neg hfixed, hdays] at htoday
  obtain ⟨first, other, hfirst, hother, hlt⟩ :=
    hahead 0 30 (by decide) (by decide) today later htoday hlater
  cases hstrp.symm.trans hfirst
  have hjoined := LawfulDates.strptime_join hother hclock
  rw [hread, Option.some.injEq] at hjoined
  exact hlt.ne (add_right_cancel hjoined)

end Read

/-! ## Registrations and checks -/

/-- The write of a registration. -/
inductive RegistrationWrite where
  /-- A new endpoint; `located` says whether ISE's answer has the `Location` header. -/
  | created (mac stamp : String) (newId : EndpointId) (located : Bool)
  /-- An update of the endpoint that was found. -/
  | updated (endpointId : EndpointId) (before : Option EndpointDetail) (stamp : String)

namespace RegistrationWrite

/-- The write as a step of the portal. -/
def op (ca : CustomAttrs) : RegistrationWrite → GuestOp
  | .created mac stamp newId located => .create mac (some ca) none stamp newId located true
  | .updated endpointId before stamp => .update endpointId (some ca) none before stamp true

/-- The registered endpoint. -/
def endpointId : RegistrationWrite → EndpointId
  | .created _ _ newId _ => newId
  | .updated endpointId _ _ => endpointId

/-- The portal learns the id of the endpoint. -/
def located : RegistrationWrite → Bool
  | .created _ _ _ located => located
  | .updated _ _ _ => true

variable [PyText]

/-- The attributes pass the PSK checks, so the write reaches ISE. -/
def Accepted (psk : PskSettings) (ca : CustomAttrs) : RegistrationWrite → Prop
  | .created _ stamp _ _ => ∃ sent, createAttrs psk (some ca) none stamp = .ok sent
  | .updated _ before stamp => ∃ sent, updateAttrs psk (some ca) none before stamp = .ok sent

end RegistrationWrite

/-- A step of the worker, or the clock. -/
inductive CheckStep where
  | tick (now : Time)
  | beginCheck
  | iseAnswered (ok : Bool)

/-- The step as one of the portal. -/
def CheckStep.op : CheckStep → GuestOp
  | .tick now => .tick now
  | .beginCheck => .beginCheck
  | .iseAnswered ok => .iseAnswered ok

/-- `GuestAccessExpire` has been written for the endpoint. -/
def AccessEnded (endpointId : EndpointId) (portal : GuestPortal) : Prop :=
  ∃ stored, portal.ise.get? endpointId = some stored ∧
    Attrs.attr stored guestAccessExpireAttr = "true"

/-- The endpoint is tracked with a text that is read as the configured moment, until its access has
been ended. -/
def ExpiryKept [PyCalendar] (moment : Option Time) (endpointId : EndpointId)
    (portal : GuestPortal) : Prop :=
  AccessEnded endpointId portal ∨
    ∃ row expiry, portal.store.get? endpointId = some row ∧ moment = some expiry ∧
      PyCalendar.strptime row.expiryStr = some expiry

section Steps

variable [PyText] [PyCalendar] {psk : PskSettings} {portal next : GuestPortal}

/-- A step of the worker as a step of the portal. -/
def checkStep (psk : PskSettings) (portal : GuestPortal) (check : CheckStep) :
    Option GuestPortal :=
  GuestPortal.step psk portal check.op

/-- Listing the expired rows drops none that can be read, and an endpoint leaves the store when its
access has been ended. -/
theorem expiryKept_checkStep {moment : Option Time} {endpointId : EndpointId} {check : CheckStep}
    (hstep : checkStep psk portal check = some next)
    (hkept : ExpiryKept moment endpointId portal) : ExpiryKept moment endpointId next := by
  cases check with
  | tick now =>
      simp only [checkStep, CheckStep.op, GuestPortal.step] at hstep
      split at hstep
      · cases hstep
        exact hkept
      · cases hstep
  | beginCheck =>
      simp only [checkStep, CheckStep.op, GuestPortal.step] at hstep
      split at hstep
      · cases hstep
        rcases hkept with hended | ⟨row, expiry, hrow, hmoment, hread⟩
        · exact Or.inl hended
        · refine Or.inr ⟨row, expiry, ?_, hmoment, hread⟩
          exact (GuestExpiryStore.get?_listExpired ..).mpr ⟨hrow, by simp [hread]⟩
      · cases hstep
  | iseAnswered ok =>
      obtain ⟨row, rest, -, hcases⟩ := GuestPortal.iseAnswered_cases hstep
      rcases hcases with ⟨rfl, -⟩ | ⟨stored, -, -, rfl⟩
      · exact hkept
      · by_cases hid : endpointId = row.endpointId
        · subst hid
          exact Or.inl ⟨_, Dict.get?_set_self .., by simp [Attrs.attr]⟩
        · rcases hkept with ⟨own, hown, hended⟩ | ⟨kept, expiry, hrow, hmoment, hread⟩
          · exact Or.inl ⟨own, (Dict.get?_set_ne _ _ hid).trans hown, hended⟩
          · exact Or.inr ⟨kept, expiry, (Dict.get?_erase_ne _ hid).trans hrow, hmoment, hread⟩

omit [PyCalendar] in
/-- The guest attributes of a registration with an expiry. -/
theorem registrationAttrs_expiry {s : RegisterSettings} {dayAfter : Int → Option String}
    {body : RegisterBody} {ca : CustomAttrs} (hca : registrationAttrs s dayAfter body = some ca)
    (hexpiry : s.expiryEnabled = true) :
    ∃ text, expiryText s dayAfter = some text ∧ ca.guestRegistration = "true" ∧
      ca.guestExperyDate = some text ∧ ca.guestAccessExpire = some "false" := by
  unfold registrationAttrs at hca
  dsimp only at hca
  rw [if_pos hexpiry] at hca
  obtain ⟨text, htext, rfl⟩ := Option.map_eq_some_iff.mp hca
  refine ⟨text, htext, ?_, rfl, rfl⟩
  split <;> rfl

/-- The endpoint after a registration that reached ISE: its access has not ended, and its row is
made from the text of the expiry where the portal knows the endpoint's id. -/
theorem registered_state {ca : CustomAttrs} {text : String} {write : RegistrationWrite}
    (htracks : portal.TracksEndpoints) (hreg : ca.guestRegistration = "true")
    (hdate : ca.guestExperyDate = some text) (hexpire : ca.guestAccessExpire = some "false")
    (haccepted : write.Accepted psk ca)
    (hstep : GuestPortal.step psk portal (write.op ca) = some next) :
    ¬ AccessEnded write.endpointId next ∧ ∃ mac, next.store.get? write.endpointId =
      if write.located then GuestPortal.syncRow mac "true" text else none := by
  have hsent : ∀ {sent : Attrs},
      (∀ name, Untouched name → sent.get? name = (requestAttrs (some ca)).get? name) →
        sent.attr guestRegistrationAttr = "true" ∧ sent.attr guestExperyDateAttr = text ∧
          sent.get? guestAccessExpireAttr = some "false" := by
    intro sent hsame
    refine ⟨?_, ?_, ?_⟩
    · rw [Attrs.attr, hsame _ (by decide), get?_guestRegistration, Option.map_some, hreg]
      rfl
    · rw [Attrs.attr, hsame _ (by decide), get?_guestExperyDate, Option.bind_some, hdate]
      rfl
    · rw [hsame _ (by decide), get?_guestAccessExpire, Option.bind_some, hexpire]
  cases write with
  | created mac stamp newId located =>
      rcases GuestPortal.create_cases hstep with ⟨-, hrefused⟩ | ⟨sent, hca, -, hnew, rfl⟩
      · cases hrefused haccepted
      · obtain ⟨hguest, htext, haccess⟩ := hsent fun _ hname => get?_createAttrs hca hname
        refine ⟨?_, mac, ?_⟩
        · intro hended
          obtain ⟨stored, hstored, hvalue⟩ := hended
          cases (Dict.get?_set_self ..).symm.trans hstored
          rw [Attrs.attr_filterValues, Attrs.attr, haccess] at hvalue
          exact absurd hvalue (by decide)
        · cases located with
          | false => exact htracks newId hnew
          | true =>
              refine (GuestPortal.get?_syncGuestExpiry ..).trans ?_
              rw [hguest, htext]
              exact if_pos rfl
  | updated endpointId before stamp =>
      rcases GuestPortal.update_cases hstep with ⟨-, hrefused⟩ |
        ⟨sent, stored, hca, -, hstored, rfl⟩
      · cases hrefused haccepted
      · obtain ⟨hguest, htext, haccess⟩ := hsent fun _ hname => get?_updateAttrs hca hname
        refine ⟨?_, (before.map EndpointDetail.mac).getD "", ?_⟩
        · intro hended
          obtain ⟨merged, hmerged, hvalue⟩ := hended
          cases (Dict.get?_set_self ..).symm.trans hmerged
          rw [Attrs.attr_merge, haccess] at hvalue
          exact absurd hvalue (by simp)
        · refine (GuestPortal.get?_syncGuestExpiry ..).trans ?_
          rw [hguest, htext]
          exact if_pos rfl

end Steps

/-- For all settings and every portal a run reaches: a registration with an expiry that reaches ISE
is tracked with the configured moment through all later checks, until its access has been ended,
exactly when the portal learns the endpoint's id and the configured date and time can be read. -/
theorem guest_expiry_kept_iff [PyText] [PyCalendar] [PyDates] [LawfulDates] (psk : PskSettings)
    (s : RegisterSettings) (dayAfter : Int → Option String) (body : RegisterBody)
    (ca : CustomAttrs) (now : Time) (before : List GuestOp) (portal next : GuestPortal)
    (write : RegistrationWrite) (hahead : ReadsDaysAhead dayAfter)
    (hexpiry : s.expiryEnabled = true) (hca : registrationAttrs s dayAfter body = some ca)
    (hrun : run (GuestPortal.step psk) { now := now } before = some portal)
    (haccepted : write.Accepted psk ca)
    (hstep : GuestPortal.step psk portal (write.op ca) = some next) :
    (∀ checks, Always (checkStep psk) (ExpiryKept (configuredMoment s dayAfter) write.endpointId)
        next checks) ↔
      write.located = true ∧ ReadableExpiry s dayAfter := by
  have htracks : portal.TracksEndpoints :=
    (always_of_step (fun _ _ _ hs htracks => GuestPortal.tracksEndpoints_step hs htracks) before
      (GuestPortal.tracksEndpoints_empty now)).last hrun
  obtain ⟨text, htext, hreg, hdate, hexpire⟩ := registrationAttrs_expiry hca hexpiry
  obtain ⟨hopen, mac, hrow⟩ := registered_state htracks hreg hdate hexpire haccepted hstep
  have hletters : ("true".toList.all fun c => 'a' ≤ c ∧ c ≤ 'z') = true := by decide
  have hguest : GuestPortal.IsGuest "true" := LawfulDates.lower_letters "true"
    fun c hc => of_decide_eq_true (List.all_eq_true.mp hletters c hc)
  constructor
  · intro hkept
    -- the registered endpoint itself, before any check
    obtain hended | ⟨row, expiry, hfound, hmoment, hread⟩ := (hkept []).head
    · exact absurd hended hopen
    · rw [hrow] at hfound
      cases hlocated : write.located with
      | false => simp [hlocated] at hfound
      | true =>
          rw [if_pos hlocated, GuestPortal.syncRow] at hfound
          split at hfound
          · cases hfound
            exact ⟨rfl, readableExpiry_of_strptime hahead htext hmoment hread⟩
          · cases hfound
  · intro hcondition
    obtain ⟨hlocated, hreadable⟩ := hcondition
    obtain ⟨expiry, hmoment, hread⟩ := strptime_expiryText hreadable htext
    have hnonempty : PyText.strip text ≠ "" := by
      intro hempty
      rw [hempty, LawfulDates.strptime_empty] at hread
      cases hread
    rw [if_pos hlocated, GuestPortal.syncRow, if_pos ⟨hguest, hnonempty⟩] at hrow
    intro checks
    exact always_of_step (fun _ _ _ hs hkept => expiryKept_checkStep hs hkept) checks
      (Or.inr ⟨_, expiry, hrow, hmoment, hread⟩)

/-! ## A time with a dot -/

/-- The halves of `paddedDates`, in minutes. -/
@[reducible] def paddedHalves : PyDates where
  strpDate text :=
    match text.toList with
    | [y1, y2, y3, y4, '-', m1, m2, '-', d1, d2] => do
        let year ← digitsValue [y1, y2, y3, y4]
        let month ← digitsValue [m1, m2]
        let day ← digitsValue [d1, d2]
        if 1 ≤ year ∧ 1 ≤ month ∧ month ≤ 12 ∧ 1 ≤ day ∧ day ≤ 31 then
          some (((((year * 12 + month) * 31 + day) * 24) * 60 : Nat) : Rat)
        else none
    | _ => none
  strpTime text :=
    match text.toList with
    | [h1, h2, ':', n1, n2] => do
        let hour ← digitsValue [h1, h2]
        let minute ← digitsValue [n1, n2]
        if hour < 24 ∧ minute < 60 then some ((hour * 60 + minute : Nat) : Rat) else none
    | _ => none

/-- A digit is no blank. -/
theorem not_isWhitespace_of_isDigit {digit : Char} (h : digit.isDigit = true) :
    digit.isWhitespace = false := by
  by_contra hblank
  rw [Bool.not_eq_false] at hblank
  simp only [Char.isWhitespace, Bool.or_eq_true, decide_eq_true_eq] at hblank
  rcases hblank with ((rfl | rfl) | rfl) | rfl <;> exact absurd h (by decide)

/-- Nothing is cut off a text that starts and ends with a digit. -/
theorem strip_of_isDigit {first last : Char} {inner : List Char} {text : String}
    (htext : text.toList = first :: (inner ++ [last])) (hfirst : first.isDigit = true)
    (hlast : last.isDigit = true) : asciiText.strip text = text := by
  have hleft : List.dropWhile Char.isWhitespace text.toList = text.toList := by
    rw [htext]
    exact List.dropWhile_cons_of_neg (by simp [not_isWhitespace_of_isDigit hfirst])
  have hright : text.toList.reverse = last :: (first :: inner).reverse := by
    rw [htext]
    simp
  show String.ofList _ = text
  rw [hleft, hright, List.dropWhile_cons_of_neg (by simp [not_isWhitespace_of_isDigit hlast]),
    ← hright, List.reverse_reverse, String.ofList_toList]

/-- Only digits have a value. -/
theorem isDigit_of_digitsValue {digits : List Char} {value : Nat}
    (h : digitsValue digits = some value) : ∀ c ∈ digits, c.isDigit = true := by
  have hfold : ∀ (digits : List Char) (start : Option Nat),
      digits.foldl (fun value digit => do pure ((← value) * 10 + (← digitValue digit))) start =
          some value → start ≠ none ∧ ∀ c ∈ digits, c.isDigit = true := by
    intro digits
    induction digits with
    | nil =>
        intro start hstart
        exact ⟨by simp [show start = some value from hstart], by simp⟩
    | cons digit rest ih =>
        intro start hstart
        obtain ⟨hnext, hrest⟩ := ih _ hstart
        cases start with
        | none => exact absurd rfl hnext
        | some sum =>
            cases hdigit : digit.isDigit with
            | false => simp [digitValue, hdigit] at hnext
            | true => exact ⟨by simp, List.forall_mem_cons.mpr ⟨hdigit, hrest⟩⟩
  exact (hfold digits (some 0) h).2

theorem lawful_paddedHalves : @LawfulDates asciiText paddedDates paddedHalves := by
  refine @LawfulDates.mk asciiText paddedDates paddedHalves ?_ (by decide) ?_
  · intro text hletters
    show String.ofList (text.toList.map Char.toLower) = text
    have hsame : text.toList.map Char.toLower = text.toList := by
      refine (List.map_congr_left fun c hc => ?_).trans (List.map_id _)
      exact dif_neg fun hupper =>
        absurd (UInt32.le_trans (hletters c hc).1 hupper.2) (by decide)
    rw [hsame, String.ofList_toList]
  · intro date time day clock hday hclock
    simp only [PyDates.strpDate] at hday
    simp only [PyDates.strpTime] at hclock
    split at hday
    · next y1 y2 y3 y4 m1 m2 d1 d2 hdate =>
        split at hclock
        · next h1 h2 n1 n2 htime =>
            obtain ⟨year, hyear, hday⟩ := Option.bind_eq_some_iff.mp hday
            obtain ⟨month, hmonth, hday⟩ := Option.bind_eq_some_iff.mp hday
            obtain ⟨dayOf, hdayOf, hday⟩ := Option.bind_eq_some_iff.mp hday
            obtain ⟨hour, hhour, hclock⟩ := Option.bind_eq_some_iff.mp hclock
            obtain ⟨minute, hminute, hclock⟩ := Option.bind_eq_some_iff.mp hclock
            split at hday
            · next hvalid =>
                split at hclock
                · next hvalid' =>
                    have htext : (date ++ ":" ++ time).toList =
                        y1 :: ([y2, y3, y4, '-', m1, m2, '-', d1, d2, ':', h1, h2, ':', n1] ++
                          [n2]) := by
                      simp [hdate, htime]
                    rw [strip_of_isDigit htext
                      (isDigit_of_digitsValue hyear y1 (by simp))
                      (isDigit_of_digitsValue hminute n2 (by simp))]
                    cases hday
                    cases hclock
                    simp only [PyCalendar.strptime, htext, List.cons_append, List.nil_append,
                      hyear, hmonth, hdayOf, hhour, hminute, Option.bind_eq_bind,
                      Option.bind_some, hvalid, hvalid', and_self, ↓reduceIte]
                    rw [← Rat.natCast_add]
                    congr 2
                    omega
                · cases hclock
            · cases hday
        · cases hclock
    · cases hday

local instance dottedText : PyText := asciiText

local instance dottedDates : PyCalendar := paddedDates

local instance dottedHalves : PyDates := paddedHalves

local instance dottedLawful : LawfulDates := lawful_paddedHalves

/-- The first of January 2026, and thirty days later. -/
def januaryDays (days : Int) : Option String :=
  if days = 0 then some "2026-01-01" else if days = 30 then some "2026-01-31" else none

theorem readsDaysAhead_january : ReadsDaysAhead januaryDays := by
  intro days more hdays hmore text later htext hlater
  have hfirst : days = 0 := by
    unfold januaryDays at htext hlater
    split_ifs at htext hlater <;> omega
  have hsecond : more = 30 := by
    unfold januaryDays at hlater
    split_ifs at hlater <;> omega
  subst hfirst hsecond
  cases htext
  cases hlater
  exact ⟨_, _, rfl, rfl, by decide⟩

/-- Guests until the end of a day at the given time. -/
def untilFebruary (time : String) : RegisterSettings where
  enabled := true
  expiryEnabled := true
  expiryMode := "date"
  expiryDate := "2026-02-01"
  expiryTime := time

/-- The attributes of the guest. -/
def februaryGuest (time : String) : CustomAttrs :=
  { registretBy := "Gæst", guestRegistration := "true", hypervisionActive := some "Aktiv",
    guestExperyDate := some ("2026-02-01:" ++ time), guestAccessExpire := some "false" }

/-- The registration of a new endpoint. -/
def newGuest : RegistrationWrite :=
  .created "AA:BB:CC:00:00:01" "2026-01-01T12:00:00Z" "ep-1" true

theorem guest_expiry_kept_february :
    ∃ next, GuestPortal.step openPolicy { now := 1085335200 }
        (newGuest.op (februaryGuest "23:59")) = some next ∧
      ((∀ checks, Always (checkStep openPolicy)
          (ExpiryKept (configuredMoment (untilFebruary "23:59") januaryDays) newGuest.endpointId)
          next checks) ↔
        newGuest.located = true ∧ ReadableExpiry (untilFebruary "23:59") januaryDays) := by
  have htaken : (GuestPortal.step openPolicy { now := 1085335200 }
      (newGuest.op (februaryGuest "23:59"))).isSome = true := by decide
  have haccepted : newGuest.Accepted openPolicy (februaryGuest "23:59") := ⟨_, rfl⟩
  obtain ⟨next, hstep⟩ := Option.isSome_iff_exists.mp htaken
  refine ⟨next, hstep, ?_⟩
  exact guest_expiry_kept_iff openPolicy (untilFebruary "23:59") januaryDays
    { registrantName := "Gæst", agreed := true } (februaryGuest "23:59") 1085335200 []
    { now := 1085335200 } next newGuest readsDaysAhead_january rfl (by decide) rfl
    haccepted hstep

/-- A time of day with a dot is taken as it is: the first check gives the guest up, and its access
never ends. -/
theorem dotted_expiry_fails_open :
    registrationAttrs (untilFebruary "23.59") januaryDays
        { registrantName := "Gæst", agreed := true } = some (februaryGuest "23.59") ∧
      ∃ next, GuestPortal.step openPolicy { now := 1085335200 }
          (newGuest.op (februaryGuest "23.59")) = some next ∧
        ¬ Always (checkStep openPolicy)
          (ExpiryKept (configuredMoment (untilFebruary "23.59") januaryDays) "ep-1") next
          [.beginCheck] := by
  refine ⟨by decide, ?_⟩
  have hrun : ((GuestPortal.step openPolicy { now := 1085335200 }
        (newGuest.op (februaryGuest "23.59"))).bind fun next =>
          (run (checkStep openPolicy) next [.beginCheck]).map fun final =>
            ((final.ise.get? "ep-1").map fun stored => stored.attr guestAccessExpireAttr,
              final.store.get? "ep-1")) = some (some "false", none) := by decide
  obtain ⟨next, hstep, hrest⟩ := Option.bind_eq_some_iff.mp hrun
  obtain ⟨final, hfinal, hfields⟩ := Option.map_eq_some_iff.mp hrest
  obtain ⟨haccess, hrow⟩ := Prod.mk.inj hfields
  refine ⟨next, hstep, fun halways => ?_⟩
  rcases halways.last hfinal with ⟨stored, hstored, hended⟩ | ⟨row, expiry, hfound, -, -⟩
  · rw [hstored, Option.map_some, hended] at haccess
    exact absurd haccess (by decide)
  · cases hrow.symm.trans hfound

end Selfregister

end IsePortal
