import IsePortal.Accounts.UserService
import IsePortal.Library.WindowLimiter
import Mathlib.Algebra.Order.Ring.Rat
import Mathlib.Data.Rat.Floor

/-!
# Account lockout

The tables of `app/core/lockout_store.py` and the login that consults them
(`app/services/user_service.py`). Failures and locks are kept by the name as it was typed, and
the lock is only consulted when a login fails. For one spelling the tables are a
`WindowLimiter`; `lockout_by_spelling` says what that gives for every history of logins.
-/

namespace IsePortal

open Library

/-- `_LOCKOUT_MAX_ATTEMPTS`, `_LOCKOUT_WINDOW_S` and `_LOCKOUT_DURATION_S`. -/
def lockoutLimiter : WindowLimiter Time where
  limit := 5
  window := 600
  duration := 900

/-- The tables `lockout_failures`, the newest row first, and `lockout_state`. -/
structure LockoutStore where
  failures : List (String × Time) := []
  locked : Dict String Time := Dict.empty

namespace LockoutStore

/-- `get_lockout_until` -/
def getLockoutUntil (store : LockoutStore) (username : String) : Option Time :=
  store.locked.get? username

/-- `set_lockout` -/
def setLockout (store : LockoutStore) (username : String) (lockedUntil : Time) : LockoutStore :=
  { store with locked := store.locked.set username lockedUntil }

/-- `clear_lockout` -/
def clearLockout (store : LockoutStore) (username : String) : LockoutStore where
  failures := store.failures.filter (·.1 ≠ username)
  locked := store.locked.erase username

/-- `add_failure` -/
def addFailure (store : LockoutStore) (username : String) (ts : Time) : LockoutStore :=
  { store with failures := (username, ts) :: store.failures }

/-- `get_failures_since` -/
def getFailuresSince (store : LockoutStore) (username : String) (since : Time) : List Time :=
  (store.failures.filter fun row => row.1 = username ∧ row.2 ≥ since).map Prod.snd

end LockoutStore

/-- The part of `_check_and_record_failure` after the lock was consulted. -/
def recordFailure (store : LockoutStore) (username : String) (now : Time) : LockoutStore :=
  let store := store.addFailure username now
  let failures := store.getFailuresSince username (now - lockoutLimiter.window)
  if failures.length ≥ lockoutLimiter.limit then
    store.setLockout username (now + lockoutLimiter.duration)
  else store

/-- The answer while an account is locked. -/
def tooManyRequests (remaining : Int) : HttpError :=
  ⟨429, "For mange fejlede loginforsøg. Prøv igen om " ++ toString (remaining / 60 + 1) ++
    " minut(ter)."⟩

/-- `_check_and_record_failure`: the tables afterwards, and the `HTTPException` it raises. -/
def checkAndRecordFailure (store : LockoutStore) (username : String) (now : Time) :
    LockoutStore × Option HttpError :=
  match store.getLockoutUntil username with
  | some lockedUntil =>
      if now < lockedUntil then (store, some (tooManyRequests (lockedUntil - now).floor))
      else (recordFailure (store.clearLockout username) username now, none)
  | none => (recordFailure store username now, none)

/-! ## A history of logins -/

/-- One call of `login`. -/
structure LoginAttempt where
  now : Time
  username : String
  password : String
  tacacs : TacacsAuthResult := { success := false }
  /-- `_now_iso()` -/
  stamp : String := ""

/-- The users and the lockout tables. -/
structure LoginDesk where
  users : Users
  lockout : LockoutStore := {}

/-- What one login came to: the verdict on name and password, and the error it answered with. -/
structure LoginRecord where
  attempt : LoginAttempt
  verdict : LoginVerdict
  error : Option HttpError

/-- The answer to a wrong name or password. -/
def wrongCredentials : HttpError := ⟨401, "Forkert brugernavn eller password"⟩

/-- The answer to an account that only logs in through TACACS. -/
def onlyTacacs : HttpError :=
  ⟨401, "Denne konto autentificeres via TACACS+ og kan ikke bruges til lokal login."⟩

/-- The answer where the operator profile is missing. -/
def noProfile (profileName : String) : HttpError :=
  ⟨401, "Operatørprofil '" ++ profileName ++ "' er ikke konfigureret i portalen. " ++
    "Kontakt din administrator."⟩

/-- The failure of a login is recorded, unless the name is locked. -/
def LoginDesk.refuse (desk : LoginDesk) (attempt : LoginAttempt) : LoginDesk × Option HttpError :=
  let (lockout, raised) := checkAndRecordFailure desk.lockout attempt.username attempt.now
  ({ desk with lockout := lockout }, some (raised.getD wrongCredentials))

namespace LoginDesk

section Logins

variable [PyText]

/-- One login with its effect on the tables. -/
def attempt (cfg : AuthConfig) (verify : String → String → Bool) (desk : LoginDesk)
    (attempt : LoginAttempt) : LoginDesk × LoginRecord :=
  let verdict := login cfg attempt.tacacs verify desk.users attempt.username attempt.password
    attempt.stamp
  let (next, error) : LoginDesk × Option HttpError :=
    match verdict with
    | .success change =>
        ({ users := change.apply desk.users,
           lockout := desk.lockout.clearLockout attempt.username }, none)
    | .profileMissing profileName =>
        ({ desk with lockout := desk.lockout.clearLockout attempt.username },
          some (noProfile profileName))
    | .blocked => (desk, some onlyTacacs)
    | .tacacsRefused | .badCredentials => desk.refuse attempt
  (next, { attempt := attempt, verdict := verdict, error := error })

/-- The records of a history of logins. -/
def history (cfg : AuthConfig) (verify : String → String → Bool) :
    LoginDesk → List LoginAttempt → List LoginRecord
  | _, [] => []
  | desk, attempt :: rest =>
      (desk.attempt cfg verify attempt).2 ::
        history cfg verify (desk.attempt cfg verify attempt).1 rest

/-- The desk after a history of logins. -/
def after (cfg : AuthConfig) (verify : String → String → Bool) :
    LoginDesk → List LoginAttempt → LoginDesk
  | desk, [] => desk
  | desk, attempt :: rest => after cfg verify (desk.attempt cfg verify attempt).1 rest

end Logins

end LoginDesk

namespace LoginRecord

/-- The name or the password was wrong. -/
def Failed (record : LoginRecord) (username : String) : Prop :=
  record.attempt.username = username ∧
    (record.verdict = .badCredentials ∨ record.verdict = .tacacsRefused)

/-- The failures of the name were forgotten. -/
def Clears (record : LoginRecord) (username : String) : Prop :=
  record.attempt.username = username ∧
    ((∃ change, record.verdict = .success change) ∨
      ∃ profileName, record.verdict = .profileMissing profileName)

/-- A failure that was recorded and answered with 401. -/
def Recorded (record : LoginRecord) (username : String) : Prop :=
  record.Failed username ∧ record.error = some wrongCredentials

/-- A failure that was refused with 429. -/
def Refused (record : LoginRecord) (username : String) : Prop :=
  record.Failed username ∧ ∃ error, record.error = some error ∧ error.statusCode = 429

instance (record : LoginRecord) (username : String) : Decidable (record.Failed username) :=
  inferInstanceAs (Decidable (_ ∧ _))

instance (record : LoginRecord) (username : String) : Decidable (record.Recorded username) :=
  inferInstanceAs (Decidable (_ ∧ _))

end LoginRecord

/-- Within a window of ten minutes. -/
def InWindow (records : List LoginRecord) : Prop :=
  ∀ record ∈ records, ∀ other ∈ records, other.attempt.now ≤ record.attempt.now + 600

/-- What the lockout promises for a history, for every spelling of a name. While no login with
the spelling succeeds, at most five failures are recorded in ten minutes; and five of them lock
the spelling: every further failure is refused until fifteen minutes after the last of them. -/
structure LockoutHolds (history : List LoginRecord) : Prop where
  few : ∀ username earlier window later, history = earlier ++ window ++ later →
    InWindow window → (∀ record ∈ window, ¬ record.Clears username) →
      window.countP (·.Recorded username) ≤ 5
  locks : ∀ username earlier window fifth between next later,
    history = earlier ++ (window ++ [fifth]) ++ between ++ next :: later →
    InWindow (window ++ [fifth]) →
    (∀ record ∈ (window ++ [fifth]) ++ between, ¬ record.Clears username) →
    fifth.Recorded username → 5 ≤ (window ++ [fifth]).countP (·.Recorded username) →
    next.Failed username → next.attempt.now < fifth.attempt.now + 900 → next.Refused username

/-! ## One spelling is a limiter -/

namespace LockoutStore

/-- What the tables say about one name. -/
def view (store : LockoutStore) (username : String) : LimiterState Time where
  failures := (store.failures.filter (·.1 = username)).map Prod.snd
  lockedUntil := store.locked.get? username

theorem view_clearLockout_self (store : LockoutStore) (username : String) :
    (store.clearLockout username).view username = {} := by
  have hnone : (store.failures.filter (·.1 ≠ username)).filter (·.1 = username) = [] := by
    refine List.filter_eq_nil_iff.mpr fun row hrow => ?_
    simpa using (List.mem_filter.mp hrow).2
  simp only [view, clearLockout, hnone, List.map_nil, Dict.get?_erase_self]

theorem view_clearLockout_ne (store : LockoutStore) {username other : String}
    (hne : other ≠ username) : (store.clearLockout username).view other = store.view other := by
  have hkeep : (store.failures.filter (·.1 ≠ username)).filter (·.1 = other) =
      store.failures.filter (·.1 = other) := by
    rw [List.filter_filter]
    refine List.filter_congr fun row _ => ?_
    by_cases hrow : row.1 = other
    · simp [hrow, hne]
    · simp [hrow]
  simp only [view, clearLockout, hkeep, Dict.get?_erase_ne _ hne]

/-- `get_failures_since` counts the failures of the window. -/
theorem length_getFailuresSince (store : LockoutStore) (username : String) (since : Time) :
    (store.getFailuresSince username since).length =
      (store.view username).failures.countP (since ≤ ·) := by
  rw [getFailuresSince, view, List.length_map, ← List.countP_eq_length_filter, List.countP_map,
    List.countP_filter]
  refine List.countP_congr fun row _ => ?_
  simp [and_comm]

theorem view_recordFailure_self (store : LockoutStore) (username : String) (now : Time)
    (hopen : store.locked.get? username = none) :
    (recordFailure store username now).view username =
      lockoutLimiter.record (store.view username).failures now := by
  have hfailures : ((store.addFailure username now).view username).failures =
      now :: (store.view username).failures := by
    simp [view, addFailure]
  unfold recordFailure WindowLimiter.record
  dsimp only
  simp only [length_getFailuresSince, hfailures, ge_iff_le]
  split
  · simp [view, setLockout, addFailure]
  · simp [view, addFailure, hopen]

theorem view_recordFailure_ne (store : LockoutStore) {username other : String} (now : Time)
    (hne : other ≠ username) :
    (recordFailure store username now).view other = store.view other := by
  have hname : (username = other) = False := eq_false (Ne.symm hne)
  unfold recordFailure
  dsimp only
  split
  · simp [view, setLockout, addFailure, hname, Dict.get?_set_ne _ _ hne]
  · simp [view, addFailure, hname]

/-- `_check_and_record_failure` is one failure of the limiter of the name. -/
theorem view_checkAndRecordFailure_self (store : LockoutStore) (username : String) (now : Time) :
    (checkAndRecordFailure store username now).1.view username =
      (lockoutLimiter.fail (store.view username) now).1 := by
  have hlocked : (store.view username).lockedUntil = store.locked.get? username := rfl
  unfold checkAndRecordFailure WindowLimiter.fail getLockoutUntil
  rw [hlocked]
  cases hlock : store.locked.get? username with
  | none => exact view_recordFailure_self store username now hlock
  | some lockedUntil =>
      dsimp only
      split
      · rfl
      · rw [view_recordFailure_self _ _ _ (Dict.get?_erase_self ..), view_clearLockout_self]

theorem view_checkAndRecordFailure_ne (store : LockoutStore) {username other : String}
    (now : Time) (hne : other ≠ username) :
    (checkAndRecordFailure store username now).1.view other = store.view other := by
  unfold checkAndRecordFailure
  split
  · split
    · rfl
    · rw [view_recordFailure_ne _ _ hne, view_clearLockout_ne _ hne]
  · exact view_recordFailure_ne _ _ hne

/-- It raises 429 exactly when the limiter does not record. -/
theorem checkAndRecordFailure_raises (store : LockoutStore) (username : String) (now : Time) :
    ((lockoutLimiter.fail (store.view username) now).2 = true ∧
        (checkAndRecordFailure store username now).2 = none) ∨
      ((lockoutLimiter.fail (store.view username) now).2 = false ∧
        ∃ error, (checkAndRecordFailure store username now).2 = some error ∧
          error.statusCode = 429) := by
  have hlocked : (store.view username).lockedUntil = store.locked.get? username := rfl
  unfold checkAndRecordFailure WindowLimiter.fail getLockoutUntil
  rw [hlocked]
  cases hlock : store.locked.get? username with
  | none => exact Or.inl ⟨rfl, rfl⟩
  | some lockedUntil =>
      dsimp only
      split
      · exact Or.inr ⟨rfl, _, rfl, rfl⟩
      · exact Or.inl ⟨rfl, rfl⟩

end LockoutStore

namespace LoginDesk

variable [PyText] {cfg : AuthConfig} {verify : String → String → Bool}

/-- What the tables of a desk say about one name. -/
def view (desk : LoginDesk) (username : String) : LimiterState Time :=
  desk.lockout.view username

omit [PyText] in
theorem view_refuse (desk : LoginDesk) (attempt : LoginAttempt) (username : String) :
    (desk.refuse attempt).1.view username =
      if attempt.username = username then (lockoutLimiter.fail (desk.view username) attempt.now).1
      else desk.view username := by
  split
  · rename_i hname
    subst hname
    exact LockoutStore.view_checkAndRecordFailure_self ..
  · rename_i hname
    exact LockoutStore.view_checkAndRecordFailure_ne _ _ (Ne.symm hname)

omit [PyText] in
theorem view_clear (desk : LoginDesk) (name username : String) (users : Users) :
    view { users := users, lockout := desk.lockout.clearLockout name } username =
      if name = username then {} else desk.view username := by
  split
  · rename_i hname
    subst hname
    exact LockoutStore.view_clearLockout_self ..
  · rename_i hname
    exact LockoutStore.view_clearLockout_ne _ (Ne.symm hname)

@[simp] theorem attempt_record (desk : LoginDesk) (attempt : LoginAttempt) :
    (desk.attempt cfg verify attempt).2.attempt = attempt := rfl

/-- A failure of the name is a failure of its limiter, recorded or refused. -/
theorem attempt_failed {desk : LoginDesk} {attempt : LoginAttempt} {username : String}
    (hfailed : (desk.attempt cfg verify attempt).2.Failed username) :
    (desk.attempt cfg verify attempt).1.view username =
        (lockoutLimiter.fail (desk.view username) attempt.now).1 ∧
      (((lockoutLimiter.fail (desk.view username) attempt.now).2 = true ∧
          (desk.attempt cfg verify attempt).2.Recorded username) ∨
        ((lockoutLimiter.fail (desk.view username) attempt.now).2 = false ∧
          ¬ (desk.attempt cfg verify attempt).2.Recorded username ∧
          (desk.attempt cfg verify attempt).2.Refused username)) := by
  obtain ⟨hname, hverdict⟩ := hfailed
  have hsame : attempt.username = username := hname
  subst hsame
  have hstep : (desk.attempt cfg verify attempt).1 = (desk.refuse attempt).1 ∧
      (desk.attempt cfg verify attempt).2.error = (desk.refuse attempt).2 := by
    unfold LoginDesk.attempt at hverdict ⊢
    dsimp only at hverdict ⊢
    obtain hverdict | hverdict := hverdict <;> rw [hverdict] <;> exact ⟨rfl, rfl⟩
  refine ⟨by rw [hstep.1, view_refuse, if_pos rfl], ?_⟩
  obtain ⟨hfail, hraised⟩ | ⟨hfail, error, hraised, hstatus⟩ :=
    desk.lockout.checkAndRecordFailure_raises attempt.username attempt.now
  · refine Or.inl ⟨hfail, ⟨rfl, hverdict⟩, ?_⟩
    rw [hstep.2]
    simp [refuse, hraised]
  · have herror : (desk.attempt cfg verify attempt).2.error = some error := by
      rw [hstep.2]
      simp [refuse, hraised]
    refine Or.inr ⟨hfail, fun hrecorded => ?_, ⟨rfl, hverdict⟩, error, herror, hstatus⟩
    have hsame := hrecorded.2
    rw [herror, Option.some.injEq] at hsame
    rw [hsame] at hstatus
    cases hstatus

theorem attempt_clears {desk : LoginDesk} {attempt : LoginAttempt} {username : String}
    (hclears : (desk.attempt cfg verify attempt).2.Clears username) :
    (desk.attempt cfg verify attempt).1.view username = {} := by
  obtain ⟨hname, hverdict⟩ := hclears
  have hsame : attempt.username = username := hname
  unfold LoginDesk.attempt at hverdict ⊢
  dsimp only at hverdict ⊢
  obtain ⟨change, hverdict⟩ | ⟨profileName, hverdict⟩ := hverdict <;> rw [hverdict] <;>
    exact (view_clear ..).trans (if_pos hsame)

/-- Any other login leaves what the tables say about the name. -/
theorem attempt_other {desk : LoginDesk} {attempt : LoginAttempt} {username : String}
    (hfailed : ¬ (desk.attempt cfg verify attempt).2.Failed username)
    (hclears : ¬ (desk.attempt cfg verify attempt).2.Clears username) :
    (desk.attempt cfg verify attempt).1.view username = desk.view username := by
  unfold LoginRecord.Failed at hfailed
  unfold LoginRecord.Clears at hclears
  unfold LoginDesk.attempt at hfailed hclears ⊢
  dsimp only at hfailed hclears ⊢
  cases hverdict : login cfg attempt.tacacs verify desk.users attempt.username attempt.password
      attempt.stamp with
  | success change =>
      simp only [hverdict, LoginVerdict.success.injEq, exists_eq', true_or, and_true] at hclears
      exact (view_clear ..).trans (if_neg hclears)
  | profileMissing profileName =>
      simp only [hverdict, LoginVerdict.profileMissing.injEq, exists_eq', or_true,
        and_true] at hclears
      exact (view_clear ..).trans (if_neg hclears)
  | blocked => rfl
  | tacacsRefused =>
      simp only [hverdict, or_true, and_true] at hfailed
      exact (view_refuse ..).trans (if_neg hfailed)
  | badCredentials =>
      simp only [hverdict, true_or, and_true] at hfailed
      exact (view_refuse ..).trans (if_neg hfailed)

/-! ## Histories -/

variable (cfg verify) in
@[simp] theorem map_attempt_history (desk : LoginDesk) (attempts : List LoginAttempt) :
    (history cfg verify desk attempts).map LoginRecord.attempt = attempts := by
  induction attempts generalizing desk with
  | nil => rfl
  | cons attempt rest ih =>
      simp only [history, List.map_cons, attempt_record]
      rw [ih]

/-- The two parts of a history are the histories of the two parts. -/
theorem history_split {desk : LoginDesk} {attempts : List LoginAttempt}
    {first second : List LoginRecord}
    (h : history cfg verify desk attempts = first ++ second) :
    ∃ start more, attempts = start ++ more ∧ first = history cfg verify desk start ∧
      second = history cfg verify (after cfg verify desk start) more := by
  induction first generalizing desk attempts with
  | nil => exact ⟨[], attempts, rfl, rfl, h.symm⟩
  | cons record rest ih =>
      cases attempts with
      | nil => cases h
      | cons attempt attempts =>
          simp only [history, List.cons_append, List.cons.injEq] at h
          obtain ⟨start, more, rfl, rfl, rfl⟩ := ih h.2
          exact ⟨attempt :: start, more, rfl, by rw [history, h.1], rfl⟩

/-- The first record of a history is that of its first login. -/
theorem history_cons {desk : LoginDesk} {attempts : List LoginAttempt} {record : LoginRecord}
    {rest : List LoginRecord} (h : history cfg verify desk attempts = record :: rest) :
    ∃ attempt more, attempts = attempt :: more ∧
      record = (desk.attempt cfg verify attempt).2 ∧
        rest = history cfg verify (desk.attempt cfg verify attempt).1 more := by
  cases attempts with
  | nil => cases h
  | cons attempt more =>
      simp only [history, List.cons.injEq] at h
      exact ⟨attempt, more, rfl, h.1.symm, h.2.symm⟩

theorem after_append (desk : LoginDesk) (start more : List LoginAttempt) :
    after cfg verify desk (start ++ more) =
      after cfg verify (after cfg verify desk start) more := by
  induction start generalizing desk with
  | nil => rfl
  | cons attempt rest ih => exact ih _

omit [PyText] in
/-- The times of the failures of one name. -/
def failTimes (username : String) (records : List LoginRecord) : List Time :=
  (records.filter (·.Failed username)).map (·.attempt.now)

/-- While the failures of a name are not forgotten, its logins are failures of its limiter. -/
theorem view_after {desk : LoginDesk} {attempts : List LoginAttempt} {username : String}
    (hkept : ∀ record ∈ history cfg verify desk attempts, ¬ record.Clears username) :
    (after cfg verify desk attempts).view username =
        (lockoutLimiter.fails (desk.view username)
          (failTimes username (history cfg verify desk attempts))).1 ∧
      (history cfg verify desk attempts).countP (·.Recorded username) =
        (lockoutLimiter.fails (desk.view username)
          (failTimes username (history cfg verify desk attempts))).2 := by
  induction attempts generalizing desk with
  | nil => exact ⟨rfl, rfl⟩
  | cons attempt rest ih =>
      simp only [history, List.forall_mem_cons] at hkept
      obtain ⟨hview, hcount⟩ := ih hkept.2
      by_cases hfailed : (desk.attempt cfg verify attempt).2.Failed username
      · obtain ⟨hstep, hanswer⟩ := attempt_failed hfailed
        have htimes : failTimes username (history cfg verify desk (attempt :: rest)) =
            attempt.now :: failTimes username
              (history cfg verify (desk.attempt cfg verify attempt).1 rest) := by
          simp [failTimes, history, hfailed]
        rw [htimes]
        simp only [WindowLimiter.fails, history, after, List.countP_cons]
        rw [← hstep]
        refine ⟨hview, ?_⟩
        rw [hcount]
        obtain ⟨hfail, hrecorded⟩ | ⟨hfail, hrecorded, -⟩ := hanswer
        · simp [hfail, hrecorded]
        · simp [hfail, hrecorded]
      · have hstep := attempt_other hfailed hkept.1
        have htimes : failTimes username (history cfg verify desk (attempt :: rest)) =
            failTimes username (history cfg verify (desk.attempt cfg verify attempt).1 rest) := by
          simp [failTimes, history, hfailed]
        have hrecorded : ¬ (desk.attempt cfg verify attempt).2.Recorded username :=
          fun hrecorded => hfailed hrecorded.1
        rw [htimes, ← hstep]
        refine ⟨hview, ?_⟩
        rw [history, List.countP_cons_of_neg (by simpa using hrecorded), hcount]

variable (cfg verify) in
/-- One login keeps the limiter of every name sound. -/
theorem attempt_sound {desk : LoginDesk} {attempt : LoginAttempt} {username : String}
    (hsound : lockoutLimiter.Sound (desk.view username))
    (hbefore : WindowLimiter.Before (desk.view username) attempt.now) :
    lockoutLimiter.Sound ((desk.attempt cfg verify attempt).1.view username) ∧
      WindowLimiter.Before ((desk.attempt cfg verify attempt).1.view username) attempt.now := by
  by_cases hfailed : (desk.attempt cfg verify attempt).2.Failed username
  · rw [(attempt_failed hfailed).1]
    exact ⟨lockoutLimiter.sound_fail hsound hbefore, lockoutLimiter.before_fail hbefore⟩
  · by_cases hclears : (desk.attempt cfg verify attempt).2.Clears username
    · rw [attempt_clears hclears]
      exact ⟨lockoutLimiter.sound_empty, by simp [WindowLimiter.Before]⟩
    · rw [attempt_other hfailed hclears]
      exact ⟨hsound, hbefore⟩

variable (cfg verify) in
/-- Logins in order keep the limiter of every name sound. -/
theorem after_sound {desk : LoginDesk} {attempts : List LoginAttempt} {username : String}
    (hsound : lockoutLimiter.Sound (desk.view username))
    (hbefore : ∀ attempt ∈ attempts, WindowLimiter.Before (desk.view username) attempt.now)
    (hsorted : attempts.Pairwise (·.now ≤ ·.now)) :
    lockoutLimiter.Sound ((after cfg verify desk attempts).view username) ∧
      ∀ now, WindowLimiter.Before (desk.view username) now →
        (∀ attempt ∈ attempts, attempt.now ≤ now) →
          WindowLimiter.Before ((after cfg verify desk attempts).view username) now := by
  induction attempts generalizing desk with
  | nil => exact ⟨hsound, fun now h _ => h⟩
  | cons attempt rest ih =>
      obtain ⟨hfirst, hrest⟩ := List.pairwise_cons.mp hsorted
      obtain ⟨hsoundNext, hbeforeNext⟩ :=
        attempt_sound cfg verify hsound (hbefore attempt List.mem_cons_self)
      have hlater (now : Time) (hnow : attempt.now ≤ now) :
          WindowLimiter.Before ((desk.attempt cfg verify attempt).1.view username) now :=
        fun time htime => (hbeforeNext time htime).trans hnow
      obtain ⟨hsoundAfter, hbeforeAfter⟩ :=
        ih hsoundNext (fun later hmem => hlater later.now (hfirst later hmem)) hrest
      refine ⟨hsoundAfter, fun now _ hall => ?_⟩
      exact hbeforeAfter now (hlater now (hall attempt List.mem_cons_self))
        fun later hmem => hall later (List.mem_cons_of_mem _ hmem)

variable (cfg verify) in
/-- The failures of a name are some of the logins, in order. -/
theorem failTimes_sublist (desk : LoginDesk) (attempts : List LoginAttempt) (username : String) :
    (failTimes username (history cfg verify desk attempts)).Sublist
      (attempts.map LoginAttempt.now) := by
  have hall : (history cfg verify desk attempts).map (·.attempt.now) =
      attempts.map LoginAttempt.now := by
    conv_rhs => rw [← map_attempt_history cfg verify desk attempts]
    rw [List.map_map]
    rfl
  rw [← hall]
  exact List.filter_sublist.map _

/-- The failures in one window, as failures of the limiter of the name. -/
theorem window_fails {desk : LoginDesk} {attempt : LoginAttempt} {rest : List LoginAttempt}
    {username : String} (hsorted : (attempt :: rest).Pairwise (·.now ≤ ·.now))
    (hbefore : ∀ login ∈ attempt :: rest, WindowLimiter.Before (desk.view username) login.now)
    (hwindow : InWindow (history cfg verify desk (attempt :: rest))) :
    (∀ now ∈ failTimes username (history cfg verify desk (attempt :: rest)),
        WindowLimiter.Before (desk.view username) now) ∧
      (failTimes username (history cfg verify desk (attempt :: rest))).Pairwise (· ≤ ·) ∧
        ∀ now ∈ failTimes username (history cfg verify desk (attempt :: rest)),
          attempt.now ≤ now ∧ now ≤ attempt.now + lockoutLimiter.window := by
  have hsub := failTimes_sublist cfg verify desk (attempt :: rest) username
  have hmem (now : Time) (hnow : now ∈ failTimes username
      (history cfg verify desk (attempt :: rest))) :
      ∃ login ∈ attempt :: rest, login.now = now :=
    List.mem_map.mp (hsub.subset hnow)
  have hwithin (login : LoginAttempt) (hlogin : login ∈ attempt :: rest) :
      login.now ≤ attempt.now + lockoutLimiter.window := by
    rw [← map_attempt_history cfg verify desk (attempt :: rest)] at hlogin
    obtain ⟨record, hrecord, rfl⟩ := List.mem_map.mp hlogin
    exact hwindow (desk.attempt cfg verify attempt).2 List.mem_cons_self record hrecord
  refine ⟨fun now hnow => ?_, (List.pairwise_map.mpr hsorted).sublist hsub, fun now hnow => ?_⟩
  · obtain ⟨login, hlogin, rfl⟩ := hmem now hnow
    exact hbefore login hlogin
  · obtain ⟨login, hlogin, rfl⟩ := hmem now hnow
    refine ⟨?_, hwithin login hlogin⟩
    obtain rfl | hlater := List.mem_cons.mp hlogin
    · exact le_refl _
    · exact (List.pairwise_cons.mp hsorted).1 login hlater

/-- At most five failures of a name are recorded in one window. -/
theorem few_recorded {desk : LoginDesk} {attempts : List LoginAttempt} {username : String}
    (hsound : lockoutLimiter.Sound (desk.view username))
    (hbefore : ∀ login ∈ attempts, WindowLimiter.Before (desk.view username) login.now)
    (hsorted : attempts.Pairwise (·.now ≤ ·.now))
    (hwindow : InWindow (history cfg verify desk attempts))
    (hkept : ∀ record ∈ history cfg verify desk attempts, ¬ record.Clears username) :
    (history cfg verify desk attempts).countP (·.Recorded username) ≤ 5 := by
  cases attempts with
  | nil => simp [history]
  | cons attempt rest =>
      obtain ⟨htimes, hpairs, hin⟩ := window_fails hsorted hbefore hwindow
      rw [(view_after hkept).2]
      exact lockoutLimiter.recorded_le_limit (by decide) (by decide) (le_refl _) hsound htimes
        hpairs hin

/-- Five recorded failures in one window, the last one at its end, lock the name for fifteen
minutes from there. -/
theorem locked_after_five {desk : LoginDesk} {attempts : List LoginAttempt}
    {last : LoginAttempt} {username : String}
    (hsound : lockoutLimiter.Sound (desk.view username))
    (hbefore : ∀ login ∈ attempts ++ [last],
      WindowLimiter.Before (desk.view username) login.now)
    (hsorted : (attempts ++ [last]).Pairwise (·.now ≤ ·.now))
    (hwindow : InWindow (history cfg verify desk (attempts ++ [last])))
    (hkept : ∀ record ∈ history cfg verify desk (attempts ++ [last]), ¬ record.Clears username)
    (hlast : ((after cfg verify desk attempts).attempt cfg verify last).2.Recorded username)
    (hfive : 5 ≤ (history cfg verify desk (attempts ++ [last])).countP (·.Recorded username)) :
    ((after cfg verify desk (attempts ++ [last])).view username).lockedUntil =
      some (last.now + 900) := by
  -- the lock runs from the newest failure, and that is the last login
  have hhead : ((after cfg verify desk (attempts ++ [last])).view username).failures.head? =
      some last.now := by
    rw [after_append]
    show (((after cfg verify desk attempts).attempt cfg verify last).1.view
      username).failures.head? = _
    obtain ⟨hview, hanswer⟩ := attempt_failed hlast.1
    rw [hview]
    obtain ⟨hfail, -⟩ | ⟨-, hnot, -⟩ := hanswer
    · exact lockoutLimiter.head_fail hfail
    · exact absurd hlast hnot
  obtain ⟨hsoundAfter, hbeforeAfter⟩ :=
    after_sound cfg verify hsound hbefore hsorted
  obtain ⟨hview, hcount⟩ := view_after hkept
  cases hattempts : attempts ++ [last] with
  | nil => simp at hattempts
  | cons attempt rest =>
      rw [hattempts] at hbefore hsorted hwindow hview hcount hfive hbeforeAfter hhead
      obtain ⟨htimes, hpairs, hin⟩ := window_fails hsorted hbefore hwindow
      -- nothing is recorded after the end of the window that starts with the first login
      have hend : WindowLimiter.Before
          ((after cfg verify desk (attempt :: rest)).view username)
          (attempt.now + lockoutLimiter.window) := by
        refine hbeforeAfter _ ?_ ?_
        · intro time htime
          have hnow := hbefore attempt List.mem_cons_self time htime
          exact hnow.trans (le_add_of_nonneg_right (by decide))
        · intro login hlogin
          rw [← map_attempt_history cfg verify desk (attempt :: rest)]
            at hlogin
          obtain ⟨record, hrecord, rfl⟩ := List.mem_map.mp hlogin
          exact hwindow (desk.attempt cfg verify attempt).2 List.mem_cons_self record hrecord
      rw [hview] at hend
      rw [hcount] at hfive
      obtain ⟨newest, hnewest, hlock⟩ :=
        lockoutLimiter.locked_of_recorded (by decide) (by decide) (le_refl _) hsound htimes
          hpairs hin hend hfive
      rw [hview] at hhead
      rw [hview, hlock]
      rw [hhead, Option.mem_some_iff] at hnewest
      rw [← hnewest]
      rfl

/-- While the lock lasts and is not forgotten, a failure is refused. -/
theorem refused_of_locked {desk : LoginDesk} {attempts : List LoginAttempt}
    {next : LoginAttempt} {username : String} {lockedUntil : Time}
    (hlocked : (desk.view username).lockedUntil = some lockedUntil)
    (hkept : ∀ record ∈ history cfg verify desk attempts, ¬ record.Clears username)
    (hsorted : ∀ login ∈ attempts, login.now ≤ next.now) (hsoon : next.now < lockedUntil)
    (hfailed : ((after cfg verify desk attempts).attempt cfg verify next).2.Failed username) :
    ((after cfg verify desk attempts).attempt cfg verify next).2.Refused username := by
  have hsame : (after cfg verify desk attempts).view username = desk.view username := by
    rw [(view_after hkept).1, lockoutLimiter.fails_of_locked hlocked]
    intro now hnow
    obtain ⟨login, hlogin, rfl⟩ := List.mem_map.mp ((failTimes_sublist _ _ _ _ _).subset hnow)
    exact lt_of_le_of_lt (hsorted login hlogin) hsoon
  obtain ⟨-, hanswer⟩ := attempt_failed hfailed
  rw [hsame] at hanswer
  obtain ⟨hfail, -⟩ | ⟨-, -, hrefused⟩ := hanswer
  · simp [WindowLimiter.fail, hlocked, hsoon] at hfail
  · exact hrefused

variable (cfg verify) in
/-- After logins in order, the limiter of every name is sound for the logins that follow. -/
theorem sound_of_sorted (users : Users) {start more : List LoginAttempt}
    (hsorted : (start ++ more).Pairwise (·.now ≤ ·.now)) (username : String) :
    lockoutLimiter.Sound ((after cfg verify { users := users } start).view username) ∧
      ∀ login ∈ more, WindowLimiter.Before
        ((after cfg verify { users := users } start).view username) login.now := by
  have hempty (now : Time) : WindowLimiter.Before (view { users := users } username) now :=
    fun _ htime => by cases htime
  obtain ⟨hstart, -, hcross⟩ := List.pairwise_append.mp hsorted
  obtain ⟨hsound, hbefore⟩ := after_sound cfg verify
    (show lockoutLimiter.Sound (view { users := users } username) from lockoutLimiter.sound_empty)
    (fun _ _ => hempty _) hstart
  exact ⟨hsound, fun login hlogin => hbefore login.now (hempty _) fun earlier hearlier =>
    hcross earlier hearlier login hlogin⟩

/-- For every history of logins in order of time, the lockout holds for every spelling. -/
theorem lockout_by_spelling (cfg : AuthConfig) (verify : String → String → Bool) (users : Users)
    (attempts : List LoginAttempt) (hsorted : attempts.Pairwise (·.now ≤ ·.now)) :
    LockoutHolds (history cfg verify { users := users } attempts) := by
  constructor
  · intro username earlier window later hhistory hwindow hkept
    rw [List.append_assoc] at hhistory
    -- cut the logins where the history is cut
    obtain ⟨start, more, rfl, rfl, hmore⟩ := history_split hhistory
    obtain ⟨middle, rest, rfl, rfl, rfl⟩ := history_split hmore.symm
    obtain ⟨hsound, hbefore⟩ := sound_of_sorted cfg verify users hsorted username
    have hmiddle := (List.pairwise_append.mp (List.pairwise_append.mp hsorted).2.1).1
    exact few_recorded hsound (fun login hlogin => hbefore login (List.mem_append_left _ hlogin))
      hmiddle hwindow hkept
  · intro username earlier window fifth between next later hhistory hwindow hkept hfifth hfive
      hfailed hsoon
    have hparts : history cfg verify { users := users } attempts =
        earlier ++ ((window ++ [fifth]) ++ (between ++ next :: later)) := by
      rw [hhistory]
      simp only [List.append_assoc]
    obtain ⟨start, more, rfl, rfl, hmore⟩ := history_split hparts
    obtain ⟨seg, rest, rfl, hseg, hrest⟩ := history_split hmore.symm
    obtain ⟨middle, final, rfl, rfl, hfinal⟩ := history_split hseg.symm
    obtain ⟨five, none', rfl, rfl, hnone⟩ := history_cons hfinal.symm
    obtain ⟨gap, last, rfl, rfl, hlast⟩ := history_split hrest.symm
    obtain ⟨login, others, rfl, rfl, -⟩ := history_cons hlast.symm
    cases none' with
    | cons extra more => cases hnone
    | nil =>
        rw [hseg] at hwindow hfive hkept
        obtain ⟨hsound, hbefore⟩ := sound_of_sorted cfg verify users hsorted username
        have hafter := (List.pairwise_append.mp hsorted).2.1
        obtain ⟨hordered, hordered', -⟩ := List.pairwise_append.mp hafter
        have hlock := locked_after_five hsound
          (fun login hlogin => hbefore login (List.mem_append_left _ hlogin)) hordered hwindow
          (fun record hrecord => hkept record (List.mem_append_left _ hrecord)) hfifth hfive
        refine refused_of_locked hlock
          (fun record hrecord => hkept record (List.mem_append_right _ hrecord)) ?_ hsoon hfailed
        intro earlier hearlier
        exact (List.pairwise_append.mp hordered').2.2 earlier hearlier login List.mem_cons_self

end LoginDesk

section Guessing

local instance guessingText : PyText := asciiText

/-- One local account. -/
def guessedAccount : Users :=
  Dict.empty.set "u-1"
    { username := "alice", passwordHash := "Alice12345", role := .viewer, createdAt := "" }

/-- Five wrong passwords in five minutes, a sixth one under another spelling, and then the right
password. -/
def guessedThenKnown : List LoginAttempt :=
  [{ now := 0, username := "alice", password := "a" },
   { now := 60, username := "alice", password := "b" },
   { now := 120, username := "alice", password := "c" },
   { now := 180, username := "alice", password := "d" },
   { now := 240, username := "alice", password := "e" },
   { now := 270, username := "Alice", password := "f" },
   { now := 300, username := "alice", password := "Alice12345" }]

/-- Six wrong passwords, a little more than two and a half minutes apart. -/
def guessedSlowly : List LoginAttempt :=
  [{ now := 0, username := "alice", password := "a" },
   { now := 151, username := "alice", password := "b" },
   { now := 302, username := "alice", password := "c" },
   { now := 453, username := "alice", password := "d" },
   { now := 604, username := "alice", password := "e" },
   { now := 755, username := "alice", password := "f" }]

theorem guessedThenKnown_sorted : guessedThenKnown.Pairwise (·.now ≤ ·.now) := by
  unfold guessedThenKnown
  decide

theorem lockout_by_spelling_guessed :
    guessedThenKnown.Pairwise (·.now ≤ ·.now) ∧
      LockoutHolds (LoginDesk.history {} (· == ·) { users := guessedAccount } guessedThenKnown) :=
  ⟨guessedThenKnown_sorted,
    LoginDesk.lockout_by_spelling {} (· == ·) guessedAccount guessedThenKnown
      guessedThenKnown_sorted⟩

/-- After five failures in five minutes, a sixth wrong password is checked under another
spelling, and the right one logs in. Slow guesses are never stopped: after six of them there
still is no lock. -/
theorem lockout_not_by_account :
    (LoginDesk.history {} (· == ·) { users := guessedAccount } guessedThenKnown).map
        LoginRecord.error = List.replicate 6 (some wrongCredentials) ++ [none] ∧
    (LoginDesk.history {} (· == ·) { users := guessedAccount } guessedSlowly).map
        LoginRecord.error = List.replicate 6 (some wrongCredentials) ∧
    (LoginDesk.after {} (· == ·) { users := guessedAccount } guessedSlowly).lockout.getLockoutUntil
        "alice" = none := by
  with_unfolding_all decide

end Guessing

end IsePortal
