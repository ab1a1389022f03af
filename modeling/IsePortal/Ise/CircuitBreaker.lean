import IsePortal.Library.Dict
import IsePortal.Library.Runs
import IsePortal.Platform.Text
import Mathlib.Algebra.Order.Ring.Rat
import Mathlib.Tactic.Linarith

/-!
# The circuit breaker

`CircuitBreaker` (`app/ise/circuit_breaker.py`) and the requests of `_request_on`
(`app/ise/client.py`) that ask it before they are sent and tell it how they ended. A request
waits for the host without holding anything, so requests overlap freely. Two of the ends tell the
breaker nothing: an exception that is no `TransportError`, and the cancellation of the task.
-/

namespace IsePortal

open Library

/-- `CLOSED`, `OPEN` and `HALF_OPEN` -/
inductive CircuitState where
  | closed
  | opened
  | halfOpen
  deriving DecidableEq

/-- What a breaker and its client are set up with. -/
structure BreakerConfig where
  threshold : Nat
  recoveryTimeout : Time
  retryAttempts : Nat

/-- The settings as the constructors clamp them. -/
def breakerConfig (failureThreshold : Int) (recoveryTimeout : Time) (retryAttempts : Int) :
    BreakerConfig where
  threshold := (max 1 failureThreshold).toNat
  recoveryTimeout := max 1 recoveryTimeout
  retryAttempts := (max 1 retryAttempts).toNat

/-- `CircuitBreaker` -/
structure CircuitBreaker where
  state : CircuitState := .closed
  failures : Nat := 0
  openedAt : Time := 0
  deriving DecidableEq

namespace CircuitBreaker

/-- `is_open`: whether a request is blocked, and the breaker afterwards. -/
def isOpen (cfg : BreakerConfig) (now : Time) (cb : CircuitBreaker) : Bool × CircuitBreaker :=
  match cb.state with
  | .closed => (false, cb)
  | .halfOpen => (true, cb)
  | .opened =>
      if now - cb.openedAt ≥ cfg.recoveryTimeout then (false, { cb with state := .halfOpen })
      else (true, cb)

/-- `record_success` -/
def recordSuccess (_ : CircuitBreaker) : CircuitBreaker := {}

/-- `record_failure` -/
def recordFailure (cfg : BreakerConfig) (now : Time) (cb : CircuitBreaker) : CircuitBreaker :=
  if cb.failures + 1 ≥ cfg.threshold ∨ cb.state = .halfOpen then
    { state := .opened, failures := cb.failures + 1, openedAt := now }
  else { cb with failures := cb.failures + 1 }

end CircuitBreaker

/-- How a request that was sent ends. `transportError` is one after the last attempt. -/
inductive RequestEnd where
  | response (status : Nat)
  | transportError
  | raised
  | cancelled
  deriving DecidableEq

/-- `300 <= status < 400` -/
def isRedirect (status : Nat) : Bool := 300 ≤ status ∧ status < 400

/-- Whether the end of a request tells the breaker anything. -/
def RequestEnd.recorded : RequestEnd → Bool
  | .response _ => true
  | .transportError => true
  | .raised => false
  | .cancelled => false

/-- Whether it counts as a failure. A 401 does, and a redirect, but no other status. -/
def RequestEnd.fails : RequestEnd → Bool
  | .response status => status = 401 || isRedirect status
  | .transportError => true
  | .raised => false
  | .cancelled => false

/-- What the end of a request does to the breaker. -/
def CircuitBreaker.settle (cfg : BreakerConfig) (now : Time) (cb : CircuitBreaker)
    (requestEnd : RequestEnd) : CircuitBreaker :=
  if requestEnd.fails then cb.recordFailure cfg now
  else if requestEnd.recorded then cb.recordSuccess
  else cb

namespace CircuitBreaker

variable {cfg : BreakerConfig} {now : Time} {cb : CircuitBreaker}

/-- A failure never leaves the breaker half open. -/
theorem recordFailure_state (cfg : BreakerConfig) (now : Time) (cb : CircuitBreaker) :
    (cb.recordFailure cfg now).state = .opened ∨
      ((cb.recordFailure cfg now).state = cb.state ∧ cb.state ≠ .halfOpen) := by
  unfold recordFailure
  split
  · exact Or.inl rfl
  · rename_i hstays
    rw [not_or] at hstays
    exact Or.inr ⟨rfl, hstays.2⟩

theorem recordFailure_ne_halfOpen (cfg : BreakerConfig) (now : Time) (cb : CircuitBreaker) :
    (cb.recordFailure cfg now).state ≠ .halfOpen := by
  rcases recordFailure_state cfg now cb with h | ⟨h, hne⟩
  · rw [h]
    decide
  · rw [h]
    exact hne

/-- A recorded end takes the breaker out of `HALF_OPEN`. -/
theorem settle_ne_halfOpen {requestEnd : RequestEnd} (hrecorded : requestEnd.recorded = true) :
    (cb.settle cfg now requestEnd).state ≠ .halfOpen := by
  simp only [settle, hrecorded, if_true]
  split
  · exact recordFailure_ne_halfOpen cfg now cb
  · exact CircuitState.noConfusion

/-- Any other end leaves it as it is. -/
theorem settle_of_not_recorded {requestEnd : RequestEnd} (h : requestEnd.recorded = false) :
    cb.settle cfg now requestEnd = cb := by
  cases requestEnd with
  | response status => cases h
  | transportError => cases h
  | raised => rfl
  | cancelled => rfl

/-- A request that is let through was sent to a closed breaker, or half opens one that was
opened at least the recovery time ago. -/
theorem isOpen_admits {next : CircuitBreaker} (h : cb.isOpen cfg now = (false, next)) :
    (cb.state = .closed ∧ next = cb) ∨
      (cb.state = .opened ∧ cb.openedAt + cfg.recoveryTimeout ≤ now ∧
        next = { cb with state := .halfOpen }) := by
  unfold isOpen at h
  split at h
  · rename_i hstate
    cases h
    exact Or.inl ⟨hstate, rfl⟩
  · cases h
  · rename_i hstate
    split at h
    · rename_i hwaited
      cases h
      exact Or.inr ⟨hstate, by linarith, rfl⟩
    · cases h

/-- A blocked request leaves the breaker as it is. -/
theorem isOpen_blocks {next : CircuitBreaker} (h : cb.isOpen cfg now = (true, next)) :
    next = cb := by
  unfold isOpen at h
  split at h
  · cases h
  · cases h
    rfl
  · split at h
    · cases h
    · cases h
      rfl

end CircuitBreaker

end IsePortal
