import Mathlib.Logic.Basic

/-!
# Calls that keep an invariant

A call reads and writes a state and returns a value or raises; what it has written stays written
when it raises. `Keeps I E call V` says that the call keeps the invariant `I` whichever way it
ends, returns only values of the kind `V` and raises only what is of the kind `E`. There is one
rule for each way to build a call, so a proof follows the text of the call. `Returns` is about one
run of a call that returns.
-/

namespace IsePortal.Library

universe u

variable {ε σ α β : Type u}

/-- From a state with the invariant, the call ends in one, with a value of the one kind or an
exception of the other. -/
def Keeps (I : σ → Prop) (E : ε → Prop) (call : EStateM ε σ α) (V : α → Prop) : Prop :=
  ∀ state, I state →
    match call.run state with
    | .ok value next => I next ∧ V value
    | .error raised next => I next ∧ E raised

/-- The state a call leaves. -/
def after (call : EStateM ε σ α) (state : σ) : σ :=
  match call.run state with
  | .ok _ next => next
  | .error _ next => next

/-- What the call raises. -/
def raises (call : EStateM ε σ α) (state : σ) : Option ε :=
  match call.run state with
  | .ok _ _ => none
  | .error raised _ => some raised

namespace Keeps

variable {I : σ → Prop} {E : ε → Prop} {V W : α → Prop} {U : β → Prop}

theorem pure {value : α} (h : V value) : Keeps I E (pure value) V :=
  fun _ hstate => ⟨hstate, h⟩

theorem throw {raised : ε} (h : E raised) : Keeps I E (throw raised) V :=
  fun _ hstate => ⟨hstate, h⟩

/-- What is loaded has the invariant. -/
theorem get : Keeps I E (MonadState.get : EStateM ε σ σ) I :=
  fun _ hstate => ⟨hstate, hstate⟩

/-- What is saved must have it. -/
theorem set {next : σ} (h : I next) : Keeps I E (MonadStateOf.set next) fun _ => True :=
  fun _ _ => ⟨h, trivial⟩

theorem bind {call : EStateM ε σ α} {rest : α → EStateM ε σ β} (hcall : Keeps I E call V)
    (hrest : ∀ value, V value → Keeps I E (rest value) U) : Keeps I E (call >>= rest) U := by
  intro state hstate
  have hfirst := hcall state hstate
  rw [EStateM.run_bind]
  cases hrun : call.run state with
  | error raised next =>
      rw [hrun] at hfirst
      exact hfirst
  | ok value next =>
      rw [hrun] at hfirst
      exact hrest value hfirst.2 next hfirst.1

theorem ite {condition : Prop} [Decidable condition] {yes no : EStateM ε σ α}
    (hyes : condition → Keeps I E yes V) (hno : ¬ condition → Keeps I E no V) :
    Keeps I E (if condition then yes else no) V := by
  split
  · next h => exact hyes h
  · next h => exact hno h

theorem mono {call : EStateM ε σ α} (h : Keeps I E call V) (himp : ∀ value, V value → W value) :
    Keeps I E call W := by
  intro state hstate
  have hcall := h state hstate
  cases hrun : call.run state with
  | error raised next =>
      rw [hrun] at hcall
      exact hcall
  | ok value next =>
      rw [hrun] at hcall
      exact ⟨hcall.1, himp value hcall.2⟩

theorem after {call : EStateM ε σ α} (h : Keeps I E call V) {state : σ} (hstate : I state) :
    I (Library.after call state) := by
  have hcall := h state hstate
  unfold Library.after
  cases hrun : call.run state with
  | ok value next =>
      rw [hrun] at hcall
      exact hcall.1
  | error raised next =>
      rw [hrun] at hcall
      exact hcall.1

theorem raises {call : EStateM ε σ α} (h : Keeps I E call V) {state : σ} (hstate : I state)
    {raised : ε} (hraised : Library.raises call state = some raised) : E raised := by
  have hcall := h state hstate
  unfold Library.raises at hraised
  cases hrun : call.run state with
  | ok value next =>
      rw [hrun] at hraised
      cases hraised
  | error fault next =>
      rw [hrun] at hraised hcall
      cases hraised
      exact hcall.2

end Keeps

/-! ## One run -/

/-- From the state, the call returns, with a value and a state that meet the condition. -/
def Returns (call : EStateM ε σ α) (state : σ) (post : α → σ → Prop) : Prop :=
  ∃ value next, call.run state = .ok value next ∧ post value next

section Runs

variable {call : EStateM ε σ α} {rest : α → EStateM ε σ β} {state next : σ} {value : α}

theorem run_bind_ok (h : call.run state = .ok value next) :
    (call >>= rest).run state = (rest value).run next := by
  rw [EStateM.run_bind, h]

theorem run_bind_error {raised : ε} (h : call.run state = .error raised next) :
    (call >>= rest).run state = .error raised next := by
  rw [EStateM.run_bind, h]

theorem Returns.of_run {post : α → σ → Prop} (h : call.run state = .ok value next)
    (hpost : post value next) : Returns call state post :=
  ⟨value, next, h, hpost⟩

theorem Returns.bind {post : β → σ → Prop} (h : call.run state = .ok value next)
    (hrest : Returns (rest value) next post) : Returns (call >>= rest) state post := by
  obtain ⟨result, last, hrun, hpost⟩ := hrest
  exact ⟨result, last, (run_bind_ok h).trans hrun, hpost⟩

end Runs

theorem after_bind_ok {call : EStateM ε σ α} {rest : α → EStateM ε σ β} {state next : σ} {value : α}
    (h : call.run state = .ok value next) :
    after (call >>= rest) state = after (rest value) next := by
  unfold after
  rw [run_bind_ok h]

/-- What follows a call without writing leaves the state of the call. -/
theorem after_bind_of_reads {call : EStateM ε σ α} {rest : α → EStateM ε σ β}
    (hreads : ∀ value next, after (rest value) next = next) (state : σ) :
    after (call >>= rest) state = after call state := by
  cases hrun : call.run state with
  | ok value next => rw [after_bind_ok hrun, hreads, after, hrun]
  | error raised next => rw [after, run_bind_error hrun, after, hrun]

/-! ## Calls that fail before they write -/

/-- From the state, the call raises and leaves the state as it is. -/
def FailsAt (call : EStateM ε σ α) (state : σ) : Prop :=
  ∃ raised, call.run state = .error raised state

namespace FailsAt

variable {call : EStateM ε σ α} {rest : α → EStateM ε σ β} {state : σ} {value : α}

theorem throw (raised : ε) : FailsAt (throw raised : EStateM ε σ α) state := ⟨raised, rfl⟩

/-- What follows a failing call is not reached. -/
theorem first (h : FailsAt call state) : FailsAt (call >>= rest) state := by
  obtain ⟨raised, hrun⟩ := h
  exact ⟨raised, run_bind_error hrun⟩

/-- A call that only reads is followed by one that fails. -/
theorem next (h : call.run state = .ok value state) (hrest : FailsAt (rest value) state) :
    FailsAt (call >>= rest) state := by
  obtain ⟨raised, hrun⟩ := hrest
  exact ⟨raised, (run_bind_ok h).trans hrun⟩

theorem ite {condition : Prop} [Decidable condition] {yes no : EStateM ε σ α}
    (hyes : condition → FailsAt yes state) (hno : ¬ condition → FailsAt no state) :
    FailsAt (if condition then yes else no) state := by
  split
  · next h => exact hyes h
  · next h => exact hno h

theorem after_eq (h : FailsAt call state) : after call state = state := by
  obtain ⟨raised, hrun⟩ := h
  rw [after, hrun]

theorem exists_raises (h : FailsAt call state) : ∃ raised, raises call state = some raised := by
  obtain ⟨raised, hrun⟩ := h
  exact ⟨raised, by rw [raises, hrun]⟩

end FailsAt

end IsePortal.Library
