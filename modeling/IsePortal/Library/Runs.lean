import Mathlib.Logic.Basic

/-!
# Runs of partial labelled steps

A system is a function `step : σ → α → Option σ`: in state `s` the label `a` is either
impossible (`none`) or leads to one next state. `run` performs a list of labels, `Always`
says that a property holds in every state a run passes, and `Guarded` says that every step
a run really takes meets a condition on the state before it. `always_iff_guarded` is the
rule used for defects: when each step keeps the property exactly under the condition, a run
keeps it throughout exactly when all its steps meet the condition.
-/

namespace IsePortal.Library

universe u v

variable {σ : Type u} {α : Type v}

/-- Perform the labels in order; an impossible label stops the run. -/
def run (step : σ → α → Option σ) : σ → List α → Option σ
  | state, [] => some state
  | state, label :: rest =>
      match step state label with
      | none => none
      | some next => run step next rest

/-- The property holds in every state the run passes, up to the first impossible label. -/
def Always (step : σ → α → Option σ) (P : σ → Prop) : σ → List α → Prop
  | state, [] => P state
  | state, label :: rest =>
      P state ∧
        match step state label with
        | none => True
        | some next => Always step P next rest

/-- Every step the run takes meets the condition in the state before it. -/
def Guarded (step : σ → α → Option σ) (good : σ → α → Prop) : σ → List α → Prop
  | _, [] => True
  | state, label :: rest =>
      match step state label with
      | none => True
      | some next => good state label ∧ Guarded step good next rest

variable {step : σ → α → Option σ}

instance decidableGuarded {good : σ → α → Prop} [∀ state label, Decidable (good state label)] :
    (state : σ) → (labels : List α) → Decidable (Guarded step good state labels)
  | _, [] => .isTrue trivial
  | state, label :: rest =>
      match h : step state label with
      | none => .isTrue (by simp [Guarded, h])
      | some next =>
          have : Decidable (Guarded step good next rest) := decidableGuarded next rest
          decidable_of_iff (good state label ∧ Guarded step good next rest) (by simp [Guarded, h])

/-- A completed run of a nonempty list starts with a possible step. -/
theorem run_cons_some {state final : σ} {label : α} {rest : List α}
    (h : run step state (label :: rest) = some final) :
    ∃ next, step state label = some next ∧ run step next rest = some final := by
  simp only [run] at h
  cases hs : step state label with
  | none => simp [hs] at h
  | some next => exact ⟨next, rfl, by simpa [hs] using h⟩

theorem run_append (state : σ) (first second : List α) :
    run step state (first ++ second) =
      (run step state first).bind fun middle => run step middle second := by
  induction first generalizing state with
  | nil => rfl
  | cons label rest ih =>
      rw [List.cons_append, run, run]
      cases step state label with
      | none => rfl
      | some next => exact ih next

theorem Always.head {P : σ → Prop} {state : σ} {labels : List α}
    (h : Always step P state labels) : P state := by
  cases labels with
  | nil => exact h
  | cons label rest => exact h.1

theorem Always.mono {P Q : σ → Prop} (himp : ∀ state, P state → Q state) {state : σ}
    {labels : List α} (h : Always step P state labels) : Always step Q state labels := by
  induction labels generalizing state with
  | nil => exact himp state h
  | cons label rest ih =>
      refine ⟨himp state h.1, ?_⟩
      have hrest := h.2
      cases hs : step state label with
      | none => trivial
      | some next =>
          rw [hs] at hrest
          exact ih hrest

/-- A property that holds throughout a run holds at its end. -/
theorem Always.last {P : σ → Prop} {state final : σ} {labels : List α}
    (h : Always step P state labels) (hrun : run step state labels = some final) : P final := by
  induction labels generalizing state with
  | nil =>
      cases hrun
      exact h
  | cons label rest ih =>
      obtain ⟨next, hs, hrest⟩ := run_cons_some hrun
      simp only [Always, hs] at h
      exact ih h.2 hrest

/-- A condition on the labels alone. -/
theorem guarded_of_forall {good : α → Prop} {state : σ} {labels : List α}
    (hgood : ∀ label ∈ labels, good label) : Guarded step (fun _ => good) state labels := by
  induction labels generalizing state with
  | nil => trivial
  | cons label rest ih =>
      simp only [Guarded]
      cases step state label with
      | none => trivial
      | some next =>
          exact ⟨hgood label List.mem_cons_self,
            ih fun other hother => hgood other (List.mem_cons_of_mem _ hother)⟩

/-- A property kept by every step that meets the condition holds throughout every run whose
steps all meet it. -/
theorem always_of_guarded {P : σ → Prop} {good : σ → α → Prop}
    (hstep : ∀ s a t, step s a = some t → good s a → P s → P t)
    {state : σ} {labels : List α} (hgood : Guarded step good state labels)
    (hstart : P state) : Always step P state labels := by
  induction labels generalizing state with
  | nil => exact hstart
  | cons label rest ih =>
      refine ⟨hstart, ?_⟩
      cases hs : step state label with
      | none => trivial
      | some next =>
          simp only [Guarded, hs] at hgood
          exact ih hgood.2 (hstep _ _ _ hs hgood.1 hstart)

/-- What every step that meets a condition shows along an invariant, all steps of a run show when
they meet the condition. -/
theorem guarded_of_guarded {I : σ → Prop} {good shown : σ → α → Prop}
    (hstep : ∀ s a t, step s a = some t → I s → good s a → I t ∧ shown s a)
    {state : σ} {labels : List α} (hgood : Guarded step good state labels) (hstart : I state) :
    Guarded step shown state labels := by
  induction labels generalizing state with
  | nil => trivial
  | cons label rest ih =>
      simp only [Guarded] at hgood ⊢
      cases hs : step state label with
      | none => trivial
      | some next =>
          rw [hs] at hgood
          obtain ⟨hnext, hshown⟩ := hstep _ _ _ hs hstart hgood.1
          exact ⟨hshown, ih hgood.2 hnext⟩

/-- When the invariant survives every step that meets the condition, and along it a step shows
something exactly under the condition, all steps of a run show it exactly when all meet the
condition. -/
theorem guarded_iff {I : σ → Prop} {shown good : σ → α → Prop}
    (hinv : ∀ s a t, step s a = some t → I s → good s a → I t)
    (hstep : ∀ s a t, step s a = some t → I s → (shown s a ↔ good s a))
    {state : σ} {labels : List α} (hstart : I state) :
    Guarded step shown state labels ↔ Guarded step good state labels := by
  induction labels generalizing state with
  | nil => exact Iff.rfl
  | cons label rest ih =>
      simp only [Guarded]
      cases hs : step state label with
      | none => exact Iff.rfl
      | some next =>
          have hshown := hstep _ _ _ hs hstart
          constructor
          · rintro ⟨hlabel, hrest⟩
            have hgood := hshown.mp hlabel
            exact ⟨hgood, (ih (hinv _ _ _ hs hstart hgood)).mp hrest⟩
          · rintro ⟨hgood, hrest⟩
            exact ⟨hshown.mpr hgood, (ih (hinv _ _ _ hs hstart hgood)).mpr hrest⟩

/-- A property kept by every step holds throughout every run. -/
theorem always_of_step {P : σ → Prop} (hstep : ∀ s a t, step s a = some t → P s → P t)
    {state : σ} (labels : List α) (hstart : P state) : Always step P state labels := by
  induction labels generalizing state with
  | nil => exact hstart
  | cons label rest ih =>
      refine ⟨hstart, ?_⟩
      cases hs : step state label with
      | none => trivial
      | some next => exact ih (hstep _ _ _ hs hstart)

/-- When, along the invariant `I` and for labels of the kind `L`, a step from a state with the
property leads to one with it exactly under the condition, a run of such labels has the property
throughout exactly when all its steps meet the condition. -/
theorem always_iff_guarded_of_labels {I P : σ → Prop} {L : α → Prop} {good : σ → α → Prop}
    (hinv : ∀ s a t, L a → step s a = some t → I s → I t)
    (hstep : ∀ s a t, L a → step s a = some t → I s → P s → (P t ↔ good s a))
    {state : σ} {labels : List α} (hlabels : ∀ label ∈ labels, L label) (hI : I state)
    (hP : P state) : Always step P state labels ↔ Guarded step good state labels := by
  induction labels generalizing state with
  | nil => exact iff_of_true hP trivial
  | cons label rest ih =>
      have hlabel : L label := hlabels label List.mem_cons_self
      have hrest : ∀ other ∈ rest, L other := fun other hmem =>
        hlabels other (List.mem_cons_of_mem label hmem)
      simp only [Always, Guarded]
      cases hs : step state label with
      | none => exact iff_of_true ⟨hP, trivial⟩ trivial
      | some next =>
          have hI' := hinv _ _ _ hlabel hs hI
          have hP' := hstep _ _ _ hlabel hs hI hP
          constructor
          · intro h
            have hnext : P next := h.2.head
            exact ⟨hP'.mp hnext, (ih hrest hI' hnext).mp h.2⟩
          · intro h
            have hnext : P next := hP'.mpr h.1
            exact ⟨hP, (ih hrest hI' hnext).mpr h.2⟩

/-- When, along the invariant `I`, a step from a state with the property leads to one with
it exactly under the condition, a run has the property throughout exactly when all its steps
meet the condition. -/
theorem always_iff_guarded {I P : σ → Prop} {good : σ → α → Prop}
    (hinv : ∀ s a t, step s a = some t → I s → I t)
    (hstep : ∀ s a t, step s a = some t → I s → P s → (P t ↔ good s a))
    {state : σ} {labels : List α} (hI : I state) (hP : P state) :
    Always step P state labels ↔ Guarded step good state labels :=
  always_iff_guarded_of_labels (L := fun _ => True) (fun s a t _ hs => hinv s a t hs)
    (fun s a t _ hs => hstep s a t hs) (fun _ _ => trivial) hI hP

/-- Among the runs whose steps all meet a first condition: the invariant `I` holds up to the first
step that misses the second one, and a step leads to a state with the property exactly when it meets
the second. -/
theorem always_iff_guarded_of_given {I P : σ → Prop} {given good : σ → α → Prop}
    (hinv : ∀ s a t, step s a = some t → given s a → good s a → I s → I t)
    (hstep : ∀ s a t, step s a = some t → given s a → I s → P s → (P t ↔ good s a))
    {state : σ} {labels : List α} (hgiven : Guarded step given state labels) (hI : I state)
    (hP : P state) : Always step P state labels ↔ Guarded step good state labels := by
  induction labels generalizing state with
  | nil => exact iff_of_true hP trivial
  | cons label rest ih =>
      simp only [Always, Guarded] at hgiven ⊢
      cases hs : step state label with
      | none => exact iff_of_true ⟨hP, trivial⟩ trivial
      | some next =>
          rw [hs] at hgiven
          have hP' := hstep _ _ _ hs hgiven.1 hI hP
          constructor
          · intro h
            have hnext : P next := h.2.head
            have hgood := hP'.mp hnext
            exact ⟨hgood, (ih hgiven.2 (hinv _ _ _ hs hgiven.1 hgood hI) hnext).mp h.2⟩
          · intro h
            have hnext : P next := hP'.mpr h.1
            exact ⟨hP, (ih hgiven.2 (hinv _ _ _ hs hgiven.1 h.1 hI) hnext).mpr h.2⟩

/-- What is seen of the states is `P`, and what the run keeps is the stronger `Q`: a step from a
state with `Q` keeps it under the condition, and shows `P` under the condition only. -/
theorem always_iff_guarded_of_stronger {P Q : σ → Prop} {good : σ → α → Prop}
    (hweaker : ∀ s, Q s → P s)
    (hkeeps : ∀ s a t, step s a = some t → Q s → good s a → Q t)
    (hshows : ∀ s a t, step s a = some t → Q s → P t → good s a)
    {state : σ} {labels : List α} (hQ : Q state) :
    Always step P state labels ↔ Guarded step good state labels := by
  constructor
  · intro hP
    induction labels generalizing state with
    | nil => trivial
    | cons label rest ih =>
        have hrest := hP.2
        simp only [Guarded]
        cases hs : step state label with
        | none => trivial
        | some next =>
            rw [hs] at hrest
            have hgood := hshows _ _ _ hs hQ hrest.head
            exact ⟨hgood, ih (hkeeps _ _ _ hs hQ hgood) hrest⟩
  · intro hgood
    exact (always_of_guarded (fun s a t hs hg hq => hkeeps s a t hs hq hg) hgood hQ).mono hweaker

/-- A system that keeps more than another beside its steps: a condition on what they share is met
by the runs of both alike. -/
theorem guarded_image_iff {τ : Type*} {view : τ → σ} {fuller : τ → α → Option τ}
    (good : σ → α → Prop) (hview : ∀ t a, (fuller t a).map view = step (view t) a) (state : τ)
    (labels : List α) :
    Guarded fuller (fun t a => good (view t) a) state labels ↔
      Guarded step good (view state) labels := by
  induction labels generalizing state with
  | nil => exact Iff.rfl
  | cons label rest ih =>
      simp only [Guarded]
      rw [← hview state label]
      cases fuller state label with
      | none => exact Iff.rfl
      | some next => exact and_congr_right fun _ => ih next

end IsePortal.Library
