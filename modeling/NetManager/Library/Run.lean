/-
This file gives the rules for runs of a deterministic state machine. A run folds
the step function over a list of actions. An invariant that every step keeps
holds at the end of every run; and when one step keeps a property exactly under
a guard, a run keeps it at every moment exactly when each of its steps meets the
guard at the state it is taken from.
-/

import Mathlib.Logic.Basic
import Mathlib.Data.List.Basic

namespace Library

section Run

variable {State Action : Type*} (step : State → Action → State)

/-! ### Runs -/

/-- The state after a list of actions. -/
def run (state : State) (actions : List Action) : State := actions.foldl step state

@[simp] theorem run_nil (state : State) : run step state [] = state := rfl

@[simp] theorem run_cons (state : State) (action : Action) (rest : List Action) :
    run step state (action :: rest) = run step (step state action) rest := rfl

theorem run_append (state : State) (first second : List Action) :
    run step state (first ++ second) = run step (run step state first) second :=
  List.foldl_append

theorem run_concat (state : State) (actions : List Action) (action : Action) :
    run step state (actions ++ [action]) = step (run step state actions) action := by
  rw [run_append, run_cons, run_nil]

/-! ### Invariants -/

/-- What every step keeps holds at the end of every run. -/
theorem run_invariant (Invariant : State → Prop)
    (preserved : ∀ state action, Invariant state → Invariant (step state action))
    {state : State} (initial : Invariant state) (actions : List Action) :
    Invariant (run step state actions) := by
  induction actions generalizing state with
  | nil => exact initial
  | cons action rest inductionHypothesis =>
    exact inductionHypothesis (preserved state action initial)

/-- When reading a state commutes with every step, it commutes with every run. -/
theorem run_reading {Image : Type*} (image : State → Image) (imageStep : Image → Action → Image)
    (commutes : ∀ state action, image (step state action) = imageStep (image state) action)
    (state : State) (actions : List Action) :
    image (run step state actions) = run imageStep (image state) actions := by
  induction actions generalizing state with
  | nil => rfl
  | cons action rest inductionHypothesis =>
    rw [run_cons, run_cons, inductionHypothesis, commutes]

/-- A machine whose events are heard as steps of another one, or as nothing, runs as the other one
does with what is heard. -/
theorem run_filterMap {Event : Type*} (hear : Event → Option Action)
    (receive : State → Event → State) {events : List Event}
    (receives : ∀ event ∈ events, ∀ state,
      receive state event = (hear event).elim state (step state)) (state : State) :
    run receive state events = run step state (events.filterMap hear) := by
  induction events generalizing state with
  | nil => rfl
  | cons event rest inductionHypothesis =>
    obtain ⟨receivesEvent, receivesRest⟩ := List.forall_mem_cons.mp receives
    rw [run_cons, inductionHypothesis receivesRest, receivesEvent]
    cases heard : hear event with
    | none => rw [List.filterMap_cons_none heard, Option.elim_none]
    | some action => rw [List.filterMap_cons_some heard, run_cons, Option.elim_some]

/-! ### Properties of every moment of a run -/

/-- The property holds in every state the run passes through. -/
def Always (property : State → Prop) (state : State) (actions : List Action) : Prop :=
  ∀ before after, actions = before ++ after → property (run step state before)

/-- Every action of the run meets the guard at the state it is taken from. -/
def Guarded (guard : State → Action → Prop) (state : State) (actions : List Action) : Prop :=
  ∀ before action after, actions = before ++ action :: after →
    guard (run step state before) action

theorem always_nil (property : State → Prop) (state : State) :
    Always step property state [] ↔ property state := by
  constructor
  · intro always
    exact always [] [] rfl
  · intro holds before after split
    rw [(List.append_eq_nil_iff.mp split.symm).1]
    exact holds

theorem always_cons (property : State → Prop) (state : State) (action : Action)
    (rest : List Action) :
    Always step property state (action :: rest) ↔
      property state ∧ Always step property (step state action) rest := by
  constructor
  · intro always
    refine ⟨always [] (action :: rest) rfl, fun before after split => ?_⟩
    exact always (action :: before) after (by rw [split, List.cons_append])
  · rintro ⟨head, tail⟩ before after split
    cases before with
    | nil => exact head
    | cons first before =>
      rw [List.cons_append, List.cons.injEq] at split
      rw [run_cons, ← split.1]
      exact tail before after split.2

theorem guarded_nil (guard : State → Action → Prop) (state : State) :
    Guarded step guard state [] := by
  intro before action after split
  exact absurd split (by simp)

theorem guarded_cons (guard : State → Action → Prop) (state : State) (action : Action)
    (rest : List Action) :
    Guarded step guard state (action :: rest) ↔
      guard state action ∧ Guarded step guard (step state action) rest := by
  constructor
  · intro guarded
    refine ⟨guarded [] action rest rfl, fun before next after split => ?_⟩
    exact guarded (action :: before) next after (by rw [split, List.cons_append])
  · rintro ⟨head, tail⟩ before next after split
    cases before with
    | nil =>
      rw [List.nil_append, List.cons.injEq] at split
      rw [← split.1]
      exact head
    | cons first before =>
      rw [List.cons_append, List.cons.injEq] at split
      rw [run_cons, ← split.1]
      exact tail before next after split.2

/-- When reading a state commutes with every step, a property of what is read always holds exactly
when it always holds of the run of what is read. -/
theorem always_reading {Image : Type*} (image : State → Image) (imageStep : Image → Action → Image)
    (commutes : ∀ state action, image (step state action) = imageStep (image state) action)
    (property : Image → Prop) (state : State) (actions : List Action) :
    Always step (fun state => property (image state)) state actions ↔
      Always imageStep property (image state) actions := by
  unfold Always
  simp only [run_reading step image imageStep commutes]

/-- So it is with guards. -/
theorem guarded_reading {Image : Type*} (image : State → Image)
    (imageStep : Image → Action → Image)
    (commutes : ∀ state action, image (step state action) = imageStep (image state) action)
    (guard : Image → Action → Prop) (state : State) (actions : List Action) :
    Guarded step (fun state => guard (image state)) state actions ↔
      Guarded imageStep guard (image state) actions := by
  unfold Guarded
  simp only [run_reading step image imageStep commutes]

/-- A property holds at every moment of a run that is made of two runs exactly when it does at
every moment of both. -/
theorem always_append (property : State → Prop) (state : State) (first second : List Action) :
    Always step property state (first ++ second) ↔
      Always step property state first ∧ Always step property (run step state first) second := by
  induction first generalizing state with
  | nil =>
    rw [List.nil_append, always_nil, run_nil]
    exact (and_iff_right_of_imp fun always => always [] second rfl).symm
  | cons action rest inductionHypothesis =>
    rw [List.cons_append, always_cons, always_cons, inductionHypothesis, run_cons, and_assoc]

/-- A run that is made of two runs meets the guard exactly when both do. -/
theorem guarded_append (guard : State → Action → Prop) (state : State)
    (first second : List Action) :
    Guarded step guard state (first ++ second) ↔
      Guarded step guard state first ∧ Guarded step guard (run step state first) second := by
  induction first generalizing state with
  | nil =>
    rw [List.nil_append, run_nil]
    exact (and_iff_right (guarded_nil step guard state)).symm
  | cons action rest inductionHypothesis =>
    rw [List.cons_append, guarded_cons, guarded_cons, inductionHypothesis, run_cons, and_assoc]

/-- A property that no step brings back once it is lost holds at every moment of a run exactly
when it holds at the end. -/
theorem always_iff_run {Invariant property : State → Prop}
    (preserved : ∀ state action, Invariant state → Invariant (step state action))
    (kept : ∀ state action, Invariant state → property (step state action) → property state)
    {state : State} (invariant : Invariant state) (actions : List Action) :
    Always step property state actions ↔ property (run step state actions) := by
  induction actions generalizing state with
  | nil => exact always_nil step property state
  | cons action rest inductionHypothesis =>
    have next := preserved state action invariant
    rw [always_cons, inductionHypothesis next, run_cons]
    refine and_iff_right_of_imp fun atEnd => kept state action invariant ?_
    exact ((inductionHypothesis next).mpr atEnd) [] rest rfl

/-- The moment after a step of the run. -/
theorem Always.after {property : State → Prop} {state : State} {before after : List Action}
    {action : Action} (always : Always step property state (before ++ action :: after)) :
    property (step (run step state before) action) := by
  have next := always (before ++ [action]) after (by rw [List.append_assoc]; rfl)
  rwa [run_concat] at next

/-- When a step taken from a good state under the guard stays good, a run whose steps all meet
the guard is good at every moment. -/
theorem always_of_guarded {Invariant property : State → Prop} {guard : State → Action → Prop}
    (preserved : ∀ state action, Invariant state → Invariant (step state action))
    (stays : ∀ state action, Invariant state → property state → guard state action →
      property (step state action))
    {state : State} (invariant : Invariant state) (initial : property state)
    {actions : List Action} (guarded : Guarded step guard state actions) :
    Always step property state actions := by
  induction actions generalizing state with
  | nil => exact (always_nil step property state).mpr initial
  | cons action rest inductionHypothesis =>
    obtain ⟨head, tail⟩ := (guarded_cons step guard state action rest).mp guarded
    exact (always_cons step property state action rest).mpr ⟨initial,
      inductionHypothesis (preserved state action invariant)
        (stays state action invariant initial head) tail⟩

/-- When the property after a step shows that the step met the guard, and a guarded step keeps the
invariant, a run on which the property always holds is guarded. -/
theorem guarded_of_always (Invariant : State → Prop) {property : State → Prop}
    {guard : State → Action → Prop}
    (preserved : ∀ state action, Invariant state → guard state action →
      Invariant (step state action))
    (shows : ∀ state action, Invariant state → property (step state action) →
      guard state action)
    {state : State} (invariant : Invariant state) {actions : List Action}
    (always : Always step property state actions) : Guarded step guard state actions := by
  induction actions generalizing state with
  | nil => exact guarded_nil step guard state
  | cons action rest inductionHypothesis =>
    obtain ⟨_, tail⟩ := (always_cons step property state action rest).mp always
    have met := shows state action invariant (tail [] rest rfl)
    exact (guarded_cons step guard state action rest).mpr
      ⟨met, inductionHypothesis (preserved state action invariant met) tail⟩

/-- On runs of allowed steps: when a step taken from a good state stays good exactly under the
guard, a run stays good at every moment exactly when every step of it meets the guard. -/
theorem always_iff_guarded_of_allowed {Invariant property : State → Prop}
    {allowed guard : State → Action → Prop}
    (preserved : ∀ state action, Invariant state → allowed state action →
      Invariant (step state action))
    (exact_step : ∀ state action, Invariant state → allowed state action → property state →
      (property (step state action) ↔ guard state action))
    {state : State} (invariant : Invariant state) (initial : property state)
    {actions : List Action} (allAllowed : Guarded step allowed state actions) :
    Always step property state actions ↔ Guarded step guard state actions := by
  induction actions generalizing state with
  | nil =>
    exact iff_of_true ((always_nil step property state).mpr initial)
      (guarded_nil step guard state)
  | cons action rest inductionHypothesis =>
    obtain ⟨head, tail⟩ := (guarded_cons step allowed state action rest).mp allAllowed
    have exactHead := exact_step state action invariant head initial
    have kept := preserved state action invariant head
    rw [always_cons, guarded_cons, and_iff_right initial, ← exactHead]
    constructor
    · intro always
      have next := always [] rest rfl
      exact ⟨next, (inductionHypothesis kept next tail).mp always⟩
    · rintro ⟨next, guarded⟩
      exact (inductionHypothesis kept next tail).mpr guarded

/-- When a step taken from a good state stays good exactly under the guard, a run stays
good at every moment exactly when every step of it meets the guard. -/
theorem always_iff_guarded {Invariant property : State → Prop} {guard : State → Action → Prop}
    (preserved : ∀ state action, Invariant state → Invariant (step state action))
    (exact_step : ∀ state action, Invariant state → property state →
      (property (step state action) ↔ guard state action))
    {state : State} (invariant : Invariant state) (initial : property state)
    (actions : List Action) :
    Always step property state actions ↔ Guarded step guard state actions := by
  have allAllowed : Guarded step (fun _ _ => True) state actions := fun _ _ _ _ => trivial
  exact always_iff_guarded_of_allowed step
    (fun state action holds _ => preserved state action holds)
    (fun state action holds _ => exact_step state action holds) invariant initial allAllowed

end Run

end Library
