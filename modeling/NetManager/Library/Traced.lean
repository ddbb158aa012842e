/-
This file is about computations that read a memory they know only a part of. A computation records
its accesses and gives up when it reads where nothing is stored. It is safe when all its accesses
are inside the part it knows and it returns; a sequence is safe exactly when its first computation
is and the second one is for what the first one returns.
-/

import Mathlib.Data.List.Basic
import Mathlib.Data.Option.Basic

namespace Library

/-- The accesses of a computation and what it returned, if it did. -/
structure Traced (Access Value : Type) where
  accesses : List Access
  result : Option Value

namespace Traced

variable {Access Value Next : Type}

/-- Access the memory. -/
def touch (access : Access) : Traced Access Unit := ⟨[access], some ()⟩

/-- Go on with a value that may not be there. -/
def require (value : Option Value) : Traced Access Value := ⟨[], value⟩

/-- The second computation starts when the first one has returned. -/
def andThen (first : Traced Access Value) (second : Value → Traced Access Next) :
    Traced Access Next :=
  match first.result with
  | none => ⟨first.accesses, none⟩
  | some value => ⟨first.accesses ++ (second value).accesses, (second value).result⟩

instance : Monad (Traced Access) where
  pure value := ⟨[], some value⟩
  bind := andThen

/-! ### Results -/

@[simp] theorem result_touch (access : Access) : (touch access).result = some () := rfl

@[simp] theorem result_bind (first : Traced Access Value) (second : Value → Traced Access Next) :
    (first >>= second).result = first.result.bind fun value => (second value).result := by
  show (andThen first second).result = _
  unfold andThen
  cases first.result with
  | none => rfl
  | some value => rfl

@[simp] theorem require_some_bind (value : Value) (second : Value → Traced Access Next) :
    (require (some value) >>= second) = second value := rfl

@[simp] theorem result_map (function : Value → Next) (this : Traced Access Value) :
    (function <$> this).result = this.result.map function := by
  show (andThen this fun value => pure (function value)).result = _
  unfold andThen
  cases this.result with
  | none => rfl
  | some value => rfl

@[simp] theorem pure_then (value : Value) (second : Value → Traced Access Next) :
    (pure value >>= second) = second value := rfl

/-- What is made of the result of a sequence is made of the result of its second computation. -/
theorem map_andThen {Last : Type} (function : Next → Last) (first : Traced Access Value)
    (second : Value → Traced Access Next) :
    function <$> (first >>= second) = first >>= fun value => function <$> second value := by
  show andThen (andThen first second) _ = andThen first fun value => andThen (second value) _
  unfold andThen
  cases first.result with
  | none => rfl
  | some value =>
    dsimp only
    cases (second value).result with
    | none => rfl
    | some next =>
      dsimp only
      rw [List.append_assoc]

/-- A loop that only appends what it makes of each item. -/
theorem foldlM_append {Item : Type} {body : List Value → Item → Traced Access (List Value)}
    {make : Item → List Value} {items : List Item}
    (appends : ∀ values, ∀ item ∈ items, body values item = pure (values ++ make item))
    (values : List Value) :
    items.foldlM body values = pure (values ++ items.flatMap make) := by
  induction items generalizing values with
  | nil =>
    rw [List.flatMap_nil, List.append_nil]
    rfl
  | cons item rest inductionHypothesis =>
    have later : ∀ values, ∀ other ∈ rest, body values other = pure (values ++ make other) :=
      fun values other member => appends values other (List.mem_cons_of_mem item member)
    rw [List.foldlM_cons, appends values item List.mem_cons_self, pure_then,
      inductionHypothesis later, List.flatMap_cons, List.append_assoc]

/-- A loop that pushes what it makes of each item. -/
theorem result_foldlM_push {Item : Type} {body : List Value → Item → Traced Access (List Value)}
    {make : Item → Value} {items : List Item}
    (pushes : ∀ values, ∀ item ∈ items, (body values item).result = some (values ++ [make item]))
    (values : List Value) :
    (items.foldlM body values).result = some (values ++ items.map make) := by
  induction items generalizing values with
  | nil =>
    rw [List.map_nil, List.append_nil]
    rfl
  | cons item rest inductionHypothesis =>
    have later : ∀ values, ∀ other ∈ rest,
        (body values other).result = some (values ++ [make other]) :=
      fun values other member => pushes values other (List.mem_cons_of_mem item member)
    rw [List.foldlM_cons, result_bind, pushes values item List.mem_cons_self, Option.bind_some,
      inductionHypothesis later, List.map_cons, List.append_assoc, List.singleton_append]

/-! ### Safety -/

/-- All accesses are inside, and the computation returns. -/
def Safe (Inside : Access → Prop) (this : Traced Access Value) : Prop :=
  (∀ access ∈ this.accesses, Inside access) ∧ ∃ value, this.result = some value

variable (Inside : Access → Prop)

@[simp] theorem safe_pure (value : Value) : (pure value : Traced Access Value).Safe Inside :=
  ⟨List.forall_mem_nil _, value, rfl⟩

@[simp] theorem safe_touch (access : Access) : (touch access).Safe Inside ↔ Inside access := by
  refine ⟨fun safe => List.forall_mem_singleton.mp safe.1, fun inside => ?_⟩
  exact ⟨List.forall_mem_singleton.mpr inside, (), rfl⟩

theorem safe_bind (first : Traced Access Value) (second : Value → Traced Access Next) :
    (first >>= second).Safe Inside ↔
      first.Safe Inside ∧ ∀ value, first.result = some value → (second value).Safe Inside := by
  show (andThen first second).Safe Inside ↔ _
  unfold andThen
  cases reached : first.result with
  | none =>
    refine iff_of_false ?_ ?_
    · rintro ⟨_, value, returned⟩
      cases returned
    · rintro ⟨⟨_, value, returned⟩, _⟩
      rw [reached] at returned
      cases returned
  | some value =>
    constructor
    · rintro ⟨accesses, returned⟩
      obtain ⟨before, after⟩ := List.forall_mem_append.mp accesses
      refine ⟨⟨before, value, reached⟩, fun other same => ?_⟩
      cases same
      exact ⟨after, returned⟩
    · rintro ⟨⟨before, _⟩, safe⟩
      obtain ⟨after, returned⟩ := safe value rfl
      exact ⟨List.forall_mem_append.mpr ⟨before, after⟩, returned⟩

/-- A sequence whose first computation returns a known value. -/
theorem safe_bind_of_result {first : Traced Access Value} {value : Value}
    (returned : first.result = some value) (second : Value → Traced Access Next) :
    (first >>= second).Safe Inside ↔ first.Safe Inside ∧ (second value).Safe Inside := by
  rw [safe_bind]
  refine and_congr_right fun _ => ⟨fun safe => safe value returned, fun safe other same => ?_⟩
  rw [returned, Option.some.injEq] at same
  exact same ▸ safe

theorem safe_map (function : Value → Next) (this : Traced Access Value) :
    (function <$> this).Safe Inside ↔ this.Safe Inside := by
  show (this >>= fun value => pure (function value)).Safe Inside ↔ _
  rw [safe_bind]
  exact and_iff_left fun _ _ => safe_pure Inside _

/-- Going on with a value is safe exactly when it is there. -/
theorem safe_require_bind (value : Option Value) (second : Value → Traced Access Next) :
    (require value >>= second).Safe Inside ↔
      ∃ present, value = some present ∧ (second present).Safe Inside := by
  cases value with
  | none =>
    refine iff_of_false ?_ ?_
    · rintro ⟨_, value, returned⟩
      cases returned
    · rintro ⟨_, absent, _⟩
      cases absent
  | some value =>
    rw [require_some_bind]
    exact ⟨fun safe => ⟨value, rfl, safe⟩, fun ⟨_, same, safe⟩ => Option.some.inj same ▸ safe⟩

theorem safe_touch_bind (access : Access) (second : Unit → Traced Access Next) :
    (touch access >>= second).Safe Inside ↔ Inside access ∧ (second ()).Safe Inside := by
  rw [safe_bind_of_result Inside (result_touch access), safe_touch]

/-- All accesses are inside, and the computation returns this value. -/
def Returns (this : Traced Access Value) (value : Value) : Prop :=
  (∀ access ∈ this.accesses, Inside access) ∧ this.result = some value

theorem returns_iff (this : Traced Access Value) (value : Value) :
    this.Returns Inside value ↔ this.Safe Inside ∧ this.result = some value := by
  constructor
  · rintro ⟨accesses, returned⟩
    exact ⟨⟨accesses, value, returned⟩, returned⟩
  · rintro ⟨safe, returned⟩
    exact ⟨safe.1, returned⟩

theorem returns_pure (value : Value) : (pure value : Traced Access Value).Returns Inside value :=
  ⟨List.forall_mem_nil _, rfl⟩

theorem Returns.bind {first : Traced Access Value} {value : Value} {next : Next}
    (returns : first.Returns Inside value) {second : Value → Traced Access Next}
    (goesOn : (second value).Returns Inside next) : (first >>= second).Returns Inside next := by
  rw [returns_iff] at returns goesOn ⊢
  refine ⟨(safe_bind_of_result Inside returns.2 second).mpr ⟨returns.1, goesOn.1⟩, ?_⟩
  rw [result_bind, returns.2]
  exact goesOn.2

theorem Returns.map {this : Traced Access Value} {value : Value}
    (returns : this.Returns Inside value) (function : Value → Next) :
    (function <$> this).Returns Inside (function value) :=
  returns.bind Inside (returns_pure Inside _)

/-- A loop is safe when its body is, for every item and in every state. -/
theorem safe_foldlM {Item State : Type} {body : State → Item → Traced Access State}
    {items : List Item} (safe : ∀ state, ∀ item ∈ items, (body state item).Safe Inside)
    (state : State) : (items.foldlM body state).Safe Inside := by
  induction items generalizing state with
  | nil => exact safe_pure Inside state
  | cons item rest inductionHypothesis =>
    rw [List.foldlM_cons, safe_bind]
    refine ⟨safe state item List.mem_cons_self, fun next _ => ?_⟩
    exact inductionHypothesis (fun state item member =>
      safe state item (List.mem_cons_of_mem _ member)) next

end Traced

end Library
