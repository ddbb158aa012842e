/-
This file is about things that are created, used and destroyed, each under a key of its own. When
nothing is created twice and only what exists is used and destroyed, what is done under a key is
one lifetime: its creation comes first, and after its destruction nothing comes any more.
-/

import Mathlib.Data.List.Induction
import Mathlib.Order.BooleanAlgebra.Set
import NetManager.Library.Run

namespace Library

variable {Key : Type}

/-- What is done to a thing. -/
inductive LifeEvent (Key : Type)
  | create (key : Key)
  | use (key : Key)
  | destroy (key : Key)
deriving DecidableEq

/-- The key of the thing it is done to. -/
def LifeEvent.key : LifeEvent Key → Key
  | .create key | .use key | .destroy key => key

/-- The keys that were used up, and those of what exists. -/
structure Population (Key : Type) where
  created : Set Key
  living : Set Key

namespace Population

/-- The population after an event. -/
def step (this : Population Key) : LifeEvent Key → Population Key
  | .create key => ⟨insert key this.created, insert key this.living⟩
  | .use _ => this
  | .destroy key => { this with living := this.living \ {key} }

/-- A new thing gets a new key, and what is used or destroyed exists. -/
def Allows (this : Population Key) : LifeEvent Key → Prop
  | .create key => key ∉ this.created
  | .use key | .destroy key => key ∈ this.living

/-- The events lead from one population to another, and each is allowed when it happens. -/
structure Leads (before : Population Key) (events : List (LifeEvent Key))
    (after : Population Key) : Prop where
  allowed : Guarded step Allows before events
  reaches : run step before events = after

variable {first second third : Population Key} {events more : List (LifeEvent Key)}

theorem Leads.refl (this : Population Key) : this.Leads [] this := ⟨guarded_nil _ _ _, rfl⟩

theorem Leads.trans (earlier : first.Leads events second) (later : second.Leads more third) :
    first.Leads (events ++ more) third := by
  obtain ⟨allowed, rfl⟩ := earlier
  exact ⟨(guarded_append step Allows first events more).mpr ⟨allowed, later.allowed⟩,
    (run_append step first events more).trans later.reaches⟩

theorem Leads.single {event : LifeEvent Key} (allowed : first.Allows event) :
    first.Leads [event] (first.step event) :=
  ⟨(guarded_cons _ _ _ _ _).mpr ⟨allowed, guarded_nil _ _ _⟩, rfl⟩

/-- The population with one more thing that exists. -/
def also (this : Population Key) (key : Key) : Population Key where
  created := this.created
  living := insert key this.living

theorem also_of_mem {key : Key} (lives : key ∈ first.living) : first.also key = first := by
  unfold also
  rw [Set.insert_eq_of_mem lives]

/-- What exists besides may be destroyed. -/
theorem Leads.destroy {key : Key} (absent : key ∉ first.living) :
    (first.also key).Leads [.destroy key] first := by
  have left : (first.also key).step (.destroy key) = first := by
    unfold step also
    dsimp only
    rw [Set.insert_sdiff_self_of_notMem absent]
  have allowed : (first.also key).Allows (.destroy key) := Set.mem_insert key first.living
  have leads := Leads.single allowed
  rwa [left] at leads

/-- What exists may be used again and again. -/
theorem Leads.uses (uses : ∀ event ∈ events, ∃ key ∈ first.living, event = .use key) :
    first.Leads events first := by
  induction events with
  | nil => exact .refl first
  | cons event rest inductionHypothesis =>
    obtain ⟨⟨key, lives, rfl⟩, others⟩ := List.forall_mem_cons.mp uses
    have allowed : first.Allows (.use key) := lives
    exact (Leads.single allowed).trans (inductionHypothesis others)

/-! ### Lifetimes -/

/-- What was done under a key: nothing as long as there was no such thing, and otherwise one
lifetime, which has an end when the thing does not exist any more. -/
inductive Lifetime (this : Population Key) (key : Key) : List (LifeEvent Key) → Prop
  | unborn (new : key ∉ this.created) (absent : key ∉ this.living) : Lifetime this key []
  | living (uses : Nat) (old : key ∈ this.created) (lives : key ∈ this.living) :
      Lifetime this key (.create key :: List.replicate uses (.use key))
  | gone (uses : Nat) (old : key ∈ this.created) (absent : key ∉ this.living) :
      Lifetime this key (.create key :: (List.replicate uses (.use key) ++ [.destroy key]))

/-- Nothing is done under a key that was not given out. -/
theorem Lifetime.created {key : Key} {log : List (LifeEvent Key)} {event : LifeEvent Key}
    (lifetime : first.Lifetime key log) (member : event ∈ log) : key ∈ first.created := by
  cases lifetime with
  | unborn _ _ => exact absurd member List.not_mem_nil
  | living _ old _ => exact old
  | gone _ old _ => exact old

/-- The lifetime of a key depends on what is known of this key. -/
theorem Lifetime.congr {key : Key} {log : List (LifeEvent Key)} (lifetime : first.Lifetime key log)
    (created : key ∈ second.created ↔ key ∈ first.created)
    (living : key ∈ second.living ↔ key ∈ first.living) : second.Lifetime key log := by
  cases lifetime with
  | unborn new absent => exact .unborn (mt created.mp new) (mt living.mp absent)
  | living uses old lives => exact .living uses (created.mpr old) (living.mpr lives)
  | gone uses old absent => exact .gone uses (created.mpr old) (mt living.mp absent)

/-- An allowed event continues the lifetime of its key. -/
theorem Lifetime.step {event : LifeEvent Key} {log : List (LifeEvent Key)}
    (lifetime : first.Lifetime event.key log) (allowed : first.Allows event) :
    (first.step event).Lifetime event.key (log ++ [event]) := by
  cases event with
  | create key =>
    cases lifetime with
    | unborn _ _ => exact .living 0 (Set.mem_insert key _) (Set.mem_insert key _)
    | living _ old _ => exact absurd old allowed
    | gone _ old _ => exact absurd old allowed
  | use key =>
    cases lifetime with
    | unborn _ absent => exact absurd allowed absent
    | living uses old lives =>
      show (first.step (.use key)).Lifetime key
        (.create key :: (List.replicate uses (.use key) ++ [.use key]))
      rw [← List.replicate_succ']
      exact .living (uses + 1) old lives
    | gone _ _ absent => exact absurd allowed absent
  | destroy key =>
    cases lifetime with
    | unborn _ absent => exact absurd allowed absent
    | living uses old _ => exact .gone uses old fun lives => lives.2 rfl
    | gone _ _ absent => exact absurd allowed absent

/-- Other keys live on as they did. -/
theorem mem_step_of_ne (this : Population Key) {event : LifeEvent Key} {key : Key}
    (other : event.key ≠ key) :
    (key ∈ (this.step event).created ↔ key ∈ this.created) ∧
      (key ∈ (this.step event).living ↔ key ∈ this.living) := by
  cases event with
  | create new =>
    have new_ne : key ≠ new := fun same => other same.symm
    exact ⟨Set.mem_insert_iff.trans (or_iff_right new_ne),
      Set.mem_insert_iff.trans (or_iff_right new_ne)⟩
  | use _ => exact ⟨Iff.rfl, Iff.rfl⟩
  | destroy old =>
    have old_ne : key ≠ old := fun same => other same.symm
    exact ⟨Iff.rfl, ⟨fun lives => lives.1, fun lives => ⟨lives, old_ne⟩⟩⟩

/-- Where nothing was at first and every event was allowed, each key has its lifetime. -/
theorem Leads.lifetime [DecidableEq Key] {after : Population Key}
    (leads : Leads ⟨∅, ∅⟩ events after) (key : Key) :
    after.Lifetime key (events.filter fun event => event.key = key) := by
  induction events using List.reverseRecOn generalizing after with
  | nil =>
    obtain ⟨_, rfl⟩ := leads
    exact .unborn (Set.notMem_empty key) (Set.notMem_empty key)
  | append_singleton events event inductionHypothesis =>
    obtain ⟨allowed, rfl⟩ := leads
    obtain ⟨earlier, last⟩ := (guarded_append _ _ _ _ _).mp allowed
    have lifetime := inductionHypothesis ⟨earlier, rfl⟩
    rw [run_concat, List.filter_append]
    by_cases own : event.key = key
    · subst own
      rw [List.filter_cons_of_pos (by simp), List.filter_nil]
      exact lifetime.step ((guarded_cons _ _ _ _ _).mp last).1
    · rw [List.filter_cons_of_neg (by simpa using own), List.filter_nil, List.append_nil]
      obtain ⟨created, living⟩ := mem_step_of_ne (run step ⟨∅, ∅⟩ events) own
      exact lifetime.congr created living

end Population

end Library
