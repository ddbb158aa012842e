/-
This file builds the object heap the models of reference-counted programs run
on. A reference is an allocation index, so two objects are the same object
exactly when their references are equal; a heap is the number of objects
allocated so far together with the contents of every cell. Allocation hands out
the next index and never reuses one, which is what lets a proof tell a live
object from every object that was ever freed.

A heap may be read through a function of the contents (`Heap.map`): the part of
the objects a proof is about is a heap again, over the same references, and a
write that keeps that part does not change it.
-/

import Mathlib.Logic.Function.Basic

namespace Library

/-! ### References -/

/-- A counted reference to an object of a class, identified by its allocation index. -/
@[ext]
structure Ref (Class : Type) where
  address : Nat

instance {Class : Type} : DecidableEq (Ref Class) := fun first second =>
  decidable_of_iff (first.address = second.address) Ref.ext_iff.symm

/-! ### Heaps -/

/-- The objects of one class: how many were constructed, and what each of them holds. -/
structure Heap (Class : Type) (Contents : Type := Class) where
  size : Nat
  cell : Ref Class → Contents

namespace Heap

variable {Class Contents Part : Type}

/-- The heap on which nothing was constructed. -/
def empty [Inhabited Contents] : Heap Class Contents where
  size := 0
  cell := fun _ => default

/-- The reference the next construction returns. -/
def fresh (heap : Heap Class Contents) : Ref Class := ⟨heap.size⟩

/-- Construct an object at the fresh reference. -/
def alloc (heap : Heap Class Contents) (object : Contents) : Heap Class Contents where
  size := heap.size + 1
  cell := Function.update heap.cell heap.fresh object

/-- Overwrite one object. -/
def set (heap : Heap Class Contents) (ref : Ref Class) (object : Contents) :
    Heap Class Contents :=
  { heap with cell := Function.update heap.cell ref object }

/-- The heap of a part of the contents. -/
def map (part : Contents → Part) (heap : Heap Class Contents) : Heap Class Part where
  size := heap.size
  cell := fun ref => part (heap.cell ref)

/-- The reference was returned by a construction. -/
def Allocated (heap : Heap Class Contents) (ref : Ref Class) : Prop := ref.address < heap.size

instance (heap : Heap Class Contents) (ref : Ref Class) : Decidable (heap.Allocated ref) :=
  inferInstanceAs (Decidable (ref.address < heap.size))

/-- What is said of every allocated reference can be decided by trying them all. -/
instance (heap : Heap Class Contents) (property : Ref Class → Prop) [DecidablePred property] :
    Decidable (∀ ref, heap.Allocated ref → property ref) :=
  decidable_of_iff (∀ address, address < heap.size → property ⟨address⟩)
    ⟨fun every ref allocated => every ref.address allocated,
      fun every address allocated => every ⟨address⟩ allocated⟩

/-! ### Reading after writing -/

@[simp] theorem size_alloc (heap : Heap Class Contents) (object : Contents) :
    (heap.alloc object).size = heap.size + 1 := rfl

@[simp] theorem cell_alloc_fresh (heap : Heap Class Contents) (object : Contents) :
    (heap.alloc object).cell heap.fresh = object :=
  Function.update_self _ _ _

theorem cell_alloc_of_allocated (heap : Heap Class Contents) (object : Contents)
    {ref : Ref Class} (allocated : heap.Allocated ref) :
    (heap.alloc object).cell ref = heap.cell ref := by
  refine Function.update_of_ne (fun same => ?_) _ _
  rw [same] at allocated
  exact absurd allocated (Nat.lt_irrefl _)

@[simp] theorem cell_set_self (heap : Heap Class Contents) (ref : Ref Class)
    (object : Contents) : (heap.set ref object).cell ref = object :=
  Function.update_self _ _ _

theorem cell_set_of_ne (heap : Heap Class Contents) {ref other : Ref Class} (object : Contents)
    (different : other ≠ ref) : (heap.set ref object).cell other = heap.cell other :=
  Function.update_of_ne different _ _

/-! ### Parts of the contents -/

theorem map_alloc (part : Contents → Part) (heap : Heap Class Contents) (object : Contents) :
    (heap.alloc object).map part = (heap.map part).alloc (part object) := by
  have cells : (fun ref => part ((heap.alloc object).cell ref)) =
      Function.update (fun ref => part (heap.cell ref)) heap.fresh (part object) := by
    funext ref
    by_cases same : ref = heap.fresh
    · rw [same, cell_alloc_fresh, Function.update_self]
    · rw [Function.update_of_ne same]
      exact congrArg part (Function.update_of_ne same _ _)
  unfold map
  rw [cells]
  rfl

/-- The part after a write is the part written. -/
theorem map_set (part : Contents → Part) (heap : Heap Class Contents) (ref : Ref Class)
    (object : Contents) :
    (heap.set ref object).map part = (heap.map part).set ref (part object) := by
  have cells : (fun other => part ((heap.set ref object).cell other)) =
      Function.update (fun other => part (heap.cell other)) ref (part object) := by
    funext other
    by_cases same : other = ref
    · rw [same, cell_set_self, Function.update_self]
    · rw [cell_set_of_ne heap object same, Function.update_of_ne same]
  unfold map
  rw [cells]
  rfl

/-- Writing what is there changes nothing. -/
theorem set_cell (heap : Heap Class Contents) (ref : Ref Class) :
    heap.set ref (heap.cell ref) = heap := by
  unfold set
  rw [Function.update_eq_self]

/-- The last write is the one that counts. -/
@[simp] theorem set_set (heap : Heap Class Contents) (ref : Ref Class)
    (first second : Contents) : (heap.set ref first).set ref second = heap.set ref second := by
  unfold set
  rw [Function.update_idem]

/-- A write that keeps a part of the contents does not change the heap of that part. -/
theorem map_set_of_kept (part : Contents → Part) (heap : Heap Class Contents) (ref : Ref Class)
    (object : Contents) (kept : part object = part (heap.cell ref)) :
    (heap.set ref object).map part = heap.map part := by
  rw [map_set, kept]
  exact (heap.map part).set_cell ref

/-! ### Fresh references -/

theorem allocated_alloc (heap : Heap Class Contents) (object : Contents) {ref : Ref Class}
    (allocated : heap.Allocated ref) : (heap.alloc object).Allocated ref :=
  Nat.lt_succ_of_lt allocated

theorem allocated_fresh (heap : Heap Class Contents) (object : Contents) :
    (heap.alloc object).Allocated heap.fresh :=
  Nat.lt_succ_self _

/-- What is allocated after a construction is the new object or was there before. -/
theorem allocated_alloc_iff (heap : Heap Class Contents) (object : Contents)
    (ref : Ref Class) :
    (heap.alloc object).Allocated ref ↔ heap.Allocated ref ∨ ref = heap.fresh := by
  simp only [Allocated, size_alloc, Nat.lt_succ_iff_lt_or_eq, Ref.ext_iff, fresh]

/-- What holds of every object and of the new one holds of every object after the
construction. -/
theorem forall_alloc (Property : Ref Class → Contents → Prop) (heap : Heap Class Contents)
    (object : Contents) (old : ∀ ref, heap.Allocated ref → Property ref (heap.cell ref))
    (new : Property heap.fresh object) (ref : Ref Class)
    (allocated : (heap.alloc object).Allocated ref) :
    Property ref ((heap.alloc object).cell ref) := by
  rcases (heap.allocated_alloc_iff object ref).mp allocated with before | same
  · rw [heap.cell_alloc_of_allocated object before]
    exact old ref before
  · rw [same, cell_alloc_fresh]
    exact new

/-- The fresh reference is in no list of constructed objects. -/
theorem fresh_notMem (heap : Heap Class Contents) {refs : List (Ref Class)}
    (allocated : ∀ ref ∈ refs, heap.Allocated ref) : heap.fresh ∉ refs :=
  fun member => absurd (allocated _ member) (Nat.lt_irrefl _)

/-! ### Visits -/

/-- Change some objects, one after the other. -/
def visit (change : Contents → Contents) (heap : Heap Class Contents)
    (refs : List (Ref Class)) : Heap Class Contents :=
  refs.foldl (fun heap ref => heap.set ref (change (heap.cell ref))) heap

/-- Distinct objects are changed once each, and no other is. -/
theorem cell_visit (change : Contents → Contents) (heap : Heap Class Contents)
    {refs : List (Ref Class)} (distinct : refs.Nodup) (ref : Ref Class) :
    (heap.visit change refs).cell ref =
      if ref ∈ refs then change (heap.cell ref) else heap.cell ref := by
  unfold visit
  induction refs generalizing heap with
  | nil => rfl
  | cons head rest inductionHypothesis =>
    obtain ⟨absent, distinctRest⟩ := List.nodup_cons.mp distinct
    rw [List.foldl_cons, inductionHypothesis _ distinctRest]
    by_cases here : ref = head
    · rw [here, if_neg absent, if_pos List.mem_cons_self, cell_set_self]
    · rw [cell_set_of_ne heap _ here]
      simp only [List.mem_cons, here, false_or]

/-! ### Heaps that grow -/

/-- From one heap to the other blank objects may be constructed, and nothing is written. -/
structure GrowsBy (Blank : Contents → Prop) (before after : Heap Class Contents) : Prop where
  kept : ∀ ref, before.Allocated ref →
    after.Allocated ref ∧ after.cell ref = before.cell ref
  new : ∀ ref, after.Allocated ref → ¬ before.Allocated ref → Blank (after.cell ref)

namespace GrowsBy

variable {Blank : Contents → Prop} {first second third before after : Heap Class Contents}

theorem refl (Blank : Contents → Prop) (heap : Heap Class Contents) : GrowsBy Blank heap heap :=
  ⟨fun _ allocated => ⟨allocated, rfl⟩, fun _ allocated absent => absurd allocated absent⟩

theorem alloc (heap : Heap Class Contents) {object : Contents} (blank : Blank object) :
    GrowsBy Blank heap (heap.alloc object) := by
  refine ⟨fun ref allocated => ?_, fun ref allocated absent => ?_⟩
  · exact ⟨heap.allocated_alloc object allocated, heap.cell_alloc_of_allocated object allocated⟩
  · obtain rfl := ((heap.allocated_alloc_iff object ref).mp allocated).resolve_left absent
    rw [cell_alloc_fresh]
    exact blank

theorem trans (earlier : GrowsBy Blank first second) (later : GrowsBy Blank second third) :
    GrowsBy Blank first third := by
  refine ⟨fun ref allocated => ?_, fun ref allocated absent => ?_⟩
  · obtain ⟨middle, same⟩ := earlier.kept ref allocated
    obtain ⟨last, stillSame⟩ := later.kept ref middle
    exact ⟨last, stillSame.trans same⟩
  · by_cases middle : second.Allocated ref
    · rw [(later.kept ref middle).2]
      exact earlier.new ref middle absent
    · exact later.new ref allocated middle

/-- What holds of every object and of every blank one holds of every object afterwards. -/
theorem forall_allocated (grows : GrowsBy Blank before after) (Property : Contents → Prop)
    (old : ∀ ref, before.Allocated ref → Property (before.cell ref))
    (new : ∀ object, Blank object → Property object) (ref : Ref Class)
    (allocated : after.Allocated ref) : Property (after.cell ref) := by
  by_cases present : before.Allocated ref
  · rw [(grows.kept ref present).2]
    exact old ref present
  · exact new _ (grows.new ref allocated present)

end GrowsBy

end Heap

end Library
