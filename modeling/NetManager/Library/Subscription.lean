/-
This file is about the lists publishers keep of their subscribers. A subscriber has a name, and a
publisher tells its subscribers one after the other. Subscribing adds a subscriber at the end
unless one of its name is there, and unsubscribing erases the first one of its name. On lists
with distinct names both are operations of sets, and everybody is told exactly once.
-/

import Mathlib.Data.List.Count
import Mathlib.Data.List.Nodup
import NetManager.Library.FirstMatch

namespace Library

section Subscription

variable {Subscriber Name : Type*} [DecidableEq Name] (name : Subscriber → Name)

/-- Add a subscriber at the end, unless it is there. -/
def subscribe (subscribers : List Subscriber) (subscriber : Subscriber) : List Subscriber :=
  if subscribers.any (name subscriber == name ·) then subscribers else subscribers ++ [subscriber]

/-- Erase the first subscriber of a name. -/
def unsubscribe (subscribers : List Subscriber) (subscriber : Subscriber) : List Subscriber :=
  subscribers.eraseP (name subscriber == name ·)

/-- The subscribers of other names, in order. -/
def others (subscribers : List Subscriber) (subscriber : Subscriber) : List Subscriber :=
  subscribers.filter (name subscriber != name ·)

theorem any_name_iff (subscribers : List Subscriber) (who : Name) :
    subscribers.any (who == name ·) = true ↔ who ∈ subscribers.map name := by
  simp only [List.any_eq_true, beq_iff_eq, List.mem_map]
  exact exists_congr fun _ => and_congr_right fun _ => eq_comm

variable {name} {subscribers : List Subscriber} {subscriber : Subscriber}

/-! ### Subscribing -/

theorem subscribe_of_mem (present : name subscriber ∈ subscribers.map name) :
    subscribe name subscribers subscriber = subscribers :=
  if_pos ((any_name_iff name subscribers _).mpr present)

theorem subscribe_of_notMem (absent : name subscriber ∉ subscribers.map name) :
    subscribe name subscribers subscriber = subscribers ++ [subscriber] :=
  if_neg fun present => absent ((any_name_iff name subscribers _).mp present)

theorem mem_subscribe (subscribers : List Subscriber) (subscriber : Subscriber) :
    name subscriber ∈ (subscribe name subscribers subscriber).map name := by
  by_cases present : name subscriber ∈ subscribers.map name
  · rw [subscribe_of_mem present]
    exact present
  · rw [subscribe_of_notMem present, List.map_append]
    exact List.mem_append_right _ List.mem_cons_self

/-- Nobody else is subscribed along. -/
theorem mem_of_mem_subscribe {who : Name} (different : who ≠ name subscriber)
    (present : who ∈ (subscribe name subscribers subscriber).map name) :
    who ∈ subscribers.map name := by
  by_cases already : name subscriber ∈ subscribers.map name
  · rwa [subscribe_of_mem already] at present
  · rw [subscribe_of_notMem already, List.map_append] at present
    refine (List.mem_append.mp present).resolve_right fun last => ?_
    exact different (List.mem_singleton.mp last)

/-- Whoever is subscribed stays so. -/
theorem mem_subscribe_of_mem {who : Name} (present : who ∈ subscribers.map name) :
    who ∈ (subscribe name subscribers subscriber).map name := by
  by_cases already : name subscriber ∈ subscribers.map name
  · rwa [subscribe_of_mem already]
  · rw [subscribe_of_notMem already, List.map_append]
    exact List.mem_append_left _ present

theorem nodup_subscribe (distinct : (subscribers.map name).Nodup) (subscriber : Subscriber) :
    ((subscribe name subscribers subscriber).map name).Nodup := by
  by_cases present : name subscriber ∈ subscribers.map name
  · rw [subscribe_of_mem present]
    exact distinct
  · rw [subscribe_of_notMem present, List.map_append, List.map_singleton]
    exact List.nodup_append_comm.mp (List.nodup_cons.mpr ⟨present, distinct⟩)

theorem others_subscribe (subscribers : List Subscriber) (subscriber : Subscriber) :
    others name (subscribe name subscribers subscriber) subscriber =
      others name subscribers subscriber := by
  by_cases present : name subscriber ∈ subscribers.map name
  · rw [subscribe_of_mem present]
  · rw [subscribe_of_notMem present, others, List.filter_append]
    simp only [List.filter_cons, bne_self_eq_false, Bool.false_eq_true, if_false, List.filter_nil,
      List.append_nil]
    rfl

/-! ### Unsubscribing -/

theorem nodup_unsubscribe (distinct : (subscribers.map name).Nodup) (subscriber : Subscriber) :
    ((unsubscribe name subscribers subscriber).map name).Nodup :=
  distinct.sublist (List.eraseP_sublist.map name)

theorem unmatched_of_notMem {subscriber : Subscriber}
    (absent : name subscriber ∉ subscribers.map name) (other : Subscriber)
    (member : other ∈ subscribers) : ¬ (name subscriber == name other) = true := by
  intro same
  exact absent (List.mem_map.mpr ⟨other, member, (beq_iff_eq.mp same).symm⟩)

theorem mem_of_mem_unsubscribe {who : Name}
    (present : who ∈ (unsubscribe name subscribers subscriber).map name) :
    who ∈ subscribers.map name :=
  (List.eraseP_sublist.map name).subset present

theorem others_unsubscribe (subscribers : List Subscriber) (subscriber : Subscriber) :
    others name (unsubscribe name subscribers subscriber) subscriber =
      others name subscribers subscriber :=
  filter_eraseP fun _ _ hit => by rw [bne, hit, Bool.not_true]

/-- Nobody else is unsubscribed along. -/
theorem mem_unsubscribe_of_ne {who : Name} (different : who ≠ name subscriber)
    (present : who ∈ subscribers.map name) :
    who ∈ (unsubscribe name subscribers subscriber).map name := by
  obtain ⟨other, member, same⟩ := List.mem_map.mp present
  have kept : other ∈ others name subscribers subscriber := by
    refine List.mem_filter.mpr ⟨member, bne_iff_ne.mpr fun hit => different ?_⟩
    rw [hit, same]
  rw [← others_unsubscribe] at kept
  exact List.mem_map.mpr ⟨other, (List.mem_filter.mp kept).1, same⟩

/-- There is nothing to erase for somebody who did not subscribe. -/
theorem unsubscribe_of_notMem (absent : name subscriber ∉ subscribers.map name) :
    unsubscribe name subscribers subscriber = subscribers :=
  List.eraseP_of_forall_not (unmatched_of_notMem absent)

/-- With distinct names, unsubscribing leaves exactly the others. -/
theorem unsubscribe_eq_others (distinct : (subscribers.map name).Nodup)
    (subscriber : Subscriber) :
    unsubscribe name subscribers subscriber = others name subscribers subscriber := by
  unfold unsubscribe others
  induction subscribers with
  | nil => rfl
  | cons head tail inductionHypothesis =>
    rw [List.map_cons, List.nodup_cons] at distinct
    by_cases here : name subscriber = name head
    · have hit : (name subscriber == name head) = true := beq_iff_eq.mpr here
      rw [List.eraseP_cons_of_pos (by exact hit), List.filter_cons_of_neg (by simp [here])]
      refine (List.filter_eq_self.mpr fun other member => bne_iff_ne.mpr fun same => ?_).symm
      rw [here] at same
      exact distinct.1 (same ▸ List.mem_map_of_mem member)
    · rw [List.eraseP_cons_of_neg (by simpa using here),
        List.filter_cons_of_pos (by simpa using here), inductionHypothesis distinct.2]

theorem notMem_others (subscribers : List Subscriber) (subscriber : Subscriber) :
    name subscriber ∉ (others name subscribers subscriber).map name := by
  intro present
  obtain ⟨other, member, same⟩ := List.mem_map.mp present
  exact bne_iff_ne.mp (List.mem_filter.mp member).2 same.symm

/-- Unsubscribing undoes subscribing. -/
theorem unsubscribe_subscribe (absent : name subscriber ∉ subscribers.map name) :
    unsubscribe name (subscribe name subscribers subscriber) subscriber = subscribers := by
  have hit : [subscriber].eraseP (name subscriber == name ·) = [] :=
    List.eraseP_cons_of_pos (beq_self_eq_true (name subscriber))
  rw [subscribe_of_notMem absent, unsubscribe,
    List.eraseP_append_right _ (unmatched_of_notMem absent), hit, List.append_nil]

/-! ### Telling -/

/-- With distinct names, whoever subscribed is on the list once. -/
theorem countP_name (distinct : (subscribers.map name).Nodup) (who : Name) :
    subscribers.countP (who == name ·) = if who ∈ subscribers.map name then 1 else 0 := by
  rw [← distinct.count, List.count, List.countP_map]
  refine List.countP_congr fun other _ => ?_
  rw [Function.comp_apply, beq_iff_eq, beq_iff_eq, eq_comm]

theorem countP_subscribe (distinct : (subscribers.map name).Nodup) (subscriber : Subscriber) :
    (subscribe name subscribers subscriber).countP (name subscriber == name ·) = 1 := by
  rw [countP_name (nodup_subscribe distinct subscriber), if_pos (mem_subscribe _ subscriber)]

/-- With distinct names, whoever subscribed is told once and nobody else is told. -/
theorem told_eq {Message : Type*} (distinct : (subscribers.map name).Nodup) (who : Name)
    (message : Message) :
    (subscribers.filter (who == name ·)).map (fun _ => message) =
      if who ∈ subscribers.map name then [message] else [] := by
  rw [List.map_const', ← List.countP_eq_length_filter, countP_name distinct]
  split
  · rfl
  · rfl

end Subscription

end Library
