/-
This file relates the two ways a program deletes from a list: by a predicate,
which deletes the first element that meets it, and by identity. Programs look an
element up with a predicate and later delete with the same predicate; the
element deleted is then the element found. On a list without repetitions the
deletion leaves exactly the other elements.

A loop whose body can throw is the loop without exceptions when no element throws.
-/

import Mathlib.Data.List.Lookmap
import Mathlib.Data.List.Nodup
import Mathlib.Data.Finset.Card
import NetManager.Library.Run

namespace Library

universe u

variable {Element : Type*}

/-- Deleting the first match does not show through a filter that keeps no match. -/
theorem filter_eraseP {matches? keep : Element → Bool} {list : List Element}
    (apart : ∀ element ∈ list, matches? element = true → keep element = false) :
    (list.eraseP matches?).filter keep = list.filter keep := by
  induction list with
  | nil => rfl
  | cons head tail inductionHypothesis =>
    by_cases hit : matches? head = true
    · have dropped := apart head List.mem_cons_self hit
      rw [List.eraseP_cons_of_pos hit, List.filter_cons_of_neg (by rw [dropped]; decide)]
    · have rest := inductionHypothesis fun element member =>
        apart element (List.mem_cons_of_mem head member)
      rw [List.eraseP_cons_of_neg hit, List.filter_cons, List.filter_cons, rest]

/-- Nor does changing the first match, when neither it nor what it becomes is kept. -/
theorem filter_lookmap {change : Element → Option Element} {keep : Element → Bool}
    {list : List Element} (apart : ∀ element changed, change element = some changed →
      keep element = false ∧ keep changed = false) :
    (list.lookmap change).filter keep = list.filter keep := by
  induction list with
  | nil => rfl
  | cons head tail inductionHypothesis =>
    cases looked : change head with
    | none =>
      rw [List.lookmap_cons_none _ _ looked, List.filter_cons, List.filter_cons,
        inductionHypothesis]
    | some changed =>
      obtain ⟨before, after⟩ := apart head changed looked
      rw [List.lookmap_cons_some _ _ looked, List.filter_cons_of_neg (by rw [after]; decide),
        List.filter_cons_of_neg (by rw [before]; decide)]

/-- The first match stays the first one when other elements are deleted. -/
theorem find?_sublist {matches? : Element → Bool} {kept list : List Element} {found : Element}
    (sublist : kept.Sublist list) (nodup : list.Nodup) (search : list.find? matches? = some found)
    (member : found ∈ kept) : kept.find? matches? = some found := by
  induction sublist with
  | slnil => exact search
  | cons head rest inductionHypothesis =>
    obtain ⟨absent, distinct⟩ := List.nodup_cons.mp nodup
    have missed : ¬ matches? head = true := by
      intro hit
      rw [List.find?_cons_of_pos hit, Option.some.injEq] at search
      rw [search] at absent
      exact absent (rest.subset member)
    rw [List.find?_cons_of_neg missed] at search
    exact inductionHypothesis distinct search member
  | cons_cons head rest inductionHypothesis =>
    by_cases hit : matches? head = true
    · rw [List.find?_cons_of_pos hit] at search ⊢
      exact search
    · have different : found ≠ head := by
        rintro rfl
        rw [List.find?_cons_of_neg hit] at search
        exact hit (List.find?_some search)
      rw [List.find?_cons_of_neg hit] at search ⊢
      exact inductionHypothesis (List.nodup_cons.mp nodup).2 search
        ((List.mem_cons.mp member).resolve_left different)

/-- Deleting the first element of a key deletes the key. -/
theorem map_eraseP {Key : Type*} [BEq Key] [LawfulBEq Key] {matches? : Element → Bool}
    {key : Element → Key} {value : Key} {list : List Element}
    (exact : ∀ element ∈ list, matches? element = true ↔ key element = value) :
    (list.eraseP matches?).map key = (list.map key).erase value := by
  induction list with
  | nil => rfl
  | cons head tail inductionHypothesis =>
    have here := exact head List.mem_cons_self
    by_cases hit : matches? head = true
    · rw [List.eraseP_cons_of_pos hit, List.map_cons, here.mp hit, List.erase_cons_head]
    · have other : ¬(key head == value) = true := fun same => hit (here.mpr (eq_of_beq same))
      have rest := inductionHypothesis fun element member =>
        exact element (List.mem_cons_of_mem head member)
      rw [List.eraseP_cons_of_neg hit, List.map_cons, List.map_cons,
        List.erase_cons_tail other, rest]

/-- A last element that is kept stays the last. -/
theorem getLast?_filter {keep : Element → Bool} {list : List Element} {last : Element}
    (found : list.getLast? = some last) (kept : keep last = true) :
    (list.filter keep).getLast? = some last := by
  obtain ⟨before, rfl⟩ := List.getLast?_eq_some_iff.mp found
  rw [List.filter_append, List.filter_cons_of_pos kept]
  exact List.getLast?_concat

/-- A list that is shorter than the numbers below a bound misses one of them. -/
theorem exists_notMem_of_length_lt {bound : Nat} {list : List Nat} (short : list.length < bound) :
    ∃ number < bound, number ∉ list := by
  have card : list.toFinset.card < (Finset.range bound).card := by
    rw [Finset.card_range]
    exact lt_of_le_of_lt (List.toFinset_card_le list) short
  obtain ⟨number, below, missing⟩ := Finset.exists_mem_notMem_of_card_lt_card card
  exact ⟨number, Finset.mem_range.mp below, fun listed => missing (List.mem_toFinset.mpr listed)⟩

/-! ### Loops that can throw -/

/-- A computation that returned did not throw at its first step. -/
theorem bind_eq_ok {Error : Type*} {Value Result : Type u} {first : Except Error Value}
    {next : Value → Except Error Result} {result : Result}
    (returned : (first >>= next) = .ok result) :
    ∃ value, first = .ok value ∧ next value = .ok result := by
  cases first with
  | error => exact absurd returned (by simp [bind, Except.bind])
  | ok value => exact ⟨value, rfl, returned⟩

theorem anyM_eq_ok {Error : Type*} {test : Element → Except Error Bool} {holds : Element → Bool}
    {list : List Element} (ok : ∀ element ∈ list, test element = .ok (holds element)) :
    list.anyM test = .ok (list.any holds) := by
  induction list with
  | nil => rfl
  | cons head tail inductionHypothesis =>
    obtain ⟨first, rest⟩ := List.forall_mem_cons.mp ok
    rw [List.anyM, first, inductionHypothesis rest, List.any_cons]
    cases holds head with
    | true => rfl
    | false => rfl

theorem toOption_eq_some {Error Value : Type*} {computation : Except Error Value} {value : Value}
    (returned : computation.toOption = some value) : computation = .ok value := by
  cases computation with
  | error => exact absurd returned (by simp [Except.toOption])
  | ok result => rw [Option.some.inj returned]

/-- What every step of a loop keeps, in step with a second run that does not throw, is kept by the
loop when it returns. -/
theorem foldlM_simulates {Error : Type*} {State : Type u} {Other Action : Type*}
    {step : State → Action → Except Error State} {otherStep : Other → Action → Other}
    (Relates : State → Other → Prop)
    (simulates : ∀ state other action next, Relates state other →
      step state action = .ok next → Relates next (otherStep other action))
    {state last : State} {other : Other} {actions : List Action} (related : Relates state other)
    (returned : actions.foldlM step state = .ok last) :
    Relates last (run otherStep other actions) := by
  induction actions generalizing state other with
  | nil =>
    rw [← Except.ok.inj returned]
    exact related
  | cons action rest inductionHypothesis =>
    rw [List.foldlM_cons] at returned
    obtain ⟨next, first, later⟩ := bind_eq_ok returned
    exact inductionHypothesis (simulates state other action next related first) later

/-- A loop over events that are heard as actions of another loop, or as nothing, is that loop over
what is heard. -/
theorem foldlM_filterMap {Error : Type*} {State Event Action : Type*}
    {step : State → Action → Except Error State} {receive : State → Event → Except Error State}
    (hear : Event → Option Action)
    (receives : ∀ state event, receive state event = (hear event).elim (.ok state) (step state))
    (events : List Event) (state : State) :
    events.foldlM receive state = (events.filterMap hear).foldlM step state := by
  induction events generalizing state with
  | nil => rfl
  | cons event rest inductionHypothesis =>
    rw [List.foldlM_cons, receives]
    cases heard : hear event with
    | none =>
      rw [List.filterMap_cons_none heard]
      exact inductionHypothesis state
    | some action =>
      rw [List.filterMap_cons_some heard, List.foldlM_cons]
      exact bind_congr fun after => inductionHypothesis after

/-- A loop that returned did not throw at any element it looked at. -/
theorem anyM_of_ok {Error : Type*} {test : Element → Except Error Bool} {holds : Element → Bool}
    {list : List Element} {answer : Bool}
    (reads : ∀ element ∈ list, ∀ result, test element = .ok result → result = holds element)
    (returned : list.anyM test = .ok answer) : answer = list.any holds := by
  induction list with
  | nil => exact (Except.ok.inj returned).symm
  | cons head tail inductionHypothesis =>
    obtain ⟨first, rest⟩ := List.forall_mem_cons.mp reads
    obtain ⟨result, looked, later⟩ := bind_eq_ok returned
    rw [List.any_cons, ← first result looked]
    cases result with
    | true => exact (Except.ok.inj later).symm
    | false => exact inductionHypothesis rest later

/-- A loop that returned true met an element that passed its test. -/
theorem exists_of_anyM {Error : Type*} {test : Element → Except Error Bool} {list : List Element}
    (returned : list.anyM test = .ok true) : ∃ element ∈ list, test element = .ok true := by
  induction list with
  | nil => exact absurd (Except.ok.inj returned) Bool.false_ne_true
  | cons head tail inductionHypothesis =>
    obtain ⟨result, looked, later⟩ := bind_eq_ok returned
    cases result with
    | true => exact ⟨head, List.mem_cons_self, looked⟩
    | false =>
      obtain ⟨element, member, passed⟩ := inductionHypothesis later
      exact ⟨element, List.mem_cons_of_mem _ member, passed⟩

/-- A loop that returned false tested every element. -/
theorem forall_of_anyM {Error : Type*} {test : Element → Except Error Bool} {list : List Element}
    (returned : list.anyM test = .ok false) : ∀ element ∈ list, test element = .ok false := by
  induction list with
  | nil => exact List.forall_mem_nil _
  | cons head tail inductionHypothesis =>
    obtain ⟨result, looked, later⟩ := bind_eq_ok returned
    cases result with
    | true => exact absurd (Except.ok.inj later).symm Bool.false_ne_true
    | false => exact List.forall_mem_cons.mpr ⟨looked, inductionHypothesis later⟩

theorem mapM_eq_ok {Error Image : Type*} {read : Element → Except Error Image}
    {image : Element → Image} {list : List Element}
    (ok : ∀ element ∈ list, read element = .ok (image element)) :
    list.mapM read = .ok (list.map image) := by
  induction list with
  | nil => rfl
  | cons head tail inductionHypothesis =>
    obtain ⟨first, rest⟩ := List.forall_mem_cons.mp ok
    rw [List.mapM_cons, first, inductionHypothesis rest]
    rfl

/-- A loop that returned made one image of each element. -/
theorem length_of_mapM {Error Image : Type*} {read : Element → Except Error Image}
    {list : List Element} {images : List Image} (returned : list.mapM read = .ok images) :
    images.length = list.length := by
  induction list generalizing images with
  | nil =>
    rw [← Except.ok.inj returned]
    rfl
  | cons head tail inductionHypothesis =>
    rw [List.mapM_cons] at returned
    obtain ⟨image, _, later⟩ := bind_eq_ok returned
    obtain ⟨rest, mapped, same⟩ := bind_eq_ok later
    rw [← Except.ok.inj same, List.length_cons, List.length_cons, inductionHypothesis mapped]

/-- It returns when no element throws. -/
theorem exists_mapM {Error Image : Type*} {read : Element → Except Error Image}
    {list : List Element} (reads : ∀ element ∈ list, ∃ image, read element = .ok image) :
    ∃ images, list.mapM read = .ok images := by
  induction list with
  | nil => exact ⟨[], rfl⟩
  | cons head tail inductionHypothesis =>
    obtain ⟨⟨image, first⟩, rest⟩ := List.forall_mem_cons.mp reads
    obtain ⟨images, mapped⟩ := inductionHypothesis rest
    refine ⟨image :: images, ?_⟩
    rw [List.mapM_cons, first, mapped]
    rfl

/-- When it returned, no element threw. -/
theorem forall_of_mapM {Error Image : Type*} {read : Element → Except Error Image}
    {list : List Element} {images : List Image} (returned : list.mapM read = .ok images) :
    ∀ element ∈ list, ∃ image, read element = .ok image := by
  induction list generalizing images with
  | nil => exact List.forall_mem_nil _
  | cons head tail inductionHypothesis =>
    rw [List.mapM_cons] at returned
    obtain ⟨image, first, later⟩ := bind_eq_ok returned
    obtain ⟨rest, mapped, _⟩ := bind_eq_ok later
    exact List.forall_mem_cons.mpr ⟨⟨image, first⟩, inductionHypothesis mapped⟩

/-- An image was made as often as an element was read as it. -/
theorem count_of_mapM {Error Image : Type*} [DecidableEq Error] [DecidableEq Image]
    {read : Element → Except Error Image} {list : List Element} {images : List Image}
    (returned : list.mapM read = .ok images) (image : Image) :
    images.count image = list.countP fun element => read element = .ok image := by
  induction list generalizing images with
  | nil =>
    rw [← Except.ok.inj returned]
    rfl
  | cons head tail inductionHypothesis =>
    rw [List.mapM_cons] at returned
    obtain ⟨first, read, later⟩ := bind_eq_ok returned
    obtain ⟨rest, mapped, same⟩ := bind_eq_ok later
    rw [← Except.ok.inj same, List.count_cons, List.countP_cons, inductionHypothesis mapped, read]
    simp only [beq_iff_eq, Except.ok.injEq, decide_eq_true_eq]

/-! ### Deletion by identity -/

variable [DecidableEq Element]

/-- Deleting the first match deletes the element a search with the same predicate finds. -/
theorem eraseP_of_find? {matches? : Element → Bool} {list : List Element} {found : Element}
    (search : list.find? matches? = some found) : list.eraseP matches? = list.erase found := by
  induction list with
  | nil => exact absurd search (by simp)
  | cons head tail inductionHypothesis =>
    by_cases hit : matches? head = true
    · rw [List.find?_cons_of_pos hit, Option.some.injEq] at search
      rw [List.eraseP_cons_of_pos hit, search, List.erase_cons_head]
    · have different : head ≠ found := by
        intro same
        rw [same] at hit
        rw [List.find?_cons_of_neg (by rw [same]; exact hit)] at search
        exact hit (List.find?_some search)
      rw [List.find?_cons_of_neg hit] at search
      rw [List.eraseP_cons_of_neg hit, List.erase_cons_tail (by simpa using different),
        inductionHypothesis search]

/-- Without repetitions the deletion leaves exactly the elements other than the one found. -/
theorem mem_eraseP {matches? : Element → Bool} {list : List Element} {found : Element}
    (search : list.find? matches? = some found) (nodup : list.Nodup) (element : Element) :
    element ∈ list.eraseP matches? ↔ element ∈ list ∧ element ≠ found := by
  rw [eraseP_of_find? search, nodup.mem_erase_iff, and_comm]

end Library
