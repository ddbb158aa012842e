/-
This file is about logs: lists that only grow at the end. What is good of everything appended
between two moments, and between the second and a third one, is good of everything appended in
between the first and the third. The latest selected entry of a log is the latest one of what was
appended last, if that has one, and of the rest otherwise.
-/

import Mathlib.Data.List.Basic
import Mathlib.Data.List.Induction

namespace Library

variable {Item Value : Type} {Good : Item → Prop} {first second third : List Item}

theorem appended_refl (log : List Item) :
    ∃ items, log = log ++ items ∧ ∀ item ∈ items, Good item :=
  ⟨[], (List.append_nil log).symm, List.forall_mem_nil Good⟩

theorem appended_single (log : List Item) {item : Item} (good : Good item) :
    ∃ items, log ++ [item] = log ++ items ∧ ∀ item ∈ items, Good item :=
  ⟨[item], rfl, List.forall_mem_singleton.mpr good⟩

theorem appended_trans (earlier : ∃ items, second = first ++ items ∧ ∀ item ∈ items, Good item)
    (later : ∃ items, third = second ++ items ∧ ∀ item ∈ items, Good item) :
    ∃ items, third = first ++ items ∧ ∀ item ∈ items, Good item := by
  obtain ⟨items, appended, good⟩ := earlier
  obtain ⟨more, appendedMore, goodMore⟩ := later
  refine ⟨items ++ more, ?_, List.forall_mem_append.mpr ⟨good, goodMore⟩⟩
  rw [appendedMore, appended, List.append_assoc]

/-- Of what was appended nothing is selected. -/
theorem filterMap_appended {select : Item → Option Value}
    (appended : ∃ items, second = first ++ items ∧ ∀ item ∈ items, Good item)
    (unselected : ∀ item, Good item → select item = none) :
    second.filterMap select = first.filterMap select := by
  obtain ⟨items, rfl, good⟩ := appended
  have none : items.filterMap select = [] :=
    List.filterMap_eq_nil_iff.mpr fun item member => unselected item (good item member)
  rw [List.filterMap_append, none, List.append_nil]

/-- When every item says something, the first of what is said is said by the first item. -/
theorem exists_cons_of_filterMap {select : Item → Option Value} {log : List Item} {value : Value}
    {rest : List Value} (speaks : ∀ item ∈ log, select item ≠ none)
    (said : log.filterMap select = value :: rest) :
    ∃ item items, log = item :: items ∧ select item = some value ∧
      items.filterMap select = rest := by
  cases log with
  | nil => exact absurd said (List.cons_ne_nil value rest).symm
  | cons item items =>
    obtain ⟨first, selected⟩ := Option.ne_none_iff_exists'.mp (speaks item List.mem_cons_self)
    rw [List.filterMap_cons_some selected] at said
    obtain ⟨rfl, same⟩ := List.cons.inj said
    exact ⟨item, items, rfl, selected, same⟩

/-- When every item says something and nothing is said, there is no item. -/
theorem eq_nil_of_filterMap {select : Item → Option Value} {log : List Item}
    (speaks : ∀ item ∈ log, select item ≠ none) (said : log.filterMap select = []) : log = [] :=
  List.eq_nil_iff_forall_not_mem.mpr fun item member =>
    speaks item member (List.filterMap_eq_nil_iff.mp said item member)

/-! ### The latest selected entry -/

/-- What the last of the selected entries says. -/
def latest (select : Item → Option Value) (log : List Item) : Option Value :=
  (log.filterMap select).getLast?

theorem latest_append (select : Item → Option Value) (first second : List Item) :
    latest select (first ++ second) = (latest select second).or (latest select first) := by
  unfold latest
  rw [List.filterMap_append, List.getLast?_append]

theorem latest_singleton (select : Item → Option Value) (item : Item) :
    latest select [item] = select item := by
  unfold latest
  cases selected : select item with
  | none => simp [selected]
  | some value => simp [selected]

/-- The latest entry depends on what is selected of the log. -/
theorem latest_congr {select other : Item → Option Value} {log : List Item}
    (same : ∀ item ∈ log, select item = other item) : latest select log = latest other log := by
  unfold latest
  rw [List.filterMap_congr same]

/-- What is not selected may be left out. -/
theorem latest_filter {select : Item → Option Value} {keep : Item → Bool} (log : List Item)
    (kept : ∀ item, select item ≠ none → keep item = true) :
    latest select (log.filter keep) = latest select log := by
  unfold latest
  rw [List.filterMap_filter]
  refine congrArg List.getLast? (List.filterMap_congr fun item _ => ?_)
  by_cases selected : select item = none
  · rw [selected, ite_self]
  · rw [if_pos (kept item selected)]

/-- What the latest entry is read as. -/
theorem latest_map {Image : Type} (image : Value → Image) (select : Item → Option Value)
    (log : List Item) :
    latest (fun item => (select item).map image) log = (latest select log).map image := by
  unfold latest
  rw [← List.map_filterMap, List.getLast?_map]

/-- The latest selected entry is kept while the log is read. -/
theorem foldl_latest (select : Item → Option Value) (log : List Item) :
    log.foldl (fun kept item => (select item).or kept) none = latest select log := by
  induction log using List.reverseRecOn with
  | nil => rfl
  | append_singleton earlier item inductionHypothesis =>
    rw [List.foldl_append, List.foldl_cons, List.foldl_nil, inductionHypothesis, latest_append,
      latest_singleton]

/-- When nothing of one kind is selected, the latest selected entry is one of the other kind. -/
theorem latest_right {Other : Type} {selectOther : Other → Option Value}
    (select : Item → Option Value) {log : List (Other ⊕ Item)}
    (unselected : ∀ other, .inl other ∈ log → selectOther other = none) :
    latest (Sum.elim selectOther select) log = latest select (log.filterMap Sum.getRight?) := by
  have same : log.filterMap (Sum.elim selectOther select) =
      log.filterMap fun entry => entry.getRight?.bind select := by
    refine List.filterMap_congr fun entry member => ?_
    cases entry with
    | inl other => exact unselected other member
    | inr item => rfl
  unfold latest
  rw [same, List.filterMap_filterMap]

theorem latest_eq_none {select : Item → Option Value} {log : List Item}
    (unselected : ∀ item ∈ log, select item = none) : latest select log = none := by
  unfold latest
  rw [List.filterMap_eq_nil_iff.mpr unselected, List.getLast?_nil]

end Library
