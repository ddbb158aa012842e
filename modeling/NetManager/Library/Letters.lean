/-
This file is about words over a set of letters, and about words put together from labels with a
letter between them. The regular expressions that repeat a character class denote the words over
that class, and the words over a class with the separator in it are the ones whose labels are words
over the class.
-/

import Mathlib.Computability.RegularExpressions

namespace Library

open scoped Computability

variable {Letter : Type}

/-! ### Words over a set of letters -/

/-- The words of one letter of the set. -/
def letters (set : Set Letter) : Language Letter :=
  {word | ∃ letter ∈ set, word = [letter]}

variable {set : Set Letter} {word : List Letter}

theorem mem_letters : word ∈ letters set ↔ ∃ letter ∈ set, word = [letter] :=
  Iff.rfl

theorem mem_letters_mul {language : Language Letter} :
    word ∈ letters set * language ↔
      ∃ letter rest, word = letter :: rest ∧ letter ∈ set ∧ rest ∈ language := by
  rw [Language.mem_mul]
  constructor
  · rintro ⟨_, ⟨letter, member, rfl⟩, rest, inside, rfl⟩
    exact ⟨letter, rest, rfl, member, inside⟩
  · rintro ⟨letter, rest, rfl, member, inside⟩
    exact ⟨[letter], ⟨letter, member, rfl⟩, rest, inside, rfl⟩

theorem mem_kstar_letters : word ∈ (letters set)∗ ↔ ∀ letter ∈ word, letter ∈ set := by
  induction word with
  | nil => exact iff_of_true (Language.nil_mem_kstar _) (List.forall_mem_nil _)
  | cons head rest inductionHypothesis =>
    rw [← Language.one_add_self_mul_kstar_eq_kstar, Language.mem_add, Language.mem_one,
      mem_letters_mul, List.forall_mem_cons, ← inductionHypothesis]
    constructor
    · rintro (empty | ⟨letter, tail, same, member, inside⟩)
      · cases empty
      · cases same
        exact ⟨member, inside⟩
    · rintro ⟨member, inside⟩
      exact Or.inr ⟨head, rest, rfl, member, inside⟩

/-- A class repeated at least once. -/
theorem mem_letters_mul_kstar :
    word ∈ letters set * (letters set)∗ ↔ word ≠ [] ∧ ∀ letter ∈ word, letter ∈ set := by
  rw [mem_letters_mul]
  constructor
  · rintro ⟨letter, rest, rfl, member, inside⟩
    exact ⟨List.cons_ne_nil _ _,
      List.forall_mem_cons.mpr ⟨member, mem_kstar_letters.mp inside⟩⟩
  · rintro ⟨nonempty, all⟩
    obtain ⟨letter, rest, rfl⟩ := List.exists_cons_of_ne_nil nonempty
    obtain ⟨member, inside⟩ := List.forall_mem_cons.mp all
    exact ⟨letter, rest, rfl, member, mem_kstar_letters.mpr inside⟩

/-- A class repeated a number of times. -/
theorem mem_letters_pow (count : Nat) :
    word ∈ letters set ^ count ↔ word.length = count ∧ ∀ letter ∈ word, letter ∈ set := by
  induction count generalizing word with
  | zero =>
    rw [pow_zero, Language.mem_one, List.length_eq_zero_iff]
    constructor
    · rintro rfl
      exact ⟨rfl, List.forall_mem_nil _⟩
    · exact And.left
  | succ count inductionHypothesis =>
    rw [pow_succ', mem_letters_mul]
    constructor
    · rintro ⟨letter, rest, rfl, member, inside⟩
      obtain ⟨length, all⟩ := inductionHypothesis.mp inside
      exact ⟨congrArg Nat.succ length, List.forall_mem_cons.mpr ⟨member, all⟩⟩
    · rintro ⟨length, all⟩
      obtain ⟨letter, rest, rfl⟩ := List.exists_cons_of_length_eq_add_one length
      obtain ⟨member, inside⟩ := List.forall_mem_cons.mp all
      exact ⟨letter, rest, rfl, member, inductionHypothesis.mpr ⟨Nat.succ.inj length, inside⟩⟩

/-- One letter and no other, in front of a language. -/
theorem mem_singleton_mul {letter : Letter} {language : Language Letter} :
    word ∈ ({[letter]} : Language Letter) * language ↔
      ∃ rest ∈ language, word = letter :: rest := by
  rw [Language.mem_mul]
  constructor
  · rintro ⟨_, rfl, rest, inside, rfl⟩
    exact ⟨rest, inside, rfl⟩
  · rintro ⟨rest, inside, rfl⟩
    exact ⟨[letter], rfl, rest, inside, rfl⟩

/-! ### Labels with a separator between them -/

section Labels

variable (separator : Letter)

theorem intercalate_append {front back : List (List Letter)} (some : front ≠ [])
    (more : back ≠ []) :
    [separator].intercalate (front ++ back) =
      [separator].intercalate front ++ separator :: [separator].intercalate back := by
  induction front with
  | nil => exact absurd rfl some
  | cons label rest inductionHypothesis =>
    cases rest with
    | nil =>
      rw [List.cons_append, List.nil_append, List.intercalate_cons_of_ne_nil more,
        List.intercalate_singleton, List.append_assoc, List.singleton_append]
    | cons next rest =>
      have later := inductionHypothesis (List.cons_ne_nil _ _)
      rw [List.cons_append, List.cons_append, List.intercalate_cons_cons, ← List.cons_append,
        later, List.intercalate_cons_cons, List.append_assoc, List.append_assoc,
        List.append_assoc]

/-- Only a single empty label gives the empty word. -/
theorem intercalate_eq_nil_iff {labels : List (List Letter)} (some : labels ≠ []) :
    [separator].intercalate labels = [] ↔ labels = [[]] := by
  obtain ⟨label, rest, rfl⟩ := List.exists_cons_of_ne_nil some
  cases rest with
  | nil => rw [List.intercalate_singleton, List.cons.injEq, and_iff_left rfl]
  | cons next rest =>
    rw [List.intercalate_cons_cons]
    refine iff_of_false (fun empty => ?_) fun same => by cases same
    cases (List.append_eq_nil_iff.mp (List.append_eq_nil_iff.mp empty).1).2

variable [DecidableEq Letter]

/-- The labels of a word are made of its letters, less the separator. -/
theorem mem_splitOn {label : List Letter} (found : label ∈ word.splitOn separator) :
    ∀ letter ∈ label, letter ∈ word ∧ letter ≠ separator := by
  induction word generalizing label with
  | nil =>
    rw [List.splitOn_nil, List.mem_singleton] at found
    rw [found]
    exact List.forall_mem_nil _
  | cons head rest inductionHypothesis =>
    have inside : ∀ {label}, label ∈ rest.splitOn separator →
        ∀ letter ∈ label, letter ∈ head :: rest ∧ letter ≠ separator := by
      intro label found letter member
      exact (inductionHypothesis found letter member).imp_left (List.mem_cons_of_mem head)
    rw [List.splitOn_cons_eq_if_modifyHead] at found
    split at found
    · rcases List.mem_cons.mp found with rfl | later
      · exact List.forall_mem_nil _
      · exact inside later
    · rename_i different
      obtain ⟨first, others, split⟩ :=
        List.exists_cons_of_ne_nil (List.splitOn_ne_nil separator rest)
      rw [split, List.modifyHead_cons] at found
      rcases List.mem_cons.mp found with rfl | later
      · refine List.forall_mem_cons.mpr ⟨⟨List.mem_cons_self, ?_⟩, inside ?_⟩
        · simpa using different
        · rw [split]
          exact List.mem_cons_self
      · exact inside (by rw [split]; exact List.mem_cons_of_mem _ later)

/-- The words over a set and the separator are put together from labels over the set. -/
theorem over_insert_iff :
    (∀ letter ∈ word, letter ∈ insert separator set) ↔
      ∃ labels, labels ≠ [] ∧ [separator].intercalate labels = word ∧
        ∀ label ∈ labels, ∀ letter ∈ label, letter ∈ set := by
  constructor
  · intro all
    refine ⟨word.splitOn separator, List.splitOn_ne_nil _ _, List.intercalate_splitOn _,
      fun label found letter member => ?_⟩
    obtain ⟨inside, different⟩ := mem_splitOn separator found letter member
    exact (all letter inside).resolve_left different
  · rintro ⟨labels, some, rfl, all⟩
    clear some
    induction labels with
    | nil => exact List.forall_mem_nil _
    | cons label rest inductionHypothesis =>
      obtain ⟨first, others⟩ := List.forall_mem_cons.mp all
      cases rest with
      | nil =>
        rw [List.intercalate_singleton]
        exact fun letter member => Set.mem_insert_of_mem _ (first letter member)
      | cons next rest =>
        rw [List.intercalate_cons_cons, List.forall_mem_append, List.forall_mem_append,
          List.forall_mem_singleton]
        exact ⟨⟨fun letter member => Set.mem_insert_of_mem _ (first letter member),
          Set.mem_insert _ _⟩, inductionHypothesis others⟩

end Labels

end Library
