/-
This file describes the host names that the DNS resolver service looks up. The pattern of
`IsDomainValid` has a dot in its first class and an optional last group. Of a name that is cut at
its dots it says what the last two or three labels are, and lets the labels before them be empty,
as long as there is something in front of the dot before the domain.
-/

import NetManager.Ipc.DnsResolverService
import NetManager.Library.Letters

namespace NetManager.DnsResolverService

open Library RegularExpression

open scoped Computability

/-! ### The classes of the pattern -/

theorem matches_anyOf (chars : List Char) :
    (anyOf chars).matches' = letters {char | char ∈ chars} := by
  induction chars with
  | nil =>
    ext word
    exact iff_of_false id fun ⟨_, member, _⟩ => List.not_mem_nil member
  | cons head rest inductionHypothesis =>
    have unfolded : anyOf (head :: rest) = RegularExpression.char head + anyOf rest := rfl
    ext word
    rw [unfolded, matches'_add, matches'_char, inductionHypothesis, Language.mem_add,
      mem_letters, mem_letters]
    constructor
    · rintro (rfl | ⟨char, member, rfl⟩)
      · exact ⟨head, List.mem_cons_self, rfl⟩
      · exact ⟨char, List.mem_cons_of_mem _ member, rfl⟩
    · rintro ⟨char, member, rfl⟩
      rcases List.mem_cons.mp member with rfl | later
      · exact Or.inl rfl
      · exact Or.inr ⟨char, later, rfl⟩

theorem matches_repeated (pattern : RegularExpression Char) :
    (repeated pattern).matches' = pattern.matches' * pattern.matches'∗ := by
  unfold repeated
  rw [matches'_mul, matches'_star]

/-- A run of characters, given by the first one and their number. -/
theorem mem_charRange {first count : Nat} (small : first + count ≤ 0xd800) (char : Char) :
    char ∈ (List.range count).map (fun index => Char.ofNat (first + index)) ↔
      first ≤ char.toNat ∧ char.toNat < first + count := by
  have code : ∀ index < count, (Char.ofNat (first + index)).toNat = first + index := by
    intro index bound
    have valid : (first + index).isValidChar := Or.inl (by omega)
    rw [Char.ofNat, dif_pos valid]
    rfl
  constructor
  · intro member
    obtain ⟨index, inside, rfl⟩ := List.mem_map.mp member
    have bound := List.mem_range.mp inside
    rw [code index bound]
    omega
  · rintro ⟨lower, upper⟩
    refine List.mem_map.mpr ⟨char.toNat - first, List.mem_range.mpr (by omega), ?_⟩
    rw [Nat.add_sub_cancel' lower, Char.ofNat_toNat]

theorem mem_digits (char : Char) : char ∈ digits ↔ char.isDigit = true := by
  have run : digits = (List.range 10).map fun index => Char.ofNat (48 + index) := by decide
  rw [run, mem_charRange (by decide), Char.isDigit_iff_toNat]
  exact and_congr_right' Nat.lt_succ_iff

theorem mem_lowercase (char : Char) : char ∈ lowercase ↔ char.isLower = true := by
  have run : lowercase = (List.range 26).map fun index => Char.ofNat (97 + index) := by decide
  have test : char.isLower = (decide (char.val ≥ 'a'.val) && decide (char.val ≤ 'z'.val)) := rfl
  rw [run, mem_charRange (by decide), test, Bool.and_eq_true, decide_eq_true_iff,
    decide_eq_true_iff]
  exact and_congr_right' Nat.lt_succ_iff

theorem mem_uppercase (char : Char) : char ∈ uppercase ↔ char.isUpper = true := by
  have run : uppercase = (List.range 26).map fun index => Char.ofNat (65 + index) := by decide
  have test : char.isUpper = decide (char.val ≥ 'A'.val ∧ char.val ≤ 'Z'.val) := rfl
  rw [run, mem_charRange (by decide), test, decide_eq_true_iff]
  exact and_congr_right' Nat.lt_succ_iff

/-! ### The labels of a host name -/

/-- A letter, a digit, a hyphen or an underscore. -/
def isLabelLetter (char : Char) : Bool :=
  char.isAlphanum || char = '-' || char = '_'

/-- The labels of a host name: the ones of the host, the domain, and its suffix, with the one of a
country behind it or not. -/
structure HostLabels where
  host : List (List Char)
  domain : List Char
  suffix : List Char
  country : Option (List Char)
  hostSome : host ≠ []
  hostNotBlank : host ≠ [[]]
  hostLetters : ∀ label ∈ host, ∀ char ∈ label, isLabelLetter char = true
  domainNotBlank : domain ≠ []
  domainLetters : ∀ char ∈ domain, char.isDigit = true ∨ char.isLower = true
  suffixLength : suffix.length = 2 ∨ suffix.length = 3
  suffixLetters : ∀ char ∈ suffix, char.isLower = true
  countryLetters : ∀ label ∈ country, label.length = 2 ∧ ∀ char ∈ label, char.isLower = true

/-- The labels with a dot between them. -/
def HostLabels.name (this : HostLabels) : List Char :=
  ['.'].intercalate (this.host ++ this.domain :: this.suffix :: this.country.toList)

theorem HostLabels.name_eq (this : HostLabels) :
    this.name = ['.'].intercalate this.host ++ '.' :: (this.domain ++ '.' :: (this.suffix ++
      this.country.elim [] fun label => '.' :: label)) := by
  unfold name
  rw [intercalate_append _ this.hostSome (List.cons_ne_nil _ _), List.intercalate_cons_cons]
  cases this.country with
  | none =>
    rw [Option.toList_none, List.intercalate_singleton, Option.elim_none, List.append_nil,
      List.append_assoc, List.singleton_append]
  | some label =>
    rw [Option.toList_some, List.intercalate_cons_cons, List.intercalate_singleton,
      Option.elim_some, List.append_assoc, List.append_assoc, List.singleton_append,
      List.singleton_append]

/-! ### What the pattern matches -/

theorem mem_hostClass (char : Char) :
    char ∈ digits ++ uppercase ++ lowercase ++ ['-', '_', '.'] ↔
      char ∈ insert '.' {char | isLabelLetter char = true} := by
  have alphanumeric : char.isAlphanum = (char.isUpper || char.isLower || char.isDigit) := rfl
  simp only [List.mem_append, List.mem_cons, List.not_mem_nil, or_false, mem_digits,
    mem_uppercase, mem_lowercase, Set.mem_insert_iff, Set.mem_ofPred_eq, isLabelLetter,
    alphanumeric, Bool.or_eq_true, decide_eq_true_iff]
  tauto

theorem mem_domainClass (char : Char) :
    char ∈ digits ++ lowercase ↔ char.isDigit = true ∨ char.isLower = true := by
  rw [List.mem_append, mem_digits, mem_lowercase]

theorem mem_hostPattern (word : List Char) :
    word ∈ (repeated (anyOf (digits ++ uppercase ++ lowercase ++ ['-', '_', '.']))).matches' ↔
      ∃ labels, labels ≠ [] ∧ labels ≠ [[]] ∧ ['.'].intercalate labels = word ∧
        ∀ label ∈ labels, ∀ char ∈ label, isLabelLetter char = true := by
  rw [matches_repeated, matches_anyOf, mem_letters_mul_kstar]
  constructor
  · rintro ⟨nonempty, all⟩
    obtain ⟨labels, some, rfl, letters⟩ :=
      (over_insert_iff '.').mp fun char member => (mem_hostClass char).mp (all char member)
    refine ⟨labels, some, fun single => nonempty ?_, rfl, letters⟩
    exact (intercalate_eq_nil_iff '.' some).mpr single
  · rintro ⟨labels, some, notEmpty, rfl, letters⟩
    refine ⟨fun empty => notEmpty ((intercalate_eq_nil_iff '.' some).mp empty), ?_⟩
    have all := (over_insert_iff '.').mpr ⟨labels, some, rfl, letters⟩
    exact fun char member => (mem_hostClass char).mpr (all char member)

theorem mem_lowercasePower (count : Nat) (word : List Char) :
    word ∈ (anyOf lowercase ^ count).matches' ↔
      word.length = count ∧ ∀ char ∈ word, char.isLower = true := by
  rw [matches'_pow, matches_anyOf, mem_letters_pow]
  exact and_congr_right' (forall₂_congr fun char _ => mem_lowercase char)

theorem mem_domainLabel (word : List Char) :
    word ∈ (repeated (anyOf (digits ++ lowercase))).matches' ↔
      word ≠ [] ∧ ∀ char ∈ word, char.isDigit = true ∨ char.isLower = true := by
  rw [matches_repeated, matches_anyOf, mem_letters_mul_kstar]
  exact and_congr_right' (forall₂_congr fun char _ => mem_domainClass char)

theorem mem_suffixLabel (word : List Char) :
    word ∈ (anyOf lowercase ^ 2).matches' + (anyOf lowercase ^ 3).matches' ↔
      (word.length = 2 ∨ word.length = 3) ∧ ∀ char ∈ word, char.isLower = true := by
  rw [Language.mem_add, mem_lowercasePower, mem_lowercasePower, or_and_right]

theorem mem_countryLabel (word : List Char) :
    word ∈ 1 + {['.']} * (anyOf lowercase ^ 2).matches' ↔
      ∃ country : Option (List Char), word = country.elim [] (fun label => '.' :: label) ∧
        ∀ label ∈ country, label.length = 2 ∧ ∀ char ∈ label, char.isLower = true := by
  rw [Language.mem_add, Language.mem_one, mem_singleton_mul]
  constructor
  · rintro (rfl | ⟨label, matched, rfl⟩)
    · exact ⟨none, rfl, fun label found => by cases found⟩
    · refine ⟨some label, rfl, fun other found => ?_⟩
      cases found
      exact (mem_lowercasePower 2 label).mp matched
  · rintro ⟨country, rfl, letters⟩
    cases country with
    | none => exact Or.inl rfl
    | some label => exact Or.inr ⟨label, (mem_lowercasePower 2 label).mpr (letters label rfl), rfl⟩

theorem mem_domainPattern (word : List Char) :
    word ∈ domainPattern.matches' ↔ ∃ labels : HostLabels, labels.name = word := by
  unfold domainPattern
  simp only [matches'_mul, matches'_char, matches'_add, matches'_epsilon, mul_assoc]
  constructor
  · intro matched
    obtain ⟨hostWord, hostIn, _, afterHost, rfl⟩ := Language.mem_mul.mp matched
    obtain ⟨_, afterDot, rfl⟩ := mem_singleton_mul.mp afterHost
    obtain ⟨domain, domainIn, _, afterDomain, rfl⟩ := Language.mem_mul.mp afterDot
    obtain ⟨_, afterSecondDot, rfl⟩ := mem_singleton_mul.mp afterDomain
    obtain ⟨suffix, suffixIn, countryWord, countryIn, rfl⟩ := Language.mem_mul.mp afterSecondDot
    obtain ⟨host, some, notEmpty, rfl, hostLetters⟩ := (mem_hostPattern hostWord).mp hostIn
    obtain ⟨domainNotBlank, domainLetters⟩ := (mem_domainLabel domain).mp domainIn
    obtain ⟨suffixLength, suffixLetters⟩ := (mem_suffixLabel suffix).mp suffixIn
    obtain ⟨country, rfl, countryLetters⟩ := (mem_countryLabel countryWord).mp countryIn
    exact ⟨⟨host, domain, suffix, country, some, notEmpty, hostLetters, domainNotBlank,
      domainLetters, suffixLength, suffixLetters, countryLetters⟩, HostLabels.name_eq _⟩
  · rintro ⟨labels, rfl⟩
    rw [labels.name_eq]
    have hostIn := (mem_hostPattern _).mpr
      ⟨labels.host, labels.hostSome, labels.hostNotBlank, rfl, labels.hostLetters⟩
    have domainIn := (mem_domainLabel _).mpr ⟨labels.domainNotBlank, labels.domainLetters⟩
    have suffixIn := (mem_suffixLabel _).mpr ⟨labels.suffixLength, labels.suffixLetters⟩
    have countryIn := (mem_countryLabel _).mpr ⟨labels.country, rfl, labels.countryLetters⟩
    refine Language.append_mem_mul hostIn (mem_singleton_mul.mpr ⟨_, ?_, rfl⟩)
    refine Language.append_mem_mul domainIn (mem_singleton_mul.mpr ⟨_, ?_, rfl⟩)
    exact Language.append_mem_mul suffixIn countryIn

/-- A host name is looked up exactly when its labels are the ones of a host, a domain, a suffix
and, possibly, a country. -/
theorem isDomainValid_iff (hostName : String) :
    isDomainValid hostName = true ↔ ∃ labels : HostLabels, labels.name = hostName.toList := by
  rw [← mem_domainPattern, ← rmatch_iff_matches']
  unfold isDomainValid
  split
  · rename_i empty
    rw [empty]
    exact iff_of_false Bool.false_ne_true (by decide)
  · exact Iff.rfl

example : isDomainValid "www.163.com" = true := by decide

/-- Two or more labels with a dot between them: no label is empty, they are made of letters,
digits, hyphens and underscores, and the last one is made of two or more letters. -/
def IsDotted (hostName : String) : Prop :=
  ∃ labels last, hostName.toList = ['.'].intercalate (labels ++ [last]) ∧ labels ≠ [] ∧
    (∀ label ∈ labels, label ≠ [] ∧ ∀ char ∈ label, isLabelLetter char = true) ∧
    2 ≤ last.length ∧ ∀ char ∈ last, char.isAlpha = true

/-- The labels of a dotted name are the ones that it splits into. -/
theorem IsDotted.nonempty_labels {hostName : String} (dotted : IsDotted hostName) :
    [] ∉ hostName.toList.splitOn '.' := by
  obtain ⟨labels, last, same, -, letters, long, alphabetic⟩ := dotted
  have dotless : ∀ label ∈ labels ++ [last], '.' ∉ label := by
    refine List.forall_mem_append.mpr ⟨fun label member found => ?_,
      List.forall_mem_singleton.mpr fun found => ?_⟩
    · exact absurd ((letters label member).2 '.' found) (by decide)
    · exact absurd (alphabetic '.' found) (by decide)
  rw [same, List.splitOn_intercalate '.' dotless (List.append_ne_nil_of_right_ne_nil _ (by simp))]
  intro empty
  rcases List.mem_append.mp empty with member | member
  · exact (letters [] member).1 rfl
  · rw [← List.mem_singleton.mp member] at long
    exact absurd long (by decide)

/-- A dotted name of two labels is refused, and a name with an empty label is looked up. -/
theorem two_labels_refused :
    (IsDotted "163.com" ∧ isDomainValid "163.com" = false) ∧
      ¬ IsDotted "a..b.cd" ∧ isDomainValid "a..b.cd" = true := by
  have dotted : IsDotted "163.com" := by
    have label : "163".toList.all isLabelLetter = true := by decide
    have last : "com".toList.all Char.isAlpha = true := by decide
    refine ⟨["163".toList], "com".toList, by decide, List.cons_ne_nil _ _, ?_, by decide,
      List.all_eq_true.mp last⟩
    exact List.forall_mem_singleton.mpr ⟨by decide, List.all_eq_true.mp label⟩
  refine ⟨⟨dotted, by decide⟩, fun dotted => ?_, by decide⟩
  exact dotted.nonempty_labels (by decide)

end NetManager.DnsResolverService
