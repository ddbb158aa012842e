/-
This file gives a writer and a reader of policy files that fit together, so that what the
service relies on in jsoncpp can be met: the writer lays a policy file out as
`Json::StreamWriter` does with its default settings, and the reader reads that layout. Only
quotes and backslashes are escaped; the texts of the service are decimal numbers and version
numbers.
-/

import NetManager.Policy.Reload

namespace NetManager.JsonText

open NetPolicyFile

/-! ### Writing -/

/-- A character inside a quoted text. -/
def escape (character : Char) : List Char :=
  if character = '"' ∨ character = '\\' then ['\\', character] else [character]

/-- A quoted text. -/
def quoted (text : String) : List Char := '"' :: (text.toList.flatMap escape ++ ['"'])

/-- An entry of the file. -/
def entryText (entry : UidPolicy) : List Char :=
  "\n\t\t\x7b\n\t\t\t\"policy\" : ".toList ++ (quoted entry.policy ++
    (",\n\t\t\t\"uid\" : ".toList ++ (quoted entry.uid ++ "\n\t\t\x7d".toList)))

/-- Entries with commas between them. -/
def entriesText : List UidPolicy → List Char
  | [] => []
  | [entry] => entryText entry
  | entry :: next :: rest => entryText entry ++ ',' :: entriesText (next :: rest)

/-- The rest of the file, behind the version. -/
def tailText (entries : List UidPolicy) : List Char :=
  if entries = [] then "\n\x7d".toList
  else ",\n\t\"uidPolicy\" : \n\t[".toList ++ (entriesText entries ++ "\n\t]\n\x7d".toList)

/-- A policy file. -/
def fileText (version : String) (entries : List UidPolicy) : String :=
  String.ofList ("\x7b\n\t\"hosVersion\" : ".toList ++ (quoted version ++ tailText entries))

/-- The entry a value stands for. -/
def asEntry : JsonValue → UidPolicy
  | .object [(_, .string policy), (_, .string uid)] => ⟨uid, policy⟩
  | _ => ⟨"", ""⟩

/-- The text of the value of a policy file. -/
def write : JsonValue → String
  | .object [(_, .string version)] => fileText version []
  | .object [(_, .string version), (_, .array entries)] => fileText version (entries.map asEntry)
  | _ => ""

/-! ### Reading -/

/-- Skip a text. -/
def expect : List Char → List Char → Option (List Char)
  | [], input => some input
  | _ :: _, [] => none
  | wanted :: text, character :: input =>
    if wanted = character then expect text input else none

/-- The rest of a quoted text. -/
def unquote : List Char → Option (List Char × List Char)
  | [] => none
  | '"' :: input => some ([], input)
  | '\\' :: character :: input => (unquote input).map fun read => (character :: read.1, read.2)
  | character :: input => (unquote input).map fun read => (character :: read.1, read.2)

/-- A quoted text. -/
def readQuoted (input : List Char) : Option (String × List Char) := do
  let input ← expect ['"'] input
  let (text, input) ← unquote input
  return (String.ofList text, input)

/-- An entry of the file. -/
def readEntryText (input : List Char) : Option (UidPolicy × List Char) := do
  let input ← expect "\n\t\t\x7b\n\t\t\t\"policy\" : ".toList input
  let (policy, input) ← readQuoted input
  let input ← expect ",\n\t\t\t\"uid\" : ".toList input
  let (uid, input) ← readQuoted input
  let input ← expect "\n\t\t\x7d".toList input
  return (⟨uid, policy⟩, input)

/-- Entries with commas between them, as many as the first argument at most. -/
def readEntriesText : Nat → List Char → Option (List UidPolicy × List Char)
  | 0, _ => none
  | most + 1, input => do
    let (entry, input) ← readEntryText input
    match input with
    | ',' :: input => do
      let (entries, input) ← readEntriesText most input
      return (entry :: entries, input)
    | input => return ([entry], input)

/-- The rest of the file, behind the version. -/
def readTail (input : List Char) : Option (List UidPolicy) :=
  match input with
  | ',' :: _ => do
    let input ← expect ",\n\t\"uidPolicy\" : \n\t[".toList input
    let (entries, _) ← readEntriesText input.length input
    return entries
  | _ => some []

/-- The value of a policy file. -/
def read (text : String) : Option JsonValue := do
  let input ← expect "\x7b\n\t\"hosVersion\" : ".toList text.toList
  let (version, input) ← readQuoted input
  let entries ← readTail input
  return .object (("hosVersion", .string version) ::
    if entries = [] then [] else [("uidPolicy", .array (entries.map entryValue))])

/-! ### The reader reads what the writer writes -/

theorem expect_append (text input : List Char) : expect text (text ++ input) = some input := by
  induction text with
  | nil => rfl
  | cons wanted text inductionHypothesis =>
    rw [List.cons_append, expect, if_pos rfl, inductionHypothesis]

theorem unquote_escape (text input : List Char) :
    unquote (text.flatMap escape ++ '"' :: input) = some (text, input) := by
  induction text with
  | nil => rfl
  | cons character text inductionHypothesis =>
    rw [List.flatMap_cons, List.append_assoc]
    by_cases special : character = '"' ∨ character = '\\'
    · rw [show escape character = ['\\', character] from if_pos special]
      show (unquote (text.flatMap escape ++ '"' :: input)).map _ = _
      rw [inductionHypothesis]
      rfl
    · rw [show escape character = [character] from if_neg special]
      rw [not_or] at special
      rw [List.singleton_append, unquote, inductionHypothesis]
      · rfl
      · exact special.1
      · intro _ _ same _
        exact special.2 same

theorem readQuoted_append (text : String) (input : List Char) :
    readQuoted (quoted text ++ input) = some (text, input) := by
  have opened : expect ['"'] (quoted text ++ input) =
      some (text.toList.flatMap escape ++ '"' :: input) := by
    unfold quoted
    rw [List.cons_append, List.append_assoc]
    exact expect_append ['"'] _
  unfold readQuoted
  rw [opened]
  show (unquote (text.toList.flatMap escape ++ '"' :: input) >>= _) = _
  rw [unquote_escape]
  exact congrArg (fun text => some (text, input)) String.ofList_toList

theorem readEntryText_append (entry : UidPolicy) (input : List Char) :
    readEntryText (entryText entry ++ input) = some (entry, input) := by
  unfold readEntryText entryText
  simp only [List.append_assoc, expect_append, readQuoted_append, Option.bind_eq_bind,
    Option.bind_some]
  rfl

theorem length_le_entriesText (entries : List UidPolicy) :
    entries.length ≤ (entriesText entries).length := by
  induction entries with
  | nil => exact Nat.le_refl 0
  | cons entry rest inductionHypothesis =>
    cases rest with
    | nil => exact Nat.succ_le_of_lt (Nat.zero_lt_succ _)
    | cons next rest =>
      simp only [entriesText, List.length_append, List.length_cons] at inductionHypothesis ⊢
      omega

theorem readEntriesText_append (entries : List UidPolicy) (nonempty : entries ≠ [])
    (input : List Char) (most : Nat) (enough : entries.length ≤ most) :
    readEntriesText most (entriesText entries ++ '\n' :: input) =
      some (entries, '\n' :: input) := by
  induction entries generalizing most with
  | nil => exact absurd rfl nonempty
  | cons entry rest inductionHypothesis =>
    obtain ⟨most, rfl⟩ : ∃ less, most = less + 1 := Nat.exists_eq_succ_of_ne_zero (by
      rintro rfl
      exact absurd enough (by simp))
    cases rest with
    | nil =>
      rw [entriesText, readEntriesText, readEntryText_append]
      rfl
    | cons next rest =>
      have later := inductionHypothesis (by simp) most (Nat.le_of_succ_le_succ enough)
      rw [entriesText, readEntriesText, List.append_assoc, readEntryText_append]
      show (readEntriesText most (entriesText (next :: rest) ++ '\n' :: input) >>= _) = _
      rw [later]
      rfl

theorem readTail_tailText (entries : List UidPolicy) :
    readTail (tailText entries) = some entries := by
  unfold tailText
  by_cases nothing : entries = []
  · rw [if_pos nothing, nothing]
    rfl
  · rw [if_neg nothing]
    show (expect _ (",\n\t\"uidPolicy\" : \n\t[".toList ++ _) >>= _) = _
    rw [expect_append]
    have enough : entries.length ≤ (entriesText entries ++ "\n\t]\n\x7d".toList).length := by
      rw [List.length_append]
      exact (length_le_entriesText entries).trans (Nat.le_add_right _ _)
    show (readEntriesText _ (entriesText entries ++ '\n' :: "\t]\n\x7d".toList) >>= _) = _
    rw [readEntriesText_append entries nothing _ _ enough]
    rfl

theorem asEntry_entryValue (entry : UidPolicy) : asEntry (entryValue entry) = entry := rfl

/-- The text of the value of a policy. -/
theorem write_rootValue (netPolicy : NetPolicy) :
    write (rootValue netPolicy) =
      fileText netPolicy.hosVersion (savedEntries netPolicy.uidPolicys) := by
  unfold rootValue
  dsimp only
  by_cases nothing : savedEntries netPolicy.uidPolicys = []
  · rw [if_pos nothing, nothing]
    rfl
  · rw [if_neg nothing]
    show fileText _ ((List.map entryValue _).map asEntry) = _
    rw [List.map_map, show asEntry ∘ entryValue = id from funext asEntry_entryValue, List.map_id]

theorem read_fileText (version : String) (entries : List UidPolicy) :
    read (fileText version entries) =
      some (.object (("hosVersion", .string version) ::
        if entries = [] then [] else [("uidPolicy", .array (entries.map entryValue))])) := by
  have input : (fileText version entries).toList =
      "\x7b\n\t\"hosVersion\" : ".toList ++ (quoted version ++ tailText entries) :=
    String.toList_ofList
  unfold read
  rw [input, expect_append]
  show (readQuoted (quoted version ++ tailText entries) >>= _) = _
  rw [readQuoted_append]
  show (readTail (tailText entries) >>= _) = _
  rw [readTail_tailText]
  rfl

/-- The reader and the writer meet what the service relies on. -/
theorem readsBack : ReadsBack write read where
  written netPolicy := by
    rw [write_rootValue, read_fileText]
    rfl
  empty := rfl

end NetManager.JsonText
