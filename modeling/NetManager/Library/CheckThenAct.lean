/-
This file is about requests that look a key up in shared entries and, when it is missing, add an
entry for it in a second step. Between the two steps of one request the others may take theirs. The
entries keep different keys exactly as long as no request looks its key up while another request
with this key is between its two steps; and then all requests with one key get one answer.
-/

import NetManager.Library.Run
import Mathlib.Data.List.Nodup
import Mathlib.Logic.Function.Basic

namespace Library

/-- How far a request has come: it has missed its key when its second step is still to come. -/
inductive Progress (Answer : Type)
  | waiting
  | missed
  | answered (answer : Answer)
deriving DecidableEq

/-- What the requests share, and how far each of them has come. -/
structure InFlight (Shared Thread Answer : Type) where
  shared : Shared
  progress : Thread → Progress Answer

/-- Requests in two steps over shared entries. A request without a key is refused at once; the
check answers with the first entry of the key, and acting appends an entry. -/
structure CheckThenAct (Shared Request Key Answer : Type) [DecidableEq Key] where
  check : Shared → Request → Option Answer
  act : Shared → Request → Answer × Shared
  key : Request → Option Key
  refusal : Answer
  entries : Shared → List (Key × Answer)
  Valid : Shared → Prop
  check_refused : ∀ shared request, key request = none → check shared request = some refusal
  check_entries : ∀ shared request name, key request = some name →
    check shared request = ((entries shared).find? fun entry => entry.1 = name).map Prod.snd
  valid_act : ∀ shared request, Valid shared → Valid (act shared request).2
  entries_act : ∀ shared request name, Valid shared → key request = some name →
    entries (act shared request).2 = entries shared ++ [(name, (act shared request).1)]

namespace CheckThenAct

variable {Shared Request Key Answer Thread : Type} [DecidableEq Key] [DecidableEq Thread]
variable (this : CheckThenAct Shared Request Key Answer) (requests : Thread → Request)

/-! ### Steps -/

/-- One step of a request. -/
def step (state : InFlight Shared Thread Answer) (thread : Thread) :
    InFlight Shared Thread Answer :=
  match state.progress thread with
  | .waiting =>
    match this.check state.shared (requests thread) with
    | some answer =>
      { state with progress := Function.update state.progress thread (.answered answer) }
    | none => { state with progress := Function.update state.progress thread .missed }
  | .missed =>
    let acted := this.act state.shared (requests thread)
    { shared := acted.2
      progress := Function.update state.progress thread (.answered acted.1) }
  | .answered _ => state

/-- No request has begun. -/
def begin (shared : Shared) : InFlight Shared Thread Answer where
  shared := shared
  progress := fun _ => .waiting

/-- The keys of the entries. -/
def keys (shared : Shared) : List Key := (this.entries shared).map Prod.fst

/-- What a step can do. -/
inductive Step (state : InFlight Shared Thread Answer) (thread : Thread) :
    InFlight Shared Thread Answer → Prop
  | refused (waiting : state.progress thread = .waiting)
      (keyless : this.key (requests thread) = none) :
      Step state thread
        { state with progress := Function.update state.progress thread (.answered this.refusal) }
  | found (name : Key) (answer : Answer) (waiting : state.progress thread = .waiting)
      (own : this.key (requests thread) = some name)
      (listed : (name, answer) ∈ this.entries state.shared) :
      Step state thread
        { state with progress := Function.update state.progress thread (.answered answer) }
  | missed (name : Key) (waiting : state.progress thread = .waiting)
      (own : this.key (requests thread) = some name) (absent : name ∉ this.keys state.shared) :
      Step state thread
        { state with progress := Function.update state.progress thread .missed }
  | acted (name : Key) (answer : Answer) (after : Shared)
      (missed : state.progress thread = .missed) (own : this.key (requests thread) = some name)
      (valid : this.Valid after)
      (appended : this.entries after = this.entries state.shared ++ [(name, answer)]) :
      Step state thread
        { shared := after
          progress := Function.update state.progress thread (.answered answer) }
  | idle (answer : Answer) (done : state.progress thread = .answered answer) :
      Step state thread state

/-- The entries are sound for the requests: they are valid, only requests with a key miss it, and
the answers are refusals and entries. -/
structure Sound (state : InFlight Shared Thread Answer) : Prop where
  valid : this.Valid state.shared
  missed : ∀ thread, state.progress thread = .missed →
    ∃ name, this.key (requests thread) = some name
  answered : ∀ thread answer, state.progress thread = .answered answer →
    this.key (requests thread) = none ∧ answer = this.refusal ∨
      ∃ name, this.key (requests thread) = some name ∧ (name, answer) ∈ this.entries state.shared

variable {this requests}

theorem step_spec {state : InFlight Shared Thread Answer} (sound : this.Sound requests state)
    (thread : Thread) : this.Step requests state thread (this.step requests state thread) := by
  unfold step
  cases reached : state.progress thread with
  | waiting =>
    dsimp only
    cases named : this.key (requests thread) with
    | none =>
      rw [this.check_refused _ _ named]
      exact .refused reached named
    | some name =>
      rw [this.check_entries _ _ name named]
      cases found : (this.entries state.shared).find? fun entry => entry.1 = name with
      | none =>
        refine .missed name reached named fun listed => ?_
        obtain ⟨entry, member, same⟩ := List.mem_map.mp listed
        exact List.find?_eq_none.mp found entry member (decide_eq_true same)
      | some entry =>
        have hit := List.find?_some found
        have same : entry.1 = name := of_decide_eq_true hit
        refine .found name entry.2 reached named ?_
        rw [← same]
        exact List.mem_of_find?_eq_some found
  | missed =>
    obtain ⟨name, named⟩ := sound.missed thread reached
    exact .acted name _ _ reached named (this.valid_act _ _ sound.valid)
      (this.entries_act _ _ name sound.valid named)
  | answered answer => exact .idle answer reached

/-- After a step of a request, a request is where it was, or it is the one that took the step. -/
theorem progress_cases {progress : Thread → Progress Answer} {thread other : Thread}
    {now reached : Progress Answer}
    (after : Function.update progress thread now other = reached) :
    other = thread ∧ now = reached ∨ other ≠ thread ∧ progress other = reached := by
  by_cases same : other = thread
  · rw [same, Function.update_self] at after
    exact Or.inl ⟨same, after⟩
  · rw [Function.update_of_ne same] at after
    exact Or.inr ⟨same, after⟩

/-- After a request was answered, the requests that miss their keys missed them before. -/
theorem missed_of_answered {progress : Thread → Progress Answer} {thread other : Thread}
    {answer : Answer} (after : Function.update progress thread (.answered answer) other = .missed) :
    other ≠ thread ∧ progress other = .missed := by
  rcases progress_cases after with ⟨_, now⟩ | before
  · cases now
  · exact before

/-! ### Answers -/

theorem Sound.step {state : InFlight Shared Thread Answer} (sound : this.Sound requests state)
    (thread : Thread) : this.Sound requests (this.step requests state thread) := by
  have taken := step_spec sound thread
  generalize this.step requests state thread = after at taken
  cases taken with
  | refused waiting keyless =>
    refine ⟨sound.valid, fun other reached => ?_, fun other answer reached => ?_⟩
    · exact sound.missed other (missed_of_answered reached).2
    · rcases progress_cases reached with ⟨rfl, now⟩ | ⟨_, before⟩
      · exact Or.inl ⟨keyless, (Progress.answered.inj now).symm⟩
      · exact sound.answered other answer before
  | found name answer waiting own listed =>
    refine ⟨sound.valid, fun other reached => ?_, fun other answered reached => ?_⟩
    · exact sound.missed other (missed_of_answered reached).2
    · rcases progress_cases reached with ⟨rfl, now⟩ | ⟨_, before⟩
      · rw [← Progress.answered.inj now]
        exact Or.inr ⟨name, own, listed⟩
      · exact sound.answered other answered before
  | missed name waiting own absent =>
    refine ⟨sound.valid, fun other reached => ?_, fun other answer reached => ?_⟩
    · rcases progress_cases reached with ⟨rfl, _⟩ | ⟨_, before⟩
      · exact ⟨name, own⟩
      · exact sound.missed other before
    · rcases progress_cases reached with ⟨_, now⟩ | ⟨_, before⟩
      · cases now
      · exact sound.answered other answer before
  | acted name answer shared missed own valid appended =>
    refine ⟨valid, fun other reached => ?_, fun other answered reached => ?_⟩
    · exact sound.missed other (missed_of_answered reached).2
    · show _ ∨ ∃ name, _ ∧ (name, answered) ∈ this.entries shared
      rw [appended]
      rcases progress_cases reached with ⟨rfl, now⟩ | ⟨_, before⟩
      · rw [← Progress.answered.inj now]
        exact Or.inr ⟨name, own, List.mem_append_right _ (List.mem_singleton_self _)⟩
      · rcases sound.answered other answered before with refused | ⟨name, own, listed⟩
        · exact Or.inl refused
        · exact Or.inr ⟨name, own, List.mem_append_left _ listed⟩
  | idle answer done => exact sound

omit [DecidableEq Thread] in
theorem sound_begin {shared : Shared} (valid : this.Valid shared) :
    this.Sound requests (begin shared) where
  valid := valid
  missed := fun _ reached => by cases reached
  answered := fun _ _ reached => by cases reached

omit [DecidableEq Thread] in
/-- When all keys are different, requests with one key have one answer. -/
theorem Sound.agree {state : InFlight Shared Thread Answer} (sound : this.Sound requests state)
    (distinct : (this.keys state.shared).Nodup) {first second : Thread}
    (same : this.key (requests first) = this.key (requests second)) {one other : Answer}
    (firstDone : state.progress first = .answered one)
    (secondDone : state.progress second = .answered other) : one = other := by
  rcases sound.answered first one firstDone with ⟨keyless, rfl⟩ | ⟨name, own, listed⟩
  · rcases sound.answered second other secondDone with ⟨_, rfl⟩ | ⟨name, own, _⟩
    · rfl
    · rw [← same, keyless] at own
      cases own
  · rcases sound.answered second other secondDone with ⟨keyless, _⟩ | ⟨_, otherOwn, otherListed⟩
    · rw [same, keyless] at own
      cases own
    · rw [← same, own, Option.some.injEq] at otherOwn
      subst otherOwn
      have equal := List.inj_on_of_nodup_map distinct listed otherListed rfl
      exact congrArg Prod.snd equal

/-! ### Keys -/

variable (this requests)

/-- The entries have different keys, and so will they have when the requests that missed their
keys have acted. -/
structure Apart (state : InFlight Shared Thread Answer) : Prop where
  keys : (this.keys state.shared).Nodup
  absent : ∀ thread, state.progress thread = .missed → ∀ name,
    this.key (requests thread) = some name → name ∉ this.keys state.shared
  alone : ∀ first second, first ≠ second → state.progress first = .missed →
    state.progress second = .missed → this.key (requests first) ≠ this.key (requests second)

/-- A request looks its key up when no other request with this key is between its two steps. -/
def ChecksAlone (state : InFlight Shared Thread Answer) (thread : Thread) : Prop :=
  state.progress thread = .waiting → ∀ other, state.progress other = .missed →
    this.key (requests other) ≠ this.key (requests thread)

variable {this requests}

/-- The keys after an entry was appended. -/
theorem keys_appended {before after : Shared} {name : Key} {answer : Answer}
    (appended : this.entries after = this.entries before ++ [(name, answer)]) :
    this.keys after = this.keys before ++ [name] := by
  unfold keys
  rw [appended, List.map_append, List.map_singleton]

/-- Answering a request that had not missed its key. -/
theorem apart_answered {state : InFlight Shared Thread Answer} {thread : Thread}
    (waiting : state.progress thread = .waiting) (answer : Answer) :
    this.Apart requests
        { state with progress := Function.update state.progress thread (.answered answer) } ↔
      this.Apart requests state := by
  constructor
  · intro after
    have still {other : Thread} (missed : state.progress other = .missed) :
        Function.update state.progress thread (.answered answer) other = .missed := by
      rw [Function.update_of_ne, missed]
      rintro rfl
      rw [waiting] at missed
      cases missed
    refine ⟨after.keys, fun other missed => after.absent other (still missed), ?_⟩
    exact fun first second different missed otherMissed =>
      after.alone first second different (still missed) (still otherMissed)
  · intro apart
    refine ⟨apart.keys, fun other missed => apart.absent other (missed_of_answered missed).2, ?_⟩
    exact fun first second different missed otherMissed => apart.alone first second different
      (missed_of_answered missed).2 (missed_of_answered otherMissed).2

/-- A request missing its key, which no entry has. -/
theorem apart_missed {state : InFlight Shared Thread Answer} {thread : Thread} {name : Key}
    (waiting : state.progress thread = .waiting) (own : this.key (requests thread) = some name)
    (absent : name ∉ this.keys state.shared) :
    this.Apart requests
        { state with progress := Function.update state.progress thread .missed } ↔
      this.Apart requests state ∧ this.ChecksAlone requests state thread := by
  constructor
  · intro after
    have still {other : Thread} (missed : state.progress other = .missed) :
        other ≠ thread ∧ Function.update state.progress thread .missed other = .missed := by
      have different : other ≠ thread := by
        rintro rfl
        rw [waiting] at missed
        cases missed
      exact ⟨different, (Function.update_of_ne different _ _).trans missed⟩
    refine ⟨⟨after.keys, fun other missed => after.absent other (still missed).2, ?_⟩, ?_⟩
    · exact fun first second different missed otherMissed =>
        after.alone first second different (still missed).2 (still otherMissed).2
    · exact fun _ other missed => after.alone other thread (still missed).1 (still missed).2
        (Function.update_self _ _ _)
  · rintro ⟨apart, alone⟩
    refine ⟨apart.keys, ?_, ?_⟩
    · intro other reached otherName otherOwn
      rcases progress_cases reached with ⟨rfl, _⟩ | ⟨_, before⟩
      · rw [own, Option.some.injEq] at otherOwn
        exact otherOwn ▸ absent
      · exact apart.absent other before otherName otherOwn
    · intro first second different reached otherReached
      rcases progress_cases reached with ⟨rfl, _⟩ | ⟨_, before⟩
      · rcases progress_cases otherReached with ⟨rfl, _⟩ | ⟨_, otherBefore⟩
        · exact absurd rfl different
        · exact (alone waiting second otherBefore).symm
      · rcases progress_cases otherReached with ⟨rfl, _⟩ | ⟨_, otherBefore⟩
        · exact alone waiting first before
        · exact apart.alone first second different before otherBefore

/-- A request appending the entry it missed. -/
theorem apart_acted {state : InFlight Shared Thread Answer} {thread : Thread} {name : Key}
    {answer : Answer} {after : Shared} (missed : state.progress thread = .missed)
    (own : this.key (requests thread) = some name)
    (appended : this.entries after = this.entries state.shared ++ [(name, answer)]) :
    this.Apart requests
        { shared := after
          progress := Function.update state.progress thread (.answered answer) } ↔
      this.Apart requests state := by
  have keys : this.keys after = this.keys state.shared ++ [name] := keys_appended appended
  constructor
  · rintro ⟨distinct, listed, alone⟩
    dsimp only at distinct listed alone
    rw [keys, ← List.concat_eq_append, List.nodup_concat] at distinct
    -- The other requests that missed their keys still miss them, and not the key appended.
    have apart {other : Thread} (different : other ≠ thread)
        (otherMissed : state.progress other = .missed) {otherName : Key}
        (otherOwn : this.key (requests other) = some otherName) :
        otherName ∉ this.keys state.shared ∧ otherName ≠ name := by
      have absent := listed other ((Function.update_of_ne different _ _).trans otherMissed) _
        otherOwn
      rw [keys, List.mem_append, not_or, List.mem_singleton] at absent
      exact absent
    refine ⟨distinct.2, ?_, ?_⟩
    · intro other otherMissed otherName otherOwn
      by_cases same : other = thread
      · rw [same, own, Option.some.injEq] at otherOwn
        exact otherOwn ▸ distinct.1
      · exact (apart same otherMissed otherOwn).1
    · intro first second different firstMissed secondMissed equal
      by_cases same : first = thread
      · subst same
        exact (apart different.symm secondMissed (equal.symm.trans own)).2 rfl
      · by_cases otherSame : second = thread
        · subst otherSame
          exact (apart different firstMissed (equal.trans own)).2 rfl
        · exact alone first second different
            ((Function.update_of_ne same _ _).trans firstMissed)
            ((Function.update_of_ne otherSame _ _).trans secondMissed) equal
  · intro apart
    refine ⟨?_, ?_, ?_⟩
    · show (this.keys after).Nodup
      rw [keys, ← List.concat_eq_append]
      exact apart.keys.concat (apart.absent thread missed name own)
    · intro other reached otherName otherOwn
      obtain ⟨different, before⟩ := missed_of_answered reached
      show otherName ∉ this.keys after
      rw [keys, List.mem_append, not_or, List.mem_singleton]
      refine ⟨apart.absent other before otherName otherOwn, ?_⟩
      rintro rfl
      exact apart.alone other thread different before missed (otherOwn.trans own.symm)
    · exact fun first second different reached otherReached => apart.alone first second different
        (missed_of_answered reached).2 (missed_of_answered otherReached).2

/-- A step keeps the keys apart exactly when the request does not look its key up while another one
has missed it. -/
theorem Apart.step_iff {state : InFlight Shared Thread Answer} (sound : this.Sound requests state)
    (apart : this.Apart requests state) (thread : Thread) :
    this.Apart requests (this.step requests state thread) ↔
      this.ChecksAlone requests state thread := by
  have taken := step_spec sound thread
  generalize this.step requests state thread = after at taken
  cases taken with
  | refused waiting keyless =>
    refine iff_of_true ((apart_answered waiting _).mpr apart) fun _ other missed => ?_
    obtain ⟨name, own⟩ := sound.missed other missed
    rw [own, keyless]
    exact Option.some_ne_none name
  | found name answer waiting own listed =>
    refine iff_of_true ((apart_answered waiting _).mpr apart) fun _ other missed same => ?_
    exact apart.absent other missed name (same.trans own) (List.mem_map_of_mem listed)
  | missed name waiting own absent =>
    exact (apart_missed waiting own absent).trans (and_iff_right apart)
  | acted name answer shared missed own valid appended =>
    refine iff_of_true ((apart_acted missed own appended).mpr apart) fun waiting => ?_
    rw [missed] at waiting
    cases waiting
  | idle answer done =>
    refine iff_of_true apart fun waiting => ?_
    rw [done] at waiting
    cases waiting

/-- Keys that are not apart stay so. -/
theorem Apart.of_step {state : InFlight Shared Thread Answer} (sound : this.Sound requests state)
    {thread : Thread} (after : this.Apart requests (this.step requests state thread)) :
    this.Apart requests state := by
  have taken := step_spec sound thread
  generalize this.step requests state thread = reached at taken after
  cases taken with
  | refused waiting keyless => exact (apart_answered waiting _).mp after
  | found name answer waiting own listed => exact (apart_answered waiting _).mp after
  | missed name waiting own absent => exact ((apart_missed waiting own absent).mp after).1
  | acted name answer shared missed own valid appended =>
    exact (apart_acted missed own appended).mp after
  | idle answer done => exact after

/-! ### Runs -/

omit [DecidableEq Thread] in
/-- When no request has begun, the keys are apart when they are different. -/
theorem apart_begin {shared : Shared} (distinct : (this.keys shared).Nodup) :
    this.Apart requests (begin shared) where
  keys := distinct
  absent := fun _ reached => by cases reached
  alone := fun _ _ _ reached => by cases reached

/-- When every request is answered, the keys are different exactly when on the way no request looked
its key up while another one had missed it. -/
theorem distinct_run_iff {shared : Shared} (valid : this.Valid shared)
    (distinct : (this.keys shared).Nodup) (schedule : List Thread)
    (finished : ∀ thread, ∃ answer,
      (run (this.step requests) (begin shared) schedule).progress thread = .answered answer) :
    (this.keys (run (this.step requests) (begin shared) schedule).shared).Nodup ↔
      Guarded (this.step requests) (this.ChecksAlone requests) (begin shared) schedule := by
  have preserved : ∀ state thread, this.Sound requests state →
      this.Sound requests (this.step requests state thread) := fun _ thread sound =>
    sound.step thread
  have guarded := always_iff_guarded (this.step requests) preserved
    (fun _ thread sound apart => Apart.step_iff sound apart thread) (sound_begin valid)
    (apart_begin distinct) schedule
  have atEnd := always_iff_run (this.step requests) preserved
    (fun _ _ sound => Apart.of_step sound) (sound_begin valid) schedule
  rw [← guarded, atEnd]
  refine ⟨fun keys => ⟨keys, ?_, ?_⟩, Apart.keys⟩
  · intro thread missed
    obtain ⟨answer, answered⟩ := finished thread
    rw [answered] at missed
    cases missed
  · intro thread _ _ missed
    obtain ⟨answer, answered⟩ := finished thread
    rw [answered] at missed
    cases missed

end CheckThenAct

end Library
