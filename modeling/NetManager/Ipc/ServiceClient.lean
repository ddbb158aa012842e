/-
This file models how a client process gets hold of a service. The clients of the four services
share this code: `GetProxy` asks the system ability manager for the remote object once and has
itself told of its death, and `OnRemoteDied` forgets the proxy, unless the notice is about another
object. The services come and go, and a notice may be on its way for any time.

No client holds on to a dead object for ever: when the object of its proxy is dead, a notice of that
is under way to this client. And no client lets go of a living one: whatever notices arrive, the
proxy stays until its object has died.
-/

import Mathlib.Data.Finset.Insert
import Mathlib.Data.Finset.Erase
import NetManager.Library.Run

namespace NetManager

open Library

/-! ### Client processes -/

/-- A death recipient of a client process, on a remote object. -/
structure DeathLink where
  object : Nat
  recipient : Nat
deriving DecidableEq, Repr

/-- A client process: the proxy of the client, known by its remote object, the last death recipient
it has made, the recipients that wait for a death, and the notices that are on their way. -/
structure ClientProcess where
  service : Option Nat := none
  deathRecipient : Option Nat := none
  nextRecipient : Nat := 0
  waiting : List DeathLink := []
  notices : List DeathLink := []
deriving DecidableEq, Repr

/-- The remote objects of a service that were made so far, and those that are alive. -/
structure ServiceObjects where
  made : Nat := 0
  alive : Finset Nat := ∅
deriving DecidableEq

/-- What is answered while a client gets its proxy: is there a manager, which object it returns, is
the death recipient added, and is the object one of the interface. -/
structure ProxyAnswers where
  systemAbilityManager : Bool
  checkSystemAbility : Option Nat
  addDeathRecipient : Bool
  ifaceCast : Bool
deriving DecidableEq, Repr

namespace ServiceObjects

/-- What `CheckSystemAbility` returns to a process. An object that was never made is not returned,
nor a dead one of the process itself, which would have ended with it. -/
def check (isProxyObject : Nat → Bool) (objects : ServiceObjects) (answers : ProxyAnswers) :
    Option Nat :=
  answers.checkSystemAbility.filter fun object =>
    object < objects.made ∧ (isProxyObject object = true ∨ object ∈ objects.alive)

end ServiceObjects

namespace ClientProcess

/-- `IRemoteObject::AddDeathRecipient`, when it succeeds. The death of a dead object is told at
once. -/
def watch (process : ClientProcess) (objects : ServiceObjects) (link : DeathLink) :
    ClientProcess :=
  if link.object ∈ objects.alive then { process with waiting := process.waiting ++ [link] }
  else { process with notices := process.notices ++ [link] }

/-- What `GetProxy` does with a remote object. Only the death of an object of another process is
told. -/
def takeProxy (isProxyObject : Nat → Bool) (objects : ServiceObjects) (answers : ProxyAnswers)
    (remote : Nat) (process : ClientProcess) : Option Nat × ClientProcess :=
  let link : DeathLink := ⟨remote, process.nextRecipient⟩
  let prepared := { process with
    deathRecipient := some link.recipient
    nextRecipient := process.nextRecipient + 1 }
  if isProxyObject remote && !answers.addDeathRecipient then (none, prepared)
  else
    let watching := if isProxyObject remote then prepared.watch objects link else prepared
    if answers.ifaceCast then (some remote, { watching with service := some remote })
    else (none, watching)

theorem takeProxy_granted (isProxyObject : Nat → Bool) (objects : ServiceObjects)
    {answers : ProxyAnswers} (process : ClientProcess) (added : answers.addDeathRecipient = true)
    (cast : answers.ifaceCast = true) (remote : Nat) :
    (process.takeProxy isProxyObject objects answers remote).1 = some remote := by
  unfold takeProxy
  rw [added, cast]
  cases isProxyObject remote with
  | true => rfl
  | false => rfl

/-- `GetProxy` of the client. -/
def getProxy (isProxyObject : Nat → Bool) (objects : ServiceObjects) (answers : ProxyAnswers)
    (process : ClientProcess) : Option Nat × ClientProcess :=
  match process.service with
  | some service => (some service, process)
  | none =>
    if !answers.systemAbilityManager then (none, process)
    else
      match objects.check isProxyObject answers with
      | none => (none, process)
      | some remote => process.takeProxy isProxyObject objects answers remote

/-- `OnRemoteDied` of the client. A null pointer is about no object. -/
def onRemoteDied (remote : Option Nat) (process : ClientProcess) : ClientProcess :=
  match process.service with
  | none => process
  | some service =>
    if remote ≠ some service then process
    else
      { process with
        service := none
        waiting := process.waiting.filter fun link =>
          ¬(link.object = service ∧ some link.recipient = process.deathRecipient) }

/-- A notice about another object changes nothing. -/
theorem onRemoteDied_of_ne {process : ClientProcess} {object : Nat}
    (other : process.service ≠ some object) : process.onRemoteDied (some object) = process := by
  unfold onRemoteDied
  cases held : process.service with
  | none => rfl
  | some service => exact if_pos fun same => other (held.trans same.symm)

/-- A notice about the object of the proxy makes the client forget it. -/
theorem onRemoteDied_of_eq {process : ClientProcess} {object : Nat}
    (held : process.service = some object) :
    process.onRemoteDied (some object) =
      { process with
        service := none
        waiting := process.waiting.filter fun link =>
          ¬(link.object = object ∧ some link.recipient = process.deathRecipient) } := by
  unfold onRemoteDied
  rw [held]
  exact if_neg (not_not_intro rfl)

/-- The death of an object of another process is told to everyone who waits for it. -/
def died (object : Nat) (process : ClientProcess) : ClientProcess :=
  { process with
    waiting := process.waiting.filter fun link => link.object ≠ object
    notices := process.notices ++ process.waiting.filter fun link => link.object = object }

/-- A notice that was under way arrives. -/
def told (index : Nat) (process : ClientProcess) : ClientProcess :=
  match process.notices[index]? with
  | none => process
  | some link =>
    onRemoteDied (some link.object) { process with notices := process.notices.eraseIdx index }

end ClientProcess

/-! ### Processes together -/

/-- Client processes and the objects of a service. -/
structure ServiceClients where
  objects : ServiceObjects := {}
  processes : Nat → ClientProcess := fun _ => {}

namespace ServiceClients

/-- What can happen: a service is published as a new object, an object dies with its process, a
notice reaches a client, in any order, and a client gets its proxy. -/
inductive Event
  | publish
  | die (object : Nat)
  | told (client index : Nat)
  | getProxy (client : Nat) (answers : ProxyAnswers)
deriving DecidableEq, Repr

/- Which objects are in another process than the client. -/
variable (isProxyObject : Nat → Nat → Bool)

/-- A process after an object has died. The client of its own process has ended with it. -/
def survive (object client : Nat) (process : ClientProcess) : ClientProcess :=
  if isProxyObject client object then process.died object else {}

/-- One event. -/
def step (state : ServiceClients) : Event → ServiceClients
  | .publish =>
    { state with objects :=
      { made := state.objects.made + 1
        alive := insert state.objects.made state.objects.alive } }
  | .die object =>
    if object ∈ state.objects.alive then
      { objects := { state.objects with alive := state.objects.alive.erase object }
        processes := fun client => survive isProxyObject object client (state.processes client) }
    else state
  | .told client index =>
    { state with processes :=
      Function.update state.processes client ((state.processes client).told index) }
  | .getProxy client answers =>
    let asked := (state.processes client).getProxy (isProxyObject client) state.objects answers
    { state with processes := Function.update state.processes client asked.2 }

/-! ### What every event keeps -/

/-- A process waits for living objects and has notices of dead ones. An object its client holds is
alive, or its death is about to be told; an object of the own process is alive. -/
structure Watches (isProxyObject : Nat → Bool) (objects : ServiceObjects)
    (process : ClientProcess) : Prop where
  known : ∀ object, process.service = some object → object < objects.made
  own : ∀ object, process.service = some object → isProxyObject object = false →
    object ∈ objects.alive
  held : ∀ object, process.service = some object → isProxyObject object = true →
    ∃ link ∈ process.waiting ++ process.notices, link.object = object
  waiting : ∀ link ∈ process.waiting, link.object ∈ objects.alive
  notices : ∀ link ∈ process.notices, link.object < objects.made ∧ link.object ∉ objects.alive

variable {isProxyObject}

namespace Watches

variable {isProxy : Nat → Bool} {objects : ServiceObjects} {process : ClientProcess}

theorem fresh : Watches isProxy objects {} :=
  ⟨fun _ held => absurd held (Option.some_ne_none _).symm,
    fun _ held => absurd held (Option.some_ne_none _).symm,
    fun _ held => absurd held (Option.some_ne_none _).symm,
    fun _ absent => absurd absent List.not_mem_nil, fun _ absent => absurd absent List.not_mem_nil⟩

/-- A dead object that is held is about to be told. -/
theorem noticed (watches : Watches isProxy objects process) {object : Nat}
    (held : process.service = some object) (dead : object ∉ objects.alive) :
    ∃ link ∈ process.notices, link.object = object := by
  have proxy : isProxy object = true := by
    by_contra own
    exact dead (watches.own object held (Bool.not_eq_true _ ▸ own))
  obtain ⟨link, listed, same⟩ := watches.held object held proxy
  rcases List.mem_append.mp listed with waits | notice
  · exact absurd (same ▸ watches.waiting link waits) dead
  · exact ⟨link, notice, same⟩

/-- A new object is none of those a process has to do with. -/
theorem publish (watches : Watches isProxy objects process) :
    Watches isProxy
      { made := objects.made + 1, alive := insert objects.made objects.alive } process := by
  refine ⟨fun object held => Nat.lt_succ_of_lt (watches.known object held), fun object held own =>
    Finset.mem_insert_of_mem (watches.own object held own), watches.held,
    fun link waits => Finset.mem_insert_of_mem (watches.waiting link waits), fun link notice => ?_⟩
  obtain ⟨made, dead⟩ := watches.notices link notice
  refine ⟨Nat.lt_succ_of_lt made, fun lives => ?_⟩
  rcases Finset.mem_insert.mp lives with same | before
  · exact absurd made (same ▸ Nat.lt_irrefl _)
  · exact dead before

/-- Who waited for the death of an object is about to be told of it. -/
theorem died (watches : Watches isProxy objects process) {object : Nat}
    (lives : object ∈ objects.alive) (made : object < objects.made)
    (proxy : isProxy object = true) :
    Watches isProxy { objects with alive := objects.alive.erase object }
      (process.died object) := by
  refine ⟨watches.known, fun own held isOwn => ?_, fun other held isProxyObject => ?_,
    fun link waits => ?_, fun link notice => ?_⟩
  · have different : own ≠ object := by
      rintro rfl
      exact absurd (isOwn.symm.trans proxy) Bool.false_ne_true
    exact Finset.mem_erase.mpr ⟨different, watches.own own held isOwn⟩
  · obtain ⟨link, listed, same⟩ := watches.held other held isProxyObject
    refine ⟨link, ?_, same⟩
    unfold ClientProcess.died
    rcases List.mem_append.mp listed with waits | notice
    · by_cases gone : link.object = object
      · exact List.mem_append_right _ (List.mem_append_right _
          (List.mem_filter.mpr ⟨waits, decide_eq_true gone⟩))
      · exact List.mem_append_left _ (List.mem_filter.mpr ⟨waits, decide_eq_true gone⟩)
    · exact List.mem_append_right _ (List.mem_append_left _ notice)
  · obtain ⟨waits, different⟩ := List.mem_filter.mp waits
    exact Finset.mem_erase.mpr ⟨of_decide_eq_true different, watches.waiting link waits⟩
  · rcases List.mem_append.mp notice with before | told
    · obtain ⟨known, dead⟩ := watches.notices link before
      exact ⟨known, fun lives => dead (Finset.mem_of_mem_erase lives)⟩
    · obtain ⟨waits, same⟩ := List.mem_filter.mp told
      rw [of_decide_eq_true same]
      exact ⟨made, Finset.notMem_erase object objects.alive⟩

/-- A notice makes the client forget the object it is about, and no other. -/
theorem told (watches : Watches isProxy objects process) (index : Nat) :
    Watches isProxy objects (process.told index) := by
  unfold ClientProcess.told
  cases arrives : process.notices[index]? with
  | none => exact watches
  | some arrived =>
    have rest (link : DeathLink) (left : link ∈ process.notices.eraseIdx index) :=
      watches.notices link (List.mem_of_mem_eraseIdx left)
    let remaining : ClientProcess := { process with notices := process.notices.eraseIdx index }
    show Watches isProxy objects (remaining.onRemoteDied (some arrived.object))
    by_cases held : remaining.service = some arrived.object
    · rw [ClientProcess.onRemoteDied_of_eq held]
      exact ⟨fun _ none => absurd none (Option.some_ne_none _).symm,
        fun _ none => absurd none (Option.some_ne_none _).symm,
        fun _ none => absurd none (Option.some_ne_none _).symm,
        fun link waits => watches.waiting link (List.mem_of_mem_filter waits), rest⟩
    · rw [ClientProcess.onRemoteDied_of_ne held]
      refine ⟨watches.known, watches.own, fun object isHeld proxy => ?_, watches.waiting, rest⟩
      obtain ⟨link, listed, same⟩ := watches.held object isHeld proxy
      refine ⟨link, ?_, same⟩
      rcases List.mem_append.mp listed with waits | notice
      · exact List.mem_append_left _ waits
      · refine List.mem_append_right _ ?_
        obtain ⟨place, bound, isLink⟩ := List.mem_iff_getElem.mp notice
        refine List.mem_eraseIdx_iff_getElem.mpr ⟨place, bound, ?_, isLink⟩
        rintro rfl
        rw [List.getElem?_eq_getElem bound, isLink] at arrives
        obtain rfl := Option.some.inj arrives
        exact held (isHeld.trans (congrArg some same.symm))

/-- Who asks to be told of a death will be told of it. -/
theorem watch (watches : Watches isProxy objects process) {link : DeathLink}
    (made : link.object < objects.made) :
    Watches isProxy objects (process.watch objects link) ∧
      link ∈ (process.watch objects link).waiting ++ (process.watch objects link).notices := by
  unfold ClientProcess.watch
  by_cases lives : link.object ∈ objects.alive
  · rw [if_pos lives]
    refine ⟨⟨watches.known, watches.own, fun object held proxy => ?_, fun other waits => ?_,
      watches.notices⟩, List.mem_append_left _ List.mem_concat_self⟩
    · obtain ⟨other, listed, same⟩ := watches.held object held proxy
      refine ⟨other, ?_, same⟩
      rcases List.mem_append.mp listed with waits | notice
      · exact List.mem_append_left _ (List.mem_append_left _ waits)
      · exact List.mem_append_right _ notice
    · rcases List.mem_append.mp waits with before | added
      · exact watches.waiting other before
      · rw [List.mem_singleton.mp added]
        exact lives
  · rw [if_neg lives]
    refine ⟨⟨watches.known, watches.own, fun object held proxy => ?_, watches.waiting,
      fun other notice => ?_⟩, List.mem_append_right _ List.mem_concat_self⟩
    · obtain ⟨other, listed, same⟩ := watches.held object held proxy
      refine ⟨other, ?_, same⟩
      rw [← List.append_assoc]
      exact List.mem_append_left _ listed
    · rcases List.mem_append.mp notice with before | added
      · exact watches.notices other before
      · rw [List.mem_singleton.mp added]
        exact ⟨made, lives⟩

/-- A client may hold an object whose death it will be told of, or one of its own process. -/
theorem hold (watches : Watches isProxy objects process) {remote : Nat}
    (made : remote < objects.made) (own : isProxy remote = false → remote ∈ objects.alive)
    (held : isProxy remote = true →
      ∃ link ∈ process.waiting ++ process.notices, link.object = remote) :
    Watches isProxy objects { process with service := some remote } := by
  refine ⟨?_, ?_, ?_, watches.waiting, watches.notices⟩
  · rintro object ⟨⟩
    exact made
  · rintro object ⟨⟩
    exact own
  · rintro object ⟨⟩
    exact held

/-- A client that takes a proxy will be told of its death. -/
theorem takeProxy (watches : Watches isProxy objects process) (answers : ProxyAnswers)
    {remote : Nat} (made : remote < objects.made)
    (own : isProxy remote = true ∨ remote ∈ objects.alive) :
    Watches isProxy objects (process.takeProxy isProxy objects answers remote).2 := by
  let link : DeathLink := ⟨remote, process.nextRecipient⟩
  let prepared : ClientProcess := { process with
    deathRecipient := some link.recipient
    nextRecipient := process.nextRecipient + 1 }
  have kept : Watches isProxy objects prepared :=
    ⟨watches.known, watches.own, watches.held, watches.waiting, watches.notices⟩
  unfold ClientProcess.takeProxy
  cases proxy : isProxy remote with
  | false =>
    have lives : remote ∈ objects.alive :=
      own.resolve_left fun same => absurd (proxy.symm.trans same) Bool.false_ne_true
    cases answers.ifaceCast with
    | false => exact kept
    | true =>
      exact kept.hold made (fun _ => lives) fun same =>
        absurd (proxy.symm.trans same) Bool.false_ne_true
  | true =>
    obtain ⟨watching, listed⟩ := kept.watch (show link.object < objects.made from made)
    cases answers.addDeathRecipient with
    | false => exact kept
    | true =>
      cases answers.ifaceCast with
      | false => exact watching
      | true =>
        exact watching.hold made
          (fun own => absurd (proxy.symm.trans own).symm Bool.false_ne_true)
          fun _ => ⟨link, listed, rfl⟩

theorem getProxy (watches : Watches isProxy objects process) (answers : ProxyAnswers) :
    Watches isProxy objects (process.getProxy isProxy objects answers).2 := by
  unfold ClientProcess.getProxy
  cases process.service with
  | some service => exact watches
  | none =>
    dsimp only
    split
    · exact watches
    · cases checked : objects.check isProxy answers with
      | none => exact watches
      | some remote =>
        obtain ⟨made, own⟩ := of_decide_eq_true (Option.filter_eq_some_iff.mp checked).2
        exact watches.takeProxy answers made own

end Watches

/-- Every process watches the objects its client holds. -/
structure Sound (isProxyObject : Nat → Nat → Bool) (state : ServiceClients) : Prop where
  made : ∀ object ∈ state.objects.alive, object < state.objects.made
  processes : ∀ client, Watches (isProxyObject client) state.objects (state.processes client)

theorem sound_start : Sound isProxyObject {} :=
  ⟨fun _ absent => absurd absent (Finset.notMem_empty _), fun _ => Watches.fresh⟩

/-- One process changes, and the objects stay. -/
theorem Sound.update {state : ServiceClients} (sound : Sound isProxyObject state) {client : Nat}
    {process : ClientProcess}
    (watches : Watches (isProxyObject client) state.objects process) :
    Sound isProxyObject
      { state with processes := Function.update state.processes client process } := by
  refine ⟨sound.made, fun other => ?_⟩
  by_cases same : other = client
  · subst same
    show Watches _ _ (Function.update state.processes other process other)
    rw [Function.update_self]
    exact watches
  · show Watches _ _ (Function.update state.processes client process other)
    rw [Function.update_of_ne same]
    exact sound.processes other

theorem Sound.step {state : ServiceClients} (sound : Sound isProxyObject state) (event : Event) :
    Sound isProxyObject (step isProxyObject state event) := by
  cases event with
  | publish =>
    refine ⟨fun object lives => ?_, fun client => (sound.processes client).publish⟩
    rcases Finset.mem_insert.mp lives with rfl | before
    · exact Nat.lt_succ_self _
    · exact Nat.lt_succ_of_lt (sound.made object before)
  | die object =>
    unfold ServiceClients.step
    dsimp only
    by_cases lives : object ∈ state.objects.alive
    · rw [if_pos lives]
      refine ⟨fun other kept => sound.made other (Finset.mem_of_mem_erase kept), fun client => ?_⟩
      show Watches _ _ (survive isProxyObject object client (state.processes client))
      unfold survive
      by_cases proxy : isProxyObject client object = true
      · rw [if_pos proxy]
        exact (sound.processes client).died lives (sound.made object lives) proxy
      · rw [if_neg proxy]
        exact Watches.fresh
    · rw [if_neg lives]
      exact sound
  | told client index => exact sound.update ((sound.processes client).told index)
  | getProxy client answers => exact sound.update ((sound.processes client).getProxy answers)

theorem sound_run (events : List Event) :
    Sound isProxyObject (run (step isProxyObject) {} events) :=
  run_invariant (ServiceClients.step isProxyObject) (Sound isProxyObject)
    (fun _ event sound => sound.step event) sound_start events

/-! ### Living objects are kept -/

/-- What is dead stays dead. -/
theorem dead_step {state : ServiceClients} {object : Nat} (made : object < state.objects.made)
    (dead : object ∉ state.objects.alive) (event : Event) :
    object < (step isProxyObject state event).objects.made ∧
      object ∉ (step isProxyObject state event).objects.alive := by
  cases event with
  | publish =>
    refine ⟨Nat.lt_succ_of_lt made, fun lives => ?_⟩
    rcases Finset.mem_insert.mp lives with rfl | before
    · exact absurd made (Nat.lt_irrefl _)
    · exact dead before
  | die other =>
    unfold ServiceClients.step
    dsimp only
    by_cases lives : other ∈ state.objects.alive
    · rw [if_pos lives]
      exact ⟨made, fun kept => dead (Finset.mem_of_mem_erase kept)⟩
    · rw [if_neg lives]
      exact ⟨made, dead⟩
  | told client index => exact ⟨made, dead⟩
  | getProxy client answers => exact ⟨made, dead⟩

theorem dead_run {state : ServiceClients} {object : Nat} (made : object < state.objects.made)
    (dead : object ∉ state.objects.alive) (events : List Event) :
    object ∉ (run (step isProxyObject) state events).objects.alive :=
  (run_invariant (ServiceClients.step isProxyObject)
    (fun state => object < state.objects.made ∧ object ∉ state.objects.alive)
    (fun _ event kept => dead_step kept.1 kept.2 event) ⟨made, dead⟩ events).2

/-- An object of the own process of a client does not die in this event. -/
def GoesOn (isProxyObject : Nat → Nat → Bool) (client : Nat) (event : Event) : Prop :=
  ∀ object, event = .die object → isProxyObject client object = true

/-- A client keeps a proxy whose object is still alive. -/
theorem service_step {state : ServiceClients} (sound : Sound isProxyObject state) {client : Nat}
    {object : Nat} (held : (state.processes client).service = some object) {event : Event}
    (goesOn : GoesOn isProxyObject client event)
    (lives : object ∈ (step isProxyObject state event).objects.alive) :
    ((step isProxyObject state event).processes client).service = some object := by
  cases event with
  | publish => exact held
  | die other =>
    unfold ServiceClients.step
    dsimp only
    by_cases alive : other ∈ state.objects.alive
    · rw [if_pos alive]
      show (survive isProxyObject other client (state.processes client)).service = _
      unfold survive
      rw [if_pos (goesOn other rfl)]
      exact held
    · rw [if_neg alive]
      exact held
  | told other index =>
    show (Function.update state.processes other _ client).service = _
    by_cases same : client = other
    · subst same
      rw [Function.update_self]
      unfold ClientProcess.told
      cases arrives : (state.processes client).notices[index]? with
      | none => exact held
      | some link =>
        let remaining : ClientProcess := { state.processes client with
          notices := (state.processes client).notices.eraseIdx index }
        have different : remaining.service ≠ some link.object := by
          intro isLink
          obtain rfl : object = link.object := Option.some.inj (held.symm.trans isLink)
          exact ((sound.processes client).notices link (List.mem_of_getElem? arrives)).2 lives
        show (remaining.onRemoteDied (some link.object)).service = _
        rw [ClientProcess.onRemoteDied_of_ne different]
        exact held
    · rw [Function.update_of_ne same]
      exact held
  | getProxy other answers =>
    show (Function.update state.processes other _ client).service = _
    by_cases same : client = other
    · subst same
      rw [Function.update_self]
      unfold ClientProcess.getProxy
      rw [held]
      exact held
    · rw [Function.update_of_ne same]
      exact held

theorem service_run {state : ServiceClients} (sound : Sound isProxyObject state) {client : Nat}
    {object : Nat} (held : (state.processes client).service = some object)
    (events : List Event) (goesOn : ∀ event ∈ events, GoesOn isProxyObject client event)
    (lives : object ∈ (run (step isProxyObject) state events).objects.alive) :
    ((run (step isProxyObject) state events).processes client).service = some object := by
  induction events generalizing state with
  | nil => exact held
  | cons event rest inductionHypothesis =>
    obtain ⟨goesOnNow, goesOnThen⟩ := List.forall_mem_cons.mp goesOn
    have after := sound.step event
    have made : object < (step isProxyObject state event).objects.made := by
      have before := (sound.processes client).known object held
      cases event with
      | publish => exact Nat.lt_succ_of_lt before
      | die other =>
        unfold ServiceClients.step
        dsimp only
        split
        · exact before
        · exact before
      | told other index => exact before
      | getProxy other answers => exact before
    have still : object ∈ (step isProxyObject state event).objects.alive := by
      by_contra dead
      exact dead_run made dead rest lives
    exact inductionHypothesis after (service_step sound held goesOnNow still) goesOnThen lives

/-- A client that is about to be told of no death gets a living object from a manager that returns
one. -/
theorem Sound.finds {state : ServiceClients} (sound : Sound isProxyObject state) {client : Nat}
    {remote : Nat} (lives : remote ∈ state.objects.alive)
    (told : (state.processes client).notices = []) :
    ∃ object ∈ state.objects.alive, ((state.processes client).getProxy (isProxyObject client)
      state.objects ⟨true, some remote, true, true⟩).1 = some object := by
  unfold ClientProcess.getProxy
  cases held : (state.processes client).service with
  | some object =>
    refine ⟨object, ?_, rfl⟩
    by_contra dead
    obtain ⟨link, notice, _⟩ := (sound.processes client).noticed held dead
    rw [told] at notice
    exact List.not_mem_nil notice
  | none =>
    refine ⟨remote, lives, ?_⟩
    have checked : state.objects.check (isProxyObject client) ⟨true, some remote, true, true⟩ =
        some remote :=
      Option.filter_some_pos (decide_eq_true ⟨sound.made remote lives, Or.inr lives⟩)
    dsimp only
    rw [checked]
    exact ClientProcess.takeProxy_granted (isProxyObject client) state.objects _ rfl rfl remote

/-- However services start and die, notices are delayed and clients ask, an object that a client
holds is alive, or a notice of its death is under way to this client; a client keeps its proxy as
long as the object lives, and one that is told of no more deaths gets a living object from a
manager that returns one. -/
theorem proxy_run (isProxyObject : Nat → Nat → Bool) (events : List Event) (client : Nat) :
    let reached := run (step isProxyObject) {} events
    (∀ object, (reached.processes client).service = some object →
      object ∈ reached.objects.alive ∨
        ∃ link ∈ (reached.processes client).notices, link.object = object) ∧
    (∀ object later, (reached.processes client).service = some object →
      (∀ event ∈ later, GoesOn isProxyObject client event) →
      object ∈ (run (step isProxyObject) reached later).objects.alive →
      ((run (step isProxyObject) reached later).processes client).service = some object) ∧
    ∀ remote ∈ reached.objects.alive, (reached.processes client).notices = [] →
      ∃ object ∈ reached.objects.alive, ((reached.processes client).getProxy (isProxyObject client)
        reached.objects ⟨true, some remote, true, true⟩).1 = some object := by
  intro reached
  have sound : Sound isProxyObject reached := sound_run events
  refine ⟨fun object held => ?_, fun object later held goesOn lives =>
    service_run sound held later goesOn lives, fun remote lives told => sound.finds lives told⟩
  by_cases lives : object ∈ reached.objects.alive
  · exact Or.inl lives
  · exact Or.inr ((sound.processes client).noticed held lives)

end ServiceClients

end NetManager
