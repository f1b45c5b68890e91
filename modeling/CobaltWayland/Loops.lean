import CobaltWayland.Lib.Machine
import CobaltWayland.Lib.MainLoop
import Mathlib.Logic.Function.Basic

/-!
The two loops of a player from `CreatePlayer` to the end of the destructor, for any number of
players, at once or one after the other. The default context belongs to all of them:
`g_main_context_invoke` runs the semaphore's `Put` inline while nobody owns it, and otherwise leaves it
to whichever default loop iterates. A default thread that has pushed the context owns it until it
exits. The worker context is the player's own and its `Put` is always queued.
-/

namespace CobaltWayland

/-- The thread that is in `CreatePlayer` or in the destructor. -/
inductive CreatorStage where
  /-- The constructor is done and `Playbin` set to `PAUSED`. -/
  | constructed
  | spawningDefault | invokingDefault
  /-- It has acquired the default context and runs `Put` itself. -/
  | inlining
  | takingDefault | spawningWorker | invokingWorker | takingWorker | reporting | live
  | stopping | quittingWorker | quittingDefault | joiningWorker | joiningDefault | gone
  deriving DecidableEq, Repr

namespace CreatorStage

/-- The `Put` calls that are neither run and taken nor still to be made. -/
def outstanding : CreatorStage → Nat
  | .takingDefault | .takingWorker => 1
  | _ => 0

end CreatorStage

/-- The threads that come to own the default context. -/
inductive LoopThread (ι : Type*) where
  | creator (player : ι)
  | default (player : ι)
  deriving DecidableEq

/-- The loops of one player, with the semaphore `starter` and its `Put` calls in the two contexts. -/
structure LoopPlayer (ι : Type*) where
  stage : CreatorStage := .constructed
  starter : Nat := 0
  defaultPuts : Nat := 0
  workerPuts : Nat := 0
  /-- The thread that ran the `Put` of the default context. -/
  greeter : Option (LoopThread ι) := none
  /-- `g_main_context_push_thread_default` is behind the default thread, its exit is not. -/
  pushed : Bool := false
  defaultLoop : MainLoop := {}
  workerLoop : MainLoop := {}

namespace LoopPlayer
variable {ι : Type*} (p : LoopPlayer ι)

/-- The next statement of `CreatePlayer` or of the destructor. `ok` is what the decoders' `Initialize`
answers, `acquired` whether the default context could be acquired. Where `Initialize` fails,
`CreatePlayer` destroys the player itself. -/
def advance (i : ι) (ok acquired : Bool) : Option (LoopPlayer ι) :=
  match p.stage with
  | .constructed => some { p with stage := if ok then .spawningDefault else .stopping }
  | .spawningDefault => some { p with stage := .invokingDefault, defaultLoop := p.defaultLoop.spawn }
  | .invokingDefault =>
    if acquired then some { p with stage := .inlining }
    else some { p with stage := .takingDefault, defaultPuts := p.defaultPuts + 1 }
  | .inlining =>
    some { p with stage := .takingDefault, starter := p.starter + 1, greeter := some (.creator i) }
  | .takingDefault =>
    if 0 < p.starter then some { p with stage := .spawningWorker, starter := p.starter - 1 } else none
  | .spawningWorker => some { p with stage := .invokingWorker, workerLoop := p.workerLoop.spawn }
  | .invokingWorker => some { p with stage := .takingWorker, workerPuts := p.workerPuts + 1 }
  | .takingWorker =>
    if 0 < p.starter then some { p with stage := .reporting, starter := p.starter - 1 } else none
  | .reporting => some { p with stage := .live }
  | .live => some { p with stage := .stopping }
  | .stopping => some { p with stage := .quittingWorker }
  | .quittingWorker =>
    some { p with
      stage := .quittingDefault
      workerLoop := if p.workerLoop.running then p.workerLoop.quit else p.workerLoop }
  | .quittingDefault =>
    some { p with
      stage := .joiningWorker
      defaultLoop := if p.defaultLoop.running then p.defaultLoop.quit else p.defaultLoop }
  | .joiningWorker =>
    if p.workerLoop.phase = .absent ∨ p.workerLoop.phase = .finished then
      some { p with stage := .joiningDefault }
    else none
  | .joiningDefault =>
    if p.defaultLoop.phase = .absent ∨ p.defaultLoop.phase = .finished ∧ p.pushed = false then
      some { p with stage := .gone }
    else none
  | .gone => none

end LoopPlayer

structure LoopSystem (ι : Type*) where
  players : ι → LoopPlayer ι := fun _ => {}
  /-- The default context. -/
  context : MainContext (LoopThread ι) := {}

inductive LoopEvent (ι : Type*) where
  | advance (i : ι) (ok : Bool)
  | pushDefault (i : ι)
  | runDefault (i : ι)
  | gainDefault (i : ι)
  /-- The default loop of `i` runs the `Put` of `j`. -/
  | dispatchDefault (i j : ι)
  | leaveDefault (i : ι)
  /-- The thread frees its stack of thread-default contexts. -/
  | exitDefault (i : ι)
  | runWorker (i : ι)
  | dispatchWorker (i : ι)
  | leaveWorker (i : ι)
  deriving DecidableEq

namespace LoopSystem
variable {ι : Type*} [DecidableEq ι]

def set (s : LoopSystem ι) (i : ι) (p : LoopPlayer ι) : LoopSystem ι :=
  { s with players := Function.update s.players i p }

def creatorContext (s : LoopSystem ι) (i : ι) : MainContext (LoopThread ι) :=
  match (s.players i).stage with
  | .invokingDefault => (s.context.acquire (.creator i)).getD s.context
  | .inlining => s.context.release
  | _ => s.context

def step (s : LoopSystem ι) : LoopEvent ι → Option (LoopSystem ι)
  | .advance i ok =>
    ((s.players i).advance i ok (s.context.acquire (.creator i)).isSome).map fun p =>
      { s.set i p with context := s.creatorContext i }
  | .pushDefault i =>
    -- a context that another thread owns is not pushed, and GLib only warns
    if (s.players i).defaultLoop.phase = .created ∧ (s.players i).pushed = false then
      some { s.set i { s.players i with pushed := true } with
        context := (s.context.acquire (.default i)).getD s.context }
    else none
  | .runDefault i =>
    if (s.players i).pushed then
      ((s.players i).defaultLoop.run (s.context.acquire (.default i)).isSome).map fun l =>
        { s.set i { s.players i with defaultLoop := l } with
          context := (s.context.acquire (.default i)).getD s.context }
    else none
  | .gainDefault i =>
    (s.context.acquire (.default i)).bind fun context =>
      (s.players i).defaultLoop.gain.map fun l =>
        { s.set i { s.players i with defaultLoop := l } with context }
  | .dispatchDefault i j =>
    if (s.players i).defaultLoop.phase = .iterating ∧ 0 < (s.players j).defaultPuts then
      some (s.set j { s.players j with
        defaultPuts := (s.players j).defaultPuts - 1
        starter := (s.players j).starter + 1
        greeter := some (.default i) })
    else none
  | .leaveDefault i =>
    (s.players i).defaultLoop.leave.map fun l =>
      { s.set i { s.players i with defaultLoop := l } with
        context := if (s.players i).defaultLoop.phase = .iterating then s.context.release else s.context }
  | .exitDefault i =>
    -- GLib gives back what the thread had acquired with its push
    if (s.players i).defaultLoop.phase = .finished ∧ (s.players i).pushed then
      some { s.set i { s.players i with pushed := false } with
        context := if s.context.owner = some (.default i) then s.context.release else s.context }
    else none
  | .runWorker i =>
    ((s.players i).workerLoop.run true).map fun l => s.set i { s.players i with workerLoop := l }
  | .dispatchWorker i =>
    if (s.players i).workerLoop.phase = .iterating ∧ 0 < (s.players i).workerPuts then
      some (s.set i { s.players i with
        workerPuts := (s.players i).workerPuts - 1
        starter := (s.players i).starter + 1 })
    else none
  | .leaveWorker i =>
    (s.players i).workerLoop.leave.map fun l => s.set i { s.players i with workerLoop := l }

/-! ### What a step does -/

/-- Every step moves one player, and what it does to the context is of no matter to the others. -/
inductive Moves (s : LoopSystem ι) : LoopEvent ι → ι → LoopPlayer ι → Prop where
  | advance {i : ι} {ok acquired : Bool} {p : LoopPlayer ι}
      (moved : (s.players i).advance i ok acquired = some p) : Moves s (.advance i ok) i p
  | push {e : LoopEvent ι} {i : ι} {pushed : Bool} : Moves s e i { s.players i with pushed }
  | default {e : LoopEvent ι} {i : ι} {l : MainLoop} (moves : (s.players i).defaultLoop.Moves l) :
      Moves s e i { s.players i with defaultLoop := l }
  | greet {e : LoopEvent ι} {i j : ι} (iterating : (s.players i).defaultLoop.phase = .iterating)
      (queued : 0 < (s.players j).defaultPuts) :
      Moves s e j { s.players j with
        defaultPuts := (s.players j).defaultPuts - 1
        starter := (s.players j).starter + 1
        greeter := some (.default i) }
  | run {e : LoopEvent ι} {i : ι} {l : MainLoop} (ran : (s.players i).workerLoop.run true = some l) :
      Moves s e i { s.players i with workerLoop := l }
  | leave {e : LoopEvent ι} {i : ι} {l : MainLoop} (left : (s.players i).workerLoop.leave = some l) :
      Moves s e i { s.players i with workerLoop := l }
  | answer {e : LoopEvent ι} {i : ι} (iterating : (s.players i).workerLoop.phase = .iterating)
      (queued : 0 < (s.players i).workerPuts) :
      Moves s e i { s.players i with
        workerPuts := (s.players i).workerPuts - 1
        starter := (s.players i).starter + 1 }

theorem step_moves {s t : LoopSystem ι} {e : LoopEvent ι} (h : s.step e = some t) :
    ∃ i p, s.Moves e i p ∧ t.players = Function.update s.players i p := by
  cases e with
  | advance i ok =>
    obtain ⟨p, moved, rfl⟩ := Option.map_eq_some_iff.mp h
    exact ⟨i, p, .advance moved, rfl⟩
  | pushDefault i =>
    obtain ⟨_, rfl⟩ := Option.ite_some_none_eq_some.mp h
    exact ⟨i, _, .push, rfl⟩
  | runDefault i =>
    obtain ⟨_, taken⟩ := Option.ite_none_right_eq_some.mp h
    obtain ⟨l, ran, rfl⟩ := Option.map_eq_some_iff.mp taken
    exact ⟨i, _, .default (.run ran), rfl⟩
  | gainDefault i =>
    obtain ⟨context, _, taken⟩ := Option.bind_eq_some_iff.mp h
    obtain ⟨l, gained, rfl⟩ := Option.map_eq_some_iff.mp taken
    exact ⟨i, _, .default (.gain gained), rfl⟩
  | dispatchDefault i j =>
    obtain ⟨⟨iterating, queued⟩, rfl⟩ := Option.ite_some_none_eq_some.mp h
    exact ⟨j, _, .greet iterating queued, rfl⟩
  | leaveDefault i =>
    obtain ⟨l, left, rfl⟩ := Option.map_eq_some_iff.mp h
    exact ⟨i, _, .default (.leave left), rfl⟩
  | exitDefault i =>
    obtain ⟨_, rfl⟩ := Option.ite_some_none_eq_some.mp h
    exact ⟨i, _, .push, rfl⟩
  | runWorker i =>
    obtain ⟨l, ran, rfl⟩ := Option.map_eq_some_iff.mp h
    exact ⟨i, _, .run ran, rfl⟩
  | dispatchWorker i =>
    obtain ⟨⟨iterating, queued⟩, rfl⟩ := Option.ite_some_none_eq_some.mp h
    exact ⟨i, _, .answer iterating queued, rfl⟩
  | leaveWorker i =>
    obtain ⟨l, left, rfl⟩ := Option.map_eq_some_iff.mp h
    exact ⟨i, _, .leave left, rfl⟩

/-- What every move keeps of the player it moves, a step keeps of all. -/
theorem step_each (kept : ι → LoopPlayer ι → Prop) {s t : LoopSystem ι} {e : LoopEvent ι}
    (each : ∀ i, kept i (s.players i)) (moved : ∀ i p, s.Moves e i p → kept i p) (h : s.step e = some t) :
    ∀ i, kept i (t.players i) := by
  obtain ⟨i, p, moves, players⟩ := step_moves h
  intro j
  rw [players]
  by_cases same : j = i
  · subst same
    rw [Function.update_self]
    exact moved j p moves
  · rw [Function.update_of_ne same]
    exact each j

end LoopSystem
end CobaltWayland
