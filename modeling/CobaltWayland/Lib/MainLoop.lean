import Mathlib.Logic.Basic

/-!
The main loop of GLib as the threads around it see it. A context has one owner at a time, who may
have acquired it several times over. A loop has a flag that is set when it is made and again by
`g_main_loop_run`, and that `g_main_loop_quit` clears; the thread in `g_main_loop_run` iterates while
it owns the context, waits while another thread does, and leaves once the flag is clear. A quit
before the run is lost.
-/

structure MainContext (θ : Type*) where
  owner : Option θ := none
  depth : Nat := 0
  deriving DecidableEq

namespace MainContext
variable {θ : Type*} [DecidableEq θ] (c : MainContext θ)

def acquire (thread : θ) : Option (MainContext θ) :=
  match c.owner with
  | none => some ⟨some thread, 1⟩
  | some owner => if owner = thread then some ⟨some thread, c.depth + 1⟩ else none

def release : MainContext θ := if c.depth ≤ 1 then {} else { c with depth := c.depth - 1 }

end MainContext

inductive LoopPhase where
  | absent
  /-- Before its `g_main_loop_run`. -/
  | created
  | waiting | iterating | finished
  deriving DecidableEq, Repr

structure MainLoop where
  running : Bool := true
  phase : LoopPhase := .absent
  deriving DecidableEq, Repr

namespace MainLoop
variable (l : MainLoop)

def spawn : MainLoop := { l with phase := .created }

def run (owned : Bool) : Option MainLoop :=
  if l.phase = .created then some ⟨true, if owned then .iterating else .waiting⟩ else none

/-- The wait for the context ends with its ownership, under the lock that `quit` takes as well. -/
def gain : Option MainLoop := if l.phase = .waiting ∧ l.running then some ⟨true, .iterating⟩ else none

def quit : MainLoop := { l with running := false }

def leave : Option MainLoop :=
  if (l.phase = .waiting ∨ l.phase = .iterating) ∧ l.running = false then some { l with phase := .finished }
  else none

def Started : Prop := l.phase ≠ .created

/-- The quit took effect: the flag stays clear. -/
def Settled : Prop := l.Started ∧ l.running = false

/-- What a quit was meant to prevent: the flag is set while the thread is in the loop, or the thread
is still to set it. -/
def Runs : Prop := l.phase = .created ∨ (l.phase = .waiting ∨ l.phase = .iterating) ∧ l.running = true

instance : Decidable l.Started := by unfold Started; infer_instance

instance : Decidable l.Runs := by unfold Runs; infer_instance

variable {l} {m : MainLoop}

theorem Settled.not_runs (settled : l.Settled) : ¬ l.Runs := by
  rintro (created | ⟨-, running⟩)
  · exact settled.1 created
  · exact Bool.false_ne_true (settled.2.symm.trans running)

theorem quit_settled (started : l.Started) : l.quit.Settled := ⟨started, rfl⟩

theorem stop_settled (started : l.Started) : (if l.running then l.quit else l).Settled := by
  split
  · exact quit_settled started
  · rename_i clear
    exact ⟨started, Bool.eq_false_iff.mpr clear⟩

/-- What the thread of a loop does to it. -/
inductive Moves (l m : MainLoop) : Prop where
  | run {owned : Bool} (ran : l.run owned = some m)
  | gain (gained : l.gain = some m)
  | leave (left : l.leave = some m)

theorem Moves.started (moves : l.Moves m) : m.Started := by
  cases moves with
  | @run owned ran =>
    obtain ⟨_, rfl⟩ := Option.ite_some_none_eq_some.mp ran
    cases owned <;> simp [Started]
  | gain gained =>
    obtain ⟨_, rfl⟩ := Option.ite_some_none_eq_some.mp gained
    simp [Started]
  | leave left =>
    obtain ⟨_, rfl⟩ := Option.ite_some_none_eq_some.mp left
    simp [Started]

/-- A thread that was in the loop at the quit can only leave. -/
theorem Moves.settled (moves : l.Moves m) (settled : l.Settled) : m.Settled := by
  refine ⟨moves.started, ?_⟩
  cases moves with
  | run ran =>
    obtain ⟨created, _⟩ := Option.ite_some_none_eq_some.mp ran
    exact absurd created settled.1
  | gain gained =>
    obtain ⟨⟨_, running⟩, _⟩ := Option.ite_some_none_eq_some.mp gained
    exact absurd (settled.2.symm.trans running) Bool.false_ne_true
  | leave left =>
    obtain ⟨⟨_, clear⟩, rfl⟩ := Option.ite_some_none_eq_some.mp left
    exact clear

/-- A thread that was not, cannot. -/
theorem Moves.runs (moves : l.Moves m) (runs : l.Runs) : m.Runs := by
  cases moves with
  | @run owned ran =>
    obtain ⟨_, rfl⟩ := Option.ite_some_none_eq_some.mp ran
    cases owned <;> simp [Runs]
  | gain gained =>
    obtain ⟨_, rfl⟩ := Option.ite_some_none_eq_some.mp gained
    simp [Runs]
  | leave left =>
    obtain ⟨⟨inside, clear⟩, _⟩ := Option.ite_some_none_eq_some.mp left
    rcases runs with created | ⟨-, running⟩
    · simp [created] at inside
    · exact absurd (clear.symm.trans running) Bool.false_ne_true

theorem Runs.not_joined (runs : l.Runs) : ¬ (l.phase = .absent ∨ l.phase = .finished) := by
  rcases runs with created | ⟨waiting | iterating, -⟩
  · simp [created]
  · simp [waiting]
  · simp [iterating]

theorem started_of_iterating (iterating : l.phase = .iterating) : l.Started := by simp [Started, iterating]

end MainLoop
