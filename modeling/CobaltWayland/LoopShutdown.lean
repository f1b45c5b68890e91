import CobaltWayland.WorkerHandshake

/-!
The quits of the two loops. The worker is in its loop when the destructor comes, so that its quit
always takes effect. The default thread of a player is known to be in its loop only where it ran the
`Put` of the player itself: a quit that comes earlier is lost, and the destructor waits for ever.
-/

namespace CobaltWayland

def CreatorStage.quitDefault : CreatorStage → Bool
  | .joiningWorker | .joiningDefault | .gone => true
  | _ => false

namespace LoopPlayer
variable {ι : Type*} {p : LoopPlayer ι} {i : ι}

/-- `SbThreadJoin` waits for the thread of a loop that runs in spite of its quit. -/
def Hangs (p : LoopPlayer ι) : Prop :=
  p.stage = .joiningWorker ∧ p.workerLoop.Runs ∨ p.stage = .joiningDefault ∧ p.defaultLoop.Runs

instance : Decidable p.Hangs := by unfold Hangs; infer_instance

/-- The default loop is known to be entered only where it ran the `Put` of the player itself. -/
structure Inv (i : ι) (p : LoopPlayer ι) : Prop where
  shaken : Handshake p
  ungreeted : p.stage = .constructed ∨ p.stage = .spawningDefault → p.greeter = none
  greeted : p.greeter = some (.default i) → p.defaultLoop.Started
  default_quit : p.stage.quitDefault = true → p.defaultLoop.Settled

theorem start_inv : Inv i {} where
  shaken := start_handshake
  ungreeted := by simp
  greeted := by simp
  default_quit := by simp [CreatorStage.quitDefault]

/-- The worker that the destructor waits for was in its loop at the quit, if it was ever created. -/
theorem Handshake.worker_settled (shaken : Handshake p) (joining : p.stage = .joiningWorker) :
    p.workerLoop.Settled := by
  have worker := shaken.worker
  simp only [joining, CreatorStage.workerLoops, List.mem_cons, List.not_mem_nil, or_false] at worker
  rcases worker with absent | iterating | finished
  · simp [absent, MainLoop.Settled, MainLoop.Started]
  · simp [iterating, MainLoop.Settled, MainLoop.Started]
  · simp [finished, MainLoop.Settled, MainLoop.Started]

theorem Inv.not_hangs (inv : Inv i p) : ¬ p.Hangs := by
  rintro (⟨stage, runs⟩ | ⟨stage, runs⟩)
  · exact (inv.shaken.worker_settled stage).not_runs runs
  · exact (inv.default_quit (by simp [stage, CreatorStage.quitDefault])).not_runs runs

theorem Inv.default_started (inv : Inv i p)
    (entered : p.greeter ≠ some (.default i) → p.defaultLoop.Started) : p.defaultLoop.Started := by
  by_cases own : p.greeter = some (.default i)
  · exact inv.greeted own
  · exact entered own

/-! ### The creating thread, field by field -/

section Advance
variable {q : LoopPlayer ι} {ok acquired : Bool} (inv : Inv i p) (h : p.advance i ok acquired = some q)
include inv h

theorem advance_ungreeted (early : q.stage = .constructed ∨ q.stage = .spawningDefault) : q.greeter = none := by
  have before : p.stage = .constructed := by
    cases stage : p.stage <;> simp only [advance, stage] at h <;> grind
  simp only [advance, before] at h
  obtain rfl := Option.some.inj h
  exact inv.ungreeted (.inl before)

/-- The default thread is created before any `Put` can greet the player, and a quit moves no thread. -/
theorem advance_greeted (own : q.greeter = some (.default i)) : q.defaultLoop.Started := by
  have ungreeted := inv.ungreeted
  have greeted := inv.greeted
  cases stage : p.stage <;> simp only [advance, stage] at h <;> grind [MainLoop.Started, MainLoop.quit]

theorem advance_default_quit
    (entered : p.stage = .quittingDefault → p.greeter ≠ some (.default i) → p.defaultLoop.Started)
    (past : q.stage.quitDefault = true) : q.defaultLoop.Settled := by
  have quit := inv.default_quit
  cases stage : p.stage
  case quittingDefault =>
    simp only [advance, stage] at h
    obtain rfl := Option.some.inj h
    exact MainLoop.stop_settled (inv.default_started (entered stage))
  all_goals
    simp only [advance, stage] at h
    grind [CreatorStage.quitDefault]

theorem advance_inv
    (entered : p.stage = .quittingDefault → p.greeter ≠ some (.default i) → p.defaultLoop.Started) :
    Inv i q where
  shaken := advance_handshake inv.shaken h
  ungreeted := advance_ungreeted inv h
  greeted := advance_greeted inv h
  default_quit := advance_default_quit inv h entered

end Advance

/-! ### The other threads -/

theorem Inv.withDefault (inv : Inv i p) {l : MainLoop} (moves : p.defaultLoop.Moves l) :
    Inv i { p with defaultLoop := l } where
  shaken := { inv.shaken with }
  ungreeted := inv.ungreeted
  greeted := fun _ => moves.started
  default_quit := fun quit => moves.settled (inv.default_quit quit)

/-- A `Put` in the default context is the one the player waits for. -/
theorem Inv.greet (inv : Inv i p) {j : ι} (queued : 0 < p.defaultPuts)
    (started : j = i → p.defaultLoop.Started) :
    Inv i { p with defaultPuts := p.defaultPuts - 1, starter := p.starter + 1, greeter := some (.default j) } where
  shaken := inv.shaken.greet queued
  ungreeted := by
    have tokens := inv.shaken.tokens
    rintro ((early : p.stage = _) | (early : p.stage = _)) <;>
      simp only [early, CreatorStage.outstanding] at tokens <;> omega
  greeted := fun own => started (LoopThread.default.inj (Option.some.inj own))
  default_quit := inv.default_quit

/-! ### After a lost quit -/

/-- The destructor has quit a default loop that runs on. -/
def Doomed (p : LoopPlayer ι) : Prop :=
  (p.stage = .joiningWorker ∨ p.stage = .joiningDefault) ∧ p.defaultLoop.Runs

theorem Doomed.hangs (doomed : p.Doomed) (joining : p.stage = .joiningDefault) : p.Hangs :=
  .inr ⟨joining, doomed.2⟩

theorem quit_doomed {q : LoopPlayer ι} {ok acquired : Bool} (stage : p.stage = .quittingDefault)
    (created : p.defaultLoop.phase = .created) (h : p.advance i ok acquired = some q) : q.Doomed := by
  simp only [advance, stage] at h
  obtain rfl := Option.some.inj h
  refine ⟨.inl rfl, .inl ?_⟩
  simp only
  split
  · exact created
  · exact created

theorem Doomed.advance {q : LoopPlayer ι} {ok acquired : Bool} (doomed : p.Doomed)
    (h : p.advance i ok acquired = some q) : q.Doomed := by
  obtain ⟨stage | stage, runs⟩ := doomed <;> simp only [LoopPlayer.advance, stage] at h
  · obtain ⟨_, rfl⟩ := Option.ite_some_none_eq_some.mp h
    exact ⟨.inr rfl, runs⟩
  · obtain ⟨joined, _⟩ := Option.ite_none_right_eq_some.mp h
    exact absurd (joined.imp id And.left) runs.not_joined

end LoopPlayer

namespace LoopSystem
variable {ι : Type*}

def Inv (s : LoopSystem ι) : Prop := ∀ i, (s.players i).Inv i

def NoQuitLost (s : LoopSystem ι) : Prop := ∀ i, ¬ (s.players i).Hangs

theorem Inv.noQuitLost {s : LoopSystem ι} (inv : s.Inv) : NoQuitLost s := fun i => (inv i).not_hangs

/-- The quit of a default loop that did not run the player's own `Put` comes after its thread has
entered `g_main_loop_run`. -/
def QuitsEntered (s : LoopSystem ι) : LoopEvent ι → Prop
  | .advance i _ =>
    (s.players i).stage = .quittingDefault → (s.players i).greeter ≠ some (.default i) →
      (s.players i).defaultLoop.Started
  | _ => True

variable {s t : LoopSystem ι} {e : LoopEvent ι} {i : ι} {p : LoopPlayer ι}

theorem moves_inv (inv : s.Inv) (entered : s.QuitsEntered e) (moves : s.Moves e i p) : p.Inv i := by
  have shaken : p.Handshake := moves_handshake (inv i).shaken moves
  cases moves with
  | advance moved => exact LoopPlayer.advance_inv (inv i) moved entered
  | default moves => exact (inv i).withDefault moves
  | greet iterating queued =>
    refine (inv i).greet queued fun own => ?_
    subst own
    exact MainLoop.started_of_iterating iterating
  | push | run | leave | answer => exact { inv i with shaken }

theorem moves_doomed (doomed : (s.players i).Doomed) (moves : s.Moves e i p) : p.Doomed := by
  cases moves with
  | advance moved => exact doomed.advance moved
  | default moves => exact ⟨doomed.1, moves.runs doomed.2⟩
  | push | greet | run | leave | answer => exact doomed

variable [DecidableEq ι]

instance (s : LoopSystem ι) (e : LoopEvent ι) : Decidable (s.QuitsEntered e) := by
  unfold QuitsEntered
  split <;> infer_instance

theorem step_inv (inv : s.Inv) (entered : s.QuitsEntered e) (h : s.step e = some t) : t.Inv :=
  step_each LoopPlayer.Inv inv (fun _ _ moves => moves_inv inv entered moves) h

/-- For any number of players and in every interleaving: while each quit of a default loop that did
not greet its player comes after the loop was entered, no destructor joins a thread whose loop runs
on. The quit of a worker loop needs no such care. -/
theorem no_quit_lost (es : List (LoopEvent ι)) (entered : Machine.Along step QuitsEntered {} es) :
    Machine.Throughout step NoQuitLost ({} : LoopSystem ι) es :=
  Machine.throughout_of_along Inv (fun _ _ _ inv ok h => step_inv inv ok h)
    (fun _ inv => inv.noQuitLost) (fun _ => LoopPlayer.start_inv) entered

theorem no_quit_lost_replay :
    (Machine.exec step ({} : LoopSystem (Fin 3)) playersInTurn).isSome = true ∧
      Machine.Throughout step NoQuitLost ({} : LoopSystem (Fin 3)) playersInTurn :=
  ⟨by decide +kernel, no_quit_lost playersInTurn (by decide +kernel)⟩

theorem step_doomed (doomed : (s.players i).Doomed) (h : s.step e = some t) : (t.players i).Doomed :=
  step_each (fun j p => (s.players j).Doomed → p.Doomed) (fun _ before => before)
    (fun _ _ moves before => moves_doomed before moves) h i doomed

/-- A quit that comes before its thread has entered the loop is lost for good: the destructor of that
player never returns. -/
theorem early_quit_lost {s t u : LoopSystem ι} {i : ι} {ok : Bool} {es : List (LoopEvent ι)}
    (stage : (s.players i).stage = .quittingDefault) (early : ¬ (s.players i).defaultLoop.Started)
    (quit : s.step (.advance i ok) = some t) (reached : Machine.exec step t es = some u) :
    (u.players i).stage ≠ .gone ∧ ((u.players i).stage = .joiningDefault → (u.players i).Hangs) := by
  obtain ⟨p, moved, rfl⟩ := Option.map_eq_some_iff.mp quit
  have lost : ((s.set i p).players i).Doomed := by
    simpa [LoopSystem.set] using LoopPlayer.quit_doomed stage (not_not.mp early) moved
  have doomed : (u.players i).Doomed := by
    refine Machine.exec_invariant (fun _ _ _ doomed h => step_doomed doomed h) ?_ reached
    exact lost
  refine ⟨fun gone => ?_, doomed.hangs⟩
  rcases doomed.1 with joining | joining <;> cases joining.symm.trans gone

/-- A destroy right after the creation, whose `Put` ran inline: the default thread was created and
had not been scheduled yet. -/
def destroyedAtOnce : List (LoopEvent Unit) :=
  [.advance () true, .advance () true, .advance () true, .advance () true, .advance () true,
    .advance () true, .advance () true, .runWorker (), .dispatchWorker (), .advance () true,
    .advance () true, .advance () true, .advance () true, .advance () true, .advance () true,
    .leaveWorker (), .advance () true, .pushDefault (), .runDefault ()]

theorem destroyed_at_once_hangs :
    (Machine.exec step ({} : LoopSystem Unit) destroyedAtOnce).any (fun s => (s.players ()).Hangs) = true := by
  decide +kernel

theorem destroyed_at_once_loses_quit :
    ¬ Machine.Throughout step NoQuitLost ({} : LoopSystem Unit) destroyedAtOnce := by
  intro none_lost
  obtain ⟨s, reached, hangs⟩ := (Option.any_eq_true _ _).mp destroyed_at_once_hangs
  exact Machine.throughout_last none_lost reached () (of_decide_eq_true hangs)

end LoopSystem
end CobaltWayland
