import CobaltWayland.Loops

/-!
The handshake with the worker thread, for any number of players at once. Its `Put` is always queued in
the player's own context, so that `CreatePlayer` goes on only once the worker is in its loop, and the
destructor's quit finds it there: neither of them ever waits for a worker that does not come.
-/

namespace CobaltWayland

/-- What the worker loop of a player can be while its creator is at a statement. -/
def CreatorStage.workerLoops : CreatorStage → List MainLoop
  | .constructed | .spawningDefault | .invokingDefault | .inlining | .takingDefault | .spawningWorker => [{}]
  | .invokingWorker | .takingWorker => [⟨true, .created⟩, ⟨true, .iterating⟩]
  | .reporting | .live => [⟨true, .iterating⟩]
  | .stopping | .quittingWorker => [{}, ⟨true, .iterating⟩]
  | .quittingDefault | .joiningWorker => [⟨false, .absent⟩, ⟨false, .iterating⟩, ⟨false, .finished⟩]
  | .joiningDefault | .gone => [⟨false, .absent⟩, ⟨false, .finished⟩]

namespace LoopPlayer
variable {ι : Type*} {p q : LoopPlayer ι} {i : ι}

structure Handshake (p : LoopPlayer ι) : Prop where
  tokens : p.defaultPuts + p.workerPuts + p.starter = p.stage.outstanding
  worker : p.workerLoop ∈ p.stage.workerLoops
  /-- A permit that is awaited after the first one is the worker's. -/
  answered : p.stage = .takingWorker → p.defaultPuts = 0 ∧ (0 < p.starter → p.workerLoop = ⟨true, .iterating⟩)

theorem start_handshake : Handshake ({} : LoopPlayer ι) := ⟨rfl, List.mem_singleton.mpr rfl, by simp⟩

section Advance
variable {ok acquired : Bool} (shaken : Handshake p) (h : p.advance i ok acquired = some q)
include shaken h

theorem advance_tokens : q.defaultPuts + q.workerPuts + q.starter = q.stage.outstanding := by
  have tokens := shaken.tokens
  cases stage : p.stage <;> simp only [advance, stage, CreatorStage.outstanding] at h tokens <;>
    grind [CreatorStage.outstanding]

theorem advance_worker : q.workerLoop ∈ q.stage.workerLoops := by
  have tokens := shaken.tokens
  have worker := shaken.worker
  have answered := shaken.answered
  cases stage : p.stage <;>
    simp only [advance, stage, CreatorStage.workerLoops, CreatorStage.outstanding] at h tokens worker answered <;>
    grind [CreatorStage.workerLoops, MainLoop.spawn, MainLoop.quit]

/-- Only `takingWorker` awaits the worker, and it starts without a permit. -/
theorem advance_answered (taking : q.stage = .takingWorker) :
    q.defaultPuts = 0 ∧ (0 < q.starter → q.workerLoop = ⟨true, .iterating⟩) := by
  have tokens := shaken.tokens
  have invoking : p.stage = .invokingWorker := by
    cases stage : p.stage <;> simp only [advance, stage] at h <;> grind
  simp only [advance, invoking] at h
  obtain rfl := Option.some.inj h
  simp only [invoking, CreatorStage.outstanding] at tokens
  refine ⟨by simp only; omega, fun permit => ?_⟩
  simp only at permit
  omega

theorem advance_handshake : Handshake q :=
  ⟨advance_tokens shaken h, advance_worker shaken h, advance_answered shaken h⟩

end Advance

theorem Handshake.greet (shaken : Handshake p) {greeter : Option (LoopThread ι)} (queued : 0 < p.defaultPuts) :
    Handshake { p with defaultPuts := p.defaultPuts - 1, starter := p.starter + 1, greeter } where
  tokens := by
    have tokens := shaken.tokens
    simp only
    omega
  worker := shaken.worker
  answered := by
    intro taking
    have none_left := (shaken.answered taking).1
    omega

/-- The loop that runs the worker's `Put` is one that iterates, so the player is past its creation. -/
theorem Handshake.answer (shaken : Handshake p) (iterating : p.workerLoop.phase = .iterating)
    (queued : 0 < p.workerPuts) :
    Handshake { p with workerPuts := p.workerPuts - 1, starter := p.starter + 1 } where
  tokens := by
    have tokens := shaken.tokens
    simp only
    omega
  worker := shaken.worker
  answered := by
    intro taking
    refine ⟨(shaken.answered taking).1, fun _ => ?_⟩
    have worker := shaken.worker
    simp only [show p.stage = .takingWorker from taking, CreatorStage.workerLoops] at worker
    grind

theorem Handshake.runs (shaken : Handshake p) {l : MainLoop} (ran : p.workerLoop.run true = some l) :
    Handshake { p with workerLoop := l } := by
  obtain ⟨created, rfl⟩ := Option.ite_some_none_eq_some.mp ran
  have worker := shaken.worker
  refine ⟨shaken.tokens, ?_, fun taking => ⟨(shaken.answered taking).1, fun _ => rfl⟩⟩
  cases stage : p.stage <;> simp only [stage, CreatorStage.workerLoops] at worker ⊢ <;> grind

theorem Handshake.leaves (shaken : Handshake p) {l : MainLoop} (left : p.workerLoop.leave = some l) :
    Handshake { p with workerLoop := l } := by
  obtain ⟨⟨inside, quit⟩, rfl⟩ := Option.ite_some_none_eq_some.mp left
  have worker := shaken.worker
  refine ⟨shaken.tokens, ?_, fun taking => ?_⟩
  · cases stage : p.stage <;> simp only [stage, CreatorStage.workerLoops] at worker ⊢ <;> grind
  · simp only [show p.stage = .takingWorker from taking, CreatorStage.workerLoops] at worker
    grind

end LoopPlayer

namespace LoopSystem
variable {ι : Type*} [DecidableEq ι] {s t : LoopSystem ι} {e : LoopEvent ι}

omit [DecidableEq ι] in
theorem moves_handshake {p : LoopPlayer ι} {i : ι} (shaken : (s.players i).Handshake) (moves : s.Moves e i p) :
    p.Handshake := by
  cases moves with
  | advance moved => exact LoopPlayer.advance_handshake shaken moved
  | push | default => exact { shaken with }
  | greet _ queued => exact shaken.greet queued
  | run ran => exact shaken.runs ran
  | leave left => exact shaken.leaves left
  | answer iterating queued => exact shaken.answer iterating queued

theorem step_handshake (shaken : ∀ i, (s.players i).Handshake) (h : s.step e = some t) :
    ∀ i, (t.players i).Handshake :=
  step_each (fun _ p => p.Handshake) shaken (fun i _ moves => moves_handshake (shaken i) moves) h

/-- The steps that the creating thread and the worker thread of one player take by themselves. -/
def handshakes (i : ι) : List (LoopEvent ι) := [.advance i true, .runWorker i, .dispatchWorker i, .leaveWorker i]

/-- A creator that waits for its worker can go on, or the worker can. -/
theorem worker_comes (shaken : ∀ i, (s.players i).Handshake) {i : ι}
    (waits : (s.players i).stage = .takingWorker ∨ (s.players i).stage = .joiningWorker) :
    ∃ e ∈ handshakes i, (s.step e).isSome = true := by
  have tokens := (shaken i).tokens
  have worker := (shaken i).worker
  rcases waits with taking | joining
  · have noDefault := ((shaken i).answered taking).1
    simp only [taking, CreatorStage.outstanding, noDefault, CreatorStage.workerLoops, List.mem_cons,
      List.not_mem_nil, or_false] at tokens worker
    by_cases permit : 0 < (s.players i).starter
    · exact ⟨.advance i true, by simp [handshakes], by simp [step, LoopPlayer.advance, taking, permit]⟩
    · have queued : 0 < (s.players i).workerPuts := by omega
      rcases worker with created | iterating
      · exact ⟨.runWorker i, by simp [handshakes], by simp [step, MainLoop.run, created]⟩
      · exact ⟨.dispatchWorker i, by simp [handshakes], by simp [step, iterating, queued]⟩
  · simp only [joining, CreatorStage.workerLoops, List.mem_cons, List.not_mem_nil, or_false] at worker
    rcases worker with absent | iterating | finished
    · exact ⟨.advance i true, by simp [handshakes], by simp [step, LoopPlayer.advance, joining, absent]⟩
    · exact ⟨.leaveWorker i, by simp [handshakes], by simp [step, MainLoop.leave, iterating]⟩
    · exact ⟨.advance i true, by simp [handshakes], by simp [step, LoopPlayer.advance, joining, finished]⟩

/-- For any number of players and in every interleaving, a player that `CreatePlayer` has handed out has
its worker in its loop and no `Put` or permit left over, and neither `CreatePlayer` nor the destructor
ever waits for a worker thread that does not come. -/
theorem worker_meets {es : List (LoopEvent ι)} (run : Machine.exec step ({} : LoopSystem ι) es = some t) (i : ι) :
    ((t.players i).stage = .live → (t.players i).workerLoop = ⟨true, .iterating⟩ ∧
      (t.players i).defaultPuts = 0 ∧ (t.players i).workerPuts = 0 ∧ (t.players i).starter = 0) ∧
    ((t.players i).stage = .takingWorker ∨ (t.players i).stage = .joiningWorker →
      ∃ e ∈ handshakes i, (t.step e).isSome = true) := by
  have shaken : ∀ i, (t.players i).Handshake :=
    Machine.exec_invariant (fun _ _ _ shaken h => step_handshake shaken h)
      (fun _ => LoopPlayer.start_handshake) run
  refine ⟨fun live => ?_, worker_comes shaken⟩
  have tokens := (shaken i).tokens
  have worker := (shaken i).worker
  simp only [live, CreatorStage.outstanding, CreatorStage.workerLoops, List.mem_singleton] at tokens worker
  exact ⟨worker, by omega, by omega, by omega⟩

/-- Three players on one default context. The first runs its own `Put`. The second one's default thread
waits for the context, its `Put` is run by the loop of the first, and it is destroyed while the first
lives on. The third is created when the other two are gone and their threads have given the context
back. -/
def playersInTurn : List (LoopEvent (Fin 3)) :=
  [.advance 0 true, .advance 0 true, .pushDefault 0, .runDefault 0, .advance 0 true, .dispatchDefault 0 0,
    .advance 0 true, .advance 0 true, .advance 0 true, .runWorker 0, .dispatchWorker 0, .advance 0 true,
    .advance 0 true,
    .advance 1 true, .advance 1 true, .pushDefault 1, .advance 1 true, .dispatchDefault 0 1, .runDefault 1,
    .advance 1 true, .advance 1 true, .advance 1 true, .runWorker 1, .dispatchWorker 1, .advance 1 true,
    .advance 1 true, .advance 1 true, .advance 1 true, .advance 1 true, .advance 1 true, .leaveWorker 1,
    .leaveDefault 1, .exitDefault 1, .advance 1 true, .advance 1 true,
    .advance 0 true, .advance 0 true, .advance 0 true, .advance 0 true, .leaveDefault 0, .leaveWorker 0,
    .advance 0 true, .exitDefault 0, .advance 0 true,
    .advance 2 true, .advance 2 true, .pushDefault 2, .runDefault 2, .advance 2 true, .dispatchDefault 2 2,
    .advance 2 true, .advance 2 true, .advance 2 true, .runWorker 2, .dispatchWorker 2, .advance 2 true,
    .advance 2 true,
    .advance 2 true, .advance 2 true, .advance 2 true, .advance 2 true, .leaveWorker 2, .leaveDefault 2,
    .advance 2 true, .exitDefault 2, .advance 2 true]

/-- At the end of the third one's creation the first two are gone. -/
theorem worker_meets_third :
    ∃ t : LoopSystem (Fin 3), Machine.exec step {} (playersInTurn.take 57) = some t ∧
      (t.players 0).stage = .gone ∧ (t.players 1).stage = .gone ∧ (t.players 2).stage = .live ∧
      (t.players 2).workerLoop = ⟨true, .iterating⟩ ∧
      ∃ u : LoopSystem (Fin 3), Machine.exec step {} (playersInTurn.take 61) = some u ∧
        ∃ e ∈ handshakes 2, (u.step e).isSome = true := by
  have runs : ((Machine.exec step ({} : LoopSystem (Fin 3)) (playersInTurn.take 57)).any fun t =>
      (t.players 0).stage = .gone ∧ (t.players 1).stage = .gone ∧ (t.players 2).stage = .live) = true := by
    decide +kernel
  have ends : ((Machine.exec step ({} : LoopSystem (Fin 3)) (playersInTurn.take 61)).any fun u =>
      (u.players 2).stage = .joiningWorker) = true := by decide +kernel
  obtain ⟨t, run, stages⟩ := (Option.any_eq_true _ _).mp runs
  obtain ⟨first, second, live⟩ := of_decide_eq_true stages
  obtain ⟨u, further, joins⟩ := (Option.any_eq_true _ _).mp ends
  exact ⟨t, run, first, second, live, ((worker_meets run 2).1 live).1, u, further,
    (worker_meets further 2).2 (Or.inr (of_decide_eq_true joins))⟩

end LoopSystem
end CobaltWayland
