import CobaltWayland.Plans
import CobaltWayland.Worker

/-!
The player among its threads refines the worker taken by itself. Until the destructor stops the
pipeline, what the threads do together amounts to a run of the worker in which each dispatched
function is one step: nothing that another thread does in the middle of it makes a difference.
-/

namespace CobaltWayland

namespace Player

theorem perform_sourceSetup {p : Player} {a : Action} {made : Bool} (planned : a.Planned made)
    (source : made = true → p.source.isSome = true) :
    (p.perform .sourceSetup).perform a = (p.perform a).perform .sourceSetup := by
  cases a with
  | registerPlayer =>
    obtain ⟨src, found⟩ := Option.isSome_iff_exists.mp (source planned)
    simp [perform, found]
  | sourceSetup => exact planned.elim
  | _ => rfl

theorem performAll_sourceSetup {p : Player} {as : List Action}
    (planned : ∀ a ∈ as, a.Planned p.source.isSome ∨ a = .reportPlayerState .initialized) :
    (p.perform .sourceSetup).performAll as = (p.performAll as).perform .sourceSetup := by
  induction as generalizing p with
  | nil => rfl
  | cons a as ih =>
    obtain ⟨first, rest⟩ := List.forall_mem_cons.mp planned
    have swap : (p.perform .sourceSetup).perform a = (p.perform a).perform .sourceSetup := by
      rcases first with planned | rfl
      · exact perform_sourceSetup planned id
      · rfl
    have source : (p.perform a).source.isSome = p.source.isSome := by
      rcases first with planned | rfl
      · exact perform_source_isSome planned
      · rfl
    rw [performAll_cons, performAll_cons, swap, ih (by rwa [source])]

end Player

namespace System

/-- What a step amounts to for the worker taken by itself: the function it dispatches or, for a
`DoSeek`, goes on with. -/
def ops (s : System) (e : Event) : List Op :=
  if s.stage.stopped then []
  else
    match e with
    | .dispatchCall query =>
      match s.calls with
      | .reportInitialized :: _ => [.reportInitialized]
      | .doPlaybackRate rate :: _ => [.doPlaybackRate rate query]
      | .doVolume volume :: _ => [.doVolume volume]
      | .doBounds z x y width height :: _ => [.doBounds z x y width height]
      | .put :: _ | .doSeek _ _ :: _ | [] => []
    | .resume query =>
      match s.calls with
      | .doSeek time ticket :: _ => [.doSeek time ticket query]
      | _ => []
    | .dispatchMessage query => s.bus.head?.toList.map fun message => .message message query
    | .tick query => [.updatePosition query]
    | .sourceChanged => [.sourceChanged]
    | _ => []

/-- The player once `Initialize` has asked for `PAUSED` and the worker has carried out what it is at;
a `DoSeek` that has stored its ticket and not gone on has not begun. -/
inductive Shows (s : System) (p : Player) : Prop where
  | pausing (at_ : s.stage = .pausing) (same : p = s.player.perform (.setState .paused))
  | seeking (begun : s.stage ≠ .pausing) (time ticket : Int) (rest : List Call)
      (seeking : s.worker = .seeking time) (head : s.calls = .doSeek time ticket :: rest)
      (same : s.player = p.perform (.publishTicket ticket))
  | carrying (begun : s.stage ≠ .pausing) (still : ∀ time, s.worker ≠ .seeking time)
      (same : p = s.player.performAll s.worker.todo)

structure Refines (s : System) (b : Playback) : Prop where
  sound : Sound s
  quit : s.quit = true → s.stage.stopped = true
  shows : s.Shows b.player

theorem start_refines (cfg : Config) : Refines (start cfg) (Playback.initial cfg) where
  sound := start_sound cfg
  quit := by simp [start]
  shows := .pausing rfl rfl

theorem stopped_lasts {cfg : Config} {s t : System} {e : Event} (h : s.step cfg e = some t)
    (stopped : s.stage.stopped = true) : t.stage.stopped = true := by
  cases step_cases h with
  | pausing at_ | initialized at_ | failed at_ | spawning at_ | posting at_ | waiting at_ | announcing at_
  | destroyed at_ =>
    rw [at_] at stopped
    cases stopped
  | stopping | detaching | quitting | joining | droppingAudio | droppingVideo | unreffing => rfl
  | acted => rwa [← act_stage] at stopped
  | @dispatchedCall _ call => cases call <;> exact stopped
  | _ => exact stopped

theorem Refines.congr {s t : System} {b : Playback} (refines : Refines s b) (sound : Sound t)
    (quit : t.quit = s.quit) (stage : s.stage = .pausing ↔ t.stage = .pausing)
    (stopped : s.stage.stopped = true → t.stage.stopped = true)
    (player : t.player = s.player) (worker : t.worker = s.worker) (calls : ∃ more, t.calls = s.calls ++ more) :
    Refines t b where
  sound := sound
  quit := fun quitted => stopped (refines.quit (quit ▸ quitted))
  shows := by
    cases refines.shows with
    | pausing at_ same => exact .pausing (stage.mp at_) (player ▸ same)
    | seeking begun time ticket rest seeking head same =>
      obtain ⟨more, queue⟩ := calls
      exact .seeking (mt stage.mpr begun) time ticket (rest ++ more) (worker.trans seeking)
        (by rw [queue, head]; rfl) (player.trans same)
    | carrying begun still same =>
      exact .carrying (mt stage.mpr begun) (fun time => worker ▸ still time) (by rw [player, worker, same])

theorem Refines.idle {s : System} {b : Playback} (refines : Refines s b) (idle : s.worker = .idle) :
    s.stage ≠ .pausing ∧ b.player = s.player := by
  cases refines.shows with
  | pausing at_ => exact absurd at_ (refines.sound.begun (by simp [idle]))
  | seeking _ time _ _ seeking => cases idle.symm.trans seeking
  | carrying begun _ same => exact ⟨begun, by simpa [idle, Worker.todo] using same⟩

theorem Refines.takes {s t : System} {b : Playback} {calling : Bool} (refines : Refines s b) (op : Op)
    (idle : s.worker = .idle) (sound : Sound t) (quit : t.quit = s.quit) (stage : t.stage = s.stage)
    (player : t.player = s.player) (worker : t.worker = .acting calling (op.actions s.player))
    (enabled : op.enabled s.player = true) :
    ∃ c, Machine.exec Playback.step b [op] = some c ∧ Refines t c := by
  obtain ⟨begun, same⟩ := refines.idle idle
  have taken : b.step op = some
      { player := s.player.performAll (op.actions s.player)
        request := op.request.or b.request
        rate := op.rate.or b.rate } := by
    rw [← same] at enabled ⊢
    simp [Playback.step, enabled]
  refine ⟨_, Machine.exec_cons.mpr ⟨_, taken, rfl⟩, sound, by rw [quit, stage]; exact refines.quit, ?_⟩
  exact .carrying (by rwa [stage]) (by simp [worker]) (by rw [player, worker]; rfl)

/-- With nothing left of one function and nothing begun of the next, the worker shows the player. -/
theorem Refines.moved {s t : System} {b : Playback} (refines : Refines s b) (sound : Sound t)
    (quit : t.quit = s.quit) (stopped : s.stage.stopped = true → t.stage.stopped = true)
    (begun : s.stage ≠ .pausing) (begun' : t.stage ≠ .pausing) (player : t.player = s.player)
    (still : ∀ time, s.worker ≠ .seeking time) (still' : ∀ time, t.worker ≠ .seeking time)
    (free : s.worker.todo = []) (free' : t.worker.todo = []) : Refines t b where
  sound := sound
  quit := fun quitted => stopped (refines.quit (quit ▸ quitted))
  shows := by
    cases refines.shows with
    | pausing at_ => exact absurd at_ begun
    | seeking _ time _ _ seeking => exact absurd seeking (still time)
    | carrying _ _ same => exact .carrying begun' still' (by rw [same, player, free, free'])

theorem ops_of_client {e : Event} (client : e.byClient = true) (s : System) : s.ops e = [] := by
  unfold ops
  split
  · rfl
  · cases e <;> first | rfl | cases client

theorem dispatchCall_refines {s : System} {b : Playback} {call : Call} {rest : List Call} {query : Option Int}
    (refines : Refines s b) (alive : s.stage.stopped = false) (idle : s.worker = .idle)
    (head : s.calls = call :: rest) (sound : Sound (s.dispatchCall query call)) :
    ∃ c, Machine.exec Playback.step b (s.ops (.dispatchCall query)) = some c ∧
      Refines (s.dispatchCall query call) c := by
  obtain ⟨begun, same⟩ := refines.idle idle
  cases call with
  | put =>
    refine ⟨b, by simp [ops, alive, head], ?_⟩
    exact refines.moved sound rfl id begun begun rfl (by simp [idle]) (by simp [dispatchCall])
      (by simp [idle, Worker.todo]) rfl
  | doSeek time ticket =>
    refine ⟨b, by simp [ops, alive, head], sound, refines.quit, ?_⟩
    exact .seeking begun time ticket rest rfl head (by rw [same]; rfl)
  | reportInitialized | doPlaybackRate rate | doVolume volume | doBounds z x y width height =>
    simp only [ops, alive, head, Bool.false_eq_true, if_false]
    exact refines.takes _ idle sound rfl rfl rfl rfl rfl

theorem resumed_refines {s : System} {b : Playback} {time : Int} {query : Option Int} (refines : Refines s b)
    (alive : s.stage.stopped = false) (seeking : s.worker = .seeking time)
    (sound : Sound { s with worker := .acting true (s.player.doSeekBody query time) }) :
    ∃ c, Machine.exec Playback.step b (s.ops (.resume query)) = some c ∧
      Refines { s with worker := .acting true (s.player.doSeekBody query time) } c := by
  cases refines.shows with
  | pausing at_ => exact absurd at_ (refines.sound.begun (by simp [seeking]))
  | carrying _ still => exact absurd seeking (still time)
  | seeking begun time' ticket rest seeking' head same =>
    obtain rfl : time = time' := Worker.seeking.inj (seeking.symm.trans seeking')
    have plan : b.player.performAll (b.player.doSeek query time ticket) =
        s.player.performAll (s.player.doSeekBody query time) := by
      rw [same]
      rfl
    have completed : s.ops (.resume query) = [.doSeek time ticket query] := by simp [ops, alive, head]
    rw [completed]
    refine ⟨_, Machine.exec_cons.mpr ⟨_, rfl, rfl⟩, sound, refines.quit, ?_⟩
    exact .carrying begun (by simp) plan

theorem sourceChanged_refines {s : System} {b : Playback} (refines : Refines s b)
    (alive : s.stage.stopped = false) (sound : Sound (s.perform .sourceSetup)) :
    ∃ c, Machine.exec Playback.step b (s.ops .sourceChanged) = some c ∧
      Refines (s.perform .sourceSetup) c := by
  simp only [ops, alive, Bool.false_eq_true, if_false]
  refine ⟨_, Machine.exec_cons.mpr ⟨_, rfl, rfl⟩, sound, refines.quit, ?_⟩
  cases refines.shows with
  | pausing at_ same => exact .pausing at_ (by rw [same]; rfl)
  | seeking begun time ticket rest seeking head same =>
    exact .seeking begun time ticket rest seeking head (by simp only [perform, same]; rfl)
  | carrying begun still same =>
    exact .carrying begun still (by rw [same]; exact (Player.performAll_sourceSetup refines.sound.todo).symm)

theorem acted_refines {cfg : Config} {s : System} {b : Playback} {calling : Bool} {a : Action}
    {todo : List Action} (refines : Refines s b) (acting : s.worker = .acting calling (a :: todo))
    (sound : Sound { s.act cfg a with worker := .acting calling todo }) :
    Refines { s.act cfg a with worker := .acting calling todo } b := by
  have stage := act_stage cfg s a
  refine ⟨sound, ?_, ?_⟩
  · simpa using refines.quit
  cases refines.shows with
  | pausing at_ => exact absurd at_ (refines.sound.begun (by simp [acting]))
  | seeking _ _ _ _ seeking => cases acting.symm.trans seeking
  | carrying begun still same =>
    refine .carrying (fun at_ => begun (stage ▸ at_)) (by simp) ?_
    rw [same, acting]
    exact congrArg (Player.performAll · todo) (act_player cfg s a).symm

/-- A step of the threads is a step of the worker, or none. -/
theorem step_refines {cfg : Config} {s t : System} {b : Playback} {e : Event}
    (refines : s.stage.stopped = false → Refines s b) (h : s.step cfg e = some t) :
    ∃ c, Machine.exec Playback.step b (s.ops e) = some c ∧ (t.stage.stopped = false → Refines t c) := by
  cases alive : s.stage.stopped with
  | true =>
    refine ⟨b, by simp [ops, alive], fun running => ?_⟩
    cases (stopped_lasts h alive).symm.trans running
  | false =>
  have refines := refines alive
  have sound := step_sound refines.sound h
  have silent : s.ops e = [] → (t.stage.stopped = false → Refines t b) →
      ∃ c, Machine.exec Playback.step b (s.ops e) = some c ∧ (t.stage.stopped = false → Refines t c) := by
    intro none next
    exact ⟨b, by rw [none]; rfl, next⟩
  have one : (∃ c, Machine.exec Playback.step b (s.ops e) = some c ∧ Refines t c) →
      ∃ c, Machine.exec Playback.step b (s.ops e) = some c ∧ (t.stage.stopped = false → Refines t c) :=
    fun ⟨c, run, next⟩ => ⟨c, run, fun _ => next⟩
  cases step_cases h with
  | pausing at_ =>
    have absent := refines.sound.early (by rw [at_]; rfl)
    refine silent (by simp [ops, alive]) fun _ => ⟨sound, fun quit => ?_, ?_⟩
    · cases alive.symm.trans (refines.quit quit)
    · cases refines.shows with
      | pausing _ same =>
        exact .carrying (by simp) (by simp [perform, absent])
          (by simpa [perform, absent, Worker.todo] using same)
      | seeking begun | carrying begun => exact absurd at_ begun
  | initialized at_ | failed at_ | waiting at_ | destroyed at_ =>
    refine silent (by simp [ops, alive]) fun _ => refines.congr sound rfl (by simp [at_]) ?_ rfl rfl
      ⟨[], by simp⟩
    rw [alive]
    exact fun stopped => by cases stopped
  | posting at_ | announcing at_ =>
    refine silent (by simp [ops, alive]) fun _ => refines.congr sound rfl (by simp [at_]) ?_ rfl rfl ⟨_, rfl⟩
    rw [alive]
    exact fun stopped => by cases stopped
  | spawning at_ =>
    have absent := refines.sound.early (by rw [at_]; rfl)
    refine silent (by simp [ops, alive]) fun _ => refines.moved sound rfl ?_ (by simp [at_]) (by simp) rfl
      (by simp [absent]) (by simp) (by simp [absent, Worker.todo]) rfl
    rw [alive]
    exact fun stopped => by cases stopped
  | stopping => exact silent (by simp [ops, alive]) fun running => (by cases running)
  | detaching at_ | quitting at_ | joining at_ | droppingAudio at_ | droppingVideo at_ | unreffing at_ =>
    rw [at_] at alive
    cases alive
  | called live _ _ client =>
    exact silent (ops_of_client client s) fun _ => refines.congr sound rfl Iff.rfl id rfl rfl ⟨_, rfl⟩
  | ignored _ client => exact silent (ops_of_client client s) fun _ => refines
  | seek => exact silent (by simp [ops, alive]) fun _ => refines.congr sound rfl Iff.rfl id rfl rfl ⟨_, rfl⟩
  | written | posted | needData | consumed =>
    exact silent (by simp [ops, alive]) fun _ => refines.congr sound rfl Iff.rfl id rfl rfl
      ⟨[], (List.append_nil _).symm⟩
  | sourceChanged => exact one (sourceChanged_refines refines alive sound)
  | entered created =>
    have begun := refines.sound.begun (by simp [created])
    exact silent (by simp [ops, alive]) fun _ => refines.moved sound rfl id begun begun rfl
      (by simp [created]) (by simp) (by simp [created, Worker.todo]) rfl
  | dispatchedCall idle head => exact one (dispatchCall_refines refines alive idle head sound)
  | @dispatchedMessage query message rest idle head =>
    simp only [ops, alive, head, Bool.false_eq_true, if_false] at one ⊢
    exact one (refines.takes (.message message query) idle sound rfl rfl rfl rfl rfl)
  | @ticked query idle timed =>
    simp only [ops, alive, Bool.false_eq_true, if_false] at one ⊢
    exact one (refines.takes (.updatePosition query) idle sound rfl rfl rfl rfl timed)
  | resumed seeking => exact one (resumed_refines refines alive seeking sound)
  | acted acting => exact silent (by simp [ops, alive]) fun _ => acted_refines refines acting sound
  | finished acting =>
    have begun := refines.sound.begun (by simp [acting])
    exact silent (by simp [ops, alive]) fun _ => refines.moved sound rfl id begun begun rfl
      (by simp [acting]) (by simp) (by simp [acting, Worker.todo]) rfl
  | left idle quit => cases alive.symm.trans (refines.quit quit)

/-- The run of the worker that a run of the threads amounts to. -/
theorem run_refines (cfg : Config) {es : List Event} {t : System}
    (run : Machine.exec (step cfg) (start cfg) es = some t) :
    ∃ b, Machine.exec Playback.step (Playback.initial cfg)
        (Machine.labels (step cfg) ops (start cfg) es) = some b ∧
      (t.stage.stopped = false → Refines t b) :=
  Machine.exec_simulates (fun s b => s.stage.stopped = false → Refines s b)
    (fun _ _ _ _ refines h => step_refines refines h) (fun _ => start_refines cfg) run

end System
end CobaltWayland
