import CobaltWayland.CallOrder
import CobaltWayland.Destruction
import CobaltWayland.Lib.Progress

/-!
`Initialize` waits for the worker to serve its first call, and the destructor waits for the worker to
leave its loop. Neither waits for ever: whatever state the threads are in, they have only so much to do
by themselves, and they are never stuck before the client has its player or the player is gone.
-/

namespace CobaltWayland

def Stage.left : Stage → Nat
  | .pausing => 14
  | .decoders => 13
  | .spawning => 12
  | .posting => 11
  | .waiting => 10
  | .announcing => 9
  | .live => 8
  | .stopping => 7
  | .detaching => 6
  | .quitting => 5
  | .joining => 4
  | .droppingAudio => 3
  | .droppingVideo => 2
  | .unreffing => 1
  | .gone => 0

/-- Bounds the steps left of what the worker is at; a seek plans five actions at most. -/
def Worker.left : Worker → Nat
  | .absent | .finished => 0
  | .idle => 1
  | .created => 2
  | .seeking _ => 9
  | .acting _ todo => todo.length + 2

namespace Player
variable (p : Player) (query : Option Int)

theorem doSeekAndSpeed_length (seekTo : Int) (speedTo : ℚ) :
    (p.doSeekAndSpeed query seekTo speedTo).length ≤ 5 := by
  rw [doSeekAndSpeed_eq]
  split
  · simp
  · split <;> simp

theorem doSeekBody_length (time : Int) : (p.doSeekBody query time).length ≤ 5 := by
  unfold doSeekBody
  dsimp only
  split
  · exact p.doSeekAndSpeed_length query time p.info.playbackRate
  · simp

theorem doPlaybackRate_length (rate : ℚ) : (p.doPlaybackRate query rate).length ≤ 5 := by
  unfold doPlaybackRate
  split
  · exact p.doSeekAndSpeed_length query p.lastSeek rate
  · split <;> simp

theorem doBounds_length (z x y width height : Int) : (p.doBounds z x y width height).length ≤ 2 := by
  unfold doBounds
  split <;> split <;> simp

theorem preroll_length : (p.preroll query).length ≤ 8 := by
  have sought : (if p.info.isPaused = true then []
      else p.doSeekAndSpeed query p.lastSeek p.info.playbackRate).length ≤ 5 := by
    split
    · simp
    · exact p.doSeekAndSpeed_length query p.lastSeek p.info.playbackRate
  simp only [preroll, doVolume, List.length_append, List.length_cons, List.length_nil]
  omega

theorem gstBusCallback_length (message : Message) : (p.gstBusCallback query message).length ≤ 8 := by
  unfold gstBusCallback
  split
  · simp
  · split
    · exact p.preroll_length query
    · split <;> simp
  · split
    · simp
    · split <;> simp
  all_goals simp

end Player

namespace System

/-- What the threads do by themselves. The client decides when to destroy a live player. -/
def Inner (s : System) : Event → Prop
  | .advance _ => s.stage ≠ .live
  | .enterLoop | .dispatchCall _ | .dispatchMessage _ | .resume _ | .act | .finish | .leaveLoop => True
  | _ => False

instance (s : System) (e : Event) : Decidable (s.Inner e) := by
  unfold Inner; split <;> infer_instance

/-- Bounds the steps that the threads still take by themselves. -/
def work (s : System) : Nat :=
  20 * s.stage.left + 10 * (s.pending.length + s.bus.length) + s.worker.left

theorem dispatchCall_left (s : System) (query : Option Int) (call : Call) :
    (s.dispatchCall query call).worker.left ≤ 9 := by
  cases call with
  | put | reportInitialized | doVolume _ | doSeek _ _ => simp [dispatchCall, Worker.left, Player.doVolume]
  | doPlaybackRate rate =>
    have length := s.player.doPlaybackRate_length query rate
    simp only [dispatchCall, Worker.left]
    omega
  | doBounds z x y width height =>
    have length := s.player.doBounds_length z x y width height
    simp only [dispatchCall, Worker.left]
    omega

theorem not_inner_of_client {e : Event} (client : e.byClient = true) (s : System) : ¬ s.Inner e := by
  cases e with
  | setPlaybackRate | setVolume | setBounds | writeSample => exact id
  | _ => cases client

theorem advance_lessens {s t : System} (fewer : t.stage.left < s.stage.left)
    (queue : t.pending.length ≤ s.pending.length + 1) (bus : t.bus = s.bus)
    (worker : t.worker.left ≤ s.worker.left + 2) : t.work < s.work := by
  simp only [work, bus]
  omega

theorem worker_lessens {s t : System} (fewer : t.worker.left < s.worker.left) (stage : t.stage = s.stage)
    (queue : t.pending.length ≤ s.pending.length) (bus : t.bus = s.bus) : t.work < s.work := by
  simp only [work, stage, bus]
  omega

theorem step_lessens {cfg : Config} {s t : System} {e : Event} (sound : Sound s) (own : s.Inner e)
    (h : s.step cfg e = some t) : t.work < s.work := by
  have queue := congrArg List.length (step_pending sound h)
  simp only [List.length_append] at queue
  have quiet : s.taken e = [] → s.queued e = [] → t.pending.length ≤ s.pending.length := by
    intro none noMore
    simp only [none, noMore, List.length_nil] at queue
    omega
  cases step_cases h with
  | called _ _ _ client | ignored _ client => exact absurd own (not_inner_of_client client s)
  | seek | written | posted | sourceChanged | needData | consumed | ticked => cases own
  | destroyed at_ => exact absurd at_ own
  | pausing at_ | initialized at_ | failed at_ | waiting at_ | stopping at_ | detaching at_ | quitting at_
  | joining at_ | droppingAudio at_ | droppingVideo at_ | unreffing at_ | posting at_ | announcing at_ =>
    simp only [taken, queued, at_, List.length_nil, Nat.zero_add] at queue
    refine advance_lessens (by simp [at_, Stage.left]) ?_ rfl (Nat.le_add_right _ 2)
    rw [queue]
    simp
  | spawning at_ =>
    have absent := sound.early (by rw [at_]; rfl)
    have same := quiet rfl (by simp [queued, at_])
    exact advance_lessens (by simp [at_, Stage.left]) (by omega) rfl (by simp [absent, Worker.left])
  | entered created => exact worker_lessens (by simp [created, Worker.left]) rfl (quiet rfl rfl) rfl
  | left idle => exact worker_lessens (by simp [idle, Worker.left]) rfl (quiet rfl rfl) rfl
  | finished acting => exact worker_lessens (by simp [acting, Worker.left]) rfl (quiet rfl rfl) rfl
  | @acted calling a todo acting =>
    exact worker_lessens (by simp [acting, Worker.left]) (act_stage cfg s a) (quiet rfl rfl) (act_bus cfg s a)
  | @resumed query time seeking =>
    have length := s.player.doSeekBody_length query time
    refine worker_lessens ?_ rfl (quiet rfl rfl) rfl
    simp only [seeking, Worker.left]
    omega
  | @dispatchedCall query call rest idle head =>
    have left := dispatchCall_left s query call
    have begun : s.taken (.dispatchCall query) = [call] := by simp [taken, head]
    have noMore : s.queued (.dispatchCall query) = [] := rfl
    have stage : (s.dispatchCall query call).stage = s.stage := by cases call <;> rfl
    have bus : (s.dispatchCall query call).bus = s.bus := by cases call <;> rfl
    have before : s.worker.left = 1 := by rw [idle]; rfl
    simp only [begun, noMore, List.length_singleton, List.length_nil] at queue
    simp only [work, stage, bus, before]
    omega
  | @dispatchedMessage query message rest idle head =>
    have length := s.player.gstBusCallback_length query message
    have same := quiet rfl rfl
    have before : s.worker.left = 1 := by rw [idle]; rfl
    have after : (Worker.acting false (s.player.gstBusCallback query message)).left =
        (s.player.gstBusCallback query message).length + 2 := rfl
    simp only [work, head, before, after, List.length_cons]
    omega

/-! ### Never stuck -/

/-- The player is gone, or the client has it and the worker waits for something to do. -/
def AtRest (s : System) : Prop :=
  s.stage = .gone ∨ s.stage = .live ∧ s.worker = .idle ∧ s.calls = [] ∧ s.bus = []

instance (s : System) : Decidable (AtRest s) := by unfold AtRest; infer_instance

structure Awake (s : System) : Prop where
  ended : EndInv s
  left : s.worker = .finished → s.quit = true
  quit : s.quit = true → s.stage = .joining ∨ s.stage.joined = true
  joining : s.stage = .joining → s.quit = true
  put : s.stage = .waiting → s.started = true ∨ .put ∈ s.pending

theorem start_awake (cfg : Config) : Awake (start cfg) where
  ended := start_endInv cfg
  left := by simp [start]
  quit := by simp [start]
  joining := by simp [start]
  put := by simp [start]

theorem Awake.advances {s t : System} (awake : Awake s) (ended : EndInv t)
    (worker : t.worker = .finished → s.worker = .finished)
    (early : s.stage ≠ .joining ∧ s.stage.joined = false) (notYet : t.stage ≠ .joining)
    (quit : t.quit = s.quit) (put : t.stage = .waiting → t.started = true ∨ .put ∈ t.pending) : Awake t := by
  have running : s.quit = false := by
    by_contra quitting
    rcases awake.quit (by simpa using quitting) with at_ | late
    · exact early.1 at_
    · rw [early.2] at late
      cases late
  refine ⟨ended, fun finished => ?_, fun quitting => ?_, fun at_ => absurd at_ notYet, put⟩
  · rw [quit]
    exact awake.left (worker finished)
  · rw [quit, running] at quitting
    cases quitting

theorem Awake.congr {s t : System} (awake : Awake s) (ended : EndInv t)
    (worker : t.worker = .finished → s.worker = .finished ∨ s.quit = true) (stage : t.stage = s.stage)
    (quit : t.quit = s.quit) (started : s.started = true → t.started = true)
    (put : .put ∈ s.pending → t.started = true ∨ .put ∈ t.pending) : Awake t where
  ended := ended
  left := by
    rw [quit]
    exact fun finished => (worker finished).elim awake.left id
  quit := by rw [quit, stage]; exact awake.quit
  joining := by rw [quit, stage]; exact awake.joining
  put := by
    rw [stage]
    exact fun at_ => (awake.put at_).elim (fun ready => Or.inl (started ready)) put

theorem step_awake {cfg : Config} {s t : System} {e : Event} (awake : Awake s) (h : s.step cfg e = some t) :
    Awake t := by
  have ended := step_endInv awake.ended h
  have queue := step_pending awake.ended.sound h
  have kept : s.taken e = [] → .put ∈ s.pending → t.started = true ∨ .put ∈ t.pending := by
    intro none listed
    rw [none, List.nil_append] at queue
    exact Or.inr (queue ▸ List.mem_append_left _ listed)
  cases step_cases h with
  | called _ _ _ client | ignored _ client =>
    exact awake.congr ended Or.inl rfl rfl id (kept (queued_client client s).2)
  | seek | written | posted | sourceChanged | needData | consumed =>
    exact awake.congr ended Or.inl rfl rfl id (kept rfl)
  | pausing at_ | initialized at_ | failed at_ | waiting at_ | destroyed at_ | stopping at_ | detaching at_
  | announcing at_ =>
    exact awake.advances ended id (by simp [at_, Stage.joined]) (by simp) rfl (by simp)
  | spawning at_ =>
    exact awake.advances ended (by simp) (by simp [at_, Stage.joined]) (by simp) rfl (by simp)
  | posting at_ =>
    refine awake.advances ended id (by simp [at_, Stage.joined]) (by simp) rfl fun _ => ?_
    simp only [taken, queued, at_, List.nil_append] at queue
    exact Or.inr (by rw [queue]; simp)
  | quitting at_ => exact ⟨ended, fun _ => rfl, fun _ => Or.inl rfl, fun _ => rfl, by simp⟩
  | joining at_ | droppingAudio at_ | droppingVideo at_ | unreffing at_ =>
    exact ⟨ended, awake.left, fun _ => Or.inr rfl, by simp, by simp⟩
  | entered | dispatchedMessage | ticked | resumed | finished =>
    exact awake.congr ended (by simp) rfl rfl id (kept rfl)
  | left idle quit => exact awake.congr ended (fun _ => Or.inr quit) rfl rfl id (kept rfl)
  | @acted calling a todo acting =>
    have quit : (s.act cfg a).quit = s.quit := act_quit cfg s a
    have started : (s.act cfg a).started = s.started := act_started cfg s a
    exact awake.congr ended (by simp) (act_stage cfg s a) quit (by simp [started]) (kept rfl)
  | @dispatchedCall query call rest idle head =>
    have begun : s.taken (.dispatchCall query) = [call] := by simp [taken, head]
    have noMore : s.queued (.dispatchCall query) = [] := rfl
    rw [begun, noMore, List.append_nil] at queue
    have put : .put ∈ s.pending →
        (s.dispatchCall query call).started = true ∨ .put ∈ (s.dispatchCall query call).pending := by
      rw [← queue]
      intro listed
      rcases List.mem_append.mp listed with now | later
      · rw [← List.mem_singleton.mp now]
        exact Or.inl rfl
      · exact Or.inr later
    cases call with
    | put => exact awake.congr ended (by simp [dispatchCall]) rfl rfl (fun _ => rfl) put
    | _ => exact awake.congr ended (by simp [dispatchCall]) rfl rfl id put

theorem worker_moves (cfg : Config) {s : System} (running : s.worker ≠ .absent) (unfinished : s.worker ≠ .finished) :
    (s.worker = .idle ∧ s.calls = [] ∧ s.bus = []) ∨ ∃ e t, s.Inner e ∧ s.step cfg e = some t := by
  cases worker : s.worker with
  | absent => exact absurd worker running
  | finished => exact absurd worker unfinished
  | created => exact Or.inr ⟨.enterLoop, _, trivial, by simp [step, worker]; rfl⟩
  | seeking time => exact Or.inr ⟨.resume none, _, trivial, by simp only [step, worker]; rfl⟩
  | acting calling todo =>
    cases todo with
    | nil => exact Or.inr ⟨.finish, _, trivial, by simp only [step, worker]; rfl⟩
    | cons a todo => exact Or.inr ⟨.act, _, trivial, by simp only [step, worker]; rfl⟩
  | idle =>
    cases calls : s.calls with
    | cons call rest => exact Or.inr ⟨.dispatchCall none, _, trivial, by simp only [step, worker, calls]; rfl⟩
    | nil =>
      cases bus : s.bus with
      | cons message rest =>
        exact Or.inr ⟨.dispatchMessage none, _, trivial, by simp only [step, worker, bus]; rfl⟩
      | nil => exact Or.inl ⟨rfl, rfl, rfl⟩

theorem moves (cfg : Config) {s : System} (awake : Awake s) :
    AtRest s ∨ ∃ e t, s.Inner e ∧ s.step cfg e = some t := by
  have unfinished : s.stage ≠ .joining → s.stage.joined = false → s.worker ≠ .finished := by
    intro notJoining notJoined finished
    rcases awake.quit (awake.left finished) with at_ | late
    · exact notJoining at_
    · rw [notJoined] at late
      cases late
  cases at_ : s.stage with
  | gone => exact Or.inl (Or.inl at_)
  | live =>
    rcases worker_moves cfg (awake.ended.running (Or.inl (by rw [at_]; rfl)))
      (unfinished (by simp [at_]) (by rw [at_]; rfl)) with resting | moving
    · exact Or.inl (Or.inr ⟨at_, resting⟩)
    · exact Or.inr moving
  | waiting =>
    right
    rcases awake.put at_ with ready | queued
    · exact ⟨.advance true, _, by simp [Inner, at_], by simp only [step, advance, at_, ready]; rfl⟩
    · -- the call that lets `Initialize` go on is still queued
      refine (worker_moves cfg (awake.ended.running (Or.inl (by rw [at_]; rfl)))
        (unfinished (by simp [at_]) (by rw [at_]; rfl))).resolve_left fun resting => ?_
      simp [pending, serving, resting.1, resting.2.1] at queued
  | joining =>
    right
    by_cases ended : s.worker = .absent ∨ s.worker = .finished
    · exact ⟨.advance true, _, by simp [Inner, at_], by simp only [step, advance, at_, if_pos ended]; rfl⟩
    · rw [not_or] at ended
      rcases worker_moves cfg ended.1 ended.2 with resting | moving
      · exact ⟨.leaveLoop, _, trivial, if_pos ⟨resting.1, awake.joining at_⟩⟩
      · exact moving
  | pausing | decoders | spawning | posting | announcing | stopping | detaching | quitting | droppingAudio
  | droppingVideo | unreffing =>
    exact Or.inr ⟨.advance true, _, by simp [Inner, at_], by simp only [step, advance, at_]; rfl⟩

theorem step_stage {cfg : Config} {s t : System} {e : Event} (h : s.step cfg e = some t) :
    t.stage.left ≤ s.stage.left := by
  cases step_cases h with
  | pausing at_ | initialized at_ | failed at_ | waiting at_ | destroyed at_ | stopping at_ | detaching at_
  | announcing at_ | spawning at_ | posting at_ | quitting at_ | joining at_ | droppingAudio at_
  | droppingVideo at_ | unreffing at_ => simp [at_, Stage.left]
  | @dispatchedCall _ call => cases call <;> exact Nat.le_refl _
  | acted => exact Nat.le_of_eq (congrArg Stage.left (act_stage cfg s _))
  | _ => exact Nat.le_refl _

/-- Wherever the threads are, what they do by themselves is bounded and ends at rest: the client has its
player, or the player is gone, and it is gone if its destruction had begun. -/
theorem comes_to_rest (cfg : Config) {es : List Event} {s : System}
    (run : Machine.exec (step cfg) (start cfg) es = some s) :
    (∀ more t, Machine.Along (step cfg) Inner s more → Machine.exec (step cfg) s more = some t →
      more.length ≤ s.work ∧
        ((∀ e u, t.Inner e → t.step cfg e ≠ some u) →
          AtRest t ∧ (s.stage.left < Stage.live.left → t.stage = .gone))) ∧
    ∃ more t, Machine.Along (step cfg) Inner s more ∧ Machine.exec (step cfg) s more = some t ∧ AtRest t := by
  have kept : ∀ s e t, Awake s → s.step cfg e = some t → Awake t := fun _ _ _ => step_awake
  have lessens : ∀ s e t, Awake s → s.Inner e → s.step cfg e = some t → t.work < s.work :=
    fun _ _ _ awake => step_lessens awake.ended.sound
  have awake : Awake s := Machine.exec_invariant kept (start_awake cfg) run
  refine ⟨fun more t alone reached => ⟨?_, fun stuck => ?_⟩, ?_⟩
  · have bound := Machine.length_le_work kept lessens awake alone reached
    omega
  · have resting : AtRest t := by
      refine (moves cfg (Machine.exec_invariant kept awake reached)).resolve_right ?_
      rintro ⟨e, u, own, taken⟩
      exact stuck e u own taken
    refine ⟨resting, fun leaving => ?_⟩
    have later : t.stage.left ≤ s.stage.left :=
      Machine.exec_invariant (fun _ _ _ before h => (step_stage h).trans before) (Nat.le_refl _) reached
    rcases resting with gone | ⟨live, -⟩
    · exact gone
    · rw [live] at later
      omega
  · exact Machine.exists_rest kept lessens (fun _ => moves cfg) awake

/-- The destruction begins with a seek and a rate still queued. -/
def destroyedBusy : List Event :=
  startup ++ ([.seek 5 1, .setPlaybackRate 1, .advance true] : List Event)

def windingDown : List Event :=
  [.dispatchCall none, .advance true, .resume none, .advance true, .act, .advance true, .finish, .leaveLoop,
    .advance true, .advance true, .advance true, .advance true]

theorem comes_to_rest_replay :
    ∃ s t : System, Machine.exec (step ⟨0, true, true, true⟩) (start ⟨0, true, true, true⟩) destroyedBusy = some s ∧
      Machine.exec (step ⟨0, true, true, true⟩) s windingDown = some t ∧ windingDown.length ≤ s.work := by
  have runs : ((Machine.exec (step ⟨0, true, true, true⟩) (start ⟨0, true, true, true⟩) destroyedBusy).any fun s =>
      Machine.Along (step ⟨0, true, true, true⟩) Inner s windingDown ∧
        (Machine.exec (step ⟨0, true, true, true⟩) s windingDown).isSome) = true := by decide +kernel
  obtain ⟨s, run, both⟩ := (Option.any_eq_true _ _).mp runs
  obtain ⟨alone, ends⟩ := of_decide_eq_true both
  obtain ⟨t, reached⟩ := Option.isSome_iff_exists.mp ends
  exact ⟨s, t, run, reached, ((comes_to_rest _ run).1 _ t alone reached).1⟩

end System
end CobaltWayland
