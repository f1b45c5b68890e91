import Mathlib.Tactic.MkIffOfInductiveProp
import CobaltWayland.Plans

/-!
Whether the pipeline stays in `NULL` once the destructor has put it there. The worker loop is told to
quit later, so what was queued or posted before can still be dispatched, and what was dispatched
before is still performed.
-/

namespace CobaltWayland

def Action.setsState : Action → Bool
  | .setState _ => true
  | _ => false

namespace Player

variable {p : Player} {query : Option Int}

theorem doPlaybackRate_early (early : p.positionUpdateSource = false) (rate : ℚ) :
    ∀ a ∈ p.doPlaybackRate query rate, a.setsState = false := by
  intro a h
  cases mem_doPlaybackRate h with
  | seek timed | pause timed => cases early.symm.trans timed
  | storeRate | storePause => rfl

theorem doBounds_keepsState (z x y width height : Int) :
    ∀ a ∈ p.doBounds z x y width height, a.setsState = false := by
  intro a h
  rcases mem_doBounds h with rfl | rfl <;> rfl

theorem updatePosition_keepsState : ∀ a ∈ p.updatePosition query, a.setsState = false := by
  intro a h
  obtain ⟨timestamp, rfl⟩ := mem_updatePosition h
  rfl

/-- Only the first `PAUSED` of a playbin that is to play makes the bus callback ask for a state. -/
theorem gstBusCallback_keepsState {message : Message}
    (settled : message = .stateChanged .playbin .paused →
      p.positionUpdateSource = true ∨ p.info.isPaused = true) :
    ∀ a ∈ p.gstBusCallback query message, a.setsState = false := by
  intro a h
  cases mem_gstBusCallback h with
  | seek early moving =>
    rcases settled rfl with timed | paused
    · cases early.symm.trans timed
    · cases moving.symm.trans paused
  | eos | attach | announce | volume | playing | register | preroll => rfl

theorem perform_requested {a : Action} (keeps : a.setsState = false) :
    (p.perform a).playbin.requested = p.playbin.requested := by
  cases a with
  | setState state => cases keeps
  | _ => rfl

end Player

namespace System

/-- Past the destructor's `NULL` the pipeline is in `NULL`, and no appsrc reaches a decoder that has
been destroyed. -/
def StopsForGood (cfg : Config) (s : System) : Prop :=
  (s.stage.stopped = true → s.player.playbin.requested = .null) ∧
    ∀ d, s.stage.dropped d = true → (s.step cfg (.needData d)).isNone

instance (cfg : Config) (s : System) : Decidable (StopsForGood cfg s) := by
  unfold StopsForGood; infer_instance

/-- The destructor's `NULL` finds the worker with no state left to ask for. After it, a `DoSeek` goes on
or a `DoPlaybackRate` is taken up only without the timer source, and playbin's `PAUSED` only with it or
at a pause. -/
@[mk_iff] structure QuietAfterStop (s : System) (e : Event) : Prop where
  stop : e.advances = true → s.stage = .stopping → ∀ a ∈ s.worker.todo, a.setsState = false
  resume : e.resumes = true → s.stage.stopped = true → s.player.positionUpdateSource = false
  rate : e.takesCall = true → s.stage.stopped = true → ∀ call ∈ s.calls.head?, call.rate ≠ none →
    s.player.positionUpdateSource = false
  preroll : e.takesMessage = true → s.stage.stopped = true →
    s.bus.head? = some (.stateChanged .playbin .paused) →
    s.player.positionUpdateSource = true ∨ s.player.info.isPaused = true

instance (s : System) (e : Event) : Decidable (QuietAfterStop s e) :=
  decidable_of_iff' _ (quietAfterStop_iff s e)

structure StopInv (s : System) : Prop where
  null : s.stage.stopped = true → s.player.playbin.requested = .null
  quiet : s.stage.stopped = true → ∀ a ∈ s.worker.todo, a.setsState = false

theorem start_stopInv (cfg : Config) : StopInv (start cfg) where
  null := fun stopped => by cases stopped
  quiet := fun stopped => by cases stopped

theorem stopped_of_dropped {stage : Stage} {d : Stream} (dropped : stage.dropped d = true) :
    stage.stopped = true := by
  cases stage <;> first | rfl | cases dropped

theorem stopsForGood_of_inv {s : System} (cfg : Config) (inv : StopInv s) : StopsForGood cfg s := by
  refine ⟨inv.null, fun d dropped => ?_⟩
  have null := inv.null (stopped_of_dropped dropped)
  simp [step, null]

theorem StopInv.taking {s : System} {worker : Worker} (inv : StopInv s)
    (quiet : s.stage.stopped = true → ∀ a ∈ worker.todo, a.setsState = false) :
    StopInv { s with worker } :=
  ⟨inv.null, quiet⟩

theorem dispatchCall_stopInv {s : System} {call : Call} {rest : List Call} {query : Option Int}
    (inv : StopInv s) (head : s.calls = call :: rest) (met : s.QuietAfterStop (.dispatchCall query)) :
    StopInv (s.dispatchCall query call) := by
  cases call with
  | put => exact ⟨inv.null, fun _ => by simp [dispatchCall, Worker.todo]⟩
  | reportInitialized => exact inv.taking fun _ => by simp [Worker.todo, Action.setsState]
  | doSeek time ticket => exact ⟨inv.null, fun _ => by simp [dispatchCall, Worker.todo]⟩
  | doPlaybackRate rate =>
    refine inv.taking fun stopped => Player.doPlaybackRate_early ?_ rate
    exact met.rate rfl stopped (.doPlaybackRate rate) (by rw [head]; rfl) (by simp [Call.rate])
  | doVolume volume => exact inv.taking fun _ => by simp [Worker.todo, Player.doVolume, Action.setsState]
  | doBounds z x y width height => exact inv.taking fun _ => Player.doBounds_keepsState z x y width height

theorem step_stopInv {cfg : Config} {s t : System} {e : Event} (inv : StopInv s) (met : s.QuietAfterStop e)
    (h : s.step cfg e = some t) : StopInv t := by
  cases step_cases h with
  | stopping at_ => exact ⟨fun _ => rfl, fun _ => met.stop rfl at_⟩
  | pausing | initialized | failed | spawning | posting | waiting | announcing | destroyed =>
    exact ⟨fun stopped => (by cases stopped), fun stopped => (by cases stopped)⟩
  | detaching at_ | quitting at_ | joining at_ | droppingAudio at_ | droppingVideo at_ | unreffing at_ =>
    have stopped : s.stage.stopped = true := by rw [at_]; rfl
    exact ⟨fun _ => inv.null stopped, fun _ => inv.quiet stopped⟩
  | entered => exact inv.taking fun _ => by simp [Worker.todo]
  | dispatchedCall _ head => exact dispatchCall_stopInv inv head met
  | @dispatchedMessage query message rest _ head =>
    refine ⟨inv.null, fun stopped => Player.gstBusCallback_keepsState ?_⟩
    rintro rfl
    exact met.preroll rfl stopped (by rw [head]; rfl)
  | ticked => exact inv.taking fun _ => Player.updatePosition_keepsState
  | resumed seeking =>
    apply inv.taking
    intro stopped
    rw [Player.doSeekBody_early (met.resume rfl stopped)]
    simp [Worker.todo, Action.setsState]
  | @acted calling a todo acting =>
    have later : s.stage.stopped = true → a.setsState = false ∧ ∀ b ∈ todo, b.setsState = false := by
      intro stopped
      have quiet := inv.quiet stopped
      rw [acting] at quiet
      exact List.forall_mem_cons.mp quiet
    refine ⟨fun stopped => ?_, fun stopped => ?_⟩
    · have stopped : s.stage.stopped = true := act_stage cfg s a ▸ stopped
      show (s.act cfg a).player.playbin.requested = .null
      rw [act_player, Player.perform_requested (later stopped).1]
      exact inv.null stopped
    · exact (later (act_stage cfg s a ▸ stopped)).2
  | finished => exact ⟨inv.null, fun _ => by simp [Worker.todo]⟩
  | left => exact ⟨inv.null, fun _ => by simp [Worker.todo]⟩
  | _ => exact ⟨inv.null, inv.quiet⟩

/-- The pipeline stays in `NULL` while nothing that asks for a state is under way when the destructor
stops it, or is taken up afterwards. -/
theorem stops_for_good (cfg : Config) (es : List Event)
    (met : Machine.Along (step cfg) QuietAfterStop (start cfg) es) :
    Machine.Throughout (step cfg) (StopsForGood cfg) (start cfg) es :=
  Machine.throughout_of_along StopInv (fun _ _ _ inv met h => step_stopInv inv met h)
    (fun _ inv => stopsForGood_of_inv cfg inv) (start_stopInv cfg) met

theorem stops_for_good_replay :
    Machine.Throughout (step ⟨0, true, true, true⟩) (StopsForGood ⟨0, true, true, true⟩)
      (start ⟨0, true, true, true⟩)
      (startup ++ registration ++ [.seek 5 1, .dispatchCall none, .resume none, .act, .finish] ++
        destruction) :=
  stops_for_good _ _ (by decide +kernel)

/-- A prerolled player is given a rate and destroyed at once: the worker takes the rate up between the
destructor's `NULL` and its quit, and the pipeline plays on into the destroyed decoders. -/
def playedAfterStop : List Event :=
  startup ++ registration ++
    [.post (.stateChanged .playbin .paused), .dispatchMessage none, .act, .act, .act, .finish,
     .setPlaybackRate 1, .advance true, .advance true, .dispatchCall none, .act, .act, .act, .finish,
     .advance true, .advance true, .leaveLoop, .advance true, .advance true]

theorem played_after_stop :
    ¬ Machine.Throughout (step ⟨0, true, true, true⟩) (StopsForGood ⟨0, true, true, true⟩)
      (start ⟨0, true, true, true⟩) playedAfterStop ∧
    ((Machine.exec (step ⟨0, true, true, true⟩) (start ⟨0, true, true, true⟩) playedAfterStop).any fun t =>
      t.stage.dropped .audio && (t.step ⟨0, true, true, true⟩ (.needData .audio)).isSome) = true := by
  decide +kernel

end System
end CobaltWayland
