import CobaltWayland.Worker

/-!
The rate the player reports against the rate its pipeline plays at. A change of rate that is too
small to matter is not sent to the pipeline, but it is stored in `Info`, and the next change is
measured against what was stored.
-/

namespace CobaltWayland
namespace Playback

def RateHeld (s : Playback) : Prop :=
  |s.player.info.playbackRate - s.player.playbin.rate| < rateThreshold

instance : DecidablePred RateHeld := fun s => by unfold RateHeld; infer_instance

/-- A rate that `DoSeekAndSpeed` keeps to itself, being close to the one reported, is close to the one
in force. -/
def KeptClose (s : Playback) (op : Op) : Prop :=
  ∀ rate, op.rate = some rate → rateThreshold ≤ rate → s.player.positionUpdateSource = true →
    ¬ s.player.Jumps s.player.lastSeek → |rate - s.player.info.playbackRate| < rateThreshold →
    |rate - s.player.playbin.rate| < rateThreshold

instance (s : Playback) (op : Op) : Decidable (KeptClose s op) :=
  match asked : op.rate with
  | none => isTrue (by simp [KeptClose, asked])
  | some rate =>
    decidable_of_iff
      (rateThreshold ≤ rate → s.player.positionUpdateSource = true →
        ¬ s.player.Jumps s.player.lastSeek → |rate - s.player.info.playbackRate| < rateThreshold →
        |rate - s.player.playbin.rate| < rateThreshold)
      (by simp [KeptClose, asked])

structure RateInv (s : Playback) : Prop where
  rateOk : RateOk s
  timed : s.player.positionUpdateSource = true
  held : RateHeld s

theorem rateHeld_of_eq {s : Playback} (same : s.player.info.playbackRate = s.player.playbin.rate) :
    RateHeld s := by
  rw [RateHeld, same]
  exact close_self _

/-- A jump carries the reported rate to the pipeline, as a seek in place does; otherwise the pipeline
keeps its rate. -/
theorem rateHeld_sought {p : Player} {seekTo : Int} {speedTo : ℚ}
    (kept : ¬ p.Jumps seekTo → |speedTo - p.info.playbackRate| < rateThreshold →
      |speedTo - p.playbin.rate| < rateThreshold) :
    |(p.sought seekTo speedTo).info.playbackRate - (p.sought seekTo speedTo).playbin.rate| < rateThreshold := by
  rw [Player.sought_info, Player.sought_rate]
  split
  · exact close_self speedTo
  · rename_i silent
    rw [not_or, not_not] at silent
    exact kept silent.1 silent.2

theorem step_rateInv {s t : Playback} {op : Op} (inv : RateInv s) (close : KeptClose s op)
    (h : s.step op = some t) : RateInv t := by
  have rateOk := step_rateOk inv.rateOk h
  have timed := inv.timed
  cases step_turn inv.rateOk h with
  | recorded early | rateRecorded early | prerolledPaused early | prerolledPlaying early =>
    cases early.symm.trans timed
  | sought =>
    refine ⟨rateOk, (Player.sought_positionUpdateSource ..).trans timed, rateHeld_sought fun _ _ => ?_⟩
    exact inv.held
  | played _ fast =>
    refine ⟨rateOk, (Player.sought_positionUpdateSource ..).trans timed, rateHeld_sought fun still tiny => ?_⟩
    exact close _ rfl fast timed still tiny
  | paused =>
    refine ⟨rateOk, timed, ?_⟩
    simp only [RateHeld, timed, if_true]
    exact inv.held
  | ticked => exact ⟨rateOk, timed, inv.held⟩
  | framed _ _ frame =>
    have rate := congrArg Info.playbackRate frame.info
    refine ⟨rateOk, frame.positionUpdateSource.trans timed, ?_⟩
    simp only [RateHeld, rate, frame.playbin]
    exact inv.held

/-- The rate that was kept back is the one reported from then on. -/
theorem rateHeld_needs_close {s t : Playback} {op : Op} (inv : RateInv s) (h : s.step op = some t)
    (held : RateHeld t) : KeptClose s op := by
  intro rate asked fast timed still tiny
  cases step_turn inv.rateOk h with
  | played =>
    obtain rfl := Option.some.inj asked
    simpa [RateHeld, still, tiny] using held
  | rateRecorded early => cases early.symm.trans timed
  | paused slow =>
    obtain rfl := Option.some.inj asked
    exact absurd fast (not_le_of_gt slow)
  | framed _ noRate => cases noRate.symm.trans asked
  | _ => cases asked

/-- From a prerolled player that reports the rate in force the two stay together, in every state of
whatever follows, exactly when no rate is kept back that is close to the one reported only. -/
theorem rate_held_iff (cfg : Config) (before ops : List Op) (s : Playback)
    (reached : Machine.exec step (initial cfg) before = some s)
    (timed : s.player.positionUpdateSource = true)
    (same : s.player.info.playbackRate = s.player.playbin.rate) :
    Machine.Throughout step RateHeld s ops ↔ Machine.Along step KeptClose s ops :=
  have rateOk : RateOk s :=
    Machine.exec_invariant (fun _ _ _ rateOk h => step_rateOk rateOk h) (initial_rateOk cfg) reached
  Machine.throughout_iff_along RateInv (fun _ => True)
    (fun _ _ _ _ inv close h => step_rateInv inv close h) (fun _ inv => inv.held)
    (fun _ _ _ _ inv h held => rateHeld_needs_close inv h held)
    ⟨rateOk, timed, rateHeld_of_eq same⟩ (fun _ _ => trivial)

theorem rate_held_replay :
    ∃ s, Machine.exec step (initial ⟨0, true, true, true⟩)
        [.message (.stateChanged .playbin .paused) none] = some s ∧
      Machine.Throughout step RateHeld s
        [.doPlaybackRate (1 + 6 / 10000000) none, .doSeek 5000000000 1 none,
         .doPlaybackRate (1 + 12 / 10000000) none, .doPlaybackRate 2 none] :=
  ⟨_, rfl, (rate_held_iff ⟨0, true, true, true⟩ [.message (.stateChanged .playbin .paused) none] _ _ rfl
    rfl rfl).mpr (by decide +kernel)⟩

/-- Two changes of rate, each too small to be sent: the second is close to what the first left in
`Info`, and by then the pipeline is off by more than the threshold. -/
def tinyChanges : List Op :=
  [.doPlaybackRate (1 + 6 / 10000000) none, .doPlaybackRate (1 + 12 / 10000000) none]

theorem tiny_changes_drift :
    ∃ s, Machine.exec step (initial ⟨0, true, true, true⟩)
        [.message (.stateChanged .playbin .paused) none] = some s ∧
      s.player.positionUpdateSource = true ∧ s.player.info.playbackRate = s.player.playbin.rate ∧
      ¬ Machine.Throughout step RateHeld s tinyChanges :=
  ⟨_, rfl, rfl, rfl, by decide +kernel⟩

end Playback
end CobaltWayland
