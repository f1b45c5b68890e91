import CobaltWayland.Worker

/-!
Who decides between play and pause. `Info.is_paused` is written by `DoPlaybackRate`, and also by
`DoSeekAndSpeed`, which always starts playback; a seek reaches it by the stored rate and the
position timer alone, and a pause changes neither.
-/

namespace CobaltWayland
namespace Playback

/-- A rate to play at was set, and last. -/
def MeansPlay (rate : Option ℚ) : Prop := ∃ r ∈ rate, rateThreshold ≤ r

instance (rate : Option ℚ) : Decidable (MeansPlay rate) :=
  match rate with
  | none => isFalse (by simp [MeansPlay])
  | some r => decidable_of_iff (rateThreshold ≤ r) (by simp [MeansPlay])

/-- The player is paused unless the last processed `DoPlaybackRate` asked to play. -/
def PauseLaw (s : Playback) : Prop := s.player.info.isPaused = true ↔ ¬ MeansPlay s.rate

instance : DecidablePred PauseLaw := fun s => by unfold PauseLaw; infer_instance

/-- `PLAYING` is asked for only while the last rate, the one being processed included, means play. -/
def PlaysAsAsked (s : Playback) (op : Op) : Prop :=
  .setState .playing ∈ op.actions s.player → MeansPlay (op.rate.or s.rate)

instance (s : Playback) (op : Op) : Decidable (PlaysAsAsked s op) := by
  unfold PlaysAsAsked; infer_instance

/-- No seek is processed while the prerolled player is paused. -/
def SeekWhilePlaying (s : Playback) (op : Op) : Prop :=
  op.request ≠ none → s.player.positionUpdateSource = true → s.player.info.isPaused = false

instance (s : Playback) (op : Op) : Decidable (SeekWhilePlaying s op) := by
  unfold SeekWhilePlaying; infer_instance

/-- The three places that start playback. -/
theorem playing_mem_actions {p : Player} {op : Op} (h : .setState .playing ∈ op.actions p) :
    (op.request ≠ none ∧ p.positionUpdateSource = true ∧ op.rate = none) ∨
    MeansPlay op.rate ∨
    (p.info.isPaused = false ∧ op.rate = none) := by
  cases op with
  | doSeek time ticket query =>
    rcases List.mem_cons.mp h with publish | h
    · cases publish
    · cases Player.mem_doSeekBody h with
      | seek timed => exact Or.inl ⟨by simp [Op.request], timed, rfl⟩
  | doPlaybackRate rate query =>
    cases Player.mem_doPlaybackRate h with
    | seek _ fast => exact Or.inr (Or.inl ⟨rate, rfl, fast⟩)
  | doVolume volume => cases Player.mem_doVolume h
  | doBounds z x y width height => rcases Player.mem_doBounds h with order | window <;> contradiction
  | updatePosition query =>
    obtain ⟨timestamp, store⟩ := Player.mem_updatePosition h
    cases store
  | message received query =>
    cases Player.mem_gstBusCallback h with
    | seek _ moving => exact Or.inr (Or.inr ⟨moving, rfl⟩)
  | reportInitialized | sourceChanged => simp [Op.actions] at h

def PauseInv (s : Playback) : Prop := RateOk s ∧ PauseLaw s

theorem initial_pauseInv (cfg : Config) : PauseInv (initial cfg) :=
  ⟨initial_rateOk cfg, by simp [PauseLaw, MeansPlay, initial, Player.construct, Player.perform]⟩

theorem step_pauseInv {s t : Playback} {op : Op} (inv : PauseInv s) (playing : SeekWhilePlaying s op)
    (h : s.step op = some t) : PauseInv t := by
  obtain ⟨rateOk, law⟩ := inv
  refine ⟨step_rateOk rateOk h, ?_⟩
  cases step_turn rateOk h with
  | recorded | rateRecorded _ _ | ticked _ _ | prerolledPaused _ _ =>
    first
      | exact law
      | simpa [PauseLaw, MeansPlay]
  | sought timed =>
    have moving := playing (by simp [Op.request]) timed
    simpa [PauseLaw, moving] using law
  | played _ fast => simpa [PauseLaw, MeansPlay] using fast
  | paused slow => simpa [PauseLaw, MeansPlay] using slow
  | prerolledPlaying _ moving => simpa [PauseLaw, moving] using law
  | framed _ noRate frame =>
    have paused := congrArg Info.isPaused frame.info
    simpa only [PauseLaw, paused] using law

theorem playsAsAsked_of_pauseInv {s : Playback} {op : Op} (inv : PauseInv s)
    (playing : SeekWhilePlaying s op) : PlaysAsAsked s op := by
  intro started
  have law : s.player.info.isPaused = false → MeansPlay s.rate := fun moving => by
    by_contra unasked
    have paused := inv.2.mpr unasked
    cases moving.symm.trans paused
  rcases playing_mem_actions started with ⟨asked, timed, noRate⟩ | ⟨r, found, fast⟩ | ⟨moving, noRate⟩
  · rw [noRate, Option.none_or]
    exact law (playing asked timed)
  · rw [Option.mem_def.mp found]
    exact ⟨r, rfl, fast⟩
  · rw [noRate, Option.none_or]
    exact law moving

/-- A seek that reaches the paused pipeline starts it and clears the flag. -/
theorem pauseLaw_needs_play {s t : Playback} {op : Op} (inv : PauseInv s) (h : s.step op = some t)
    (law : PauseLaw t) : SeekWhilePlaying s op := by
  intro asked timed
  cases step_turn inv.1 h with
  | recorded early => cases early.symm.trans timed
  | sought =>
    by_contra still
    have paused : s.player.info.isPaused = true := by simpa using still
    simp only [PauseLaw, Player.sought_info, Bool.false_eq_true, false_iff, not_not] at law
    exact inv.2.mp paused law
  | framed noRequest => exact absurd noRequest asked
  | _ => simp [Op.request] at asked

/-- The rate calls alone decide between play and pause, in every state and at every request for
`PLAYING` of a run, exactly when no seek is processed while the prerolled player is paused. -/
theorem only_rates_decide_iff (cfg : Config) (ops : List Op) :
    (Machine.Throughout step PauseLaw (initial cfg) ops ∧
      Machine.Along step PlaysAsAsked (initial cfg) ops) ↔
      Machine.Along step SeekWhilePlaying (initial cfg) ops := by
  constructor
  · rintro ⟨law, -⟩
    exact (Machine.throughout_iff_along PauseInv (fun _ => True)
      (fun _ _ _ _ inv playing h => step_pauseInv inv playing h) (fun _ inv => inv.2)
      (fun _ _ _ _ inv h law => pauseLaw_needs_play inv h law)
      (initial_pauseInv cfg) (fun _ _ => trivial)).mp law
  · intro playing
    have kept : ∀ s e t, PauseInv s → SeekWhilePlaying s e → s.step e = some t → PauseInv t :=
      fun _ _ _ inv playing h => step_pauseInv inv playing h
    exact ⟨Machine.throughout_of_along PauseInv kept (fun _ inv => inv.2) (initial_pauseInv cfg) playing,
      Machine.along_of_along PauseInv kept (fun _ _ _ inv playing _ => playsAsAsked_of_pauseInv inv playing)
        (initial_pauseInv cfg) playing⟩

/-- A seek after preroll, before any rate was set. -/
def pausedSeek : List Op :=
  [.message (.stateChanged .playbin .paused) none, .doSeek 5000000000 1 none]

theorem paused_seek_plays :
    ¬ (Machine.Throughout step PauseLaw (initial ⟨0, true, true, true⟩) pausedSeek ∧
      Machine.Along step PlaysAsAsked (initial ⟨0, true, true, true⟩) pausedSeek) := by
  decide +kernel

/-! ### The flag and the pipeline

Before preroll the flag follows the rates while the pipeline stays at the `PAUSED` of `Initialize`. -/

def FlagAgrees (p : Player) : Prop := p.info.isPaused = true ↔ p.playbin.requested = .paused

/-- The flag tells what was last asked of the prerolled pipeline. Ahead of preroll that is `PAUSED`,
and playbin's `PAUSED` message brings the flag and the pipeline together. -/
def FlagLaw (s : Playback) : Prop :=
  (s.player.positionUpdateSource = true → FlagAgrees s.player) ∧
  (s.player.positionUpdateSource = false →
    s.player.playbin.requested = .paused ∧
      ∀ query, ∃ t, s.step (.message (.stateChanged .playbin .paused) query) = some t ∧
        t.player.positionUpdateSource = true ∧ FlagAgrees t.player)

structure FlagInv (s : Playback) : Prop where
  rateOk : RateOk s
  timed : s.player.positionUpdateSource = true → FlagAgrees s.player
  early : s.player.positionUpdateSource = false → s.player.playbin.requested = .paused

theorem initial_flagInv (cfg : Config) : FlagInv (initial cfg) :=
  ⟨initial_rateOk cfg, fun timed => (by cases timed), fun _ => rfl⟩

theorem flagAgrees_sought (p : Player) (seekTo : Int) (speedTo : ℚ) :
    FlagAgrees (p.sought seekTo speedTo) := by
  simp [FlagAgrees]

theorem step_flagInv {s t : Playback} {op : Op} (inv : FlagInv s) (h : s.step op = some t) :
    FlagInv t := by
  have rateOk := step_rateOk inv.rateOk h
  cases step_turn inv.rateOk h with
  | recorded early | rateRecorded early =>
    exact ⟨rateOk, fun timed => (by cases early.symm.trans timed), inv.early⟩
  | sought timed | played timed =>
    refine ⟨rateOk, fun _ => flagAgrees_sought .., fun early => ?_⟩
    rw [Player.sought_positionUpdateSource] at early
    cases timed.symm.trans early
  | paused =>
    refine ⟨rateOk, fun timed => ?_, fun early => ?_⟩
    · have asked : s.player.positionUpdateSource = true := timed
      simp [FlagAgrees, asked, Playbin.setState]
    · have unasked : s.player.positionUpdateSource = false := early
      simpa [unasked] using inv.early unasked
  | ticked _ timed =>
    exact ⟨rateOk, inv.timed, inv.early⟩
  | prerolledPaused early still =>
    exact ⟨rateOk, fun _ => iff_of_true still (inv.early early), fun untimed => (by cases untimed)⟩
  | prerolledPlaying =>
    refine ⟨rateOk, fun _ => flagAgrees_sought .., fun untimed => ?_⟩
    rw [Player.sought_positionUpdateSource] at untimed
    cases untimed
  | framed _ _ frame =>
    have flag := congrArg Info.isPaused frame.info
    refine ⟨rateOk, fun timed => ?_, fun early => ?_⟩
    · simp only [FlagAgrees, flag, frame.playbin]
      exact inv.timed (frame.positionUpdateSource ▸ timed)
    · rw [frame.playbin]
      exact inv.early (frame.positionUpdateSource ▸ early)

theorem flagInv_flagLaw {s : Playback} (inv : FlagInv s) : FlagLaw s := by
  refine ⟨inv.timed, fun early => ⟨inv.early early, fun query => ?_⟩⟩
  have h := step_preroll early query
  have prerolled := Player.prerolled_positionUpdateSource s.player
  exact ⟨_, h, prerolled, (step_flagInv inv h).timed prerolled⟩

/-- Whatever the worker processes, the flag and the last requested state agree in every state between
two operations of a prerolled player, and are brought together by preroll. -/
theorem flag_agrees (cfg : Config) (ops : List Op) :
    Machine.Throughout step FlagLaw (initial cfg) ops :=
  Machine.throughout_of_kept FlagInv (fun _ _ _ inv h => step_flagInv inv h)
    (fun _ inv => flagInv_flagLaw inv) (initial_flagInv cfg) ops

end Playback
end CobaltWayland
