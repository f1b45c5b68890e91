import CobaltWayland.Player
import CobaltWayland.Lib.Machine

/-!
The worker thread of a live player, one dispatched source at a time: a call queued by `SafeCall`,
a tick of the position timer or a bus message. `Turn` says once what a dispatch can do to the
members that the playback rules are about; every rule over whole runs is derived from it.
-/

namespace CobaltWayland

inductive Op where
  /-- `ReportPlayerState(kSbPlayerStateInitialized)`, queued by `Initialize`. -/
  | reportInitialized
  | doSeek (time ticket : Int) (query : Option Int)
  | doPlaybackRate (rate : ℚ) (query : Option Int)
  | doVolume (volume : ℚ)
  | doBounds (z x y width height : Int)
  | updatePosition (query : Option Int)
  | message (received : Message) (query : Option Int)
  | sourceChanged
  deriving DecidableEq, Repr

namespace Op

def actions (p : Player) : Op → List Action
  | .reportInitialized => [.reportPlayerState .initialized]
  | .doSeek time ticket query => p.doSeek query time ticket
  | .doPlaybackRate rate query => p.doPlaybackRate query rate
  | .doVolume volume => p.doVolume volume
  | .doBounds z x y width height => p.doBounds z x y width height
  | .updatePosition query => p.updatePosition query
  | .message received query => p.gstBusCallback query received
  | .sourceChanged => [.sourceSetup]

/-- The position timer ticks only once its source is attached. -/
def enabled (p : Player) : Op → Bool
  | .updatePosition _ => p.positionUpdateSource
  | _ => true

def request : Op → Option (Int × Int)
  | .doSeek time ticket _ => some (time, ticket)
  | _ => none

def rate : Op → Option ℚ
  | .doPlaybackRate rate _ => some rate
  | _ => none

def SeeksTo (times : Int → Prop) (op : Op) : Prop :=
  ∀ time ticket, op.request = some (time, ticket) → times time

instance (times : Int → Prop) [DecidablePred times] (op : Op) : Decidable (op.SeeksTo times) :=
  match op with
  | .doSeek time ticket query =>
    decidable_of_iff (times time) (by simp [SeeksTo, request])
  | .reportInitialized | .doPlaybackRate .. | .doVolume .. | .doBounds .. | .updatePosition .. | .message ..
  | .sourceChanged =>
    isTrue (by simp [SeeksTo, request])

end Op

/-- The player together with what was last asked of it: the time and ticket of the last processed
`DoSeek` and the rate of the last processed `DoPlaybackRate`. -/
structure Playback where
  player : Player
  request : Option (Int × Int) := none
  rate : Option ℚ := none
  deriving DecidableEq

namespace Playback

/-- The freshly initialised player: `Initialize` has asked for `PAUSED`. -/
def initial (cfg : Config) : Playback :=
  { player := (Player.construct cfg).perform (.setState .paused) }

def step (s : Playback) (op : Op) : Option Playback :=
  if op.enabled s.player then
    some
      { player := s.player.performAll (op.actions s.player)
        request := op.request.or s.request
        rate := op.rate.or s.rate }
  else
    none

/-- Each action of an operation with the player at the moment it is carried out. -/
def moments (p : Player) : List Action → List (Player × Action)
  | [] => []
  | a :: as => (p, a) :: moments (p.perform a) as

theorem mem_moments {p q : Player} {a : Action} {as : List Action} (h : (q, a) ∈ moments p as) :
    a ∈ as := by
  induction as generalizing p with
  | nil => simp [moments] at h
  | cons b as ih =>
    rcases List.mem_cons.mp h with same | rest
    · simp [(Prod.mk.inj same).2]
    · exact List.mem_cons_of_mem _ (ih rest)

end Playback

namespace Player

/-! ### The state after `DoSeekAndSpeed` -/

def sought (p : Player) (seekTo : Int) (speedTo : ℚ) : Player :=
  p.performAll (p.doSeekAndSpeed none seekTo speedTo)

variable (p : Player) (query : Option Int) (seekTo : Int) (speedTo : ℚ)

/-- The queried position never reaches the pipeline: only jumps carry a position. -/
theorem performAll_doSeekAndSpeed :
    p.performAll (p.doSeekAndSpeed query seekTo speedTo) = p.sought seekTo speedTo := by
  rw [sought, doSeekAndSpeed_eq, doSeekAndSpeed_eq]

theorem sought_eq :
    ∃ reports playerState, p.sought seekTo speedTo =
      { p with
        playbin :=
          { requested := .playing
            flushes := if p.Jumps seekTo then (seekTo, p.lastTicket) :: p.playbin.flushes else p.playbin.flushes
            rate :=
              if p.Jumps seekTo ∨ ¬ |speedTo - p.info.playbackRate| < rateThreshold then speedTo
              else p.playbin.rate }
        lastSeek := -1
        info := p.playing speedTo
        reports, playerState } := by
  unfold sought
  rw [doSeekAndSpeed_eq]
  by_cases jumps : p.Jumps seekTo
  · exact ⟨p.reports ++ [(.prerolling, p.lastTicket)], .prerolling, by
      simp [jumps, perform, Playbin.setState, Playbin.seek]⟩
  · refine ⟨p.reports, p.playerState, ?_⟩
    by_cases close : |speedTo - p.info.playbackRate| < rateThreshold <;>
      simp [jumps, close, perform, Playbin.setState, Playbin.seek]

@[simp] theorem sought_info : (p.sought seekTo speedTo).info = p.playing speedTo := by
  obtain ⟨_, _, eq⟩ := p.sought_eq seekTo speedTo
  rw [eq]

@[simp] theorem sought_lastSeek : (p.sought seekTo speedTo).lastSeek = -1 := by
  obtain ⟨_, _, eq⟩ := p.sought_eq seekTo speedTo
  rw [eq]

@[simp] theorem sought_lastTicket : (p.sought seekTo speedTo).lastTicket = p.lastTicket := by
  obtain ⟨_, _, eq⟩ := p.sought_eq seekTo speedTo
  rw [eq]

@[simp] theorem sought_positionUpdateSource :
    (p.sought seekTo speedTo).positionUpdateSource = p.positionUpdateSource := by
  obtain ⟨_, _, eq⟩ := p.sought_eq seekTo speedTo
  rw [eq]

@[simp] theorem sought_flushes :
    (p.sought seekTo speedTo).playbin.flushes =
      if p.Jumps seekTo then (seekTo, p.lastTicket) :: p.playbin.flushes else p.playbin.flushes := by
  obtain ⟨_, _, eq⟩ := p.sought_eq seekTo speedTo
  rw [eq]

@[simp] theorem sought_requested : (p.sought seekTo speedTo).playbin.requested = .playing := by
  obtain ⟨_, _, eq⟩ := p.sought_eq seekTo speedTo
  rw [eq]

@[simp] theorem sought_rate :
    (p.sought seekTo speedTo).playbin.rate =
      if p.Jumps seekTo ∨ ¬ |speedTo - p.info.playbackRate| < rateThreshold then speedTo
      else p.playbin.rate := by
  obtain ⟨_, _, eq⟩ := p.sought_eq seekTo speedTo
  rw [eq]

theorem sought_position :
    (p.sought seekTo speedTo).playbin.position =
      if p.Jumps seekTo then seekTo else p.playbin.position := by
  simp only [Playbin.position, sought_flushes]
  by_cases jumps : p.Jumps seekTo
  · simp only [if_pos jumps]
  · simp only [if_neg jumps]

theorem start_of_not_jumps {p : Player} {seekTo : Int} (still : ¬ p.Jumps seekTo)
    (nonnegative : 0 ≤ seekTo) : seekTo = 0 ∧ p.info.currentMediaTimestamp = 0 := by
  simp only [Jumps, gt_iff_lt, not_or, not_lt, not_and, not_not] at still
  have start : seekTo = 0 := by omega
  exact ⟨start, still.2 start⟩

theorem jumps_of_pos {p : Player} {seekTo : Int} (positive : 0 < seekTo) : p.Jumps seekTo :=
  Or.inl positive

theorem not_jumps_neg (p : Player) : ¬ p.Jumps (-1) := by simp [Jumps]

/-- The player once it has told the client that it presents, at playbin's first `PAUSED`. -/
def announced (p : Player) : Player :=
  (p.perform .attachPositionSource).perform (.reportPlayerState .presenting)

theorem performAll_doVolume_same {p : Player} {volume : ℚ} (same : p.info.volume = volume) :
    p.performAll (p.doVolume volume) = p := by
  subst same
  rfl

/-- The player after playbin's first `PAUSED`. -/
def prerolled (p : Player) : Player :=
  if p.info.isPaused then p.announced else p.announced.sought p.lastSeek p.info.playbackRate

theorem performAll_preroll : p.performAll (p.preroll query) = p.prerolled := by
  unfold preroll prerolled
  rw [performAll_append]
  by_cases paused : p.info.isPaused
  · rw [if_pos paused, if_pos paused]
    exact performAll_doVolume_same rfl
  · rw [if_neg paused, if_neg paused, performAll_append]
    have seek : (p.performAll [.attachPositionSource, .reportPlayerState .presenting]).performAll
        (p.doSeekAndSpeed query p.lastSeek p.info.playbackRate) =
        p.announced.sought p.lastSeek p.info.playbackRate :=
      performAll_doSeekAndSpeed p.announced query p.lastSeek p.info.playbackRate
    rw [seek]
    exact performAll_doVolume_same (by rw [sought_info]; rfl)

theorem gstBusCallback_preroll {p : Player} (early : p.positionUpdateSource = false) (query : Option Int) :
    p.gstBusCallback query (.stateChanged .playbin .paused) = p.preroll query := by
  simp [gstBusCallback, early]

@[simp] theorem prerolled_positionUpdateSource (p : Player) : p.prerolled.positionUpdateSource = true := by
  unfold prerolled
  split
  · rfl
  · rw [sought_positionUpdateSource]
    rfl

end Player

namespace Playback

theorem step_preroll {s : Playback} (early : s.player.positionUpdateSource = false) (query : Option Int) :
    s.step (.message (.stateChanged .playbin .paused) query) = some { s with player := s.player.prerolled } := by
  simp only [step, Op.enabled, Op.actions, Op.request, Op.rate, Player.gstBusCallback_preroll early,
    Player.performAll_preroll, Option.none_or, if_true]

/-- A dispatch that leaves the rate, the paused flag, the timestamp, the recorded seek and the
pipeline as they were. -/
structure Framed (p p' : Player) : Prop where
  info : p'.info = { p.info with volume := p'.info.volume }
  lastSeek : p'.lastSeek = p.lastSeek
  lastTicket : p'.lastTicket = p.lastTicket
  positionUpdateSource : p'.positionUpdateSource = p.positionUpdateSource
  playbin : p'.playbin = p.playbin

/-- What one dispatch does, while the stored playback rate is a rate to play at. -/
inductive Turn (s : Playback) : Op → Playback → Prop where
  | recorded {time ticket : Int} {query : Option Int} (early : s.player.positionUpdateSource = false) :
      Turn s (.doSeek time ticket query)
        { s with
          player := { s.player with lastTicket := ticket, lastSeek := time }
          request := some (time, ticket) }
  /-- `DoSeek` after preroll, paused or not. -/
  | sought {time ticket : Int} {query : Option Int} (timed : s.player.positionUpdateSource = true) :
      Turn s (.doSeek time ticket query)
        { s with
          player := { s.player with lastTicket := ticket }.sought time s.player.info.playbackRate
          request := some (time, ticket) }
  | played {rate : ℚ} {query : Option Int} (timed : s.player.positionUpdateSource = true)
      (fast : rateThreshold ≤ rate) :
      Turn s (.doPlaybackRate rate query)
        { s with player := s.player.sought s.player.lastSeek rate, rate := some rate }
  | rateRecorded {rate : ℚ} {query : Option Int} (early : s.player.positionUpdateSource = false)
      (fast : rateThreshold ≤ rate) :
      Turn s (.doPlaybackRate rate query)
        { s with player := { s.player with info := s.player.playing rate }, rate := some rate }
  | paused {rate : ℚ} {query : Option Int} (slow : rate < rateThreshold) :
      Turn s (.doPlaybackRate rate query)
        { s with
          player :=
            { s.player with
              info := { s.player.info with isPaused := true }
              playbin :=
                if s.player.positionUpdateSource then s.player.playbin.setState .paused
                else s.player.playbin }
          rate := some rate }
  | ticked {query : Option Int} (timestamp : Int) (timed : s.player.positionUpdateSource = true) :
      Turn s (.updatePosition query)
        { s with player := { s.player with info := { s.player.info with currentMediaTimestamp := timestamp } } }
  | prerolledPaused {query : Option Int} (early : s.player.positionUpdateSource = false)
      (still : s.player.info.isPaused = true) :
      Turn s (.message (.stateChanged .playbin .paused) query) { s with player := s.player.announced }
  | prerolledPlaying {query : Option Int} (early : s.player.positionUpdateSource = false)
      (moving : s.player.info.isPaused = false) :
      Turn s (.message (.stateChanged .playbin .paused) query)
        { s with player := s.player.announced.sought s.player.lastSeek s.player.info.playbackRate }
  | framed {op : Op} {player : Player} (noRequest : op.request = none) (noRate : op.rate = none)
      (frame : Framed s.player player) : Turn s op { s with player }

theorem Framed.refl (p : Player) : Framed p p := ⟨rfl, rfl, rfl, rfl, rfl⟩

theorem gstBusCallback_turn (s : Playback) (received : Message) (query : Option Int) :
    Turn s (.message received query)
      { s with player := s.player.performAll (s.player.gstBusCallback query received) } := by
  cases received with
  | asyncDone | error | warning | other | eos =>
    exact .framed rfl rfl ⟨rfl, rfl, rfl, rfl, rfl⟩
  | stateChanged sender newState =>
    cases sender with
    | playbin =>
      by_cases first : newState = .paused ∧ ¬ s.player.positionUpdateSource
      · obtain ⟨rfl, early⟩ := first
        have early : s.player.positionUpdateSource = false := by simpa using early
        rw [Player.gstBusCallback_preroll early, Player.performAll_preroll, Player.prerolled]
        cases still : s.player.info.isPaused with
        | true => exact .prerolledPaused early still
        | false => exact .prerolledPlaying early still
      · simp only [Player.gstBusCallback, if_neg first]
        split <;> exact .framed rfl rfl ⟨rfl, rfl, rfl, rfl, rfl⟩
    | source =>
      simp only [Player.gstBusCallback]
      split
      · exact .framed rfl rfl (Framed.refl _)
      · split <;> exact .framed rfl rfl ⟨rfl, rfl, rfl, rfl, rfl⟩
    | other => exact .framed rfl rfl (Framed.refl _)

theorem step_performs {s t : Playback} {op : Op} (h : s.step op = some t) :
    op.enabled s.player = true ∧
      t = { player := s.player.performAll (op.actions s.player)
            request := op.request.or s.request
            rate := op.rate.or s.rate } := by
  obtain ⟨enabled, rfl⟩ := Option.ite_some_none_eq_some.mp h
  exact ⟨enabled, rfl⟩

theorem step_turn {s t : Playback} {op : Op} (rateOk : rateThreshold ≤ s.player.info.playbackRate)
    (h : s.step op = some t) : Turn s op t := by
  obtain ⟨enabled, rfl⟩ := step_performs h
  cases op with
  | reportInitialized => exact .framed rfl rfl ⟨rfl, rfl, rfl, rfl, rfl⟩
  | doSeek time ticket query =>
    simp only [Op.actions, Player.doSeek, Player.performAll_cons]
    cases timed : s.player.positionUpdateSource with
    | false =>
      rw [Player.doSeekBody_early (p := s.player.perform (.publishTicket ticket)) timed]
      exact .recorded timed
    | true =>
      rw [Player.doSeekBody_timed (p := s.player.perform (.publishTicket ticket)) timed rateOk,
        Player.performAll_doSeekAndSpeed]
      exact .sought timed
  | doPlaybackRate rate query =>
    simp only [Op.actions, Player.doPlaybackRate]
    by_cases fast : rateThreshold ≤ rate
    · cases timed : s.player.positionUpdateSource with
      | false =>
        simp only [Bool.false_eq_true, false_and, if_false, ge_iff_le, fast, if_true, List.nil_append]
        exact .rateRecorded timed fast
      | true =>
        simp only [ge_iff_le, fast, and_self, if_true, Player.performAll_doSeekAndSpeed]
        exact .played timed fast
    · have turn : Turn s (.doPlaybackRate rate query) _ := .paused (lt_of_not_ge fast)
      cases timed : s.player.positionUpdateSource <;>
        simpa [timed, fast, Player.perform, Op.request, Op.rate] using turn
  | doVolume volume => exact .framed rfl rfl ⟨rfl, rfl, rfl, rfl, rfl⟩
  | doBounds z x y width height =>
    simp only [Op.actions, Player.doBounds, Player.performAll_append]
    split <;> split <;> exact .framed rfl rfl ⟨rfl, rfl, rfl, rfl, rfl⟩
  | updatePosition query =>
    simp only [Op.actions, Player.updatePosition]
    split
    · exact .ticked _ enabled
    · exact .framed rfl rfl (Framed.refl _)
  | message received query => exact gstBusCallback_turn s received query
  | sourceChanged => exact .framed rfl rfl ⟨rfl, rfl, rfl, rfl, rfl⟩

/-- `Info.playback_rate` is a rate to play at, whatever was asked for. -/
def RateOk (s : Playback) : Prop := rateThreshold ≤ s.player.info.playbackRate

theorem initial_rateOk (cfg : Config) : RateOk (initial cfg) := rateThreshold_le_one

theorem step_rateOk {s t : Playback} {op : Op} (rateOk : RateOk s) (h : s.step op = some t) :
    RateOk t := by
  cases step_turn rateOk h with
  | played _ fast | rateRecorded _ fast => simpa [RateOk] using fast
  | framed _ _ frame =>
    have kept := congrArg Info.playbackRate frame.info
    exact le_of_le_of_eq rateOk kept.symm
  | _ => simpa [RateOk, Player.announced, Player.perform] using rateOk

end Playback
end CobaltWayland
