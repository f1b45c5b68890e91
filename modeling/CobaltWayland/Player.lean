import CobaltWayland.Source

/-!
`SbPlayerPrivate` of `player_private.cc`. A function of the worker thread is the list of actions
it performs, in program order, computed from the members it reads: an action is one write or one
call that another thread, GStreamer or the client can see. `perform` carries an action out.
-/

namespace CobaltWayland

/-- The pipeline as the player drives it: the last state asked for, the flushing seeks issued
(position and the ticket in force, newest first) and the rate of the last seek. -/
structure Playbin where
  requested : GstState := .null
  flushes : List (Int × Int) := []
  rate : ℚ := 1
  deriving DecidableEq, Repr

namespace Playbin

def setState (b : Playbin) (state : GstState) : Playbin := { b with requested := state }

/-- `gst_element_seek`, with `GST_SEEK_FLAG_FLUSH` and `GST_SEEK_TYPE_SET` when there is a target. -/
def seek (b : Playbin) (rate : ℚ) (target : Option (Int × Int)) : Playbin :=
  { b with rate, flushes := target.toList ++ b.flushes }

/-- The last positioning: the target of the last flushing seek, or the start of the stream. -/
def position (b : Playbin) : Int :=
  match b.flushes with
  | [] => 0
  | (target, _) :: _ => target

@[simp] theorem setState_flushes (b : Playbin) (state : GstState) : (b.setState state).flushes = b.flushes := rfl

@[simp] theorem setState_position (b : Playbin) (state : GstState) : (b.setState state).position = b.position := rfl

@[simp] theorem setState_rate (b : Playbin) (state : GstState) : (b.setState state).rate = b.rate := rfl

end Playbin

/-- The members of `SbPlayerPrivate` that change after construction. -/
structure Player where
  info : Info := {}
  playerState : PlayerState := .destroyed
  lastTicket : Int
  playbin : Playbin := {}
  videoSink : Bool
  source : Option (CobaltSource Stream) := none
  lastSeek : Int := 0
  positionUpdateSource : Bool := false
  lastZ : Int := -1
  lastX : Int := -1
  lastY : Int := -1
  lastWidth : Int := -1
  lastHeight : Int := -1
  /-- The states and tickets passed to `ReportPlayerState` so far, oldest first. -/
  reports : List (PlayerState × Int) := []
  deriving DecidableEq, Repr

/-- One instance for every module, so that membership in the flushes is decided the same way. -/
instance lawfulFlush : LawfulBEq (Int × Int) := inferInstance

inductive Action where
  /-- `LastTicket = newTicket` -/
  | publishTicket (ticket : Int)
  /-- `LastSeek = time` -/
  | recordSeek (time : Int)
  /-- `Info = i` -/
  | storeInfo (info : Info)
  | attachPositionSource
  | setState (state : GstState)
  | seek (rate : ℚ) (target : Option Int)
  | reportPlayerState (state : PlayerState)
  | registerPlayer
  /-- `SourceChangedCallback`: playbin has made its source element -/
  | sourceSetup
  | setZOrder (z : Int)
  | setWindow (x y width height : Int)
  deriving DecidableEq, Repr

inductive Element where
  | playbin | source | other
  deriving DecidableEq, Repr

inductive Message where
  | asyncDone | error | warning | eos
  | stateChanged (sender : Element) (newState : GstState)
  | other
  deriving DecidableEq, Repr

namespace Player

/-- The player as its constructor and the pipeline part of `Initialize` leave it. -/
def construct (cfg : Config) : Player :=
  { lastTicket := cfg.initialTicket, videoSink := cfg.videoSink }

def perform (p : Player) : Action → Player
  | .publishTicket ticket => { p with lastTicket := ticket }
  | .recordSeek time => { p with lastSeek := time }
  | .storeInfo info => { p with info }
  | .attachPositionSource => { p with positionUpdateSource := true }
  | .setState state => { p with playbin := p.playbin.setState state }
  | .seek rate target =>
    { p with playbin := p.playbin.seek rate (target.map fun position => (position, p.lastTicket)) }
  | .reportPlayerState state =>
    { p with playerState := state, reports := p.reports ++ [(state, p.lastTicket)] }
  | .registerPlayer => { p with source := p.source.map fun src => src.registerPlayer .audio .video }
  | .sourceSetup => { p with source := p.source.or (some {}) }
  | .setZOrder z => { p with lastZ := z }
  | .setWindow x y width height =>
    { p with lastX := x, lastY := y, lastWidth := width, lastHeight := height }

def performAll (p : Player) (actions : List Action) : Player := actions.foldl perform p

def statusCalls (cfg : Config) (p : Player) : List (PlayerState × Int) :=
  if cfg.playerStatusFunction then p.reports else []

/-! ### The functions of the worker thread

`query` is what `gst_element_query_position` answers at the call, `none` when it fails. -/

def doVolume (p : Player) (volume : ℚ) : List Action :=
  [.storeInfo { p.info with volume }]

def doBounds (p : Player) (z x y width height : Int) : List Action :=
  (if z ≠ p.lastZ then [.setZOrder z] else []) ++
  (if x = p.lastX ∧ y = p.lastY ∧ width = p.lastWidth ∧ height = p.lastHeight then []
   else [.setWindow x y width height])

def doSeekAndSpeed (p : Player) (query : Option Int) (seekTo : Int) (speedTo : ℚ) : List Action :=
  let i := p.info
  .setState .playing ::
    ((if |speedTo - i.playbackRate| < rateThreshold ∧ seekTo = 0 ∧ i.currentMediaTimestamp = 0 then
        []
      else if seekTo < 0 ∧ |speedTo - i.playbackRate| < rateThreshold then
        []
      else
        let isJump : Bool := decide (seekTo > 0 ∨ (seekTo = 0 ∧ i.currentMediaTimestamp ≠ 0))
        let position :=
          if seekTo ≥ 0 then seekTo
          else query.getD (sbTimeToGstTime i.currentMediaTimestamp)
        (if isJump then [.reportPlayerState .prerolling] else []) ++
          [.seek speedTo (if isJump then some position else none)]) ++
    [.recordSeek (-1), .storeInfo { i with playbackRate := speedTo, isPaused := false }])

/-- `DoSeek` after its first statement, the store of `LastTicket`. -/
def doSeekBody (p : Player) (query : Option Int) (time : Int) : List Action :=
  let playbackRate := p.info.playbackRate
  if playbackRate ≥ rateThreshold ∧ p.positionUpdateSource then
    p.doSeekAndSpeed query time playbackRate
  else
    [.recordSeek time]

def doSeek (p : Player) (query : Option Int) (time newTicket : Int) : List Action :=
  .publishTicket newTicket :: (p.perform (.publishTicket newTicket)).doSeekBody query time

def doPlaybackRate (p : Player) (query : Option Int) (newRate : ℚ) : List Action :=
  if p.positionUpdateSource ∧ newRate ≥ rateThreshold then
    p.doSeekAndSpeed query p.lastSeek newRate
  else
    (if p.positionUpdateSource then [.setState .paused] else []) ++
      [.storeInfo (if newRate ≥ rateThreshold then
        { p.info with playbackRate := newRate, isPaused := false }
      else
        { p.info with isPaused := true })]

/-- `UpdatePosition`. A failed query leaves `pos` at its initial zero. -/
def updatePosition (p : Player) (query : Option Int) : List Action :=
  if p.videoSink then
    [.storeInfo { p.info with currentMediaTimestamp := gstTimeToSbTime (query.getD 0) }]
  else
    []

/-- The case of `GstBusCallback` for playbin's first `PAUSED`. -/
def preroll (p : Player) (query : Option Int) : List Action :=
  let start := [.attachPositionSource, .reportPlayerState .presenting] ++
    (if p.info.isPaused then [] else p.doSeekAndSpeed query p.lastSeek p.info.playbackRate)
  -- DoVolume reads Info again, after the seek has stored it
  start ++ (p.performAll start).doVolume p.info.volume

def gstBusCallback (p : Player) (query : Option Int) : Message → List Action
  | .eos => [.reportPlayerState .endOfStream]
  | .stateChanged .playbin newState =>
    if newState = .paused ∧ ¬ p.positionUpdateSource then p.preroll query
    else if newState = .playing then [.reportPlayerState .presenting]
    else []
  | .stateChanged .source newState =>
    match p.source with
    | none => []
    | some src =>
      if newState = .ready ∧ ¬ src.isConfigured then [.registerPlayer, .reportPlayerState .prerolling]
      else []
  | .stateChanged .other _ | .asyncDone | .error | .warning | .other => []

/-- What a thread calling `ReportDecoderState` passes on to `DecoderStatusFunction`. -/
def reportDecoderState (cfg : Config) (p : Player) (type : Stream) (state : DecoderState) :
    List (Stream × DecoderState × Int) :=
  if p.lastTicket ≠ cfg.initialTicket ∧ cfg.decoderStatusFunction then
    [(type, state, p.lastTicket)]
  else
    []

/-! ### What each function does -/

@[simp] theorem performAll_nil (p : Player) : p.performAll [] = p := rfl

@[simp] theorem performAll_cons (p : Player) (a : Action) (as : List Action) :
    p.performAll (a :: as) = (p.perform a).performAll as := rfl

@[simp] theorem performAll_append (p : Player) (as bs : List Action) :
    p.performAll (as ++ bs) = (p.performAll as).performAll bs := List.foldl_append

/-- Whether a seek to `seekTo` is a jump, which alone makes `DoSeekAndSpeed` flush. -/
def Jumps (p : Player) (seekTo : Int) : Prop :=
  seekTo > 0 ∨ (seekTo = 0 ∧ p.info.currentMediaTimestamp ≠ 0)

instance (p : Player) (seekTo : Int) : Decidable (p.Jumps seekTo) := by
  unfold Jumps; infer_instance

abbrev playing (p : Player) (speedTo : ℚ) : Info :=
  { p.info with playbackRate := speedTo, isPaused := false }

theorem doSeekAndSpeed_eq (p : Player) (query : Option Int) (seekTo : Int) (speedTo : ℚ) :
    p.doSeekAndSpeed query seekTo speedTo =
      .setState .playing ::
        ((if p.Jumps seekTo then [.reportPlayerState .prerolling, .seek speedTo (some seekTo)]
          else if |speedTo - p.info.playbackRate| < rateThreshold then []
          else [.seek speedTo none]) ++
        [.recordSeek (-1), .storeInfo (p.playing speedTo)]) := by
  unfold doSeekAndSpeed Jumps
  by_cases close : |speedTo - p.info.playbackRate| < rateThreshold <;>
    rcases lt_trichotomy seekTo 0 with negative | zero | positive
  · simp [close, negative, not_lt.mpr negative.le, negative.ne]
  · by_cases start : p.info.currentMediaTimestamp = 0 <;> simp [close, zero, start]
  · simp [close, positive, positive.ne', positive.le, not_lt.mpr positive.le]
  · simp [close, negative, not_lt.mpr negative.le, negative.ne]
  · by_cases start : p.info.currentMediaTimestamp = 0 <;> simp [close, zero, start]
  · simp [close, positive, positive.le]

theorem doSeekBody_early {p : Player} (early : p.positionUpdateSource = false) (query : Option Int)
    (time : Int) : p.doSeekBody query time = [.recordSeek time] := by
  simp [doSeekBody, early]

/-- After preroll a seek is executed, whatever `is_paused` says. -/
theorem doSeekBody_timed {p : Player} (timed : p.positionUpdateSource = true)
    (rateOk : rateThreshold ≤ p.info.playbackRate) (query : Option Int) (time : Int) :
    p.doSeekBody query time = p.doSeekAndSpeed query time p.info.playbackRate := by
  simp [doSeekBody, timed, rateOk]

/-! ### What each function may do

One inversion for each function, with the reason for the action; what holds of every plan is read off
these. -/

inductive SeekAndSpeedDoes (p : Player) (seekTo : Int) (speedTo : ℚ) : Action → Prop where
  | play : SeekAndSpeedDoes p seekTo speedTo (.setState .playing)
  | preroll (jumps : p.Jumps seekTo) : SeekAndSpeedDoes p seekTo speedTo (.reportPlayerState .prerolling)
  | seek (target : Option Int) : SeekAndSpeedDoes p seekTo speedTo (.seek speedTo target)
  | forget : SeekAndSpeedDoes p seekTo speedTo (.recordSeek (-1))
  | store : SeekAndSpeedDoes p seekTo speedTo (.storeInfo (p.playing speedTo))

inductive SeekDoes (p : Player) (time : Int) : Action → Prop where
  | seek {a : Action} (timed : p.positionUpdateSource = true) (fast : rateThreshold ≤ p.info.playbackRate)
      (does : SeekAndSpeedDoes p time p.info.playbackRate a) : SeekDoes p time a
  | record : SeekDoes p time (.recordSeek time)

inductive PlaybackRateDoes (p : Player) (newRate : ℚ) : Action → Prop where
  | seek {a : Action} (timed : p.positionUpdateSource = true) (fast : rateThreshold ≤ newRate)
      (does : SeekAndSpeedDoes p p.lastSeek newRate a) : PlaybackRateDoes p newRate a
  | pause (timed : p.positionUpdateSource = true) : PlaybackRateDoes p newRate (.setState .paused)
  | storeRate (fast : rateThreshold ≤ newRate) : PlaybackRateDoes p newRate (.storeInfo (p.playing newRate))
  | storePause : PlaybackRateDoes p newRate (.storeInfo { p.info with isPaused := true })

inductive BusDoes (p : Player) : Message → Action → Prop where
  | eos : BusDoes p .eos (.reportPlayerState .endOfStream)
  | attach (early : p.positionUpdateSource = false) :
      BusDoes p (.stateChanged .playbin .paused) .attachPositionSource
  | announce (early : p.positionUpdateSource = false) :
      BusDoes p (.stateChanged .playbin .paused) (.reportPlayerState .presenting)
  | seek {a : Action} (early : p.positionUpdateSource = false) (moving : p.info.isPaused = false)
      (does : SeekAndSpeedDoes p p.lastSeek p.info.playbackRate a) :
      BusDoes p (.stateChanged .playbin .paused) a
  | volume (early : p.positionUpdateSource = false) {info : Info}
      (rate : info.playbackRate = p.info.playbackRate) :
      BusDoes p (.stateChanged .playbin .paused) (.storeInfo info)
  | playing : BusDoes p (.stateChanged .playbin .playing) (.reportPlayerState .presenting)
  | register {src : CobaltSource Stream} (made : p.source = some src) (fresh : src.isConfigured = false) :
      BusDoes p (.stateChanged .source .ready) .registerPlayer
  | preroll {src : CobaltSource Stream} (made : p.source = some src) (fresh : src.isConfigured = false) :
      BusDoes p (.stateChanged .source .ready) (.reportPlayerState .prerolling)

section
variable {p : Player} {query : Option Int} {a : Action}

theorem mem_doVolume {volume : ℚ} (h : a ∈ p.doVolume volume) : a = .storeInfo { p.info with volume } :=
  List.mem_singleton.mp h

theorem mem_doBounds {z x y width height : Int} (h : a ∈ p.doBounds z x y width height) :
    a = .setZOrder z ∨ a = .setWindow x y width height := by
  rcases List.mem_append.mp h with order | window
  · split at order
    · exact Or.inl (List.mem_singleton.mp order)
    · cases order
  · split at window
    · cases window
    · exact Or.inr (List.mem_singleton.mp window)

theorem mem_updatePosition (h : a ∈ p.updatePosition query) :
    ∃ timestamp, a = .storeInfo { p.info with currentMediaTimestamp := timestamp } := by
  unfold updatePosition at h
  split at h
  · exact ⟨_, List.mem_singleton.mp h⟩
  · cases h

theorem mem_doSeekAndSpeed {seekTo : Int} {speedTo : ℚ} (h : a ∈ p.doSeekAndSpeed query seekTo speedTo) :
    SeekAndSpeedDoes p seekTo speedTo a := by
  rw [doSeekAndSpeed_eq] at h
  rcases List.mem_cons.mp h with rfl | h
  · exact .play
  rcases List.mem_append.mp h with sent | stored
  · split at sent
    · rename_i jumps
      have sent : a = .reportPlayerState .prerolling ∨ a = .seek speedTo (some seekTo) := by simpa using sent
      rcases sent with rfl | rfl
      · exact .preroll jumps
      · exact .seek _
    · split at sent
      · cases sent
      · rw [List.mem_singleton.mp sent]
        exact .seek none
  · have stored : a = .recordSeek (-1) ∨ a = .storeInfo (p.playing speedTo) := by simpa using stored
    rcases stored with rfl | rfl
    · exact .forget
    · exact .store

theorem performAll_doSeekAndSpeed_info (q : Player) (seekTo : Int) (speedTo : ℚ) :
    (q.performAll (p.doSeekAndSpeed query seekTo speedTo)).info = p.playing speedTo := by
  rw [doSeekAndSpeed_eq, performAll_cons, performAll_append]
  rfl

theorem mem_doSeekBody {time : Int} (h : a ∈ p.doSeekBody query time) : SeekDoes p time a := by
  unfold doSeekBody at h
  dsimp only at h
  split at h
  · rename_i executed
    exact .seek executed.2 executed.1 (mem_doSeekAndSpeed h)
  · rw [List.mem_singleton.mp h]
    exact .record

theorem mem_doPlaybackRate {newRate : ℚ} (h : a ∈ p.doPlaybackRate query newRate) :
    PlaybackRateDoes p newRate a := by
  unfold doPlaybackRate at h
  split at h
  · rename_i executed
    exact .seek executed.1 executed.2 (mem_doSeekAndSpeed h)
  · rcases List.mem_append.mp h with state | stored
    · split at state
      · rename_i timed
        rw [List.mem_singleton.mp state]
        exact .pause timed
      · cases state
    · rw [List.mem_singleton.mp stored]
      split
      · rename_i fast
        exact .storeRate fast
      · exact .storePause

theorem mem_gstBusCallback {message : Message} (h : a ∈ p.gstBusCallback query message) :
    BusDoes p message a := by
  unfold gstBusCallback at h
  split at h
  · rw [List.mem_singleton.mp h]
    exact .eos
  · split at h
    · rename_i first
      obtain ⟨rfl, untimed⟩ := first
      have early : p.positionUpdateSource = false := by simpa using untimed
      rcases List.mem_append.mp h with start | volume
      · rcases List.mem_append.mp start with told | sought
        · have told : a = .attachPositionSource ∨ a = .reportPlayerState .presenting := by simpa using told
          rcases told with rfl | rfl
          · exact .attach early
          · exact .announce early
        · split at sought
          · cases sought
          · rename_i moving
            exact .seek early (by simpa using moving) (mem_doSeekAndSpeed sought)
      · rw [mem_doVolume volume]
        refine .volume early ?_
        rw [performAll_append]
        split
        · rfl
        · rw [performAll_doSeekAndSpeed_info]
    · split at h
      · rename_i playing
        rw [List.mem_singleton.mp h, playing]
        exact .playing
      · cases h
  · split at h
    · cases h
    · rename_i src made
      split at h
      · rename_i first
        obtain ⟨rfl, unconfigured⟩ := first
        have fresh : src.isConfigured = false := by simpa using unconfigured
        have added : a = .registerPlayer ∨ a = .reportPlayerState .prerolling := by simpa using h
        rcases added with rfl | rfl
        · exact .register made fresh
        · exact .preroll made fresh
      · cases h
  all_goals cases h

end

end Player
end CobaltWayland
