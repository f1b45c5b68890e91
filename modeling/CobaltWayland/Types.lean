import Mathlib.Algebra.Order.AbsoluteValue.Basic
import Mathlib.Data.Rat.Defs
import Mathlib.Algebra.Order.Ring.Rat
import Mathlib.Tactic.NormNum
import Mathlib.Tactic.Linarith

/-!
The Starboard and GStreamer vocabulary the player speaks: media types, states, flow results and
the information record of `SbPlayerGetInfo`. Rates and volumes are exact rationals, times are
integers (microseconds for `SbTime`, nanoseconds for GStreamer).
-/

namespace CobaltWayland

inductive Stream where
  | audio | video
  deriving DecidableEq, Repr

def Stream.other : Stream → Stream
  | .audio => .video
  | .video => .audio

instance (p : Stream → Prop) [DecidablePred p] : Decidable (∀ d, p d) :=
  decidable_of_iff (p .audio ∧ p .video)
    ⟨fun both d => (by cases d; exacts [both.1, both.2]), fun all => ⟨all _, all _⟩⟩

/-- `SbMediaType` as a caller may pass it: any value outside the two takes the `default` branch. -/
inductive MediaType where
  | stream (stream : Stream)
  | strange (value : Int)
  deriving DecidableEq, Repr

inductive PlayerState where
  | initialized | prerolling | presenting | endOfStream | destroyed
  deriving DecidableEq, Repr

inductive DecoderState where
  | needsData | destroyed
  deriving DecidableEq, Repr

inductive GstState where
  | null | ready | paused | playing
  deriving DecidableEq, Repr

inductive GstFlowReturn where
  | ok | notLinked | flushing | eos | notNegotiated | error
  deriving DecidableEq, Repr

/-- The part of `SbPlayerInfo2` that the player writes. -/
structure Info where
  currentMediaTimestamp : Int := 0
  isPaused : Bool := true
  volume : ℚ := 1
  playbackRate : ℚ := 1
  deriving DecidableEq, Repr

/-- What the creator of a player hands over and what the platform found when it was built. -/
structure Config where
  /-- `SB_PLAYER_INITIAL_TICKET` of the Starboard headers. -/
  initialTicket : Int
  decoderStatusFunction : Bool
  playerStatusFunction : Bool
  videoSink : Bool
  deriving DecidableEq, Repr

/-- A rate below `1e-6` means pause, and two rates closer than `1e-6` count as the same. The constant of
the source is the double next to it, 4722366482869645 / 2^72. -/
def rateThreshold : ℚ := 1 / 1000000

/-- C++ integer division truncates towards zero. -/
def gstTimeToSbTime (time : Int) : Int := time.tdiv 1000

/-- Beyond 9223372036854775 microseconds either way the product overflows `gint64` in the source. Such
times are outside the model. -/
def sbTimeToGstTime (time : Int) : Int := time * 1000

theorem rateThreshold_le_one : rateThreshold ≤ 1 := by norm_num [rateThreshold]

theorem close_self (rate : ℚ) : |rate - rate| < rateThreshold := by
  rw [sub_self, abs_zero]
  norm_num [rateThreshold]

end CobaltWayland
