import CobaltWayland.Worker

/-!
Which seek the pipeline plays from. A seek is recorded before preroll and executed at the first
`PAUSED` of playbin or at the first play after it; once the pipeline has prerolled every seek is
executed at once, the one to the start only where the last known position is not the start.
-/

namespace CobaltWayland
namespace Playback

/-- The last seek asked for is still recorded and waits for preroll or for a play, or it is where
the pipeline was last positioned. -/
def LatestWins (s : Playback) : Prop :=
  ∀ time ticket, s.request = some (time, ticket) →
    (s.player.lastSeek = time ∧
      (s.player.positionUpdateSource = false ∨ s.player.info.isPaused = true)) ∨
    s.player.playbin.position = time

instance (s : Playback) : Decidable (LatestWins s) :=
  match asked : s.request with
  | none => isTrue (by simp [LatestWins, asked])
  | some (time, ticket) =>
    decidable_of_iff
      ((s.player.lastSeek = time ∧
        (s.player.positionUpdateSource = false ∨ s.player.info.isPaused = true)) ∨
        s.player.playbin.position = time)
      (by simp [LatestWins, asked])

/-- A seek to the start taken for the start of playback (prerolled, timestamp zero) finds the
pipeline positioned there. -/
def StartHonoured (s : Playback) (op : Op) : Prop :=
  ∀ ticket, op.request = some (0, ticket) → s.player.positionUpdateSource = true →
    s.player.info.currentMediaTimestamp = 0 → s.player.playbin.position = 0

instance (s : Playback) (op : Op) : Decidable (StartHonoured s op) :=
  match asked : op.request with
  | none => isTrue (by simp [StartHonoured, asked])
  | some (time, ticket) =>
    decidable_of_iff
      (time = 0 → s.player.positionUpdateSource = true → s.player.info.currentMediaTimestamp = 0 →
        s.player.playbin.position = 0)
      (by simp [StartHonoured, asked])

structure SeekInv (s : Playback) : Prop where
  rateOk : RateOk s
  early : s.player.positionUpdateSource = false →
    s.player.playbin.flushes = [] ∧ s.player.info.currentMediaTimestamp = 0
  /-- A seek is recorded only while the pipeline has never been flushed. -/
  recorded : s.player.lastSeek ≠ -1 → s.player.playbin.flushes = []
  settled : s.player.positionUpdateSource = true → s.player.info.isPaused = false →
    s.player.lastSeek = -1
  latest : ∀ time ticket, s.request = some (time, ticket) → 0 ≤ time ∧
    (s.player.lastSeek = time ∨ s.player.lastSeek = -1 ∧ s.player.playbin.position = time)

theorem initial_seekInv (cfg : Config) : SeekInv (initial cfg) where
  rateOk := initial_rateOk cfg
  early := fun _ => ⟨rfl, rfl⟩
  recorded := fun _ => rfl
  settled := fun timed => by cases timed
  latest := fun _ _ asked => by cases asked

theorem seekInv_latestWins {s : Playback} (inv : SeekInv s) : LatestWins s := by
  intro time ticket asked
  obtain ⟨nonnegative, waiting | ⟨_, positioned⟩⟩ := inv.latest time ticket asked
  · refine Or.inl ⟨waiting, ?_⟩
    cases timed : s.player.positionUpdateSource with
    | false => exact Or.inl rfl
    | true =>
      cases moving : s.player.info.isPaused with
      | true => exact Or.inr rfl
      | false =>
        have settled := inv.settled timed moving
        omega
  · exact Or.inr positioned

/-- Executing whatever is recorded positions the pipeline at the last seek asked for: with nothing
flushed before, the start needs no seek. -/
theorem execute_latest {s : Playback} {p : Player} (inv : SeekInv s) (rate : ℚ)
    (playbin : p.playbin = s.player.playbin) {time ticket : Int}
    (asked : s.request = some (time, ticket)) :
    (p.sought s.player.lastSeek rate).playbin.position = time := by
  rw [Player.sought_position]
  obtain ⟨nonnegative, waiting | ⟨done, positioned⟩⟩ := inv.latest time ticket asked
  · split
    · exact waiting
    · rename_i still
      have start := Player.start_of_not_jumps still (by omega)
      have unflushed := inv.recorded (by omega)
      rw [playbin, Playbin.position, unflushed]
      exact start.1.symm.trans waiting
  · rw [done, if_neg p.not_jumps_neg, playbin]
    exact positioned

theorem sought_seekInv {t : Playback} {p : Player} {seekTo : Int} {speedTo : ℚ} (rateOk : RateOk t)
    (after : t.player = p.sought seekTo speedTo) (timed : p.positionUpdateSource = true)
    (latest : ∀ time ticket, t.request = some (time, ticket) →
      0 ≤ time ∧ (p.sought seekTo speedTo).playbin.position = time) : SeekInv t := by
  have done : t.player.lastSeek = -1 := by rw [after, Player.sought_lastSeek]
  refine ⟨rateOk, fun early => ?_, fun recorded => absurd done recorded, fun _ _ => done, ?_⟩
  · rw [after, Player.sought_positionUpdateSource, timed] at early
    cases early
  · intro time ticket asked
    obtain ⟨nonnegative, positioned⟩ := latest time ticket asked
    rw [after] at done ⊢
    exact ⟨nonnegative, Or.inr ⟨done, positioned⟩⟩

theorem step_seekInv {s t : Playback} {op : Op} (times : op.SeeksTo (0 ≤ ·)) (inv : SeekInv s)
    (honoured : StartHonoured s op) (h : s.step op = some t) : SeekInv t := by
  have rateOk := step_rateOk inv.rateOk h
  cases step_turn inv.rateOk h with
  | @recorded time ticket _ early =>
    obtain ⟨flushes, timestamp⟩ := inv.early early
    refine ⟨rateOk, fun _ => ⟨flushes, timestamp⟩, fun _ => flushes, fun timed => ?_, ?_⟩
    · cases early.symm.trans timed
    · rintro _ _ ⟨rfl, rfl⟩
      exact ⟨times _ _ rfl, Or.inl rfl⟩
  | @sought time ticket _ timed =>
    refine sought_seekInv rateOk rfl timed ?_
    rintro _ _ ⟨rfl, rfl⟩
    have nonnegative := times _ _ rfl
    refine ⟨nonnegative, ?_⟩
    rw [Player.sought_position]
    split
    · rfl
    · rename_i still
      obtain ⟨rfl, timestamp⟩ := Player.start_of_not_jumps still nonnegative
      exact honoured ticket rfl timed timestamp
  | played timed _ =>
    refine sought_seekInv rateOk rfl timed fun time ticket asked => ?_
    exact ⟨(inv.latest time ticket asked).1, execute_latest inv _ rfl asked⟩
  | rateRecorded early _ =>
    exact ⟨rateOk, inv.early, inv.recorded, fun timed => (by cases early.symm.trans timed), inv.latest⟩
  | paused _ =>
    have flushes : (if s.player.positionUpdateSource = true then s.player.playbin.setState .paused
        else s.player.playbin).flushes = s.player.playbin.flushes := by split <;> rfl
    refine ⟨rateOk, fun early => ?_, fun recorded => ?_, fun _ moving => (by cases moving), ?_⟩
    · exact ⟨flushes.trans (inv.early early).1, (inv.early early).2⟩
    · exact flushes.trans (inv.recorded recorded)
    · intro time ticket asked
      simpa only [Playbin.position, flushes] using inv.latest time ticket asked
  | ticked _ timed =>
    exact ⟨rateOk, fun early => (by cases timed.symm.trans early), inv.recorded, inv.settled, inv.latest⟩
  | prerolledPaused _ still =>
    exact ⟨rateOk, fun early => (by cases early), inv.recorded,
      fun _ moving => (by cases still.symm.trans moving), inv.latest⟩
  | prerolledPlaying =>
    refine sought_seekInv (p := s.player.announced) rateOk rfl rfl fun time ticket asked => ?_
    exact ⟨(inv.latest time ticket asked).1, execute_latest (p := s.player.announced) inv _ rfl asked⟩
  | framed _ _ frame =>
    have timestamp := congrArg Info.currentMediaTimestamp frame.info
    have paused := congrArg Info.isPaused frame.info
    refine ⟨rateOk, fun early => ?_, fun recorded => ?_, fun timed moving => ?_, ?_⟩
    · simp only [frame.playbin, timestamp]
      exact inv.early (frame.positionUpdateSource ▸ early)
    · rw [frame.playbin]
      exact inv.recorded (frame.lastSeek ▸ recorded)
    · rw [frame.lastSeek]
      exact inv.settled (frame.positionUpdateSource ▸ timed) (paused ▸ moving)
    · simpa only [frame.lastSeek, frame.playbin] using inv.latest

/-- The skipped seek is lost: `LastSeek` is cleared and the pipeline stays where it was. -/
theorem latestWins_needs_start {s t : Playback} {op : Op} (inv : SeekInv s) (h : s.step op = some t)
    (wins : LatestWins t) : StartHonoured s op := by
  intro ticket asked timed timestamp
  have turn := step_turn inv.rateOk h
  cases turn with
  | recorded early => cases early.symm.trans timed
  | sought =>
    obtain ⟨rfl, rfl⟩ := Prod.mk.inj (Option.some.inj asked)
    have positioned := (wins 0 _ rfl).resolve_left (by simp)
    simpa [Playbin.position, Player.Jumps, timestamp] using positioned
  | framed noRequest => cases noRequest.symm.trans asked
  | _ => cases asked

/-- Seeks, rates, ticks and messages leave the pipeline at the last seek asked for in every state
of a run exactly when no seek to the start is skipped away from it. -/
theorem latest_seek_wins_iff (cfg : Config) (ops : List Op) (times : ∀ op ∈ ops, op.SeeksTo (0 ≤ ·)) :
    Machine.Throughout step LatestWins (initial cfg) ops ↔
      Machine.Along step StartHonoured (initial cfg) ops :=
  Machine.throughout_iff_along SeekInv (fun op => op.SeeksTo (0 ≤ ·))
    (fun _ _ _ nonnegative inv honoured h => step_seekInv nonnegative inv honoured h)
    (fun _ inv => seekInv_latestWins inv)
    (fun _ _ _ _ inv h wins => latestWins_needs_start inv h wins)
    (initial_seekInv cfg) times

theorem latest_seek_wins_replay :
    Machine.Throughout step LatestWins (initial ⟨0, true, true, true⟩)
      [.doSeek 5000000000 1 none, .doPlaybackRate 1 none,
       .message (.stateChanged .playbin .paused) none, .updatePosition (some 5040000000),
       .doSeek 0 2 none] :=
  (latest_seek_wins_iff _ _ (by decide)).mpr (by decide +kernel)

/-- A seek to the start right after a jump, before the timer has ticked: the timestamp is still
zero, the seek is skipped and the pipeline plays on from five seconds. -/
def skippedStart : List Op :=
  [.message (.stateChanged .playbin .paused) none, .doPlaybackRate 1 none,
   .doSeek 5000000000 1 none, .doSeek 0 2 none]

theorem skipped_start_loses :
    (∀ op ∈ skippedStart, op.SeeksTo (0 ≤ ·)) ∧
      ¬ Machine.Throughout step LatestWins (initial ⟨0, true, true, true⟩) skippedStart := by
  decide +kernel

end Playback
end CobaltWayland
