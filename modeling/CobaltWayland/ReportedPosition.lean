import CobaltWayland.Worker

/-!
The position the player reports. `UpdatePosition` stores what it gets from the query of the position,
and a query that fails leaves the zero that the variable was initialised with. The reported position
also decides whether a seek to the start may be skipped.
-/

namespace CobaltWayland

namespace Op

/-- The arguments of the one call of `DoSeekAndSpeed` that an operation may make. -/
def seekAndSpeed (p : Player) : Op → Option (Int × ℚ)
  | .doSeek time _ _ =>
    if p.info.playbackRate ≥ rateThreshold ∧ p.positionUpdateSource then some (time, p.info.playbackRate)
    else none
  | .doPlaybackRate rate _ =>
    if p.positionUpdateSource ∧ rate ≥ rateThreshold then some (p.lastSeek, rate) else none
  | .message (.stateChanged .playbin .paused) _ =>
    if ¬ p.positionUpdateSource ∧ ¬ p.info.isPaused then some (p.lastSeek, p.info.playbackRate) else none
  | _ => none

/-- The call takes the first branch, the skipped seek at the start of playback. -/
def SkipsAtStart (p : Player) (op : Op) : Prop :=
  ∃ speedTo, op.seekAndSpeed p = some (0, speedTo) ∧ |speedTo - p.info.playbackRate| < rateThreshold ∧
    p.info.currentMediaTimestamp = 0

/-- The position a successful query of `UpdatePosition` brings, in microseconds. -/
def position (p : Player) : Op → Option Int
  | .updatePosition query => if p.videoSink then query.map gstTimeToSbTime else none
  | _ => none

def queryFails (p : Player) : Op → Bool
  | .updatePosition query => p.videoSink && query.isNone
  | _ => false

/-- The calls are where the actions say: the actions of `DoSeekAndSpeed` for these arguments, computed
from the `Info` the operation started with. -/
theorem seekAndSpeed_actions {p : Player} {op : Op} {seekTo : Int} {speedTo : ℚ}
    (call : op.seekAndSpeed p = some (seekTo, speedTo)) :
    ∃ before query after, op.actions p =
        before ++ ((p.performAll before).doSeekAndSpeed query seekTo speedTo ++ after) ∧
      (p.performAll before).info = p.info := by
  cases op with
  | doSeek time ticket query =>
    simp only [seekAndSpeed, Option.ite_none_right_eq_some, Option.some.injEq, Prod.mk.injEq] at call
    obtain ⟨⟨fast, timed⟩, rfl, rfl⟩ := call
    refine ⟨[.publishTicket ticket], query, [], ?_, rfl⟩
    have body := Player.doSeekBody_timed (p := p.perform (.publishTicket ticket)) timed fast query time
    simp only [actions, Player.doSeek, body, List.append_nil, List.singleton_append]
    rfl
  | doPlaybackRate rate query =>
    simp only [seekAndSpeed, Option.ite_none_right_eq_some, Option.some.injEq, Prod.mk.injEq] at call
    obtain ⟨executed, rfl, rfl⟩ := call
    refine ⟨[], query, [], ?_, rfl⟩
    simp only [actions, Player.doPlaybackRate, if_pos executed, List.append_nil, List.nil_append]
    rfl
  | message received query =>
    unfold seekAndSpeed at call
    split at call
    case h_3 same =>
      obtain ⟨rfl, rfl⟩ := Op.message.inj same
      simp only [Option.ite_none_right_eq_some, Option.some.injEq, Prod.mk.injEq] at call
      obtain ⟨⟨early, moving⟩, rfl, rfl⟩ := call
      have early : p.positionUpdateSource = false := by simpa using early
      obtain ⟨after, plan⟩ : ∃ after, p.preroll query = [.attachPositionSource, .reportPlayerState .presenting] ++
          (p.doSeekAndSpeed query p.lastSeek p.info.playbackRate ++ after) := by
        simp only [Player.preroll, if_neg moving]
        exact ⟨_, List.append_assoc ..⟩
      refine ⟨[.attachPositionSource, .reportPlayerState .presenting], query, after, ?_, rfl⟩
      exact (Player.gstBusCallback_preroll early query).trans plan
    all_goals contradiction
  | _ => cases call

theorem seekAndSpeed_none {p : Player} {op : Op} (noCall : op.seekAndSpeed p = none) :
    .setState .playing ∉ op.actions p := by
  intro started
  cases op with
  | doSeek time ticket query =>
    rcases List.mem_cons.mp started with publish | started
    · cases publish
    · cases Player.mem_doSeekBody started with
      | seek timed fast =>
        have timed : p.positionUpdateSource = true := timed
        have fast : rateThreshold ≤ p.info.playbackRate := fast
        simp [seekAndSpeed, timed, fast] at noCall
  | doPlaybackRate rate query =>
    cases Player.mem_doPlaybackRate started with
    | seek timed fast => simp [seekAndSpeed, timed, fast] at noCall
  | doVolume volume => cases Player.mem_doVolume started
  | doBounds z x y width height => rcases Player.mem_doBounds started with order | window <;> contradiction
  | updatePosition query =>
    obtain ⟨timestamp, store⟩ := Player.mem_updatePosition started
    cases store
  | message received query =>
    cases Player.mem_gstBusCallback started with
    | seek early moving => simp [seekAndSpeed, early, moving] at noCall
  | reportInitialized | sourceChanged => simp [actions] at started

/-- An operation that sets playbin to `PLAYING` and does not seek skips the seek at the start, or has no
position to go to. -/
theorem plays_unsought {p : Player} {op : Op} (plays : .setState .playing ∈ op.actions p)
    (unsought : ∀ rate target, .seek rate target ∉ op.actions p) :
    op.SkipsAtStart p ∨ ∃ seekTo speedTo, op.seekAndSpeed p = some (seekTo, speedTo) ∧ seekTo < 0 := by
  cases call : op.seekAndSpeed p with
  | none => exact absurd plays (seekAndSpeed_none call)
  | some arguments =>
    obtain ⟨seekTo, speedTo⟩ := arguments
    obtain ⟨before, query, after, split, info⟩ := seekAndSpeed_actions call
    have silent : ∀ target, .seek speedTo target ∉ (p.performAll before).doSeekAndSpeed query seekTo speedTo := by
      intro target sought
      apply unsought speedTo target
      rw [split]
      exact List.mem_append_right _ (List.mem_append_left _ sought)
    rw [Player.doSeekAndSpeed_eq, info] at silent
    have stays : ¬ (p.performAll before).Jumps seekTo := by
      intro jumps
      exact silent (some seekTo) (by simp [jumps])
    have close : |speedTo - p.info.playbackRate| < rateThreshold := by
      by_contra far
      exact silent none (by simp [stays, far])
    rw [Player.Jumps, info] at stays
    rcases lt_trichotomy seekTo 0 with negative | rfl | positive
    · exact Or.inr ⟨seekTo, speedTo, rfl, negative⟩
    · exact Or.inl ⟨speedTo, call, close, by simpa using stays⟩
    · exact absurd (Or.inl positive) stays

end Op

/-- A playback with the position of the last successful query of `UpdatePosition`, in microseconds. -/
structure PositionLog where
  playback : Playback
  known : Int := 0

namespace PositionLog

def start (cfg : Config) : PositionLog := { playback := Playback.initial cfg }

def step (s : PositionLog) (op : Op) : Option PositionLog :=
  (s.playback.step op).map fun playback =>
    { playback, known := (op.position s.playback.player).getD s.known }

def ReportsKnown (s : PositionLog) : Prop := s.playback.player.info.currentMediaTimestamp = s.known

instance : DecidablePred ReportsKnown := fun s => by unfold ReportsKnown; infer_instance

def MovedByUpdate (s : PositionLog) (op : Op) : Prop :=
  (∀ query, op ≠ .updatePosition query) → ∀ t, s.step op = some t →
    t.playback.player.info.currentMediaTimestamp = s.playback.player.info.currentMediaTimestamp

/-- A seek is skipped at the start of playback only if the position is known to be the start. -/
def SkipsKnowing (s : PositionLog) (op : Op) : Prop := op.SkipsAtStart s.playback.player → s.known = 0

/-- The same, told by what the operation does: it plays from where the pipeline is only if it has no
position to go to or that is the start. -/
def PlaysKnowing (s : PositionLog) (op : Op) : Prop :=
  .setState .playing ∈ op.actions s.playback.player →
    (∀ rate target, .seek rate target ∉ op.actions s.playback.player) →
      s.known = 0 ∨ ∃ seekTo speedTo, op.seekAndSpeed s.playback.player = some (seekTo, speedTo) ∧ seekTo < 0

def FailsAtStart (s : PositionLog) (op : Op) : Prop :=
  op.queryFails s.playback.player = true → s.playback.player.info.currentMediaTimestamp = 0

instance (s : PositionLog) (op : Op) : Decidable (FailsAtStart s op) := by
  unfold FailsAtStart; infer_instance

structure Inv (s : PositionLog) : Prop where
  rateOk : s.playback.RateOk
  reports : ReportsKnown s

theorem step_timestamp {s t : Playback} {op : Op} (rateOk : s.RateOk) (h : s.step op = some t)
    (other : ∀ query, op ≠ .updatePosition query) :
    t.player.info.currentMediaTimestamp = s.player.info.currentMediaTimestamp := by
  cases Playback.step_turn rateOk h with
  | ticked => exact absurd rfl (other _)
  | framed _ _ frame => rw [frame.info]
  | sought | played | prerolledPlaying => simp [Player.announced, Player.perform]
  | _ => rfl

theorem step_updatePosition {s t : Playback} {query : Option Int} (h : s.step (.updatePosition query) = some t) :
    t.player.info.currentMediaTimestamp =
      if s.player.videoSink then gstTimeToSbTime (query.getD 0) else s.player.info.currentMediaTimestamp := by
  obtain ⟨-, rfl⟩ := Playback.step_performs h
  simp only [Op.actions, Player.updatePosition]
  split <;> rfl

theorem step_timestamp_iff {s t : PositionLog} {op : Op} (inv : Inv s) (h : s.step op = some t) :
    ReportsKnown t ↔ FailsAtStart s op := by
  obtain ⟨playback, taken, rfl⟩ := Option.map_eq_some_iff.mp h
  have reports : s.playback.player.info.currentMediaTimestamp = s.known := inv.reports
  cases op with
  | updatePosition query =>
    have stored := step_updatePosition taken
    cases sink : s.playback.player.videoSink <;> cases query <;>
      simp [ReportsKnown, FailsAtStart, Op.position, Op.queryFails, stored, sink, reports,
        gstTimeToSbTime, eq_comm]
  | _ =>
    have same := step_timestamp inv.rateOk taken (fun _ => by simp)
    simp [ReportsKnown, FailsAtStart, Op.position, Op.queryFails, same, reports]

theorem step_inv {s t : PositionLog} {op : Op} (inv : Inv s) (fails : FailsAtStart s op)
    (h : s.step op = some t) : Inv t := by
  have reports := (step_timestamp_iff inv h).mpr fails
  obtain ⟨playback, taken, rfl⟩ := Option.map_eq_some_iff.mp h
  exact ⟨Playback.step_rateOk inv.rateOk taken, reports⟩

theorem inv_movedByUpdate {s : PositionLog} {op : Op} (inv : Inv s) : MovedByUpdate s op := by
  intro other t h
  obtain ⟨playback, taken, rfl⟩ := Option.map_eq_some_iff.mp h
  exact step_timestamp inv.rateOk taken other

theorem inv_skipsKnowing {s : PositionLog} {op : Op} (inv : Inv s) : SkipsKnowing s op := by
  rintro ⟨speedTo, -, -, start⟩
  exact inv.reports.symm.trans start

theorem inv_playsKnowing {s : PositionLog} {op : Op} (inv : Inv s) : PlaysKnowing s op := by
  intro plays unsought
  exact (Op.plays_unsought plays unsought).imp_left (inv_skipsKnowing inv)

/-- In every state of a run the reported position is the last one known, nothing but `UpdatePosition`
moves it, and a seek is skipped only where it is the start, exactly when every query that fails finds
the start reported. -/
theorem reports_known_iff (cfg : Config) (ops : List Op) :
    (Machine.Throughout step ReportsKnown (start cfg) ops ∧
      Machine.Along step MovedByUpdate (start cfg) ops ∧
      Machine.Along step SkipsKnowing (start cfg) ops ∧
      Machine.Along step PlaysKnowing (start cfg) ops) ↔
      Machine.Along step FailsAtStart (start cfg) ops := by
  have initial : Inv (start cfg) := ⟨Playback.initial_rateOk cfg, rfl⟩
  have kept : ∀ s op t, Inv s → FailsAtStart s op → s.step op = some t → Inv t :=
    fun _ _ _ inv fails h => step_inv inv fails h
  constructor
  · rintro ⟨reports, -⟩
    exact (Machine.throughout_iff_along Inv (fun _ => True) (fun s op t _ => kept s op t)
      (fun _ inv => inv.reports) (fun _ _ _ _ inv h reports => (step_timestamp_iff inv h).mp reports)
      initial (fun _ _ => trivial)).mp reports
  · intro fails
    exact ⟨Machine.throughout_of_along Inv kept (fun _ inv => inv.reports) initial fails,
      Machine.along_of_along Inv kept (fun _ _ _ inv _ _ => inv_movedByUpdate inv) initial fails,
      Machine.along_of_along Inv kept (fun _ _ _ inv _ _ => inv_skipsKnowing inv) initial fails,
      Machine.along_of_along Inv kept (fun _ _ _ inv _ _ => inv_playsKnowing inv) initial fails⟩

/-- A query that fails once, five seconds into playback. -/
def failedQuery : List Op :=
  [.message (.stateChanged .playbin .paused) none, .doPlaybackRate 1 none,
   .updatePosition (some 5000000000), .updatePosition none]

theorem failed_query_reports_start :
    ¬ (Machine.Throughout step ReportsKnown (start ⟨0, true, true, true⟩) failedQuery ∧
      Machine.Along step MovedByUpdate (start ⟨0, true, true, true⟩) failedQuery ∧
      Machine.Along step SkipsKnowing (start ⟨0, true, true, true⟩) failedQuery) := by
  have moved : ¬ Machine.Throughout step ReportsKnown (start ⟨0, true, true, true⟩) failedQuery := by
    decide +kernel
  exact fun all => moved all.1

end PositionLog
end CobaltWayland
