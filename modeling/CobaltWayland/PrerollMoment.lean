import CobaltWayland.Worker

/-!
The moment of preroll between two ways to carry out one list of commands: recorded first and replayed
by the handler of playbin's first `PAUSED`, or executed one by one after it. `Intent` is what a list
of commands asks for, read off the list alone; each way keeps its own part of it.
-/

namespace CobaltWayland

namespace Op

/-- The calls of a client that seeks to no negative time and whose rates `SetPlaybackRate` accepts. -/
def IsCommand : Op → Prop
  | .doSeek time _ _ => 0 ≤ time
  | .doPlaybackRate rate _ => 0 ≤ rate
  | .doVolume _ => True
  | _ => False

instance : DecidablePred IsCommand := fun op => by unfold IsCommand; split <;> infer_instance

end Op

/-- What a list of commands asks for. -/
structure Intent where
  /-- The time of the last seek and that of the last one to a time past the start. -/
  time : Int := 0
  jump : Int := 0
  ticket : Int
  volume : ℚ := 1
  plays : Bool := false
  rate : ℚ := 1
  /-- The rate at the last seek past the start or change of rate that is not too small to matter,
  whichever came later. -/
  carried : ℚ := 1
  deriving DecidableEq

namespace Intent

def next (i : Intent) : Op → Intent
  | .doSeek time ticket _ =>
    { i with
      time, ticket
      jump := if 0 < time then time else i.jump
      carried := if 0 < time then i.rate else i.carried }
  | .doPlaybackRate rate _ =>
    if rateThreshold ≤ rate then
      { i with plays := true, rate, carried := if |rate - i.rate| < rateThreshold then i.carried else rate }
    else { i with plays := false }
  | .doVolume volume => { i with volume }
  | _ => i

def ofCommands (cfg : Config) (ops : List Op) : Intent := ops.foldl next { ticket := cfg.initialTicket }

/-- The last seek does not go back to the start from a later time. If it is past the start, the rate to
play at was carried by it or by a change of rate after it; if not, the normal rate is the one carried. -/
def Timeless (i : Intent) : Prop :=
  i.time = i.jump ∧ (0 < i.time → i.rate = i.carried) ∧ (¬ 0 < i.time → i.carried = 1)

instance : DecidablePred Timeless := fun i => by unfold Timeless; infer_instance

end Intent

namespace Playback

/-- Recorded: the pipeline has been asked for nothing yet. -/
structure Recorded (s : Playback) (i : Intent) : Prop where
  early : s.player.positionUpdateSource = false
  moving : i.plays = true → s.player.info.isPaused = false
  timestamp : s.player.info.currentMediaTimestamp = 0
  rate : s.player.info.playbackRate = i.rate
  volume : s.player.info.volume = i.volume
  lastTicket : s.player.lastTicket = i.ticket
  lastSeek : s.player.lastSeek = i.time
  playbin : s.player.playbin = { requested := .paused }
  nonnegative : 0 ≤ i.time
  fast : rateThreshold ≤ i.rate

/-- Executed: no seek is left over that would jump. -/
structure Executed (s : Playback) (i : Intent) : Prop where
  timed : s.player.positionUpdateSource = true
  moving : i.plays = true → s.player.info.isPaused = false ∧ s.player.playbin.requested = .playing
  timestamp : s.player.info.currentMediaTimestamp = 0
  rate : s.player.info.playbackRate = i.rate
  volume : s.player.info.volume = i.volume
  lastTicket : s.player.lastTicket = i.ticket
  idle : ¬ s.player.Jumps s.player.lastSeek
  position : s.player.playbin.position = i.jump
  carried : s.player.playbin.rate = i.carried
  fast : rateThreshold ≤ i.rate

theorem initial_recorded (cfg : Config) : Recorded (initial cfg) { ticket := cfg.initialTicket } where
  early := rfl
  moving := fun plays => by cases plays
  timestamp := rfl
  rate := rfl
  volume := rfl
  lastTicket := rfl
  lastSeek := rfl
  playbin := rfl
  nonnegative := le_refl _
  fast := rateThreshold_le_one

theorem step_recorded {s : Playback} {i : Intent} {op : Op} (command : op.IsCommand)
    (recorded : Recorded s i) : ∃ t, s.step op = some t ∧ Recorded t (i.next op) := by
  have rateOk : RateOk s := recorded.fast.trans_eq recorded.rate.symm
  cases op with
  | doSeek time ticket query =>
    obtain ⟨t, h⟩ : ∃ t, s.step (.doSeek time ticket query) = some t := ⟨_, rfl⟩
    refine ⟨t, h, ?_⟩
    cases step_turn rateOk h with
    | recorded =>
      exact { recorded with lastTicket := rfl, lastSeek := rfl, nonnegative := command }
    | sought timed => cases recorded.early.symm.trans timed
    | framed noRequest => cases noRequest
  | doPlaybackRate rate query =>
    obtain ⟨t, h⟩ : ∃ t, s.step (.doPlaybackRate rate query) = some t := ⟨_, rfl⟩
    refine ⟨t, h, ?_⟩
    cases step_turn rateOk h with
    | played timed => cases recorded.early.symm.trans timed
    | rateRecorded _ fast =>
      rw [Intent.next, if_pos fast]
      exact { recorded with moving := fun _ => rfl, rate := rfl, fast }
    | paused slow =>
      rw [Intent.next, if_neg (not_le_of_gt slow)]
      exact { recorded with
        moving := fun plays => by cases plays
        playbin := by simpa [recorded.early] using recorded.playbin }
    | framed _ noRate => cases noRate
  | doVolume volume => exact ⟨_, rfl, { recorded with volume := rfl }⟩
  | _ => exact command.elim

theorem jumps_iff {p : Player} {seekTo : Int} (timestamp : p.info.currentMediaTimestamp = 0) :
    p.Jumps seekTo ↔ 0 < seekTo := by
  simp [Player.Jumps, timestamp]

theorem executed_sought {s t : Playback} {i j : Intent} (executed : Executed s i) {seekTo : Int} {speedTo : ℚ}
    (fast : rateThreshold ≤ speedTo) (after : t.player = s.player.sought seekTo speedTo)
    (rate : speedTo = j.rate) (volume : i.volume = j.volume) (ticket : i.ticket = j.ticket)
    (jump : (if 0 < seekTo then seekTo else i.jump) = j.jump)
    (carried : (if 0 < seekTo ∨ ¬ |speedTo - i.rate| < rateThreshold then speedTo else i.carried) = j.carried) :
    Executed t j where
  timed := by simpa [after] using executed.timed
  moving := fun _ => by simp [after]
  timestamp := by simpa [after] using executed.timestamp
  rate := by simpa [after] using rate
  volume := by simpa [after] using executed.volume.trans volume
  lastTicket := by simpa [after] using executed.lastTicket.trans ticket
  idle := by
    rw [after, Player.sought_lastSeek]
    exact Player.not_jumps_neg _
  position := by
    rw [after, Player.sought_position, executed.position, ← jump]
    simp only [jumps_iff executed.timestamp]
  carried := by
    rw [after, Player.sought_rate, executed.carried, executed.rate, ← carried]
    simp only [jumps_iff executed.timestamp]
  fast := fast.trans_eq rate

theorem step_executed {s : Playback} {i : Intent} {op : Op} (command : op.IsCommand)
    (executed : Executed s i) : ∃ t, s.step op = some t ∧ Executed t (i.next op) := by
  have rateOk : RateOk s := executed.fast.trans_eq executed.rate.symm
  cases op with
  | doSeek time ticket query =>
    obtain ⟨t, h⟩ : ∃ t, s.step (.doSeek time ticket query) = some t := ⟨_, rfl⟩
    refine ⟨t, h, ?_⟩
    cases step_turn rateOk h with
    | recorded early => cases executed.timed.symm.trans early
    | sought =>
      have published : Executed { s with player := { s.player with lastTicket := ticket } }
          { i with time, ticket } := { executed with lastTicket := rfl }
      refine executed_sought published rateOk rfl executed.rate rfl rfl rfl ?_
      -- the rate itself does not change, so only a jump carries it
      have same := close_self i.rate
      rw [executed.rate]
      simp only [Intent.next, same, not_true_eq_false, or_false]
    | framed noRequest => cases noRequest
  | doPlaybackRate rate query =>
    obtain ⟨t, h⟩ : ∃ t, s.step (.doPlaybackRate rate query) = some t := ⟨_, rfl⟩
    refine ⟨t, h, ?_⟩
    cases step_turn rateOk h with
    | played _ fast =>
      have still : ¬ 0 < s.player.lastSeek := fun past =>
        executed.idle ((jumps_iff executed.timestamp).mpr past)
      rw [Intent.next, if_pos fast]
      refine executed_sought executed fast rfl rfl rfl rfl (if_neg still) ?_
      simp only [still, false_or, ite_not]
    | rateRecorded early => cases executed.timed.symm.trans early
    | paused slow =>
      rw [Intent.next, if_neg (not_le_of_gt slow)]
      exact { executed with
        moving := fun plays => by cases plays
        position := by simpa [executed.timed] using executed.position
        carried := by simpa [executed.timed] using executed.carried }
    | framed _ noRate => cases noRate
  | doVolume volume => exact ⟨_, rfl, { executed with volume := rfl }⟩
  | _ => exact command.elim

/-! ### The two runs -/

structure Outcome where
  info : Info
  lastTicket : Int
  requested : GstState
  position : Int
  rate : ℚ
  deriving DecidableEq

def outcome (s : Playback) : Outcome where
  info := s.player.info
  lastTicket := s.player.lastTicket
  requested := s.player.playbin.requested
  position := s.player.playbin.position
  rate := s.player.playbin.rate

def prerolls (query : Option Int) : Op := .message (.stateChanged .playbin .paused) query

def EndsPlaying (ops : List Op) : Prop :=
  ∃ before rate query, ops = before ++ [.doPlaybackRate rate query] ∧ rateThreshold ≤ rate

/-- Playbin's first `PAUSED` may come after the commands or before them. -/
def PrerollInvisible (cfg : Config) (ops : List Op) (late early : Option Int) : Prop :=
  ∃ s t, Machine.exec step (initial cfg) (ops ++ [prerolls late]) = some s ∧
    Machine.exec step (initial cfg) (prerolls early :: ops) = some t ∧ s.outcome = t.outcome

theorem plays_of_endsPlaying {cfg : Config} {ops : List Op} (ends : EndsPlaying ops) :
    (Intent.ofCommands cfg ops).plays = true := by
  obtain ⟨before, rate, query, rfl, fast⟩ := ends
  rw [Intent.ofCommands, List.foldl_append, List.foldl_cons, List.foldl_nil, Intent.next, if_pos fast]

theorem outcome_recorded {s : Playback} {i : Intent} (recorded : Recorded s i) (plays : i.plays = true) :
    outcome { s with player := s.player.prerolled } =
      ⟨⟨0, false, i.volume, i.rate⟩, i.ticket, .playing, i.time, if 0 < i.time then i.rate else 1⟩ := by
  have moving := recorded.moving plays
  have timestamp : s.player.announced.info.currentMediaTimestamp = 0 := recorded.timestamp
  have prerolled : s.player.prerolled = s.player.announced.sought i.time i.rate := by
    simp [Player.prerolled, moving, recorded.lastSeek, recorded.rate]
  have info : (s.player.announced.sought i.time i.rate).info = ⟨0, false, i.volume, i.rate⟩ := by
    rw [Player.sought_info, ← recorded.timestamp, ← recorded.volume]
    rfl
  have lastTicket : (s.player.announced.sought i.time i.rate).lastTicket = i.ticket :=
    (Player.sought_lastTicket ..).trans recorded.lastTicket
  have position : (s.player.announced.sought i.time i.rate).playbin.position = i.time := by
    rw [Player.sought_position]
    split
    · rfl
    · rename_i still
      obtain ⟨start, -⟩ := Player.start_of_not_jumps still recorded.nonnegative
      rw [start]
      exact congrArg Playbin.position recorded.playbin
  have rate : (s.player.announced.sought i.time i.rate).playbin.rate = if 0 < i.time then i.rate else 1 := by
    -- the handler passes the stored rate, which is never a change
    have same : |i.rate - s.player.announced.info.playbackRate| < rateThreshold :=
      recorded.rate ▸ close_self s.player.info.playbackRate
    have unsent : s.player.announced.playbin.rate = 1 := congrArg Playbin.rate recorded.playbin
    simp only [Player.sought_rate, jumps_iff timestamp, same, unsent, not_true_eq_false, or_false]
  simp only [outcome, prerolled, info, lastTicket, Player.sought_requested, position, rate]

theorem outcome_executed {s : Playback} {i : Intent} (executed : Executed s i) (plays : i.plays = true) :
    s.outcome = ⟨⟨0, false, i.volume, i.rate⟩, i.ticket, .playing, i.jump, i.carried⟩ := by
  obtain ⟨moving, playing⟩ := executed.moving plays
  have info : s.player.info = ⟨0, false, i.volume, i.rate⟩ := by
    rw [← executed.timestamp, ← moving, ← executed.volume, ← executed.rate]
  simp only [outcome, info, executed.lastTicket, playing, executed.position, executed.carried]

theorem initial_executed (cfg : Config) (query : Option Int) :
    ∃ s, (initial cfg).step (prerolls query) = some s ∧ Executed s { ticket := cfg.initialTicket } := by
  refine ⟨_, step_preroll rfl query, ?_⟩
  exact ⟨rfl, fun plays => (by cases plays), rfl, rfl, rfl, rfl,
    fun jumps => absurd ((jumps_iff rfl).mp jumps) (lt_irrefl 0), rfl, rfl, rateThreshold_le_one⟩

/-- Recorded and replayed at once, the commands leave the last seek and, if that is past the start, the
last rate. -/
theorem recorded_run (cfg : Config) {ops : List Op} (commands : ∀ op ∈ ops, op.IsCommand)
    (ends : EndsPlaying ops) (query : Option Int) {i : Intent} (asked : Intent.ofCommands cfg ops = i) :
    ∃ s, Machine.exec step (initial cfg) (ops ++ [prerolls query]) = some s ∧
      s.outcome =
        ⟨⟨0, false, i.volume, i.rate⟩, i.ticket, .playing, i.time, if 0 < i.time then i.rate else 1⟩ := by
  obtain ⟨s, reached, recorded⟩ :=
    Machine.exec_follows Recorded Op.IsCommand Intent.next
      (fun _ _ _ command recorded => step_recorded command recorded) (initial_recorded cfg) commands
  have plays : i.plays = true := asked ▸ plays_of_endsPlaying ends
  rw [← Intent.ofCommands, asked] at recorded
  refine ⟨_, ?_, outcome_recorded recorded plays⟩
  exact Machine.exec_append.mpr ⟨s, reached, Machine.exec_cons.mpr ⟨_, step_preroll recorded.early query, rfl⟩⟩

/-- Executed one by one, they leave the last jump and the rate that was carried. -/
theorem executed_run (cfg : Config) {ops : List Op} (commands : ∀ op ∈ ops, op.IsCommand)
    (ends : EndsPlaying ops) (query : Option Int) {i : Intent} (asked : Intent.ofCommands cfg ops = i) :
    ∃ s, Machine.exec step (initial cfg) (prerolls query :: ops) = some s ∧
      s.outcome = ⟨⟨0, false, i.volume, i.rate⟩, i.ticket, .playing, i.jump, i.carried⟩ := by
  obtain ⟨prerolled, first, ready⟩ := initial_executed cfg query
  obtain ⟨s, reached, executed⟩ :=
    Machine.exec_follows Executed Op.IsCommand Intent.next
      (fun _ _ _ command executed => step_executed command executed) ready commands
  have plays : i.plays = true := asked ▸ plays_of_endsPlaying ends
  rw [← Intent.ofCommands, asked] at executed
  exact ⟨s, Machine.exec_cons.mpr ⟨prerolled, first, reached⟩, outcome_executed executed plays⟩

/-- A list of commands that ends with a rate to play at leaves the same behind, whether the first
`PAUSED` of playbin comes after it or before it, exactly when what it asks for is timeless. -/
theorem preroll_invisible_iff (cfg : Config) (ops : List Op) (commands : ∀ op ∈ ops, op.IsCommand)
    (ends : EndsPlaying ops) (late early : Option Int) :
    PrerollInvisible cfg ops late early ↔ (Intent.ofCommands cfg ops).Timeless := by
  obtain ⟨s, replayed, afterwards⟩ := recorded_run cfg commands ends late rfl
  obtain ⟨t, executed, before⟩ := executed_run cfg commands ends early rfl
  have same : PrerollInvisible cfg ops late early ↔ s.outcome = t.outcome := by
    constructor
    · rintro ⟨s', t', replayed', executed', same⟩
      obtain rfl := Option.some.inj (replayed.symm.trans replayed')
      obtain rfl := Option.some.inj (executed.symm.trans executed')
      exact same
    · exact fun same => ⟨s, t, replayed, executed, same⟩
  rw [same, afterwards, before, Outcome.mk.injEq, Intent.Timeless]
  split <;> simp_all [eq_comm]

theorem preroll_invisible_replay :
    PrerollInvisible ⟨0, true, true, true⟩
      [.doVolume (1 / 2), .doPlaybackRate 0 none, .doSeek 5000000000 1 none, .doPlaybackRate 2 none]
      none (some 0) :=
  (preroll_invisible_iff _ _ (by decide +kernel)
    ⟨[.doVolume (1 / 2), .doPlaybackRate 0 none, .doSeek 5000000000 1 none], 2, none, rfl,
      by norm_num [rateThreshold]⟩ _ _).mpr (by decide +kernel)

theorem outcome_eq_of_invisible {cfg : Config} {ops : List Op} {late early : Option Int}
    (invisible : PrerollInvisible cfg ops late early) :
    (Machine.exec step (initial cfg) (ops ++ [prerolls late])).map outcome =
      (Machine.exec step (initial cfg) (prerolls early :: ops)).map outcome := by
  obtain ⟨s, t, replayed, executed, same⟩ := invisible
  rw [replayed, executed]
  exact congrArg some same

/-- A rate alone. Recorded it is the stored rate by the time it is replayed, so that nothing seems to
change, and the pipeline plays at the normal rate. -/
def rateAlone : List Op := [.doPlaybackRate 2 none]

theorem rate_alone_not_carried :
    (∀ op ∈ rateAlone, op.IsCommand) ∧ EndsPlaying rateAlone ∧
      ¬ PrerollInvisible ⟨0, true, true, true⟩ rateAlone none none :=
  ⟨by decide +kernel, ⟨[], 2, none, rfl, by norm_num [rateThreshold]⟩,
    fun invisible => absurd (outcome_eq_of_invisible invisible) (by decide +kernel)⟩

end Playback
end CobaltWayland
