import CobaltWayland.Worker

/-!
When the client is told that a seek presents. The ticket is published when the seek is recorded,
the seek itself may wait for preroll; the handler of playbin's first `PAUSED` reports `Presenting`
before it executes what was recorded, and `PLAYING` is reported whenever it arrives.
-/

namespace CobaltWayland
namespace Playback

/-- Whenever an operation reports `Presenting` with the ticket of the last seek while the player is
not paused, the flushing seek to the time asked for has been issued and nothing awaits execution. -/
def PresentsSought (cfg : Config) (s : Playback) (op : Op) : Prop :=
  ∀ m ∈ moments s.player (op.actions s.player),
    m.2 = .reportPlayerState .presenting ∧ cfg.playerStatusFunction = true ∧ m.1.info.isPaused = false →
    ∀ asked ∈ op.request.or s.request, asked.2 = m.1.lastTicket →
      asked ∈ m.1.playbin.flushes ∧ m.1.lastSeek ≠ asked.1

instance (cfg : Config) (s : Playback) (op : Op) : Decidable (PresentsSought cfg s op) := by
  unfold PresentsSought; infer_instance

/-- The bus messages that are reported as `Presenting`. -/
def Announces (p : Player) : Op → Prop
  | .message (.stateChanged .playbin newState) _ =>
    newState = .playing ∨ newState = .paused ∧ p.positionUpdateSource = false
  | _ => False

instance (p : Player) (op : Op) : Decidable (Announces p op) := by
  unfold Announces; split <;> infer_instance

/-- Where such a message arrives ahead of the position timer at a player that is to play, no seek has
been asked for. -/
def UnsoughtBeforePreroll (cfg : Config) (s : Playback) (op : Op) : Prop :=
  Announces s.player op → cfg.playerStatusFunction = true → s.player.info.isPaused = false →
    s.player.positionUpdateSource = false → s.request = none

instance (cfg : Config) (s : Playback) (op : Op) : Decidable (UnsoughtBeforePreroll cfg s op) := by
  unfold UnsoughtBeforePreroll; infer_instance

structure SameView (p q : Player) : Prop where
  info : q.info = p.info
  lastTicket : q.lastTicket = p.lastTicket
  lastSeek : q.lastSeek = p.lastSeek
  playbin : q.playbin = p.playbin

theorem announces_moment {p : Player} {op : Op} (announces : Announces p op) :
    ∃ q, (q, .reportPlayerState .presenting) ∈ moments p (op.actions p) ∧ SameView p q := by
  unfold Announces at announces
  split at announces
  · rename_i newState query
    rcases announces with rfl | ⟨rfl, early⟩
    · exact ⟨p, by simp [Op.actions, Player.gstBusCallback, moments], rfl, rfl, rfl, rfl⟩
    · refine ⟨p.perform .attachPositionSource, ?_, rfl, rfl, rfl, rfl⟩
      simp [Op.actions, Player.gstBusCallback, early, Player.preroll, moments]
  · exact announces.elim

theorem moment_announces {p q : Player} {op : Op}
    (h : (q, .reportPlayerState .presenting) ∈ moments p (op.actions p)) :
    Announces p op ∧ SameView p q := by
  have planned := mem_moments h
  cases op with
  | doSeek time ticket query =>
    rcases List.mem_cons.mp planned with publish | planned
    · cases publish
    · cases Player.mem_doSeekBody planned with
      | seek _ _ does => cases does
  | doPlaybackRate rate query =>
    cases Player.mem_doPlaybackRate planned with
    | seek _ _ does => cases does
  | doVolume volume => cases Player.mem_doVolume planned
  | doBounds z x y width height => rcases Player.mem_doBounds planned with order | window <;> contradiction
  | updatePosition query =>
    obtain ⟨timestamp, store⟩ := Player.mem_updatePosition planned
    cases store
  | reportInitialized | sourceChanged => simp [Op.actions] at planned
  | message received query =>
    cases Player.mem_gstBusCallback planned with
    | seek _ _ does => cases does
    | playing =>
      simp only [Op.actions, Player.gstBusCallback, reduceCtorEq, false_and, if_false, if_true, moments,
        List.mem_singleton] at h
      obtain rfl := (Prod.mk.inj h).1
      exact ⟨Or.inl rfl, rfl, rfl, rfl, rfl⟩
    | announce early =>
      refine ⟨Or.inr ⟨rfl, early⟩, ?_⟩
      simp only [Op.actions, Player.gstBusCallback, early] at h
      rcases List.mem_cons.mp h with attach | h
      · cases attach
      rcases List.mem_cons.mp h with report | h
      · obtain rfl := (Prod.mk.inj report).1
        exact ⟨rfl, rfl, rfl, rfl⟩
      · -- neither the deferred seek nor DoVolume presents
        rcases List.mem_append.mp (mem_moments h) with sought | volume
        · split at sought
          · cases sought
          · cases Player.mem_doSeekAndSpeed sought
        · cases Player.mem_doVolume volume

structure PresentInv (s : Playback) : Prop where
  rateOk : RateOk s
  early : s.player.positionUpdateSource = false → s.player.lastSeek ≠ -1
  settled : s.player.positionUpdateSource = true → s.player.info.isPaused = false → s.player.lastSeek = -1
  latest : ∀ time ticket, s.request = some (time, ticket) →
    0 < time ∧ s.player.lastTicket = ticket ∧
      (s.player.lastSeek = time ∨ s.player.lastSeek = -1 ∧ (time, ticket) ∈ s.player.playbin.flushes)

theorem initial_presentInv (cfg : Config) : PresentInv (initial cfg) where
  rateOk := initial_rateOk cfg
  early := fun _ => (by simp [initial, Player.construct, Player.perform])
  settled := fun timed => by cases timed
  latest := fun _ _ asked => by cases asked

theorem execute_carried {s : Playback} {p : Player} (inv : PresentInv s) (rate : ℚ)
    (lastTicket : p.lastTicket = s.player.lastTicket) (playbin : p.playbin = s.player.playbin)
    {time ticket : Int} (asked : s.request = some (time, ticket)) :
    (time, ticket) ∈ (p.sought s.player.lastSeek rate).playbin.flushes := by
  obtain ⟨positive, current, waiting | ⟨done, carried⟩⟩ := inv.latest time ticket asked
  · simp [waiting, Player.jumps_of_pos positive, lastTicket, current]
  · rw [done, Player.sought_flushes, if_neg p.not_jumps_neg, playbin]
    exact carried

theorem sought_presentInv {t : Playback} {p : Player} {seekTo : Int} {speedTo : ℚ} (rateOk : RateOk t)
    (after : t.player = p.sought seekTo speedTo) (timed : p.positionUpdateSource = true)
    (latest : ∀ time ticket, t.request = some (time, ticket) →
      0 < time ∧ p.lastTicket = ticket ∧ (time, ticket) ∈ (p.sought seekTo speedTo).playbin.flushes) :
    PresentInv t := by
  have done : t.player.lastSeek = -1 := by rw [after, Player.sought_lastSeek]
  refine ⟨rateOk, fun early => ?_, fun _ _ => done, fun time ticket asked => ?_⟩
  · rw [after, Player.sought_positionUpdateSource, timed] at early
    cases early
  · obtain ⟨positive, current, carried⟩ := latest time ticket asked
    rw [after] at done ⊢
    exact ⟨positive, (Player.sought_lastTicket ..).trans current, Or.inr ⟨done, carried⟩⟩

theorem step_presentInv {s t : Playback} {op : Op} (times : op.SeeksTo (0 < ·)) (inv : PresentInv s)
    (h : s.step op = some t) : PresentInv t := by
  have rateOk := step_rateOk inv.rateOk h
  cases step_turn inv.rateOk h with
  | @recorded time ticket _ early =>
    have positive : 0 < time := times _ _ rfl
    refine ⟨rateOk, fun _ => ?_, fun timed => (by cases early.symm.trans timed), ?_⟩
    · show time ≠ -1
      omega
    · rintro _ _ ⟨rfl, rfl⟩
      exact ⟨positive, rfl, Or.inl rfl⟩
  | @sought time ticket _ timed =>
    refine sought_presentInv rateOk rfl timed ?_
    rintro _ _ ⟨rfl, rfl⟩
    have positive : 0 < time := times _ _ rfl
    refine ⟨positive, rfl, ?_⟩
    rw [Player.sought_flushes, if_pos (Player.jumps_of_pos positive)]
    exact List.mem_cons_self
  | played timed =>
    refine sought_presentInv rateOk rfl timed fun time ticket asked => ?_
    obtain ⟨positive, current, _⟩ := inv.latest time ticket asked
    exact ⟨positive, current, execute_carried inv _ rfl rfl asked⟩
  | prerolledPlaying =>
    refine sought_presentInv (p := s.player.announced) rateOk rfl rfl fun time ticket asked => ?_
    obtain ⟨positive, current, _⟩ := inv.latest time ticket asked
    exact ⟨positive, current, execute_carried (p := s.player.announced) inv _ rfl rfl asked⟩
  | paused =>
    refine ⟨rateOk, inv.early, fun _ moving => (by cases moving), fun time ticket asked => ?_⟩
    have latest := inv.latest time ticket asked
    dsimp only
    split <;> exact latest
  | rateRecorded early =>
    exact ⟨rateOk, inv.early, fun timed => (by cases early.symm.trans timed), inv.latest⟩
  | prerolledPaused _ still =>
    exact ⟨rateOk, fun early => (by cases early), fun _ moving => (by cases still.symm.trans moving),
      inv.latest⟩
  | ticked => exact ⟨rateOk, inv.early, inv.settled, inv.latest⟩
  | framed _ _ frame =>
    have paused := congrArg Info.isPaused frame.info
    refine ⟨rateOk, fun early => ?_, fun timed moving => ?_, ?_⟩
    · rw [frame.lastSeek]
      exact inv.early (frame.positionUpdateSource ▸ early)
    · rw [frame.lastSeek]
      exact inv.settled (frame.positionUpdateSource ▸ timed) (paused ▸ moving)
    · simpa only [frame.lastSeek, frame.lastTicket, frame.playbin] using inv.latest

theorem Announces.request {p : Player} {op : Op} (announces : Announces p op) : op.request = none := by
  cases op with
  | doSeek => exact announces.elim
  | _ => rfl

theorem presentsSought_iff {s : Playback} {op : Op} (cfg : Config) (inv : PresentInv s) :
    PresentsSought cfg s op ↔ UnsoughtBeforePreroll cfg s op := by
  constructor
  · intro sought announces given moving early
    obtain ⟨q, moment, view⟩ := announces_moment announces
    cases asked : s.request with
    | none => rfl
    | some request =>
      obtain ⟨time, ticket⟩ := request
      obtain ⟨-, current, waiting | ⟨done, -⟩⟩ := inv.latest time ticket asked
      · have settled := sought _ moment ⟨rfl, given, by rw [view.info]; exact moving⟩ (time, ticket)
          (by rw [announces.request, asked]; rfl) (by rw [view.lastTicket]; exact current.symm)
        exact absurd (view.lastSeek.trans waiting) settled.2
      · exact absurd done (inv.early early)
  · rintro unsought m moment ⟨report, given, moving⟩ ⟨time, ticket⟩ asked _
    obtain ⟨q, action⟩ := m
    obtain rfl : action = .reportPlayerState .presenting := report
    obtain ⟨announces, view⟩ := moment_announces moment
    rw [announces.request, Option.none_or] at asked
    have moving : s.player.info.isPaused = false := by rw [← view.info]; exact moving
    obtain ⟨positive, -, carried⟩ := inv.latest time ticket asked
    cases timed : s.player.positionUpdateSource with
    | false => cases (unsought announces given moving timed).symm.trans asked
    | true =>
      have done := inv.settled timed moving
      have flushed := (carried.resolve_left (by omega)).2
      refine ⟨by rw [view.playbin]; exact flushed, ?_⟩
      rw [view.lastSeek, done]
      dsimp only
      omega

/-- `Presenting` is never announced ahead of the seek it is announced for, along a whole run,
exactly when no message announces it ahead of the position timer to a player that is to play and has
been asked to seek. -/
theorem presents_sought_iff (cfg : Config) (ops : List Op) (times : ∀ op ∈ ops, op.SeeksTo (0 < ·)) :
    Machine.Along step (PresentsSought cfg) (initial cfg) ops ↔
      Machine.Along step (UnsoughtBeforePreroll cfg) (initial cfg) ops :=
  Machine.along_iff_along PresentInv (fun op => op.SeeksTo (0 < ·))
    (fun _ _ _ positive inv _ h => step_presentInv positive inv h)
    (fun _ _ _ _ inv _ => presentsSought_iff cfg inv)
    (initial_presentInv cfg) times

theorem presents_sought_replay :
    Machine.Along step (PresentsSought ⟨0, true, true, true⟩) (initial ⟨0, true, true, true⟩)
      [.message (.stateChanged .playbin .paused) none, .doSeek 5000000000 1 none,
       .doPlaybackRate 1 none, .message (.stateChanged .playbin .playing) none] :=
  (presents_sought_iff _ _ (by decide)).mpr (by decide +kernel)

/-- A seek and a rate before preroll: the first `PAUSED` announces `Presenting` for the ticket of
the seek, and only then is the seek issued. -/
def announcedEarly : List Op :=
  [.doSeek 5000000000 1 none, .doPlaybackRate 1 none, .message (.stateChanged .playbin .paused) none]

theorem announced_early_unsought :
    (∀ op ∈ announcedEarly, op.SeeksTo (0 < ·)) ∧
      ¬ Machine.Along step (PresentsSought ⟨0, true, true, true⟩) (initial ⟨0, true, true, true⟩)
        announcedEarly := by
  decide +kernel

end Playback
end CobaltWayland
