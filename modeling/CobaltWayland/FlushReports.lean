import CobaltWayland.Refinement

/-!
What the client is told of the flushes of its pipeline. A flush throws away the samples it has written,
so it has to know of each one: it is told `Prerolling` with the ticket of the flush, and besides that
only once more, when the decoders are added to the source bin.
-/

namespace CobaltWayland

/-- An action that neither flushes nor tells of `Prerolling` nor adds the decoders. -/
def Action.quiet : Action → Bool
  | .reportPlayerState state => state ≠ .prerolling
  | .seek _ target => target.isNone
  | .registerPlayer => false
  | .publishTicket _ | .recordSeek _ | .storeInfo _ | .attachPositionSource | .setState _ | .sourceSetup
  | .setZOrder _ | .setWindow .. => true

namespace Player

/-- The tickets that `Prerolling` was reported with, oldest first. -/
def prerolls (p : Player) : List Int := (p.reports.filter fun report => report.1 = .prerolling).map Prod.snd

/-- The tickets in force at the flushing seeks, oldest first. -/
def flushTickets (p : Player) : List Int := (p.playbin.flushes.map Prod.snd).reverse

def configured (p : Player) : Bool := p.source.any CobaltSource.isConfigured

/-- There is one `Prerolling` for each flush, in order, and one for the decoders of the source bin. -/
def FlushesTold (p : Player) : Prop :=
  if p.configured then
    ∃ before ticket after, p.prerolls = before ++ ticket :: after ∧ p.flushTickets = before ++ after
  else p.prerolls = p.flushTickets

variable {p q : Player}

theorem FlushesTold.congr (told : p.FlushesTold) (configured : q.configured = p.configured)
    (prerolls : q.prerolls = p.prerolls) (flushes : q.flushTickets = p.flushTickets) : q.FlushesTold := by
  unfold FlushesTold at told ⊢
  rwa [configured, prerolls, flushes]

theorem FlushesTold.flush (told : p.FlushesTold) (ticket : Int) (configured : q.configured = p.configured)
    (prerolls : q.prerolls = p.prerolls ++ [ticket]) (flushes : q.flushTickets = p.flushTickets ++ [ticket]) :
    q.FlushesTold := by
  unfold FlushesTold at told ⊢
  rw [configured, prerolls, flushes]
  split at told
  · obtain ⟨before, registration, after, reported, flushed⟩ := told
    rename_i made
    rw [if_pos made]
    exact ⟨before, registration, after ++ [ticket], by simp [reported], by simp [flushed]⟩
  · rename_i missing
    rw [if_neg missing, told]

theorem FlushesTold.register (told : p.FlushesTold) (ticket : Int) (fresh : p.configured = false)
    (configured : q.configured = true) (prerolls : q.prerolls = p.prerolls ++ [ticket])
    (flushes : q.flushTickets = p.flushTickets) : q.FlushesTold := by
  unfold FlushesTold at told ⊢
  rw [if_neg (by simp [fresh])] at told
  rw [if_pos configured, prerolls, flushes]
  exact ⟨p.prerolls, ticket, [], rfl, by rw [List.append_nil, told]⟩

theorem perform_quiet {a : Action} (quiet : a.quiet = true) (told : p.FlushesTold) : (p.perform a).FlushesTold := by
  cases a with
  | reportPlayerState state =>
    have other : state ≠ .prerolling := by simpa [Action.quiet] using quiet
    exact told.congr rfl (by simp [prerolls, perform, other]) rfl
  | seek rate target =>
    obtain rfl : target = none := by simpa [Action.quiet] using quiet
    exact told.congr rfl rfl rfl
  | registerPlayer => cases quiet
  | sourceSetup =>
    have same : (p.perform .sourceSetup).configured = p.configured := by
      unfold configured perform
      cases p.source <;> rfl
    exact told.congr same rfl rfl
  | publishTicket | recordSeek | storeInfo | attachPositionSource | setState | setZOrder | setWindow =>
    exact told.congr rfl rfl rfl

theorem performAll_quiet {as : List Action} (quiet : ∀ a ∈ as, a.quiet = true) (told : p.FlushesTold) :
    (p.performAll as).FlushesTold := by
  induction as generalizing p with
  | nil => exact told
  | cons a as ih =>
    obtain ⟨first, rest⟩ := List.forall_mem_cons.mp quiet
    exact ih rest (perform_quiet first told)

/-! ### The functions of the worker -/

/-- A jump reports and flushes under one ticket, whatever else is done between and after. -/
theorem doSeekAndSpeed_flushesTold (told : p.FlushesTold) (query : Option Int) (seekTo : Int) (speedTo : ℚ) :
    (p.performAll (p.doSeekAndSpeed query seekTo speedTo)).FlushesTold := by
  rw [doSeekAndSpeed_eq, performAll_cons, performAll_append]
  refine performAll_quiet (by simp [Action.quiet]) ?_
  have started : (p.perform (.setState .playing)).FlushesTold := perform_quiet rfl told
  split
  · exact started.flush p.lastTicket rfl (by simp [prerolls, perform])
      (by simp [flushTickets, perform, Playbin.seek])
  · split
    · exact started
    · exact performAll_quiet (by simp [Action.quiet]) started

theorem preroll_flushesTold (told : p.FlushesTold) (query : Option Int) :
    (p.performAll (p.preroll query)).FlushesTold := by
  rw [performAll_preroll, prerolled]
  have announced : p.announced.FlushesTold := perform_quiet rfl (perform_quiet rfl told)
  split
  · exact announced
  · exact doSeekAndSpeed_flushesTold announced none p.lastSeek p.info.playbackRate

theorem gstBusCallback_flushesTold (told : p.FlushesTold) (query : Option Int) (message : Message) :
    (p.performAll (p.gstBusCallback query message)).FlushesTold := by
  unfold gstBusCallback
  split
  · exact performAll_quiet (by simp [Action.quiet]) told
  · split
    · exact preroll_flushesTold told query
    · split
      · exact performAll_quiet (by simp [Action.quiet]) told
      · exact told
  · split
    · exact told
    · rename_i src made
      split
      · rename_i first
        have fresh : src.isConfigured = false := by simpa using first.2
        refine told.register p.lastTicket (by simp [configured, made, fresh]) ?_ ?_ rfl
        · simp [configured, perform, made, CobaltSource.isConfigured, CobaltSource.registerPlayer]
        · simp [prerolls, perform]
      · exact told
  all_goals exact told

end Player

theorem Op.actions_flushesTold {p : Player} (told : p.FlushesTold) (op : Op) :
    (p.performAll (op.actions p)).FlushesTold := by
  cases op with
  | reportInitialized | sourceChanged => exact Player.performAll_quiet (by simp [Op.actions, Action.quiet]) told
  | doSeek time ticket query =>
    have published : (p.perform (.publishTicket ticket)).FlushesTold := told.congr rfl rfl rfl
    simp only [Op.actions, Player.doSeek, Player.performAll_cons, Player.doSeekBody]
    split
    · exact Player.doSeekAndSpeed_flushesTold published query time _
    · exact published.congr rfl rfl rfl
  | doPlaybackRate rate query =>
    simp only [Op.actions, Player.doPlaybackRate]
    split
    · exact Player.doSeekAndSpeed_flushesTold told query p.lastSeek rate
    · refine Player.performAll_quiet ?_ told
      split <;> simp [Action.quiet]
  | doVolume volume => exact told.congr rfl rfl rfl
  | doBounds z x y width height =>
    refine Player.performAll_quiet (fun a planned => ?_) told
    rcases Player.mem_doBounds planned with rfl | rfl <;> rfl
  | updatePosition query =>
    refine Player.performAll_quiet (fun a planned => ?_) told
    obtain ⟨timestamp, rfl⟩ := Player.mem_updatePosition planned
    rfl
  | message received query => exact Player.gstBusCallback_flushesTold told query received

namespace System

/-- However the threads interleave, between two functions of the worker the client has been told of
each flush, with its ticket and in the order of the flushes, and of nothing else but the registration of
the decoders, once. -/
theorem flushes_told (cfg : Config) {es : List Event} {t : System}
    (run : Machine.exec (step cfg) (start cfg) es = some t) (alive : t.stage.stopped = false)
    (idle : t.worker = .idle) : t.player.FlushesTold := by
  obtain ⟨b, worker, refines⟩ := run_refines cfg run
  rw [← ((refines alive).idle idle).2]
  have kept : ∀ (s : Playback) op u, s.player.FlushesTold → s.step op = some u → u.player.FlushesTold := by
    intro s op u told h
    obtain ⟨-, rfl⟩ := Playback.step_performs h
    exact Op.actions_flushesTold told op
  have initial : (Playback.initial cfg).player.FlushesTold := Player.perform_quiet rfl (p := Player.construct cfg) rfl
  exact Machine.exec_invariant kept initial worker

/-- A seek that waits for preroll and one that does not. -/
def flushedTwice : List Event :=
  startup ++ registration ++
    ([.seek 5 7, .dispatchCall none, .resume none, .act, .finish, .setPlaybackRate 1, .dispatchCall none, .act,
      .finish, .post (.stateChanged .playbin .paused), .dispatchMessage none, .act, .act, .act, .act, .act, .act, .act,
      .act, .finish, .seek 6 9, .dispatchCall none, .resume none, .act, .act, .act, .act, .act, .finish] : List Event)

theorem flushes_told_replay :
    ∃ t : System, Machine.exec (step ⟨0, true, true, true⟩) (start ⟨0, true, true, true⟩) flushedTwice = some t ∧
      t.player.flushTickets = [7, 9] ∧ t.player.FlushesTold := by
  have runs : ((Machine.exec (step ⟨0, true, true, true⟩) (start ⟨0, true, true, true⟩) flushedTwice).any fun t =>
      t.stage.stopped = false ∧ t.worker = .idle ∧ t.player.flushTickets = [7, 9]) = true := by decide +kernel
  obtain ⟨t, run, ends⟩ := (Option.any_eq_true _ _).mp runs
  obtain ⟨alive, idle, flushed⟩ := of_decide_eq_true ends
  exact ⟨t, run, flushed, flushes_told _ run alive idle⟩

end System
end CobaltWayland
