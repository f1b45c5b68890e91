import CobaltWayland.ComingToRest
import CobaltWayland.MediaSupport

/-!
The creation of a player and its failure. Whether `Initialize` succeeds is decided by the request and
nothing else, and a client whose player was not created never hears of it: the half-built player is
destroyed without a call of any callback, however GStreamer's threads and the destructor interleave.
-/

namespace CobaltWayland
namespace System

/-- The decoders answer `Initialize` as the request has it. -/
def Answers (request : Request) (s : System) (e : Event) : Prop :=
  s.stage = .decoders → ∀ ok, e = .advance ok → ok = request.initializeDecoders.2

instance (request : Request) (s : System) (e : Event) : Decidable (Answers request s e) :=
  match e with
  | .advance ok =>
    decidable_of_iff (s.stage = .decoders → ok = request.initializeDecoders.2) (by simp [Answers])
  | .seek .. | .setPlaybackRate .. | .setVolume .. | .setBounds .. | .writeSample .. | .post .. | .sourceChanged
  | .needData .. | .consume .. | .enterLoop | .dispatchCall .. | .dispatchMessage .. | .tick .. | .resume ..
  | .act | .finish | .leaveLoop => isTrue (by simp [Answers])

/-- A player without a worker has told nobody anything. -/
structure Unborn (cfg : Config) (s : System) : Prop where
  silent : s.worker = .absent →
    s.player.lastTicket = cfg.initialTicket ∧ s.player.reports = [] ∧ s.decoderReports = []
  ended : s.stage.left < Stage.live.left → s.created = true ∨ s.worker = .absent
  live : s.stage = .live → s.created = true

theorem start_unborn (cfg : Config) : Unborn cfg (start cfg) where
  silent := fun _ => ⟨rfl, rfl, rfl⟩
  ended := by simp [start, Stage.left]
  live := by simp [start]

variable {cfg : Config} {s t : System} {e : Event}

theorem Unborn.worked (unborn : Unborn cfg s) (stage : t.stage = s.stage) (created : t.created = s.created)
    (before : s.worker ≠ .absent) (after : t.worker ≠ .absent) : Unborn cfg t where
  silent := fun absent => absurd absent after
  ended := by
    rw [stage, created]
    exact fun late => Or.inl ((unborn.ended late).resolve_right before)
  live := by rw [stage, created]; exact unborn.live

theorem Unborn.goesOn (unborn : Unborn cfg s) (worker : t.worker = s.worker)
    (ticket : t.player.lastTicket = s.player.lastTicket) (reports : t.player.reports = s.player.reports)
    (decoderReports : s.worker = .absent → t.decoderReports = s.decoderReports)
    (ended : t.stage.left < Stage.live.left → t.created = true ∨ t.worker = .absent)
    (live : t.stage = .live → t.created = true) : Unborn cfg t where
  silent := by
    intro absent
    rw [worker] at absent
    rw [ticket, reports, decoderReports absent]
    exact unborn.silent absent
  ended := ended
  live := live

theorem Unborn.reportDecoderState (unborn : Unborn cfg s) (d : Stream) (state : DecoderState)
    (absent : s.worker = .absent) : (s.reportDecoderState cfg d state).decoderReports = s.decoderReports := by
  simp [System.reportDecoderState, Player.reportDecoderState, (unborn.silent absent).1]

theorem step_unborn (ended : EndInv s) (unborn : Unborn cfg s) (h : s.step cfg e = some t) : Unborn cfg t := by
  cases step_cases h with
  | pausing | initialized | posting | waiting =>
    exact unborn.goesOn rfl rfl rfl (fun _ => rfl) (by simp [Stage.left]) (by simp)
  | failed at_ =>
    have absent := ended.sound.early (by rw [at_]; rfl)
    exact unborn.goesOn rfl rfl rfl (fun _ => rfl) (fun _ => Or.inr absent) (by simp)
  | spawning => exact ⟨by simp, by simp [Stage.left], by simp⟩
  | announcing =>
    exact unborn.goesOn rfl rfl rfl (fun _ => rfl) (fun _ => Or.inl rfl) (fun _ => rfl)
  | destroyed at_ =>
    exact unborn.goesOn rfl rfl rfl (fun _ => rfl) (fun _ => Or.inl (unborn.live at_)) (by simp)
  | stopping at_ | detaching at_ | quitting at_ | joining at_ | unreffing at_ =>
    have late : s.stage.left < Stage.live.left := by rw [at_]; decide
    exact unborn.goesOn rfl rfl rfl (fun _ => rfl) (fun _ => unborn.ended late) (by simp)
  | droppingAudio at_ | droppingVideo at_ =>
    have late : s.stage.left < Stage.live.left := by rw [at_]; decide
    exact unborn.goesOn rfl rfl rfl (unborn.reportDecoderState _ _) (fun _ => unborn.ended late) (by simp)
  | needData => exact unborn.goesOn rfl rfl rfl (unborn.reportDecoderState _ _) unborn.ended unborn.live
  | seek | called | ignored | written | posted | sourceChanged | consumed =>
    exact unborn.goesOn rfl rfl rfl (fun _ => rfl) unborn.ended unborn.live
  | entered worker | dispatchedMessage worker | ticked worker | resumed worker | finished worker | left worker =>
    exact unborn.worked rfl rfl (by simp [worker]) (by simp)
  | @dispatchedCall _ call _ idle =>
    cases call <;> exact unborn.worked rfl rfl (by simp [idle]) (by simp [dispatchCall])
  | @acted calling a todo acting =>
    exact unborn.worked (act_stage cfg s a) (act_created cfg s a) (by simp [acting]) (by simp)

structure Decided (request : Request) (s : System) : Prop where
  created : request.initializeDecoders.2 = true → s.stage.left < Stage.live.left → s.created = true
  failed : request.initializeDecoders.2 = false →
    s.created = false ∧ s.worker = .absent ∧
      (s.stage = .pausing ∨ s.stage = .decoders ∨ s.stage.left < Stage.live.left)

theorem start_decided (request : Request) (cfg : Config) : Decided request (start cfg) where
  created := by simp [start, Stage.left]
  failed := fun _ => ⟨rfl, rfl, Or.inl rfl⟩

theorem Decided.congr {request : Request} (decided : Decided request s) (stage : t.stage = s.stage)
    (created : t.created = s.created) (worker : s.worker = .absent → t.worker = .absent) :
    Decided request t where
  created := by rw [stage, created]; exact decided.created
  failed := by
    rw [stage, created]
    exact fun failing => (decided.failed failing).imp_right (And.imp_left worker)

theorem step_decided {request : Request} (unborn : Unborn cfg s) (decided : Decided request s)
    (answers : Answers request s e) (h : s.step cfg e = some t) : Decided request t := by
  have past : ∀ {stage : Stage}, s.stage = stage → stage ≠ .pausing → stage ≠ .decoders →
      ¬ stage.left < Stage.live.left → request.initializeDecoders.2 ≠ false := by
    intro stage at_ notPausing notDecoders early failing
    rcases (decided.failed failing).2.2 with pausing | decoders | late
    · exact notPausing (at_.symm.trans pausing)
    · exact notDecoders (at_.symm.trans decoders)
    · exact early (at_ ▸ late)
  cases step_cases h with
  | pausing at_ =>
    exact ⟨by simp [Stage.left], fun failing =>
      ⟨(decided.failed failing).1, (decided.failed failing).2.1, Or.inr (Or.inl rfl)⟩⟩
  | initialized at_ =>
    have succeeds := answers at_ true rfl
    exact ⟨by simp [Stage.left], fun failing => by rw [failing] at succeeds; cases succeeds⟩
  | failed at_ =>
    have fails := answers at_ false rfl
    refine ⟨fun succeeds => (by rw [succeeds] at fails; cases fails), fun failing => ?_⟩
    exact ⟨(decided.failed failing).1, (decided.failed failing).2.1, Or.inr (Or.inr (by simp [Stage.left]))⟩
  | spawning at_ | posting at_ | waiting at_ | announcing at_ =>
    have succeeds := past at_ (by simp) (by simp) (by decide)
    exact ⟨by simp [Stage.left], fun failing => absurd failing succeeds⟩
  | destroyed at_ =>
    have succeeds := past at_ (by simp) (by simp) (by decide)
    exact ⟨fun _ _ => unborn.live at_, fun failing => absurd failing succeeds⟩
  | stopping at_ | detaching at_ | quitting at_ | joining at_ | droppingAudio at_ | droppingVideo at_
  | unreffing at_ =>
    have late : s.stage.left < Stage.live.left := by rw [at_]; decide
    refine ⟨fun succeeds _ => decided.created succeeds late, fun failing => ?_⟩
    exact ⟨(decided.failed failing).1, (decided.failed failing).2.1, Or.inr (Or.inr (by simp [Stage.left]))⟩
  | entered worker | dispatchedMessage worker | ticked worker | resumed worker | finished worker | left worker =>
    exact decided.congr rfl rfl (by simp [worker])
  | @dispatchedCall _ call _ idle => cases call <;> exact decided.congr rfl rfl (by simp [idle])
  | @acted calling a todo acting =>
    exact decided.congr (act_stage cfg s a) (act_created cfg s a) (by simp [acting])
  | _ => exact decided.congr rfl rfl id

/-- A request that the decoders can serve gets its player, in every interleaving; one that they cannot
serve never does, and no callback is ever called for it. -/
theorem creation_decided (cfg : Config) (request : Request) {es : List Event} {t : System}
    (answered : Machine.Along (step cfg) (Answers request) (start cfg) es)
    (run : Machine.exec (step cfg) (start cfg) es = some t) :
    (request.initializeDecoders.2 = true → t.stage.left < Stage.live.left → t.created = true) ∧
      (request.initializeDecoders.2 = false →
        t.created = false ∧ t.player.reports = [] ∧ t.decoderReports = []) := by
  have inv : EndInv t ∧ Unborn cfg t ∧ Decided request t :=
    Machine.exec_guarded
      (fun s e u (inv : EndInv s ∧ Unborn cfg s ∧ Decided request s) (answers : Answers request s e) h =>
        ⟨step_endInv inv.1 h, step_unborn inv.1 inv.2.1 h, step_decided inv.2.1 inv.2.2 answers h⟩)
      ⟨start_endInv cfg, start_unborn cfg, start_decided request cfg⟩ answered run
  refine ⟨inv.2.2.created, fun failing => ?_⟩
  obtain ⟨uncreated, absent, -⟩ := inv.2.2.failed failing
  obtain ⟨-, reports, decoderReports⟩ := inv.2.1.silent absent
  exact ⟨uncreated, reports, decoderReports⟩

/-- The decoders fail after playbin has made its source. -/
def refused : List Event :=
  [.advance true, .sourceChanged, .advance false, .advance true, .advance true, .advance true, .advance true,
    .advance true, .advance true, .advance true]

/-- A request that is refused, and one that is accepted and whose player is destroyed again. -/
theorem creation_decided_both :
    (∃ t : System, Machine.exec (step ⟨0, true, true, true⟩) (start ⟨0, true, true, true⟩) refused = some t ∧
      t.stage = .gone ∧ t.created = false ∧ t.player.reports = [] ∧ t.decoderReports = []) ∧
    ∃ t : System, Machine.exec (step ⟨0, true, true, true⟩) (start ⟨0, true, true, true⟩)
        (startup ++ destruction) = some t ∧ t.stage = .gone ∧ t.created = true := by
  constructor
  · have ends : ((Machine.exec (step ⟨0, true, true, true⟩) (start ⟨0, true, true, true⟩) refused).any
        fun t => t.stage = .gone) = true := by decide +kernel
    obtain ⟨t, run, gone⟩ := (Option.any_eq_true _ _).mp ends
    exact ⟨t, run, by simpa using gone,
      (creation_decided _ ⟨true, .theora, .aac, none, .punchOut⟩ (by decide +kernel) run).2 rfl⟩
  · have ends : ((Machine.exec (step ⟨0, true, true, true⟩) (start ⟨0, true, true, true⟩)
        (startup ++ destruction)).any fun t => t.stage = .gone) = true := by decide +kernel
    obtain ⟨t, run, gone⟩ := (Option.any_eq_true _ _).mp ends
    have gone : t.stage = .gone := by simpa using gone
    let request : Request := ⟨true, .h264, .aac, some ⟨2, 44100, 0, 0, 16, some [18, 16]⟩, .punchOut⟩
    have created := (creation_decided _ request (by decide +kernel) run).1 (by decide +kernel)
    exact ⟨t, run, gone, created (by rw [gone]; decide)⟩

end System
end CobaltWayland
