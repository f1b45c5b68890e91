import CobaltWayland.CallOrder
import CobaltWayland.EndOfStream
import CobaltWayland.Presenting
import CobaltWayland.Refinement

/-!
What the running system has from its worker. The run of the worker that the threads amount to serves
the client's calls in the order they were made, and facts about such runs carry over to every
interleaving of the threads: the source bin is made once and registered once, and a seek past the start
is recorded or issued, never dropped.
-/

namespace CobaltWayland

/-- The call of the client that an operation serves. -/
def Op.asked : Op → Option Call
  | .doSeek time ticket _ => some (.doSeek time ticket)
  | .doPlaybackRate rate _ => some (.doPlaybackRate rate)
  | .doVolume volume => some (.doVolume volume)
  | .doBounds z x y width height => some (.doBounds z x y width height)
  | .reportInitialized | .updatePosition _ | .message .. | .sourceChanged => none

def Call.target : Call → Option (Int × Int)
  | .doSeek time ticket => some (time, ticket)
  | _ => none

/-- `Initialize` queues the other calls. -/
def Call.ofClient : Call → Bool
  | .put | .reportInitialized => false
  | .doSeek .. | .doPlaybackRate _ | .doVolume _ | .doBounds .. => true

namespace System

/-- A `DoSeek` that has stored its ticket and not gone on. -/
def begun (s : System) : List Call :=
  match s.worker with
  | .seeking _ => s.calls.take 1
  | .absent | .created | .idle | .acting .. | .finished => []

variable {cfg : Config} {s t : System} {e : Event}

theorem begun_free (free : ∀ time, s.worker ≠ .seeking time) : s.begun = [] := by
  unfold begun
  split
  · rename_i time seeking
    exact absurd seeking (free time)
  all_goals rfl

theorem begun_grows {more : List Call} (sound : Sound s) (worker : t.worker = s.worker)
    (calls : t.calls = s.calls ++ more) : t.begun = s.begun := by
  unfold begun
  rw [worker]
  cases at_ : s.worker with
  | seeking time =>
    obtain ⟨ticket, rest, head⟩ := sound.seeking time at_
    rw [calls, head]
    rfl
  | absent | created | idle | acting | finished => rfl

theorem queued_ofClient (s : System) (e : Event) : (s.queued e).filter Call.ofClient = e.request.toList := by
  rcases queued_cases s e with same | ⟨none, first | second⟩
  · rw [same]
    cases e with
    | setPlaybackRate | setVolume =>
      simp only [Event.request]
      split <;> rfl
    | _ => rfl
  · rw [first, none]
    rfl
  · rw [second, none]
    rfl

theorem step_served (sound : Sound s) (alive : s.stage.stopped = false) (h : s.step cfg e = some t) :
    (s.ops e).filterMap Op.asked ++ t.begun.filter Call.ofClient =
      s.begun.filter Call.ofClient ++ (s.taken e).filter Call.ofClient := by
  -- a step that neither begins a call nor serves one
  have quiet : (s.ops e).filterMap Op.asked = [] → s.taken e = [] → t.begun = s.begun →
      (s.ops e).filterMap Op.asked ++ t.begun.filter Call.ofClient =
        s.begun.filter Call.ofClient ++ (s.taken e).filter Call.ofClient := by
    intro none untaken same
    rw [none, untaken, same, List.nil_append, List.filter_nil, List.append_nil]
  have moves : (∀ time, s.worker ≠ .seeking time) → (∀ time, t.worker ≠ .seeking time) → t.begun = s.begun :=
    fun before after => (begun_free after).trans (begun_free before).symm
  cases step_cases h with
  | called _ _ _ client | ignored _ client =>
    obtain ⟨worker, -, calls⟩ := client_queues client h
    exact quiet (by rw [ops_of_client client]; rfl) (queued_client client s).2 (begun_grows sound worker calls)
  | seek | posting | announcing => exact quiet (by simp [ops, alive]) rfl (begun_grows sound rfl rfl)
  | pausing | initialized | failed | waiting | destroyed | stopping | detaching | quitting | joining
  | droppingAudio | droppingVideo | unreffing | written | posted | needData | consumed =>
    exact quiet (by simp [ops, alive]) rfl (begun_grows sound rfl (List.append_nil _).symm)
  | sourceChanged =>
    exact quiet (by simp [ops, alive, Op.asked]) rfl (begun_grows sound rfl (List.append_nil _).symm)
  | spawning at_ =>
    have absent := sound.early (by rw [at_]; rfl)
    exact quiet (by simp [ops, alive]) rfl (moves (by simp [absent]) (by simp))
  | entered created => exact quiet (by simp [ops, alive]) rfl (moves (by simp [created]) (by simp))
  | left idle => exact quiet (by simp [ops, alive]) rfl (moves (by simp [idle]) (by simp))
  | acted acting => exact quiet (by simp [ops, alive]) rfl (moves (by simp [acting]) (by simp))
  | finished acting => exact quiet (by simp [ops, alive]) rfl (moves (by simp [acting]) (by simp))
  | ticked idle => exact quiet (by simp [ops, alive, Op.asked]) rfl (moves (by simp [idle]) (by simp))
  | dispatchedMessage idle head =>
    exact quiet (by simp [ops, alive, head, Op.asked]) rfl (moves (by simp [idle]) (by simp))
  | @dispatchedCall query call rest idle head =>
    rw [begun_free (s := s) (by simp [idle])]
    cases call <;> simp [ops, alive, taken, begun, dispatchCall, perform, head, Op.asked, Call.ofClient, List.filter_cons]
  | @resumed query time seeking =>
    obtain ⟨ticket, rest, head⟩ := sound.seeking time seeking
    simp [ops, alive, taken, begun, seeking, head, Op.asked, Call.ofClient, List.filter_cons]

theorem run_served (cfg : Config) {es : List Event} {t : System}
    (run : Machine.exec (step cfg) (start cfg) es = some t) (alive : t.stage.stopped = false) :
    (Machine.labels (step cfg) ops (start cfg) es).filterMap Op.asked ++
        (t.begun ++ t.pending).filter Call.ofClient = es.filterMap Event.request := by
  have served : Sound t ∧ (t.stage.stopped = false →
      (Machine.labels (step cfg) ops (start cfg) es).filterMap Op.asked ++
        (t.begun ++ t.pending).filter Call.ofClient = es.filterMap Event.request) := by
    refine Machine.exec_logged
      (fun past log s => Sound s ∧ (s.stage.stopped = false →
        log.filterMap Op.asked ++ (s.begun ++ s.pending).filter Call.ofClient = past.filterMap Event.request))
      ?_ ⟨start_sound cfg, fun _ => rfl⟩ run
    rintro past log s e u ⟨sound, asked⟩ h
    refine ⟨step_sound sound h, fun running => ?_⟩
    have alive : s.stage.stopped = false := by
      by_contra stopped
      rw [stopped_lasts h (by simpa using stopped)] at running
      cases running
    have queue := congrArg (List.filter Call.ofClient) (step_pending sound h)
    simp only [List.filter_append, queued_ofClient] at queue asked ⊢
    calc (log ++ s.ops e).filterMap Op.asked ++ (u.begun.filter Call.ofClient ++ u.pending.filter Call.ofClient)
        = log.filterMap Op.asked ++ (((s.ops e).filterMap Op.asked ++ u.begun.filter Call.ofClient) ++
            u.pending.filter Call.ofClient) := by simp
      _ = (log.filterMap Op.asked ++ (s.begun.filter Call.ofClient ++ s.pending.filter Call.ofClient)) ++
            e.request.toList := by rw [step_served sound alive h, List.append_assoc, queue]; simp
      _ = (past ++ [e]).filterMap Event.request := by
        rw [asked alive, List.filterMap_append]
        rfl
  exact served.2 alive

theorem run_served_idle (cfg : Config) {es : List Event} {t : System}
    (run : Machine.exec (step cfg) (start cfg) es = some t) (alive : t.stage.stopped = false)
    (idle : t.worker = .idle) :
    (Machine.labels (step cfg) ops (start cfg) es).filterMap Op.asked ++ t.calls.filter Call.ofClient =
      es.filterMap Event.request := by
  have served := run_served cfg run alive
  have waiting : t.begun ++ t.pending = t.calls := by
    rw [begun_free (by simp [idle]), List.nil_append]
    simp [pending, serving, idle]
  rwa [waiting] at served

/-- Whenever the worker is between two functions, all that its functions have left behind, the log of
its reports included, is what it leaves behind when it runs alone, each function is one step and the
client's calls are served in the order they were made, up to those that still wait. -/
theorem worker_as_if_alone (cfg : Config) {es : List Event} {t : System}
    (run : Machine.exec (step cfg) (start cfg) es = some t) (alive : t.stage.stopped = false)
    (idle : t.worker = .idle) :
    ∃ b, Machine.exec Playback.step (Playback.initial cfg)
        (Machine.labels (step cfg) ops (start cfg) es) = some b ∧ b.player = t.player ∧
      (Machine.labels (step cfg) ops (start cfg) es).filterMap Op.asked ++ t.calls.filter Call.ofClient =
        es.filterMap Event.request := by
  obtain ⟨b, worker, refines⟩ := run_refines cfg run
  exact ⟨b, worker, ((refines alive).idle idle).2, run_served_idle cfg run alive idle⟩

/-- A seek with samples written and bounds asked for in the middle of it. -/
def interruptedSeek : List Event :=
  startup ++ registration ++
    ([.seek 5 7, .dispatchCall none, .needData .audio, .writeSample .audio true, .setBounds 1 0 0 640 480,
      .resume none, .act, .finish] : List Event)

theorem worker_as_if_alone_replay :
    ∃ t : System, Machine.exec (step ⟨0, true, true, true⟩) (start ⟨0, true, true, true⟩) interruptedSeek = some t ∧
      ∃ b, Machine.exec Playback.step (Playback.initial ⟨0, true, true, true⟩)
          (Machine.labels (step ⟨0, true, true, true⟩) ops (start ⟨0, true, true, true⟩) interruptedSeek) = some b ∧
        b.player = t.player ∧
        (Machine.labels (step ⟨0, true, true, true⟩) ops (start ⟨0, true, true, true⟩) interruptedSeek).filterMap
          Op.asked ++ t.calls.filter Call.ofClient = [.doSeek 5000 7, .doBounds 0 0 0 640 480] := by
  have runs : ((Machine.exec (step ⟨0, true, true, true⟩) (start ⟨0, true, true, true⟩) interruptedSeek).any
      fun t => t.stage.stopped = false ∧ t.worker = .idle) = true := by decide +kernel
  obtain ⟨t, run, ends⟩ := (Option.any_eq_true _ _).mp runs
  obtain ⟨alive, idle⟩ := of_decide_eq_true ends
  obtain ⟨b, worker, same, served⟩ := worker_as_if_alone _ run alive idle
  have made : interruptedSeek.filterMap Event.request = [.doSeek 5000 7, .doBounds 0 0 0 640 480] := by
    decide +kernel
  exact ⟨t, run, b, worker, same, served.trans made⟩

end System

namespace Player

theorem performAll_source {p : Player} {as : List Action} (planned : ∀ a ∈ as, a.Planned false) :
    (p.performAll as).source = p.source := by
  induction as generalizing p with
  | nil => rfl
  | cons a as ih =>
    obtain ⟨first, rest⟩ := List.forall_mem_cons.mp planned
    have same : (p.perform a).source = p.source := by
      cases a with
      | registerPlayer => cases first
      | sourceSetup => exact first.elim
      | _ => rfl
    exact (ih rest).trans same

/-- The source bin is made once, empty, and has the decoders added to it once. -/
def SourceMade (p : Player) : Prop :=
  p.source = none ∨ p.source = some {} ∨ p.source = some Segment.registered.src

theorem SourceMade.congr {p q : Player} (made : p.SourceMade) (same : q.source = p.source) : q.SourceMade := by
  rwa [SourceMade, same]

theorem gstBusCallback_sourceMade {p : Player} (made : p.SourceMade)
    (rateOk : rateThreshold ≤ p.info.playbackRate) (query : Option Int) (message : Message) :
    (p.performAll (p.gstBusCallback query message)).SourceMade := by
  cases message with
  | stateChanged sender newState =>
    cases sender with
    | playbin =>
      have plain : ∀ a ∈ p.gstBusCallback query (.stateChanged .playbin newState), a.Planned false := by
        intro a h
        cases mem_gstBusCallback h with
        | attach => trivial
        | announce | playing => simp [Action.Planned]
        | seek _ _ does => exact does.planned rateOk
        | volume _ rate => exact rateOk.trans_eq rate.symm
      exact made.congr (performAll_source plain)
    | source =>
      simp only [gstBusCallback]
      split
      · exact made
      · rename_i src found
        split
        · rename_i first
          -- the source that is not configured yet is the empty one
          have fresh : src = {} := by
            rcases made with none | fresh | registered
            · cases none.symm.trans found
            · exact Option.some.inj (found.symm.trans fresh)
            · obtain rfl := Option.some.inj (found.symm.trans registered)
              exact absurd rfl first.2
          subst fresh
          have added : (p.perform .registerPlayer).source = some Segment.registered.src := by
            simp only [perform, found]
            rfl
          exact Or.inr (Or.inr added)
        · exact made
    | other => exact made
  | asyncDone | error | warning | eos | other => exact made

end Player

namespace Playback

theorem step_sourceMade {s t : Playback} {op : Op} (made : s.player.SourceMade) (rateOk : RateOk s)
    (h : s.step op = some t) : t.player.SourceMade := by
  obtain ⟨-, rfl⟩ := step_performs h
  cases op with
  | reportInitialized => exact made
  | doSeek time ticket query =>
    exact made.congr (Player.performAll_source (p := s.player.perform (.publishTicket ticket))
      (Player.doSeekBody_planned time))
  | doPlaybackRate rate query =>
    exact made.congr (Player.performAll_source (Player.doPlaybackRate_planned rateOk rate))
  | doVolume volume => exact made.congr (Player.performAll_source (Player.doVolume_planned rateOk volume))
  | doBounds z x y width height =>
    exact made.congr (Player.performAll_source (Player.doBounds_planned z x y width height))
  | updatePosition query => exact made.congr (Player.performAll_source (Player.updatePosition_planned rateOk))
  | message received query => exact Player.gstBusCallback_sourceMade made rateOk query received
  | sourceChanged =>
    rcases made with none | fresh | registered
    · exact Or.inr (Or.inl (by simp [Op.actions, Player.perform, none]))
    · exact Or.inr (Or.inl (by simp [Op.actions, Player.perform, fresh]))
    · exact Or.inr (Or.inr (by simp [Op.actions, Player.perform, registered]))

/-- The request in force is the last one served. -/
theorem run_request {s b : Playback} {ops : List Op} (run : Machine.exec step s ops = some b) :
    b.request = (ops.filterMap Op.request).getLast?.or s.request := by
  induction ops generalizing s with
  | nil =>
    obtain rfl := Option.some.inj run
    rfl
  | cons op ops ih =>
    obtain ⟨u, first, rest⟩ := Machine.exec_cons.mp run
    obtain ⟨_, rfl⟩ := Option.ite_some_none_eq_some.mp first
    rw [ih rest]
    cases asked : op.request with
    | none => rw [List.filterMap_cons_none asked, Option.none_or]
    | some target =>
      rw [List.filterMap_cons_some asked, List.getLast?_cons, Option.some_or]
      cases (ops.filterMap Op.request).getLast? <;> rfl

end Playback

namespace System

theorem idle_sourceMade (cfg : Config) {es : List Event} {t : System}
    (run : Machine.exec (step cfg) (start cfg) es = some t) (alive : t.stage.stopped = false)
    (idle : t.worker = .idle) : t.player.SourceMade := by
  obtain ⟨b, worker, refines⟩ := run_refines cfg run
  have made : Playback.RateOk b ∧ b.player.SourceMade :=
    Machine.exec_invariant
      (fun b _ _ (inv : Playback.RateOk b ∧ b.player.SourceMade) h =>
        ⟨Playback.step_rateOk inv.1 h, Playback.step_sourceMade inv.2 inv.1 h⟩)
      ⟨Playback.initial_rateOk cfg, Or.inl rfl⟩ worker
  rw [← ((refines alive).idle idle).2]
  exact made.2

def Event.target : Event → Option (Int × Int)
  | .seek seekToPts ticket => some (sbTimeToGstTime seekToPts, ticket)
  | _ => none

theorem filterMap_target (es : List Event) :
    es.filterMap Event.target = (es.filterMap Event.request).filterMap Call.target := by
  rw [List.filterMap_filterMap]
  apply List.filterMap_congr
  intro e _
  cases e with
  | setPlaybackRate | setVolume =>
    simp only [Event.request]
    split <;> rfl
  | _ => rfl

theorem filterMap_asked (ops : List Op) : (ops.filterMap Op.asked).filterMap Call.target = ops.filterMap Op.request := by
  rw [List.filterMap_filterMap]
  apply List.filterMap_congr
  intro op _
  cases op <;> rfl

theorem filterMap_ofClient (calls : List Call) :
    (calls.filter Call.ofClient).filterMap Call.target = calls.filterMap Call.target := by
  rw [List.filterMap_filter]
  apply List.filterMap_congr
  intro call _
  cases call <;> rfl

/-- The client's seeks are those served and those that still wait. -/
theorem run_targets (cfg : Config) {es : List Event} {t : System}
    (run : Machine.exec (step cfg) (start cfg) es = some t) (alive : t.stage.stopped = false)
    (idle : t.worker = .idle) :
    es.filterMap Event.target =
      (Machine.labels (step cfg) ops (start cfg) es).filterMap Op.request ++ t.calls.filterMap Call.target := by
  rw [filterMap_target, ← run_served_idle cfg run alive idle, List.filterMap_append, filterMap_asked,
    filterMap_ofClient]

def Event.SeeksForward (e : Event) : Prop :=
  ∀ seekToPts ticket, e = .seek seekToPts ticket → 0 < seekToPts

theorem target_forward {es : List Event} (seeks : ∀ e ∈ es, e.SeeksForward) {time ticket : Int}
    (asked : (time, ticket) ∈ es.filterMap Event.target) : 0 < time := by
  obtain ⟨e, listed, target⟩ := List.mem_filterMap.mp asked
  cases e with
  | seek seekToPts ticket' =>
    have positive := seeks _ listed seekToPts ticket' rfl
    obtain ⟨rfl, rfl⟩ := Prod.mk.inj (Option.some.inj target)
    unfold sbTimeToGstTime
    omega
  | _ => cases target

/-- A seek past the start is never dropped: whenever the worker is between two functions, the last of
those it has served is the one in force, and it is still recorded or has been issued with its ticket. -/
theorem seek_kept (cfg : Config) {es : List Event} {t : System} (seeks : ∀ e ∈ es, e.SeeksForward)
    (run : Machine.exec (step cfg) (start cfg) es = some t) (alive : t.stage.stopped = false)
    (idle : t.worker = .idle) :
    ∃ served, es.filterMap Event.target = served ++ t.calls.filterMap Call.target ∧
      ∀ time ticket, served.getLast? = some (time, ticket) →
        t.player.lastTicket = ticket ∧
          (t.player.lastSeek = time ∨ t.player.lastSeek = -1 ∧ (time, ticket) ∈ t.player.playbin.flushes) := by
  obtain ⟨b, worker, refines⟩ := run_refines cfg run
  have split := run_targets cfg run alive idle
  have forward : ∀ op ∈ Machine.labels (step cfg) ops (start cfg) es, op.SeeksTo (0 < ·) := by
    intro op listed time ticket target
    apply target_forward seeks
    rw [split]
    exact List.mem_append_left _ (List.mem_filterMap.mpr ⟨op, listed, target⟩)
  have kept : Playback.PresentInv b :=
    Machine.exec_guarded (fun _ _ _ inv times h => Playback.step_presentInv times inv h)
      (Playback.initial_presentInv cfg) (Machine.along_of_forall forward _) worker
  refine ⟨_, split, fun time ticket last => ?_⟩
  have inForce : b.request = some (time, ticket) := by
    rw [Playback.run_request worker, last]
    rfl
  rw [← ((refines alive).idle idle).2]
  exact (kept.latest time ticket inForce).2

instance (e : Event) : Decidable e.SeeksForward :=
  match e with
  | .seek seekToPts ticket => decidable_of_iff (0 < seekToPts) (by simp [Event.SeeksForward])
  | .advance .. | .setPlaybackRate .. | .setVolume .. | .setBounds .. | .writeSample .. | .post .. | .sourceChanged
  | .needData .. | .consume .. | .enterLoop | .dispatchCall .. | .dispatchMessage .. | .tick .. | .resume ..
  | .act | .finish | .leaveLoop => isTrue (by simp [Event.SeeksForward])

/-- A second seek overtakes the first one, which still waits for preroll. -/
def overtakenSeek : List Event :=
  startup ++ registration ++
    ([.seek 5 7, .seek 6 9, .dispatchCall none, .resume none, .act, .finish, .dispatchCall none, .resume none, .act,
      .finish] : List Event)

theorem seek_kept_replay :
    ∃ t : System, Machine.exec (step ⟨0, true, true, true⟩) (start ⟨0, true, true, true⟩) overtakenSeek = some t ∧
      ∃ served, [(5000, 7), (6000, 9)] = served ++ t.calls.filterMap Call.target ∧
        ∀ time ticket, served.getLast? = some (time, ticket) →
          t.player.lastTicket = ticket ∧
            (t.player.lastSeek = time ∨ t.player.lastSeek = -1 ∧ (time, ticket) ∈ t.player.playbin.flushes) := by
  have runs : ((Machine.exec (step ⟨0, true, true, true⟩) (start ⟨0, true, true, true⟩) overtakenSeek).any fun t =>
      t.stage.stopped = false ∧ t.worker = .idle) = true := by decide +kernel
  obtain ⟨t, run, ends⟩ := (Option.any_eq_true _ _).mp runs
  obtain ⟨alive, idle⟩ := of_decide_eq_true ends
  have asked : overtakenSeek.filterMap Event.target = [(5000, 7), (6000, 9)] := by decide +kernel
  obtain ⟨served, split, last⟩ := seek_kept ⟨0, true, true, true⟩ (by decide +kernel) run alive idle
  exact ⟨t, run, served, asked.symm.trans split, last⟩

end System
end CobaltWayland
