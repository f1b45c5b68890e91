import CobaltWayland.LiveSystem

/-!
The source bin of the running player. The appsrcs post their ends of stream from threads of their own,
between any two steps of the system, and the bin marks their pads. Nothing that the player does depends on a
mark or takes one off, so that the bin is what one registration and these messages have made of it.
-/

namespace CobaltWayland

def CobaltSource.marked (src : CobaltSource Stream) (marks : List Stream) : CobaltSource Stream :=
  { src with eosMarks := marks ++ src.eosMarks }

namespace Player
variable {p : Player} {marks : List Stream}

/-- The player with further marks on the pads of its source bin. -/
def marked (p : Player) (marks : List Stream) : Player :=
  { p with source := p.source.map fun src => src.marked marks }

theorem perform_marked (made : p.source = none → marks = []) (a : Action) :
    (p.marked marks).perform a = (p.perform a).marked marks := by
  cases a with
  | sourceSetup =>
    cases source : p.source with
    | none =>
      obtain rfl := made source
      simp [perform, marked, source, CobaltSource.marked]
    | some src => simp [perform, marked, source]
  | registerPlayer =>
    cases source : p.source with
    | none => simp [perform, marked, source]
    | some src =>
      simp only [perform, marked, source, Option.map_some]
      rfl
  | _ => rfl

theorem perform_source_none {a : Action} (absent : (p.perform a).source = none) : p.source = none := by
  cases a with
  | sourceSetup => cases source : p.source <;> simp [perform, source] at absent ⊢
  | registerPlayer => exact Option.map_eq_none_iff.mp absent
  | _ => exact absent

theorem performAll_marked (made : p.source = none → marks = []) (as : List Action) :
    (p.marked marks).performAll as = (p.performAll as).marked marks := by
  induction as generalizing p with
  | nil => rfl
  | cons a as ih =>
    rw [performAll_cons, performAll_cons, perform_marked made]
    exact ih fun absent => made (perform_source_none absent)

theorem gstBusCallback_marked (made : p.source = none → marks = []) (query : Option Int) (message : Message) :
    (p.marked marks).gstBusCallback query message = p.gstBusCallback query message := by
  have preroll : (p.marked marks).preroll query = p.preroll query := by
    unfold Player.preroll
    dsimp only
    rw [performAll_marked made]
    rfl
  unfold gstBusCallback
  split
  · rfl
  · rw [preroll]
    rfl
  · cases source : p.source with
    | none => simp [marked, source]
    | some src => simp [marked, source, CobaltSource.isConfigured, CobaltSource.marked]
  all_goals rfl

end Player

namespace System
variable {cfg : Config} {s t : System} {marks : List Stream}

def marked (s : System) (marks : List Stream) : System := { s with player := s.player.marked marks }

theorem registered_marked (s : System) (marks : List Stream) (d : Stream) :
    (s.marked marks).registered d = s.registered d := by
  unfold registered
  cases source : s.player.source with
  | none => simp [marked, Player.marked, source]
  | some src => simp [marked, Player.marked, source, CobaltSource.marked]

theorem perform_marked (made : s.player.source = none → marks = []) (a : Action) :
    (s.marked marks).perform a = (s.perform a).marked marks := by
  unfold perform marked
  rw [Player.perform_marked made]

theorem seekData_marked (cfg : Config) (s : System) (marks : List Stream) (d : Stream) :
    (s.marked marks).seekData cfg d = (s.seekData cfg d).marked marks := by
  unfold seekData
  rw [registered_marked]
  split <;> rfl

theorem flush_marked (cfg : Config) (s : System) (marks : List Stream) :
    (s.marked marks).flush cfg = (s.flush cfg).marked marks := by
  unfold flush
  dsimp only
  rw [seekData_marked, seekData_marked]
  rfl

theorem act_marked (made : s.player.source = none → marks = []) (a : Action) :
    (s.marked marks).act cfg a = (s.act cfg a).marked marks := by
  unfold act
  split
  · rw [perform_marked made, flush_marked]
  · exact perform_marked made _

theorem advance_marked (made : s.player.source = none → marks = []) (ok : Bool) :
    (s.marked marks).advance cfg ok = (s.advance cfg ok).map (·.marked marks) := by
  have stage : (s.marked marks).stage = s.stage := rfl
  unfold advance
  rw [stage]
  split
  case h_1 | h_8 =>
    rw [perform_marked made]
    rfl
  case h_5 =>
    have started : (s.marked marks).started = s.started := rfl
    rw [started]
    split <;> rfl
  case h_11 =>
    have worker : (s.marked marks).worker = s.worker := rfl
    rw [worker]
    split <;> rfl
  all_goals rfl

@[simp] theorem marked_worker : (s.marked marks).worker = s.worker := rfl

@[simp] theorem marked_calls : (s.marked marks).calls = s.calls := rfl

@[simp] theorem marked_bus : (s.marked marks).bus = s.bus := rfl

@[simp] theorem marked_appsrc : (s.marked marks).appsrc = s.appsrc := rfl

theorem guard_marked {c d : Prop} [Decidable c] [Decidable d] (same : c ↔ d) (next : s = t.marked marks) :
    (if c then some s else none) = (if d then some t else none).map (·.marked marks) := by
  subst next
  by_cases holds : d
  · rw [if_pos holds, if_pos (same.mpr holds)]
    rfl
  · rw [if_neg holds, if_neg (holds ∘ same.mp)]
    rfl

theorem unless_marked {c d : Prop} [Decidable c] [Decidable d] (same : c ↔ d) (next : s = t.marked marks) :
    (if c then none else some s) = (if d then none else some t).map (·.marked marks) := by
  have guarded := guard_marked (not_congr same) next
  rwa [ite_not, ite_not] at guarded

/-- The marks are of no matter to a step, and no step takes one off. -/
theorem step_marked (made : s.player.source = none → marks = []) (e : Event) :
    (s.marked marks).step cfg e = (s.step cfg e).map (·.marked marks) := by
  cases e with
  | advance ok => exact advance_marked made ok
  | seek | setBounds | enterLoop | tick => exact guard_marked Iff.rfl rfl
  | post => exact unless_marked Iff.rfl rfl
  | setPlaybackRate | setVolume | writeSample =>
    refine guard_marked Iff.rfl ?_
    split <;> rfl
  | sourceChanged => exact unless_marked Iff.rfl (perform_marked made .sourceSetup)
  | needData d => exact guard_marked (by rw [registered_marked]; rfl) rfl
  | leaveLoop =>
    refine guard_marked Iff.rfl ?_
    rw [perform_marked made]
    rfl
  | consume d =>
    simp only [step, marked_appsrc]
    split
    · rfl
    · exact unless_marked Iff.rfl rfl
  | dispatchCall query =>
    simp only [step, marked_worker, marked_calls]
    split
    · rename_i call _ _ _
      cases call <;> rfl
    · rfl
  | dispatchMessage query =>
    have player : (s.marked marks).player = s.player.marked marks := rfl
    simp only [step, marked_worker, marked_bus, player, Player.gstBusCallback_marked made]
    split <;> rfl
  | resume query =>
    simp only [step, marked_worker]
    split <;> rfl
  | act =>
    simp only [step, marked_worker, act_marked made]
    split <;> rfl
  | finish =>
    simp only [step, marked_worker]
    split <;> rfl

/-! ### The decoders stay in the bin -/

theorem registered_iff {d : Stream} :
    s.registered d = true ↔ ∃ src, s.player.source = some src ∧ d ∈ src.children := by
  unfold registered
  cases source : s.player.source with
  | none => simp
  | some src => simp

theorem registered_perform {d : Stream} (inBin : s.registered d = true) (a : Action) :
    (s.perform a).registered d = true := by
  obtain ⟨src, source, child⟩ := registered_iff.mp inBin
  rw [registered_iff]
  cases a with
  | registerPlayer =>
    refine ⟨src.registerPlayer .audio .video, by simp [perform, Player.perform, source], ?_⟩
    simp only [CobaltSource.registerPlayer, CobaltSource.registerDecoder, List.foldl_cons, List.foldl_nil]
    split <;> split <;> simp [child]
  | sourceSetup => exact ⟨src, by simp [perform, Player.perform, source], child⟩
  | _ => exact ⟨src, source, child⟩

theorem step_registered {e : Event} {d : Stream} (inBin : s.registered d = true) (h : s.step cfg e = some t) :
    t.registered d = true := by
  cases step_cases h with
  | pausing | stopping | sourceChanged | left => exact registered_perform inBin _
  | @acted _ a =>
    have performed := registered_perform inBin a
    rw [registered_iff] at performed ⊢
    simpa [perform] using performed
  | @dispatchedCall query call =>
    cases call with
    | doSeek time ticket => exact registered_perform inBin (.publishTicket ticket)
    | _ => exact inBin
  | _ => exact inBin

end System

/-! ### The bin among the threads -/

inductive BinEvent where
  | system (e : System.Event)
  /-- The EOS message of an appsrc reaches the source bin. -/
  | eos (sender : Stream)
  deriving DecidableEq, Repr

def BinEvent.inSystem : BinEvent → Option System.Event
  | .system e => some e
  | .eos _ => none

namespace System
variable {cfg : Config} {s t : System}

/-- `CobaltSourceHandleMessage`. -/
def handleEos (s : System) (sender : Stream) : System :=
  { s with player := { s.player with source := s.player.source.map fun src => (src.handleEos sender).1 } }

def binStep (cfg : Config) (s : System) : BinEvent → Option System
  | .system e => s.step cfg e
  | .eos sender =>
    if s.registered sender ∧ s.player.playbin.requested ≠ .null then some (s.handleEos sender) else none

/-- What a step is to the segments of the bin. -/
def segmentEvents (s : System) : BinEvent → List Segment.Event
  | .system e => if e.acts ∧ s.worker.todo.head?.any Action.flushes then [.flush] else []
  | .eos sender => [.eos sender]

/-- The run is one of the system by itself, but for the marks on the pads, which are those of a segment
run. There are none before the decoders are in the bin. -/
def EndsMarked (cfg : Config) (past : List BinEvent) (log : List Segment.Event) (s : System) : Prop :=
  ∃ b g, Machine.exec (step cfg) (start cfg) (past.filterMap BinEvent.inSystem) = some b ∧
    Machine.exec Segment.step Segment.registered log = some g ∧ s = b.marked g.src.eosMarks ∧
    g.src = Segment.registered.src.marked g.src.eosMarks ∧
    (g.src.eosMarks = [] ∨ ∃ d, b.registered d = true)

theorem start_endsMarked (cfg : Config) : EndsMarked cfg [] [] (start cfg) :=
  ⟨start cfg, Segment.registered, rfl, rfl, rfl, rfl, Or.inl rfl⟩

theorem segment_grows {log : List Segment.Event} {g u : Segment} {e : Segment.Event}
    (segment : Machine.exec Segment.step Segment.registered log = some g) (next : g.step e = some u) :
    Machine.exec Segment.step Segment.registered (log ++ [e]) = some u :=
  Machine.exec_append.mpr ⟨g, segment, Machine.exec_cons.mpr ⟨u, next, rfl⟩⟩

theorem binStep_endsMarked {past : List BinEvent} {log : List Segment.Event} {e : BinEvent}
    (marked : EndsMarked cfg past log s) (h : s.binStep cfg e = some t) :
    EndsMarked cfg (past ++ [e]) (log ++ s.segmentEvents e) t := by
  obtain ⟨b, g, run, segment, rfl, made, held⟩ := marked
  cases e with
  | eos sender =>
    obtain ⟨⟨inBin, -⟩, rfl⟩ := Option.ite_some_none_eq_some.mp h
    rw [registered_marked] at inBin
    refine ⟨b, _, ?_, segment_grows segment rfl, ?_, ?_, Or.inr ⟨sender, inBin⟩⟩
    · rw [List.filterMap_append, List.filterMap_cons_none rfl, List.filterMap_nil, List.append_nil]
      exact run
    · unfold handleEos System.marked Player.marked
      rw [Option.map_map]
      rfl
    · exact congrArg (fun src : CobaltSource Stream => (src.handleEos sender).1) made
  | system e =>
    have present : b.player.source = none → g.src.eosMarks = [] := by
      intro absent
      refine held.resolve_right ?_
      rintro ⟨d, inBin⟩
      obtain ⟨src, source, -⟩ := registered_iff.mp inBin
      cases absent.symm.trans source
    rw [binStep, step_marked present] at h
    obtain ⟨u, stepped, rfl⟩ := Option.map_eq_some_iff.mp h
    have further : Machine.exec (step cfg) (start cfg) ((past ++ [BinEvent.system e]).filterMap BinEvent.inSystem) =
        some u := by
      have last : Machine.exec (step cfg) b [e] = some u := Machine.exec_cons.mpr ⟨u, stepped, rfl⟩
      rw [List.filterMap_append]
      exact Machine.exec_append.mpr ⟨b, run, last⟩
    have kept : g.src.eosMarks = [] ∨ ∃ d, u.registered d = true :=
      held.imp_right fun ⟨d, inBin⟩ => ⟨d, step_registered inBin stepped⟩
    change EndsMarked cfg _ (log ++ if _ then _ else _) _
    split
    · exact ⟨u, { g with posted := [] }, further, segment_grows segment rfl, rfl, made, kept⟩
    · rw [List.append_nil]
      exact ⟨u, g, further, segment, rfl, made, kept⟩

/-- In every interleaving of the threads with the ends of the streams: whenever the worker is between two
functions, the source bin is absent, new and empty, or what the one registration and then the EOS messages
and the flushing seeks so far, in their order, have made of it. -/
theorem source_made (cfg : Config) {es : List BinEvent} {t : System}
    (run : Machine.exec (binStep cfg) (start cfg) es = some t) (alive : t.stage.stopped = false)
    (idle : t.worker = .idle) :
    t.player.source = none ∨ t.player.source = some {} ∨
      ∃ g, Machine.exec Segment.step Segment.registered
          (Machine.labels (binStep cfg) segmentEvents (start cfg) es) = some g ∧
        t.player.source = some g.src := by
  have marked : EndsMarked cfg es (Machine.labels (binStep cfg) segmentEvents (start cfg) es) t :=
    Machine.exec_logged (EndsMarked cfg) (fun _ _ _ _ _ => binStep_endsMarked) (start_endsMarked cfg) run
  obtain ⟨b, g, alone, segment, rfl, made, held⟩ := marked
  rcases idle_sourceMade cfg alone alive idle with absent | fresh | registered
  · exact Or.inl (by simp [System.marked, Player.marked, absent])
  · -- an empty bin has heard no end of stream
    have silent : g.src.eosMarks = [] := by
      refine held.resolve_right ?_
      rintro ⟨d, inBin⟩
      obtain ⟨src, source, child⟩ := registered_iff.mp inBin
      obtain rfl := Option.some.inj (fresh.symm.trans source)
      cases child
    exact Or.inr (Or.inl (by simp [System.marked, Player.marked, fresh, silent, CobaltSource.marked]))
  · refine Or.inr (Or.inr ⟨g, segment, ?_⟩)
    rw [System.marked, Player.marked, registered, Option.map_some, ← made]

/-- Both streams end, the client seeks, and the audio stream ends again. -/
def endedTwice : List BinEvent :=
  (startup ++ registration).map .system ++ [.eos .audio, .eos .video] ++
    ([.seek 5 7, .dispatchCall none, .resume none, .act, .finish, .setPlaybackRate 1, .dispatchCall none, .act,
      .finish, .post (.stateChanged .playbin .paused), .dispatchMessage none, .act, .act, .act, .act, .act, .act, .act,
      .act, .finish] : List Event).map .system ++ [.eos .audio]

theorem source_made_replay :
    ∃ t : System, Machine.exec (binStep ⟨0, true, true, true⟩) (start ⟨0, true, true, true⟩) endedTwice = some t ∧
      ∃ g, Machine.exec Segment.step Segment.registered [.eos .audio, .eos .video, .flush, .eos .audio] = some g ∧
        t.player.source = some g.src ∧ g.src.eosMarks = [.audio, .video, .audio] := by
  have runs : ((Machine.exec (binStep ⟨0, true, true, true⟩) (start ⟨0, true, true, true⟩) endedTwice).any fun t =>
      t.stage.stopped = false ∧ t.worker = .idle ∧ (t.registered .audio = true)) = true := by decide +kernel
  have ends : Machine.labels (binStep ⟨0, true, true, true⟩) segmentEvents (start ⟨0, true, true, true⟩) endedTwice =
      [.eos .audio, .eos .video, .flush, .eos .audio] := by decide +kernel
  obtain ⟨t, run, last⟩ := (Option.any_eq_true _ _).mp runs
  obtain ⟨alive, idle, inBin⟩ := of_decide_eq_true last
  obtain ⟨src, source, child⟩ := registered_iff.mp inBin
  rcases source_made _ run alive idle with absent | fresh | ⟨g, segment, same⟩
  · cases absent.symm.trans source
  · obtain rfl := Option.some.inj (fresh.symm.trans source)
    cases child
  · rw [ends] at segment
    obtain rfl := Option.some.inj segment
    exact ⟨t, run, _, rfl, same, rfl⟩

end System
end CobaltWayland
