import CobaltWayland.Plans

/-!
Which state the client hears first. `Initialize` queues its report after the handshake with the
worker loop, but the pipeline has been on its way to `PAUSED` and the loop has been dispatching bus
messages since before.
-/

namespace CobaltWayland

def Action.reports : Action → Bool
  | .reportPlayerState _ => true
  | _ => false

namespace Player

/-- The bus messages on which the player reports a state. -/
def ReportsOn (p : Player) : Message → Prop
  | .eos => True
  | .stateChanged .playbin newState =>
    newState = .playing ∨ newState = .paused ∧ p.positionUpdateSource = false
  | .stateChanged .source newState => newState = .ready ∧ p.source.any (! ·.isConfigured) = true
  | _ => False

instance (p : Player) (message : Message) : Decidable (p.ReportsOn message) := by
  unfold ReportsOn; split <;> infer_instance

variable {p : Player} {query : Option Int}

theorem gstBusCallback_silent {message : Message} (silent : ¬ p.ReportsOn message) :
    ∀ a ∈ p.gstBusCallback query message, a.reports = false := by
  intro a h
  cases mem_gstBusCallback h with
  | eos => exact absurd trivial silent
  | announce early | seek early => exact absurd (Or.inr ⟨rfl, early⟩) silent
  | playing => exact absurd (Or.inl rfl) silent
  | preroll made fresh => exact absurd ⟨rfl, by simp [made, fresh]⟩ silent
  | attach | volume | register => rfl

theorem updatePosition_silent : ∀ a ∈ p.updatePosition query, a.reports = false := by
  intro a h
  obtain ⟨timestamp, rfl⟩ := mem_updatePosition h
  rfl

theorem perform_silent {a : Action} (silent : a.reports = false) : (p.perform a).reports = p.reports := by
  cases a with
  | reportPlayerState state => cases silent
  | _ => rfl

end Player

/-- The thread of `Initialize` has not queued its report yet. -/
def Stage.starting : Stage → Bool
  | .pausing | .decoders | .spawning | .posting | .waiting | .announcing => true
  | _ => false

theorem Stage.starting_false {before after : Stage} (starting : after.starting = true → before.starting = true)
    (started : before.starting = false) : after.starting = false := by
  rw [← Bool.not_eq_true] at started ⊢
  exact mt starting started

namespace System

/-- The first state the client hears is `Initialized`, and it hears that once. -/
def InitializedFirst (cfg : Config) (s : System) : Prop :=
  match s.player.statusCalls cfg with
  | [] => True
  | first :: later => first.1 = .initialized ∧ ∀ call ∈ later, call.1 ≠ .initialized

instance (cfg : Config) (s : System) : Decidable (InitializedFirst cfg s) := by
  unfold InitializedFirst; split <;> infer_instance

/-- Until a state has been reported, the worker takes up no bus message that is reported and does not
leave its loop. -/
def Patient (s : System) (e : Event) : Prop :=
  s.player.reports = [] →
    (e.takesMessage = true → ∀ message ∈ s.bus.head?, ¬ s.player.ReportsOn message) ∧ e ≠ .leaveLoop

instance (s : System) (e : Event) : Decidable (Patient s e) := by
  unfold Patient; infer_instance

/-- How far the report of `Initialize` has come. -/
inductive Phase (s : System) : Prop where
  | unqueued (unheard : s.player.reports = []) (early : s.stage ≠ .live)
      (puts : ∀ call ∈ s.waiting, call = .put) (silent : ∀ a ∈ s.worker.todo, a.reports = false)
  | queued (unheard : s.player.reports = []) (started : s.stage.starting = false) (puts rest : List Call)
      (queue : s.waiting = puts ++ .reportInitialized :: rest) (only : ∀ call ∈ puts, call = .put)
      (once : .reportInitialized ∉ rest) (silent : ∀ a ∈ s.worker.todo, a.reports = false)
  | telling (unheard : s.player.reports = []) (started : s.stage.starting = false)
      (acting : s.worker = .acting true [.reportPlayerState .initialized])
      (once : .reportInitialized ∉ s.waiting)
  | told (started : s.stage.starting = false) (ticket : Int) (later : List (PlayerState × Int))
      (first : s.player.reports = (.initialized, ticket) :: later) (others : ∀ r ∈ later, r.1 ≠ .initialized)
      (once : .reportInitialized ∉ s.waiting) (todo : .reportPlayerState .initialized ∉ s.worker.todo)

theorem start_phase (cfg : Config) : Phase (start cfg) :=
  .unqueued rfl (by simp [start]) (by simp [start, waiting]) (by simp [start, Worker.todo])

theorem initializedFirst_of_phase {s : System} (cfg : Config) (phase : Phase s) : InitializedFirst cfg s := by
  unfold InitializedFirst Player.statusCalls
  cases phase with
  | unqueued unheard | queued unheard | telling unheard => simp [unheard]
  | told _ ticket later first others =>
    cases cfg.playerStatusFunction with
    | false => simp
    | true =>
      simp only [first, if_true]
      exact ⟨trivial, others⟩

theorem Phase.congr {s t : System} (phase : Phase s)
    (starting : t.stage.starting = true → s.stage.starting = true) (live : t.stage = .live → s.stage = .live)
    (worker : t.worker = s.worker) (calls : t.calls = s.calls)
    (reports : t.player.reports = s.player.reports) : Phase t := by
  have same := waiting_congr worker calls
  have begun := Stage.starting_false starting
  cases phase with
  | unqueued unheard early puts silent =>
    exact .unqueued (reports.trans unheard) (fun now => early (live now)) (by rwa [same]) (by rwa [worker])
  | queued unheard started puts rest queue only once silent =>
    exact .queued (reports.trans unheard) (begun started) puts rest (same.trans queue) only once
      (by rwa [worker])
  | telling unheard started acting once =>
    exact .telling (reports.trans unheard) (begun started) (worker.trans acting) (by rwa [same])
  | told started ticket later first others once todo =>
    exact .told (begun started) ticket later (reports.trans first) others (by rwa [same]) (by rwa [worker])

/-- A worker with nothing left to do goes on to something that reports no state, or not that one. -/
theorem Phase.moved {s t : System} (phase : Phase s) (free : s.worker.todo = [])
    (starting : t.stage.starting = true → s.stage.starting = true) (live : t.stage = .live → s.stage = .live)
    (waits : t.waiting = s.waiting) (reports : t.player.reports = s.player.reports)
    (silent : s.player.reports = [] → ∀ a ∈ t.worker.todo, a.reports = false)
    (plain : .reportPlayerState .initialized ∉ t.worker.todo) : Phase t := by
  have begun := Stage.starting_false starting
  cases phase with
  | unqueued unheard early puts _ =>
    exact .unqueued (reports.trans unheard) (fun now => early (live now)) (by rwa [waits]) (silent unheard)
  | queued unheard started puts rest queue only once _ =>
    exact .queued (reports.trans unheard) (begun started) puts rest (waits.trans queue) only once
      (silent unheard)
  | telling _ _ acting =>
    rw [acting] at free
    cases free
  | told started ticket later first others once _ =>
    exact .told (begun started) ticket later (reports.trans first) others (by rwa [waits]) plain

theorem safeCall_phase {s : System} (sound : Sound s) (phase : Phase s) (live : s.stage = .live) {new : Call}
    (other : new ≠ .reportInitialized) : Phase (s.safeCall new) := by
  have waits := waiting_safeCall sound new
  cases phase with
  | unqueued _ early => exact absurd live early
  | queued unheard started puts rest queue only once silent =>
    refine .queued unheard started puts (rest ++ [new]) ?_ only ?_ silent
    · rw [waits, queue]
      simp
    · simpa [once] using Ne.symm other
  | telling unheard started acting once =>
    refine .telling unheard started acting ?_
    rw [waits]
    simpa [once] using Ne.symm other
  | told started ticket later first others once todo =>
    refine .told started ticket later first others ?_ todo
    rw [waits]
    simpa [once] using Ne.symm other

theorem notMem_of_planned (made : Bool) {as : List Action} (planned : ∀ a ∈ as, a.Planned made) :
    .reportPlayerState .initialized ∉ as :=
  fun h => (planned _ h).2 rfl

theorem dispatchCall_phase {s : System} {call : Call} {rest : List Call} (sound : Sound s) (phase : Phase s)
    (idle : s.worker = .idle) (head : s.calls = call :: rest) (query : Option Int) :
    Phase (s.dispatchCall query call) := by
  have waits : s.waiting = call :: rest := (waiting_of_silent (by simp [idle])).trans head
  cases phase with
  | unqueued unheard early puts =>
    rw [waits] at puts
    obtain ⟨rfl, later⟩ := List.forall_mem_cons.mp puts
    exact .unqueued unheard early (by simpa [dispatchCall, waiting, head] using later)
      (by simp [dispatchCall, Worker.todo])
  | queued unheard started puts behind queue only once =>
    rw [waits] at queue
    cases puts with
    | nil =>
      obtain ⟨rfl, rfl⟩ := List.cons.inj queue
      exact .telling unheard started rfl (by simpa [dispatchCall, waiting, head] using once)
    | cons call' puts =>
      obtain ⟨rfl, rfl⟩ := List.cons.inj queue
      obtain ⟨rfl, others⟩ := List.forall_mem_cons.mp only
      exact .queued unheard started puts behind (by simp [dispatchCall, waiting, head]) others once
        (by simp [dispatchCall, Worker.todo])
  | telling _ _ acting =>
    rw [idle] at acting
    cases acting
  | told started ticket later first others once _ =>
    rw [waits] at once
    have other : call ≠ .reportInitialized := fun same => once (same ▸ List.mem_cons_self)
    have behind := mt (@dispatchCall_waiting s query call _) (head ▸ once)
    have plain := notMem_of_planned false (dispatchCall_planned sound.rateOk other query)
    cases call with
    | reportInitialized => exact absurd rfl other
    | put | doSeek _ _ | doPlaybackRate _ | doVolume _ | doBounds _ _ _ _ _ =>
      exact .told started ticket later first others behind plain

/-- A `DoSeek` under way was queued behind the report, which has therefore been made. -/
theorem resumed_phase {s : System} {time : Int} {query : Option Int} (sound : Sound s) (phase : Phase s)
    (seeking : s.worker = .seeking time) :
    Phase { s with worker := .acting true (s.player.doSeekBody query time) } := by
  obtain ⟨ticket, rest, head⟩ := sound.seeking time seeking
  have waits : s.waiting = .doSeek time ticket :: rest := (waiting_of_silent (by simp [seeking])).trans head
  cases phase with
  | unqueued _ _ puts => cases puts (.doSeek time ticket) (by simp [waits])
  | queued _ _ puts _ queue only =>
    rw [waits] at queue
    cases puts with
    | nil => cases queue
    | cons call' puts =>
      obtain ⟨rfl, -⟩ := List.cons.inj queue
      cases only _ List.mem_cons_self
  | telling _ _ acting =>
    rw [seeking] at acting
    cases acting
  | told started ticket later first others once _ =>
    rw [waits] at once
    exact .told started ticket later first others
      (by simpa [waiting, head] using fun behind => once (List.mem_cons_of_mem _ behind))
      (notMem_of_planned false (Player.doSeekBody_planned time))

theorem acted_phase {cfg : Config} {s : System} {calling : Bool} {a : Action} {todo : List Action}
    (phase : Phase s) (acting : s.worker = .acting calling (a :: todo)) :
    Phase { s.act cfg a with worker := .acting calling todo } := by
  have waits : ({ s.act cfg a with worker := .acting calling todo } : System).waiting = s.waiting := by
    cases calling <;> simp [waiting, acting]
  have stage := act_stage cfg s a
  have reports : (s.act cfg a).player.reports = (s.player.perform a).reports := by rw [act_player]
  have current : s.worker.todo = a :: todo := by rw [acting]; rfl
  cases phase with
  | unqueued unheard early puts silent =>
    rw [current] at silent
    obtain ⟨now, later⟩ := List.forall_mem_cons.mp silent
    exact .unqueued (reports.trans ((Player.perform_silent now).trans unheard))
      (fun live => early (stage ▸ live)) (by rwa [waits]) later
  | queued unheard started puts rest queue only once silent =>
    rw [current] at silent
    obtain ⟨now, later⟩ := List.forall_mem_cons.mp silent
    exact .queued (reports.trans ((Player.perform_silent now).trans unheard))
      ((congrArg Stage.starting stage).trans started) puts rest (waits.trans queue) only once later
  | telling unheard started acting' once =>
    rw [acting] at acting'
    cases acting'
    refine .told ((congrArg Stage.starting stage).trans started) s.player.lastTicket [] ?_ (by simp) ?_ ?_
    · exact reports.trans (by simp [Player.perform, unheard])
    · rwa [waits]
    · simp [Worker.todo]
  | told started ticket later first others once plain =>
    rw [current] at plain
    obtain ⟨other, later'⟩ := not_or.mp (mt List.mem_cons.mpr plain)
    have started := (congrArg Stage.starting stage).trans started
    cases told : a.reports with
    | false =>
      exact .told started ticket later (reports.trans ((Player.perform_silent told).trans first)) others
        (by rwa [waits]) later'
    | true =>
      cases a with
      | reportPlayerState state =>
        refine .told started ticket (later ++ [(state, s.player.lastTicket)]) ?_ ?_ (by rwa [waits]) later'
        · exact reports.trans (by simp [Player.perform, first])
        · intro r reported
          rcases List.mem_append.mp reported with before | now
          · exact others r before
          · rw [List.mem_singleton.mp now]
            exact fun same => other (by rw [← same])
      | _ => cases told

theorem step_phase {cfg : Config} {s t : System} {e : Event} (sound : Sound s) (phase : Phase s)
    (met : s.Patient e) (h : s.step cfg e = some t) : Phase t := by
  cases step_cases h with
  | posting at_ =>
    cases phase with
    | unqueued unheard early puts silent =>
      have waits : ({ s.safeCall .put with stage := .waiting } : System).waiting = _ :=
        waiting_safeCall sound .put
      refine .unqueued unheard (by simp) (fun call queued => ?_) silent
      rw [waits] at queued
      rcases List.mem_append.mp queued with before | new
      · exact puts call before
      · exact List.mem_singleton.mp new
    | queued _ started | telling _ started | told started =>
      rw [at_] at started
      cases started
  | announcing at_ =>
    cases phase with
    | unqueued unheard early puts silent =>
      exact .queued unheard rfl s.waiting [] (waiting_safeCall sound .reportInitialized) puts (by simp) silent
    | queued _ started | telling _ started | told started =>
      rw [at_] at started
      cases started
  | called live _ silent => exact safeCall_phase sound phase live silent
  | seek live =>
    exact (safeCall_phase sound phase live (by simp)).congr id id rfl rfl rfl
  | spawning at_ =>
    have absent := sound.early (by rw [at_]; rfl)
    exact phase.moved (by simp [absent, Worker.todo]) (fun _ => by rw [at_]; rfl) (fun live => (by cases live))
      (by simp [waiting, absent]) rfl (by simp [Worker.todo]) (by simp [Worker.todo])
  | entered created =>
    exact phase.moved (by simp [created, Worker.todo]) id id (by simp [waiting, created]) rfl
      (by simp [Worker.todo]) (by simp [Worker.todo])
  | dispatchedCall idle head => exact dispatchCall_phase sound phase idle head _
  | @dispatchedMessage query message rest idle head =>
    have unreported := fun unheard => (met unheard).1 rfl message (by rw [head]; rfl)
    exact phase.moved (by simp [idle, Worker.todo]) id id (by simp [waiting, idle]) rfl
      (fun unheard => Player.gstBusCallback_silent (unreported unheard))
      (notMem_of_planned _ (Player.gstBusCallback_planned sound.rateOk message))
  | ticked idle =>
    exact phase.moved (by simp [idle, Worker.todo]) id id (by simp [waiting, idle]) rfl
      (fun _ => Player.updatePosition_silent)
      (notMem_of_planned false (Player.updatePosition_planned sound.rateOk))
  | resumed seeking => exact resumed_phase sound phase seeking
  | acted acting => exact acted_phase phase acting
  | finished acting =>
    exact phase.moved (by simp [acting, Worker.todo]) id id (waiting_finished acting) rfl
      (by simp [Worker.todo]) (by simp [Worker.todo])
  | left idle =>
    cases phase with
    | unqueued unheard | queued unheard | telling unheard => exact absurd rfl (met unheard).2
    | told started ticket later first others once plain =>
      refine .told started ticket (later ++ [(.destroyed, s.player.lastTicket)]) ?_ ?_ ?_
        (by simp [Worker.todo])
      · simp [perform, Player.perform, first]
      · intro r reported
        rcases List.mem_append.mp reported with before | now
        · exact others r before
        · simp [List.mem_singleton.mp now]
      · simpa [waiting, idle, perform] using once
  | pausing at_ | initialized at_ | waiting at_ =>
    exact phase.congr (fun _ => by rw [at_]; rfl) (fun live => (by cases live)) rfl rfl rfl
  | sourceChanged | needData | consumed | written | posted | ignored => exact phase.congr id id rfl rfl rfl
  | _ => exact phase.congr (fun starting => (by cases starting)) (fun live => (by cases live)) rfl rfl rfl

/-- `Initialized` is the first state the client hears, and comes once, while the worker neither takes up
a bus message that is reported nor leaves its loop before it has reported that one. -/
theorem initialized_first (cfg : Config) (es : List Event)
    (met : Machine.Along (step cfg) Patient (start cfg) es) :
    Machine.Throughout (step cfg) (InitializedFirst cfg) (start cfg) es :=
  Machine.throughout_of_along (fun s => Sound s ∧ Phase s)
    (fun _ _ _ inv met h => ⟨step_sound inv.1 h, step_phase inv.1 inv.2 met h⟩)
    (fun _ inv => initializedFirst_of_phase cfg inv.2) ⟨start_sound cfg, start_phase cfg⟩ met

theorem initialized_first_replay :
    Machine.Throughout (step ⟨0, true, true, true⟩) (InitializedFirst ⟨0, true, true, true⟩)
      (start ⟨0, true, true, true⟩) (startup ++ registration ++ destruction) :=
  initialized_first _ _ (by decide +kernel)

/-- The source has become `READY` on the way to `PAUSED`; the worker loop dispatches that message after
the handshake but before the thread of `Initialize` has queued its report. -/
def overtaken : List Event :=
  [.advance true, .sourceChanged, .post (.stateChanged .source .ready), .advance true, .advance true,
   .advance true, .enterLoop, .dispatchCall none, .finish, .dispatchMessage none, .act, .act, .finish,
   .advance true, .advance true]

theorem overtaken_not_initialized_first :
    ¬ Machine.Throughout (step ⟨0, true, true, true⟩) (InitializedFirst ⟨0, true, true, true⟩)
      (start ⟨0, true, true, true⟩) overtaken := by
  decide +kernel

end System
end CobaltWayland
