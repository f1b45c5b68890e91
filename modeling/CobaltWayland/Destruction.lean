import CobaltWayland.Plans

/-!
What the callbacks hear of the end of a player. The worker reports `Destroyed` as it leaves its loop;
each decoder reports its own from its destructor, through the filter that keeps decoder reports from
the client before its first seek.
-/

namespace CobaltWayland

/-- The end of the list and nowhere else in it. -/
def OnceAndLast {α : Type} [DecidableEq α] (x : α) (l : List α) : Prop := l.count x = 1 ∧ l.getLast? = some x

instance {α : Type} [DecidableEq α] (x : α) (l : List α) : Decidable (OnceAndLast x l) := by
  unfold OnceAndLast; infer_instance

theorem onceAndLast_append {α : Type} [DecidableEq α] {x : α} {l : List α} (unheard : x ∉ l) :
    OnceAndLast x (l ++ [x]) := by
  simp [OnceAndLast, List.count_eq_zero.mpr unheard]

/-- The threads of the player have been joined. -/
def Stage.joined : Stage → Bool
  | .droppingAudio | .droppingVideo | .unreffing | .gone => true
  | _ => false

/-- The worker thread has been created and the destructor has not begun. -/
def Stage.spawned : Stage → Bool
  | .posting | .waiting | .announcing | .live => true
  | _ => false

def Stage.drops : Stage → Option Stream
  | .droppingAudio => some .audio
  | .droppingVideo => some .video
  | _ => none

namespace System

def heardBy (s : System) (d : Stream) : List DecoderState :=
  (s.decoderReports.filter (·.1 = d)).map (·.2.1)

def HeardDestroyed (cfg : Config) (s : System) : Prop :=
  (cfg.playerStatusFunction = true → OnceAndLast .destroyed ((s.player.statusCalls cfg).map (·.1))) ∧
    (cfg.decoderStatusFunction = true → ∀ d, OnceAndLast .destroyed (s.heardBy d))

instance (cfg : Config) (s : System) : Decidable (HeardDestroyed cfg s) := by
  unfold HeardDestroyed; infer_instance

/-- A decoder is destroyed only with a ticket of the client in force, and no appsrc asks for data
through a destroyed decoder. -/
def Tells (cfg : Config) (s : System) (e : Event) : Prop :=
  cfg.decoderStatusFunction = true →
    (e.advances = true → s.stage.drops ≠ none → s.player.lastTicket ≠ cfg.initialTicket) ∧
      ∀ d ∈ e.asks, s.player.lastTicket ≠ cfg.initialTicket → s.stage.dropped d = false

instance (cfg : Config) (s : System) (e : Event) : Decidable (Tells cfg s e) := by
  unfold Tells; infer_instance

/-! ### The decoder reports -/

def Passes (cfg : Config) (s : System) : Prop :=
  s.player.lastTicket ≠ cfg.initialTicket ∧ cfg.decoderStatusFunction = true

instance (cfg : Config) (s : System) : Decidable (Passes cfg s) :=
  inferInstanceAs (Decidable (s.player.lastTicket ≠ cfg.initialTicket ∧ cfg.decoderStatusFunction = true))

theorem heardBy_reportDecoderState (cfg : Config) (s : System) (d d' : Stream) (state : DecoderState) :
    (s.reportDecoderState cfg d state).heardBy d' =
      s.heardBy d' ++ if d' = d ∧ s.Passes cfg then [state] else [] := by
  have report : s.player.reportDecoderState cfg d state =
      if s.Passes cfg then [(d, state, s.player.lastTicket)] else [] := rfl
  simp only [heardBy, reportDecoderState, List.filter_append, List.map_append, report]
  by_cases passes : s.Passes cfg
  · by_cases same : d' = d
    · subst same
      rw [if_pos passes, if_pos ⟨rfl, passes⟩]
      simp
    · rw [if_pos passes, if_neg (fun both => same both.1)]
      simp [Ne.symm same]
  · rw [if_neg passes, if_neg (fun both => passes both.2)]
    simp

/-- A step adds requests to the reports of a stream, unless it destroys the decoder. -/
inductive Adds (cfg : Config) (s t : System) (e : Event) (d : Stream) : Prop where
  | nothing (same : t.heardBy d = s.heardBy d)
  | request (asks : e = .needData d) (passes : s.Passes cfg) (heard : t.heardBy d = s.heardBy d ++ [.needsData])
  | flush (acts : e = .act) (asked : List DecoderState) (requests : ∀ state ∈ asked, state = .needsData)
      (heard : t.heardBy d = s.heardBy d ++ asked)
  | drop (drops : s.stage.drops = some d) (advances : ∃ ok, e = .advance ok)

theorem seekData_heardBy (cfg : Config) (s : System) (d d' : Stream) :
    ∃ asked, (s.seekData cfg d).heardBy d' = s.heardBy d' ++ asked ∧
      ∀ state ∈ asked, state = DecoderState.needsData := by
  unfold seekData
  split
  · refine ⟨_, heardBy_reportDecoderState cfg s d d' .needsData, fun state asked => ?_⟩
    split at asked
    · exact List.mem_singleton.mp asked
    · cases asked
  · exact ⟨[], by simp, by simp⟩

theorem dropped_adds {cfg : Config} {s : System} {d' : Stream} {ok : Bool} {stage : Stage}
    (drops : s.stage.drops = some d') (d : Stream) :
    Adds cfg s { s.reportDecoderState cfg d' .destroyed with stage } (.advance ok) d := by
  by_cases same : d = d'
  · subst same
    exact .drop drops ⟨ok, rfl⟩
  · have report := heardBy_reportDecoderState cfg s d' d .destroyed
    rw [if_neg (fun both => same both.1), List.append_nil] at report
    exact .nothing report

theorem step_adds {cfg : Config} {s t : System} {e : Event} (h : s.step cfg e = some t) (d : Stream) :
    Adds cfg s t e d := by
  cases step_cases h with
  | @needData d' =>
    have report : (s.needData cfg d').heardBy d = _ :=
      heardBy_reportDecoderState cfg s d' d .needsData
    by_cases passes : d = d' ∧ s.Passes cfg
    · obtain ⟨rfl, passes⟩ := passes
      rw [if_pos ⟨rfl, passes⟩] at report
      exact .request rfl passes report
    · rw [if_neg passes, List.append_nil] at report
      exact .nothing report
  | droppingAudio at_ | droppingVideo at_ => exact dropped_adds (by rw [at_]; rfl) d
  | @acted calling a todo acting =>
    by_cases flushing : a.flushes = true
    · rw [act_of_flushes cfg s flushing]
      obtain ⟨audio, first, onlyAudio⟩ := seekData_heardBy cfg (s.perform a) .audio d
      obtain ⟨video, second, onlyVideo⟩ := seekData_heardBy cfg ((s.perform a).seekData cfg .audio) .video d
      rw [first, List.append_assoc] at second
      exact .flush rfl (audio ++ video)
        (fun state asked => (List.mem_append.mp asked).elim (onlyAudio state) (onlyVideo state)) second
    · rw [act_of_not_flushes cfg s (by simpa using flushing)]
      exact .nothing rfl
  | @dispatchedCall _ call => cases call <;> exact .nothing rfl
  | _ => exact .nothing rfl

/-- The destructor of a decoder reports it, if the filter lets the report pass. -/
theorem advance_drops {cfg : Config} {s t : System} {d : Stream} {ok : Bool} (drops : s.stage.drops = some d)
    (h : s.step cfg (.advance ok) = some t) :
    t.heardBy d = s.heardBy d ++ if s.Passes cfg then [.destroyed] else [] := by
  have report := heardBy_reportDecoderState cfg s d d .destroyed
  simp only [true_and] at report
  cases step_cases h with
  | droppingAudio at_ | droppingVideo at_ =>
    rw [at_] at drops
    cases drops
    exact report
  | pausing at_ | initialized at_ | failed at_ | spawning at_ | posting at_ | waiting at_ | announcing at_
  | destroyed at_ | stopping at_ | detaching at_ | quitting at_ | joining at_ | unreffing at_
  | called at_ | ignored at_ =>
    rw [at_] at drops
    cases drops

theorem step_dropped {cfg : Config} {s t : System} {e : Event} (h : s.step cfg e = some t) (d : Stream) :
    t.stage.dropped d = true ↔ s.stage.dropped d = true ∨ s.stage.drops = some d ∧ ∃ ok, e = .advance ok := by
  cases step_cases h with
  | pausing at_ | initialized at_ | failed at_ | spawning at_ | posting at_ | waiting at_ | announcing at_
  | destroyed at_ | stopping at_ | detaching at_ | quitting at_ | joining at_ | droppingAudio at_
  | droppingVideo at_ | unreffing at_ =>
    cases d <;> simp [at_, Stage.dropped, Stage.drops]
  | called at_ | ignored at_ => simp [at_, Stage.drops, safeCall]
  | acted => simp
  | @dispatchedCall _ call => cases call <;> simp [dispatchCall, perform]
  | _ => simp [safeCall, perform, needData, reportDecoderState]

theorem not_dropped_of_drops {stage : Stage} {d : Stream} (drops : stage.drops = some d) :
    stage.dropped d = false := by
  cases stage <;> cases drops <;> rfl

/-- A decoder is silent about its destruction until then, and says nothing after it. -/
def DecodersTold (cfg : Config) (s : System) : Prop :=
  ∀ d, (s.stage.dropped d = false → .destroyed ∉ s.heardBy d) ∧
    (s.stage.dropped d = true → cfg.decoderStatusFunction = true → OnceAndLast .destroyed (s.heardBy d))

/-- The last that the client has heard of some decoder is not its destruction. -/
def DecoderUntold (cfg : Config) (s : System) : Prop :=
  cfg.decoderStatusFunction = true ∧
    ∃ d, s.stage.dropped d = true ∧ (s.heardBy d).getLast? ≠ some .destroyed

theorem step_decodersTold {cfg : Config} {s t : System} {e : Event} (told : DecodersTold cfg s)
    (joined : ∀ d, s.stage.dropped d = true → e ≠ .act) (met : s.Tells cfg e) (h : s.step cfg e = some t) :
    DecodersTold cfg t := by
  intro d
  have dropped := step_dropped h d
  constructor
  · intro alive
    have aliveBefore : s.stage.dropped d = false := by
      by_contra gone
      rw [dropped.mpr (Or.inl (by simpa using gone))] at alive
      cases alive
    have before := (told d).1 aliveBefore
    cases step_adds h d with
    | nothing same => rw [same]; exact before
    | request _ _ heard => rw [heard]; simpa using before
    | flush _ asked requests heard =>
      rw [heard]
      intro destroyed
      rcases List.mem_append.mp destroyed with old | new
      · exact before old
      · cases requests _ new
    | drop drops advances =>
      rw [dropped.mpr (Or.inr ⟨drops, advances⟩)] at alive
      cases alive
  · intro gone given
    rcases dropped.mp gone with before | ⟨drops, ok, rfl⟩
    · have last := (told d).2 before given
      cases step_adds h d with
      | nothing same => rw [same]; exact last
      | request asks passes =>
        subst asks
        rw [(met given).2 d rfl passes.1] at before
        cases before
      | flush acts => exact absurd acts (joined d before)
      | drop drops =>
        rw [not_dropped_of_drops drops] at before
        cases before
    · rw [advance_drops drops h, if_pos ⟨(met given).1 rfl (by simp [drops]), given⟩]
      exact onceAndLast_append ((told d).1 (not_dropped_of_drops drops))

/-- What is missing at the end of the reports of a dropped decoder stays missing. -/
theorem step_decoderUntold {cfg : Config} {s t : System} {e : Event} (untold : DecoderUntold cfg s)
    (h : s.step cfg e = some t) : DecoderUntold cfg t := by
  obtain ⟨given, d, gone, last⟩ := untold
  refine ⟨given, d, (step_dropped h d).mpr (Or.inl gone), ?_⟩
  cases step_adds h d with
  | nothing same => rw [same]; exact last
  | request _ _ heard => simp [heard]
  | flush _ asked requests heard =>
    rw [heard]
    cases asked using List.reverseRecOn with
    | nil => simpa using last
    | append_singleton asked state =>
      rw [← List.append_assoc, List.getLast?_concat, requests state (by simp)]
      simp
  | drop drops =>
    rw [not_dropped_of_drops drops] at gone
    cases gone

theorem step_untells {cfg : Config} {s t : System} {e : Event} (told : DecodersTold cfg s)
    (unmet : ¬ s.Tells cfg e) (h : s.step cfg e = some t) : DecoderUntold cfg t := by
  obtain ⟨given, unmet⟩ := Classical.not_imp.mp unmet
  rcases not_and_or.mp unmet with filtered | late
  · -- the filter swallows the report of a decoder that is destroyed
    obtain ⟨advances, unmet⟩ := Classical.not_imp.mp filtered
    obtain ⟨some, initial⟩ := Classical.not_imp.mp unmet
    obtain ⟨d, drops⟩ := Option.ne_none_iff_exists'.mp some
    obtain ⟨ok, rfl⟩ : ∃ ok, e = .advance ok := by
      cases e <;> first | exact ⟨_, rfl⟩ | cases advances
    refine ⟨given, d, (step_dropped h d).mpr (Or.inr ⟨drops, ok, rfl⟩), fun last => ?_⟩
    rw [advance_drops drops h, if_neg (fun passes => initial passes.1), List.append_nil] at last
    exact (told d).1 (not_dropped_of_drops drops) (List.mem_of_getLast? last)
  · -- an appsrc asks through a decoder that is gone
    obtain ⟨d, unmet⟩ := Classical.not_forall.mp late
    obtain ⟨asks, unmet⟩ := Classical.not_imp.mp unmet
    obtain ⟨sought, gone⟩ := Classical.not_imp.mp unmet
    obtain rfl : e = .needData d := by
      cases e <;> first | exact congrArg Event.needData (Option.some.inj asks) | cases asks
    have gone : s.stage.dropped d = true := by simpa using gone
    refine ⟨given, d, (step_dropped h d).mpr (Or.inl gone), ?_⟩
    cases step_cases h with
    | called at_ | ignored at_ => simp [at_, Stage.dropped] at gone
    | needData =>
      have report : (s.needData cfg d).heardBy d = _ :=
        heardBy_reportDecoderState cfg s d d .needsData
      rw [report, if_pos ⟨rfl, sought, given⟩]
      simp

/-! ### The player reports -/

structure EndInv (s : System) : Prop where
  sound : Sound s
  running : s.stage.spawned = true ∨ s.created = true → s.worker ≠ .absent
  joined : s.stage.joined = true → s.worker = .absent ∨ s.worker = .finished
  working : s.worker ≠ .finished → PlayerState.destroyed ∉ s.player.reports.map (·.1)
  finished : s.worker = .finished → OnceAndLast .destroyed (s.player.reports.map (·.1))

theorem start_endInv (cfg : Config) : EndInv (start cfg) where
  sound := start_sound cfg
  running := by simp [start, Stage.spawned]
  joined := by simp [start, Stage.joined]
  working := by simp [start, Player.construct]
  finished := by simp [start]

theorem EndInv.congr {s t : System} (inv : EndInv s) (sound : Sound t)
    (spawned : t.stage.spawned = true ∨ t.created = true → s.stage.spawned = true ∨ s.created = true)
    (joined : t.stage.joined = true → s.stage.joined = true) (worker : t.worker = s.worker)
    (reports : t.player.reports = s.player.reports) : EndInv t where
  sound := sound
  running := by rw [worker]; exact fun young => inv.running (spawned young)
  joined := by rw [worker]; exact fun late => inv.joined (joined late)
  working := by rw [worker, reports]; exact inv.working
  finished := by rw [worker, reports]; exact inv.finished

theorem EndInv.not_joined {s : System} (inv : EndInv s)
    (working : s.worker ≠ .absent ∧ s.worker ≠ .finished) : ¬ s.stage.joined = true :=
  fun late => (inv.joined late).elim working.1 working.2

theorem EndInv.worked {s t : System} (inv : EndInv s) (sound : Sound t)
    (before : s.worker ≠ .absent ∧ s.worker ≠ .finished) (after : t.worker ≠ .absent ∧ t.worker ≠ .finished)
    (stage : t.stage = s.stage) (reports : t.player.reports = s.player.reports) : EndInv t where
  sound := sound
  running := fun _ => after.1
  joined := by
    rw [stage]
    exact fun late => absurd late (inv.not_joined before)
  working := by rw [reports]; exact fun _ => inv.working before.2
  finished := fun finished => absurd finished after.2

theorem perform_reports {p : Player} {a : Action} {made : Bool}
    (planned : a.Planned made ∨ a = .reportPlayerState .initialized)
    (unheard : PlayerState.destroyed ∉ p.reports.map (·.1)) :
    PlayerState.destroyed ∉ (p.perform a).reports.map (·.1) := by
  cases a with
  | reportPlayerState state =>
    have other : state ≠ .destroyed := by
      rcases planned with planned | initialized
      · exact planned.1
      · cases initialized
        simp
    simpa [Player.perform, Ne.symm other] using unheard
  | _ => exact unheard

theorem step_endInv {cfg : Config} {s t : System} {e : Event} (inv : EndInv s) (h : s.step cfg e = some t) :
    EndInv t := by
  have sound := step_sound inv.sound h
  cases step_cases h with
  | pausing | initialized | failed | destroyed | stopping | detaching | quitting =>
    exact inv.congr sound (fun young => young.elim (fun spawned => (by cases spawned)) Or.inr)
      (fun late => (by cases late)) rfl rfl
  | posting at_ | waiting at_ | announcing at_ =>
    exact inv.congr sound (fun _ => Or.inl (by rw [at_]; rfl)) (fun late => (by cases late)) rfl rfl
  | droppingAudio at_ | droppingVideo at_ | unreffing at_ =>
    exact inv.congr sound (fun young => young.elim (fun spawned => (by cases spawned)) Or.inr)
      (fun _ => by rw [at_]; rfl) rfl rfl
  | joining _ ended =>
    refine ⟨sound, fun young => ?_, fun _ => ended, inv.working, inv.finished⟩
    rcases young with spawned | made
    · cases spawned
    · exact inv.running (Or.inr made)
  | spawning at_ =>
    have absent := inv.sound.early (by rw [at_]; rfl)
    exact ⟨sound, fun _ => by simp, fun late => (by cases late), fun _ => inv.working (by simp [absent]),
      fun finished => (by cases finished)⟩
  | entered worker | ticked worker | dispatchedMessage worker | resumed worker | finished worker =>
    exact inv.worked sound (by simp [worker]) (by simp) rfl rfl
  | @dispatchedCall _ call _ idle =>
    cases call <;> exact inv.worked sound (by simp [idle]) (by simp [dispatchCall]) rfl rfl
  | @acted calling a todo acting =>
    have unheard := perform_reports (inv.sound.planned acting) (inv.working (by simp [acting]))
    refine ⟨sound, fun _ => by simp, fun late => ?_, fun _ => ?_, fun finished => (by cases finished)⟩
    · exact absurd (act_stage cfg s a ▸ late) (inv.not_joined (by simp [acting]))
    · show _ ∉ (s.act cfg a).player.reports.map (·.1)
      rw [act_player]
      exact unheard
  | left idle =>
    have unheard := inv.working (by simp [idle])
    refine ⟨sound, fun _ => by simp, fun _ => Or.inr rfl, fun working => absurd rfl working, fun _ => ?_⟩
    simpa [perform, Player.perform] using onceAndLast_append unheard
  | _ => exact inv.congr sound id id rfl rfl

/-! ### Whole runs -/

/-- A decoder is destroyed after the worker has gone. -/
theorem not_act_of_dropped {cfg : Config} {s t : System} {e : Event} {d : Stream} (inv : EndInv s)
    (gone : s.stage.dropped d = true) (h : s.step cfg e = some t) : e ≠ .act := by
  rintro rfl
  have late : s.stage.joined = true := by
    cases at_ : s.stage <;> first | rfl | (rw [at_] at gone; cases gone)
  cases step_cases h with
  | called at_ | ignored at_ => simp [at_, Stage.dropped] at gone
  | acted acting =>
    exact inv.not_joined (by simp [acting]) late

theorem heardDestroyed_of_told {cfg : Config} {t : System} (inv : EndInv t) (told : DecodersTold cfg t)
    (gone : t.stage = .gone) (created : t.created = true) : HeardDestroyed cfg t := by
  have ended : t.worker = .finished :=
    (inv.joined (by rw [gone]; rfl)).resolve_left (inv.running (Or.inr created))
  refine ⟨fun given => ?_, fun given d => (told d).2 (by rw [gone]; rfl) given⟩
  simpa [Player.statusCalls, given] using inv.finished ended

/-- A created player that has been destroyed has told every callback so once and last, exactly when
its decoders were destroyed with a ticket of the client in force and no appsrc asked for data through
a destroyed decoder. -/
theorem heard_destroyed_iff (cfg : Config) (es : List Event) {t : System}
    (run : Machine.exec (step cfg) (start cfg) es = some t) (gone : t.stage = .gone)
    (created : t.created = true) :
    HeardDestroyed cfg t ↔ Machine.Along (step cfg) (Tells cfg) (start cfg) es := by
  have start_told : DecodersTold cfg (start cfg) := fun d =>
    ⟨fun _ => by simp [heardBy, start], fun dropped => (by cases d <;> cases dropped)⟩
  refine Machine.final_iff_along (fun s => EndInv s ∧ DecodersTold cfg s) (DecoderUntold cfg)
    (HeardDestroyed cfg) ?_ ?_ ?_ ⟨start_endInv cfg, start_told⟩ run ?_ ?_
  · intro s e t inv met h
    exact ⟨step_endInv inv.1 h,
      step_decodersTold inv.2 (fun _ gone => not_act_of_dropped inv.1 gone h) met h⟩
  · exact fun s e t inv unmet h => step_untells inv.2 unmet h
  · exact fun s e t untold h => step_decoderUntold untold h
  · exact fun inv => heardDestroyed_of_told inv.1 inv.2 gone created
  · rintro ⟨given, d, -, last⟩ heard
    exact last (heard.2 given d).2

theorem heard_destroyed_replay :
    ∃ t, Machine.exec (step ⟨0, true, true, true⟩) (start ⟨0, true, true, true⟩)
        (startup ++ [.seek 5 1, .dispatchCall none, .resume none, .act, .finish] ++ destruction) = some t ∧
      HeardDestroyed ⟨0, true, true, true⟩ t := by
  have ends : ((Machine.exec (step ⟨0, true, true, true⟩) (start ⟨0, true, true, true⟩)
      (startup ++ [.seek 5 1, .dispatchCall none, .resume none, .act, .finish] ++ destruction)).any
      fun t => t.stage = .gone ∧ t.created = true) = true := by decide +kernel
  obtain ⟨t, run, ended⟩ := (Option.any_eq_true _ _).mp ends
  obtain ⟨gone, created⟩ := of_decide_eq_true ended
  exact ⟨t, run, (heard_destroyed_iff _ _ run gone created).mpr (by decide +kernel)⟩

theorem unsought_destruction_unheard :
    ((Machine.exec (step ⟨0, true, true, true⟩) (start ⟨0, true, true, true⟩) (startup ++ destruction)).any
      fun t => t.stage = .gone ∧ t.created = true ∧ ¬ HeardDestroyed ⟨0, true, true, true⟩ t) = true := by
  decide +kernel

end System
end CobaltWayland
