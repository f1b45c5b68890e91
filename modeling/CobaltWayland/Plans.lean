import CobaltWayland.System

/-!
What the functions of the worker plan to do, seen from the outside, and what therefore holds of the
worker in every state of the system: it publishes tickets only as it takes up a `DoSeek`, never asks
for `NULL`, never reports `Destroyed` from its loop, always stores a rate to play at and registers the
decoders only with a source that has been made.
-/

namespace CobaltWayland

/-- What a plan may contain, the report of `Initialized` apart. `made` says that playbin has made its
source. -/
def Action.Planned (made : Bool) : Action → Prop
  | .publishTicket _ | .sourceSetup => False
  | .registerPlayer => made = true
  | .setState state => state ≠ .null
  | .reportPlayerState state => state ≠ .destroyed ∧ state ≠ .initialized
  | .storeInfo info => rateThreshold ≤ info.playbackRate
  | _ => True

theorem Action.Planned.made {a : Action} {made : Bool} (planned : a.Planned made) : a.Planned true := by
  cases a with
  | registerPlayer => rfl
  | _ => exact planned

def Action.flushes : Action → Bool
  | .seek _ (some _) => true
  | _ => false

namespace Player

variable {p : Player} {query : Option Int} {made : Bool}

theorem doVolume_planned (rateOk : rateThreshold ≤ p.info.playbackRate) (volume : ℚ) :
    ∀ a ∈ p.doVolume volume, a.Planned made := by
  intro a h
  rw [mem_doVolume h]
  exact rateOk

theorem doBounds_planned (z x y width height : Int) :
    ∀ a ∈ p.doBounds z x y width height, a.Planned made := by
  intro a h
  rcases mem_doBounds h with rfl | rfl <;> trivial

theorem SeekAndSpeedDoes.planned {seekTo : Int} {speedTo : ℚ} {a : Action} (fast : rateThreshold ≤ speedTo)
    (does : SeekAndSpeedDoes p seekTo speedTo a) : a.Planned made := by
  cases does with
  | play | preroll => simp [Action.Planned]
  | seek | forget => trivial
  | store => exact fast

theorem doSeekAndSpeed_flushes {seekTo : Int} (jumps : p.Jumps seekTo) (speedTo : ℚ) :
    ∃ a ∈ p.doSeekAndSpeed query seekTo speedTo, a.flushes = true := by
  rw [doSeekAndSpeed_eq, if_pos jumps]
  exact ⟨.seek speedTo (some seekTo), by simp, rfl⟩

theorem doSeekBody_planned (time : Int) : ∀ a ∈ p.doSeekBody query time, a.Planned made := by
  intro a h
  cases mem_doSeekBody h with
  | seek _ fast does => exact does.planned fast
  | record => trivial

theorem doPlaybackRate_planned (rateOk : rateThreshold ≤ p.info.playbackRate) (rate : ℚ) :
    ∀ a ∈ p.doPlaybackRate query rate, a.Planned made := by
  intro a h
  cases mem_doPlaybackRate h with
  | seek _ fast does => exact does.planned fast
  | pause => simp [Action.Planned]
  | storeRate fast => exact fast
  | storePause => exact rateOk

theorem updatePosition_planned (rateOk : rateThreshold ≤ p.info.playbackRate) :
    ∀ a ∈ p.updatePosition query, a.Planned made := by
  intro a h
  obtain ⟨timestamp, rfl⟩ := mem_updatePosition h
  exact rateOk

theorem gstBusCallback_planned (rateOk : rateThreshold ≤ p.info.playbackRate) (message : Message) :
    ∀ a ∈ p.gstBusCallback query message, a.Planned p.source.isSome := by
  intro a h
  cases mem_gstBusCallback h with
  | eos | announce | playing | preroll => simp [Action.Planned]
  | attach => trivial
  | seek _ _ does => exact does.planned rateOk
  | volume _ rate => exact rateOk.trans_eq rate.symm
  | register found => simp [Action.Planned, found]

theorem perform_rateOk {a : Action} (planned : a.Planned made)
    (rateOk : rateThreshold ≤ p.info.playbackRate) :
    rateThreshold ≤ (p.perform a).info.playbackRate := by
  cases a with
  | storeInfo info => exact planned
  | _ => exact rateOk

theorem perform_source_isSome {a : Action} (planned : a.Planned made) :
    (p.perform a).source.isSome = p.source.isSome := by
  cases a with
  | registerPlayer => exact Option.isSome_map
  | sourceSetup => exact planned.elim
  | _ => rfl

theorem sourceSetup_isSome (p : Player) : (p.perform .sourceSetup).source.isSome = true := by
  simp [perform]

end Player

namespace System

/-- What holds of the worker in every state. -/
structure Sound (s : System) : Prop where
  early : s.stage.early = true → s.worker = .absent
  rateOk : rateThreshold ≤ s.player.info.playbackRate
  todo : ∀ a ∈ s.worker.todo, a.Planned s.player.source.isSome ∨ a = .reportPlayerState .initialized
  /-- The call that is being carried out is the one at the head of the queue. -/
  seeking : ∀ time, s.worker = .seeking time → ∃ ticket rest, s.calls = .doSeek time ticket :: rest
  calling : ∀ todo, s.worker = .acting true todo → s.calls ≠ []

@[simp] theorem needData_appsrc (cfg : Config) (s : System) (d : Stream) :
    (s.needData cfg d).appsrc = Function.update s.appsrc d { starved := some s.player.lastTicket } := rfl

theorem seekData_eq (cfg : Config) (s : System) (d : Stream) :
    ∃ asked, s.seekData cfg d = { s with decoderReports := s.decoderReports ++ asked } := by
  unfold seekData
  split
  · exact ⟨_, rfl⟩
  · exact ⟨[], by rw [List.append_nil]⟩

@[simp] theorem seekData_player (cfg : Config) (s : System) (d : Stream) :
    (s.seekData cfg d).player = s.player := by
  obtain ⟨_, eq⟩ := seekData_eq cfg s d
  rw [eq]

theorem act_eq (cfg : Config) (s : System) (a : Action) :
    ∃ decoderReports appsrc lost, s.act cfg a = { s.perform a with decoderReports, appsrc, lost } := by
  unfold act
  split
  · rename_i rate target
    obtain ⟨_, audio⟩ := seekData_eq cfg (s.perform (.seek rate (some target))) .audio
    obtain ⟨_, video⟩ := seekData_eq cfg ((s.perform (.seek rate (some target))).seekData cfg .audio) .video
    rw [flush, video, audio]
    exact ⟨_, _, _, rfl⟩
  · exact ⟨_, _, _, rfl⟩

@[simp] theorem act_player (cfg : Config) (s : System) (a : Action) :
    (s.act cfg a).player = s.player.perform a := by
  obtain ⟨_, _, _, eq⟩ := act_eq cfg s a
  rw [eq]
  rfl

@[simp] theorem act_stage (cfg : Config) (s : System) (a : Action) : (s.act cfg a).stage = s.stage := by
  obtain ⟨_, _, _, eq⟩ := act_eq cfg s a
  rw [eq]
  rfl

@[simp] theorem act_calls (cfg : Config) (s : System) (a : Action) : (s.act cfg a).calls = s.calls := by
  obtain ⟨_, _, _, eq⟩ := act_eq cfg s a
  rw [eq]
  rfl

@[simp] theorem act_quit (cfg : Config) (s : System) (a : Action) : (s.act cfg a).quit = s.quit := by
  obtain ⟨_, _, _, eq⟩ := act_eq cfg s a
  rw [eq]
  rfl

@[simp] theorem act_seeks (cfg : Config) (s : System) (a : Action) : (s.act cfg a).seeks = s.seeks := by
  obtain ⟨_, _, _, eq⟩ := act_eq cfg s a
  rw [eq]
  rfl

theorem act_bus (cfg : Config) (s : System) (a : Action) : (s.act cfg a).bus = s.bus := by
  obtain ⟨_, _, _, eq⟩ := act_eq cfg s a
  rw [eq]
  rfl

theorem act_started (cfg : Config) (s : System) (a : Action) : (s.act cfg a).started = s.started := by
  obtain ⟨_, _, _, eq⟩ := act_eq cfg s a
  rw [eq]
  rfl

theorem act_created (cfg : Config) (s : System) (a : Action) : (s.act cfg a).created = s.created := by
  obtain ⟨_, _, _, eq⟩ := act_eq cfg s a
  rw [eq]
  rfl

theorem act_of_not_flushes (cfg : Config) (s : System) {a : Action} (plain : a.flushes = false) :
    s.act cfg a = s.perform a := by
  unfold act
  split
  · cases plain
  · rfl

theorem act_of_flushes (cfg : Config) (s : System) {a : Action} (flushing : a.flushes = true) :
    s.act cfg a = (s.perform a).flush cfg := by
  unfold act
  split
  · rfl
  · rename_i other
    unfold Action.flushes at flushing
    split at flushing
    · exact absurd rfl (other _ _)
    · cases flushing

theorem perform_lastTicket {p : Player} {a : Action} {made : Bool} (planned : a.Planned made) :
    (p.perform a).lastTicket = p.lastTicket := by
  cases a with
  | publishTicket ticket => exact planned.elim
  | _ => rfl

theorem Sound.planned {s : System} {calling : Bool} {a : Action} {todo : List Action} (sound : Sound s)
    (acting : s.worker = .acting calling (a :: todo)) :
    a.Planned s.player.source.isSome ∨ a = .reportPlayerState .initialized :=
  sound.todo a (by simp [acting, Worker.todo])

theorem Sound.lastTicket {s : System} {calling : Bool} {a : Action} {todo : List Action} (sound : Sound s)
    (acting : s.worker = .acting calling (a :: todo)) :
    (s.player.perform a).lastTicket = s.player.lastTicket := by
  rcases sound.planned acting with planned | rfl
  · exact perform_lastTicket planned
  · rfl

theorem start_sound (cfg : Config) : Sound (start cfg) where
  early := fun _ => rfl
  rateOk := rateThreshold_le_one
  todo := by simp [start, Worker.todo]
  seeking := by simp [start]
  calling := by simp [start]

theorem Sound.congr {s t : System} (sound : Sound s) (stage : t.stage.early = true → s.stage.early = true)
    (info : t.player.info = s.player.info) (source : t.player.source.isSome = s.player.source.isSome)
    (worker : t.worker = s.worker) (calls : t.calls = s.calls) : Sound t where
  early := fun young => by rw [worker]; exact sound.early (stage young)
  rateOk := by rw [info]; exact sound.rateOk
  todo := by rw [worker, source]; exact sound.todo
  seeking := by rw [worker, calls]; exact sound.seeking
  calling := by rw [worker, calls]; exact sound.calling

theorem Sound.not_early {s : System} (sound : Sound s) (running : s.worker ≠ .absent) :
    ¬ s.stage.early = true :=
  fun young => running (sound.early young)

theorem Sound.begun {s : System} (sound : Sound s) (running : s.worker ≠ .absent) : s.stage ≠ .pausing :=
  fun at_ => sound.not_early running (by rw [at_]; rfl)

/-- Queueing a call leaves the one that is being carried out at the head. -/
theorem safeCall_sound {s : System} (sound : Sound s) (call : Call) : Sound (s.safeCall call) where
  early := sound.early
  rateOk := sound.rateOk
  todo := sound.todo
  seeking := by
    intro time seeking
    obtain ⟨ticket, rest, head⟩ := sound.seeking time seeking
    exact ⟨ticket, rest ++ [call], by simp [safeCall, head]⟩
  calling := fun todo acting => by simp [safeCall]

theorem sound_idle {s : System} (worker : Worker) (running : ¬ s.stage.early = true)
    (rateOk : rateThreshold ≤ s.player.info.playbackRate)
    (planned : ∀ a ∈ worker.todo, a.Planned s.player.source.isSome)
    (still : ∀ time, worker ≠ .seeking time) (silent : ∀ todo, worker ≠ .acting true todo) :
    Sound { s with worker } :=
  ⟨fun young => absurd young running, rateOk, fun a h => Or.inl (planned a h),
    fun time h => absurd h (still time), fun todo h => absurd h (silent todo)⟩

theorem dispatchCall_planned {s : System} {call : Call} {made : Bool}
    (rateOk : rateThreshold ≤ s.player.info.playbackRate) (plain : call ≠ .reportInitialized)
    (query : Option Int) : ∀ a ∈ (s.dispatchCall query call).worker.todo, a.Planned made := by
  cases call with
  | reportInitialized => exact absurd rfl plain
  | put | doSeek time ticket => simp [dispatchCall, Worker.todo]
  | doPlaybackRate rate => exact Player.doPlaybackRate_planned rateOk rate
  | doVolume volume => exact Player.doVolume_planned rateOk volume
  | doBounds z x y width height => exact Player.doBounds_planned z x y width height

theorem dispatchCall_sound {s : System} {call : Call} {rest : List Call} (sound : Sound s)
    (idle : s.worker = .idle) (head : s.calls = call :: rest) (query : Option Int) :
    Sound (s.dispatchCall query call) := by
  have running : ¬ s.stage.early = true := sound.not_early (by simp [idle])
  have planned : ∀ a ∈ (s.dispatchCall query call).worker.todo,
      a.Planned s.player.source.isSome ∨ a = .reportPlayerState .initialized := by
    by_cases plain : call = .reportInitialized
    · subst plain
      simp [dispatchCall, Worker.todo]
    · exact fun a h => Or.inl (dispatchCall_planned sound.rateOk plain query a h)
  cases call with
  | doSeek time ticket =>
    refine ⟨fun young => absurd young running, sound.rateOk, planned, ?_, fun _ acting => (by cases acting)⟩
    rintro _ ⟨⟩
    exact ⟨ticket, rest, head⟩
  | put | reportInitialized | doPlaybackRate _ | doVolume _ | doBounds _ _ _ _ _ =>
    exact ⟨fun young => absurd young running, sound.rateOk, planned, fun _ seeking => (by cases seeking),
      fun _ _ => by simp [dispatchCall, head]⟩

theorem step_sound {cfg : Config} {s t : System} {e : Event} (sound : Sound s) (h : s.step cfg e = some t) :
    Sound t := by
  cases step_cases h with
  | posting | announcing =>
    exact (safeCall_sound sound _).congr (fun young => (by cases young)) rfl rfl rfl rfl
  | called | seek => exact (safeCall_sound sound _).congr id rfl rfl rfl rfl
  | spawning =>
    exact ⟨fun young => (by cases young), sound.rateOk, by simp [Worker.todo], by simp, by simp⟩
  | entered created =>
    exact sound_idle .idle (sound.not_early (by simp [created])) sound.rateOk (by simp [Worker.todo])
      (by simp) (by simp)
  | left idle =>
    exact (sound_idle .finished (sound.not_early (by simp [idle])) sound.rateOk (by simp [Worker.todo])
      (by simp) (by simp)).congr id rfl rfl rfl rfl
  | dispatchedCall idle head => exact dispatchCall_sound sound idle head _
  | @dispatchedMessage query message rest idle =>
    have planned : ∀ a ∈ s.player.gstBusCallback query message, a.Planned s.player.source.isSome :=
      Player.gstBusCallback_planned sound.rateOk message
    exact (sound_idle (.acting false _) (sound.not_early (by simp [idle])) sound.rateOk planned
      (by simp) (by simp)).congr id rfl rfl rfl rfl
  | ticked idle =>
    exact sound_idle (.acting false _) (sound.not_early (by simp [idle])) sound.rateOk
      (Player.updatePosition_planned sound.rateOk) (by simp) (by simp)
  | resumed seeking =>
    obtain ⟨ticket, rest, head⟩ := sound.seeking _ seeking
    exact ⟨fun young => absurd young (sound.not_early (by simp [seeking])), sound.rateOk,
      fun a h => Or.inl (Player.doSeekBody_planned _ a h),
      fun _ h => (by cases h), fun _ _ => by simp [head]⟩
  | @acted calling a todo acting =>
    have rest : ∀ b ∈ todo, b.Planned s.player.source.isSome ∨ b = .reportPlayerState .initialized :=
      fun b later => sound.todo b (by simp [acting, Worker.todo, later])
    refine ⟨fun young => absurd (act_stage .. ▸ young) (sound.not_early (by simp [acting])), ?_, ?_,
      fun _ h => (by cases h), ?_⟩
    · rw [act_player]
      rcases sound.planned acting with planned | rfl
      · exact Player.perform_rateOk planned sound.rateOk
      · exact sound.rateOk
    · rw [act_player]
      rcases sound.planned acting with planned | rfl
      · rw [Player.perform_source_isSome planned]
        exact rest
      · exact rest
    · rintro _ ⟨⟩
      rw [act_calls]
      exact sound.calling _ acting
  | finished acting =>
    exact ⟨fun young => absurd young (sound.not_early (by simp [acting])), sound.rateOk,
      by simp [Worker.todo], fun _ h => (by cases h), fun _ h => (by cases h)⟩
  | initialized at_ => exact sound.congr (fun _ => by rw [at_]; rfl) rfl rfl rfl rfl
  | pausing at_ => exact sound.congr (fun _ => by rw [at_]; rfl) rfl rfl rfl rfl
  | sourceChanged =>
    refine ⟨sound.early, sound.rateOk, fun a h => ?_, sound.seeking, sound.calling⟩
    have made : (s.perform .sourceSetup).player.source.isSome = true := Player.sourceSetup_isSome s.player
    rw [made]
    exact (sound.todo a h).imp_left Action.Planned.made
  | needData | consumed | written | posted | ignored => exact sound.congr id rfl rfl rfl rfl
  | _ => exact sound.congr (fun young => (by cases young)) rfl rfl rfl rfl

/-! ### The calls that wait -/

/-- The queued calls without the one whose plan is being performed. -/
def waiting (s : System) : List Call :=
  match s.worker with
  | .acting true _ => s.calls.tail
  | _ => s.calls

theorem waiting_acting {s : System} {todo : List Action} (acting : s.worker = .acting true todo) :
    s.waiting = s.calls.tail := by
  simp only [waiting, acting]

theorem waiting_of_silent {s : System} (silent : ∀ todo, s.worker ≠ .acting true todo) :
    s.waiting = s.calls := by
  unfold waiting
  split
  · rename_i acting
    exact absurd acting (silent _)
  · rfl

theorem tail_append_singleton {calls : List Call} (some : calls ≠ []) (new : Call) :
    (calls ++ [new]).tail = calls.tail ++ [new] := by
  cases calls with
  | nil => exact absurd rfl some
  | cons head rest => rfl

theorem waiting_safeCall {s : System} (sound : Sound s) (new : Call) :
    (s.safeCall new).waiting = s.waiting ++ [new] := by
  by_cases busy : ∃ todo, s.worker = .acting true todo
  · obtain ⟨todo, acting⟩ := busy
    rw [waiting_acting acting, waiting_acting (s := s.safeCall new) acting]
    exact tail_append_singleton (sound.calling todo acting) new
  · have silent : ∀ todo, s.worker ≠ .acting true todo := fun todo acting => busy ⟨todo, acting⟩
    rw [waiting_of_silent silent, waiting_of_silent (s := s.safeCall new) silent]
    rfl

theorem dispatchCall_waiting {s : System} {query : Option Int} {call : Call} :
    (s.dispatchCall query call).waiting ⊆ s.calls := by
  cases call with
  | doSeek time ticket => exact List.Subset.refl _
  | _ => exact List.tail_subset _

theorem waiting_congr {s t : System} (worker : t.worker = s.worker) (calls : t.calls = s.calls) :
    t.waiting = s.waiting := by
  simp only [waiting, worker, calls]

theorem waiting_finished {s : System} {calling : Bool} (acting : s.worker = .acting calling []) :
    ({ s with worker := .idle, calls := if calling then s.calls.tail else s.calls } : System).waiting =
      s.waiting := by
  cases calling <;> simp [waiting, acting]

end System
end CobaltWayland
