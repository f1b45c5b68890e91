import CobaltWayland.CallOrder

/-!
What `GetInfo` shows. The worker stores the record over and over while it carries out a function, and a
client may read it at any moment. Even so the volumes and the rates it reads are ones that were asked
for, and none of them is older than one it has read before.
-/

namespace CobaltWayland

namespace Call

def volume : Call → Option ℚ
  | .doVolume volume => some volume
  | _ => none

def playbackRate : Call → Option ℚ
  | .doPlaybackRate rate => if rate ≥ rateThreshold then some rate else none
  | _ => none

end Call

structure InfoValue where
  held : Info → ℚ
  read : Settings → ℚ
  asked : System.Event → Option ℚ
  written : Call → Option ℚ
  ofStored : ∀ (info : Info) (settings : Settings), info.volume = settings.volume →
    info.playbackRate = settings.playbackRate → held info = read settings
  serves : ∀ settings call, read (settings.serve call) = (written call).getD (read settings)
  queues : ∀ (s : System) e, (s.queued e).filterMap written = (asked e).toList

namespace InfoValue

def volume : InfoValue where
  held := Info.volume
  read := Settings.volume
  asked := System.Event.volume
  written := Call.volume
  ofStored := fun _ _ volume _ => volume
  serves := by
    intro settings call
    cases call <;> rfl
  queues := by
    intro s e
    rw [System.queued_filterMap rfl rfl]
    cases e with
    | setPlaybackRate =>
      simp only [System.Event.request]
      split <;> rfl
    | setVolume =>
      simp only [System.Event.request, System.Event.volume]
      split <;> rfl
    | _ => rfl

def playbackRate : InfoValue where
  held := Info.playbackRate
  read := Settings.playbackRate
  asked := System.Event.playbackRate
  written := Call.playbackRate
  ofStored := fun _ _ _ rate => rate
  serves := by
    intro settings call
    cases call with
    | doPlaybackRate rate => by_cases fast : rate ≥ rateThreshold <;> simp [Settings.serve, Call.playbackRate, fast]
    | _ => rfl
  queues := by
    intro s e
    rw [System.queued_filterMap rfl rfl]
    cases e with
    | setPlaybackRate rate =>
      have positive : 0 < rateThreshold := by norm_num [rateThreshold]
      by_cases fast : rate ≥ rateThreshold
      · simp [System.Event.request, System.Event.playbackRate, Call.playbackRate, fast, positive.le.trans fast]
      · by_cases accepted : rate ≥ 0 <;>
          simp [System.Event.request, System.Event.playbackRate, Call.playbackRate, fast, accepted]
    | setVolume volume =>
      by_cases accepted : volume ≥ 0 ∧ volume ≤ 1 <;>
        simp [System.Event.request, System.Event.playbackRate, accepted, Call.playbackRate]
    | _ => rfl

end InfoValue

namespace Player

/-- Whatever a plan stores in the record on the way has the volume and the rate of the end. -/
def StoresSettled (p : Player) (plan : List Action) : Prop :=
  ∀ info, .storeInfo info ∈ plan →
    info.volume = (plan.foldl Settings.perform p.settings).volume ∧
      info.playbackRate = (plan.foldl Settings.perform p.settings).playbackRate

variable (p : Player) (query : Option Int)

theorem doSeekAndSpeed_storesSettled (seekTo : Int) (speedTo : ℚ) :
    p.StoresSettled (p.doSeekAndSpeed query seekTo speedTo) := by
  intro info stored
  rw [doSeekAndSpeed_settings]
  cases mem_doSeekAndSpeed stored
  exact ⟨rfl, rfl⟩

theorem doSeekBody_storesSettled (time : Int) : p.StoresSettled (p.doSeekBody query time) := by
  unfold doSeekBody
  dsimp only
  split
  · exact p.doSeekAndSpeed_storesSettled query time p.info.playbackRate
  · intro info stored
    simp at stored

theorem doPlaybackRate_storesSettled (rate : ℚ) : p.StoresSettled (p.doPlaybackRate query rate) := by
  intro info stored
  rw [doPlaybackRate_settings]
  unfold doPlaybackRate at stored
  split at stored
  · rename_i executed
    cases mem_doSeekAndSpeed stored
    simp [Settings.serve, executed.2, settings]
  · rcases List.mem_append.mp stored with state | stored
    · split at state <;> simp at state
    · obtain rfl := Action.storeInfo.inj (List.mem_singleton.mp stored)
      by_cases fast : rate ≥ rateThreshold <;> simp [Settings.serve, fast, settings]

theorem doVolume_storesSettled (volume : ℚ) : p.StoresSettled (p.doVolume volume) := by
  intro info stored
  obtain rfl := Action.storeInfo.inj (mem_doVolume stored)
  exact ⟨rfl, rfl⟩

theorem doBounds_storesSettled (z x y width height : Int) : p.StoresSettled (p.doBounds z x y width height) := by
  intro info stored
  rcases mem_doBounds stored with order | window
  · cases order
  · cases window

theorem updatePosition_storesSettled : p.StoresSettled (p.updatePosition query) := by
  intro info stored
  rw [updatePosition_settings]
  obtain ⟨timestamp, same⟩ := mem_updatePosition stored
  obtain rfl := Action.storeInfo.inj same
  exact ⟨rfl, rfl⟩

theorem preroll_storesSettled : p.StoresSettled (p.preroll query) := by
  intro info stored
  rw [preroll_settings]
  rcases List.mem_append.mp stored with start | last
  · rcases List.mem_append.mp start with told | sought
    · simp at told
    · split at sought
      · cases sought
      · cases mem_doSeekAndSpeed sought
        exact ⟨rfl, rfl⟩
  · obtain rfl := Action.storeInfo.inj (mem_doVolume last)
    refine ⟨rfl, ?_⟩
    have rate : (p.performAll ([.attachPositionSource, .reportPlayerState .presenting] ++
        (if p.info.isPaused = true then []
          else p.doSeekAndSpeed query p.lastSeek p.info.playbackRate))).info.playbackRate =
        p.info.playbackRate := by
      rw [performAll_append]
      split
      · rfl
      · rw [performAll_doSeekAndSpeed_info]
    exact rate

theorem gstBusCallback_storesSettled (message : Message) : p.StoresSettled (p.gstBusCallback query message) := by
  unfold gstBusCallback
  split
  · simp [StoresSettled]
  · split
    · exact p.preroll_storesSettled query
    · split <;> simp [StoresSettled]
  · split
    · simp [StoresSettled]
    · split <;> simp [StoresSettled]
  all_goals simp [StoresSettled]

end Player

namespace System

def getInfo (s : System) : Info := s.player.info

def shown (cfg : Config) (value : InfoValue) (s : System) (e : Event) : List ℚ :=
  (s.step cfg e).toList.map fun t => value.held t.getInfo

def StoresSettled (s : System) : Prop :=
  ∀ info, .storeInfo info ∈ s.worker.todo →
    info.volume = s.settled.volume ∧ info.playbackRate = s.settled.playbackRate

variable {cfg : Config} {s t : System} {e : Event}

theorem storesSettled_free (free : s.worker.todo = []) : s.StoresSettled := by
  intro info stored
  rw [free] at stored
  cases stored

theorem storesSettled_congr (stores : s.StoresSettled) (settled : t.settled = s.settled)
    (todo : t.worker.todo = s.worker.todo) : t.StoresSettled := by
  intro info stored
  rw [settled]
  exact stores info (todo ▸ stored)

theorem storesSettled_planned {plan : List Action} (stores : s.player.StoresSettled plan)
    (player : t.player = s.player) (todo : t.worker.todo = plan) : t.StoresSettled := by
  intro info stored
  have settled : t.settled = plan.foldl Settings.perform s.player.settings := by
    rw [System.settled, todo, player, Player.performAll_settings]
  rw [settled]
  exact stores info (todo ▸ stored)

theorem dispatchCall_storesSettled (query : Option Int) (call : Call) :
    (s.dispatchCall query call).StoresSettled := by
  cases call with
  | put | doSeek time ticket => exact storesSettled_free rfl
  | reportInitialized =>
    have silent : s.player.StoresSettled [.reportPlayerState .initialized] := by simp [Player.StoresSettled]
    exact storesSettled_planned silent rfl rfl
  | doPlaybackRate rate => exact storesSettled_planned (s.player.doPlaybackRate_storesSettled query rate) rfl rfl
  | doVolume volume => exact storesSettled_planned (s.player.doVolume_storesSettled volume) rfl rfl
  | doBounds z x y width height =>
    exact storesSettled_planned (s.player.doBounds_storesSettled z x y width height) rfl rfl

theorem step_storesSettled (sound : Sound s) (stores : s.StoresSettled) (h : s.step cfg e = some t) :
    t.StoresSettled := by
  have settled := step_settled sound h
  cases step_cases h with
  | called _ _ _ client | ignored _ client =>
    rw [(queued_client client s).2] at settled
    exact storesSettled_congr stores settled rfl
  | dispatchedCall => exact dispatchCall_storesSettled _ _
  | dispatchedMessage => exact storesSettled_planned (s.player.gstBusCallback_storesSettled _ _) rfl rfl
  | ticked => exact storesSettled_planned (s.player.updatePosition_storesSettled _) rfl rfl
  | resumed => exact storesSettled_planned (s.player.doSeekBody_storesSettled _ _) rfl rfl
  | spawning | entered | finished | left => exact storesSettled_free rfl
  | @acted calling a todo acting =>
    intro info stored
    have planned : .storeInfo info ∈ s.worker.todo := by
      rw [acting]
      exact List.mem_cons_of_mem _ stored
    rw [settled]
    exact stores info planned
  | _ => exact storesSettled_congr stores settled rfl

theorem step_shown (value : InfoValue) (sound : Sound s) (stores : s.StoresSettled) (h : s.step cfg e = some t) :
    value.held t.getInfo = value.held s.getInfo ∨ value.held t.getInfo = value.read t.settled := by
  have settled := step_settled sound h
  cases step_cases h with
  | @acted calling a todo acting =>
    have after : (s.act cfg a).player.info = (s.player.perform a).info := by rw [act_player]
    simp only [getInfo, after]
    cases a with
    | storeInfo info =>
      obtain ⟨volume, rate⟩ := stores info (by rw [acting]; exact List.mem_cons_self)
      rw [settled]
      exact Or.inr (value.ofStored info s.settled volume rate)
    | _ => exact Or.inl rfl
  | @dispatchedCall _ call => cases call <;> exact Or.inl rfl
  | _ => exact Or.inl rfl

/-- The values asked for so far are those of the calls that have been begun, which what is shown
follows, and those of the calls that wait. -/
structure Reads (value : InfoValue) (first : ℚ) (past : List Event) (log : List ℚ) (s : System) : Prop where
  sound : Sound s
  stores : s.StoresSettled
  served : ∃ served, first :: past.filterMap value.asked = served ++ s.pending.filterMap value.written ∧
    served.getLast? = some (value.read s.settled) ∧ Deferred.Follows served (first :: log)
  latest : (first :: log).getLast? = some (value.held s.getInfo)

theorem step_reads {value : InfoValue} {first : ℚ} {past : List Event} {log : List ℚ}
    (reads : Reads value first past log s) (h : s.step cfg e = some t) :
    Reads value first (past ++ [e]) (log ++ s.shown cfg value e) t := by
  obtain ⟨sound, stores, ⟨served, asked, newest, follows⟩, latest⟩ := reads
  have shown : s.shown cfg value e = [value.held t.getInfo] := by simp [System.shown, h]
  rw [shown]
  refine ⟨step_sound sound h, step_storesSettled sound stores h,
    ⟨served ++ (s.taken e).filterMap value.written, ?_, ?_, ?_⟩, ?_⟩
  · have queue : (s.taken e).filterMap value.written ++ t.pending.filterMap value.written =
        s.pending.filterMap value.written ++ (value.asked e).toList := by
      rw [← List.filterMap_append, step_pending sound h, List.filterMap_append, value.queues]
    rw [List.append_assoc, queue, ← List.append_assoc, ← asked, List.filterMap_append, List.cons_append]
    cases new : value.asked e <;> simp [new]
  · rw [step_settled sound h]
    exact Deferred.foldl_newest value.read value.written value.serves s.settled (s.taken e) newest
  · have before := follows.asks ((s.taken e).filterMap value.written)
    have newest' := Deferred.foldl_newest value.read value.written value.serves s.settled (s.taken e) newest
    rw [← step_settled sound h] at newest'
    rcases step_shown value sound stores h with same | settled
    · rw [same]
      exact before.repeats latest
    · rw [settled]
      exact before.tells newest'
  · rw [← List.cons_append, List.getLast?_concat]

theorem run_reads (value : InfoValue) (cfg : Config) (initial : value.held {} = 1) {es : List Event} {t : System}
    (run : Machine.exec (step cfg) (start cfg) es = some t) :
    Reads value 1 es (Machine.labels (step cfg) (shown cfg value) (start cfg) es) t := by
  refine Machine.exec_logged _ (fun _ _ _ _ _ reads h => step_reads reads h) ?_ run
  have settled : value.read (start cfg).settled = 1 :=
    (value.ofStored {} _ rfl rfl).symm.trans initial
  refine ⟨start_sound cfg, storesSettled_free rfl, ⟨[1], rfl, by rw [settled]; rfl, ⟨[0], by simp, rfl⟩⟩, ?_⟩
  rw [getInfo, start, Player.construct, initial]
  rfl

/-- A client that reads the record again and again, at whatever moments and until the player is gone,
sees volumes and rates that were asked for, or the first ones, and never an older one after a newer. -/
theorem info_reads_follow (cfg : Config) {es : List Event} {t : System}
    (run : Machine.exec (step cfg) (start cfg) es = some t) :
    Deferred.Follows (1 :: es.filterMap Event.volume)
        (1 :: Machine.labels (step cfg) (shown cfg .volume) (start cfg) es) ∧
      Deferred.Follows (1 :: es.filterMap Event.playbackRate)
        (1 :: Machine.labels (step cfg) (shown cfg .playbackRate) (start cfg) es) := by
  have seen : ∀ value : InfoValue, value.held {} = 1 → Deferred.Follows (1 :: es.filterMap value.asked)
      (1 :: Machine.labels (step cfg) (shown cfg value) (start cfg) es) := by
    intro value initial
    obtain ⟨-, -, ⟨served, asked, -, follows⟩, -⟩ := run_reads value cfg initial run
    rw [asked]
    exact follows.asks _
  exact ⟨seen .volume rfl, seen .playbackRate rfl⟩

/-- The worker stores the record with the old volume while the new one is asked for. -/
def volumeMeanwhile : List Event :=
  startup ++
    ([.setPlaybackRate 2, .dispatchCall none, .setVolume (1 / 2), .act, .finish, .dispatchCall none, .act] : List Event)

theorem info_reads_follow_replay :
    ∃ t : System, Machine.exec (step ⟨0, true, true, true⟩) (start ⟨0, true, true, true⟩) volumeMeanwhile = some t ∧
      t.getInfo = ⟨0, false, 1 / 2, 2⟩ ∧
      Deferred.Follows [1, 1 / 2]
        (1 :: Machine.labels (step ⟨0, true, true, true⟩) (shown ⟨0, true, true, true⟩ .volume)
          (start ⟨0, true, true, true⟩) volumeMeanwhile) := by
  have runs : ((Machine.exec (step ⟨0, true, true, true⟩) (start ⟨0, true, true, true⟩) volumeMeanwhile).any
      fun t => t.getInfo = ⟨0, false, 1 / 2, 2⟩) = true := by decide +kernel
  obtain ⟨t, run, shows⟩ := (Option.any_eq_true _ _).mp runs
  have asked : volumeMeanwhile.filterMap Event.volume = [1 / 2] := by decide +kernel
  have follows := (info_reads_follow _ run).1
  rw [asked] at follows
  exact ⟨t, run, of_decide_eq_true shows, follows⟩

end System
end CobaltWayland
