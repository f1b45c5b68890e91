import CobaltWayland.Plans
import CobaltWayland.Lib.Deferred

/-!
The calls on their way from the client to the worker. `SafeCall` puts each call of the client off; the
worker serves them in the order in which they were made, each of them once, and what they set is in
the end what serving each of them at once would have set.
-/

namespace CobaltWayland

/-- The members that a call sets whatever state the player is in. -/
@[ext]
structure Settings where
  ticket : Int
  volume : ℚ
  playbackRate : ℚ
  /-- The z order and the window of the last `DoBounds`. -/
  bounds : Int × Int × Int × Int × Int
  deriving DecidableEq, Repr

namespace Settings

def perform (s : Settings) : Action → Settings
  | .publishTicket ticket => { s with ticket }
  | .storeInfo info => { s with volume := info.volume, playbackRate := info.playbackRate }
  | .setZOrder z => { s with bounds := (z, s.bounds.2) }
  | .setWindow x y width height => { s with bounds := (s.bounds.1, x, y, width, height) }
  | _ => s

def serve (s : Settings) : Call → Settings
  | .put | .reportInitialized => s
  | .doSeek _ ticket => { s with ticket }
  | .doPlaybackRate rate => { s with playbackRate := if rate ≥ rateThreshold then rate else s.playbackRate }
  | .doVolume volume => { s with volume }
  | .doBounds z x y width height => { s with bounds := (z, x, y, width, height) }

end Settings

namespace Player

def settings (p : Player) : Settings where
  ticket := p.lastTicket
  volume := p.info.volume
  playbackRate := p.info.playbackRate
  bounds := (p.lastZ, p.lastX, p.lastY, p.lastWidth, p.lastHeight)

@[simp] theorem perform_settings (p : Player) (a : Action) :
    (p.perform a).settings = p.settings.perform a := by
  cases a <;> rfl

@[simp] theorem performAll_settings (p : Player) (as : List Action) :
    (p.performAll as).settings = as.foldl Settings.perform p.settings := by
  induction as generalizing p with
  | nil => rfl
  | cons a as ih => rw [performAll_cons, ih, perform_settings, List.foldl_cons]

/-! ### What each function sets -/

variable (p : Player) (query : Option Int)

theorem doSeekAndSpeed_settings (seekTo : Int) (speedTo : ℚ) :
    (p.doSeekAndSpeed query seekTo speedTo).foldl Settings.perform p.settings =
      { p.settings with playbackRate := speedTo } := by
  rw [doSeekAndSpeed_eq]
  by_cases jumps : p.Jumps seekTo
  · rw [if_pos jumps]
    rfl
  · rw [if_neg jumps]
    by_cases close : |speedTo - p.info.playbackRate| < rateThreshold
    · rw [if_pos close]
      rfl
    · rw [if_neg close]
      rfl

theorem doSeekBody_settings (time : Int) :
    (p.doSeekBody query time).foldl Settings.perform p.settings = p.settings := by
  unfold doSeekBody
  dsimp only
  split
  · exact p.doSeekAndSpeed_settings query time p.info.playbackRate
  · rfl

theorem doPlaybackRate_settings (rate : ℚ) :
    (p.doPlaybackRate query rate).foldl Settings.perform p.settings = p.settings.serve (.doPlaybackRate rate) := by
  unfold doPlaybackRate
  split
  · rename_i executed
    rw [doSeekAndSpeed_settings, Settings.serve, if_pos executed.2]
  · rw [List.foldl_append]
    have paused : (if p.positionUpdateSource = true then [Action.setState .paused] else []).foldl
        Settings.perform p.settings = p.settings := by
      split <;> rfl
    rw [paused]
    by_cases fast : rate ≥ rateThreshold <;> simp [fast, Settings.perform, Settings.serve, settings]

theorem doVolume_settings (volume : ℚ) :
    (p.doVolume volume).foldl Settings.perform p.settings = p.settings.serve (.doVolume volume) := rfl

theorem doBounds_settings (z x y width height : Int) :
    (p.doBounds z x y width height).foldl Settings.perform p.settings =
      p.settings.serve (.doBounds z x y width height) := by
  unfold doBounds
  rw [List.foldl_append]
  have order : (if z ≠ p.lastZ then [Action.setZOrder z] else []).foldl Settings.perform p.settings =
      { p.settings with bounds := (z, p.settings.bounds.2) } := by
    split
    · rfl
    · rename_i same
      rw [Decidable.not_not.mp same]
      rfl
  rw [order]
  split
  · rename_i same
    obtain ⟨rfl, rfl, rfl, rfl⟩ := same
    rfl
  · rfl

theorem updatePosition_settings :
    (p.updatePosition query).foldl Settings.perform p.settings = p.settings := by
  unfold updatePosition
  split <;> rfl

theorem preroll_settings : (p.preroll query).foldl Settings.perform p.settings = p.settings := by
  have sought : (if p.info.isPaused = true then []
      else p.doSeekAndSpeed query p.lastSeek p.info.playbackRate).foldl Settings.perform p.settings =
      p.settings := by
    split
    · rfl
    · exact p.doSeekAndSpeed_settings query p.lastSeek p.info.playbackRate
  unfold preroll
  rw [List.foldl_append, ← performAll_settings, doVolume_settings, performAll_settings, List.foldl_append]
  exact congrArg (Settings.serve · (.doVolume p.info.volume)) sought

theorem gstBusCallback_settings (message : Message) :
    (p.gstBusCallback query message).foldl Settings.perform p.settings = p.settings := by
  unfold gstBusCallback
  split
  · rfl
  · split
    · exact p.preroll_settings query
    · split <;> rfl
  · split
    · rfl
    · split <;> rfl
  all_goals rfl

end Player

namespace System

/-- The call that a public function queues, once it has accepted its arguments. -/
def Event.request : Event → Option Call
  | .seek seekToPts ticket => some (.doSeek (sbTimeToGstTime seekToPts) ticket)
  | .setPlaybackRate rate => if rate ≥ 0 then some (.doPlaybackRate rate) else none
  | .setVolume volume => if volume ≥ 0 ∧ volume ≤ 1 then some (.doVolume volume) else none
  | .setBounds _ x y width height => some (.doBounds 0 x y width height)
  | _ => none

def queued (s : System) : Event → List Call
  | .advance _ =>
    if s.stage = .posting then [.put] else if s.stage = .announcing then [.reportInitialized] else []
  | e => e.request.toList

theorem queued_cases (s : System) (e : Event) :
    s.queued e = e.request.toList ∨
      e.request = none ∧ (s.queued e = [.put] ∨ s.queued e = [.reportInitialized]) := by
  cases e with
  | advance ok =>
    simp only [queued]
    split
    · exact Or.inr ⟨rfl, Or.inl rfl⟩
    · split
      · exact Or.inr ⟨rfl, Or.inr rfl⟩
      · exact Or.inl rfl
  | _ => exact Or.inl rfl

/-- What is read off the calls of the client is read off its events. -/
theorem queued_filterMap {β : Type*} {read : Call → Option β} (put : read .put = none)
    (report : read .reportInitialized = none) (s : System) (e : Event) :
    (s.queued e).filterMap read = (e.request.bind read).toList := by
  rcases queued_cases s e with same | ⟨none, first | second⟩
  · rw [same]
    cases e.request with
    | none => rfl
    | some call => cases found : read call <;> simp [found]
  · simp [first, none, put]
  · simp [second, none, report]

def taken (s : System) : Event → List Call
  | .dispatchCall _ => s.calls.take 1
  | _ => []

def serving (s : System) : Bool :=
  match s.worker with
  | .seeking _ => true
  | .acting calling _ => calling
  | .absent | .created | .idle | .finished => false

/-- The queued calls that no one has begun to serve. -/
def pending (s : System) : List Call := if s.serving then s.calls.tail else s.calls

theorem calls_ne_nil {s : System} (sound : Sound s) (serving : s.serving = true) : s.calls ≠ [] := by
  unfold System.serving at serving
  split at serving
  · rename_i seeking
    obtain ⟨_, _, head⟩ := sound.seeking _ seeking
    simp [head]
  · rename_i acting
    subst serving
    exact sound.calling _ acting
  all_goals cases serving

theorem serving_congr {s t : System} (worker : t.worker = s.worker) : t.serving = s.serving := by
  simp only [serving, worker]

theorem pending_grows {s t : System} {more : List Call} (sound : Sound s) (worker : t.worker = s.worker)
    (calls : t.calls = s.calls ++ more) : t.pending = s.pending ++ more := by
  unfold pending
  rw [serving_congr worker, calls]
  by_cases serving : s.serving = true
  · rw [if_pos serving, if_pos serving, List.tail_append_of_ne_nil (calls_ne_nil sound serving)]
  · rw [if_neg serving, if_neg serving]

theorem client_queues {cfg : Config} {s t : System} {e : Event} (client : e.byClient = true)
    (h : s.step cfg e = some t) :
    t.worker = s.worker ∧ t.player = s.player ∧ t.calls = s.calls ++ e.request.toList := by
  cases e with
  | setPlaybackRate rate =>
    obtain ⟨-, rfl⟩ := Option.ite_some_none_eq_some.mp h
    by_cases accepted : rate ≥ 0 <;> simp [accepted, Event.request, safeCall]
  | setVolume volume =>
    obtain ⟨-, rfl⟩ := Option.ite_some_none_eq_some.mp h
    by_cases accepted : volume ≥ 0 ∧ volume ≤ 1 <;> simp [accepted, Event.request, safeCall]
  | setBounds z x y width height =>
    obtain ⟨-, rfl⟩ := Option.ite_some_none_eq_some.mp h
    simp [Event.request, safeCall]
  | writeSample d accepted =>
    obtain ⟨-, rfl⟩ := Option.ite_some_none_eq_some.mp h
    cases accepted <;> simp [Event.request]
  | _ => cases client

theorem queued_client {e : Event} (client : e.byClient = true) (s : System) :
    s.queued e = e.request.toList ∧ s.taken e = [] := by
  cases e <;> first | exact ⟨rfl, rfl⟩ | cases client

theorem taken_cons {cfg : Config} {s t : System} {e : Event} {call : Call} {more : List Call}
    (begun : s.taken e = call :: more) (h : s.step cfg e = some t) :
    ∃ query, e = .dispatchCall query ∧ s.worker = .idle ∧ more = [] ∧ t = s.dispatchCall query call := by
  cases e with
  | dispatchCall query =>
    cases step_cases h with
    | called _ _ _ client | ignored _ client => cases client
    | dispatchedCall idle head =>
      simp only [taken, head, List.take_succ_cons, List.take_zero, List.cons.injEq] at begun
      obtain ⟨rfl, rfl⟩ := begun
      exact ⟨query, rfl, idle, rfl, rfl⟩
  | _ => cases begun

theorem step_pending {cfg : Config} {s t : System} {e : Event} (sound : Sound s)
    (h : s.step cfg e = some t) : s.taken e ++ t.pending = s.pending ++ s.queued e := by
  cases step_cases h with
  | called _ _ _ client | ignored _ client =>
    obtain ⟨worker, -, calls⟩ := client_queues client h
    obtain ⟨asked, none⟩ := queued_client client s
    rw [none, asked, List.nil_append]
    exact pending_grows sound worker calls
  | seek => exact pending_grows sound rfl rfl
  | posting at_ | announcing at_ =>
    simp only [queued, at_]
    exact pending_grows sound rfl rfl
  | pausing at_ | initialized at_ | failed at_ | waiting at_ | destroyed at_ | stopping at_ | detaching at_
  | quitting at_ | joining at_ | droppingAudio at_ | droppingVideo at_ | unreffing at_ =>
    simp only [queued, at_]
    exact pending_grows sound rfl (List.append_nil _).symm
  | spawning at_ =>
    have absent := sound.early (by rw [at_]; rfl)
    simp [taken, queued, at_, pending, serving, absent]
  | written | posted | sourceChanged | needData | consumed =>
    exact pending_grows sound rfl (List.append_nil _).symm
  | entered created => simp [taken, queued, Event.request, pending, serving, created]
  | @dispatchedCall query call rest idle head =>
    cases call <;>
      simp [taken, queued, Event.request, pending, serving, dispatchCall, perform, idle, head]
  | dispatchedMessage idle | ticked idle | left idle =>
    simp [taken, queued, Event.request, pending, serving, perform, idle]
  | resumed seeking => simp [taken, queued, Event.request, pending, serving, seeking]
  | @acted calling a todo acting => simp [taken, queued, Event.request, pending, serving, acting]
  | @finished calling acting =>
    cases calling <;> simp [taken, queued, Event.request, pending, serving, acting]

/-- The worker begins to serve the calls in the order in which they were queued, each of them once and
none before the one ahead of it has returned. -/
theorem calls_served_in_order (cfg : Config) {es : List Event} {t : System}
    (run : Machine.exec (step cfg) (start cfg) es = some t) :
    Machine.labels (step cfg) taken (start cfg) es ++ t.pending =
      Machine.labels (step cfg) queued (start cfg) es :=
  Deferred.exec_in_order Sound (fun _ _ _ => step_sound) (fun _ _ _ => step_pending) (start_sound cfg) run

/-- Two calls are queued while the worker is still about to announce itself; it has begun one of them. -/
def queuedEarly : List Event :=
  startup.take 9 ++
    ([.seek 5 1, .setVolume (1 / 2), .dispatchCall none, .act, .finish, .dispatchCall none] : List Event)

theorem calls_served_in_order_replay :
    ∃ t : System, Machine.exec (step ⟨0, true, true, true⟩) (start ⟨0, true, true, true⟩) queuedEarly = some t ∧
      Machine.labels (step ⟨0, true, true, true⟩) taken (start ⟨0, true, true, true⟩) queuedEarly ++ t.pending =
        Machine.labels (step ⟨0, true, true, true⟩) queued (start ⟨0, true, true, true⟩) queuedEarly := by
  have runs : (Machine.exec (step ⟨0, true, true, true⟩) (start ⟨0, true, true, true⟩) queuedEarly).isSome = true := by
    decide +kernel
  obtain ⟨t, run⟩ := Option.isSome_iff_exists.mp runs
  exact ⟨t, run, calls_served_in_order _ run⟩

/-! ### What the calls set in the end -/

namespace Event

def volume : Event → Option ℚ
  | .setVolume volume => if volume ≥ 0 ∧ volume ≤ 1 then some volume else none
  | _ => none

/-- A rate to play at. A smaller one only pauses. -/
def playbackRate : Event → Option ℚ
  | .setPlaybackRate rate => if rate ≥ rateThreshold then some rate else none
  | _ => none

/-- `SetBounds` does not pass its z order on. -/
def bounds : Event → Option (Int × Int × Int × Int × Int)
  | .setBounds _ x y width height => some (0, x, y, width, height)
  | _ => none

end Event

/-- What the members will be once the worker has done what it is at. -/
def settled (s : System) : Settings := (s.player.performAll s.worker.todo).settings

theorem settled_congr {s t : System} (player : t.player.settings = s.player.settings)
    (todo : t.worker.todo = s.worker.todo) : t.settled = s.settled := by
  simp only [settled, Player.performAll_settings, player, todo]

theorem settled_free {s : System} (free : s.worker.todo = []) : s.settled = s.player.settings := by
  rw [settled, free, Player.performAll_nil]

theorem dispatchCall_settled {s : System} (idle : s.worker = .idle) (query : Option Int) (call : Call) :
    (s.dispatchCall query call).settled = s.settled.serve call := by
  rw [settled_free (s := s) (by rw [idle]; rfl), settled, Player.performAll_settings]
  cases call with
  | put | reportInitialized | doSeek _ _ => rfl
  | doPlaybackRate rate => exact s.player.doPlaybackRate_settings query rate
  | doVolume volume => exact s.player.doVolume_settings volume
  | doBounds z x y width height => exact s.player.doBounds_settings z x y width height

theorem step_settled {cfg : Config} {s t : System} {e : Event} (sound : Sound s)
    (h : s.step cfg e = some t) : t.settled = (s.taken e).foldl Settings.serve s.settled := by
  cases step_cases h with
  | called _ _ _ client | ignored _ client =>
    rw [(queued_client client s).2]
    exact settled_congr rfl rfl
  | @dispatchedCall query call rest idle head =>
    have begun : s.taken (.dispatchCall query) = [call] := by simp [taken, head]
    rw [begun]
    exact dispatchCall_settled idle query call
  | spawning at_ =>
    have absent := sound.early (by rw [at_]; rfl)
    exact settled_congr rfl (by simp [absent, Worker.todo])
  | entered created => exact settled_congr rfl (by simp [created, Worker.todo])
  | left idle => exact settled_congr rfl (by simp [idle, Worker.todo])
  | @dispatchedMessage query message rest idle =>
    rw [settled_free (s := s) (by rw [idle]; rfl)]
    exact (Player.performAll_settings _ _).trans (s.player.gstBusCallback_settings query message)
  | @ticked query idle =>
    rw [settled_free (s := s) (by rw [idle]; rfl)]
    exact (Player.performAll_settings _ _).trans (s.player.updatePosition_settings query)
  | @resumed query time seeking =>
    rw [settled_free (s := s) (by rw [seeking]; rfl)]
    exact (Player.performAll_settings _ _).trans (s.player.doSeekBody_settings query time)
  | acted acting => simp [settled, taken, acting, Worker.todo]
  | finished acting => exact settled_congr rfl (by simp [acting, Worker.todo])
  | _ => exact settled_congr rfl rfl

/-- What the members will be once the worker has also served what is queued. -/
def promised (s : System) : Settings := s.pending.foldl Settings.serve s.settled

def ask (settings : Settings) (e : Event) : Settings := e.request.toList.foldl Settings.serve settings

theorem queued_ask (s : System) (settings : Settings) (e : Event) :
    (s.queued e).foldl Settings.serve settings = ask settings e := by
  unfold ask
  rcases queued_cases s e with same | ⟨none, first | second⟩
  · rw [same]
  · rw [first, none]
    rfl
  · rw [second, none]
    rfl

theorem step_promised {cfg : Config} {s t : System} {e : Event} (sound : Sound s)
    (h : s.step cfg e = some t) : t.promised = ask s.promised e := by
  rw [promised, step_settled sound h, ← List.foldl_append, step_pending sound h, List.foldl_append,
    queued_ask, promised]

theorem ask_eq (settings : Settings) (e : Event) :
    ask settings e =
      { ticket := e.ticket.getD settings.ticket
        volume := e.volume.getD settings.volume
        playbackRate := e.playbackRate.getD settings.playbackRate
        bounds := e.bounds.getD settings.bounds } := by
  cases e with
  | setPlaybackRate rate =>
    have positive : 0 < rateThreshold := by norm_num [rateThreshold]
    by_cases fast : rate ≥ rateThreshold
    · have accepted : rate ≥ 0 := positive.le.trans fast
      simp [ask, Event.request, Event.ticket, Event.volume, Event.playbackRate, Event.bounds, Settings.serve,
        accepted, fast]
    · by_cases accepted : rate ≥ 0 <;>
        simp [ask, Event.request, Event.ticket, Event.volume, Event.playbackRate, Event.bounds,
          Settings.serve, accepted, fast]
  | setVolume volume =>
    by_cases accepted : volume ≥ 0 ∧ volume ≤ 1 <;>
      simp [ask, Event.request, Event.ticket, Event.volume, Event.playbackRate, Event.bounds, Settings.serve,
        accepted]
  | _ => rfl

/-- Whenever the worker has nothing left to do, the ticket in force, the volume, the playback rate and
the bounds are the last ones that the client gave, whatever else happened in between. -/
theorem settled_as_asked (cfg : Config) {es : List Event} {t : System}
    (run : Machine.exec (step cfg) (start cfg) es = some t) (idle : t.worker = .idle)
    (served : t.calls = []) :
    t.player.settings =
      { ticket := (es.filterMap Event.ticket).getLastD cfg.initialTicket
        volume := (es.filterMap Event.volume).getLastD 1
        playbackRate := (es.filterMap Event.playbackRate).getLastD 1
        bounds := (es.filterMap Event.bounds).getLastD (-1, -1, -1, -1, -1) } := by
  have kept : t.promised = t.player.settings := by
    rw [promised, settled_free (by rw [idle]; rfl)]
    simp [pending, serving, idle, served]
  rw [← kept, Deferred.exec_folds Sound (fun _ _ _ => step_sound) (fun _ _ _ => step_promised)
    (start_sound cfg) run]
  ext1
  · exact Deferred.foldl_last Settings.ticket Event.ticket (by simp [ask_eq]) _ es
  · exact Deferred.foldl_last Settings.volume Event.volume (by simp [ask_eq]) _ es
  · exact Deferred.foldl_last Settings.playbackRate Event.playbackRate (by simp [ask_eq]) _ es
  · exact Deferred.foldl_last Settings.bounds Event.bounds (by simp [ask_eq]) _ es

/-- A seek, a rate and a pause, all of them served. -/
def soughtAndPaused : List Event :=
  startup ++
    ([.seek 5 1, .setPlaybackRate 2, .setPlaybackRate 0, .dispatchCall none, .resume none, .act, .finish,
      .dispatchCall none, .act, .finish, .dispatchCall none, .act, .finish] : List Event)

theorem settled_as_asked_replay :
    ∃ t : System, Machine.exec (step ⟨0, true, true, true⟩) (start ⟨0, true, true, true⟩) soughtAndPaused = some t ∧
      t.player.settings =
        { ticket := 1, volume := 1, playbackRate := 2, bounds := (-1, -1, -1, -1, -1) } := by
  have ends : ((Machine.exec (step ⟨0, true, true, true⟩) (start ⟨0, true, true, true⟩) soughtAndPaused).any
      fun t => t.worker = .idle ∧ t.calls = []) = true := by decide +kernel
  obtain ⟨t, run, ended⟩ := (Option.any_eq_true _ _).mp ends
  obtain ⟨idle, served⟩ := of_decide_eq_true ended
  exact ⟨t, run, (settled_as_asked _ run idle served).trans (by decide +kernel)⟩

end System
end CobaltWayland
