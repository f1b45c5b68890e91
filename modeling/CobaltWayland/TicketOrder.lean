import CobaltWayland.CallOrder

/-!
The tickets that the client gets to see. Each report to the player or decoder callback carries the
ticket of a seek that the worker had taken up by then. `LastTicket` is written by the worker alone and
read without a lock: a streaming thread in `ReportDecoderState` tests it, reads it again for the call and
only then calls, and the worker may publish the next ticket between any two of the three. So the reports
of different threads may overtake each other, but those of one thread never go back to an older seek.
-/

namespace CobaltWayland

/-- Where a streaming thread is in `ReportDecoderState`. -/
inductive Reporting where
  | outside
  /-- `LastTicket` was not the initial ticket. -/
  | allowed
  | calling (ticket : Int)
  deriving DecidableEq, Repr

def Reporting.held : Reporting → List Int
  | .calling ticket => [ticket]
  | .outside | .allowed => []

/-- Who calls `DecoderStatusFunction`: the streaming thread of an appsrc, or the worker and, once that is
joined, the thread of the destructor. -/
inductive Reporter where
  | streaming (d : Stream)
  | player
  deriving DecidableEq, Repr

/-- The system with the calls of `DecoderStatusFunction` as they reach the client, oldest first. -/
structure Telling where
  system : System
  streaming : Stream → Reporting := fun _ => .outside
  told : List (Reporter × Int) := []

inductive TellEvent where
  /-- A step of the system. `NeedData` comes as far as the test of `LastTicket`. -/
  | system (e : System.Event)
  | read (d : Stream)
  | call (d : Stream)
  deriving DecidableEq, Repr

namespace System

/-- The tickets that a step from `s` to `t` passes to `ReportDecoderState`. -/
def reported (s t : System) : List Int :=
  (t.decoderReports.drop s.decoderReports.length).map fun report => report.2.2

/-- The ticket a step publishes: that of the `DoSeek` it begins. -/
def published (s : System) (e : Event) : List Int := (s.taken e).filterMap Call.ticket

def playerTickets (s : System) : List Int := s.player.reports.map Prod.snd

structure TicketsTold (cfg : Config) (tickets : List Int) (s : System) : Prop where
  current : s.player.lastTicket = tickets.getLastD cfg.initialTicket
  player : Deferred.Follows (cfg.initialTicket :: tickets) s.playerTickets

variable {cfg : Config} {tickets : List Int} {s t u : System} {e : Event}

theorem TicketsTold.congr (told : TicketsTold cfg tickets s)
    (ticket : t.player.lastTicket = s.player.lastTicket) (reports : t.player.reports = s.player.reports) :
    TicketsTold cfg tickets t where
  current := ticket.trans told.current
  player := by unfold playerTickets; rw [reports]; exact told.player

theorem start_ticketsTold (cfg : Config) : TicketsTold cfg [] (start cfg) where
  current := rfl
  player := Deferred.follows_nil [cfg.initialTicket]

theorem TicketsTold.publishes (told : TicketsTold cfg tickets s) {ticket : Int}
    (stored : t.player.lastTicket = ticket) (reports : t.player.reports = s.player.reports) :
    TicketsTold cfg (tickets ++ [ticket]) t where
  current := by rw [stored, List.getLastD_concat]
  player := by
    unfold playerTickets
    rw [reports, ← List.cons_append]
    exact told.player.asks [ticket]

theorem TicketsTold.reportsPlayer (told : TicketsTold cfg tickets s) (state : PlayerState) :
    TicketsTold cfg tickets (s.perform (.reportPlayerState state)) where
  current := told.current
  player := by
    have newest : (cfg.initialTicket :: tickets).getLast? = some s.player.lastTicket := by
      rw [told.current, List.getLast?_cons, List.getLastD_eq_getLast?]
    have tells := told.player.tells newest
    simpa [playerTickets, perform, Player.perform] using tells

theorem TicketsTold.acts (told : TicketsTold cfg tickets s) {a : Action} {made : Bool}
    (planned : a.Planned made ∨ a = .reportPlayerState .initialized) :
    TicketsTold cfg tickets (s.act cfg a) := by
  cases a with
  | publishTicket ticket => exact (planned.resolve_right (by simp)).elim
  | reportPlayerState state => exact told.reportsPlayer state
  | _ => exact told.congr (by rw [act_player]; rfl) (by rw [act_player]; rfl)

theorem step_ticketsTold (sound : Sound s) (told : TicketsTold cfg tickets s) (h : s.step cfg e = some t) :
    TicketsTold cfg (tickets ++ s.published e) t := by
  have quiet : s.taken e = [] → TicketsTold cfg tickets t → TicketsTold cfg (tickets ++ s.published e) t := by
    intro none told
    rwa [published, none, List.filterMap_nil, List.append_nil]
  cases step_cases h with
  | @dispatchedCall query call rest idle head =>
    cases call with
    | doSeek time ticket =>
      have asked : s.published (.dispatchCall query) = [ticket] := by
        simp [published, taken, head, Call.ticket]
      rw [asked]
      exact told.publishes rfl rfl
    | _ =>
      have nothing : s.published (.dispatchCall query) = [] := by simp [published, taken, head, Call.ticket]
      rw [nothing, List.append_nil]
      exact told.congr rfl rfl
  | called _ _ _ client | ignored _ client =>
    exact quiet (queued_client client s).2 (told.congr rfl rfl)
  | acted acting => exact quiet rfl ((told.acts (sound.planned acting)).congr rfl rfl)
  | left => exact quiet rfl ((told.reportsPlayer .destroyed).congr rfl rfl)
  | _ => exact quiet rfl (told.congr rfl rfl)

theorem step_asked (sound : Sound s) (h : s.step cfg e = some t) :
    s.published e ++ t.pending.filterMap Call.ticket = s.pending.filterMap Call.ticket ++ e.ticket.toList := by
  have asked : e.request.bind Call.ticket = e.ticket := by
    cases e with
    | setPlaybackRate | setVolume =>
      simp only [Event.request]
      split <;> rfl
    | _ => rfl
  rw [published, ← List.filterMap_append, step_pending sound h, List.filterMap_append,
    queued_filterMap rfl rfl, asked]

/-! ### What is passed to the decoder callback -/

/-- Each report of the step is made under the client's newest ticket that was published. -/
def ReportsNewest (tickets : List Int) (s t : System) : Prop :=
  ∃ more, t.decoderReports = s.decoderReports ++ more ∧ ∀ report ∈ more, tickets.getLast? = some report.2.2

theorem reportsNewest_same (same : t.decoderReports = s.decoderReports) : ReportsNewest tickets s t :=
  ⟨[], by rw [same, List.append_nil], by simp⟩

theorem ReportsNewest.trans (first : ReportsNewest tickets s t) (second : ReportsNewest tickets t u) :
    ReportsNewest tickets s u := by
  obtain ⟨more, reports, newest⟩ := first
  obtain ⟨others, further, newer⟩ := second
  refine ⟨more ++ others, by rw [further, reports, List.append_assoc], fun report listed => ?_⟩
  exact (List.mem_append.mp listed).elim (newest report) (newer report)

theorem ReportsNewest.reported (reports : ReportsNewest tickets s t) :
    ∀ ticket ∈ s.reported t, tickets.getLast? = some ticket := by
  obtain ⟨more, appended, newest⟩ := reports
  intro ticket listed
  rw [System.reported, appended, List.drop_left] at listed
  obtain ⟨report, made, rfl⟩ := List.mem_map.mp listed
  exact newest report made

/-- `ReportDecoderState` says nothing while no ticket of the client is in force. -/
theorem reportDecoderState_newest (current : s.player.lastTicket = tickets.getLastD cfg.initialTicket) (d : Stream)
    (state : DecoderState) : ReportsNewest tickets s (s.reportDecoderState cfg d state) := by
  refine ⟨_, rfl, fun report made => ?_⟩
  unfold Player.reportDecoderState at made
  split at made
  · rename_i asked
    obtain rfl := List.mem_singleton.mp made
    rw [List.getLastD_eq_getLast?] at current
    cases last : tickets.getLast? with
    | none =>
      rw [last] at current
      exact absurd current asked.1
    | some ticket =>
      rw [last] at current
      exact congrArg some current.symm
  · cases made

theorem seekData_newest (current : s.player.lastTicket = tickets.getLastD cfg.initialTicket) (d : Stream) :
    ReportsNewest tickets s (s.seekData cfg d) := by
  unfold seekData
  split
  · exact reportDecoderState_newest current d .needsData
  · exact reportsNewest_same rfl

theorem act_newest (current : s.player.lastTicket = tickets.getLastD cfg.initialTicket) (a : Action) :
    ReportsNewest tickets s (s.act cfg a) := by
  unfold act
  split
  · rename_i rate time
    -- the seek itself leaves the ticket and the reports alone
    have first : ReportsNewest tickets s ((s.perform (.seek rate (some time))).seekData cfg .audio) :=
      seekData_newest (s := s.perform (.seek rate (some time))) current .audio
    have still : ((s.perform (.seek rate (some time))).seekData cfg .audio).player.lastTicket =
        tickets.getLastD cfg.initialTicket := by
      unfold seekData
      split <;> exact current
    exact first.trans (seekData_newest still .video)
  · exact reportsNewest_same rfl

theorem step_newest (current : s.player.lastTicket = tickets.getLastD cfg.initialTicket)
    (h : s.step cfg e = some t) : ReportsNewest tickets s t := by
  cases step_cases h with
  | needData => exact reportDecoderState_newest current _ .needsData
  | acted => exact act_newest current _
  | droppingAudio | droppingVideo => exact reportDecoderState_newest current _ .destroyed
  | @dispatchedCall query call =>
    cases call <;> exact reportsNewest_same rfl
  | _ => exact reportsNewest_same rfl

end System

namespace Telling

def toldBy (s : Telling) (r : Reporter) : List Int := (s.told.filter (·.1 = r)).map Prod.snd

/-- What a reporter has read and not yet passed on. -/
def held (s : Telling) : Reporter → List Int
  | .streaming d => (s.streaming d).held
  | .player => []

def move (s : Telling) (d : Stream) (at_ : Reporting) : Telling :=
  { s with streaming := Function.update s.streaming d at_ }

def tell (s : Telling) (r : Reporter) (tickets : List Int) : Telling :=
  { s with told := s.told ++ tickets.map fun ticket => (r, ticket) }

def step (cfg : Config) (s : Telling) : TellEvent → Option Telling
  | .system (.needData d) =>
    if s.streaming d = .outside then
      (s.system.step cfg (.needData d)).map fun t =>
        { s with system := t }.move d (if s.system.reported t = [] then .outside else .allowed)
    else none
  | .system e =>
    (s.system.step cfg e).map fun t => { s with system := t }.tell .player (s.system.reported t)
  | .read d => if s.streaming d = .allowed then some (s.move d (.calling s.system.player.lastTicket)) else none
  | .call d =>
    match s.streaming d with
    | .calling ticket => some ((s.move d .outside).tell (.streaming d) [ticket])
    | .outside | .allowed => none

def published (s : Telling) : TellEvent → List Int
  | .system e => s.system.published e
  | .read _ | .call _ => []

/-- The invariant: what each reporter has told and is about to tell names the tickets in their order. -/
structure Told (cfg : Config) (tickets : List Int) (s : Telling) : Prop where
  sound : System.Sound s.system
  system : System.TicketsTold cfg tickets s.system
  allowed : ∀ d, s.streaming d = .allowed → tickets ≠ []
  follows : ∀ r, Deferred.Follows tickets (s.toldBy r ++ s.held r)

variable {cfg : Config} {tickets : List Int} {s t : Telling} {e : TellEvent}

theorem start_told (cfg : Config) : Told cfg [] { system := System.start cfg } where
  sound := System.start_sound cfg
  system := System.start_ticketsTold cfg
  allowed := by simp
  follows := fun r => by cases r <;> exact Deferred.follows_nil []

theorem toldBy_tell (s : Telling) (r : Reporter) (more : List Int) (other : Reporter) :
    (s.tell r more).toldBy other = s.toldBy other ++ if r = other then more else [] := by
  unfold toldBy tell
  rw [List.filter_append, List.map_append]
  by_cases same : r = other
  · subst same
    simp [List.filter_map, Function.comp_def]
  · simp [List.filter_map, Function.comp_def, same]

theorem held_move (s : Telling) (d : Stream) (at_ : Reporting) (r : Reporter) :
    (s.move d at_).held r = if r = .streaming d then at_.held else s.held r := by
  cases r with
  | player => rfl
  | streaming other => by_cases same : other = d <;> simp [held, move, same]

theorem Told.newest (told : Told cfg tickets s) (asked : tickets ≠ []) :
    tickets.getLast? = some s.system.player.lastTicket := by
  rw [told.system.current, List.getLastD_eq_getLast?, List.getLast?_eq_some_getLast asked, Option.getD_some]

/-- The worker and the destructor read what they pass on themselves. -/
theorem Told.system_step (told : Told cfg tickets s) {e : System.Event} {u : System}
    (h : s.system.step cfg e = some u) :
    Told cfg (tickets ++ s.system.published e) ({ s with system := u }.tell .player (s.system.reported u)) where
  sound := System.step_sound told.sound h
  system := System.step_ticketsTold told.sound told.system h
  allowed := fun d at_ => List.append_ne_nil_of_left_ne_nil (told.allowed d at_) _
  follows := by
    have newest := (System.step_newest told.system.current h).reported
    intro r
    apply Deferred.Follows.asks
    have before := told.follows r
    rw [toldBy_tell]
    cases r with
    | player =>
      rw [held, List.append_nil] at before
      rw [if_pos rfl, held, List.append_nil]
      exact before.tells_all newest
    | streaming d =>
      rw [if_neg (by simp), List.append_nil]
      exact before

theorem allowed_move (allowed : ∀ d, s.streaming d = .allowed → tickets ≠ []) {d : Stream} {at_ : Reporting}
    (own : at_ = .allowed → tickets ≠ []) : ∀ other, (s.move d at_).streaming other = .allowed → tickets ≠ [] := by
  intro other found
  by_cases same : other = d
  · subst same
    exact own (by simpa [move] using found)
  · exact allowed other (by simpa [move, same] using found)

theorem follows_move (follows : ∀ r, Deferred.Follows tickets (s.toldBy r ++ s.held r)) {d : Stream} {at_ : Reporting}
    (own : Deferred.Follows tickets (s.toldBy (.streaming d) ++ at_.held)) (r : Reporter) :
    Deferred.Follows tickets (s.toldBy r ++ (s.move d at_).held r) := by
  rw [held_move]
  by_cases same : r = .streaming d
  · subst same
    rw [if_pos rfl]
    exact own
  · rw [if_neg same]
    exact follows r

/-- `NeedData` on a streaming thread, up to the test. -/
theorem Told.needData_step (told : Told cfg tickets s) {d : Stream} {u : System} (out : s.streaming d = .outside)
    (h : s.system.step cfg (.needData d) = some u) :
    Told cfg tickets
      ({ s with system := u }.move d (if s.system.reported u = [] then .outside else .allowed)) where
  sound := System.step_sound told.sound h
  system := by
    have next := System.step_ticketsTold told.sound told.system h
    have silent : s.system.published (.needData d) = [] := rfl
    rw [silent, List.append_nil] at next
    exact next
  allowed := by
    refine allowed_move told.allowed fun allowed => ?_
    have newest := (System.step_newest told.system.current h).reported
    have some_reported : s.system.reported u ≠ [] := by
      intro silent
      simp [silent] at allowed
    obtain ⟨ticket, listed⟩ := List.exists_mem_of_ne_nil _ some_reported
    rintro rfl
    cases newest ticket listed
  follows := by
    have own := told.follows (.streaming d)
    rw [held, out] at own
    refine follows_move told.follows ?_
    split <;> exact own

theorem Told.read_step (told : Told cfg tickets s) {d : Stream} (at_ : s.streaming d = .allowed) :
    Told cfg tickets (s.move d (.calling s.system.player.lastTicket)) where
  sound := told.sound
  system := told.system
  allowed := allowed_move told.allowed fun _ => told.allowed d at_
  follows := by
    have own := told.follows (.streaming d)
    rw [held, at_, Reporting.held, List.append_nil] at own
    exact follows_move told.follows (own.tells (told.newest (told.allowed d at_)))

theorem Told.call_step (told : Told cfg tickets s) {d : Stream} {ticket : Int} (at_ : s.streaming d = .calling ticket) :
    Told cfg tickets ((s.move d .outside).tell (.streaming d) [ticket]) where
  sound := told.sound
  system := told.system
  allowed := allowed_move told.allowed (by simp)
  follows := by
    intro r
    have before := told.follows r
    rw [toldBy_tell]
    change Deferred.Follows tickets (s.toldBy r ++ _ ++ (s.move d .outside).held r)
    rw [held_move]
    by_cases same : r = .streaming d
    · -- what was held has been told
      subst same
      rw [held, at_] at before
      simpa [Reporting.held] using before
    · simpa [same, Ne.symm same] using before

theorem step_told (told : Told cfg tickets s) (h : s.step cfg e = some t) : Told cfg (tickets ++ s.published e) t := by
  cases e with
  | system e =>
    cases e with
    | needData d =>
      obtain ⟨out, taken⟩ := Option.ite_none_right_eq_some.mp h
      obtain ⟨u, stepped, rfl⟩ := Option.map_eq_some_iff.mp taken
      have silent : published s (.system (.needData d)) = [] := rfl
      rw [silent, List.append_nil]
      exact told.needData_step out stepped
    | _ =>
      obtain ⟨u, stepped, rfl⟩ := Option.map_eq_some_iff.mp h
      exact told.system_step stepped
  | read d =>
    obtain ⟨at_, rfl⟩ := Option.ite_some_none_eq_some.mp h
    simpa [published] using told.read_step at_
  | call d =>
    simp only [step] at h
    split at h
    · rename_i ticket at_
      obtain rfl := Option.some.inj h
      simpa [published] using told.call_step at_
    all_goals cases h

def ticket : TellEvent → Option Int
  | .system e => e.ticket
  | .read _ | .call _ => none

theorem step_system (h : s.step cfg e = some t) :
    (∃ e', e = .system e' ∧ s.system.step cfg e' = some t.system) ∨
      ticket e = none ∧ s.published e = [] ∧ t.system = s.system := by
  cases e with
  | system e =>
    left
    refine ⟨e, rfl, ?_⟩
    cases e with
    | needData d =>
      obtain ⟨_, taken⟩ := Option.ite_none_right_eq_some.mp h
      obtain ⟨u, stepped, rfl⟩ := Option.map_eq_some_iff.mp taken
      exact stepped
    | _ =>
      obtain ⟨u, stepped, rfl⟩ := Option.map_eq_some_iff.mp h
      exact stepped
  | read d =>
    obtain ⟨_, rfl⟩ := Option.ite_some_none_eq_some.mp h
    exact Or.inr ⟨rfl, rfl, rfl⟩
  | call d =>
    simp only [step] at h
    split at h
    · obtain rfl := Option.some.inj h
      exact Or.inr ⟨rfl, rfl, rfl⟩
    all_goals cases h

theorem step_asked (sound : System.Sound s.system) (h : s.step cfg e = some t) :
    s.published e ++ t.system.pending.filterMap Call.ticket =
      s.system.pending.filterMap Call.ticket ++ (ticket e).toList := by
  rcases step_system h with ⟨e', rfl, stepped⟩ | ⟨none, silent, same⟩
  · exact System.step_asked sound stepped
  · rw [none, silent, same, List.nil_append, Option.toList_none, List.append_nil]

/-- In every run each thread passes to the decoder callback the tickets of the client's seeks in the order
of the `Seek` calls, and the player callback gets the initial ticket and then the client's: none of them
ever goes back to an older seek. -/
theorem tickets_never_go_back (cfg : Config) {es : List TellEvent} {t : Telling}
    (run : Machine.exec (step cfg) { system := System.start cfg } es = some t) :
    (∀ r, Deferred.Follows (es.filterMap ticket) (t.toldBy r)) ∧
      Deferred.Follows (cfg.initialTicket :: es.filterMap ticket) t.system.playerTickets := by
  have told : es.filterMap ticket =
        Machine.labels (step cfg) published { system := System.start cfg } es ++
          t.system.pending.filterMap Call.ticket ∧
      Told cfg (Machine.labels (step cfg) published { system := System.start cfg } es) t := by
    refine Machine.exec_logged
      (fun past log s => past.filterMap ticket = log ++ s.system.pending.filterMap Call.ticket ∧ Told cfg log s)
      ?_ ⟨rfl, start_told cfg⟩ run
    rintro past log s e u ⟨asked, told⟩ h
    refine ⟨?_, step_told told h⟩
    rw [List.filterMap_append, asked, List.append_assoc, List.append_assoc, step_asked told.sound h]
    congr 2
  obtain ⟨asked, told⟩ := told
  rw [asked]
  refine ⟨fun r => ?_, told.system.player.asks _⟩
  exact (told.follows r).of_append.asks _

/-- The audio thread has read the first ticket when the worker publishes the second one, which the video
thread reads and passes on first. -/
def overtaken : List TellEvent :=
  (System.startup ++ System.registration ++
      ([.seek 5 7, .dispatchCall none, .needData .audio] : List System.Event)).map .system ++
    ([.read .audio, .system (.resume none), .system .act, .system .finish, .system (.seek 6 9),
      .system (.dispatchCall none), .system (.needData .video), .read .video, .call .video, .call .audio] :
        List TellEvent)

theorem tickets_never_go_back_replay :
    ∃ t : Telling, Machine.exec (step ⟨0, true, true, true⟩) { system := System.start ⟨0, true, true, true⟩ }
        overtaken = some t ∧
      t.told = [(.streaming .video, 9), (.streaming .audio, 7)] ∧
      (∀ r, Deferred.Follows [7, 9] (t.toldBy r)) ∧ Deferred.Follows [0, 7, 9] t.system.playerTickets := by
  have runs : ((Machine.exec (step ⟨0, true, true, true⟩) { system := System.start ⟨0, true, true, true⟩ }
      overtaken).any fun t => t.told = [(.streaming .video, 9), (.streaming .audio, 7)]) = true := by
    decide +kernel
  obtain ⟨t, run, told⟩ := (Option.any_eq_true _ _).mp runs
  exact ⟨t, run, of_decide_eq_true told, tickets_never_go_back _ run⟩

end Telling
end CobaltWayland
