import CobaltWayland.Player
import CobaltWayland.Lib.Machine

/-!
The player among its threads: the client thread that creates it, calls it and destroys it, the
worker thread that runs what `SafeCall` queues and what the bus brings, and GStreamer's streaming
threads behind the two appsrcs. A step is one thing one thread does that another can see; a worker
function that does several is dispatched first and then performed action by action.
-/

namespace CobaltWayland

/-- A function bound for the worker by `SafeCall`. -/
inductive Call where
  | put
  | reportInitialized
  | doSeek (time ticket : Int)
  | doPlaybackRate (rate : ℚ)
  | doVolume (volume : ℚ)
  | doBounds (z x y width height : Int)
  deriving DecidableEq, Repr

def Call.ticket : Call → Option Int
  | .doSeek _ ticket => some ticket
  | _ => none

def Call.rate : Call → Option ℚ
  | .doPlaybackRate rate => some rate
  | _ => none

/-- What the thread of `Initialize` and of the destructor does next. -/
inductive Stage where
  | pausing | decoders | spawning | posting | waiting | announcing
  /-- The client has the player. -/
  | live
  | stopping | detaching | quitting | joining | droppingAudio | droppingVideo | unreffing | gone
  deriving DecidableEq, Repr

/-- There is no worker thread yet. -/
def Stage.early : Stage → Bool
  | .pausing | .decoders | .spawning => true
  | _ => false

/-- The destructor has set `Playbin` to `NULL`. -/
def Stage.stopped : Stage → Bool
  | .detaching | .quitting | .joining | .droppingAudio | .droppingVideo | .unreffing | .gone => true
  | _ => false

def Stage.dropped (d : Stream) : Stage → Bool
  | .droppingVideo => decide (d = .audio)
  | .unreffing | .gone => true
  | _ => false

/-- The worker thread. A call stays queued until its function returns. -/
inductive Worker where
  | absent | created
  /-- Between two sources of the main loop. -/
  | idle
  /-- In `DoSeek(time, ..)`, with `LastTicket` stored. -/
  | seeking (time : Int)
  /-- Performing the rest of a call, or of a bus message or a tick. -/
  | acting (calling : Bool) (todo : List Action)
  | finished
  deriving DecidableEq, Repr

def Worker.todo : Worker → List Action
  | .acting _ todo => todo
  | _ => []

def Worker.target : Worker → Option Int
  | .seeking time => some time
  | _ => none

/-- One instance for every module, so that membership in the reports is decided the same way. -/
instance lawfulReport : LawfulBEq (Stream × DecoderState × Int) := inferInstance

structure AppSrc where
  /-- `LastTicket` at the `NeedData` that has got neither sample nor flush since. -/
  starved : Option Int := none
  /-- The queued samples, each with the ticket it was written for. -/
  queue : List Int := []
  deriving DecidableEq, Repr

structure System where
  player : Player
  stage : Stage := .pausing
  worker : Worker := .absent
  calls : List Call := []
  bus : List Message := []
  /-- The semaphore `starter` has been put. -/
  started : Bool := false
  quit : Bool := false
  /-- `Initialize` has returned true. -/
  created : Bool := false
  appsrc : Stream → AppSrc := fun _ => {}
  /-- The calls of `DecoderStatusFunction`, oldest first. -/
  decoderReports : List (Stream × DecoderState × Int) := []
  /-- The tickets of the client's `Seek` calls, newest first. -/
  seeks : List Int := []
  /-- The samples discarded by a flush while the ticket they were written for was the client's last. -/
  lost : List Int := []

namespace System

inductive Event where
  /-- The next statement of `Initialize` or of the destructor. `ok` is what the decoders'
  `Initialize` answers, where it is called. -/
  | advance (ok : Bool)
  | seek (seekToPts ticket : Int)
  | setPlaybackRate (rate : ℚ)
  | setVolume (volume : ℚ)
  | setBounds (z x y width height : Int)
  | writeSample (d : Stream) (accepted : Bool)
  | post (message : Message)
  | sourceChanged
  | needData (d : Stream)
  | consume (d : Stream)
  /-- The worker thread adds its bus watch and enters the loop. -/
  | enterLoop
  | dispatchCall (query : Option Int)
  | dispatchMessage (query : Option Int)
  | tick (query : Option Int)
  /-- `DoSeek` goes on after its store of `LastTicket`. -/
  | resume (query : Option Int)
  | act
  | finish
  | leaveLoop
  deriving DecidableEq, Repr

namespace Event

def advances : Event → Bool
  | .advance _ => true
  | _ => false

def resumes : Event → Bool
  | .resume _ => true
  | _ => false

def acts : Event → Bool
  | .act => true
  | _ => false

def takesCall : Event → Bool
  | .dispatchCall _ => true
  | _ => false

def takesMessage : Event → Bool
  | .dispatchMessage _ => true
  | _ => false

def byClient : Event → Bool
  | .setPlaybackRate _ | .setVolume _ | .setBounds .. | .writeSample .. => true
  | _ => false

def ticket : Event → Option Int
  | .seek _ ticket => some ticket
  | _ => none

def sample : Event → Option Stream
  | .writeSample d _ => some d
  | _ => none

def asks : Event → Option Stream
  | .needData d => some d
  | _ => none

end Event

def start (cfg : Config) : System := { player := Player.construct cfg }

def ticket (cfg : Config) (s : System) : Int := s.seeks.headD cfg.initialTicket

def safeCall (s : System) (call : Call) : System := { s with calls := s.calls ++ [call] }

def perform (s : System) (a : Action) : System := { s with player := s.player.perform a }

def reportDecoderState (cfg : Config) (s : System) (d : Stream) (state : DecoderState) : System :=
  { s with decoderReports := s.decoderReports ++ s.player.reportDecoderState cfg d state }

def registered (s : System) (d : Stream) : Bool :=
  match s.player.source with
  | none => false
  | some src => decide (d ∈ src.children)

/-- `SeekData` of the appsrc, if a seek event reaches it. -/
def seekData (cfg : Config) (s : System) (d : Stream) : System :=
  if s.registered d then s.reportDecoderState cfg d .needsData else s

/-- `NeedData` of an empty appsrc, which then stays silent. -/
def needData (cfg : Config) (s : System) (d : Stream) : System :=
  { s.reportDecoderState cfg d .needsData with
    appsrc := Function.update s.appsrc d { starved := some s.player.lastTicket } }

/-- A flushing seek empties the appsrcs, wakes them up and asks them to seek. -/
def flush (cfg : Config) (s : System) : System :=
  let discarded := (s.appsrc .audio).queue ++ (s.appsrc .video).queue
  { (s.seekData cfg .audio).seekData cfg .video with
    appsrc := fun _ => {}
    lost := s.lost ++ discarded.filter (· = s.ticket cfg) }

def act (cfg : Config) (s : System) (a : Action) : System :=
  match a with
  | .seek _ (some _) => (s.perform a).flush cfg
  | _ => s.perform a

/-- The creating and destroying thread. It joins the worker if there is one. -/
def advance (cfg : Config) (s : System) (ok : Bool) : Option System :=
  match s.stage with
  | .pausing => some { s.perform (.setState .paused) with stage := .decoders }
  | .decoders => some { s with stage := if ok then .spawning else .stopping }
  | .spawning => some { s with stage := .posting, worker := .created }
  | .posting => some { s.safeCall .put with stage := .waiting }
  | .waiting => if s.started then some { s with stage := .announcing } else none
  | .announcing => some { s.safeCall .reportInitialized with stage := .live, created := true }
  | .live => some { s with stage := .stopping }
  | .stopping => some { s.perform (.setState .null) with stage := .detaching }
  | .detaching => some { s with stage := .quitting, player := { s.player with positionUpdateSource := false } }
  | .quitting => some { s with stage := .joining, quit := true }
  | .joining =>
    if s.worker = .absent ∨ s.worker = .finished then some { s with stage := .droppingAudio } else none
  | .droppingAudio => some { s.reportDecoderState cfg .audio .destroyed with stage := .droppingVideo }
  | .droppingVideo => some { s.reportDecoderState cfg .video .destroyed with stage := .unreffing }
  | .unreffing => some { s with stage := .gone }
  | .gone => none

def dispatchCall (s : System) (query : Option Int) : Call → System
  | .put => { s with started := true, worker := .acting true [] }
  | .reportInitialized => { s with worker := .acting true [.reportPlayerState .initialized] }
  | .doSeek time ticket => { s.perform (.publishTicket ticket) with worker := .seeking time }
  | .doPlaybackRate rate => { s with worker := .acting true (s.player.doPlaybackRate query rate) }
  | .doVolume volume => { s with worker := .acting true (s.player.doVolume volume) }
  | .doBounds z x y width height =>
    { s with worker := .acting true (s.player.doBounds z x y width height) }

/-- The player's functions are called by a client that has it, until it destroys it. A pipeline in
`NULL` neither makes a source nor runs its appsrcs. -/
def step (cfg : Config) (s : System) : Event → Option System
  | .advance ok => s.advance cfg ok
  | .seek seekToPts ticket =>
    if s.stage = .live then
      some { s.safeCall (.doSeek (sbTimeToGstTime seekToPts) ticket) with seeks := ticket :: s.seeks }
    else none
  | .setPlaybackRate rate =>
    if s.stage = .live then some (if rate ≥ 0 then s.safeCall (.doPlaybackRate rate) else s) else none
  | .setVolume volume =>
    if s.stage = .live then some (if volume ≥ 0 ∧ volume ≤ 1 then s.safeCall (.doVolume volume) else s)
    else none
  | .setBounds _ x y width height =>
    if s.stage = .live then some (s.safeCall (.doBounds 0 x y width height)) else none
  | .writeSample d accepted =>
    if s.stage = .live then
      some
        (if accepted then
          { s with
            appsrc := Function.update s.appsrc d { queue := (s.appsrc d).queue ++ [s.ticket cfg] } }
        else s)
    else none
  | .post message => if s.stage = .gone then none else some { s with bus := s.bus ++ [message] }
  | .sourceChanged => if s.player.playbin.requested = .null then none else some (s.perform .sourceSetup)
  | .needData d =>
    if s.registered d ∧ s.player.playbin.requested ≠ .null ∧ s.appsrc d = {} then
      some (s.needData cfg d)
    else none
  | .consume d =>
    match (s.appsrc d).queue with
    | [] => none
    | _ :: rest =>
      if s.player.playbin.requested = .null then none
      else some { s with appsrc := Function.update s.appsrc d { s.appsrc d with queue := rest } }
  | .enterLoop => if s.worker = .created then some { s with worker := .idle } else none
  | .dispatchCall query =>
    match s.worker, s.calls with
    | .idle, call :: _ => some (s.dispatchCall query call)
    | _, _ => none
  | .dispatchMessage query =>
    match s.worker, s.bus with
    | .idle, message :: rest =>
      some { s with bus := rest, worker := .acting false (s.player.gstBusCallback query message) }
    | _, _ => none
  | .tick query =>
    if s.worker = .idle ∧ s.player.positionUpdateSource then
      some { s with worker := .acting false (s.player.updatePosition query) }
    else none
  | .resume query =>
    match s.worker with
    | .seeking time => some { s with worker := .acting true (s.player.doSeekBody query time) }
    | _ => none
  | .act =>
    match s.worker with
    | .acting calling (a :: todo) => some { s.act cfg a with worker := .acting calling todo }
    | _ => none
  | .finish =>
    match s.worker with
    | .acting calling [] =>
      some { s with worker := .idle, calls := if calling then s.calls.tail else s.calls }
    | _ => none
  | .leaveLoop =>
    -- the sources of an iteration that has begun are still dispatched after the quit
    if s.worker = .idle ∧ s.quit then
      some { s.perform (.reportPlayerState .destroyed) with worker := .finished }
    else none

/-- `Initialize` without a hitch, up to the return of its report on the worker. -/
def startup : List Event :=
  [.advance true, .advance true, .advance true, .advance true, .enterLoop, .dispatchCall none, .finish,
   .advance true, .advance true, .dispatchCall none, .act, .finish]

/-- Playbin makes its source, and its `READY` message has the appsrcs added to it. -/
def registration : List Event :=
  [.sourceChanged, .post (.stateChanged .source .ready), .dispatchMessage none, .act, .act, .finish]

/-- The destructor of a live player with an idle worker, up to the end. -/
def destruction : List Event :=
  [.advance true, .advance true, .advance true, .advance true, .leaveLoop, .advance true, .advance true,
   .advance true, .advance true]

/-! ### What a step does -/

/-- The steps of the machine, each with the state it leads to. -/
inductive Step (cfg : Config) (s : System) : Event → System → Prop where
  | pausing {ok : Bool} (at_ : s.stage = .pausing) :
      Step cfg s (.advance ok) { s.perform (.setState .paused) with stage := .decoders }
  | initialized (at_ : s.stage = .decoders) : Step cfg s (.advance true) { s with stage := .spawning }
  | failed (at_ : s.stage = .decoders) : Step cfg s (.advance false) { s with stage := .stopping }
  | spawning {ok : Bool} (at_ : s.stage = .spawning) :
      Step cfg s (.advance ok) { s with stage := .posting, worker := .created }
  | posting {ok : Bool} (at_ : s.stage = .posting) :
      Step cfg s (.advance ok) { s.safeCall .put with stage := .waiting }
  | waiting {ok : Bool} (at_ : s.stage = .waiting) (started : s.started = true) :
      Step cfg s (.advance ok) { s with stage := .announcing }
  | announcing {ok : Bool} (at_ : s.stage = .announcing) :
      Step cfg s (.advance ok) { s.safeCall .reportInitialized with stage := .live, created := true }
  | destroyed {ok : Bool} (at_ : s.stage = .live) : Step cfg s (.advance ok) { s with stage := .stopping }
  | stopping {ok : Bool} (at_ : s.stage = .stopping) :
      Step cfg s (.advance ok) { s.perform (.setState .null) with stage := .detaching }
  | detaching {ok : Bool} (at_ : s.stage = .detaching) :
      Step cfg s (.advance ok)
        { s with stage := .quitting, player := { s.player with positionUpdateSource := false } }
  | quitting {ok : Bool} (at_ : s.stage = .quitting) :
      Step cfg s (.advance ok) { s with stage := .joining, quit := true }
  | joining {ok : Bool} (at_ : s.stage = .joining) (ended : s.worker = .absent ∨ s.worker = .finished) :
      Step cfg s (.advance ok) { s with stage := .droppingAudio }
  | droppingAudio {ok : Bool} (at_ : s.stage = .droppingAudio) :
      Step cfg s (.advance ok) { s.reportDecoderState cfg .audio .destroyed with stage := .droppingVideo }
  | droppingVideo {ok : Bool} (at_ : s.stage = .droppingVideo) :
      Step cfg s (.advance ok) { s.reportDecoderState cfg .video .destroyed with stage := .unreffing }
  | unreffing {ok : Bool} (at_ : s.stage = .unreffing) : Step cfg s (.advance ok) { s with stage := .gone }
  | seek {seekToPts ticket : Int} (live : s.stage = .live) :
      Step cfg s (.seek seekToPts ticket)
        { s.safeCall (.doSeek (sbTimeToGstTime seekToPts) ticket) with seeks := ticket :: s.seeks }
  /-- `SetPlaybackRate`, `SetVolume` and `SetBounds` queue a call that is no seek. -/
  | called {e : Event} {call : Call} (live : s.stage = .live) (tame : call.ticket = none)
      (silent : call ≠ .reportInitialized) (client : e.byClient = true) : Step cfg s e (s.safeCall call)
  /-- A rate or a volume out of range, a sample that the appsrc refuses. -/
  | ignored {e : Event} (live : s.stage = .live) (client : e.byClient = true) : Step cfg s e s
  | written {d : Stream} (live : s.stage = .live) :
      Step cfg s (.writeSample d true)
        { s with
          appsrc := Function.update s.appsrc d { queue := (s.appsrc d).queue ++ [s.ticket cfg] } }
  | posted {message : Message} : Step cfg s (.post message) { s with bus := s.bus ++ [message] }
  | sourceChanged (running : s.player.playbin.requested ≠ .null) :
      Step cfg s .sourceChanged (s.perform .sourceSetup)
  | needData {d : Stream} (inBin : s.registered d = true) (running : s.player.playbin.requested ≠ .null)
      (idle : s.appsrc d = {}) : Step cfg s (.needData d) (s.needData cfg d)
  | consumed {d : Stream} {sample : Int} {rest : List Int} (queue : (s.appsrc d).queue = sample :: rest)
      (running : s.player.playbin.requested ≠ .null) :
      Step cfg s (.consume d)
        { s with appsrc := Function.update s.appsrc d { s.appsrc d with queue := rest } }
  | entered (created : s.worker = .created) : Step cfg s .enterLoop { s with worker := .idle }
  | dispatchedCall {query : Option Int} {call : Call} {rest : List Call} (idle : s.worker = .idle)
      (head : s.calls = call :: rest) : Step cfg s (.dispatchCall query) (s.dispatchCall query call)
  | dispatchedMessage {query : Option Int} {message : Message} {rest : List Message}
      (idle : s.worker = .idle) (head : s.bus = message :: rest) :
      Step cfg s (.dispatchMessage query)
        { s with bus := rest, worker := .acting false (s.player.gstBusCallback query message) }
  | ticked {query : Option Int} (idle : s.worker = .idle) (timed : s.player.positionUpdateSource = true) :
      Step cfg s (.tick query) { s with worker := .acting false (s.player.updatePosition query) }
  | resumed {query : Option Int} {time : Int} (seeking : s.worker = .seeking time) :
      Step cfg s (.resume query) { s with worker := .acting true (s.player.doSeekBody query time) }
  | acted {calling : Bool} {a : Action} {todo : List Action} (acting : s.worker = .acting calling (a :: todo)) :
      Step cfg s .act { s.act cfg a with worker := .acting calling todo }
  | finished {calling : Bool} (acting : s.worker = .acting calling []) :
      Step cfg s .finish { s with worker := .idle, calls := if calling then s.calls.tail else s.calls }
  | left (idle : s.worker = .idle) (quit : s.quit = true) :
      Step cfg s .leaveLoop { s.perform (.reportPlayerState .destroyed) with worker := .finished }

theorem advance_cases {cfg : Config} {s t : System} {ok : Bool} (h : s.advance cfg ok = some t) :
    Step cfg s (.advance ok) t := by
  unfold advance at h
  split at h
  case h_2 at_ =>
    obtain rfl := Option.some.inj h
    cases ok with
    | true => exact .initialized at_
    | false => exact .failed at_
  case h_5 at_ =>
    split at h
    · rename_i started
      obtain rfl := Option.some.inj h
      exact .waiting at_ started
    · cases h
  case h_11 at_ =>
    split at h
    · rename_i ended
      obtain rfl := Option.some.inj h
      exact .joining at_ ended
    · cases h
  case h_15 => cases h
  all_goals
    rename_i at_
    obtain rfl := Option.some.inj h
    constructor
    exact at_

theorem step_cases {cfg : Config} {s t : System} {e : Event} (h : s.step cfg e = some t) :
    Step cfg s e t := by
  cases e with
  | advance ok => exact advance_cases h
  | seek seekToPts ticket =>
    obtain ⟨live, rfl⟩ := Option.ite_some_none_eq_some.mp h
    exact .seek live
  | setPlaybackRate rate =>
    obtain ⟨live, rfl⟩ := Option.ite_some_none_eq_some.mp h
    split
    · exact .called live rfl (by simp) rfl
    · exact .ignored live rfl
  | setVolume volume =>
    obtain ⟨live, rfl⟩ := Option.ite_some_none_eq_some.mp h
    split
    · exact .called live rfl (by simp) rfl
    · exact .ignored live rfl
  | setBounds z x y width height =>
    obtain ⟨live, rfl⟩ := Option.ite_some_none_eq_some.mp h
    exact .called live rfl (by simp) rfl
  | writeSample d accepted =>
    obtain ⟨live, rfl⟩ := Option.ite_some_none_eq_some.mp h
    cases accepted with
    | true => exact .written live
    | false => exact .ignored live rfl
  | post message =>
    simp only [step, Option.ite_none_left_eq_some, Option.some.injEq] at h
    obtain ⟨-, rfl⟩ := h
    exact .posted
  | sourceChanged =>
    simp only [step, Option.ite_none_left_eq_some, Option.some.injEq] at h
    obtain ⟨running, rfl⟩ := h
    exact .sourceChanged running
  | needData d =>
    obtain ⟨⟨inBin, running, idle⟩, rfl⟩ := Option.ite_some_none_eq_some.mp h
    exact .needData inBin running idle
  | consume d =>
    simp only [step] at h
    split at h
    · cases h
    · rename_i queue
      simp only [Option.ite_none_left_eq_some, Option.some.injEq] at h
      obtain ⟨running, rfl⟩ := h
      exact .consumed queue running
  | enterLoop =>
    obtain ⟨created, rfl⟩ := Option.ite_some_none_eq_some.mp h
    exact .entered created
  | dispatchCall query =>
    simp only [step] at h
    split at h
    · rename_i idle head
      obtain rfl := Option.some.inj h
      exact .dispatchedCall idle head
    · cases h
  | dispatchMessage query =>
    simp only [step] at h
    split at h
    · rename_i idle head
      obtain rfl := Option.some.inj h
      exact .dispatchedMessage idle head
    · cases h
  | tick query =>
    obtain ⟨⟨idle, timed⟩, rfl⟩ := Option.ite_some_none_eq_some.mp h
    exact .ticked idle timed
  | resume query =>
    simp only [step] at h
    split at h
    · rename_i seeking
      obtain rfl := Option.some.inj h
      exact .resumed seeking
    · cases h
  | act =>
    simp only [step] at h
    split at h
    · rename_i acting
      obtain rfl := Option.some.inj h
      exact .acted acting
    · cases h
  | finish =>
    simp only [step] at h
    split at h
    · rename_i acting
      obtain rfl := Option.some.inj h
      exact .finished acting
    · cases h
  | leaveLoop =>
    obtain ⟨⟨idle, quit⟩, rfl⟩ := Option.ite_some_none_eq_some.mp h
    exact .left idle quit

end System
end CobaltWayland
