import Mathlib.Data.List.Nodup
import CobaltWayland.Plans

/-!
Whether a flush throws away samples of the seek it belongs to. `DoSeek` publishes its ticket at once
while its flush comes later, after preroll or with the next rate; from the publication on a
`NeedsData` may carry the ticket and a client that follows the protocol may answer it.
-/

namespace CobaltWayland
namespace System

def Known (cfg : Config) (s : System) (ticket : Int) : Prop :=
  ticket = cfg.initialTicket ∨ ticket ∈ s.seeks

instance (cfg : Config) (s : System) (ticket : Int) : Decidable (Known cfg s ticket) := by
  unfold Known; infer_instance

/-- The protocol of the client: each seek has a fresh ticket, and a sample answers a `NeedsData` that
carries the ticket of the last seek. -/
def Obeys (cfg : Config) (s : System) (e : Event) : Prop :=
  (∀ ticket ∈ e.ticket, ¬ s.Known cfg ticket) ∧
    ∀ d ∈ e.sample, (d, .needsData, s.ticket cfg) ∈ s.decoderReports

instance (cfg : Config) (s : System) (e : Event) : Decidable (Obeys cfg s e) := by
  unfold Obeys; infer_instance

/-- No `NeedsData` has carried the ticket in force. -/
def Unasked (s : System) : Prop := ∀ d, (d, .needsData, s.player.lastTicket) ∉ s.decoderReports

instance (s : System) : Decidable s.Unasked := by
  unfold Unasked; infer_instance

/-- The worker issues a flushing seek only before the first `NeedsData` with the ticket in force, or when
the client has called `Seek` again since. -/
def FlushesFirst (cfg : Config) (s : System) (e : Event) : Prop :=
  e.acts = true → ∀ a ∈ s.worker.todo.head?, a.flushes = true → s.ticket cfg = s.player.lastTicket →
    s.Unasked

instance (cfg : Config) (s : System) (e : Event) : Decidable (FlushesFirst cfg s e) := by
  unfold FlushesFirst; infer_instance

/-- The tickets of the queued `DoSeek` calls that have not stored theirs yet. -/
def unpublished (s : System) : List Int :=
  (match s.worker with
    | .seeking _ | .acting true _ => s.calls.tail
    | _ => s.calls).filterMap Call.ticket

structure TicketInv (cfg : Config) (s : System) : Prop where
  sound : Sound s
  last : s.unpublished.getLastD s.player.lastTicket = s.ticket cfg
  distinct : (s.player.lastTicket :: s.unpublished).Nodup
  known : ∀ ticket ∈ s.player.lastTicket :: s.unpublished, s.Known cfg ticket
  reported : ∀ r ∈ s.decoderReports, s.Known cfg r.2.2 ∧ r.2.2 ∉ s.unpublished
  queued : ∀ d, ∀ ticket ∈ (s.appsrc d).queue, (d, .needsData, ticket) ∈ s.decoderReports
  kept : s.lost = []

theorem start_ticketInv (cfg : Config) : TicketInv cfg (start cfg) where
  sound := start_sound cfg
  last := rfl
  distinct := List.nodup_singleton _
  known := fun ticket known => by
    obtain rfl := List.mem_singleton.mp known
    exact Or.inl rfl
  reported := by simp [start]
  queued := by simp [start]
  kept := rfl

/-- As long as tickets stay where they are, a report can only carry the one in force. -/
theorem TicketInv.transfer {cfg : Config} {s t : System} (inv : TicketInv cfg s) (sound : Sound t)
    (lastTicket : t.player.lastTicket = s.player.lastTicket) (unpublished : t.unpublished = s.unpublished)
    (seeks : t.seeks = s.seeks)
    (current : ∀ r ∈ t.decoderReports, r ∈ s.decoderReports ∨ r.2.2 = s.player.lastTicket)
    (queued : ∀ d, ∀ ticket ∈ (t.appsrc d).queue, (d, .needsData, ticket) ∈ t.decoderReports)
    (kept : t.lost = []) : TicketInv cfg t where
  sound := sound
  last := by
    rw [unpublished, lastTicket, inv.last]
    simp only [ticket, seeks]
  distinct := by
    rw [unpublished, lastTicket]
    exact inv.distinct
  known := by
    rw [unpublished, lastTicket]
    simpa only [Known, seeks] using inv.known
  reported := by
    intro r reported
    rw [unpublished]
    simp only [Known, seeks]
    rcases current r reported with before | now
    · exact inv.reported r before
    · rw [now]
      exact ⟨inv.known _ List.mem_cons_self, (List.nodup_cons.mp inv.distinct).1⟩
  queued := queued
  kept := kept

theorem mem_reportDecoderState {cfg : Config} {s : System} {d : Stream} {state : DecoderState}
    {r : Stream × DecoderState × Int} (h : r ∈ (s.reportDecoderState cfg d state).decoderReports) :
    r ∈ s.decoderReports ∨ r.2.2 = s.player.lastTicket := by
  rcases List.mem_append.mp h with before | now
  · exact Or.inl before
  · unfold Player.reportDecoderState at now
    split at now
    · rw [List.mem_singleton.mp now]
      exact Or.inr rfl
    · cases now

theorem mem_seekData {cfg : Config} {s : System} {d : Stream} {r : Stream × DecoderState × Int}
    (h : r ∈ (s.seekData cfg d).decoderReports) :
    r ∈ s.decoderReports ∨ r.2.2 = s.player.lastTicket := by
  unfold seekData at h
  split at h
  · exact mem_reportDecoderState h
  · exact Or.inl h

theorem mem_flush {cfg : Config} {s : System} {r : Stream × DecoderState × Int}
    (h : r ∈ (s.flush cfg).decoderReports) : r ∈ s.decoderReports ∨ r.2.2 = s.player.lastTicket := by
  rcases mem_seekData h with audio | now
  · exact mem_seekData audio
  · exact Or.inr (by rw [now, seekData_player])

theorem unpublished_safeCall {s : System} (sound : Sound s) (new : Call) :
    (s.safeCall new).unpublished = s.unpublished ++ new.ticket.toList := by
  have one : [new].filterMap Call.ticket = new.ticket.toList := by
    cases queued : new.ticket <;> simp [queued]
  unfold unpublished safeCall
  cases at_ : s.worker with
  | seeking time =>
    obtain ⟨ticket, rest, head⟩ := sound.seeking time at_
    have some : s.calls ≠ [] := by simp [head]
    simp only [tail_append_singleton some, List.filterMap_append, one]
  | acting calling todo =>
    cases calling with
    | true => simp only [tail_append_singleton (sound.calling todo at_), List.filterMap_append, one]
    | false => simp only [List.filterMap_append, one]
  | absent | created | idle | finished => simp only [List.filterMap_append, one]

theorem safeCall_ticketInv {cfg : Config} {s : System} (inv : TicketInv cfg s) {new : Call}
    (tame : new.ticket = none) : TicketInv cfg (s.safeCall new) :=
  inv.transfer (safeCall_sound inv.sound new) rfl
    (by rw [unpublished_safeCall inv.sound, tame, Option.toList_none, List.append_nil]) rfl
    (fun _ before => Or.inl before) inv.queued inv.kept

theorem seek_ticketInv {cfg : Config} {s : System} {time ticket : Int} (inv : TicketInv cfg s)
    (fresh : ¬ s.Known cfg ticket) :
    TicketInv cfg { s.safeCall (.doSeek time ticket) with seeks := ticket :: s.seeks } := by
  have queue : ({ s.safeCall (.doSeek time ticket) with seeks := ticket :: s.seeks } : System).unpublished =
      s.unpublished ++ [ticket] := unpublished_safeCall inv.sound (.doSeek time ticket)
  have older : ∀ {k : Int}, s.Known cfg k → k ≠ ticket := fun known same => fresh (same ▸ known)
  refine ⟨(safeCall_sound inv.sound _).congr id rfl rfl rfl rfl, ?_, ?_, ?_, ?_, inv.queued, inv.kept⟩
  · rw [queue, List.getLastD_concat]
    rfl
  · rw [queue]
    refine List.nodup_append.mpr ⟨inv.distinct, List.nodup_singleton _, fun k before k' new => ?_⟩
    rw [List.mem_singleton.mp new]
    exact older (inv.known k before)
  · intro k known
    rw [queue] at known
    have known : k ∈ (s.player.lastTicket :: s.unpublished) ++ [ticket] := known
    rcases List.mem_append.mp known with before | new
    · exact (inv.known k before).imp_right (List.mem_cons_of_mem _)
    · exact Or.inr (by simp [List.mem_singleton.mp new])
  · intro r reported
    obtain ⟨known, unasked⟩ := inv.reported r reported
    rw [queue]
    refine ⟨known.imp_right (List.mem_cons_of_mem _), fun listed => ?_⟩
    rcases List.mem_append.mp listed with before | new
    · exact unasked before
    · exact older known (List.mem_singleton.mp new)

theorem publish_ticketInv {cfg : Config} {s : System} {time ticket : Int} {rest : List Call}
    (inv : TicketInv cfg s) (idle : s.worker = .idle) (head : s.calls = .doSeek time ticket :: rest)
    (query : Option Int) : TicketInv cfg (s.dispatchCall query (.doSeek time ticket)) := by
  have before : s.unpublished = ticket :: rest.filterMap Call.ticket := by
    simp [unpublished, idle, head, Call.ticket]
  have after : (s.dispatchCall query (.doSeek time ticket)).unpublished = rest.filterMap Call.ticket := by
    simp [unpublished, dispatchCall, perform, head]
  have sub : ∀ k ∈ rest.filterMap Call.ticket, k ∈ s.unpublished := fun k later => by
    rw [before]
    exact List.mem_cons_of_mem _ later
  have distinct := (List.nodup_cons.mp inv.distinct).2
  refine ⟨dispatchCall_sound inv.sound idle head query, ?_, ?_, ?_, ?_, inv.queued, inv.kept⟩
  · rw [after]
    have last := inv.last
    rw [before, List.getLastD_cons] at last
    exact last
  · rw [after]
    exact before ▸ distinct
  · intro k known
    rw [after] at known
    refine inv.known k (List.mem_cons_of_mem _ ?_)
    rw [before]
    exact known
  · intro r reported
    obtain ⟨known, unasked⟩ := inv.reported r reported
    rw [after]
    exact ⟨known, fun later => unasked (sub _ later)⟩

theorem dispatchCall_ticketInv {cfg : Config} {s : System} {call : Call} {rest : List Call}
    (inv : TicketInv cfg s) (idle : s.worker = .idle) (head : s.calls = call :: rest) (query : Option Int) :
    TicketInv cfg (s.dispatchCall query call) := by
  cases call with
  | doSeek time ticket => exact publish_ticketInv inv idle head query
  | put | reportInitialized | doPlaybackRate _ | doVolume _ | doBounds _ _ _ _ _ =>
    exact inv.transfer (dispatchCall_sound inv.sound idle head query) rfl
      (by simp only [unpublished, dispatchCall, idle, head]; exact (List.filterMap_cons_none rfl).symm) rfl
      (fun _ before => Or.inl before) inv.queued inv.kept

theorem ticket_cases {cfg : Config} {s : System} (inv : TicketInv cfg s) :
    s.ticket cfg = s.player.lastTicket ∨ s.ticket cfg ∈ s.unpublished := by
  have last : s.unpublished.getLastD s.player.lastTicket ∈ s.player.lastTicket :: s.unpublished :=
    List.getLastD_mem_cons
  rw [inv.last] at last
  exact List.mem_cons.mp last

theorem unpublished_acting {s t : System} {calling : Bool} {todo todo' : List Action}
    (acting : s.worker = .acting calling todo) (acting' : t.worker = .acting calling todo')
    (calls : t.calls = s.calls) : t.unpublished = s.unpublished := by
  cases calling <;> simp only [unpublished, acting, acting', calls]

/-- Before the flush nothing was asked with the ticket in force, and nothing can have been asked
with one that is still queued: the flush finds no sample of the last seek. -/
theorem flush_ticketInv {cfg : Config} {s : System} {calling : Bool} {rate : ℚ} {target : Int}
    {todo : List Action} (inv : TicketInv cfg s)
    (acting : s.worker = .acting calling (.seek rate (some target) :: todo)) (met : s.FlushesFirst cfg .act)
    (sound : Sound { s.act cfg (.seek rate (some target)) with worker := .acting calling todo }) :
    TicketInv cfg { s.act cfg (.seek rate (some target)) with worker := .acting calling todo } := by
  have unasked : ∀ d, (d, DecoderState.needsData, s.ticket cfg) ∉ s.decoderReports := by
    intro d asked
    rcases ticket_cases inv with current | later
    · exact met rfl _ (by rw [acting]; rfl) rfl current d (current ▸ asked)
    · exact (inv.reported _ asked).2 later
  refine inv.transfer sound ?_ (unpublished_acting acting rfl ?_) ?_ (fun r reported => ?_) ?_ ?_
  · rw [← inv.sound.lastTicket acting]
    exact congrArg Player.lastTicket (act_player cfg s _)
  · exact act_calls cfg s _
  · exact act_seeks cfg s _
  · exact mem_flush (s := s.perform (.seek rate (some target))) reported
  · simp [act, flush]
  · have clean : ((s.appsrc .audio).queue ++ (s.appsrc .video).queue).filter (· = s.ticket cfg) = [] := by
      apply List.filter_eq_nil_iff.mpr
      intro k queued same
      obtain rfl : k = s.ticket cfg := by simpa using same
      rcases List.mem_append.mp queued with audio | video
      · exact unasked _ (inv.queued _ _ audio)
      · exact unasked _ (inv.queued _ _ video)
    show s.lost ++ _ = []
    rw [inv.kept, List.nil_append]
    exact clean

theorem step_ticketInv {cfg : Config} {s t : System} {e : Event} (inv : TicketInv cfg s)
    (met : s.Obeys cfg e ∧ s.FlushesFirst cfg e) (h : s.step cfg e = some t) : TicketInv cfg t := by
  have sound := step_sound inv.sound h
  have still : ∀ r ∈ s.decoderReports, r ∈ s.decoderReports ∨ r.2.2 = s.player.lastTicket :=
    fun _ before => Or.inl before
  cases step_cases h with
  | posting =>
    have queued : TicketInv cfg (s.safeCall .put) := safeCall_ticketInv inv rfl
    exact queued.transfer sound rfl rfl rfl still queued.queued queued.kept
  | announcing =>
    have queued : TicketInv cfg (s.safeCall .reportInitialized) := safeCall_ticketInv inv rfl
    exact queued.transfer sound rfl rfl rfl still queued.queued queued.kept
  | called _ tame => exact safeCall_ticketInv inv tame
  | seek => exact seek_ticketInv inv (met.1.1 _ rfl)
  | dispatchedCall idle head => exact dispatchCall_ticketInv inv idle head _
  | @acted calling a todo acting =>
    by_cases flushing : a.flushes = true
    · unfold Action.flushes at flushing
      split at flushing
      · exact flush_ticketInv inv acting met.2 sound
      · cases flushing
    · have plain := act_of_not_flushes cfg s (by simpa using flushing)
      rw [plain] at sound ⊢
      exact inv.transfer sound (inv.sound.lastTicket acting) (unpublished_acting acting rfl rfl) rfl
        still inv.queued inv.kept
  | @needData d =>
    refine inv.transfer sound rfl rfl rfl (fun r => mem_reportDecoderState)
      (fun d' ticket queued => List.mem_append_left _ (inv.queued d' ticket ?_)) inv.kept
    have queued : ticket ∈ (Function.update s.appsrc d _ d').queue := queued
    by_cases same : d' = d
    · subst same
      simp at queued
    · simpa [same] using queued
  | @written d =>
    refine inv.transfer sound rfl rfl rfl still (fun d' ticket queued => ?_) inv.kept
    by_cases same : d' = d
    · subst same
      have queued : ticket ∈ (s.appsrc d').queue ∨ ticket = s.ticket cfg := by simpa using queued
      rcases queued with before | rfl
      · exact inv.queued d' ticket before
      · exact met.1.2 _ rfl
    · exact inv.queued d' ticket (by simpa [same] using queued)
  | @consumed d sample rest queue =>
    refine inv.transfer sound rfl rfl rfl still (fun d' ticket queued => inv.queued d' ticket ?_) inv.kept
    by_cases same : d' = d
    · subst same
      have later : ticket ∈ rest := by simpa using queued
      rw [queue]
      exact List.mem_cons_of_mem _ later
    · simpa [same] using queued
  | droppingAudio | droppingVideo =>
    exact inv.transfer sound rfl rfl rfl (fun r => mem_reportDecoderState)
      (fun d ticket queued => List.mem_append_left _ (inv.queued d ticket queued)) inv.kept
  | spawning at_ =>
    have absent := inv.sound.early (by rw [at_]; rfl)
    exact inv.transfer sound rfl (by simp only [unpublished, absent]) rfl still inv.queued inv.kept
  | entered worker | left worker | ticked worker | dispatchedMessage worker | resumed worker =>
    exact inv.transfer sound rfl (by simp only [unpublished, worker, perform]) rfl still inv.queued inv.kept
  | @finished calling acting =>
    refine inv.transfer sound rfl ?_ rfl still inv.queued inv.kept
    cases calling <;> simp [unpublished, acting]
  | _ => exact inv.transfer sound rfl rfl rfl still inv.queued inv.kept

/-- With a client that follows the protocol, no sample of its last seek is thrown away by a flush,
while every flushing seek precedes the first `NeedsData` with its ticket or follows a newer `Seek`. -/
theorem no_sample_lost (cfg : Config) (es : List Event)
    (protocol : Machine.Along (step cfg) (Obeys cfg) (start cfg) es)
    (met : Machine.Along (step cfg) (FlushesFirst cfg) (start cfg) es) :
    Machine.Throughout (step cfg) (fun s => s.lost = []) (start cfg) es :=
  Machine.throughout_of_along (TicketInv cfg) (fun _ _ _ inv met h => step_ticketInv inv met h)
    (fun _ inv => inv.kept) (start_ticketInv cfg) (Machine.along_and.mpr ⟨protocol, met⟩)

theorem no_sample_lost_replay :
    Machine.Throughout (step ⟨0, true, true, true⟩) (fun s => s.lost = []) (start ⟨0, true, true, true⟩)
      (startup ++ [.seek 5 1, .dispatchCall none, .resume none, .act, .finish, .setPlaybackRate 1,
        .dispatchCall none, .act, .finish] ++ registration ++
        [.post (.stateChanged .playbin .paused), .dispatchMessage none, .act, .act, .act, .act, .act, .act,
         .act, .act, .finish, .writeSample .audio true, .writeSample .video true, .consume .audio]) :=
  no_sample_lost _ _ (by decide +kernel) (by decide +kernel)

/-- The audio appsrc asks between the seek that was recorded and the preroll that carries it out;
the sample written in answer is discarded by the deferred flush. -/
def answeredEarly : List Event :=
  startup ++ [.seek 5 1, .dispatchCall none, .resume none, .act, .finish] ++ registration ++
    [.needData .audio, .writeSample .audio true, .setPlaybackRate 1, .dispatchCall none, .act, .finish,
     .post (.stateChanged .playbin .paused), .dispatchMessage none, .act, .act, .act, .act, .act]

theorem answered_early_lost :
    Machine.Along (step ⟨0, true, true, true⟩) (Obeys ⟨0, true, true, true⟩) (start ⟨0, true, true, true⟩)
        answeredEarly ∧
      ¬ Machine.Throughout (step ⟨0, true, true, true⟩) (fun s => s.lost = [])
        (start ⟨0, true, true, true⟩) answeredEarly := by
  decide +kernel

end System
end CobaltWayland
