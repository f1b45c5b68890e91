import CobaltWayland.Plans

/-!
Whether a starved appsrc has been heard. An empty appsrc asks once, and what it asks is reported
with the ticket in force, or not at all before the first seek. A later seek makes the client ignore
that report; the appsrc asks again only if the seek is carried out with a flush.
-/

namespace CobaltWayland
namespace System

/-- With no `DoSeek` queued or under way, every appsrc in the bin that starves has had `NeedsData`
reported with the ticket of the last seek. -/
def DataRequested (cfg : Config) (s : System) : Prop :=
  cfg.decoderStatusFunction = true → s.player.lastTicket ≠ cfg.initialTicket →
    (∀ call ∈ s.calls, call.ticket = none) →
    ∀ d, s.registered d = true → (s.appsrc d).starved ≠ none →
      (d, .needsData, s.player.lastTicket) ∈ s.decoderReports

instance (cfg : Config) (s : System) : Decidable (DataRequested cfg s) := by
  unfold DataRequested; infer_instance

def AskedNow (s : System) : Prop :=
  ∀ d, (s.appsrc d).starved = none ∨ (s.appsrc d).starved = some s.player.lastTicket

instance (s : System) : Decidable s.AskedNow := by
  unfold AskedNow; infer_instance

/-- When `DoSeek` goes on after publishing its ticket, it will flush, or another `DoSeek` is queued
behind it, or no appsrc starves from before the ticket. -/
def HeardAfterSeek (s : System) (e : Event) : Prop :=
  e.resumes = true → ∀ time ∈ s.worker.target,
    (s.player.positionUpdateSource = true ∧ s.player.Jumps time) ∨
      (∃ call ∈ s.calls.tail, call.ticket ≠ none) ∨ s.AskedNow

instance (s : System) (e : Event) : Decidable (HeardAfterSeek s e) := by
  unfold HeardAfterSeek; infer_instance

/-- A `DoSeek` is under way and has its flush still to do. -/
def SeekFlushes (s : System) : Prop :=
  ∃ todo time ticket rest, s.worker = .acting true todo ∧ s.calls = .doSeek time ticket :: rest ∧
    ∃ a ∈ todo, a.flushes = true

/-- Whatever starves has asked under the ticket in force, or is going to ask under a later one. -/
def Heard (s : System) : Prop :=
  (∃ call ∈ s.waiting, call.ticket ≠ none) ∨ s.SeekFlushes ∨ s.AskedNow

/-- Nothing that was asked under a ticket of the client went unreported. -/
def Reported (cfg : Config) (s : System) : Prop :=
  cfg.decoderStatusFunction = true → ∀ d ticket, (s.appsrc d).starved = some ticket →
    ticket ≠ cfg.initialTicket → (d, .needsData, ticket) ∈ s.decoderReports

structure RequestInv (cfg : Config) (s : System) : Prop where
  sound : Sound s
  reported : s.Reported cfg
  heard : s.Heard

theorem start_requestInv (cfg : Config) : RequestInv cfg (start cfg) where
  sound := start_sound cfg
  reported := by simp [Reported, start]
  heard := Or.inr (Or.inr fun d => Or.inl rfl)

theorem dataRequested_of_inv {cfg : Config} {s : System} (inv : RequestInv cfg s) : DataRequested cfg s := by
  intro given sought quiet d _ starves
  rcases inv.heard with ⟨call, waits, seek⟩ | ⟨_, time, ticket, rest, _, head, _⟩ | asked
  · refine absurd (quiet call ?_) seek
    unfold waiting at waits
    split at waits
    · exact List.mem_of_mem_tail waits
    · exact waits
  · have queued := quiet (.doSeek time ticket) (by simp [head])
    cases queued
  · rcases asked d with idle | now
    · exact absurd idle starves
    · exact inv.reported given d _ now sought

/-- What the worker is at and what it has queued decide, as long as no appsrc begins to starve. -/
theorem Heard.congr {s t : System} (heard : s.Heard) (worker : t.worker = s.worker) (calls : t.calls = s.calls)
    (asked : s.AskedNow → t.AskedNow) : t.Heard := by
  simp only [Heard, waiting, SeekFlushes, worker, calls] at heard ⊢
  exact heard.imp_right (Or.imp_right asked)

theorem safeCall_heard {s : System} (sound : Sound s) (heard : s.Heard) (new : Call) :
    (s.safeCall new).Heard := by
  rcases heard with ⟨call, waits, seek⟩ | ⟨todo, time, ticket, rest, acting, head, flushing⟩ | asked
  · refine Or.inl ⟨call, ?_, seek⟩
    rw [waiting_safeCall sound]
    exact List.mem_append_left _ waits
  · exact Or.inr (Or.inl ⟨todo, time, ticket, rest ++ [new], acting, by simp [safeCall, head], flushing⟩)
  · exact Or.inr (Or.inr asked)

theorem heard_at_rest {s : System} (heard : s.Heard) (silent : ∀ todo, s.worker ≠ .acting true todo) :
    (∃ call ∈ s.calls, call.ticket ≠ none) ∨ s.AskedNow := by
  rcases heard with ⟨call, waits, seek⟩ | ⟨todo, _, _, _, acting, _, _⟩ | asked
  · rw [waiting_of_silent silent] at waits
    exact Or.inl ⟨call, waits, seek⟩
  · exact absurd acting (silent todo)
  · exact Or.inr asked

theorem heard_of_silent {t : System} (silent : ∀ todo, t.worker ≠ .acting true todo)
    (heard : (∃ call ∈ t.calls, call.ticket ≠ none) ∨ t.AskedNow) : t.Heard := by
  rw [← waiting_of_silent silent] at heard
  exact heard.imp_right Or.inr

theorem Heard.passed {s t : System} (heard : s.Heard) (before : ∀ todo, s.worker ≠ .acting true todo)
    (after : ∀ todo, t.worker ≠ .acting true todo) (calls : t.calls = s.calls)
    (asked : s.AskedNow → t.AskedNow) : t.Heard := by
  have rest := heard_at_rest heard before
  rw [← calls] at rest
  exact heard_of_silent after (rest.imp_right asked)

theorem dispatchCall_heard {s : System} {call : Call} {rest : List Call} (heard : s.Heard)
    (idle : s.worker = .idle) (head : s.calls = call :: rest) (query : Option Int) :
    (s.dispatchCall query call).Heard := by
  have before := heard_at_rest heard (by simp [idle])
  rw [head] at before
  cases call with
  | doSeek time ticket =>
    exact Or.inl ⟨.doSeek time ticket, by simp [dispatchCall, waiting, perform, head], by simp [Call.ticket]⟩
  | put | reportInitialized | doPlaybackRate _ | doVolume _ | doBounds _ _ _ _ _ =>
    rcases before with ⟨call, queued, seek⟩ | asked
    · rcases List.mem_cons.mp queued with rfl | later
      · exact absurd rfl seek
      · exact Or.inl ⟨call, by simpa [dispatchCall, waiting, head] using later, seek⟩
    · exact Or.inr (Or.inr asked)

theorem resumed_heard {s : System} {time : Int} (inv : RequestInv cfg s) (seeking : s.worker = .seeking time)
    (query : Option Int) (met : HeardAfterSeek s (.resume query)) :
    ({ s with worker := .acting true (s.player.doSeekBody query time) } : System).Heard := by
  obtain ⟨ticket, rest, head⟩ := inv.sound.seeking time seeking
  rcases met rfl time (by rw [seeking]; rfl) with ⟨timed, jumps⟩ | ⟨call, later, seek⟩ | asked
  · refine Or.inr (Or.inl ⟨_, time, ticket, rest, rfl, head, ?_⟩)
    rw [Player.doSeekBody_timed timed inv.sound.rateOk]
    exact Player.doSeekAndSpeed_flushes jumps _
  · exact Or.inl ⟨call, later, seek⟩
  · exact Or.inr (Or.inr asked)

theorem acted_heard {s : System} {calling : Bool} {a : Action} {todo : List Action} (inv : RequestInv cfg s)
    (acting : s.worker = .acting calling (a :: todo)) :
    ({ s.act cfg a with worker := .acting calling todo } : System).Heard := by
  by_cases flushing : a.flushes = true
  · rw [act_of_flushes cfg s flushing]
    exact Or.inr (Or.inr fun d => Or.inl rfl)
  · rw [act_of_not_flushes cfg s (by simpa using flushing)]
    have same := inv.sound.lastTicket acting
    rcases inv.heard with
      ⟨call, waits, seek⟩ | ⟨todo', time, ticket, rest, acting', head, b, planned, flushes⟩ | asked
    · refine Or.inl ⟨call, ?_, seek⟩
      simp only [waiting, acting] at waits ⊢
      cases calling <;> exact waits
    · rw [acting] at acting'
      cases acting'
      rcases List.mem_cons.mp planned with rfl | later
      · exact absurd flushes flushing
      · exact Or.inr (Or.inl ⟨todo, time, ticket, rest, rfl, head, b, later, flushes⟩)
    · refine Or.inr (Or.inr fun d => ?_)
      simpa only [perform, same] using asked d

theorem Reported.congr {cfg : Config} {s t : System} (reported : s.Reported cfg)
    (starved : ∀ d ticket, (t.appsrc d).starved = some ticket → (s.appsrc d).starved = some ticket)
    (more : s.decoderReports ⊆ t.decoderReports) : t.Reported cfg :=
  fun given d ticket starves sought => more (reported given d ticket (starved d ticket starves) sought)

theorem needData_reported {cfg : Config} {s : System} (reported : s.Reported cfg) (d : Stream) :
    (s.needData cfg d).Reported cfg := by
  intro given d' ticket starves sought
  by_cases same : d' = d
  · subst same
    obtain rfl : s.player.lastTicket = ticket := by simpa using starves
    simp [needData, reportDecoderState, Player.reportDecoderState, sought, given]
  · have before : (s.appsrc d').starved = some ticket := by simpa [same] using starves
    exact List.mem_append_left _ (reported given d' ticket before sought)

theorem step_requestInv {cfg : Config} {s t : System} {e : Event} (inv : RequestInv cfg s)
    (met : s.HeardAfterSeek e) (h : s.step cfg e = some t) : RequestInv cfg t := by
  refine ⟨step_sound inv.sound h, ?_, ?_⟩
  · cases step_cases h with
    | needData => exact needData_reported inv.reported _
    | @written d =>
      refine inv.reported.congr (fun d' ticket starves => ?_) (List.Subset.refl _)
      by_cases same : d' = d
      · subst same
        simp at starves
      · simpa [same] using starves
    | @consumed d =>
      refine inv.reported.congr (fun d' ticket starves => ?_) (List.Subset.refl _)
      by_cases same : d' = d
      · subst same
        simpa using starves
      · simpa [same] using starves
    | droppingAudio | droppingVideo =>
      exact inv.reported.congr (fun _ _ starves => starves) (List.subset_append_left _ _)
    | @acted _ a _ acting =>
      by_cases flushing : a.flushes = true
      · rw [act_of_flushes cfg s flushing]
        intro _ d ticket starves
        simp [flush] at starves
      · rw [act_of_not_flushes cfg s (by simpa using flushing)]
        exact inv.reported
    | @dispatchedCall _ call => cases call <;> exact inv.reported
    | _ => exact inv.reported
  · cases step_cases h with
    | posting | announcing | called | seek => exact (safeCall_heard inv.sound inv.heard _).congr rfl rfl id
    | spawning at_ =>
      have absent := inv.sound.early (by rw [at_]; rfl)
      exact inv.heard.passed (by simp [absent]) (by simp) rfl id
    | entered created => exact inv.heard.passed (by simp [created]) (by simp) rfl id
    | left idle => exact inv.heard.passed (by simp [idle]) (by simp) rfl id
    | ticked idle | dispatchedMessage idle => exact inv.heard.passed (by simp [idle]) (by simp) rfl id
    | dispatchedCall idle head => exact dispatchCall_heard inv.heard idle head _
    | resumed seeking => exact resumed_heard inv seeking _ met
    | acted acting => exact acted_heard inv acting
    | @finished calling acting =>
      apply heard_of_silent (by simp)
      rcases inv.heard with ⟨call, waits, seek⟩ | ⟨_, _, _, _, acting', _, a, planned, _⟩ | asked
      · refine Or.inl ⟨call, ?_, seek⟩
        simp only [waiting, acting] at waits
        cases calling <;> exact waits
      · rw [acting] at acting'
        cases acting'
        cases planned
      · exact Or.inr asked
    | needData =>
      refine inv.heard.congr rfl rfl fun asked d' => ?_
      simp only [needData_appsrc, Function.update_apply]
      split
      · exact Or.inr rfl
      · exact asked d'
    | written =>
      refine inv.heard.congr rfl rfl fun asked d' => ?_
      simp only [Function.update_apply]
      split
      · exact Or.inl rfl
      · exact asked d'
    | @consumed d =>
      refine inv.heard.congr rfl rfl fun asked d' => ?_
      simp only [Function.update_apply]
      split
      · exact asked d
      · exact asked d'
    | _ => exact inv.heard.congr rfl rfl id

/-- While every `DoSeek` that is the last of the queue flushes, or finds no appsrc starving from
before its ticket, no request for data is lost. -/
theorem no_request_lost (cfg : Config) (es : List Event)
    (met : Machine.Along (step cfg) HeardAfterSeek (start cfg) es) :
    Machine.Throughout (step cfg) (DataRequested cfg) (start cfg) es :=
  Machine.throughout_of_along (RequestInv cfg) (fun _ _ _ inv met h => step_requestInv inv met h)
    (fun _ inv => dataRequested_of_inv inv) (start_requestInv cfg) met

theorem no_request_lost_replay :
    Machine.Throughout (step ⟨0, true, true, true⟩) (DataRequested ⟨0, true, true, true⟩)
      (start ⟨0, true, true, true⟩)
      (startup ++ [.seek 5 1, .dispatchCall none, .resume none, .act, .finish] ++ registration ++
        [.needData .audio, .needData .video]) :=
  no_request_lost _ _ (by decide +kernel)

/-- The appsrcs are in the bin and the audio one asks before the first seek: nothing is reported,
and the seek, recorded only, does not make it ask again. -/
def askedTooEarly : List Event :=
  startup ++ registration ++ [.needData .audio, .seek 5 1, .dispatchCall none, .resume none, .act, .finish]

theorem asked_too_early_lost :
    ¬ Machine.Throughout (step ⟨0, true, true, true⟩) (DataRequested ⟨0, true, true, true⟩)
      (start ⟨0, true, true, true⟩) askedTooEarly := by
  decide +kernel

end System
end CobaltWayland
