import CobaltWayland.Worker
import CobaltWayland.Lib.Ledger

/-!
How often a requested seek flushes the pipeline. The requests are the `DoSeek` calls and, first of
all, the start that the constructor leaves in `LastSeek`. Whatever executes a request clears
`LastSeek`, and without a recorded request nothing but a `DoSeek` jumps.
-/

namespace CobaltWayland

namespace Action

def target : Action → Option Int
  | .seek _ target => target
  | _ => none

def targets (actions : List Action) : List Int := actions.filterMap target

end Action

namespace Op

def targets (p : Player) (op : Op) : List Int := Action.targets (op.actions p)

end Op

namespace Player

theorem perform_positions (p : Player) (a : Action) :
    (p.perform a).playbin.flushes.map Prod.fst = a.target.toList ++ p.playbin.flushes.map Prod.fst := by
  cases a with
  | seek rate target => cases target <;> rfl
  | _ => rfl

theorem performAll_positions (p : Player) (actions : List Action) :
    (p.performAll actions).playbin.flushes.map Prod.fst =
      (Action.targets actions).reverse ++ p.playbin.flushes.map Prod.fst := by
  induction actions generalizing p with
  | nil => rfl
  | cons a actions ih =>
    rw [performAll_cons, ih, perform_positions]
    cases found : a.target <;> simp [Action.targets, found]

end Player

namespace Playback

section
variable {s t : Playback} {op : Op}

theorem step_positions (h : s.step op = some t) :
    t.player.playbin.flushes.map Prod.fst =
      (op.targets s.player).reverse ++ s.player.playbin.flushes.map Prod.fst := by
  obtain ⟨-, rfl⟩ := step_performs h
  exact Player.performAll_positions _ _

theorem targets_of_same (h : s.step op = some t)
    (same : t.player.playbin.flushes = s.player.playbin.flushes) : op.targets s.player = [] := by
  have positions := step_positions h
  rw [same] at positions
  simpa using positions

theorem targets_of_flush {target : Int} (h : s.step op = some t)
    (flush : t.player.playbin.flushes.map Prod.fst =
      target :: s.player.playbin.flushes.map Prod.fst) : op.targets s.player = [target] := by
  have positions := step_positions h
  rw [flush, ← List.singleton_append] at positions
  have reversed := List.append_cancel_right positions
  simpa using congrArg List.reverse reversed.symm

end

/-- How a step deals with the seeks: it flushes for none, for the `DoSeek` it processes or for the
recorded one. -/
inductive Serves (s : Playback) (op : Op) (t : Playback) : Prop where
  | silent (still : op.targets s.player = [])
      (kept : op.request = none → t.player.lastSeek = s.player.lastSeek ∨ t.player.lastSeek = -1)
      (taken : ∀ time ticket, op.request = some (time, ticket) →
        t.player.lastSeek = time ∨ t.player.lastSeek = -1)
  | asked {time ticket : Int} (request : op.request = some (time, ticket))
      (flush : op.targets s.player = [time]) (done : t.player.lastSeek = -1)
  | recorded (noRequest : op.request = none) (waiting : 0 ≤ s.player.lastSeek)
      (flush : op.targets s.player = [s.player.lastSeek]) (done : t.player.lastSeek = -1)

theorem jumps_nonneg {p : Player} {seekTo : Int} (jumps : p.Jumps seekTo) : 0 ≤ seekTo := by
  rcases jumps with positive | ⟨start, -⟩ <;> omega

theorem serves_recorded {s t : Playback} {op : Op} {p : Player} {speedTo : ℚ} (h : s.step op = some t)
    (noRequest : op.request = none) (playbin : p.playbin = s.player.playbin)
    (after : t.player = p.sought s.player.lastSeek speedTo) : Serves s op t := by
  have done : t.player.lastSeek = -1 := by rw [after, Player.sought_lastSeek]
  by_cases jumps : p.Jumps s.player.lastSeek
  · refine .recorded noRequest (jumps_nonneg jumps) (targets_of_flush h ?_) done
    rw [after, Player.sought_flushes, if_pos jumps, playbin, List.map_cons]
  · refine .silent (targets_of_same h ?_) (fun _ => Or.inr done) ?_
    · rw [after, Player.sought_flushes, if_neg jumps, playbin]
    · intro time ticket request
      cases noRequest.symm.trans request

theorem step_serves {s t : Playback} {op : Op} (rateOk : RateOk s) (h : s.step op = some t) :
    Serves s op t := by
  cases step_turn rateOk h with
  | recorded =>
    refine .silent (targets_of_same h rfl) (fun noRequest => (by cases noRequest)) ?_
    rintro _ _ ⟨rfl, rfl⟩
    exact Or.inl rfl
  | @sought time ticket _ _ =>
    by_cases jumps : Player.Jumps { s.player with lastTicket := ticket } time
    · refine .asked rfl (targets_of_flush h ?_) (Player.sought_lastSeek ..)
      rw [Player.sought_flushes, if_pos jumps, List.map_cons]
    · refine .silent (targets_of_same h ?_) (fun noRequest => (by cases noRequest)) ?_
      · rw [Player.sought_flushes, if_neg jumps]
      · exact fun _ _ _ => Or.inr (Player.sought_lastSeek ..)
  | played => exact serves_recorded h rfl rfl rfl
  | prerolledPlaying => exact serves_recorded h rfl (p := s.player.announced) rfl rfl
  | rateRecorded | ticked | prerolledPaused =>
    exact .silent (targets_of_same h rfl) (fun _ => Or.inl rfl) (fun _ _ request => by cases request)
  | paused =>
    refine .silent (targets_of_same h ?_) (fun _ => Or.inl rfl) (fun _ _ request => by cases request)
    dsimp only
    split <;> rfl
  | framed noRequest _ frame =>
    refine .silent (targets_of_same h ?_) (fun _ => Or.inl frame.lastSeek) ?_
    · rw [frame.playbin]
    · exact fun _ _ request => by cases noRequest.symm.trans request

end Playback

/-- A playback with the ledger of its requests. The constructor leaves the first one in `LastSeek`. -/
structure SeekLedger where
  playback : Playback
  ledger : Requests.Ledger Int := { asked := [0] }

namespace SeekLedger

def start (cfg : Config) : SeekLedger := { playback := Playback.initial cfg }

def entered (ledger : Requests.Ledger Int) : Option (Int × Int) → Requests.Ledger Int
  | some (time, _) => ledger.ask time
  | none => ledger

/-- A step enters the `DoSeek` it processes and each flushing seek that it issues. -/
def step (s : SeekLedger) (op : Op) : Option SeekLedger :=
  (s.playback.step op).map fun playback =>
    { playback
      ledger := (op.targets s.playback.player).foldl Requests.Ledger.serve (entered s.ledger op.request) }

/-- A player that plays is never flushed again unless it is asked to seek. -/
def Undisturbed (s : Playback) : Prop :=
  s.player.positionUpdateSource = true → s.player.info.isPaused = false →
    ∀ ops : List Op, (∀ op ∈ ops, op.request = none) →
      Machine.Along Playback.step (fun p op => op.targets p.player = []) s ops

def Settled (s : Playback) : Prop :=
  s.player.positionUpdateSource = true → s.player.info.isPaused = false → s.player.lastSeek = -1

structure Inv (s : SeekLedger) : Prop where
  rateOk : s.playback.RateOk
  settled : Settled s.playback
  valid : s.ledger.Valid
  waiting : 0 ≤ s.playback.player.lastSeek → s.ledger.Open s.playback.player.lastSeek

theorem not_waiting {p : Player} (done : p.lastSeek = -1) : ¬ 0 ≤ p.lastSeek := by omega

theorem start_inv (cfg : Config) : Inv (start cfg) where
  rateOk := Playback.initial_rateOk cfg
  settled := fun timed => by cases timed
  valid := ⟨⟨by simp [start], List.nodup_nil⟩, by simp [start]⟩
  waiting := fun _ => ⟨rfl, by simp [start]⟩

theorem step_settled {s t : Playback} {op : Op} (rateOk : s.RateOk) (settled : Settled s)
    (h : s.step op = some t) : Settled t := by
  intro timed moving
  cases Playback.step_turn rateOk h with
  | sought | played | prerolledPlaying => exact Player.sought_lastSeek ..
  | recorded early | rateRecorded early => cases early.symm.trans timed
  | paused => cases moving
  | prerolledPaused _ still => cases still.symm.trans moving
  | ticked => exact settled timed moving
  | framed _ _ frame =>
    have paused := congrArg Info.isPaused frame.info
    rw [frame.lastSeek]
    exact settled (frame.positionUpdateSource ▸ timed) (paused ▸ moving)

theorem step_inv {s t : SeekLedger} {op : Op} (inv : Inv s) (h : s.step op = some t) : Inv t := by
  obtain ⟨playback, taken, rfl⟩ := Option.map_eq_some_iff.mp h
  have rateOk := Playback.step_rateOk inv.rateOk taken
  have settled := step_settled inv.rateOk inv.settled taken
  cases Playback.step_serves inv.rateOk taken with
  | silent still kept asked =>
    rw [still, List.foldl_nil]
    cases request : op.request with
    | none =>
      refine ⟨rateOk, settled, inv.valid, fun waiting => ?_⟩
      rcases kept request with same | done
      · rw [same] at waiting ⊢
        exact inv.waiting waiting
      · exact absurd waiting (not_waiting done)
    | some pair =>
      obtain ⟨time, ticket⟩ := pair
      refine ⟨rateOk, settled, Requests.Ledger.ask_valid inv.valid time, fun waiting => ?_⟩
      rcases asked time ticket request with recorded | done
      · rw [recorded]
        exact Requests.Ledger.ask_open inv.valid time
      · exact absurd waiting (not_waiting done)
  | @asked time ticket request flush done =>
    rw [flush, request, List.foldl_cons, List.foldl_nil]
    refine ⟨rateOk, settled, ?_, fun waiting => absurd waiting (not_waiting done)⟩
    exact Requests.Ledger.serve_valid (Requests.Ledger.ask_valid inv.valid time)
      (Requests.Ledger.ask_open inv.valid time)
  | recorded noRequest waiting flush done =>
    rw [flush, noRequest, List.foldl_cons, List.foldl_nil]
    refine ⟨rateOk, settled, ?_, fun waiting => absurd waiting (not_waiting done)⟩
    exact Requests.Ledger.serve_valid inv.valid (inv.waiting waiting)

/-- Without a recorded seek only a `DoSeek` flushes, and it leaves none. -/
theorem step_undisturbed {s t : Playback} {op : Op} (rateOk : s.RateOk) (done : s.player.lastSeek = -1)
    (noRequest : op.request = none) (h : s.step op = some t) :
    op.targets s.player = [] ∧ t.player.lastSeek = -1 := by
  cases Playback.step_serves rateOk h with
  | silent still kept =>
    refine ⟨still, ?_⟩
    rcases kept noRequest with same | done'
    · exact same.trans done
    · exact done'
  | asked request => cases noRequest.symm.trans request
  | recorded _ waiting => omega

theorem settled_undisturbed {s : Playback} (rateOk : s.RateOk) (settled : Settled s) : Undisturbed s := by
  intro timed moving ops noRequest
  refine Machine.along_of_along (fun p => p.RateOk ∧ p.player.lastSeek = -1) ?_ ?_ ⟨rateOk, settled timed moving⟩
    (Machine.along_of_forall noRequest _)
  · rintro p op q ⟨rateOk, done⟩ silent h
    exact ⟨Playback.step_rateOk rateOk h, (step_undisturbed rateOk done silent h).2⟩
  · rintro p op q ⟨rateOk, done⟩ silent h
    exact (step_undisturbed rateOk done silent h).1

/-- Along every run each flushing seek goes to the latest requested time, no request is sought twice,
and a player that plays is not flushed until it is asked to seek. -/
theorem seeks_served_once (cfg : Config) (ops : List Op) :
    Machine.Throughout step (fun s => s.ledger.Once ∧ Undisturbed s.playback) (start cfg) ops :=
  Machine.throughout_of_kept Inv (fun _ _ _ inv h => step_inv inv h)
    (fun _ inv => ⟨inv.valid.once, settled_undisturbed inv.rateOk inv.settled⟩) (start_inv cfg) ops

end SeekLedger
end CobaltWayland
