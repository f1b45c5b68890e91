import CobaltWayland.FlushReports
import CobaltWayland.LiveSystem
import CobaltWayland.SeekOnce

/-!
What the pipeline is flushed for. A flushing seek throws the written samples away, so it has to be one
that was asked for: however the threads interleave, the flushing seeks are the start that the
constructor leaves behind and seeks of the client, each with its own time and ticket, in the order in
which they were asked for and none of them twice.
-/

namespace CobaltWayland
namespace Playback

/-- The flushing seeks so far, given the requests. -/
structure FlushedInOrder (requests : List (Int × Int)) (s : Playback) : Prop where
  rateOk : RateOk s
  flushed : s.player.playbin.flushes.reverse.Sublist requests
  /-- A recorded seek is the latest request, and it has not been issued. -/
  waiting : 0 ≤ s.player.lastSeek → ∃ before,
    requests = before ++ [(s.player.lastSeek, s.player.lastTicket)] ∧
      s.player.playbin.flushes.reverse.Sublist before

theorem initial_flushedInOrder (cfg : Config) : FlushedInOrder [(0, cfg.initialTicket)] (initial cfg) where
  rateOk := initial_rateOk cfg
  flushed := List.nil_sublist _
  waiting := fun _ => ⟨[], rfl, List.Sublist.refl _⟩

variable {requests : List (Int × Int)} {s t : Playback} {op : Op}

theorem FlushedInOrder.seeks {p : Player} {seekTo : Int} {speedTo : ℚ} (rateOk : RateOk t)
    (after : t.player = p.sought seekTo speedTo)
    (latest : 0 ≤ seekTo → ∃ before,
      requests = before ++ [(seekTo, p.lastTicket)] ∧ p.playbin.flushes.reverse.Sublist before)
    (flushed : p.playbin.flushes.reverse.Sublist requests) : FlushedInOrder requests t where
  rateOk := rateOk
  flushed := by
    rw [after, Player.sought_flushes]
    split
    · rename_i jumps
      obtain ⟨before, rfl, earlier⟩ := latest (jumps_nonneg jumps)
      rw [List.reverse_cons]
      exact earlier.append (List.Sublist.refl _)
    · exact flushed
  waiting := by
    rw [after, Player.sought_lastSeek]
    intro recorded
    omega

theorem FlushedInOrder.congr (inv : FlushedInOrder requests s) (rateOk : RateOk t)
    (flushes : t.player.playbin.flushes = s.player.playbin.flushes)
    (lastSeek : t.player.lastSeek = s.player.lastSeek) (lastTicket : t.player.lastTicket = s.player.lastTicket) :
    FlushedInOrder requests t where
  rateOk := rateOk
  flushed := by rw [flushes]; exact inv.flushed
  waiting := by rw [flushes, lastSeek, lastTicket]; exact inv.waiting

theorem step_flushedInOrder (inv : FlushedInOrder requests s) (h : s.step op = some t) :
    FlushedInOrder (requests ++ op.request.toList) t := by
  have rateOk := step_rateOk inv.rateOk h
  have unasked : op.request = none → FlushedInOrder requests t →
      FlushedInOrder (requests ++ op.request.toList) t := by
    intro none inv
    rwa [none, Option.toList_none, List.append_nil]
  have asked : ∀ target, s.player.playbin.flushes.reverse.Sublist (requests ++ [target]) :=
    fun target => inv.flushed.trans (List.sublist_append_left _ _)
  cases step_turn inv.rateOk h with
  | recorded => exact ⟨rateOk, asked _, fun _ => ⟨requests, rfl, inv.flushed⟩⟩
  | sought => exact .seeks rateOk rfl (fun _ => ⟨requests, rfl, inv.flushed⟩) (asked _)
  | played => exact unasked rfl (.seeks rateOk rfl inv.waiting inv.flushed)
  | prerolledPlaying => exact unasked rfl (.seeks (p := s.player.announced) rateOk rfl inv.waiting inv.flushed)
  | paused =>
    have flushes : (if s.player.positionUpdateSource then s.player.playbin.setState .paused
        else s.player.playbin).flushes = s.player.playbin.flushes := by split <;> rfl
    exact unasked rfl (inv.congr rateOk flushes rfl rfl)
  | rateRecorded | ticked | prerolledPaused => exact unasked rfl (inv.congr rateOk rfl rfl rfl)
  | framed none _ frame =>
    exact unasked none (inv.congr rateOk (congrArg Playbin.flushes frame.playbin) frame.lastSeek frame.lastTicket)

theorem run_flushedInOrder {ops : List Op} (inv : FlushedInOrder requests s)
    (run : Machine.exec step s ops = some t) : FlushedInOrder (requests ++ ops.filterMap Op.request) t := by
  induction ops generalizing s requests with
  | nil =>
    obtain rfl := Option.some.inj run
    rwa [List.filterMap_nil, List.append_nil]
  | cons op ops ih =>
    obtain ⟨u, first, rest⟩ := Machine.exec_cons.mp run
    have next := ih (step_flushedInOrder inv first) rest
    rw [List.append_assoc] at next
    cases asked : op.request with
    | none =>
      rw [asked] at next
      rw [List.filterMap_cons_none asked]
      exact next
    | some target =>
      rw [asked] at next
      rw [List.filterMap_cons_some asked]
      exact next

end Playback

namespace System

/-- Whenever the worker is between two functions, the flushing seeks issued so far are, each at most
once and in their order, the start that the constructor leaves behind and the seeks of the client that
the worker has served, with the times and the tickets they were asked for with. -/
theorem flushed_as_asked (cfg : Config) {es : List Event} {t : System}
    (run : Machine.exec (step cfg) (start cfg) es = some t) (alive : t.stage.stopped = false)
    (idle : t.worker = .idle) :
    ∃ served, es.filterMap Event.target = served ++ t.calls.filterMap Call.target ∧
      t.player.playbin.flushes.reverse.Sublist ((0, cfg.initialTicket) :: served) := by
  obtain ⟨b, worker, refines⟩ := run_refines cfg run
  have kept := Playback.run_flushedInOrder (Playback.initial_flushedInOrder cfg) worker
  refine ⟨_, run_targets cfg run alive idle, ?_⟩
  rw [← ((refines alive).idle idle).2]
  exact kept.flushed

theorem flushed_as_asked_replay :
    ∃ t : System, Machine.exec (step ⟨0, true, true, true⟩) (start ⟨0, true, true, true⟩) flushedTwice = some t ∧
      t.player.playbin.flushes = [(6000, 9), (5000, 7)] ∧
      ∃ served, [(5000, 7), (6000, 9)] = served ++ t.calls.filterMap Call.target ∧
        t.player.playbin.flushes.reverse.Sublist ((0, 0) :: served) := by
  have runs : ((Machine.exec (step ⟨0, true, true, true⟩) (start ⟨0, true, true, true⟩) flushedTwice).any fun t =>
      t.stage.stopped = false ∧ t.worker = .idle ∧ t.player.playbin.flushes = [(6000, 9), (5000, 7)]) = true := by
    decide +kernel
  obtain ⟨t, run, ends⟩ := (Option.any_eq_true _ _).mp runs
  obtain ⟨alive, idle, flushes⟩ := of_decide_eq_true ends
  have asked : flushedTwice.filterMap Event.target = [(5000, 7), (6000, 9)] := by decide +kernel
  obtain ⟨served, split, once⟩ := flushed_as_asked _ run alive idle
  exact ⟨t, run, flushes, served, asked.symm.trans split, once⟩

end System
end CobaltWayland
