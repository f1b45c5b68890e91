import CobaltWayland.EventWait
import CobaltWayland.Lib.Progress
import Mathlib.Data.List.Range

/-!
What becomes of an injected event. The main thread handles the events in the order in which they were
injected, each once; when it sleeps and no thread is in the middle of an injection it has handled them
all. And an event that was announced does not wait for the display: the main thread is back at the queue
after three steps at most, whatever `wl_display_flush` and `ppoll` answer.
-/

namespace CobaltWayland

namespace WaitEvent

def waits {ι : Type*} : WaitEvent ι → Bool
  | .findEmpty | .flush _ | .ppoll .. | .read => true
  | .inject _ | .wakeSystemEventWait _ | .takeEvent => false

end WaitEvent

def WaitStage.left : WaitStage → Nat
  | .checking => 0
  | .reading => 1
  | .polling => 2
  | .flushing => 3

namespace EventWait
variable {ι : Type*}

def handled (s : EventWait ι) : WaitEvent ι → List Nat
  | .takeEvent => s.events.queue.take 1
  | _ => []

structure Delivered (log : List Nat) (s : EventWait ι) : Prop where
  sound : Inv s
  order : log ++ s.events.queue = List.range s.injected

theorem start_delivered : Delivered [] ({} : EventWait ι) := ⟨start_inv, rfl⟩

theorem Delivered.all {log : List Nat} {s : EventWait ι} (delivered : Delivered log s) (blocked : s.Blocked)
    (settled : ∀ thread, s.waking thread = none) : log = List.range s.injected := by
  have empty : s.events.queue = [] := by
    apply List.eq_nil_iff_forall_not_mem.mpr
    intro event queued
    obtain ⟨thread, waking⟩ := delivered.sound.noWakeupLost blocked event queued
    rw [settled thread] at waking
    cases waking
  rw [← delivered.order, empty, List.append_nil]

structure Due (queue : List Nat) (s : EventWait ι) : Prop where
  sound : Inv s
  same : s.events.queue = queue
  announced : ∃ event ∈ s.events.queue, event ∈ s.events.announced

theorem Due.not_blocked {queue : List Nat} {s : EventWait ι} (due : Due queue s) : ¬ s.Blocked := by
  intro blocked
  obtain ⟨event, queued, announced⟩ := due.announced
  exact due.sound.not_announced blocked queued announced

variable [DecidableEq ι] {log : List Nat} {s t : EventWait ι} {e : WaitEvent ι}

theorem step_delivered (delivered : Delivered log s) (h : s.step e = some t) :
    Delivered (log ++ s.handled e) t := by
  have sound := step_inv delivered.sound h
  have order := delivered.order
  cases e with
  | inject thread =>
    obtain ⟨_, rfl⟩ := Option.ite_some_none_eq_some.mp h
    exact ⟨sound, by simp [handled, append, Mailbox.post, List.range_succ, ← order]⟩
  | wakeSystemEventWait thread =>
    obtain ⟨event, appended, rfl⟩ := Option.map_eq_some_iff.mp h
    exact ⟨sound, by simpa [handled, wakeSystemEventWait, Mailbox.announce] using order⟩
  | takeEvent =>
    obtain ⟨_, rfl⟩ := Option.ite_some_none_eq_some.mp h
    refine ⟨sound, ?_⟩
    rw [← order, List.append_assoc, handled, Mailbox.take, ← List.drop_one, List.take_append_drop]
  | findEmpty | flush | ppoll | read =>
    obtain ⟨_, rfl⟩ := Option.ite_some_none_eq_some.mp h
    exact ⟨sound, by simpa [handled, Mailbox.clear] using order⟩

/-- What the main thread has handled and what waits is all that was injected, in the order of the
injections. When it sleeps while nobody is injecting, it has handled all of it. -/
theorem events_handled {es : List (WaitEvent ι)} (run : Machine.exec step ({} : EventWait ι) es = some t) :
    Machine.labels step handled {} es ++ t.events.queue = List.range t.injected ∧
      (t.Blocked → (∀ thread, t.waking thread = none) →
        Machine.labels step handled {} es = List.range t.injected) := by
  have delivered : Delivered (Machine.labels step handled {} es) t :=
    Machine.exec_logged (fun _ => Delivered) (fun _ _ _ _ _ => step_delivered) start_delivered run
  exact ⟨delivered.order, delivered.all⟩

theorem events_handled_two : ∃ t : EventWait Bool,
    Machine.exec step {} [.inject true, .inject false, .wakeSystemEventWait false, .takeEvent, .takeEvent,
      .findEmpty, .wakeSystemEventWait true, .flush false, .ppoll false false, .read, .findEmpty,
      .flush false] = some t ∧
    Machine.labels step handled {} [.inject true, .inject false, .wakeSystemEventWait false, .takeEvent, .takeEvent,
      .findEmpty, .wakeSystemEventWait true, .flush false, .ppoll false false, .read, .findEmpty,
      .flush false] = List.range t.injected := by
  refine ⟨_, rfl, ?_⟩
  refine (events_handled rfl).2 ⟨rfl, rfl⟩ ?_
  decide

/-! ### The way back to the queue -/

/-- Away from the queue the main thread always has a step, which brings it nearer and takes no event. -/
theorem Due.waits {queue : List Nat} (due : Due queue s) (waits : e.waits = true) (h : s.step e = some t) :
    Due queue t ∧ t.stage.left < s.stage.left := by
  have sound := step_inv due.sound h
  obtain ⟨event, queued, announced⟩ := due.announced
  cases e with
  | inject | wakeSystemEventWait | takeEvent => cases waits
  | findEmpty =>
    obtain ⟨⟨_, empty⟩, rfl⟩ := Option.ite_some_none_eq_some.mp h
    rw [empty] at queued
    cases queued
  | flush failed =>
    obtain ⟨stage, rfl⟩ := Option.ite_some_none_eq_some.mp h
    refine ⟨⟨sound, due.same, event, queued, announced⟩, ?_⟩
    cases failed <;> simp [stage, WaitStage.left]
  | ppoll displayReady interrupted =>
    obtain ⟨stage, rfl⟩ := Option.ite_some_none_eq_some.mp h
    refine ⟨⟨sound, due.same, event, queued, announced⟩, ?_⟩
    dsimp only
    split <;> simp [stage, WaitStage.left]
  | read =>
    obtain ⟨stage, rfl⟩ := Option.ite_some_none_eq_some.mp h
    exact ⟨⟨sound, due.same, event, queued, announced⟩, by simp [stage, WaitStage.left]⟩

theorem exists_waits (away : s.stage ≠ .checking) :
    ∃ (e : WaitEvent ι) (t : EventWait ι), e.waits = true ∧ s.step e = some t := by
  cases stage : s.stage with
  | checking => exact absurd stage away
  | flushing => exact ⟨.flush false, _, rfl, if_pos stage⟩
  | polling => exact ⟨.ppoll true false, _, rfl, if_pos stage⟩
  | reading => exact ⟨.read, _, rfl, if_pos stage⟩

/-- While an announced event waits, the main thread does not sleep and, left to itself, is back at the
queue as it was after three steps at most. -/
theorem announced_not_kept_waiting {es more : List (WaitEvent ι)} {event : Nat}
    (run : Machine.exec step ({} : EventWait ι) es = some s) (queued : event ∈ s.events.queue)
    (announced : event ∈ s.events.announced)
    (alone : Machine.Along step (fun _ e => e.waits = true) s more) (reached : Machine.exec step s more = some t) :
    more.length ≤ 3 ∧ ¬ t.Blocked ∧ t.events.queue = s.events.queue ∧
      (t.stage = .checking ∨ ∃ (e : WaitEvent ι) (u : EventWait ι), e.waits = true ∧ t.step e = some u) := by
  have sound : Inv s := Machine.exec_invariant (fun _ _ _ inv h => step_inv inv h) start_inv run
  have due : Due s.events.queue s := ⟨sound, rfl, event, queued, announced⟩
  have last : Due s.events.queue t :=
    Machine.exec_guarded (fun _ _ _ due waits h => (Due.waits due waits h).1) due alone reached
  have nearer : Machine.Along step (fun s' e => e.waits = true ∧ Due s.events.queue s') s more :=
    Machine.along_of_along (Due s.events.queue) (fun _ _ _ due waits h => (Due.waits due waits h).1)
      (fun _ _ _ due waits _ => ⟨waits, due⟩) due alone
  have lessens : ∀ (s' : EventWait ι) e t', True → (e.waits = true ∧ Due s.events.queue s') → s'.step e = some t' →
      t'.stage.left < s'.stage.left := fun _ _ _ _ own h => (Due.waits own.2 own.1 h).2
  have bound : more.length + t.stage.left ≤ s.stage.left :=
    Machine.length_le_work (fun _ _ _ _ _ => trivial) lessens trivial nearer reached
  have most : s.stage.left ≤ 3 := by cases s.stage <;> decide
  refine ⟨by omega, last.not_blocked, last.same, ?_⟩
  by_cases back : t.stage = .checking
  · exact Or.inl back
  · exact Or.inr (exists_waits back)

theorem announced_not_kept_waiting_late : ∃ s t : EventWait Bool,
    Machine.exec step {} [.findEmpty, .flush false, .inject true, .wakeSystemEventWait true] = some s ∧
      Machine.exec step s [.ppoll false false] = some t ∧ ¬ t.Blocked ∧ t.events.queue = s.events.queue := by
  have runs : ((Machine.exec step ({} : EventWait Bool)
      [.findEmpty, .flush false, .inject true, .wakeSystemEventWait true]).any fun s =>
      (0 ∈ s.events.queue ∧ 0 ∈ s.events.announced) ∧ (Machine.exec step s [.ppoll false false]).isSome) = true := by
    decide
  obtain ⟨s, run, ends⟩ := (Option.any_eq_true _ _).mp runs
  obtain ⟨⟨queued, announced⟩, next⟩ := of_decide_eq_true ends
  obtain ⟨t, reached⟩ := Option.isSome_iff_exists.mp next
  have alone : Machine.Along step (fun _ e => e.waits = true) s [.ppoll false false] := fun _ _ => ⟨rfl, trivial⟩
  have soon := announced_not_kept_waiting run queued announced alone reached
  exact ⟨s, t, run, reached, soon.2.1, soon.2.2.1⟩

end EventWait
end CobaltWayland
