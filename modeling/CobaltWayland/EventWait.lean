import CobaltWayland.Lib.Machine
import CobaltWayland.Lib.Mailbox
import Mathlib.Logic.Function.Basic

/-!
The wait of `application_wayland.cc`. The main thread takes what it finds in the event queue and,
at an empty queue, calls `WaitForSystemEventWithTimeout`, which sleeps in `ppoll` on the display
and on `wakeup_fd_`. A thread that injects an event appends it and then calls
`WakeSystemEventWait`. The threads are an arbitrary type, events are numbered as they are injected.
-/

namespace CobaltWayland

inductive WaitStage where
  | checking | flushing | polling | reading
  deriving DecidableEq, Repr

/-- The events and `wakeup_fd_` are the mailbox. `waking i` is the event that thread `i` has
appended and not yet woken the main thread for. -/
structure EventWait (ι : Type*) where
  stage : WaitStage := .checking
  events : Mailbox Nat := {}
  injected : Nat := 0
  waking : ι → Option Nat := fun _ => none

inductive WaitEvent (ι : Type*) where
  | inject (thread : ι)
  | wakeSystemEventWait (thread : ι)
  | takeEvent
  | findEmpty
  | flush (failed : Bool)
  | ppoll (displayReady interrupted : Bool)
  | read

namespace EventWait
variable {ι : Type*}

/-- What `ppoll` returns: the number of descriptors with an answer, or a failure. A timeout is the
answer of none. -/
def ppollResult (s : EventWait ι) (displayReady interrupted : Bool) : Int :=
  if interrupted then -1 else displayReady.toNat + if s.events.count ≠ 0 then 1 else 0

def wakeupPollin (s : EventWait ι) (interrupted : Bool) : Bool :=
  !interrupted && s.events.count ≠ 0

/-- The main thread sleeps in `ppoll`: nothing on `wakeup_fd_` ends the call. -/
def Blocked (s : EventWait ι) : Prop := s.stage = .polling ∧ s.events.count = 0

/-- Only an event whose thread has yet to call `WakeSystemEventWait` waits while the main thread sleeps. -/
def NoWakeupLost (s : EventWait ι) : Prop :=
  s.Blocked → ∀ event ∈ s.events.queue, ∃ thread, s.waking thread = some event

def ReadsPositive (s : EventWait ι) : WaitEvent ι → Prop
  | .read => s.events.count ≠ 0
  | _ => True

structure Inv (s : EventWait ι) : Prop where
  /-- From the check that found the queue empty to the end of the sleep. -/
  heard : s.stage ≠ .checking → s.events.Heard
  ready : s.stage = .reading → 0 < s.events.count
  announced_injected : ∀ event ∈ s.events.announced, event < s.injected
  waking_injected : ∀ thread event, s.waking thread = some event → event < s.injected
  /-- Whoever appended an event has announced it or is about to. -/
  owed : ∀ event ∈ s.events.queue, event ∈ s.events.announced ∨ ∃ thread, s.waking thread = some event

theorem start_inv : Inv ({} : EventWait ι) where
  heard := fun _ => Mailbox.heard_of_empty rfl
  ready := by simp
  announced_injected := by simp
  waking_injected := by simp
  owed := by simp

theorem Inv.not_announced {s : EventWait ι} (inv : Inv s) (blocked : s.Blocked) {event : Nat}
    (queued : event ∈ s.events.queue) : event ∉ s.events.announced :=
  (inv.heard (by simp [blocked.1])).not_announced blocked.2 queued

theorem Inv.noWakeupLost {s : EventWait ι} (inv : Inv s) : NoWakeupLost s :=
  fun blocked event queued => (inv.owed event queued).resolve_left (inv.not_announced blocked queued)

variable [DecidableEq ι]

/-- `Inject` up to the append. -/
def append (s : EventWait ι) (thread : ι) : EventWait ι :=
  { s with
    events := s.events.post s.injected
    injected := s.injected + 1
    waking := Function.update s.waking thread (some s.injected) }

def wakeSystemEventWait (s : EventWait ι) (thread : ι) (event : Nat) : EventWait ι :=
  { s with events := s.events.announce event, waking := Function.update s.waking thread none }

def step (s : EventWait ι) : WaitEvent ι → Option (EventWait ι)
  | .inject thread => if s.waking thread = none then some (s.append thread) else none
  | .wakeSystemEventWait thread => (s.waking thread).map (s.wakeSystemEventWait thread)
  | .takeEvent =>
    if s.stage = .checking ∧ s.events.queue ≠ [] then some { s with events := s.events.take } else none
  | .findEmpty =>
    if s.stage = .checking ∧ s.events.queue = [] then some { s with stage := .flushing } else none
  | .flush failed =>
    if s.stage = .flushing then
      some { s with stage := if failed then .checking else .polling }
    else none
  | .ppoll displayReady interrupted =>
    if s.stage = .polling then
      let ret := s.ppollResult displayReady interrupted
      some { s with stage := if 0 < ret ∧ s.wakeupPollin interrupted then .reading else .checking }
    else none
  | .read =>
    if s.stage = .reading then some { s with stage := .checking, events := s.events.clear } else none

theorem append_inv {s : EventWait ι} (inv : Inv s) {thread : ι} (free : s.waking thread = none) :
    Inv (s.append thread) where
  heard := by
    intro waiting
    refine Mailbox.post_heard (inv.heard waiting) fun announced => ?_
    exact Nat.lt_irrefl _ (inv.announced_injected _ announced)
  ready := inv.ready
  announced_injected := fun event announced => Nat.lt_succ_of_lt (inv.announced_injected event announced)
  waking_injected := by
    intro other event appended
    simp only [append, Function.update_apply] at appended ⊢
    split at appended
    · obtain rfl := Option.some.inj appended
      exact Nat.lt_succ_self _
    · exact Nat.lt_succ_of_lt (inv.waking_injected other event appended)
  owed := by
    intro event queued
    rcases List.mem_append.mp queued with before | last
    · rcases inv.owed event before with announced | ⟨other, waking⟩
      · exact Or.inl announced
      · have different : other ≠ thread := by
          rintro rfl
          rw [free] at waking
          cases waking
        exact Or.inr ⟨other, by simpa [append, different] using waking⟩
    · obtain rfl := List.mem_singleton.mp last
      exact Or.inr ⟨thread, by simp [append]⟩

theorem wakeSystemEventWait_inv {s : EventWait ι} (inv : Inv s) {thread : ι} {event : Nat}
    (appended : s.waking thread = some event) : Inv (s.wakeSystemEventWait thread event) where
  heard := fun _ => Mailbox.announce_heard
  ready := fun _ => Nat.succ_pos _
  announced_injected := by
    intro other listed
    rcases List.mem_cons.mp listed with rfl | before
    · exact inv.waking_injected thread other appended
    · exact inv.announced_injected other before
  waking_injected := by
    intro other event found
    simp only [wakeSystemEventWait, Function.update_apply] at found
    split at found
    · cases found
    · exact inv.waking_injected other event found
  owed := by
    intro other queued
    rcases inv.owed other queued with announced | ⟨caller, waking⟩
    · exact Or.inl (List.mem_cons_of_mem _ announced)
    · by_cases same : caller = thread
      · subst same
        obtain rfl := Option.some.inj (appended.symm.trans waking)
        exact Or.inl List.mem_cons_self
      · exact Or.inr ⟨caller, by simpa [wakeSystemEventWait, same] using waking⟩

theorem step_inv {s t : EventWait ι} {e : WaitEvent ι} (inv : Inv s) (h : s.step e = some t) : Inv t := by
  cases e with
  | inject thread =>
    obtain ⟨free, rfl⟩ := Option.ite_some_none_eq_some.mp h
    exact append_inv inv free
  | wakeSystemEventWait thread =>
    obtain ⟨event, appended, rfl⟩ := Option.map_eq_some_iff.mp h
    exact wakeSystemEventWait_inv inv appended
  | takeEvent =>
    obtain ⟨_, rfl⟩ := Option.ite_some_none_eq_some.mp h
    exact { inv with
      heard := fun waiting => Mailbox.take_heard (inv.heard waiting)
      ready := inv.ready
      owed := fun event queued => inv.owed event (List.mem_of_mem_tail queued) }
  | findEmpty =>
    obtain ⟨⟨_, empty⟩, rfl⟩ := Option.ite_some_none_eq_some.mp h
    exact { inv with heard := fun _ => Mailbox.heard_of_empty empty, ready := by simp }
  | flush failed =>
    obtain ⟨stage, rfl⟩ := Option.ite_some_none_eq_some.mp h
    have heard := inv.heard (by simp [stage])
    exact { inv with heard := fun _ => heard, ready := by cases failed <;> simp }
  | ppoll displayReady interrupted =>
    obtain ⟨stage, rfl⟩ := Option.ite_some_none_eq_some.mp h
    have heard := inv.heard (by simp [stage])
    refine { inv with heard := fun _ => heard, ready := fun reading => ?_ }
    have answered : s.wakeupPollin interrupted = true := by
      by_contra silent
      simp [silent] at reading
    simp only [wakeupPollin, Bool.and_eq_true, decide_eq_true_eq] at answered
    exact Nat.pos_of_ne_zero answered.2
  | read =>
    obtain ⟨_, rfl⟩ := Option.ite_some_none_eq_some.mp h
    exact { inv with heard := by simp, ready := by simp }

theorem Inv.readsPositive {s t : EventWait ι} {e : WaitEvent ι} (inv : Inv s) (h : s.step e = some t) :
    s.ReadsPositive e := by
  cases e with
  | read =>
    obtain ⟨reading, _⟩ := Option.ite_none_right_eq_some.mp h
    have positive := inv.ready reading
    simp only [ReadsPositive]
    omega
  | _ => trivial

/-- In every interleaving of the main thread with the threads that inject, the main thread never
sleeps on an event whose thread has called `WakeSystemEventWait`, and it never reads `wakeup_fd_` at
zero. -/
theorem no_wakeup_lost (es : List (WaitEvent ι)) :
    Machine.Throughout step NoWakeupLost ({} : EventWait ι) es ∧
      Machine.Along step ReadsPositive ({} : EventWait ι) es := by
  constructor
  · exact Machine.throughout_of_kept Inv (fun _ _ _ inv h => step_inv inv h)
      (fun _ inv => inv.noWakeupLost) start_inv es
  · exact Machine.along_of_along Inv (fun _ _ _ inv _ h => step_inv inv h)
      (fun _ _ _ inv _ h => inv.readsPositive h) start_inv
      (Machine.along_of_forall (p := fun _ => True) (fun _ _ => trivial) _)

end EventWait
end CobaltWayland
