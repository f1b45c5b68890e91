import CobaltWayland.Lib.Machine
import Mathlib.Data.List.Count

/-!
The state observers of `application_wayland.cc`. Pausing and unpausing call every registered observer,
under the mutex that registering takes as well; an observer is registered as often as it was added, and
unregistering it takes one registration back, if there is one.
-/

namespace CobaltWayland

inductive StateChange where
  | onAppPause | onAppUnpause
  deriving DecidableEq, Repr

/-- The calls that take `observers_mutex_`. -/
inductive ObserverEvent (ω : Type*) where
  | pause | unpause
  | registerObserver (observer : ω)
  | unregisterObserver (observer : ω)
  deriving DecidableEq, Repr

namespace StateObservers
variable {ω : Type*} [DecidableEq ω]

def step (observers : List ω) : ObserverEvent ω → List ω
  | .pause | .unpause => observers
  | .registerObserver observer => observers ++ [observer]
  | .unregisterObserver observer => if observer ∈ observers then observers.erase observer else observers

def called (observers : List ω) : ObserverEvent ω → List (ω × StateChange)
  | .pause => observers.map fun observer => (observer, .onAppPause)
  | .unpause => observers.map fun observer => (observer, .onAppUnpause)
  | .registerObserver _ | .unregisterObserver _ => []

/-! ### One observer by itself -/

def stepAlone (own : ω) (registrations : Nat) : ObserverEvent ω → Nat
  | .pause | .unpause => registrations
  | .registerObserver observer => if observer = own then registrations + 1 else registrations
  | .unregisterObserver observer => if observer = own then registrations - 1 else registrations

def calledAlone (registrations : Nat) : ObserverEvent ω → List StateChange
  | .pause => .replicate registrations .onAppPause
  | .unpause => .replicate registrations .onAppUnpause
  | .registerObserver _ | .unregisterObserver _ => []

def callsOf (own : ω) (call : ω × StateChange) : Option StateChange := if call.1 = own then some call.2 else none

theorem filterMap_callsOf (own : ω) (observers : List ω) (change : StateChange) :
    (observers.map fun observer => (observer, change)).filterMap (callsOf own) =
      .replicate (observers.count own) change := by
  induction observers with
  | nil => rfl
  | cons observer observers ih =>
    by_cases same : observer = own <;> simp [callsOf, same, ih, List.replicate_succ]

theorem step_count (own : ω) (observers : List ω) (e : ObserverEvent ω) :
    (step observers e).count own = stepAlone own (observers.count own) e := by
  cases e with
  | pause | unpause => rfl
  | registerObserver observer => by_cases same : observer = own <;> simp [step, stepAlone, same]
  | unregisterObserver observer =>
    simp only [step, stepAlone]
    by_cases same : observer = own
    · subst same
      rw [if_pos rfl]
      split
      · exact List.count_erase_self
      · rename_i unregistered
        rw [List.count_eq_zero.mpr unregistered]
    · rw [if_neg same]
      split
      · exact List.count_erase_of_ne (Ne.symm same)
      · rfl

theorem called_own (own : ω) (observers : List ω) (e : ObserverEvent ω) :
    (called observers e).filterMap (callsOf own) = calledAlone (observers.count own) e := by
  cases e with
  | pause | unpause => exact filterMap_callsOf own observers _
  | registerObserver | unregisterObserver => rfl

/-- In every sequence of calls, whichever threads they come from, an observer is called as if it were
the only one: once for each of its registrations at every change, and not at all without one. -/
theorem called_as_if_alone (own : ω) (es : List (ObserverEvent ω)) :
    (es.foldl step []).count own = es.foldl (stepAlone own) 0 ∧
      (Machine.labels (Machine.total step) called [] es).filterMap (callsOf own) =
        Machine.labels (Machine.total (stepAlone own)) calledAlone 0 es := by
  have simulates : ∀ (observers : List ω) registrations e observers', observers.count own = registrations →
      Machine.total step observers e = some observers' →
      ∃ registrations', Machine.total (stepAlone own) registrations e = some registrations' ∧
        observers'.count own = registrations' ∧
        (called observers e).filterMap (callsOf own) = calledAlone registrations e := by
    rintro observers _ e observers' rfl taken
    obtain rfl := Option.some.inj taken
    exact ⟨_, rfl, step_count own observers e, called_own own observers e⟩
  obtain ⟨registrations, alone, counted, heard⟩ :=
    Machine.exec_viewed _ (callsOf own) simulates List.count_nil (Machine.exec_total step [] es)
  rw [Machine.exec_total] at alone
  exact ⟨counted.trans (Option.some.inj alone).symm, heard⟩

end StateObservers
end CobaltWayland
