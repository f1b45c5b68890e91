import Mathlib.Data.BitVec
import Mathlib.Order.Basic

/-!
Thread priorities of `thread_create_priority.cc`. `SetRoundRobinScheduler` compares the limit of
the thread with the lowest real-time priority and then asks for a priority that can lie above it.
`int` is `Int32`, and `unsigned long` has `word` bits.
-/

namespace CobaltWayland

/-- A value outside the seven takes the `default` branch. -/
inductive ThreadPriority where
  | lowest | low | normal | high | highest | realTime | noPriority
  | strange (value : Int32)
  deriving DecidableEq, Repr

inductive Scheduler where
  | idle | other
  | roundRobin (priority : Int32)
  deriving DecidableEq, Repr

/-- What the system grants the calling thread, which has no privileges. -/
structure SchedThread (word : Nat) where
  minPriority : Int32
  maxPriority : Int32
  /-- The soft `RLIMIT_RTPRIO`. -/
  rlimCur : BitVec word
  /-- The present real-time priority, zero without one. -/
  realTimePriority : Nat
  idleGranted : Bool
  min_pos : 1 ≤ minPriority.toInt
  min_le_max : minPriority.toInt ≤ maxPriority.toInt
  int_fits : 32 ≤ word

structure PriorityOutcome where
  scheduler : Option Scheduler
  notReached : Bool
  deriving DecidableEq, Repr

namespace SchedThread
variable {word : Nat} (t : SchedThread word)

/-- The kernel's rule: whether `sched_setscheduler` returns zero. -/
def schedSetscheduler : Scheduler → Bool
  | .idle => t.idleGranted
  | .other => true
  | .roundRobin priority =>
    t.minPriority.toInt ≤ priority.toInt && priority.toInt ≤ t.maxPriority.toInt &&
      (priority.toInt ≤ t.rlimCur.toNat || priority.toInt ≤ t.realTimePriority)

def ask (scheduler : Scheduler) : PriorityOutcome := ⟨some scheduler, !t.schedSetscheduler scheduler⟩

def setIdleScheduler : PriorityOutcome := t.ask .idle

def setOtherScheduler : PriorityOutcome := t.ask .other

/-- The `int` is converted for the comparison with the `unsigned long`. -/
def setRoundRobinScheduler (priority : Int32) : PriorityOutcome :=
  if t.rlimCur < t.minPriority.toBitVec.signExtend word then t.setOtherScheduler
  else t.ask (.roundRobin (min (t.minPriority + priority) t.maxPriority))

def threadSetPriority : ThreadPriority → PriorityOutcome
  | .lowest | .low => t.setIdleScheduler
  | .noPriority | .normal => t.setOtherScheduler
  | .high => t.setRoundRobinScheduler 0
  | .highest => t.setRoundRobinScheduler 1
  | .realTime => t.setRoundRobinScheduler 2
  | .strange _ => ⟨none, true⟩

def roundRobinLevel : ThreadPriority → Option Int32
  | .high => some 0
  | .highest => some 1
  | .realTime => some 2
  | _ => none

def Served (outcome : PriorityOutcome) : Prop :=
  outcome.notReached = false ∧ (outcome.scheduler = some .other ∨
    ∃ priority, outcome.scheduler = some (.roundRobin priority) ∧
      t.schedSetscheduler (.roundRobin priority) = true)

/-- A bound from `level` above the lowest priority on, or from the highest one on. -/
def Reaches (level : Int32) (bound : Nat) : Prop :=
  t.minPriority.toInt + level.toInt ≤ bound ∨ t.maxPriority.toInt ≤ bound

/-- The limit lies below the lowest priority, or it or the present priority is not in the gap
between the lowest priority and the one `level` above it. -/
def OutsideGap (level : Int32) : Prop :=
  t.rlimCur.toNat < t.minPriority.toInt ∨
    t.minPriority.toInt + level.toInt < 2 ^ 31 ∧
      (t.Reaches level t.rlimCur.toNat ∨ t.Reaches level t.realTimePriority)

variable {t}

theorem threadSetPriority_roundRobin {priority : ThreadPriority} {level : Int32}
    (passes : roundRobinLevel priority = some level) :
    t.threadSetPriority priority = t.setRoundRobinScheduler level := by
  cases priority <;> cases passes <;> rfl

theorem roundRobinLevel_nonneg {priority : ThreadPriority} {level : Int32}
    (passes : roundRobinLevel priority = some level) : 0 ≤ level.toInt := by
  cases priority <;> cases passes <;> decide

theorem signExtend_toNat {n : Int32} (positive : 1 ≤ n.toInt) (fits : 32 ≤ word) :
    ((n.toBitVec.signExtend word).toNat : Int) = n.toInt := by
  rw [← Int32.toInt_toBitVec] at positive ⊢
  have msb : n.toBitVec.msb = false := by
    rw [BitVec.msb_eq_toInt, decide_eq_false_iff_not]
    omega
  have small : n.toBitVec.toNat < 2 ^ word :=
    Nat.lt_of_lt_of_le n.toBitVec.isLt (Nat.pow_le_pow_right (by decide) fits)
  rw [BitVec.signExtend_eq_setWidth_of_msb_false msb, BitVec.toNat_setWidth, Nat.mod_eq_of_lt small,
    BitVec.toInt_eq_toNat_of_msb msb]

theorem limit_below_iff :
    t.rlimCur < t.minPriority.toBitVec.signExtend word ↔ t.rlimCur.toNat < t.minPriority.toInt := by
  rw [BitVec.lt_def, ← signExtend_toNat t.min_pos t.int_fits]
  omega

theorem toInt_min (a b : Int32) : (min a b).toInt = min a.toInt b.toInt := by
  show (if a ≤ b then a else b).toInt = _
  simp only [Int32.le_iff_toInt_le]
  split_ifs with ordered
  · exact (min_eq_left ordered).symm
  · exact (min_eq_right (le_of_not_ge ordered)).symm

theorem request_toInt {level : Int32} (nonneg : 0 ≤ level.toInt) :
    (min (t.minPriority + level) t.maxPriority).toInt =
      if t.minPriority.toInt + level.toInt < 2 ^ 31 then min (t.minPriority.toInt + level.toInt) t.maxPriority.toInt
      else t.minPriority.toInt + level.toInt - 2 ^ 32 := by
  have positive := t.min_pos
  have minimum := t.minPriority.toInt_lt
  have maximum := t.min_le_max
  have bound := level.toInt_lt
  rw [toInt_min, Int32.toInt_add, Int.bmod_def]
  split_ifs <;> omega

theorem granted_iff {level : Int32} (nonneg : 0 ≤ level.toInt) :
    t.schedSetscheduler (.roundRobin (min (t.minPriority + level) t.maxPriority)) = true ↔
      t.minPriority.toInt + level.toInt < 2 ^ 31 ∧
        (t.Reaches level t.rlimCur.toNat ∨ t.Reaches level t.realTimePriority) := by
  have positive := t.min_pos
  have maximum := t.min_le_max
  have bound := level.toInt_lt
  have top := t.maxPriority.toInt_lt
  simp only [schedSetscheduler, Bool.and_eq_true, Bool.or_eq_true, decide_eq_true_eq, request_toInt nonneg, Reaches]
  split_ifs <;> omega

theorem served_ask (priority : Int32) :
    t.Served (t.ask (.roundRobin priority)) ↔ t.schedSetscheduler (.roundRobin priority) = true := by
  constructor
  · rintro ⟨quiet, -⟩
    simpa only [ask, Bool.not_eq_false'] using quiet
  · intro granted
    exact ⟨by simp only [ask, granted, Bool.not_true], .inr ⟨priority, rfl, granted⟩⟩

theorem round_robin_served_iff {level : Int32} (nonneg : 0 ≤ level.toInt) :
    t.Served (t.setRoundRobinScheduler level) ↔ t.OutsideGap level := by
  by_cases below : t.rlimCur < t.minPriority.toBitVec.signExtend word
  · have fallback : t.setRoundRobinScheduler level = t.setOtherScheduler := if_pos below
    rw [fallback]
    exact iff_of_true ⟨rfl, .inl rfl⟩ (.inl (limit_below_iff.mp below))
  · have asked : t.setRoundRobinScheduler level =
        t.ask (.roundRobin (min (t.minPriority + level) t.maxPriority)) := if_neg below
    have reached : ¬ (t.rlimCur.toNat < t.minPriority.toInt) := fun h => below (limit_below_iff.mpr h)
    rw [asked, served_ask, granted_iff nonneg, OutsideGap]
    exact (or_iff_right reached).symm

/-- A real-time priority falls back or gets what it asks for exactly when the limit is outside the gap. -/
theorem real_time_served_iff (t : SchedThread word) {priority : ThreadPriority} {level : Int32}
    (passes : roundRobinLevel priority = some level) :
    t.Served (t.threadSetPriority priority) ↔ t.OutsideGap level := by
  rw [threadSetPriority_roundRobin passes]
  exact round_robin_served_iff (roundRobinLevel_nonneg passes)

/-- The priorities Linux has for `SCHED_RR`, with a limit of one. -/
def barelyLimited : SchedThread 64 where
  minPriority := 1
  maxPriority := 99
  rlimCur := 1
  realTimePriority := 0
  idleGranted := true
  min_pos := by decide
  min_le_max := by decide
  int_fits := by decide

theorem real_time_served_barely : barelyLimited.Served (barelyLimited.threadSetPriority .high) :=
  (real_time_served_iff barelyLimited (rfl : roundRobinLevel .high = some 0)).mpr
    (.inr ⟨by decide, .inl (.inl (by decide))⟩)

theorem highest_reaches_notreached :
    (barelyLimited.threadSetPriority .highest).notReached = true ∧
      ¬ barelyLimited.Served (barelyLimited.threadSetPriority .highest) := by
  have refused : (barelyLimited.threadSetPriority .highest).notReached = true := by decide
  refine ⟨refused, fun served => ?_⟩
  rw [served.1] at refused
  cases refused

end SchedThread
end CobaltWayland
