import Mathlib.Data.List.Basic

/-!
A queue beside a counter that its consumer can sleep on. A producer posts an item and then, as a
step of its own, announces it by adding one to the counter; the consumer takes items and clears the
counter, whatever it has grown to. `Heard` is what makes sleeping safe: while an announced item
waits, the counter is not zero. Only clearing can break it, and an empty queue restores it.
-/

structure Mailbox (α : Type*) where
  queue : List α := []
  /-- The items announced so far. -/
  announced : List α := []
  count : Nat := 0

namespace Mailbox
variable {α : Type*} (m : Mailbox α) (x : α)

def post : Mailbox α := { m with queue := m.queue ++ [x] }

def announce : Mailbox α := { m with announced := x :: m.announced, count := m.count + 1 }

def take : Mailbox α := { m with queue := m.queue.tail }

def clear : Mailbox α := { m with count := 0 }

def Heard : Prop := ∀ y ∈ m.queue, y ∈ m.announced → 0 < m.count

variable {m x}

theorem heard_of_empty (empty : m.queue = []) : m.Heard := by
  intro y queued
  simp [empty] at queued

theorem heard_of_pos (positive : 0 < m.count) : m.Heard := fun _ _ _ => positive

theorem announce_heard : (m.announce x).Heard := heard_of_pos (Nat.succ_pos m.count)

theorem post_heard (heard : m.Heard) (fresh : x ∉ m.announced) : (m.post x).Heard := by
  intro y queued announced
  rcases List.mem_append.mp queued with before | last
  · exact heard y before announced
  · obtain rfl := List.mem_singleton.mp last
    exact absurd announced fresh

theorem take_heard (heard : m.Heard) : m.take.Heard :=
  fun y queued announced => heard y (List.mem_of_mem_tail queued) announced

/-- A consumer that sleeps while the counter is zero misses nothing. -/
theorem Heard.not_announced (heard : m.Heard) (asleep : m.count = 0) {y : α} (queued : y ∈ m.queue) :
    y ∉ m.announced := by
  intro announced
  have positive := heard y queued announced
  omega

end Mailbox
