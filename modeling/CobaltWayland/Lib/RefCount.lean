import Mathlib.Data.List.Count
import Mathlib.Logic.Function.Basic

/-!
Reference counts. A heap gives each object its count and keeps the objects that were unreferenced
at zero. Who holds the references is not part of the heap: `Covers` relates it to a list of owned
references, and an owner may give up what it holds.
-/

namespace RefCount

structure Heap (ι : Type*) where
  count : ι → Nat := fun _ => 0
  /-- The objects unreferenced after their count had reached zero. -/
  misused : List ι := []

variable {ι : Type*} [DecidableEq ι]

def Heap.create (h : Heap ι) (i : ι) : Heap ι := { h with count := Function.update h.count i 1 }

def Heap.unref (h : Heap ι) (i : ι) : Heap ι :=
  if h.count i = 0 then { h with misused := i :: h.misused }
  else { h with count := Function.update h.count i (h.count i - 1) }

/-- Every owned reference is counted. -/
def Covers (h : Heap ι) (owners : List ι) : Prop := ∀ i, owners.count i ≤ h.count i

theorem create_count (h : Heap ι) (i j : ι) :
    (h.create i).count j = if j = i then 1 else h.count j := by
  simp [Heap.create, Function.update_apply]

theorem unref_count (h : Heap ι) (i j : ι) :
    (h.unref i).count j = if j = i then h.count i - 1 else h.count j := by
  unfold Heap.unref
  split
  · rename_i zero
    split
    · rename_i same
      rw [same, zero]
    · rfl
  · simp [Function.update_apply]

theorem unref_misused_of_pos {h : Heap ι} {i : ι} (held : 0 < h.count i) :
    (h.unref i).misused = h.misused := by
  simp [Heap.unref, Nat.pos_iff_ne_zero.mp held]

theorem unref_misused_of_zero {h : Heap ι} {i : ι} (gone : h.count i = 0) :
    (h.unref i).misused = i :: h.misused := by
  simp [Heap.unref, gone]

theorem covers_held {h : Heap ι} {owners : List ι} {i : ι} (covers : Covers h (i :: owners)) :
    0 < h.count i := by
  have counted := covers i
  rw [List.count_cons_self] at counted
  omega

theorem covers_unref {h : Heap ι} {owners : List ι} {i : ι} (covers : Covers h (i :: owners)) :
    Covers (h.unref i) owners := by
  intro j
  have counted := covers j
  rw [unref_count]
  split
  · rename_i same
    subst same
    rw [List.count_cons_self] at counted
    omega
  · rename_i different
    rwa [List.count_cons_of_ne (Ne.symm different)] at counted

theorem covers_perm {h : Heap ι} {owners owners' : List ι} (same : owners.Perm owners')
    (covers : Covers h owners) : Covers h owners' :=
  fun i => same.count_eq i ▸ covers i

theorem covers_create {h : Heap ι} {owners : List ι} {i : ι} (unowned : i ∉ owners)
    (covers : Covers h owners) : Covers (h.create i) (i :: owners) := by
  intro j
  rw [create_count]
  split
  · rename_i same
    subst same
    simp [List.count_eq_zero.mpr unowned]
  · rename_i different
    rw [List.count_cons_of_ne (Ne.symm different)]
    exact covers j

end RefCount
