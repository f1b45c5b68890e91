import Mathlib.Data.List.Basic

/-!
A table that remembers the answers of a function it is asked for. Only answers of the function get into
the table, so whoever asks through it gets what the function would have said, whatever was asked before.
-/

structure Memo {κ ν : Type*} (compute : κ → Option ν) where
  entries : List (κ × ν) := []
  sound : ∀ entry ∈ entries, compute entry.1 = some entry.2 := by simp

namespace Memo
variable {κ ν σ : Type*} {compute : κ → Option ν}

def record (memo : Memo compute) (key : κ) (value : ν) (computed : compute key = some value) : Memo compute where
  entries := (key, value) :: memo.entries
  sound := List.forall_mem_cons.mpr ⟨computed, memo.sound⟩

variable [BEq κ]

/-- What is in the table is not computed again; what has no value is not remembered. -/
def ask (memo : Memo compute) (key : κ) : Memo compute × Option ν :=
  match memo.entries.lookup key with
  | some value => (memo, some value)
  | none =>
    match computed : compute key with
    | some value => (memo.record key value computed, some value)
    | none => (memo, none)

/-- Asks for one key after the other and folds what is made of the answers. -/
def askAll (use : σ → Option ν → σ) (memo : Memo compute) (initial : σ) (keys : List κ) : Memo compute × σ :=
  keys.foldl (fun (memo, soFar) key => ((memo.ask key).1, use soFar (memo.ask key).2)) (memo, initial)

variable [LawfulBEq κ]

theorem ask_snd (memo : Memo compute) (key : κ) : (memo.ask key).2 = compute key := by
  unfold ask
  split
  · rename_i found
    obtain ⟨before, after, entries, -⟩ := List.lookup_eq_some_iff.mp found
    exact (memo.sound _ (entries ▸ List.mem_append_right _ List.mem_cons_self)).symm
  · split <;> rename_i computed <;> exact computed.symm

theorem askAll_snd (use : σ → Option ν → σ) (memo : Memo compute) (initial : σ) (keys : List κ) :
    (memo.askAll use initial keys).2 = (keys.map compute).foldl use initial := by
  unfold askAll
  induction keys generalizing memo initial with
  | nil => rfl
  | cons key keys ih => rw [List.foldl_cons, ih, ask_snd, List.map_cons, List.foldl_cons]

end Memo
