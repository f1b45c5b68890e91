import CobaltWayland.Lib.Machine
import Mathlib.Data.List.Destutter

/-!
Calls that one side queues and the other serves later. A machine that takes its calls off the queue
in order serves each of them once, and a value that every call writes or leaves alone ends up as the
last call that writes it says, however long the calls have waited.
-/

namespace Deferred
open Machine

variable {σ ε κ τ α : Type*} {step : σ → ε → Option σ}

/-- What has been taken and what still waits is what was queued, in that order. -/
theorem exec_in_order {pending : σ → List κ} {queued taken : σ → ε → List κ} (inv : σ → Prop)
    (kept : ∀ s e t, inv s → step s e = some t → inv t)
    (moves : ∀ s e t, inv s → step s e = some t → taken s e ++ pending t = pending s ++ queued s e)
    {s t : σ} {es : List ε} (initial : inv s) (reached : exec step s es = some t) :
    labels step taken s es ++ pending t = pending s ++ labels step queued s es := by
  induction es generalizing s with
  | nil =>
    obtain rfl := Option.some.inj reached
    simp [labels]
  | cons e es ih =>
    obtain ⟨u, now, reached⟩ := exec_cons.mp reached
    have later := ih (kept s e u initial now) reached
    have first := moves s e u initial now
    simp only [labels, now, Option.elim_some, List.append_assoc, later]
    rw [← List.append_assoc, first, List.append_assoc]

/-- A value that each step changes by the event alone is the fold of the events. -/
theorem exec_folds {value : σ → τ} {serve : τ → ε → τ} (inv : σ → Prop)
    (kept : ∀ s e t, inv s → step s e = some t → inv t)
    (serves : ∀ s e t, inv s → step s e = some t → value t = serve (value s) e)
    {s t : σ} {es : List ε} (initial : inv s) (reached : exec step s es = some t) :
    value t = es.foldl serve (value s) := by
  induction es generalizing s with
  | nil =>
    obtain rfl := Option.some.inj reached
    rfl
  | cons e es ih =>
    obtain ⟨u, now, reached⟩ := exec_cons.mp reached
    rw [List.foldl_cons, ← serves s e u initial now]
    exact ih (kept s e u initial now) reached

/-- The last writer wins. -/
theorem foldl_last {serve : τ → κ → τ} (read : τ → α) (write : κ → Option α)
    (writes : ∀ value call, read (serve value call) = (write call).getD (read value))
    (value : τ) (calls : List κ) :
    read (calls.foldl serve value) = (calls.filterMap write).getLastD (read value) := by
  induction calls generalizing value with
  | nil => rfl
  | cons call calls ih =>
    rw [List.foldl_cons, ih, writes, List.filterMap_cons]
    cases write call with
    | none => rfl
    | some written => rw [List.getLastD_cons, Option.getD_some]

theorem foldl_newest {serve : τ → κ → τ} (read : τ → α) (write : κ → Option α)
    (writes : ∀ value call, read (serve value call) = (write call).getD (read value))
    (value : τ) (calls : List κ) {before : List α} (newest : before.getLast? = some (read value)) :
    (before ++ calls.filterMap write).getLast? = some (read (calls.foldl serve value)) := by
  rw [foldl_last read write writes, List.getLast?_append, newest, List.getLastD_eq_getLast?]
  cases (calls.filterMap write).getLast? <;> rfl

/-! ### Answers that name what was asked -/

/-- Each answer names something that was asked, and no answer names something older than an answer
before it. -/
def Follows (asked told : List α) : Prop :=
  ∃ indices : List Nat, indices.Pairwise (· ≤ ·) ∧ indices.map (asked[·]?) = told.map some

theorem follows_nil (asked : List α) : Follows asked [] := ⟨[], .nil, rfl⟩

theorem Follows.bound {asked told : List α} {indices : List Nat}
    (named : indices.map (asked[·]?) = told.map some) : ∀ i ∈ indices, i < asked.length := by
  intro i listed
  have answer : asked[i]? ∈ told.map some := named ▸ List.mem_map_of_mem listed
  obtain ⟨value, -, found⟩ := List.mem_map.mp answer
  exact (List.getElem?_eq_some_iff.mp found.symm).1

theorem Follows.asks {asked told : List α} (follows : Follows asked told) (more : List α) :
    Follows (asked ++ more) told := by
  obtain ⟨indices, sorted, named⟩ := follows
  refine ⟨indices, sorted, ?_⟩
  rw [← named]
  apply List.map_congr_left
  intro i listed
  exact List.getElem?_append_left (Follows.bound named i listed)

/-- An answer may always name what was asked last. -/
theorem Follows.tells {asked told : List α} (follows : Follows asked told) {last : α}
    (newest : asked.getLast? = some last) : Follows asked (told ++ [last]) := by
  obtain ⟨indices, sorted, named⟩ := follows
  refine ⟨indices ++ [asked.length - 1], ?_, ?_⟩
  · apply List.pairwise_append.mpr
    refine ⟨sorted, List.pairwise_singleton _ _, ?_⟩
    intro i listed j singleton
    have bound := Follows.bound named i listed
    have same : j = asked.length - 1 := by simpa using singleton
    omega
  · have named_last : asked[asked.length - 1]? = some last := List.getLast?_eq_getElem?.symm.trans newest
    rw [List.map_append, List.map_append, named, List.map_singleton, named_last, List.map_singleton]

theorem Follows.tells_all {asked told more : List α} (follows : Follows asked told)
    (newest : ∀ answer ∈ more, asked.getLast? = some answer) : Follows asked (told ++ more) := by
  induction more generalizing told with
  | nil =>
    rw [List.append_nil]
    exact follows
  | cons first more ih =>
    obtain ⟨last, rest⟩ := List.forall_mem_cons.mp newest
    rw [List.append_cons]
    exact ih (follows.tells last) rest

theorem Follows.of_append {asked told more : List α} (follows : Follows asked (told ++ more)) : Follows asked told := by
  obtain ⟨indices, sorted, named⟩ := follows
  rw [List.map_append] at named
  obtain ⟨earlier, later, rfl, before, -⟩ := List.map_eq_append_iff.mp named
  exact ⟨earlier, (List.pairwise_append.mp sorted).1, before⟩

/-- An answer may always be given again. -/
theorem Follows.repeats {asked told : List α} (follows : Follows asked told) {last : α}
    (given : told.getLast? = some last) : Follows asked (told ++ [last]) := by
  obtain ⟨indices, sorted, named⟩ := follows
  obtain ⟨before, rfl⟩ := List.getLast?_eq_some_iff.mp given
  rw [List.map_append, List.map_singleton] at named
  obtain ⟨earlier, latest, rfl, -, names⟩ := List.map_eq_append_iff.mp named
  obtain ⟨i, rfl, found⟩ := List.map_eq_singleton_iff.mp names
  refine ⟨earlier ++ [i] ++ [i], ?_, ?_⟩
  · apply List.pairwise_append.mpr
    refine ⟨sorted, List.pairwise_singleton _ _, ?_⟩
    intro j listed k singleton
    obtain rfl := List.mem_singleton.mp singleton
    rcases List.mem_append.mp listed with old | same
    · exact (List.pairwise_append.mp sorted).2.2 j old k List.mem_cons_self
    · exact Nat.le_of_eq (List.mem_singleton.mp same)
  · rw [List.map_append, named, List.map_singleton, found]
    simp

/-! ### Updates that are skipped when they change nothing -/

variable [DecidableEq α]

theorem destutter'_concat (last : α) (asked : List α) (new : α) :
    (asked ++ [new]).destutter' (· ≠ ·) last =
      asked.destutter' (· ≠ ·) last ++ if asked.getLastD last = new then [] else [new] := by
  induction asked generalizing last with
  | nil => by_cases same : last = new <;> simp [same]
  | cons first asked ih =>
    by_cases same : last = first
    · subst same
      rw [List.cons_append, List.destutter'_cons_neg _ (by simp), List.destutter'_cons_neg _ (by simp), ih,
        List.getLastD_cons]
    · rw [List.cons_append, List.destutter'_cons_pos _ same, List.destutter'_cons_pos _ same, ih,
        List.getLastD_cons, List.cons_append]

theorem destutter'_grows (last : α) (asked more : List α) :
    asked.destutter' (· ≠ ·) last <+: (asked ++ more).destutter' (· ≠ ·) last := by
  induction more using List.reverseRecOn with
  | nil => rw [List.append_nil]
  | append_singleton more new ih =>
    rw [← List.append_assoc, destutter'_concat]
    exact ih.trans (List.prefix_append _ _)

theorem destutter'_replicate (last new : α) (n : Nat) :
    (List.replicate n new).destutter' (· ≠ ·) last <+: [last, new] := by
  have same : ∀ m, (List.replicate m new).destutter' (· ≠ ·) new = [new] := by
    intro m
    induction m with
    | zero => rfl
    | succ m ih => rw [List.replicate_succ, List.destutter'_cons_neg _ (by simp), ih]
  cases n with
  | zero => exact List.prefix_append [last] [new]
  | succ n =>
    rw [List.replicate_succ, List.destutter'_cons]
    split
    · rw [same]
    · rename_i equal
      obtain rfl := Decidable.not_not.mp equal
      rw [same]
      exact List.prefix_append [last] [last]

end Deferred
