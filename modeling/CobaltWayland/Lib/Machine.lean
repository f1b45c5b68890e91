import Mathlib.Data.List.Infix

/-!
Runs of a machine whose step is a partial function: an event that is not enabled gives `none`
and ends the run. A schedule is a list of events. The file has the execution of a schedule, the
two ways to say that something holds along it (in every state reached, at every step taken) and
the rules by which invariants carry from one step to a whole run.
-/

namespace Machine
variable {σ ε : Type*} (step : σ → ε → Option σ)

def exec : σ → List ε → Option σ
  | s, [] => some s
  | s, e :: es => (step s e).bind fun t => exec t es

/-- Every state the schedule reaches is good, the first one included. -/
def Throughout (good : σ → Prop) : σ → List ε → Prop
  | s, [] => good s
  | s, e :: es => good s ∧ ∀ t, step s e = some t → Throughout good t es

/-- Every step the schedule takes meets `ok`, which sees the state before it and the event. -/
def Along (ok : σ → ε → Prop) : σ → List ε → Prop
  | _, [] => True
  | s, e :: es => ∀ t, step s e = some t → ok s e ∧ Along ok t es

instance decidableThroughout (good : σ → Prop) [DecidablePred good] (s : σ) :
    (es : List ε) → Decidable (Throughout step good s es)
  | [] => inferInstanceAs (Decidable (good s))
  | e :: es =>
    match taken : step s e with
    | none => decidable_of_iff (good s) (by simp [Throughout, taken])
    | some t =>
      have := decidableThroughout good t es
      decidable_of_iff (good s ∧ Throughout step good t es) (by simp [Throughout, taken])

instance decidableAlong (ok : σ → ε → Prop) [∀ s e, Decidable (ok s e)] (s : σ) :
    (es : List ε) → Decidable (Along step ok s es)
  | [] => isTrue trivial
  | e :: es =>
    match taken : step s e with
    | none => isTrue (by simp [Along, taken])
    | some t =>
      have := decidableAlong ok t es
      decidable_of_iff (ok s e ∧ Along step ok t es) (by simp [Along, taken])

variable {step}

@[simp] theorem exec_nil (s : σ) : exec step s [] = some s := rfl

theorem exec_cons {s t : σ} {e : ε} {es : List ε} :
    exec step s (e :: es) = some t ↔ ∃ u, step s e = some u ∧ exec step u es = some t := by
  simp only [exec, Option.bind_eq_some_iff]

theorem exec_append {s t : σ} {es fs : List ε} :
    exec step s (es ++ fs) = some t ↔ ∃ u, exec step s es = some u ∧ exec step u fs = some t := by
  induction es generalizing s with
  | nil => simp
  | cons e es ih =>
    simp only [List.cons_append, exec_cons, ih]
    constructor
    · rintro ⟨u, first, v, rest, last⟩
      exact ⟨v, ⟨u, first, rest⟩, last⟩
    · rintro ⟨v, ⟨u, first, rest⟩, last⟩
      exact ⟨u, first, v, rest, last⟩

theorem throughout_head {good : σ → Prop} {s : σ} {es : List ε} (h : Throughout step good s es) :
    good s := by
  cases es with
  | nil => exact h
  | cons e es => exact h.1

theorem throughout_last {good : σ → Prop} {s t : σ} {es : List ε} (h : Throughout step good s es)
    (reached : exec step s es = some t) : good t := by
  induction es generalizing s with
  | nil => exact Option.some.inj reached ▸ h
  | cons e es ih =>
    obtain ⟨u, taken, reached⟩ := exec_cons.mp reached
    exact ih (h.2 u taken) reached

theorem along_iff {ok : σ → ε → Prop} {s : σ} {es : List ε} :
    Along step ok s es ↔ ∀ pre e t u, pre ++ [e] <+: es → exec step s pre = some t →
      step t e = some u → ok t e := by
  induction es generalizing s with
  | nil => simp [Along]
  | cons f es ih =>
    simp only [Along, ih]
    constructor
    · intro h pre e t u isPrefix reached taken
      cases pre with
      | nil =>
        obtain ⟨rfl, -⟩ := List.cons_prefix_cons.mp isPrefix
        obtain rfl := Option.some.inj reached
        exact (h u taken).1
      | cons g pre =>
        obtain ⟨rfl, tail⟩ := List.cons_prefix_cons.mp isPrefix
        obtain ⟨v, first, reached⟩ := exec_cons.mp reached
        exact (h v first).2 pre e t u tail reached taken
    · intro h t taken
      refine ⟨h [] f s t (by simp) rfl taken, fun pre e u v tail reached next => ?_⟩
      exact h (f :: pre) e u v (List.cons_prefix_cons.mpr ⟨rfl, tail⟩)
        (exec_cons.mpr ⟨t, taken, reached⟩) next

theorem along_of_forall {p : ε → Prop} {es : List ε} (all : ∀ e ∈ es, p e) (s : σ) :
    Along step (fun _ e => p e) s es := by
  induction es generalizing s with
  | nil => trivial
  | cons e es ih =>
    obtain ⟨first, rest⟩ := List.forall_mem_cons.mp all
    exact fun t _ => ⟨first, ih rest t⟩

theorem along_and {p q : σ → ε → Prop} {s : σ} {es : List ε} :
    Along step (fun s e => p s e ∧ q s e) s es ↔ Along step p s es ∧ Along step q s es := by
  simp only [along_iff]
  constructor
  · intro h
    exact ⟨fun pre e t u a b c => (h pre e t u a b c).1, fun pre e t u a b c => (h pre e t u a b c).2⟩
  · rintro ⟨left, right⟩ pre e t u a b c
    exact ⟨left pre e t u a b c, right pre e t u a b c⟩

/-! ### Invariant rules -/

theorem exec_invariant {inv : σ → Prop} (kept : ∀ s e t, inv s → step s e = some t → inv t)
    {s t : σ} {es : List ε} (initial : inv s) (reached : exec step s es = some t) : inv t := by
  induction es generalizing s with
  | nil => exact Option.some.inj reached ▸ initial
  | cons e es ih =>
    obtain ⟨u, taken, reached⟩ := exec_cons.mp reached
    exact ih (kept s e u initial taken) reached

/-- What the steps that meet `ok` keep, every run of such steps keeps. -/
theorem exec_guarded {inv : σ → Prop} {ok : σ → ε → Prop}
    (kept : ∀ s e t, inv s → ok s e → step s e = some t → inv t)
    {s t : σ} {es : List ε} (initial : inv s) (guarded : Along step ok s es)
    (reached : exec step s es = some t) : inv t := by
  induction es generalizing s with
  | nil => exact Option.some.inj reached ▸ initial
  | cons e es ih =>
    obtain ⟨u, taken, reached⟩ := exec_cons.mp reached
    obtain ⟨met, rest⟩ := guarded u taken
    exact ih (kept s e u initial met taken) rest reached

theorem throughout_of_along (inv : σ → Prop) {good : σ → Prop} {ok : σ → ε → Prop}
    (kept : ∀ s e t, inv s → ok s e → step s e = some t → inv t) (sound : ∀ s, inv s → good s)
    {s : σ} {es : List ε} (initial : inv s) (guarded : Along step ok s es) :
    Throughout step good s es := by
  induction es generalizing s with
  | nil => exact sound s initial
  | cons e es ih =>
    refine ⟨sound s initial, fun t taken => ?_⟩
    obtain ⟨met, rest⟩ := guarded t taken
    exact ih (kept s e t initial met taken) rest

theorem throughout_of_kept (inv : σ → Prop) {good : σ → Prop}
    (kept : ∀ s e t, inv s → step s e = some t → inv t) (sound : ∀ s, inv s → good s)
    {s : σ} (initial : inv s) (es : List ε) : Throughout step good s es := by
  induction es generalizing s with
  | nil => exact sound s initial
  | cons e es ih => exact ⟨sound s initial, fun t taken => ih (kept s e t initial taken)⟩

theorem along_of_along (inv : σ → Prop) {ok good : σ → ε → Prop}
    (kept : ∀ s e t, inv s → ok s e → step s e = some t → inv t)
    (sound : ∀ s e t, inv s → ok s e → step s e = some t → good s e)
    {s : σ} {es : List ε} (initial : inv s) (guarded : Along step ok s es) : Along step good s es := by
  induction es generalizing s with
  | nil => trivial
  | cons e es ih =>
    intro t taken
    obtain ⟨met, rest⟩ := guarded t taken
    exact ⟨sound s e t initial met taken, ih (kept s e t initial met taken) rest⟩

/-- On schedules of admissible events, the steps that meet `ok` are exactly those after which the
states stay good. -/
theorem throughout_iff_along (inv : σ → Prop) (admissible : ε → Prop) {good : σ → Prop} {ok : σ → ε → Prop}
    (kept : ∀ s e t, admissible e → inv s → ok s e → step s e = some t → inv t)
    (sound : ∀ s, inv s → good s)
    (needed : ∀ s e t, admissible e → inv s → step s e = some t → good t → ok s e)
    {s : σ} {es : List ε} (initial : inv s) (allowed : ∀ e ∈ es, admissible e) :
    Throughout step good s es ↔ Along step ok s es := by
  induction es generalizing s with
  | nil => exact iff_of_true (sound s initial) trivial
  | cons e es ih =>
    obtain ⟨first, rest⟩ := List.forall_mem_cons.mp allowed
    constructor
    · intro h t taken
      have met := needed s e t first initial taken (throughout_head (h.2 t taken))
      exact ⟨met, (ih (kept s e t first initial met taken) rest).mp (h.2 t taken)⟩
    · intro h
      refine ⟨sound s initial, fun t taken => ?_⟩
      obtain ⟨met, guarded⟩ := h t taken
      exact (ih (kept s e t first initial met taken) rest).mpr guarded

theorem along_iff_along (inv : σ → Prop) (admissible : ε → Prop) {ok good : σ → ε → Prop}
    (kept : ∀ s e t, admissible e → inv s → ok s e → step s e = some t → inv t)
    (sound : ∀ s e t, admissible e → inv s → step s e = some t → (good s e ↔ ok s e))
    {s : σ} {es : List ε} (initial : inv s) (allowed : ∀ e ∈ es, admissible e) :
    Along step good s es ↔ Along step ok s es := by
  induction es generalizing s with
  | nil => exact Iff.rfl
  | cons e es ih =>
    obtain ⟨first, rest⟩ := List.forall_mem_cons.mp allowed
    constructor
    · intro h t taken
      have met := (sound s e t first initial taken).mp (h t taken).1
      exact ⟨met, (ih (kept s e t first initial met taken) rest).mp (h t taken).2⟩
    · intro h t taken
      have met := (h t taken).1
      exact ⟨(sound s e t first initial taken).mpr met,
        (ih (kept s e t first initial met taken) rest).mpr (h t taken).2⟩

/-- A defect that no later step repairs: the last state is good exactly when every step met `ok`. -/
theorem final_iff_along (inv bad good : σ → Prop) {ok : σ → ε → Prop}
    (kept : ∀ s e t, inv s → ok s e → step s e = some t → inv t)
    (broken : ∀ s e t, inv s → ¬ ok s e → step s e = some t → bad t)
    (lasting : ∀ s e t, bad s → step s e = some t → bad t)
    {s t : σ} {es : List ε} (initial : inv s) (reached : exec step s es = some t)
    (sound : inv t → good t) (unsound : bad t → ¬ good t) : good t ↔ Along step ok s es := by
  constructor
  · intro fine
    by_contra unmet
    refine unsound ?_ fine
    clear fine sound unsound
    induction es generalizing s with
    | nil => exact absurd trivial unmet
    | cons e es ih =>
      obtain ⟨u, taken, reached⟩ := exec_cons.mp reached
      by_cases met : ok s e
      · refine ih (kept s e u initial met taken) reached fun rest => unmet fun v again => ?_
        obtain rfl := Option.some.inj (taken.symm.trans again)
        exact ⟨met, rest⟩
      · exact exec_invariant lasting (broken s e u initial met taken) reached
  · exact fun guarded => sound (exec_guarded kept initial guarded reached)

/-! ### Total machines -/

def total (f : σ → ε → σ) : σ → ε → Option σ := fun s e => some (f s e)

theorem exec_total (f : σ → ε → σ) (s : σ) (es : List ε) :
    exec (total f) s es = some (es.foldl f s) := by
  induction es generalizing s with
  | nil => rfl
  | cons e es ih => exact ih (f s e)

/-! ### Simulation -/

section Simulation
variable {τ ο : Type*} {abstractly : τ → ο → Option τ} {label : σ → ε → List ο}

/-- The schedule of an abstract machine that a schedule amounts to, each step by its labels. -/
def labels (step : σ → ε → Option σ) (label : σ → ε → List ο) : σ → List ε → List ο
  | _, [] => []
  | s, e :: es => label s e ++ (step s e).elim [] fun t => labels step label t es

/-- What each step does up to a relation, every run does. -/
theorem exec_simulates (related : σ → τ → Prop)
    (simulates : ∀ s a e t, related s a → step s e = some t →
      ∃ b, exec abstractly a (label s e) = some b ∧ related t b)
    {s t : σ} {a : τ} {es : List ε} (initial : related s a) (reached : exec step s es = some t) :
    ∃ b, exec abstractly a (labels step label s es) = some b ∧ related t b := by
  induction es generalizing s a with
  | nil =>
    obtain rfl := Option.some.inj reached
    exact ⟨a, rfl, initial⟩
  | cons e es ih =>
    obtain ⟨u, taken, reached⟩ := exec_cons.mp reached
    obtain ⟨b, first, next⟩ := simulates s a e u initial taken
    obtain ⟨c, rest, last⟩ := ih next reached
    refine ⟨c, ?_, last⟩
    simp only [labels, taken, Option.elim_some]
    exact exec_append.mpr ⟨b, first, rest⟩

/-- A machine that never refuses an admissible event follows a total abstract one. -/
theorem exec_follows (related : σ → τ → Prop) (admissible : ε → Prop) (f : τ → ε → τ)
    (follows : ∀ s a e, admissible e → related s a → ∃ t, step s e = some t ∧ related t (f a e))
    {s : σ} {a : τ} {es : List ε} (initial : related s a) (allowed : ∀ e ∈ es, admissible e) :
    ∃ t, exec step s es = some t ∧ related t (es.foldl f a) := by
  induction es generalizing s a with
  | nil => exact ⟨s, rfl, initial⟩
  | cons e es ih =>
    obtain ⟨first, rest⟩ := List.forall_mem_cons.mp allowed
    obtain ⟨u, taken, next⟩ := follows s a e first initial
    obtain ⟨t, reached, last⟩ := ih next rest
    exact ⟨t, exec_cons.mpr ⟨u, taken, reached⟩, last⟩

/-- A machine that takes each step as another one does, up to a map of the states, takes its runs. -/
theorem exec_map {stepped : τ → ε → Option τ} {f : σ → τ} (inv : σ → Prop)
    (kept : ∀ s e t, inv s → step s e = some t → inv t)
    (same : ∀ s e, inv s → stepped (f s) e = (step s e).map f)
    {s : σ} (initial : inv s) (es : List ε) : exec stepped (f s) es = (exec step s es).map f := by
  induction es generalizing s with
  | nil => rfl
  | cons e es ih =>
    simp only [exec, same s e initial]
    cases taken : step s e with
    | none => rfl
    | some t => exact ih (kept s e t initial taken)

theorem exec_logged_from (inv : List ε → List ο → σ → Prop)
    (kept : ∀ past log s e t, inv past log s → step s e = some t → inv (past ++ [e]) (log ++ label s e) t)
    {s t : σ} {past es : List ε} {log : List ο} (initial : inv past log s)
    (reached : exec step s es = some t) : inv (past ++ es) (log ++ labels step label s es) t := by
  induction es generalizing s past log with
  | nil =>
    obtain rfl := Option.some.inj reached
    simpa [labels] using initial
  | cons e es ih =>
    obtain ⟨u, taken, reached⟩ := exec_cons.mp reached
    have next := ih (kept past log s e u initial taken) reached
    simpa [labels, taken] using next

/-- An invariant that also sees the events so far and what they were labelled with. -/
theorem exec_logged (inv : List ε → List ο → σ → Prop)
    (kept : ∀ past log s e t, inv past log s → step s e = some t → inv (past ++ [e]) (log ++ label s e) t)
    {s t : σ} {es : List ε} (initial : inv [] [] s) (reached : exec step s es = some t) :
    inv es (labels step label s es) t :=
  exec_logged_from inv kept initial reached

/-- What is seen of a machine through a view of its labels is what another machine shows, if each step of
the one is a step of the other that shows as much. -/
theorem exec_viewed {ο' : Type*} (related : σ → τ → Prop) {stepped : τ → ε → Option τ} {shown : τ → ε → List ο'}
    (view : ο → Option ο')
    (simulates : ∀ s a e t, related s a → step s e = some t →
      ∃ b, stepped a e = some b ∧ related t b ∧ (label s e).filterMap view = shown a e)
    {s t : σ} {a : τ} {es : List ε} (initial : related s a) (reached : exec step s es = some t) :
    ∃ b, exec stepped a es = some b ∧ related t b ∧
      (labels step label s es).filterMap view = labels stepped shown a es := by
  induction es generalizing s a with
  | nil =>
    obtain rfl := Option.some.inj reached
    exact ⟨a, rfl, initial, rfl⟩
  | cons e es ih =>
    obtain ⟨u, taken, reached⟩ := exec_cons.mp reached
    obtain ⟨b, first, next, seen⟩ := simulates s a e u initial taken
    obtain ⟨c, rest, last, later⟩ := ih next reached
    refine ⟨c, exec_cons.mpr ⟨b, first, rest⟩, last, ?_⟩
    simp only [labels, taken, first, Option.elim_some, List.filterMap_append, seen, later]

end Simulation

end Machine
