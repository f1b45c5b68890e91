import CobaltWayland.Lib.Machine

/-!
Machines that cannot run on by themselves. Some of a machine's events are its own, the others come from
outside. If each event of its own leaves less work to do, the machine comes to rest after a bounded
number of them, and if it is never stuck with work left it comes to rest where it should.
-/

namespace Machine
variable {σ ε : Type*} {step : σ → ε → Option σ} {inner : σ → ε → Prop} {work : σ → Nat} {inv rest : σ → Prop}

/-- A machine left to itself takes at most as many steps as it has work. -/
theorem length_le_work (kept : ∀ s e t, inv s → step s e = some t → inv t)
    (lessens : ∀ s e t, inv s → inner s e → step s e = some t → work t < work s)
    {s t : σ} {es : List ε} (initial : inv s) (alone : Along step inner s es)
    (reached : exec step s es = some t) : es.length + work t ≤ work s := by
  induction es generalizing s with
  | nil =>
    obtain rfl := Option.some.inj reached
    simp
  | cons e es ih =>
    obtain ⟨u, taken, reached⟩ := exec_cons.mp reached
    obtain ⟨own, later⟩ := alone u taken
    have now := lessens s e u initial own taken
    have bound := ih (kept s e u initial taken) later reached
    simp only [List.length_cons]
    omega

/-- A machine left to itself gets to rest. -/
theorem exists_rest (kept : ∀ s e t, inv s → step s e = some t → inv t)
    (lessens : ∀ s e t, inv s → inner s e → step s e = some t → work t < work s)
    (moves : ∀ s, inv s → rest s ∨ ∃ e t, inner s e ∧ step s e = some t) {s : σ} (initial : inv s) :
    ∃ es t, Along step inner s es ∧ exec step s es = some t ∧ rest t := by
  induction left : work s using Nat.strongRecOn generalizing s with
  | ind n ih =>
    subst left
    rcases moves s initial with resting | ⟨e, u, own, taken⟩
    · exact ⟨[], s, trivial, rfl, resting⟩
    · obtain ⟨es, t, alone, reached, resting⟩ :=
        ih (work u) (lessens s e u initial own taken) (kept s e u initial taken) rfl
      refine ⟨e :: es, t, fun v again => ?_, exec_cons.mpr ⟨u, taken, reached⟩, resting⟩
      obtain rfl := Option.some.inj (taken.symm.trans again)
      exact ⟨own, alone⟩

end Machine
