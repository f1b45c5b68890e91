import CobaltWayland.Source
import CobaltWayland.Lib.Machine
import Mathlib.Data.List.Perm.Basic
import Mathlib.Data.List.Range
import Mathlib.Data.List.Nodup

/-!
The pads of the source bin over its whole life. `pad_counter` numbers the next pad, bounds the scan
of the EOS handler and is lowered by one when any pad goes: the names stay `src_0` up to the counter
only while pads go in the reverse of the order in which they came.
-/

namespace CobaltWayland

inductive SourceCall (δ : Type*) where
  | registerPlayer (audioDecoder videoDecoder : δ)
  | unregisterPlayer (audioDecoder videoDecoder : Option δ)
  | handleEos (sender : δ)
  deriving DecidableEq, Repr

namespace CobaltSource
variable {δ : Type*}

structure InStep (src : CobaltSource δ) : Prop where
  names : (src.pads.map GhostPad.name).Perm (List.range src.padCounter)
  live : ∀ pad ∈ src.pads, ∃ d ∈ src.children, pad.target = some d
  count : src.pads.length = src.children.length
  configured : src.configured = true ↔ src.children ≠ []

/-- The bin that holds the decoders `ds`, exposed in this order. -/
def laid (ds marks : List δ) : CobaltSource δ where
  padCounter := ds.length
  configured := !ds.isEmpty
  children := ds
  pads := ds.mapIdx fun i d => ⟨i, some d⟩
  eosMarks := marks

theorem laid_inStep (ds marks : List δ) : InStep (laid ds marks) where
  names := by
    have same : (laid ds marks).pads.map GhostPad.name = List.range ds.length := by
      apply List.ext_getElem <;> simp [laid]
    rw [same]
    exact List.Perm.refl _
  live := by
    intro pad listed
    obtain ⟨i, bound, rfl⟩ := List.mem_mapIdx.mp listed
    exact ⟨ds[i], List.getElem_mem bound, rfl⟩
  count := by simp [laid]
  configured := by simp [laid]

theorem staticPad_laid {ds : List δ} (marks : List δ) {i : Nat} (bound : i < ds.length) :
    (laid ds marks).staticPad i = some ⟨i, some ds[i]⟩ := by
  refine List.find?_eq_some_iff_getElem.mpr ⟨by simp, i, by simpa [laid] using bound, by simp [laid], ?_⟩
  intro j before
  simp only [laid, List.getElem_mapIdx, Bool.not_eq_eq_eq_not, Bool.not_true, beq_eq_false_iff_ne]
  omega

/-! ### What is left after a removal -/

/-- Each child has its pad, and in the same order. -/
structure Paired (src : CobaltSource δ) : Prop where
  targets : src.pads.map GhostPad.target = src.children.map some
  nodup : src.children.Nodup

theorem Paired.live {src : CobaltSource δ} (paired : Paired src) (pad : GhostPad δ) (listed : pad ∈ src.pads) :
    ∃ d ∈ src.children, pad.target = some d := by
  have target : pad.target ∈ src.children.map some := paired.targets ▸ List.mem_map_of_mem listed
  obtain ⟨d, child, eq⟩ := List.mem_map.mp target
  exact ⟨d, child, eq.symm⟩

theorem Paired.exposed {src : CobaltSource δ} (paired : Paired src) {d : δ} (child : d ∈ src.children) :
    ∃ pad ∈ src.pads, pad.target = some d :=
  List.mem_map.mp (paired.targets ▸ List.mem_map_of_mem child)

theorem Paired.distinct {src : CobaltSource δ} (paired : Paired src) :
    (src.pads.map GhostPad.target).Nodup :=
  paired.targets ▸ paired.nodup.map (Option.some_injective δ)

/-- The bin that keeps the children that `stays` says. -/
def keeping (src : CobaltSource δ) (stays : δ → Bool) : CobaltSource δ :=
  { src with
    padCounter := src.padCounter - (src.children.length - (src.children.filter stays).length)
    children := src.children.filter stays
    pads := src.pads.filter fun pad => pad.target.all stays }

theorem keeping_paired {src : CobaltSource δ} (paired : Paired src) (stays : δ → Bool) :
    Paired (src.keeping stays) where
  targets := by
    have pads : (src.pads.map GhostPad.target).filter (fun target => target.all stays) =
        (src.children.map some).filter fun target => target.all stays := by rw [paired.targets]
    rwa [List.filter_map, List.filter_map] at pads
  nodup := paired.nodup.filter stays

theorem filter_pads_eq_self {src : CobaltSource δ}
    (live : ∀ pad ∈ src.pads, ∃ d ∈ src.children, pad.target = some d)
    {stays : δ → Bool} (all : ∀ d ∈ src.children, stays d = true) :
    src.pads.filter (fun pad => pad.target.all stays) = src.pads := by
  refine List.filter_eq_self.mpr fun pad listed => ?_
  obtain ⟨d, child, eq⟩ := live pad listed
  rw [eq]
  exact all d child

theorem keeping_eq_self {src : CobaltSource δ} (paired : Paired src) {stays : δ → Bool}
    (all : ∀ d ∈ src.children, stays d = true) : src.keeping stays = src := by
  have pads := filter_pads_eq_self paired.live all
  have children : src.children.filter stays = src.children := List.filter_eq_self.mpr all
  simp only [keeping, children, pads, Nat.sub_self, Nat.sub_zero]

theorem keeping_keeping (src : CobaltSource δ) (first second : δ → Bool) :
    (src.keeping first).keeping second = src.keeping fun d => first d && second d := by
  have fewer := List.length_filter_le first src.children
  have fewest := List.length_filter_le second (src.children.filter first)
  have pads (target : Option δ) : (target.all second && target.all first) =
      target.all fun d => first d && second d := by
    cases target <;> simp [Bool.and_comm]
  simp only [keeping, List.filter_filter, pads, Bool.and_comm] at fewest ⊢
  congr 1
  omega

theorem laid_paired {ds : List δ} (nodup : ds.Nodup) (marks : List δ) : Paired (laid ds marks) where
  targets := by apply List.ext_getElem <;> simp [laid]
  nodup := nodup

/-- While the first ones stay, the pads have the numbers that a bin of just these would give. -/
theorem filter_pads_of_prefix {ds : List δ} (marks : List δ) {stays : δ → Bool}
    (first : ds.filter stays <+: ds) :
    (laid ds marks).pads.filter (fun pad => pad.target.all stays) = (laid (ds.filter stays) marks).pads := by
  obtain ⟨gone, split⟩ := first
  have staying : ∀ d ∈ ds.filter stays, stays d = true := fun d kept => (List.mem_filter.mp kept).2
  have leaving : gone.filter stays = [] := by
    have both := congrArg (List.filter stays) split
    rw [List.filter_append, List.filter_eq_self.mpr staying] at both
    exact List.append_right_eq_self.mp both
  have noneGone : (gone.mapIdx fun i d => (⟨i + (ds.filter stays).length, some d⟩ : GhostPad δ)).filter
      (fun pad => pad.target.all stays) = [] := by
    refine List.filter_eq_nil_iff.mpr fun pad listed => ?_
    obtain ⟨i, bound, rfl⟩ := List.mem_mapIdx.mp listed
    exact List.filter_eq_nil_iff.mp leaving _ (List.getElem_mem bound)
  have allStay := filter_pads_eq_self (laid_inStep (ds.filter stays) marks).live staying
  have pads : (laid ds marks).pads = (laid (ds.filter stays) marks).pads ++
      gone.mapIdx fun i d => ⟨i + (ds.filter stays).length, some d⟩ := by
    conv_lhs => rw [← split]
    exact List.mapIdx_append
  rw [pads, List.filter_append, allStay, noneGone, List.append_nil]

/-- Where the numbers of the pads that stay lie below their count, the first ones stay. -/
theorem prefix_of_names {ds : List δ} (marks : List δ) {stays : δ → Bool}
    (names : ∀ pad ∈ (laid ds marks).pads.filter (fun pad => pad.target.all stays),
      pad.name < (ds.filter stays).length) :
    ds.filter stays <+: ds := by
  have later : (ds.drop (ds.filter stays).length).filter stays = [] := by
    refine List.filter_eq_nil_iff.mpr fun d dropped kept => ?_
    obtain ⟨i, bound, rfl⟩ := List.getElem_of_mem dropped
    rw [List.getElem_drop] at kept
    have low := names ⟨(ds.filter stays).length + i, some _⟩
      (List.mem_filter.mpr ⟨List.mem_mapIdx.mpr ⟨_, _, rfl⟩, kept⟩)
    simp at low
  have early : (ds.take (ds.filter stays).length).filter stays = ds.filter stays := by
    have both := congrArg (List.filter stays) (List.take_append_drop (ds.filter stays).length ds)
    rwa [List.filter_append, later, List.append_nil] at both
  -- as many stay as there are early ones, so all the early ones stay
  have whole : (ds.take (ds.filter stays).length).filter stays = ds.take (ds.filter stays).length := by
    refine List.filter_sublist.eq_of_length_le ?_
    rw [early, List.length_take]
    exact Nat.min_le_left _ _
  rw [← early, whole]
  exact List.take_prefix _ _

/-- What the bin holds while pads go in reverse order. -/
def Held (src : CobaltSource δ) : Prop :=
  ∃ ds marks, ds.Nodup ∧ src = laid ds marks

theorem held_inStep {src : CobaltSource δ} (held : Held src) : InStep src := by
  obtain ⟨ds, marks, -, rfl⟩ := held
  exact laid_inStep ds marks

variable [DecidableEq δ]

/-- `GstBusCallback` registers the two decoders of its player, at a bin that is not configured. An
appsrc that was removed posts to this bin no more. -/
def step (src : CobaltSource δ) : SourceCall δ → Option (CobaltSource δ)
  | .registerPlayer audioDecoder videoDecoder =>
    if src.isConfigured = false ∧ audioDecoder ≠ videoDecoder then
      some (src.registerPlayer audioDecoder videoDecoder)
    else none
  | .unregisterPlayer audioDecoder videoDecoder => some (src.unregisterPlayer audioDecoder videoDecoder)
  | .handleEos sender => if sender ∈ src.children then some (src.handleEos sender).1 else none

/-- Every pad the scan of the EOS handler asks for is there. The scan stops after the first pad
without a mark. -/
def ScanFindsPads (src : CobaltSource δ) : Prop :=
  ∀ i < src.padCounter, (∀ j < i, src.padIsEos j = true) → ∃ d, src.staticPad i = some ⟨i, some d⟩

def LooksUpPads (src : CobaltSource δ) : SourceCall δ → Prop
  | .handleEos sender => ScanFindsPads (src.handleEos sender).1
  | _ => True

/-- Each of the two turns of the registration names a pad the bin does not have. -/
def NamesFresh (src : CobaltSource δ) : SourceCall δ → Prop
  | .registerPlayer audioDecoder _ =>
    src.staticPad src.padCounter = none ∧
      (src.registerDecoder audioDecoder).staticPad (src.registerDecoder audioDecoder).padCounter = none
  | _ => True

/-- The decoders that stay are the ones that were registered first. -/
def RemovesLatestFirst (src : CobaltSource δ) : SourceCall δ → Prop
  | .unregisterPlayer audioDecoder videoDecoder =>
    (src.children.filter fun d => some d ∉ [audioDecoder, videoDecoder]) <+: src.children
  | _ => True

instance (src : CobaltSource δ) : (call : SourceCall δ) → Decidable (src.RemovesLatestFirst call)
  | .unregisterPlayer _ _ => inferInstanceAs (Decidable (_ <+: _))
  | .registerPlayer _ _ => isTrue trivial
  | .handleEos _ => isTrue trivial

theorem laid_scanFindsPads (ds marks : List δ) : ScanFindsPads (laid ds marks) :=
  fun i bound _ => ⟨ds[i], staticPad_laid marks bound⟩

theorem registerPlayer_laid {audioDecoder videoDecoder : δ} (different : audioDecoder ≠ videoDecoder)
    (marks : List δ) :
    (laid [] marks).registerPlayer audioDecoder videoDecoder = laid [audioDecoder, videoDecoder] marks := by
  simp [registerPlayer, registerDecoder, laid, different, different.symm]

theorem handleEos_laid (ds marks : List δ) (sender : δ) :
    ((laid ds marks).handleEos sender).1 = laid ds (sender :: marks) := rfl

theorem Paired.erase_child {src : CobaltSource δ} (paired : Paired src) (d : δ) :
    src.children.erase d = src.children.filter fun e => decide (e ≠ d) := by
  rw [paired.nodup.erase_eq_filter]
  exact List.filter_congr fun e _ => Bool.eq_iff_iff.mpr (by simp)

theorem Paired.erase_pad {src : CobaltSource δ} (paired : Paired src) {ghost : GhostPad δ} {d : δ}
    (listed : ghost ∈ src.pads) (target : ghost.target = some d) :
    src.pads.erase ghost = src.pads.filter fun pad => pad.target.all fun e => decide (e ≠ d) := by
  rw [paired.distinct.of_map.erase_eq_filter]
  refine List.filter_congr fun pad other => Bool.eq_iff_iff.mpr ?_
  have same : pad = ghost ↔ pad.target = ghost.target :=
    ⟨congrArg _, List.inj_on_of_nodup_map paired.distinct other listed⟩
  obtain ⟨e, _, eq⟩ := paired.live pad other
  simp [same, eq, target]

theorem unregisterDecoder_paired {src : CobaltSource δ} (paired : Paired src) (d : δ) :
    src.unregisterDecoder d = src.keeping fun e => decide (e ≠ d) := by
  unfold unregisterDecoder
  split
  case h_1 missing =>
    refine (keeping_eq_self paired fun e child => decide_eq_true ?_).symm
    rintro rfl
    obtain ⟨pad, listed, target⟩ := paired.exposed child
    exact List.find?_eq_none.mp missing pad listed (by simpa using target)
  case h_2 ghost found =>
    have listed := List.mem_of_find?_eq_some found
    have target : ghost.target = some d := by simpa using List.find?_some found
    have child : d ∈ src.children := by
      obtain ⟨e, child, eq⟩ := paired.live ghost listed
      exact Option.some.inj (target.symm.trans eq) ▸ child
    have fewer := List.length_erase_of_mem child
    have held := List.length_pos_of_mem child
    rw [paired.erase_child] at fewer
    -- the counter goes down by one, and so does the number of children
    have one : src.children.length - (src.children.filter fun e => decide (e ≠ d)).length = 1 := by omega
    simp only [keeping, paired.erase_child, paired.erase_pad listed target, one]

theorem foldl_keeping {src : CobaltSource δ} (paired : Paired src) (audioDecoder videoDecoder : Option δ)
    {turn : CobaltSource δ → Option δ → CobaltSource δ}
    (turns : ∀ bin, Paired bin → ∀ decoder, turn bin decoder = bin.keeping fun d => decide (some d ≠ decoder)) :
    [audioDecoder, videoDecoder].foldl turn src =
      src.keeping fun d => decide (some d ∉ [audioDecoder, videoDecoder]) := by
  simp only [List.foldl_cons, List.foldl_nil]
  rw [turns src paired, turns _ (keeping_paired paired _), keeping_keeping]
  simp

theorem unregisterPlayer_paired {src : CobaltSource δ} (paired : Paired src)
    (audioDecoder videoDecoder : Option δ) :
    src.unregisterPlayer audioDecoder videoDecoder =
      let left := src.keeping fun d => decide (some d ∉ [audioDecoder, videoDecoder])
      if left.children = [] then { left with configured := false } else left := by
  unfold unregisterPlayer
  rw [foldl_keeping paired]
  intro bin pairedBin decoder
  cases decoder with
  | none => exact (keeping_eq_self pairedBin (by simp)).symm
  | some d => simpa using unregisterDecoder_paired pairedBin d

/-- The pads that stay keep the numbers they had. -/
theorem unregisterPlayer_laid {ds : List δ} (nodup : ds.Nodup) (marks : List δ)
    (audioDecoder videoDecoder : Option δ) :
    (laid ds marks).unregisterPlayer audioDecoder videoDecoder =
      { laid (ds.filter fun d => decide (some d ∉ [audioDecoder, videoDecoder])) marks with
        pads := (laid ds marks).pads.filter fun pad =>
          pad.target.all fun d => decide (some d ∉ [audioDecoder, videoDecoder]) } := by
  have fewer := List.length_filter_le (fun d => decide (some d ∉ [audioDecoder, videoDecoder])) ds
  rw [unregisterPlayer_paired (laid_paired nodup marks)]
  generalize (fun d => decide (some d ∉ [audioDecoder, videoDecoder])) = stays at fewer
  by_cases empty : ds.filter stays = []
  · simp [keeping, laid, empty]
  · have held : ds ≠ [] := fun eq => empty (by simp [eq])
    have counted : ds.length - (ds.length - (ds.filter stays).length) = (ds.filter stays).length := by omega
    simp only [keeping, laid, empty, if_false, counted, List.isEmpty_eq_false_iff.mpr held,
      List.isEmpty_eq_false_iff.mpr empty]

theorem step_held {src next : CobaltSource δ} {call : SourceCall δ} (held : Held src)
    (latest : src.RemovesLatestFirst call) (h : src.step call = some next) : Held next := by
  obtain ⟨ds, marks, nodup, rfl⟩ := held
  cases call with
  | registerPlayer audioDecoder videoDecoder =>
    obtain ⟨⟨bare, different⟩, rfl⟩ := Option.ite_some_none_eq_some.mp h
    obtain rfl : ds = [] := by simpa [isConfigured, laid] using bare
    exact ⟨[audioDecoder, videoDecoder], marks, by simpa using different,
      registerPlayer_laid different marks⟩
  | unregisterPlayer audioDecoder videoDecoder =>
    obtain rfl := Option.some.inj h
    have first : (ds.filter fun d => decide (some d ∉ [audioDecoder, videoDecoder])) <+: ds := latest
    rw [unregisterPlayer_laid nodup marks, filter_pads_of_prefix marks first]
    exact ⟨_, marks, nodup.filter _, rfl⟩
  | handleEos sender =>
    obtain ⟨_, rfl⟩ := Option.ite_some_none_eq_some.mp h
    exact ⟨ds, sender :: marks, nodup, handleEos_laid ds marks sender⟩

theorem step_latest {src next : CobaltSource δ} {call : SourceCall δ} (held : Held src)
    (h : src.step call = some next) (inStep : InStep next) : src.RemovesLatestFirst call := by
  obtain ⟨ds, marks, nodup, rfl⟩ := held
  cases call with
  | unregisterPlayer audioDecoder videoDecoder =>
    obtain rfl := Option.some.inj h
    rw [unregisterPlayer_laid nodup marks] at inStep
    refine prefix_of_names marks fun pad listed => ?_
    exact List.mem_range.mp (inStep.names.subset (List.mem_map_of_mem listed))
  | _ => trivial

theorem held_looksUp {src : CobaltSource δ} (held : Held src) (call : SourceCall δ) : src.LooksUpPads call := by
  obtain ⟨ds, marks, -, rfl⟩ := held
  cases call with
  | handleEos sender => exact laid_scanFindsPads ds (sender :: marks)
  | _ => trivial

theorem held_fresh {src next : CobaltSource δ} {call : SourceCall δ} (held : Held src)
    (h : src.step call = some next) : src.NamesFresh call := by
  obtain ⟨ds, marks, -, rfl⟩ := held
  cases call with
  | registerPlayer audioDecoder videoDecoder =>
    obtain ⟨⟨bare, different⟩, -⟩ := Option.ite_some_none_eq_some.mp h
    obtain rfl : ds = [] := by simpa [isConfigured, laid] using bare
    exact ⟨rfl, rfl⟩
  | _ => trivial

/-- The pads, the children and the flag agree in every state, the scan finds its pads and every
registration takes fresh names exactly when no decoder goes while one registered after it stays. -/
theorem pads_in_step_iff (calls : List (SourceCall δ)) :
    (Machine.Throughout step InStep {} calls ∧ Machine.Along step LooksUpPads {} calls ∧
      Machine.Along step NamesFresh {} calls) ↔ Machine.Along step RemovesLatestFirst {} calls := by
  have initial : Held ({} : CobaltSource δ) := ⟨[], [], List.nodup_nil, rfl⟩
  have states : Machine.Throughout step InStep {} calls ↔ Machine.Along step RemovesLatestFirst {} calls :=
    Machine.throughout_iff_along Held (fun _ => True) (fun _ _ _ _ held latest h => step_held held latest h)
      (fun _ held => held_inStep held) (fun _ _ _ _ held h inStep => step_latest held h inStep)
      initial (fun _ _ => trivial)
  constructor
  · exact fun h => states.mp h.1
  · intro latest
    refine ⟨states.mpr latest, ?_, ?_⟩
    · exact Machine.along_of_along Held (fun _ _ _ held met h => step_held held met h)
        (fun _ call _ held _ _ => held_looksUp held call) initial latest
    · exact Machine.along_of_along Held (fun _ _ _ held met h => step_held held met h)
        (fun _ _ _ held _ h => held_fresh held h) initial latest

/-- Both decoders are registered, the audio decoder alone is taken back and the video stream ends. -/
def audioTakenBack : List (SourceCall Stream) :=
  [.registerPlayer .audio .video, .unregisterPlayer (some .audio) none, .handleEos .video]

theorem audio_taken_back_leaves_gap :
    ¬ Machine.Throughout step InStep {} audioTakenBack ∧
      ¬ Machine.Along step LooksUpPads {} audioTakenBack := by
  constructor
  · intro inStep
    have names := (Machine.throughout_head ((inStep.2 _ rfl).2 _ rfl)).names
    have listed : 1 ∈ List.range 1 := names.subset (by decide)
    simp at listed
  · intro looksUp
    have scan := (((looksUp _ rfl).2 _ rfl).2 _ rfl).1
    obtain ⟨d, found⟩ := scan 0 (by decide) (by simp)
    exact absurd found (by cases d <;> decide)

end CobaltSource
end CobaltWayland
