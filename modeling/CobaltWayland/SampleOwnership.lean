import CobaltWayland.Buffer
import CobaltWayland.Lib.Machine
import CobaltWayland.Lib.RefCount

/-!
Who holds the buffer of a written sample. `WriteSample` makes it with one reference and passes that
on through four exits: a strange type, an empty buffer, a failed push and an accepted one. The
appsrc takes the reference over whatever it answers and gives up what it queued when the buffer is
consumed, flushed or torn down.
-/

namespace CobaltWayland

structure SampleConfig where
  limit : MemoryLimit
  sampleDeallocateFunction : Bool

/-- The buffers of a player. The sample of the k-th `WriteSample` call and its buffer are named `k`. -/
structure Pool where
  calls : Nat := 0
  heap : RefCount.Heap Nat := {}
  buffer : Nat → GstBuffer := fun _ => ⟨[], 0⟩
  queued : Stream → List Nat := fun _ => []
  ended : Stream → Bool := fun _ => false
  deallocated : List Nat := []

namespace Pool

/-- `gst_buffer_unref`: the destroy notifies run when the last reference goes. -/
def unref (s : Pool) (id : Nat) : Pool :=
  { s with
    heap := s.heap.unref id
    deallocated := s.deallocated ++ if s.heap.count id = 1 then (s.buffer id).notifies else [] }

/-- The buffer of the next call, with the notifies that ran while it was assembled. -/
def wrap (s : Pool) (built : GstBuffer × List Nat) : Pool :=
  { s with
    calls := s.calls + 1
    heap := s.heap.create s.calls
    buffer := Function.update s.buffer s.calls built.1
    deallocated := s.deallocated ++ built.2 }

/-- The answer of `gst_app_src_push_buffer`, where `flow` is that of an appsrc not yet at its end. -/
def pushResult (s : Pool) (d : Stream) (flow : GstFlowReturn) : GstFlowReturn :=
  if s.ended d then .eos else flow

/-- `gst_app_src_push_buffer` takes the reference over: a failing push gives it up itself. -/
def pushBuffer (s : Pool) (d : Stream) (id : Nat) (flow : GstFlowReturn) : Pool :=
  if s.pushResult d flow = .ok then
    { s with queued := Function.update s.queued d (s.queued d ++ [id]) }
  else s.unref id

/-- `AbstractDecoder::PushWorker`. -/
def pushWorker (s : Pool) (d : Stream) (id : Nat) (flow : GstFlowReturn) : Pool :=
  if (s.buffer id).size = 0 then s
  else if s.pushResult d flow ≠ .ok then (s.pushBuffer d id flow).unref id
  else s.pushBuffer d id flow

def writeSample (cfg : SampleConfig) (s : Pool) (sampleType : MediaType) (sampleBuffers : List (List UInt8))
    (samplePts : Int) (flow : GstFlowReturn) : Pool :=
  match sampleBuffers with
  | [] => s
  | head :: tail =>
    let deallocate := if cfg.sampleDeallocateFunction then some s.calls else none
    let s' := s.wrap (GstBuffer.assemble cfg.limit deallocate head tail samplePts)
    match sampleType with
    | .stream d => s'.pushWorker d s.calls flow
    | .strange _ => s'.unref s.calls

def writeEndOfStream (s : Pool) (streamType : MediaType) : Pool :=
  match streamType with
  | .stream d => { s with ended := Function.update s.ended d true }
  | .strange _ => s

def owners (s : Pool) : List Nat := s.queued .audio ++ s.queued .video

def release (s : Pool) : Pool := s.owners.foldl unref { s with queued := fun _ => [] }

inductive Event where
  | writeSample (sampleType : MediaType) (sampleBuffers : List (List UInt8)) (samplePts : Int)
      (flow : GstFlowReturn)
  | writeEndOfStream (streamType : MediaType)
  /-- A flushing seek discards the queues and takes the appsrcs back from their end. -/
  | flush
  | consume (d : Stream)
  deriving DecidableEq, Repr

def step (cfg : SampleConfig) (s : Pool) : Event → Pool
  | .writeSample sampleType sampleBuffers samplePts flow =>
    s.writeSample cfg sampleType sampleBuffers samplePts flow
  | .writeEndOfStream streamType => s.writeEndOfStream streamType
  | .flush => { s with ended := fun _ => false }.release
  | .consume d =>
    match s.queued d with
    | [] => s
    | id :: rest => { s with queued := Function.update s.queued d rest }.unref id

def tornDown (cfg : SampleConfig) (es : List Event) : Pool := (es.foldl (step cfg) {}).release

/-- Each sample was given back once, if there is a function to call, and no buffer was released
after its count had reached zero. -/
def GivenBack (cfg : SampleConfig) (s : Pool) : Prop :=
  s.heap.misused = [] ∧
    (cfg.sampleDeallocateFunction = true → ∀ k < s.calls, s.deallocated.count k = 1)

instance (cfg : SampleConfig) (s : Pool) : Decidable (GivenBack cfg s) := by
  unfold GivenBack; infer_instance

/-- A sample for a decoder is pushed with success or, when all its pieces that fit into a buffer are
empty, was given back before, as a sample of more pieces than fit is. -/
def Releasable (cfg : SampleConfig) (s : Pool) : Event → Prop
  | .writeSample (.stream d) (head :: tail) _ flow =>
    if ∀ piece ∈ (head :: tail).take cfg.limit.max, piece = [] then
      cfg.sampleDeallocateFunction = true → cfg.limit.max ≤ tail.length
    else s.pushResult d flow = .ok
  | _ => True

instance (cfg : SampleConfig) (s : Pool) (e : Event) : Decidable (Releasable cfg s e) := by
  unfold Releasable; split <;> infer_instance

/-! ### Releasing a reference -/

@[simp] theorem unref_buffer (s : Pool) (id : Nat) : (s.unref id).buffer = s.buffer := rfl

/-- Every reference of `owners` is held, and each sample is given back or still has its notify. -/
structure Holds (cfg : SampleConfig) (s : Pool) (owners : List Nat) : Prop where
  misused : s.heap.misused = []
  covers : RefCount.Covers s.heap owners
  single : ∀ k ∈ owners, s.heap.count k = 1
  bound : ∀ k ∈ owners, k < s.calls
  own : ∀ k, ∀ n ∈ (s.buffer k).notifies, n = k
  past : ∀ k ∈ s.deallocated, k < s.calls
  ledger : ∀ k < s.calls,
    s.deallocated.count k + (if k ∈ owners then (s.buffer k).notifies.length else 0) =
      if cfg.sampleDeallocateFunction then 1 else 0

variable {cfg : SampleConfig} {s : Pool} {owners : List Nat} {id : Nat}

theorem holds_queued (queued : Stream → List Nat) (ended : Stream → Bool) (holds : Holds cfg s owners) :
    Holds cfg { s with queued, ended } owners :=
  ⟨holds.misused, holds.covers, holds.single, holds.bound, holds.own, holds.past, holds.ledger⟩

theorem holds_perm {owners' : List Nat} (same : owners.Perm owners') (holds : Holds cfg s owners) :
    Holds cfg s owners' where
  misused := holds.misused
  covers := RefCount.covers_perm same holds.covers
  single := fun k owned => holds.single k (same.mem_iff.mpr owned)
  bound := fun k owned => holds.bound k (same.mem_iff.mpr owned)
  own := holds.own
  past := holds.past
  ledger := by simpa only [same.mem_iff] using holds.ledger

theorem holds_notMem (holds : Holds cfg s (id :: owners)) : id ∉ owners := by
  have counted := holds.covers id
  rw [holds.single id List.mem_cons_self, List.count_cons_self] at counted
  exact List.count_eq_zero.mp (by omega)

theorem notifies_count (own : ∀ n ∈ (s.buffer id).notifies, n = id) (k : Nat) :
    (s.buffer id).notifies.count k = if k = id then (s.buffer id).notifies.length else 0 := by
  split
  · rename_i same
    subst same
    exact List.count_eq_length.mpr fun n notified => (own n notified).symm
  · rename_i different
    exact List.count_eq_zero.mpr fun notified => different (own k notified)

theorem holds_unref (holds : Holds cfg s (id :: owners)) : Holds cfg (s.unref id) owners := by
  have alone := holds_notMem holds
  have one := holds.single id List.mem_cons_self
  have ran : (s.unref id).deallocated = s.deallocated ++ (s.buffer id).notifies := by simp [unref, one]
  refine ⟨?_, RefCount.covers_unref holds.covers, fun k owned => ?_, fun k owned => ?_, holds.own, ?_, ?_⟩
  · exact (RefCount.unref_misused_of_pos (RefCount.covers_held holds.covers)).trans holds.misused
  · have different : k ≠ id := fun same => alone (same ▸ owned)
    exact (RefCount.unref_count _ _ _).trans (by
      rw [if_neg different]; exact holds.single k (List.mem_cons_of_mem _ owned))
  · exact holds.bound k (List.mem_cons_of_mem _ owned)
  · intro k given
    rw [ran] at given
    rcases List.mem_append.mp given with before | now
    · exact holds.past k before
    · rw [holds.own id k now]
      exact holds.bound id List.mem_cons_self
  · intro k called
    have balance := holds.ledger k called
    rw [ran, List.count_append, notifies_count (holds.own id)]
    by_cases same : k = id
    · subst same
      simpa [alone] using balance
    · simpa [same] using balance

theorem holds_forget (holds : Holds cfg s (id :: owners)) (silent : (s.buffer id).notifies = []) :
    Holds cfg s owners where
  misused := holds.misused
  covers := fun k => (List.count_le_count_cons).trans (holds.covers k)
  single := fun k owned => holds.single k (List.mem_cons_of_mem _ owned)
  bound := fun k owned => holds.bound k (List.mem_cons_of_mem _ owned)
  own := holds.own
  past := holds.past
  ledger := by
    intro k called
    have balance := holds.ledger k called
    by_cases same : k = id
    · subst same
      simpa [silent] using balance
    · simpa [same] using balance

theorem holds_release (ids : List Nat) (holds : Holds cfg s (ids ++ owners)) :
    Holds cfg (ids.foldl unref s) owners := by
  induction ids generalizing s with
  | nil => exact holds
  | cons id ids ih => exact ih (holds_unref holds)

/-! ### A written sample -/

/-- The buffers give back only their own sample, the new one included. -/
theorem wrap_own {built : GstBuffer × List Nat} (own : ∀ k, ∀ n ∈ (s.buffer k).notifies, n = k)
    (mine : ∀ n ∈ built.2 ++ built.1.notifies, n = s.calls) :
    ∀ k, ∀ n ∈ ((s.wrap built).buffer k).notifies, n = k := by
  intro k n notified
  by_cases same : k = s.calls
  · subst same
    exact mine n (List.mem_append_right _ (by simpa [wrap] using notified))
  · exact own k n (by simpa [wrap, same] using notified)

theorem holds_wrap {built : GstBuffer × List Nat} (holds : Holds cfg s owners)
    (balanced : built.2 ++ built.1.notifies = if cfg.sampleDeallocateFunction then [s.calls] else []) :
    Holds cfg (s.wrap built) (s.calls :: owners) := by
  have unowned : s.calls ∉ owners := fun owned => lt_irrefl _ (holds.bound _ owned)
  have mine : ∀ n ∈ built.2 ++ built.1.notifies, n = s.calls := by
    rw [balanced]
    split <;> simp
  refine ⟨holds.misused, RefCount.covers_create unowned holds.covers, ?_, ?_, ?_, ?_, ?_⟩
  · intro k owned
    refine (RefCount.create_count _ _ _).trans ?_
    rcases List.mem_cons.mp owned with rfl | before
    · exact if_pos rfl
    · rw [if_neg (fun same : k = s.calls => unowned (same ▸ before))]
      exact holds.single k before
  · intro k owned
    rcases List.mem_cons.mp owned with rfl | before
    · exact Nat.lt_succ_self _
    · exact Nat.lt_succ_of_lt (holds.bound k before)
  · exact wrap_own holds.own mine
  · intro k given
    rcases List.mem_append.mp given with before | early
    · exact Nat.lt_succ_of_lt (holds.past k before)
    · rw [mine k (List.mem_append_left _ early)]
      exact Nat.lt_succ_self _
  · intro k called
    rcases Nat.lt_succ_iff_lt_or_eq.mp called with before | rfl
    · have other : k ≠ s.calls := before.ne
      have early : built.2.count k = 0 :=
        List.count_eq_zero.mpr fun given => other (mine k (List.mem_append_left _ given))
      have balance := holds.ledger k before
      simpa [wrap, List.count_append, early, other] using balance
    · have fresh : s.deallocated.count s.calls = 0 :=
        List.count_eq_zero.mpr fun given => lt_irrefl _ (holds.past _ given)
      have early : built.2.count s.calls = built.2.length :=
        List.count_eq_length.mpr fun n given => (mine n (List.mem_append_left _ given)).symm
      have total := congrArg List.length balanced
      rw [List.length_append, apply_ite List.length, List.length_singleton, List.length_nil] at total
      simpa [wrap, List.count_append, fresh, early] using total

theorem size_eq_zero_iff (deallocate : Option Nat) (head : List UInt8) (tail : List (List UInt8))
    (samplePts : Int) :
    (GstBuffer.assemble cfg.limit deallocate head tail samplePts).1.size = 0 ↔
      ∀ piece ∈ (head :: tail).take cfg.limit.max, piece = [] := by
  rw [GstBuffer.assemble_size, List.sum_eq_zero_iff_forall_eq_nat, List.forall_mem_map]
  simp only [List.length_eq_zero_iff]

theorem wrap_size_eq_zero_iff {deallocate : Option Nat} {head : List UInt8} {tail : List (List UInt8)}
    {samplePts : Int} {built : GstBuffer × List Nat}
    (built_eq : GstBuffer.assemble cfg.limit deallocate head tail samplePts = built) :
    ((s.wrap built).buffer s.calls).size = 0 ↔ ∀ piece ∈ (head :: tail).take cfg.limit.max, piece = [] := by
  rw [← size_eq_zero_iff deallocate head tail samplePts, built_eq]
  simp [wrap]

theorem assemble_balanced (cfg : SampleConfig) (given : Bool) (head : List UInt8)
    (tail : List (List UInt8)) (samplePts : Int) (id : Nat) :
    (GstBuffer.assemble cfg.limit (if given then some id else none) head tail samplePts).2 ++
      (GstBuffer.assemble cfg.limit (if given then some id else none) head tail samplePts).1.notifies =
      if given then [id] else [] := by
  rw [GstBuffer.assemble_notifies]
  cases given <;> rfl

theorem owners_push (d : Stream) (id : Nat) :
    (id :: s.owners).Perm
      ({ s with queued := Function.update s.queued d (s.queued d ++ [id]) } : Pool).owners := by
  cases d with
  | audio =>
    have middle : (s.queued .audio ++ id :: s.queued .video).Perm _ := List.perm_middle
    simpa [owners] using middle.symm
  | video => simpa [owners] using (List.perm_append_singleton id s.owners).symm

theorem owners_pop {d : Stream} {rest : List Nat} (head : s.queued d = id :: rest) :
    s.owners.Perm (id :: ({ s with queued := Function.update s.queued d rest } : Pool).owners) := by
  cases d with
  | audio => simp [owners, head]
  | video => simp [owners, head]

theorem writeSample_holds {sampleType : MediaType} {sampleBuffers : List (List UInt8)} {samplePts : Int}
    {flow : GstFlowReturn} (holds : Holds cfg s s.owners)
    (releasable : Releasable cfg s (.writeSample sampleType sampleBuffers samplePts flow)) :
    Holds cfg (s.writeSample cfg sampleType sampleBuffers samplePts flow)
      (s.writeSample cfg sampleType sampleBuffers samplePts flow).owners := by
  cases sampleBuffers with
  | nil => exact holds
  | cons head tail =>
    simp only [writeSample]
    generalize built_eq : GstBuffer.assemble cfg.limit
      (if cfg.sampleDeallocateFunction then some s.calls else none) head tail samplePts = built
    have balanced := assemble_balanced cfg cfg.sampleDeallocateFunction head tail samplePts s.calls
    rw [built_eq] at balanced
    have wrapped := holds_wrap holds balanced
    cases sampleType with
    | strange value => exact holds_unref wrapped
    | stream d =>
      simp only [Releasable, ← wrap_size_eq_zero_iff (s := s) built_eq] at releasable
      dsimp only [pushWorker]
      by_cases empty : ((s.wrap built).buffer s.calls).size = 0
      · rw [if_pos empty]
        rw [if_pos empty] at releasable
        apply holds_forget wrapped
        have silent : built.1.notifies = [] := by
          cases given : cfg.sampleDeallocateFunction with
          | false =>
            rw [given] at balanced
            exact (List.append_eq_nil_iff.mp balanced).2
          | true =>
            rw [← built_eq, GstBuffer.assemble_overflow cfg.limit (releasable given)]
            rfl
        simpa [wrap] using silent
      · rw [if_neg empty] at releasable
        have accepted : (s.wrap built).pushResult d flow = .ok := releasable
        rw [if_neg empty, if_neg (not_not.mpr accepted), pushBuffer, if_pos accepted]
        exact holds_queued _ _ (holds_perm (owners_push (s := s.wrap built) d s.calls) wrapped)

theorem release_holds (holds : Holds cfg s s.owners) : Holds cfg s.release [] := by
  apply holds_release s.owners
  rw [List.append_nil]
  exact holds_queued _ _ holds

@[simp] theorem release_owners (s : Pool) : s.release.owners = [] := by
  have kept : ∀ (ids : List Nat) (s : Pool), (ids.foldl unref s).queued = s.queued := by
    intro ids
    induction ids with
    | nil => exact fun _ => rfl
    | cons id ids ih => exact fun s => ih (s.unref id)
  simp [release, owners, kept]

theorem step_holds {e : Event} (holds : Holds cfg s s.owners) (releasable : Releasable cfg s e) :
    Holds cfg (s.step cfg e) (s.step cfg e).owners := by
  cases e with
  | writeSample sampleType sampleBuffers samplePts flow => exact writeSample_holds holds releasable
  | writeEndOfStream streamType =>
    cases streamType with
    | strange value => exact holds
    | stream d => exact holds_queued _ _ holds
  | flush =>
    have all := release_holds (s := { s with ended := fun _ => false }) (holds_queued _ _ holds)
    simpa [step] using all
  | consume d =>
    simp only [step]
    split
    · exact holds
    · rename_i id rest head
      exact holds_unref (holds_queued _ _ (holds_perm (owners_pop head) holds))

theorem start_holds (cfg : SampleConfig) : Holds cfg {} ({} : Pool).owners where
  misused := rfl
  covers := fun k => by simp [owners]
  single := fun k owned => by simp [owners] at owned
  bound := fun k owned => by simp [owners] at owned
  own := fun k n notified => by simp [GstBuffer.notifies] at notified
  past := fun k given => by simp at given
  ledger := fun k called => by simp at called

/-! ### Broken pools -/

/-- A buffer was released once too often, or a sample is out of everybody's hands and was never
given back. -/
structure Broken (cfg : SampleConfig) (s : Pool) (owners : List Nat) : Prop where
  bound : ∀ k ∈ owners, k < s.calls
  own : ∀ k, ∀ n ∈ (s.buffer k).notifies, n = k
  harm : s.heap.misused ≠ [] ∨
    cfg.sampleDeallocateFunction = true ∧ ∃ k < s.calls, k ∉ owners ∧ k ∉ s.deallocated

theorem broken_mono {owners' : List Nat} (sub : owners' ⊆ owners) (broken : Broken cfg s owners) :
    Broken cfg s owners' :=
  ⟨fun k owned => broken.bound k (sub owned), broken.own,
    broken.harm.imp_right fun ⟨given, k, called, unowned, kept⟩ =>
      ⟨given, k, called, fun owned => unowned (sub owned), kept⟩⟩

theorem broken_queued (queued : Stream → List Nat) (ended : Stream → Bool) (broken : Broken cfg s owners) :
    Broken cfg { s with queued, ended } owners :=
  ⟨broken.bound, broken.own, broken.harm⟩

theorem unref_misused (s : Pool) (id : Nat) (misused : s.heap.misused ≠ []) :
    (s.unref id).heap.misused ≠ [] := by
  rcases Nat.eq_zero_or_pos (s.heap.count id) with gone | held
  · exact fun none => by cases (RefCount.unref_misused_of_zero gone).symm.trans none
  · exact fun none => misused ((RefCount.unref_misused_of_pos held).symm.trans none)

theorem broken_unref (broken : Broken cfg s (id :: owners)) : Broken cfg (s.unref id) owners := by
  refine ⟨fun k owned => broken.bound k (List.mem_cons_of_mem _ owned), broken.own, ?_⟩
  rcases broken.harm with misused | ⟨given, k, called, unowned, kept⟩
  · exact Or.inl (unref_misused s id misused)
  · obtain ⟨other, unowned⟩ := not_or.mp (mt List.mem_cons.mpr unowned)
    refine Or.inr ⟨given, k, called, unowned, fun back => ?_⟩
    rcases List.mem_append.mp back with before | now
    · exact kept before
    · split at now
      · exact other (broken.own id k now)
      · simp at now

theorem broken_release (ids : List Nat) (broken : Broken cfg s (ids ++ owners)) :
    Broken cfg (ids.foldl unref s) owners := by
  induction ids generalizing s with
  | nil => exact broken
  | cons id ids ih => exact ih (broken_unref broken)

theorem release_broken (broken : Broken cfg s s.owners) : Broken cfg s.release [] := by
  apply broken_release s.owners
  rw [List.append_nil]
  exact broken_queued _ _ broken

/-- The reference to a new buffer may be given up twice on the way. -/
theorem broken_wrap {built : GstBuffer × List Nat} (broken : Broken cfg s owners)
    (balanced : built.2 ++ built.1.notifies = if cfg.sampleDeallocateFunction then [s.calls] else []) :
    Broken cfg (s.wrap built) (s.calls :: s.calls :: owners) := by
  have mine : ∀ n ∈ built.2 ++ built.1.notifies, n = s.calls := by
    rw [balanced]
    split <;> simp
  refine ⟨?_, ?_, ?_⟩
  · intro k owned
    have cases : k = s.calls ∨ k ∈ owners := by simpa using owned
    rcases cases with rfl | before
    · exact Nat.lt_succ_self _
    · exact Nat.lt_succ_of_lt (broken.bound k before)
  · exact wrap_own broken.own mine
  · refine broken.harm.imp_right fun ⟨given, k, called, unowned, kept⟩ => ?_
    have other : k ≠ s.calls := called.ne
    refine ⟨given, k, Nat.lt_succ_of_lt called, by simp [other, unowned], fun back => ?_⟩
    rcases List.mem_append.mp back with before | early
    · exact kept before
    · exact other (mine k (List.mem_append_left _ early))

theorem pushWorker_broken {d : Stream} {flow : GstFlowReturn} (broken : Broken cfg s (id :: id :: s.owners)) :
    Broken cfg (s.pushWorker d id flow) (s.pushWorker d id flow).owners := by
  have spare : s.owners ⊆ id :: id :: s.owners := fun k owned =>
    List.mem_cons_of_mem _ (List.mem_cons_of_mem _ owned)
  unfold pushWorker
  split
  · exact broken_mono spare broken
  · split
    · rename_i failed
      rw [pushBuffer, if_neg failed]
      exact broken_unref (broken_unref broken)
    · rename_i accepted
      rw [pushBuffer, if_pos (not_not.mp accepted)]
      refine broken_queued _ _ (broken_mono (fun k owned => ?_) broken)
      exact List.mem_cons_of_mem _ ((owners_push d id).mem_iff.mpr owned)

theorem step_broken {e : Event} (broken : Broken cfg s s.owners) :
    Broken cfg (s.step cfg e) (s.step cfg e).owners := by
  cases e with
  | writeSample sampleType sampleBuffers samplePts flow =>
    cases sampleBuffers with
    | nil => exact broken
    | cons head tail =>
      have wrapped := broken_wrap broken
        (assemble_balanced cfg cfg.sampleDeallocateFunction head tail samplePts s.calls)
      cases sampleType with
      | strange value => exact broken_unref (broken_mono (List.subset_cons_self _ _) wrapped)
      | stream d => exact pushWorker_broken wrapped
  | writeEndOfStream streamType =>
    cases streamType with
    | strange value => exact broken
    | stream d => exact broken_queued _ _ broken
  | flush =>
    have all := release_broken (s := { s with ended := fun _ => false }) (broken_queued _ _ broken)
    simpa [step] using all
  | consume d =>
    simp only [step]
    split
    · exact broken
    · rename_i id rest head
      exact broken_unref (broken_queued _ _ (broken_mono (owners_pop head).symm.subset broken))

/-- A push that fails costs the buffer a second release, an empty sample is never given back. -/
theorem step_breaks {e : Event} (holds : Holds cfg s s.owners) (unmet : ¬ Releasable cfg s e) :
    Broken cfg (s.step cfg e) (s.step cfg e).owners := by
  cases e with
  | writeEndOfStream _ | flush | consume _ => exact absurd trivial unmet
  | writeSample sampleType sampleBuffers samplePts flow =>
  cases sampleType with
  | strange value => exact absurd trivial unmet
  | stream d =>
  cases sampleBuffers with
  | nil => exact absurd trivial unmet
  | cons head tail =>
    simp only [step, writeSample]
    generalize built_eq : GstBuffer.assemble cfg.limit
      (if cfg.sampleDeallocateFunction then some s.calls else none) head tail samplePts = built
    have balanced := assemble_balanced cfg cfg.sampleDeallocateFunction head tail samplePts s.calls
    rw [built_eq] at balanced
    have wrapped := holds_wrap holds balanced
    simp only [Releasable, ← wrap_size_eq_zero_iff (s := s) built_eq] at unmet
    dsimp only [pushWorker]
    by_cases empty : ((s.wrap built).buffer s.calls).size = 0
    · rw [if_pos empty]
      rw [if_pos empty] at unmet
      obtain ⟨given, room⟩ := Classical.not_imp.mp unmet
      refine ⟨fun k owned => Nat.lt_succ_of_lt (holds.bound k owned), wrapped.own, Or.inr ⟨given, s.calls, ?_⟩⟩
      have early : built.2 = [] := by
        rw [← built_eq, GstBuffer.assemble_room cfg.limit (Nat.lt_of_not_le room)]
      refine ⟨Nat.lt_succ_self _, holds_notMem wrapped, fun back => ?_⟩
      have before : s.calls ∈ s.deallocated := by simpa [wrap, early] using back
      exact lt_irrefl _ (holds.past _ before)
    · rw [if_neg empty] at unmet
      have failed : (s.wrap built).pushResult d flow ≠ .ok := unmet
      rw [if_neg empty, if_pos failed, pushBuffer, if_neg failed]
      have once := holds_unref wrapped
      have gone : ((s.wrap built).unref s.calls).heap.count s.calls = 0 :=
        (RefCount.unref_count _ _ _).trans (by
          rw [if_pos rfl, wrapped.single _ List.mem_cons_self])
      refine ⟨once.bound, once.own, Or.inl fun none => ?_⟩
      cases (RefCount.unref_misused_of_zero gone).symm.trans none

/-! ### Whole runs -/

theorem release_givenBack (holds : Holds cfg s s.owners) : s.release.GivenBack cfg := by
  have final := release_holds holds
  refine ⟨final.misused, fun given k called => ?_⟩
  simpa [given] using final.ledger k called

theorem release_not_givenBack (broken : Broken cfg s s.owners) : ¬ s.release.GivenBack cfg := by
  rintro ⟨clean, back⟩
  rcases (release_broken broken).harm with misused | ⟨given, k, called, -, kept⟩
  · exact misused clean
  · have once := back given k called
    rw [List.count_eq_zero.mpr kept] at once
    cases once

/-- After a run and the teardown every sample was given back once and no buffer released twice,
exactly when every sample written to a decoder was accepted or was an empty one that had been given
back as it was assembled. -/
theorem given_back_iff (cfg : SampleConfig) (es : List Event) :
    (tornDown cfg es).GivenBack cfg ↔ Machine.Along (Machine.total (step cfg)) (Releasable cfg) {} es := by
  refine Machine.final_iff_along (fun s => Holds cfg s s.owners) (fun s => Broken cfg s s.owners)
    (fun s => s.release.GivenBack cfg) ?_ ?_ ?_
    (start_holds cfg) (Machine.exec_total (step cfg) {} es) release_givenBack release_not_givenBack
  · intro s e t holds releasable taken
    obtain rfl := Option.some.inj taken
    exact step_holds holds releasable
  · intro s e t holds unmet taken
    obtain rfl := Option.some.inj taken
    exact step_breaks holds unmet
  · intro s e t broken taken
    obtain rfl := Option.some.inj taken
    exact step_broken broken

theorem failed_push_not_given_back :
    ¬ (tornDown ⟨⟨16, by decide⟩, true⟩
        [.writeEndOfStream (.stream .audio), .writeSample (.stream .audio) [[1]] 0 .ok]).GivenBack
        ⟨⟨16, by decide⟩, true⟩ ∧
      ¬ (tornDown ⟨⟨16, by decide⟩, true⟩ [.writeSample (.stream .video) [[]] 0 .ok]).GivenBack
        ⟨⟨16, by decide⟩, true⟩ := by
  decide +kernel

end Pool
end CobaltWayland
