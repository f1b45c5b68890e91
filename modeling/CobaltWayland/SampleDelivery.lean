import CobaltWayland.SampleOwnership
import CobaltWayland.Lib.Deferred

/-!
What a decoder gets of the samples. A stream's samples reach it whole up to the limit of a buffer, in
the order they were written and each at most once, whatever is written to the other stream in between
and however many pushes fail. Only a flush drops one that was accepted.
-/

namespace CobaltWayland

namespace GstBuffer

def shown (b : GstBuffer) : List UInt8 × Int := (b.content, b.pts)

theorem assemble_shown (limit : MemoryLimit) (notify : Option Nat) (head : List UInt8)
    (tail : List (List UInt8)) (samplePts : Int) :
    (assemble limit notify head tail samplePts).1.shown =
      (((head :: tail).take limit.max).flatten, sbTimeToGstTime samplePts) := by
  rcases Nat.lt_or_ge tail.length limit.max with room | overflow
  · rw [assemble_room limit room, List.take_of_length_le (by simpa using Nat.succ_le_of_lt room)]
    simp [shown, content, List.flatMap_def, Function.comp_def]
  · rw [assemble_overflow limit overflow]
    simp [shown, content]

theorem size_eq (b : GstBuffer) : b.size = b.content.length := by
  simp [size, content, List.length_flatMap]

end GstBuffer

namespace Pool

def waiting (d : Stream) (s : Pool) : List (List UInt8 × Int) :=
  (s.queued d).map fun id => (s.buffer id).shown

/-- What a `WriteSample` has the appsrc of a stream accept. -/
def accepted (cfg : SampleConfig) (d : Stream) (s : Pool) : Event → List (List UInt8 × Int)
  | .writeSample (.stream target) sampleBuffers samplePts flow =>
    let fitting := (sampleBuffers.take cfg.limit.max).flatten
    if target = d ∧ fitting ≠ [] ∧ s.pushResult d flow = .ok then [(fitting, sbTimeToGstTime samplePts)] else []
  | _ => []

def consumed (d : Stream) (s : Pool) : Event → List (List UInt8 × Int)
  | .consume target => if target = d then (s.waiting d).take 1 else []
  | _ => []

/-- What leaves the appsrc of a stream, to its decoder or by a flush. -/
def removed (d : Stream) (s : Pool) : Event → List (List UInt8 × Int)
  | .flush => s.waiting d
  | e => s.consumed d e

/-- The queues name buffers of their own, each held by the one reference of the queue. -/
structure Queues (s : Pool) : Prop where
  bound : ∀ k ∈ s.owners, k < s.calls
  apart : s.owners.Nodup
  held : ∀ k ∈ s.owners, s.heap.count k = 1

variable {cfg : SampleConfig} {s : Pool} {d : Stream} {id : Nat}

theorem mem_owners (queued : id ∈ s.queued d) : id ∈ s.owners := by
  cases d with
  | audio => exact List.mem_append_left _ queued
  | video => exact List.mem_append_right _ queued

/-! ### One step -/

theorem unref_held (s : Pool) {k : Nat} (other : k ≠ id) :
    (s.unref id).heap.count k = s.heap.count k :=
  (RefCount.unref_count _ _ _).trans (if_neg other)

theorem unref_queues (queues : Queues s) (free : id ∉ s.owners) : Queues (s.unref id) where
  bound := queues.bound
  apart := queues.apart
  held := by
    intro k owned
    have other : k ≠ id := fun same => free (same ▸ owned)
    exact (unref_held s other).trans (queues.held k owned)

theorem wrap_queues (built : GstBuffer × List Nat) (queues : Queues s) :
    Queues (s.wrap built) ∧ s.calls ∉ (s.wrap built).owners ∧ (s.wrap built).heap.count s.calls = 1 := by
  have free : s.calls ∉ s.owners := fun owned => lt_irrefl _ (queues.bound _ owned)
  refine ⟨⟨?_, queues.apart, ?_⟩, free, (RefCount.create_count _ _ _).trans (if_pos rfl)⟩
  · exact fun k owned => Nat.lt_succ_of_lt (queues.bound k owned)
  · intro k owned
    refine (RefCount.create_count _ _ _).trans ?_
    rw [if_neg fun same : k = s.calls => free (same ▸ owned)]
    exact queues.held k owned

theorem pushWorker_queues {flow : GstFlowReturn} (queues : Queues s) (called : id < s.calls)
    (free : id ∉ s.owners) (held : s.heap.count id = 1) : Queues (s.pushWorker d id flow) := by
  unfold pushWorker
  split
  · exact queues
  · split
    · rename_i failed
      rw [pushBuffer, if_neg failed]
      exact unref_queues (unref_queues queues free) free
    · rename_i accepted
      rw [pushBuffer, if_pos (not_not.mp accepted)]
      have same := owners_push (s := s) d id
      refine ⟨fun k owned => ?_, same.nodup_iff.mp (List.nodup_cons.mpr ⟨free, queues.apart⟩), fun k owned => ?_⟩
      · rcases List.mem_cons.mp (same.mem_iff.mpr owned) with rfl | before
        · exact called
        · exact queues.bound k before
      · rcases List.mem_cons.mp (same.mem_iff.mpr owned) with rfl | before
        · exact held
        · exact queues.held k before

theorem step_queues {e : Event} (queues : Queues s) : Queues (s.step cfg e) := by
  cases e with
  | writeSample sampleType sampleBuffers samplePts flow =>
    cases sampleBuffers with
    | nil => exact queues
    | cons head tail =>
      obtain ⟨wrapped, free, held⟩ := wrap_queues (GstBuffer.assemble cfg.limit
        (if cfg.sampleDeallocateFunction then some s.calls else none) head tail samplePts) queues
      cases sampleType with
      | stream d => exact pushWorker_queues wrapped (Nat.lt_succ_self _) free held
      | strange value => exact unref_queues wrapped free
  | writeEndOfStream streamType =>
    cases streamType with
    | stream d => exact ⟨queues.bound, queues.apart, queues.held⟩
    | strange value => exact queues
  | flush =>
    have none := release_owners { s with ended := fun _ => false }
    exact ⟨by simp [step, none], by simp [step, none], by simp [step, none]⟩
  | consume d =>
    simp only [step]
    split
    · exact queues
    · rename_i id rest head
      have popped := owners_pop head
      obtain ⟨free, apart⟩ := List.nodup_cons.mp (popped.nodup_iff.mp queues.apart)
      refine unref_queues ⟨fun k owned => ?_, apart, fun k owned => ?_⟩ free
      · exact queues.bound k (popped.mem_iff.mpr (List.mem_cons_of_mem _ owned))
      · exact queues.held k (popped.mem_iff.mpr (List.mem_cons_of_mem _ owned))

theorem wrap_waiting (built : GstBuffer × List Nat) (queues : Queues s) :
    (s.wrap built).waiting d = s.waiting d := by
  apply List.map_congr_left
  intro k queued
  have other : k ≠ s.calls := (queues.bound k (mem_owners queued)).ne
  simp [wrap, other]

theorem pushWorker_waiting (target : Stream) (flow : GstFlowReturn) :
    (s.pushWorker target id flow).waiting d = s.waiting d ++
      if target = d ∧ (s.buffer id).content ≠ [] ∧ s.pushResult d flow = .ok then [(s.buffer id).shown] else [] := by
  have empty : (s.buffer id).size = 0 ↔ (s.buffer id).content = [] := by
    rw [GstBuffer.size_eq, List.length_eq_zero_iff]
  unfold pushWorker
  split
  · rename_i none
    simp [empty.mp none]
  · rename_i some
    have filled := mt empty.mpr some
    split
    · rename_i failed
      rw [pushBuffer, if_neg failed, if_neg (by rintro ⟨rfl, -, ok⟩; exact failed ok), List.append_nil]
      rfl
    · rename_i ok
      rw [pushBuffer, if_pos (not_not.mp ok)]
      by_cases same : target = d
      · subst same
        simp [waiting, filled, not_not.mp ok]
      · simp [waiting, same, Ne.symm same]

theorem step_waiting {e : Event} (queues : Queues s) :
    s.removed d e ++ (s.step cfg e).waiting d = s.waiting d ++ s.accepted cfg d e := by
  cases e with
  | writeSample sampleType sampleBuffers samplePts flow =>
    cases sampleBuffers with
    | nil => cases sampleType <;> simp [removed, consumed, accepted, step, writeSample]
    | cons head tail =>
      have shown := GstBuffer.assemble_shown cfg.limit
        (if cfg.sampleDeallocateFunction then some s.calls else none) head tail samplePts
      simp only [step, writeSample]
      generalize GstBuffer.assemble cfg.limit
        (if cfg.sampleDeallocateFunction then some s.calls else none) head tail samplePts = built at shown ⊢
      have own : (s.wrap built).buffer s.calls = built.1 := by simp [wrap]
      cases sampleType with
      | stream target =>
        dsimp only
        rw [pushWorker_waiting, wrap_waiting built queues, own, shown]
        have content : built.1.content = ((head :: tail).take cfg.limit.max).flatten := congrArg Prod.fst shown
        simp only [removed, consumed, accepted, List.nil_append, content]
        rfl
      | strange value =>
        have kept : ((s.wrap built).unref s.calls).waiting d = s.waiting d := wrap_waiting built queues
        simp [removed, consumed, accepted, kept]
  | writeEndOfStream streamType =>
    cases streamType <;> simp [removed, consumed, accepted, step, writeEndOfStream, waiting]
  | flush =>
    have none : ({ s with ended := fun _ => false } : Pool).release.queued d = [] := by
      apply List.eq_nil_iff_forall_not_mem.mpr
      intro k queued
      simpa using mem_owners queued
    simp [removed, accepted, step, waiting, none]
  | consume target =>
    simp only [removed, consumed, accepted, List.append_nil]
    cases queue : s.queued target with
    | nil =>
      simp only [step, queue]
      by_cases same : target = d
      · subst same; simp [waiting, queue]
      · simp [same]
    | cons id rest =>
      simp only [step, queue]
      by_cases same : target = d
      · subst same; simp [waiting, queue, unref]
      · simp [waiting, same, Ne.symm same, unref]

/-! ### Whole runs -/

theorem start_queues : Queues {} := ⟨by simp [owners], by simp [owners], by simp [owners]⟩

theorem consumed_removed (f : Pool → Event → Option Pool) (d : Stream) (s : Pool) (es : List Event) :
    (Machine.labels f (consumed d) s es).Sublist (Machine.labels f (removed d) s es) := by
  induction es generalizing s with
  | nil => exact List.Sublist.refl _
  | cons e es ih =>
    refine List.Sublist.append ?_ ?_
    · cases e <;> simp [removed, consumed]
    · cases f s e with
      | none => exact List.Sublist.refl _
      | some t => exact ih t

/-- What has left a stream's appsrc and what waits there is what it accepted, in the order it was
written and with the bytes that fit into a buffer; the decoder gets a part of that in the same order.
A buffer that waits has the reference of its queue left. The reference too many that `PushWorker` gives
back after a failed push is logged by the heap; in the source it touches a buffer that is freed. -/
theorem delivered_in_order (cfg : SampleConfig) (d : Stream) (es : List Event) :
    Machine.labels (Machine.total (step cfg)) (removed d) {} es ++ (es.foldl (step cfg) {}).waiting d =
        Machine.labels (Machine.total (step cfg)) (accepted cfg d) {} es ∧
      (Machine.labels (Machine.total (step cfg)) (consumed d) {} es).Sublist
        (Machine.labels (Machine.total (step cfg)) (accepted cfg d) {} es) ∧
      ∀ k ∈ (es.foldl (step cfg) {}).queued d, (es.foldl (step cfg) {}).heap.count k = 1 := by
  have run := Machine.exec_total (step cfg) {} es
  have kept : ∀ s e t, Queues s → Machine.total (step cfg) s e = some t → Queues t := by
    intro s e t queues taken
    obtain rfl := Option.some.inj taken
    exact step_queues queues
  have moves : ∀ s e t, Queues s → Machine.total (step cfg) s e = some t →
      s.removed d e ++ t.waiting d = s.waiting d ++ s.accepted cfg d e := by
    intro s e t queues taken
    obtain rfl := Option.some.inj taken
    exact step_waiting queues
  have order := Deferred.exec_in_order Queues kept moves start_queues run
  rw [show ({} : Pool).waiting d = [] from rfl, List.nil_append] at order
  refine ⟨order, ?_, fun k queued => ?_⟩
  · rw [← order]
    exact (consumed_removed _ d {} es).trans (List.sublist_append_left _ _)
  · exact (Machine.exec_invariant kept start_queues run).held k (mem_owners queued)

end Pool
end CobaltWayland
