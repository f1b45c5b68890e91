import CobaltWayland.Player
import CobaltWayland.Lib.Machine

/-!
End of stream at the source bin. The bin marks the pad of each appsrc that posts EOS and emits its
own EOS event when every pad is marked. The marks sit on the pads as plain object data: nothing
that a flushing seek does takes them off.
-/

namespace CobaltWayland

/-- The bin with the appsrcs that have posted EOS since the last flushing seek. -/
structure Segment where
  src : CobaltSource Stream
  posted : List Stream := []
  deriving DecidableEq

namespace Segment

inductive Event where
  | eos (sender : Stream)
  /-- A flushing seek restarts both streams and invalidates their end-of-stream markers. -/
  | flush
  deriving DecidableEq, Repr

def registered : Segment := { src := ({} : CobaltSource Stream).registerPlayer .audio .video }

def step (s : Segment) : Event → Option Segment
  | .eos sender => some { src := (s.src.handleEos sender).1, posted := sender :: s.posted }
  | .flush => some { s with posted := [] }

def emits (s : Segment) : Event → Bool
  | .eos sender => (s.src.handleEos sender).2
  | .flush => false

/-- The message that completes the segment: its sender posts for the first time in the segment and
the other appsrc has posted already. -/
def Completes (s : Segment) : Event → Prop
  | .eos sender => sender ∉ s.posted ∧ sender.other ∈ s.posted
  | .flush => False

instance (s : Segment) (e : Event) : Decidable (s.Completes e) := by
  unfold Completes; split <;> infer_instance

def EmitsWhenComplete (s : Segment) (e : Event) : Prop := s.emits e = true ↔ s.Completes e

instance (s : Segment) (e : Event) : Decidable (s.EmitsWhenComplete e) := by
  unfold EmitsWhenComplete; infer_instance

/-- The appsrc that posts finds no mark of an earlier segment on the other pad and the segment not
complete already. -/
def MarkedAfresh (s : Segment) : Event → Prop
  | .eos sender =>
    (sender.other ∈ s.src.eosMarks → sender.other ∈ s.posted) ∧
      ¬ (.audio ∈ s.posted ∧ .video ∈ s.posted)
  | .flush => True

instance (s : Segment) (e : Event) : Decidable (s.MarkedAfresh e) := by
  unfold MarkedAfresh; split <;> infer_instance

structure Inv (s : Segment) : Prop where
  padCounter : s.src.padCounter = 2
  pads : s.src.pads = [⟨0, some .audio⟩, ⟨1, some .video⟩]
  posted_marked : ∀ d ∈ s.posted, d ∈ s.src.eosMarks

theorem registered_inv : Inv registered := ⟨rfl, rfl, by simp [registered]⟩

theorem step_inv {s t : Segment} {e : Event} (inv : Inv s) (h : s.step e = some t) : Inv t := by
  cases e with
  | eos sender =>
    obtain rfl := Option.some.inj h
    refine ⟨inv.padCounter, inv.pads, fun d posted => ?_⟩
    rcases List.mem_cons.mp posted with rfl | before
    · exact List.mem_cons_self
    · exact List.mem_cons_of_mem _ (inv.posted_marked d before)
  | flush =>
    obtain rfl := Option.some.inj h
    exact ⟨inv.padCounter, inv.pads, by simp⟩

/-- With both pads in place the scan asks for the mark of the other appsrc, whenever it was set. -/
theorem emits_iff {s : Segment} (inv : Inv s) (sender : Stream) :
    s.emits (.eos sender) = true ↔ sender.other ∈ s.src.eosMarks := by
  cases sender <;>
    simp [emits, CobaltSource.handleEos, CobaltSource.padIsEos, CobaltSource.staticPad,
      inv.padCounter, inv.pads, List.range_succ, Stream.other]

theorem emitsWhenComplete_iff {s : Segment} (inv : Inv s) (e : Event) :
    s.EmitsWhenComplete e ↔ s.MarkedAfresh e := by
  cases e with
  | flush => simp [EmitsWhenComplete, emits, Completes, MarkedAfresh]
  | eos sender =>
    have both : (.audio ∈ s.posted ∧ .video ∈ s.posted) ↔ sender ∈ s.posted ∧ sender.other ∈ s.posted := by
      cases sender
      · exact Iff.rfl
      · exact and_comm
    have marked := inv.posted_marked sender.other
    simp only [EmitsWhenComplete, emits_iff inv, Completes, MarkedAfresh, both]
    tauto

/-- Along a run of EOS messages and flushing seeks the bin emits exactly at the message that
completes the segment, hence at most once in it, if and only if no message meets a stale mark or a
segment that is complete already. -/
theorem emits_when_complete_iff (es : List Event) :
    Machine.Along step EmitsWhenComplete registered es ↔ Machine.Along step MarkedAfresh registered es :=
  Machine.along_iff_along Inv (fun _ => True)
    (fun _ _ _ _ inv _ h => step_inv inv h) (fun _ e _ _ inv _ => emitsWhenComplete_iff inv e)
    registered_inv (fun _ _ => trivial)

/-- A finished stream is replayed: after the seek the EOS of the audio stream alone is passed on. -/
def replayed : List Event := [.eos .audio, .eos .video, .flush, .eos .audio]

theorem replayed_emits_early : ¬ Machine.Along step EmitsWhenComplete registered replayed := by
  decide +kernel

end Segment

end CobaltWayland
