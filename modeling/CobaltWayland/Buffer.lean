import CobaltWayland.Types

/-!
How `WriteSample` builds the buffer of a sample: one memory block for each piece the client passed,
the head carrying the notify that gives the sample back, the tail inserted at index 1, 2 and on.
-/

namespace CobaltWayland

/-- The number of memory blocks a buffer can hold, `gst_buffer_get_max_memory`. -/
structure MemoryLimit where
  max : Nat
  two_le : 2 ≤ max

/-- A wrapped memory block and the sample its destroy notify gives back. -/
structure GstMemory where
  data : List UInt8
  notify : Option Nat
  deriving DecidableEq

structure GstBuffer where
  memory : List GstMemory
  pts : Int := 0
  deriving DecidableEq

namespace GstBuffer

def size (b : GstBuffer) : Nat := (b.memory.map fun m => m.data.length).sum

def content (b : GstBuffer) : List UInt8 := b.memory.flatMap GstMemory.data

def notifies (b : GstBuffer) : List Nat := b.memory.filterMap GstMemory.notify

/-- `gst_buffer_insert_memory`: the buffer and the notifies that ran. An index above the number of
blocks is refused. A full buffer first merges its blocks into one and releases them; an index that
is above the one block then left is beyond the blocks in use. -/
def insertMemory (limit : MemoryLimit) (b : GstBuffer) (idx : Nat) (m : GstMemory) :
    GstBuffer × List Nat :=
  if b.memory.length < idx then (b, [])
  else if limit.max ≤ b.memory.length then
    let merged : List GstMemory := [⟨b.content, none⟩]
    ({ b with memory := if idx ≤ merged.length then merged.insertIdx idx m else merged }, b.notifies)
  else ({ b with memory := b.memory.insertIdx idx m }, [])

/-- The loop over the tail pieces from index `i` on, with the notifies run so far. -/
def insertPieces (limit : MemoryLimit) : Nat → List (List UInt8) → GstBuffer × List Nat → GstBuffer × List Nat
  | _, [], built => built
  | i, piece :: pieces, (b, ran) =>
    let (b', ran') := b.insertMemory limit i ⟨piece, none⟩
    insertPieces limit (i + 1) pieces (b', ran ++ ran')

/-- The buffer `WriteSample` builds for a sample of pieces `head :: tail`. -/
def assemble (limit : MemoryLimit) (notify : Option Nat) (head : List UInt8) (tail : List (List UInt8))
    (samplePts : Int) : GstBuffer × List Nat :=
  let built := insertPieces limit 1 tail (⟨[⟨head, notify⟩], 0⟩, [])
  ({ built.1 with pts := sbTimeToGstTime samplePts }, built.2)

/-! ### The loop -/

variable (limit : MemoryLimit) {b : GstBuffer} {ran : List Nat} {i : Nat} {pieces : List (List UInt8)}

theorem insertMemory_room (aligned : b.memory.length = i) (room : i < limit.max) (m : GstMemory) :
    b.insertMemory limit i m = ({ b with memory := b.memory ++ [m] }, []) := by
  subst aligned
  simp [insertMemory, Nat.not_le.mpr room, List.insertIdx_length_self]

theorem insertMemory_full (aligned : b.memory.length = limit.max) (m : GstMemory) :
    b.insertMemory limit limit.max m = ({ b with memory := [⟨b.content, none⟩] }, b.notifies) := by
  have := limit.two_le
  simp [insertMemory, aligned]
  omega

theorem insertPieces_room (aligned : b.memory.length = i) (room : i + pieces.length ≤ limit.max) :
    insertPieces limit i pieces (b, ran) =
      ({ b with memory := b.memory ++ pieces.map fun piece => ⟨piece, none⟩ }, ran) := by
  induction pieces generalizing b ran i with
  | nil => simp [insertPieces]
  | cons piece pieces ih =>
    simp only [List.length_cons] at room
    simp only [insertPieces, insertMemory_room limit aligned (by omega)]
    rw [ih (by simp [aligned]) (by omega)]
    simp

theorem insertPieces_merged (single : b.memory.length = 1) (past : 1 < i) :
    insertPieces limit i pieces (b, ran) = (b, ran) := by
  induction pieces generalizing ran i with
  | nil => rfl
  | cons piece pieces ih =>
    simp only [insertPieces, insertMemory, single, past, if_true, List.append_nil]
    exact ih (by omega)

theorem insertPieces_overflow (aligned : b.memory.length = i) (some : 0 < i) (room : i ≤ limit.max)
    (overflow : limit.max < i + pieces.length) :
    insertPieces limit i pieces (b, ran) =
      ({ b with memory := [⟨b.content ++ (pieces.take (limit.max - i)).flatten, none⟩] },
        ran ++ b.notifies) := by
  induction pieces generalizing b ran i with
  | nil => simp only [List.length_nil] at overflow; omega
  | cons piece pieces ih =>
    simp only [List.length_cons] at overflow
    have := limit.two_le
    by_cases full : i = limit.max
    · subst full
      simp only [insertPieces, insertMemory_full limit aligned]
      rw [insertPieces_merged limit rfl (by omega)]
      simp
    · simp only [insertPieces, insertMemory_room limit aligned (by omega)]
      rw [ih (by simp [aligned]) (by omega) (by omega) (by omega)]
      have next : limit.max - i = limit.max - (i + 1) + 1 := by omega
      simp [content, notifies, next]

theorem assemble_room {notify : Option Nat} {head : List UInt8} {tail : List (List UInt8)} {samplePts : Int}
    (room : tail.length < limit.max) :
    assemble limit notify head tail samplePts =
      (⟨⟨head, notify⟩ :: tail.map (fun piece => ⟨piece, none⟩), sbTimeToGstTime samplePts⟩, []) := by
  have loop : insertPieces limit 1 tail (⟨[⟨head, notify⟩], 0⟩, []) = _ :=
    insertPieces_room limit rfl (by rw [Nat.add_comm]; exact room)
  simp only [assemble, loop]
  rfl

/-- Beyond the limit the sample is one block with the first pieces, already given back. -/
theorem assemble_overflow {notify : Option Nat} {head : List UInt8} {tail : List (List UInt8)}
    {samplePts : Int} (overflow : limit.max ≤ tail.length) :
    assemble limit notify head tail samplePts =
      (⟨[⟨((head :: tail).take limit.max).flatten, none⟩], sbTimeToGstTime samplePts⟩, notify.toList) := by
  have := limit.two_le
  obtain ⟨room, next⟩ : ∃ n, limit.max = n + 1 := ⟨limit.max - 1, by omega⟩
  have loop : insertPieces limit 1 tail (⟨[⟨head, notify⟩], 0⟩, []) = _ :=
    insertPieces_overflow limit rfl Nat.one_pos (by omega) (by omega)
  simp only [assemble, loop]
  cases notify <;> simp [content, notifies, next]

theorem assemble_size (notify : Option Nat) (head : List UInt8) (tail : List (List UInt8)) (samplePts : Int) :
    (assemble limit notify head tail samplePts).1.size =
      (((head :: tail).take limit.max).map List.length).sum := by
  rcases Nat.lt_or_ge tail.length limit.max with room | overflow
  · rw [assemble_room limit room, List.take_of_length_le (by simpa using Nat.succ_le_of_lt room)]
    simp [size, Function.comp_def]
  · rw [assemble_overflow limit overflow]
    simp [size, List.length_flatten]

theorem assemble_notifies (notify : Option Nat) (head : List UInt8) (tail : List (List UInt8))
    (samplePts : Int) :
    (assemble limit notify head tail samplePts).2 ++
      (assemble limit notify head tail samplePts).1.notifies = notify.toList := by
  rcases Nat.lt_or_ge tail.length limit.max with room | overflow
  · rw [assemble_room limit room]
    have plain : (tail.map fun piece => (⟨piece, none⟩ : GstMemory)).filterMap GstMemory.notify = [] := by
      simp [List.filterMap_map]
    cases notify <;> simp [notifies, plain]
  · rw [assemble_overflow limit overflow]
    simp [notifies]

end GstBuffer
end CobaltWayland
