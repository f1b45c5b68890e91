import CobaltWayland.Buffer
import CobaltWayland.Lib.Machine
import Mathlib.Data.List.Forall2

/-!
The loop of `WriteSample` piece by piece. Next to the buffer it records which piece each block
wraps, since only a wrapping block refers to the memory of the client: the block a merge leaves is
a copy.
-/

namespace CobaltWayland

/-- The buffer of one sample from its creation to its release. -/
structure Assembly where
  i : Nat
  buffer : GstBuffer
  /-- For each block the number of the piece it wraps, or nothing for a copy. -/
  wrapped : List (Option Nat)
  ran : List Nat

namespace Assembly

inductive Step where
  | piece (data : List UInt8)
  | release
  deriving DecidableEq, Repr

def created (notify : Option Nat) (head : List UInt8) : Assembly where
  i := 1
  buffer := ⟨[⟨head, notify⟩], 0⟩
  wrapped := [some 0]
  ran := []

/-- `gst_buffer_insert_memory` as it moves the wrapping blocks. -/
def insertWrapped (limit : MemoryLimit) (wrapped : List (Option Nat)) (idx : Nat) : List (Option Nat) :=
  if wrapped.length < idx then wrapped
  else if limit.max ≤ wrapped.length then
    if idx ≤ 1 then [none].insertIdx idx (some idx) else [none]
  else wrapped.insertIdx idx (some idx)

def insertPiece (limit : MemoryLimit) (s : Assembly) (data : List UInt8) : Assembly where
  i := s.i + 1
  buffer := (s.buffer.insertMemory limit s.i ⟨data, none⟩).1
  wrapped := insertWrapped limit s.wrapped s.i
  ran := s.ran ++ (s.buffer.insertMemory limit s.i ⟨data, none⟩).2

/-- The last `gst_buffer_unref`. -/
def release (s : Assembly) : Assembly :=
  { s with buffer := { s.buffer with memory := [] }, wrapped := [], ran := s.ran ++ s.buffer.notifies }

def step (limit : MemoryLimit) (s : Assembly) : Step → Option Assembly
  | .piece data => some (s.insertPiece limit data)
  | .release => some s.release

/-- The deallocation callback has not run, or the buffer refers to no piece. -/
def NotifiedLast (s : Assembly) : Prop := s.ran ≠ [] → ∀ k, some k ∉ s.wrapped

def life (tail : List (List UInt8)) : List Step := tail.map .piece ++ [.release]

/-- What a block that wraps a piece shows is that piece. -/
def Shows (pieces : List (List UInt8)) (m : GstMemory) (wrap : Option Nat) : Prop :=
  ∀ k, wrap = some k → pieces[k]? = some m.data

variable (limit : MemoryLimit)

theorem foldl_insertPiece (tail : List (List UInt8)) (s : Assembly) :
    ((tail.foldl (insertPiece limit) s).buffer, (tail.foldl (insertPiece limit) s).ran) =
      GstBuffer.insertPieces limit s.i tail (s.buffer, s.ran) := by
  induction tail generalizing s with
  | nil => rfl
  | cons piece tail ih => exact ih (s.insertPiece limit piece)

theorem assemble_eq (notify : Option Nat) (head : List UInt8) (tail : List (List UInt8)) (samplePts : Int) :
    GstBuffer.assemble limit notify head tail samplePts =
      ({ (tail.foldl (insertPiece limit) (created notify head)).buffer with pts := sbTimeToGstTime samplePts },
        (tail.foldl (insertPiece limit) (created notify head)).ran) := by
  have loop : (_, _) = GstBuffer.insertPieces limit 1 tail (⟨[⟨head, notify⟩], 0⟩, []) :=
    foldl_insertPiece limit tail (created notify head)
  simp only [GstBuffer.assemble, ← loop]

/-- The index is the number of blocks and nothing has run, or the index is out of use and no block
wraps a piece any more. -/
structure Inv (s : Assembly) : Prop where
  blocks : s.wrapped.length = s.buffer.memory.length
  started : 0 < s.i
  index : (s.buffer.memory.length = s.i ∧ s.i ≤ limit.max ∧ s.ran = []) ∨
    (s.buffer.memory.length < s.i ∧ ∀ k, some k ∉ s.wrapped)

theorem created_inv (notify : Option Nat) (head : List UInt8) : Inv limit (created notify head) where
  blocks := rfl
  started := Nat.one_pos
  index := .inl ⟨rfl, Nat.le_of_succ_le limit.two_le, rfl⟩

variable {limit}

theorem insertPiece_room {s : Assembly} (blocks : s.wrapped.length = s.buffer.memory.length)
    (aligned : s.buffer.memory.length = s.i) (room : s.i < limit.max) (data : List UInt8) :
    s.insertPiece limit data =
      { i := s.i + 1, buffer := { s.buffer with memory := s.buffer.memory ++ [⟨data, none⟩] },
        wrapped := s.wrapped ++ [some s.i], ran := s.ran } := by
  have wrapped : insertWrapped limit s.wrapped s.i = s.wrapped ++ [some s.i] := by
    rw [← aligned, ← blocks] at room ⊢
    simp [insertWrapped, Nat.not_le.mpr room, List.insertIdx_length_self]
  simp [insertPiece, GstBuffer.insertMemory_room limit aligned room, wrapped]

theorem insertPiece_full {s : Assembly} (blocks : s.wrapped.length = s.buffer.memory.length)
    (aligned : s.buffer.memory.length = s.i) (full : s.i = limit.max) (data : List UInt8) :
    s.insertPiece limit data =
      { i := s.i + 1, buffer := { s.buffer with memory := [⟨s.buffer.content, none⟩] },
        wrapped := [none], ran := s.ran ++ s.buffer.notifies } := by
  have := limit.two_le
  have wrapped : insertWrapped limit s.wrapped limit.max = [none] := by
    have length : s.wrapped.length = limit.max := by omega
    simp [insertWrapped, length]
    omega
  rw [full] at aligned
  simp [insertPiece, full, GstBuffer.insertMemory_full limit aligned, wrapped]

theorem insertPiece_past {s : Assembly} (blocks : s.wrapped.length = s.buffer.memory.length)
    (past : s.buffer.memory.length < s.i) (data : List UInt8) :
    s.insertPiece limit data = { s with i := s.i + 1 } := by
  have wrapped : insertWrapped limit s.wrapped s.i = s.wrapped := by
    rw [insertWrapped, if_pos (blocks ▸ past)]
  simp [insertPiece, GstBuffer.insertMemory, past, wrapped]

theorem insertPiece_inv {s : Assembly} (inv : Inv limit s) (data : List UInt8) :
    Inv limit (s.insertPiece limit data) := by
  have := limit.two_le
  have blocks := inv.blocks
  rcases inv.index with ⟨aligned, le, silent⟩ | ⟨past, copies⟩
  · rcases Nat.lt_or_eq_of_le le with room | full
    · rw [insertPiece_room blocks aligned room]
      exact ⟨by simp [blocks], Nat.succ_pos _, .inl ⟨by simp [aligned], room, silent⟩⟩
    · rw [insertPiece_full blocks aligned full]
      exact ⟨rfl, Nat.succ_pos _, .inr ⟨by simp; omega, by simp⟩⟩
  · rw [insertPiece_past blocks past]
    exact ⟨blocks, Nat.succ_pos _, .inr ⟨Nat.lt_succ_of_lt past, copies⟩⟩

theorem release_inv {s : Assembly} (inv : Inv limit s) : Inv limit s.release where
  blocks := rfl
  started := inv.started
  index := .inr ⟨inv.started, by simp [release]⟩

theorem step_inv {s t : Assembly} {e : Step} (inv : Inv limit s) (h : step limit s e = some t) :
    Inv limit t := by
  cases e with
  | piece data =>
    obtain rfl := Option.some.inj h
    exact insertPiece_inv inv data
  | release =>
    obtain rfl := Option.some.inj h
    exact release_inv inv

theorem Inv.notifiedLast {s : Assembly} (inv : Inv limit s) : NotifiedLast s := by
  intro ran
  rcases inv.index with ⟨-, -, silent⟩ | ⟨-, copies⟩
  · exact absurd silent ran
  · exact copies

/-- The sample is given back only when the buffer refers to none of its pieces. -/
theorem notified_last (limit : MemoryLimit) (notify : Option Nat) (head : List UInt8) (es : List Step) :
    Machine.Throughout (step limit) NotifiedLast (created notify head) es :=
  Machine.throughout_of_kept (Inv limit) (fun _ _ _ inv h => step_inv inv h)
    (fun _ inv => inv.notifiedLast) (created_inv limit notify head) es

/-! ### What the blocks show -/

theorem Shows.append {pieces : List (List UInt8)} {m : GstMemory} {wrap : Option Nat} (shows : Shows pieces m wrap)
    (piece : List UInt8) : Shows (pieces ++ [piece]) m wrap := by
  intro k wrapping
  have found := shows k wrapping
  obtain ⟨bound, _⟩ := List.getElem?_eq_some_iff.mp found
  rwa [List.getElem?_append_left bound]

theorem insertPiece_shows {s : Assembly} {pieces : List (List UInt8)} (inv : Inv limit s)
    (count : s.i = pieces.length) (shows : List.Forall₂ (Shows pieces) s.buffer.memory s.wrapped)
    (piece : List UInt8) :
    List.Forall₂ (Shows (pieces ++ [piece])) (s.insertPiece limit piece).buffer.memory
      (s.insertPiece limit piece).wrapped := by
  have before := shows.imp fun _ _ h => h.append piece
  rcases inv.index with ⟨aligned, le, -⟩ | ⟨past, -⟩
  · rcases Nat.lt_or_eq_of_le le with room | full
    · rw [insertPiece_room inv.blocks aligned room]
      have last : Shows (pieces ++ [piece]) ⟨piece, none⟩ (some s.i) := by
        intro k wrapping
        obtain rfl := Option.some.inj wrapping
        simp [count]
      exact List.rel_append before (.cons last .nil)
    · rw [insertPiece_full inv.blocks aligned full]
      exact .cons (fun k wrapping => by cases wrapping) .nil
  · rw [insertPiece_past inv.blocks past]
    exact before

/-- The pieces the blocks are recorded to wrap are the pieces they show. -/
theorem wrapped_shown (limit : MemoryLimit) (notify : Option Nat) (head : List UInt8) (tail : List (List UInt8)) :
    Inv limit (tail.foldl (insertPiece limit) (created notify head)) ∧
      (tail.foldl (insertPiece limit) (created notify head)).i = (head :: tail).length ∧
      List.Forall₂ (Shows (head :: tail)) (tail.foldl (insertPiece limit) (created notify head)).buffer.memory
        (tail.foldl (insertPiece limit) (created notify head)).wrapped := by
  induction tail using List.reverseRecOn with
  | nil =>
    refine ⟨created_inv limit notify head, rfl, .cons (fun k wrapping => ?_) .nil⟩
    obtain rfl := Option.some.inj wrapping
    rfl
  | append_singleton tail piece ih =>
    obtain ⟨inv, count, shows⟩ := ih
    rw [List.foldl_append, List.foldl_cons, List.foldl_nil]
    refine ⟨insertPiece_inv inv piece, ?_, insertPiece_shows inv count shows piece⟩
    simp [insertPiece, count]

/-! ### The content -/

theorem content_iff (limit : MemoryLimit) (notify : Option Nat) {head : List UInt8} {tail : List (List UInt8)}
    (samplePts : Int) (filled : ∀ piece ∈ head :: tail, piece ≠ []) :
    (GstBuffer.assemble limit notify head tail samplePts).1.content = (head :: tail).flatten ↔
      (head :: tail).length ≤ limit.max := by
  rcases Nat.lt_or_ge tail.length limit.max with room | overflow
  · rw [GstBuffer.assemble_room limit room]
    refine iff_of_true ?_ room
    simp [GstBuffer.content, List.flatMap_map]
  · rw [GstBuffer.assemble_overflow limit overflow]
    refine iff_of_false (fun same => ?_) (by simp; omega)
    have split : (head :: tail).flatten =
        ((head :: tail).take limit.max).flatten ++ ((head :: tail).drop limit.max).flatten := by
      rw [← List.flatten_append, List.take_append_drop]
    have lost : ((head :: tail).drop limit.max).flatten = [] := by
      rw [split] at same
      simpa [GstBuffer.content] using same
    have left : (head :: tail).drop limit.max ≠ [] := by
      rw [Ne, List.drop_eq_nil_iff, List.length_cons]
      omega
    obtain ⟨piece, dropped⟩ := List.exists_mem_of_ne_nil _ left
    exact filled piece (List.mem_of_mem_drop dropped) (List.flatten_eq_nil_iff.mp lost piece dropped)

/-- The machine is the loop of `assemble`, and a block that it records to wrap a piece shows that piece. -/
def Records (limit : MemoryLimit) (notify : Option Nat) (head : List UInt8) (tail : List (List UInt8))
    (samplePts : Int) : Prop :=
  ∃ s, Machine.exec (step limit) (created notify head) (tail.map .piece) = some s ∧
    GstBuffer.assemble limit notify head tail samplePts =
      ({ s.buffer with pts := sbTimeToGstTime samplePts }, s.ran) ∧
    List.Forall₂ (Shows (head :: tail)) s.buffer.memory s.wrapped

theorem exec_pieces (limit : MemoryLimit) (s : Assembly) (tail : List (List UInt8)) :
    Machine.exec (step limit) s (tail.map .piece) = some (tail.foldl (insertPiece limit) s) := by
  induction tail generalizing s with
  | nil => rfl
  | cons piece tail ih => exact Machine.exec_cons.mpr ⟨s.insertPiece limit piece, rfl, ih _⟩

theorem records (limit : MemoryLimit) (notify : Option Nat) (head : List UInt8) (tail : List (List UInt8))
    (samplePts : Int) : Records limit notify head tail samplePts :=
  ⟨_, exec_pieces limit _ tail, assemble_eq limit notify head tail samplePts,
    (wrapped_shown limit notify head tail).2.2⟩

/-- The buffer holds the whole sample, and the sample is given back only after every piece that the
blocks show, exactly when the buffer has a block for each piece. -/
theorem assembled_intact_iff (limit : MemoryLimit) (notify : Option Nat) (head : List UInt8)
    (tail : List (List UInt8)) (samplePts : Int) (filled : ∀ piece ∈ head :: tail, piece ≠ []) :
    ((GstBuffer.assemble limit notify head tail samplePts).1.content = (head :: tail).flatten ∧
      Machine.Throughout (step limit) NotifiedLast (created notify head) (life tail) ∧
      Records limit notify head tail samplePts) ↔
      (head :: tail).length ≤ limit.max := by
  rw [content_iff limit notify samplePts filled]
  exact and_iff_left ⟨notified_last limit notify head (life tail), records limit notify head tail samplePts⟩

theorem assembled_intact_three :
    ((GstBuffer.assemble ⟨16, by decide⟩ (some 0) [1, 2] [[3], [4]] 0).1.content = [1, 2, 3, 4] ∧
      Machine.Throughout (step ⟨16, by decide⟩) NotifiedLast (created (some 0) [1, 2]) (life [[3], [4]]) ∧
      Records ⟨16, by decide⟩ (some 0) [1, 2] [[3], [4]] 0) := by
  have intact := assembled_intact_iff ⟨16, by decide⟩ (some 0) [1, 2] [[3], [4]] 0 (by decide)
  exact intact.mpr (by decide)

theorem seventeenth_piece_lost :
    (GstBuffer.assemble ⟨16, by decide⟩ (some 0) [0] ((List.range 16).map fun n => [UInt8.ofNat (n + 1)])
        0).1.content ≠
      ([0] :: (List.range 16).map fun n => [UInt8.ofNat (n + 1)]).flatten := by
  decide +kernel

end Assembly
end CobaltWayland
