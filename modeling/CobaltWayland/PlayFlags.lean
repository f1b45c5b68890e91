import CobaltWayland.Lib.Memo
import Mathlib.Data.BitVec

/-!
The flags that `Initialize` gives playbin. `GetFlagValue` remembers the value of each nick in a table
that all players share; a nick that the registered type does not have counts as no flag.
-/

namespace CobaltWayland

/-- The values of the registered `GstPlayFlags`, by nick. -/
abbrev FlagNicks := String → Option (BitVec 32)

namespace FlagNicks
variable {nicks : FlagNicks}

def getFlagValue (flags : Memo nicks) (name : String) : Memo nicks × BitVec 32 :=
  ((flags.ask name).1, (flags.ask name).2.getD 0)

/-- The nicks that `Initialize` asks for. -/
def playNicks : List String := ["video", "audio", "native-video", "native-audio", "buffering"]

/-- The flags of `Initialize`, with its calls of `GetFlagValue` in the order the compiler has chosen. -/
def initializeFlags (flags : Memo nicks) (order : List String) : Memo nicks × BitVec 32 :=
  order.foldl (fun (flags, value) name => ((getFlagValue flags name).1, value ||| (getFlagValue flags name).2))
    (flags, 0)

theorem initializeFlags_eq (flags : Memo nicks) (order : List String) :
    initializeFlags flags order = flags.askAll (fun value flag => value ||| flag.getD 0) 0 order := rfl

/-- Whatever was asked for before, by this player or another, and in whichever order the flags are put
together, playbin gets the flags that its type has for the nicks. -/
theorem initializeFlags_of_perm (flags : Memo nicks) {order : List String} (same : order.Perm playNicks) :
    (initializeFlags flags order).2 =
      (nicks "video").getD 0 ||| (nicks "audio").getD 0 ||| (nicks "native-video").getD 0 |||
        (nicks "native-audio").getD 0 ||| (nicks "buffering").getD 0 := by
  have commutes : RightCommutative fun (value : BitVec 32) (flag : Option (BitVec 32)) => value ||| flag.getD 0 :=
    ⟨fun value a b => by rw [BitVec.or_assoc, BitVec.or_comm (a.getD 0), ← BitVec.or_assoc]⟩
  rw [initializeFlags_eq, Memo.askAll_snd, List.Perm.foldl_eq (same.map nicks)]
  simp [playNicks]

/-- A type without native flags, its nicks asked for twice and the second time in another order. -/
theorem initializeFlags_of_perm_again :
    (initializeFlags
      (initializeFlags ({} : Memo fun name : String => (["video", "audio"].idxOf? name).map fun i => 1#32 <<< i)
        playNicks).1 playNicks.reverse).2 = 3#32 := by
  rw [initializeFlags_of_perm _ (List.reverse_perm playNicks)]
  decide

end FlagNicks
end CobaltWayland
