import CobaltWayland.Types

/-!
The source bin of `cobalt_source.cc`: its pad counter, its configured flag, the appsrcs added to
it and the ghost pads that expose them. A decoder stands for its appsrc.
-/

namespace CobaltWayland

/-- A ghost pad of the bin. `name` is the number in `src_%u`. -/
structure GhostPad (δ : Type*) where
  name : Nat
  target : Option δ
  deriving DecidableEq, Repr

/-- `GstCobaltSrc` with its private data and the parts of its bin that the code touches. -/
structure CobaltSource (δ : Type*) where
  padCounter : Nat := 0
  configured : Bool := false
  children : List δ := []
  pads : List (GhostPad δ) := []
  /-- The appsrcs whose `src` pad carries the `is-eos` mark. -/
  eosMarks : List δ := []
  deriving DecidableEq, Repr

namespace CobaltSource
variable {δ : Type*}

def isConfigured (src : CobaltSource δ) : Bool := src.configured

/-- `gst_element_get_static_pad` of the bin. -/
def staticPad (src : CobaltSource δ) (name : Nat) : Option (GhostPad δ) :=
  src.pads.find? fun pad => pad.name == name

variable [DecidableEq δ]

/-- One turn of the loop in `CobaltSourceRegisterPlayer`. GStreamer refuses a second parent for
an appsrc, a second pad of one name and a ghost of a pad that is linked already. -/
def registerDecoder (src : CobaltSource δ) (d : δ) : CobaltSource δ :=
  let name := src.padCounter
  { src with
    padCounter := name + 1
    children := if d ∈ src.children then src.children else src.children ++ [d]
    pads :=
      if src.pads.any fun pad => pad.name == name || pad.target == some d then src.pads
      else src.pads ++ [⟨name, some d⟩] }

def registerPlayer (src : CobaltSource δ) (audioDecoder videoDecoder : δ) : CobaltSource δ :=
  { [audioDecoder, videoDecoder].foldl registerDecoder src with configured := true }

/-- One turn of the loop in `CobaltSourceUnregisterPlayer` for a decoder that was given. An
appsrc without a peer is left alone, counter included. -/
def unregisterDecoder (src : CobaltSource δ) (d : δ) : CobaltSource δ :=
  match src.pads.find? fun pad => pad.target == some d with
  | none => src
  | some ghost =>
    { src with
      pads := src.pads.erase ghost
      children := src.children.erase d
      padCounter := src.padCounter - 1 }

def unregisterPlayer (src : CobaltSource δ) (audioDecoder videoDecoder : Option δ) : CobaltSource δ :=
  let src := [audioDecoder, videoDecoder].foldl
    (fun src decoder => match decoder with
      | none => src
      | some d => src.unregisterDecoder d) src
  if src.children = [] then { src with configured := false } else src

/-- The `is-eos` mark read through the ghost pad `src_<i>`. Where a pad or its target is missing
GLib answers the null pointer with a warning and a zero. -/
def padIsEos (src : CobaltSource δ) (i : Nat) : Bool :=
  match src.staticPad i with
  | some ⟨_, some target⟩ => decide (target ∈ src.eosMarks)
  | _ => false

/-- The `GST_MESSAGE_EOS` case of `CobaltSourceHandleMessage` for a message of the appsrc
`sender`: the bin afterwards, and whether it sent the EOS event. -/
def handleEos (src : CobaltSource δ) (sender : δ) : CobaltSource δ × Bool :=
  let marked := { src with eosMarks := sender :: src.eosMarks }
  -- the loop breaks at the first pad without the mark, as `all` does
  (marked, (List.range marked.padCounter).all marked.padIsEos)

end CobaltSource
end CobaltWayland
