import CobaltWayland.Types

/-!
What the platform says it can play, and what it can build a decoder for: the support queries of
`audio_decoder.cc`, `video_decoder.cc` and `player_interface.cc`, the checks of `CreatePlayer` and the
caps that each decoder gives its appsrc. A decoder without caps fails to initialise.
-/

namespace CobaltWayland

/-- `SbMediaVideoCodec`, with those the code has no case for as `other`. -/
inductive VideoCodec where
  | none | h264 | mpeg2 | theora | vc1 | vp8
  | other (value : Int)
  deriving DecidableEq, Repr

inductive AudioCodec where
  | none | aac
  | other (value : Int)
  deriving DecidableEq, Repr

inductive OutputMode where
  | decodeToTexture | punchOut | invalid
  deriving DecidableEq, Repr

/-- The largest bit rates, from the configuration of the platform. -/
structure MediaLimits where
  maxAudioBitrate : Int
  maxVideoBitrate : Int
  audio_nonneg : 0 ≤ maxAudioBitrate
  video_nonneg : 0 ≤ maxVideoBitrate

namespace MediaLimits
variable (limits : MediaLimits)

def sbMediaIsAudioSupported (audioCodec : AudioCodec) (bitrate : Int) : Bool :=
  audioCodec = .aac ∧ bitrate ≥ 0 ∧ bitrate ≤ limits.maxAudioBitrate

/-- The profile, the level and the colour properties are not looked at. -/
def sbMediaIsVideoSupported (videoCodec : VideoCodec) (frameWidth frameHeight bitrate fps : Int) : Bool :=
  (videoCodec = .h264 ∨ videoCodec = .mpeg2 ∨ videoCodec = .vc1 ∨ videoCodec = .vp8) ∧
    (frameWidth ≥ 0 ∧ frameWidth ≤ 5000) ∧ (frameHeight ≥ 0 ∧ frameHeight ≤ 5000) ∧
    (bitrate ≥ 0 ∧ bitrate ≤ limits.maxVideoBitrate) ∧ fps ≥ 0 ∧ fps ≤ 60

/-- Every key system is pretended to be supported. -/
def sbMediaIsSupported (videoCodec : VideoCodec) (audioCodec : AudioCodec) (_keySystem : Option String) : Bool :=
  limits.sbMediaIsAudioSupported audioCodec 0 && limits.sbMediaIsVideoSupported videoCodec 0 0 0 0

def outputModeSupported (outputMode : OutputMode) (codec : VideoCodec) : Bool :=
  outputMode = .punchOut && limits.sbMediaIsVideoSupported codec 0 0 0 0

end MediaLimits

/-! ### The caps of the decoders -/

/-- The value of a caps field. Integers are those of C, 32 bits wide. -/
inductive CapsValue where
  | int (value : BitVec 32)
  | boolean (value : Bool)
  | string (value : String)
  | buffer (content : List UInt8)
  deriving DecidableEq, Repr

structure Caps where
  mediaType : String
  fields : List (String × CapsValue) := []
  deriving DecidableEq, Repr

namespace Caps

/-- `gst_caps_set_simple`, which only complains about missing caps. -/
def setSimple (caps : Option Caps) (name : String) (value : CapsValue) : Option Caps :=
  caps.map fun c => { c with fields := c.fields ++ [(name, value)] }

def field {α : Type} (told : Prop) [Decidable told] (name : String) (value : α) : List (String × α) :=
  if told then [(name, value)] else []

def numbers (caps : Caps) : List (String × Int) :=
  caps.fields.filterMap fun field =>
    match field.2 with
    | .int value => some (field.1, value.toInt)
    | .boolean _ | .string _ | .buffer _ => none

end Caps

structure AudioHeader where
  numberOfChannels : UInt16
  samplesPerSecond : UInt32
  averageBytesPerSecond : UInt32
  blockAlignment : UInt16
  bitsPerSample : UInt16
  /-- The content of `audio_specific_config`, `none` for a null pointer. -/
  audioSpecificConfig : Option (List UInt8)
  deriving DecidableEq, Repr

namespace AudioHeader

/-- A zeroed header, the one of a decoder that was given none. -/
def zero : AudioHeader := ⟨0, 0, 0, 0, 0, none⟩

def told (header : AudioHeader) : List (String × Int) :=
  Caps.field (header.numberOfChannels ≠ 0) "channels" (header.numberOfChannels.toNat : Int) ++
  (Caps.field (header.samplesPerSecond ≠ 0) "rate" (header.samplesPerSecond.toNat : Int) ++
  (Caps.field (header.averageBytesPerSecond > 100) "bitrate" (8 * header.averageBytesPerSecond.toNat : Int) ++
  (Caps.field (header.blockAlignment ≠ 0) "block_align" (header.blockAlignment.toNat : Int) ++
  Caps.field (header.bitsPerSample ≠ 0) "depth" (header.bitsPerSample.toNat : Int))))

end AudioHeader

structure AudioDecoder where
  header : AudioHeader
  audioSpecificConfig : Option (List UInt8)
  configReferences : Nat
  deriving DecidableEq, Repr

namespace AudioDecoder

def construct (header : Option AudioHeader) : AudioDecoder :=
  match header with
  | none => ⟨.zero, none, 0⟩
  | some h =>
    match h.audioSpecificConfig with
    | none | some [] => ⟨h, none, 0⟩
    | some (byte :: bytes) => ⟨h, some (byte :: bytes), 1⟩

def describe (header : AudioHeader) (caps : Option Caps) : Option Caps :=
  let caps := if header.numberOfChannels ≠ 0 then
    Caps.setSimple caps "channels" (.int (header.numberOfChannels.toBitVec.setWidth 32)) else caps
  let caps := if header.samplesPerSecond ≠ 0 then
    Caps.setSimple caps "rate" (.int header.samplesPerSecond.toBitVec) else caps
  let caps := if header.averageBytesPerSecond > 100 then
    Caps.setSimple caps "bitrate" (.int (header.averageBytesPerSecond * 8).toBitVec) else caps
  let caps := if header.blockAlignment ≠ 0 then
    Caps.setSimple caps "block_align" (.int (header.blockAlignment.toBitVec.setWidth 32)) else caps
  if header.bitsPerSample ≠ 0 then
    Caps.setSimple caps "depth" (.int (header.bitsPerSample.toBitVec.setWidth 32)) else caps

def described (header : AudioHeader) : List (String × CapsValue) :=
  Caps.field (header.numberOfChannels ≠ 0) "channels"
    (CapsValue.int (header.numberOfChannels.toBitVec.setWidth 32)) ++
  (Caps.field (header.samplesPerSecond ≠ 0) "rate" (CapsValue.int header.samplesPerSecond.toBitVec) ++
  (Caps.field (header.averageBytesPerSecond > 100) "bitrate"
    (CapsValue.int (header.averageBytesPerSecond * 8).toBitVec) ++
  (Caps.field (header.blockAlignment ≠ 0) "block_align"
    (CapsValue.int (header.blockAlignment.toBitVec.setWidth 32)) ++
  Caps.field (header.bitsPerSample ≠ 0) "depth" (CapsValue.int (header.bitsPerSample.toBitVec.setWidth 32)))))

def customInitialize (decoder : AudioDecoder) (audioCodec : AudioCodec) : AudioDecoder × Option Caps :=
  match audioCodec with
  | .aac =>
    match decoder.audioSpecificConfig with
    | some config =>
      ({ decoder with configReferences := decoder.configReferences - 1 },
        describe decoder.header
          (some ⟨"audio/mpeg",
            [("mpegversion", .int 4), ("framed", .boolean true), ("stream-format", .string "raw"),
              ("codec_data", .buffer config)]⟩))
    | none => (decoder, describe decoder.header none)
  | .none | .other _ => (decoder, none)

end AudioDecoder

def videoCustomInitialize : VideoCodec → Option Caps
  | .h264 => some ⟨"video/x-h264", [("stream-format", .string "byte-stream")]⟩
  | .mpeg2 => some ⟨"video/x-mpeg", []⟩
  | .vc1 => some ⟨"video/x-vc1", []⟩
  | .vp8 => some ⟨"video/x-vp8", []⟩
  | .none | .theora | .other _ => none

/-! ### Creating a player -/

structure Request where
  window : Bool
  videoCodec : VideoCodec
  audioCodec : AudioCodec
  audioHeader : Option AudioHeader
  outputMode : OutputMode
  deriving DecidableEq, Repr

namespace Request
variable (limits : MediaLimits) (request : Request)

def accepted : Bool := request.window && limits.outputModeSupported request.outputMode request.videoCodec

/-- `Video->Initialize() && Audio->Initialize()`, with the audio decoder as it is afterwards. -/
def initializeDecoders : AudioDecoder × Bool :=
  let audio := AudioDecoder.construct request.audioHeader
  match videoCustomInitialize request.videoCodec with
  | none => (audio, false)
  | some _ =>
    let (audio', caps) := audio.customInitialize request.audioCodec
    (audio', caps.isSome)

def creates : Bool := request.accepted limits && request.initializeDecoders.2

end Request

/-! ### What the answers are worth -/

namespace MediaLimits
variable (limits : MediaLimits)

theorem audioSupported_iff (audioCodec : AudioCodec) :
    limits.sbMediaIsAudioSupported audioCodec 0 = true ↔ audioCodec = .aac := by
  have := limits.audio_nonneg
  simp [sbMediaIsAudioSupported, this]

/-- The check of `CreatePlayer` lets exactly those codecs pass that the video decoder has caps for. -/
theorem videoSupported_eq (videoCodec : VideoCodec) :
    limits.sbMediaIsVideoSupported videoCodec 0 0 0 0 = (videoCustomInitialize videoCodec).isSome := by
  have := limits.video_nonneg
  cases videoCodec <;> simp [sbMediaIsVideoSupported, videoCustomInitialize, this]

end MediaLimits

namespace AudioDecoder

theorem setSimple_field (caps : Option Caps) (told : Prop) [Decidable told] (name : String) (value : CapsValue) :
    (if told then Caps.setSimple caps name value else caps) =
      caps.map fun c => { c with fields := c.fields ++ Caps.field told name value } := by
  unfold Caps.setSimple Caps.field
  cases caps <;> split <;> simp

theorem describe_eq (header : AudioHeader) (caps : Option Caps) :
    describe header caps = caps.map fun c => { c with fields := c.fields ++ described header } := by
  simp only [describe, described, setSimple_field]
  cases caps <;> simp

theorem customInitialize_isSome (decoder : AudioDecoder) (audioCodec : AudioCodec) :
    (decoder.customInitialize audioCodec).2.isSome = true ↔
      audioCodec = .aac ∧ decoder.audioSpecificConfig.isSome = true := by
  cases audioCodec with
  | aac => cases config : decoder.audioSpecificConfig <;> simp [customInitialize, config, describe_eq]
  | none | other => simp [customInitialize]

/-! ### Numbers in the caps -/

theorem toInt_setWidth (n : UInt16) : (n.toBitVec.setWidth 32).toInt = n.toNat := by
  have small := n.toNat_lt
  rw [BitVec.toInt_eq_toNat_of_lt (by simp; omega)]
  simp

theorem toInt_eq_iff (n : UInt32) : n.toBitVec.toInt = n.toNat ↔ n.toNat < 2 ^ 31 := by
  have small := n.toNat_lt
  rw [BitVec.toInt_eq_toNat_cond]
  simp only [UInt32.toNat_toBitVec]
  split <;> omega

theorem toInt_bits_iff (n : UInt32) : (n * 8).toBitVec.toInt = 8 * n.toNat ↔ n.toNat < 2 ^ 28 := by
  have small := n.toNat_lt
  have bits : (n * 8).toBitVec.toNat = n.toNat * 8 % 2 ^ 32 := by simp
  rw [BitVec.toInt_eq_toNat_cond, bits]
  split <;> omega

theorem numbers_append (mediaType : String) (fields more : List (String × CapsValue)) :
    Caps.numbers ⟨mediaType, fields ++ more⟩ = Caps.numbers ⟨mediaType, fields⟩ ++ Caps.numbers ⟨mediaType, more⟩ := by
  simp [Caps.numbers]

theorem numbers_field (mediaType name : String) (told : Prop) [Decidable told] (value : BitVec 32) :
    Caps.numbers ⟨mediaType, Caps.field told name (.int value)⟩ = Caps.field told name value.toInt := by
  unfold Caps.field
  split <;> simp [Caps.numbers]

theorem field_append_inj {told : Prop} [Decidable told] {name : String} {m n : Int} {ms ns : List (String × Int)} :
    Caps.field told name m ++ ms = Caps.field told name n ++ ns ↔ (told → m = n) ∧ ms = ns := by
  unfold Caps.field
  split <;> simp [*]

theorem described_told_iff (mediaType : String) (header : AudioHeader) :
    Caps.numbers ⟨mediaType, described header⟩ = header.told ↔
      header.samplesPerSecond.toNat < 2 ^ 31 ∧ header.averageBytesPerSecond.toNat < 2 ^ 28 := by
  have rate : (header.samplesPerSecond ≠ 0 → header.samplesPerSecond.toNat < 2 ^ 31) ↔
      header.samplesPerSecond.toNat < 2 ^ 31 := by
    refine ⟨fun told => ?_, fun small _ => small⟩
    by_cases none : header.samplesPerSecond = 0
    · simp [none]
    · exact told none
  have bitrate : (header.averageBytesPerSecond > 100 → header.averageBytesPerSecond.toNat < 2 ^ 28) ↔
      header.averageBytesPerSecond.toNat < 2 ^ 28 := by
    refine ⟨fun told => ?_, fun small _ => small⟩
    by_cases high : header.averageBytesPerSecond > 100
    · exact told high
    · have := UInt32.le_iff_toNat_le.mp (UInt32.not_lt.mp high)
      simp at this
      omega
  simp only [described, AudioHeader.told, numbers_append, numbers_field, field_append_inj,
    toInt_setWidth, toInt_eq_iff, toInt_bits_iff, rate, bitrate]
  simp

/-- The caps of an AAC stream tell the numbers of its header as they are exactly when the rate fits
into an `int` and so does the bit rate in bits. -/
theorem caps_truthful_iff (header : AudioHeader) {caps : Caps}
    (made : ((construct (some header)).customInitialize .aac).2 = some caps) :
    caps.numbers = ("mpegversion", 4) :: header.told ↔
      header.samplesPerSecond.toNat < 2 ^ 31 ∧ header.averageBytesPerSecond.toNat < 2 ^ 28 := by
  have kept : (construct (some header)).header = header := by cases h : header.audioSpecificConfig with
    | none => simp [construct, h]
    | some bytes => cases bytes <;> simp [construct, h]
  rw [← described_told_iff caps.mediaType]
  cases config : (construct (some header)).audioSpecificConfig with
  | none => simp [customInitialize, config, describe_eq] at made
  | some bytes =>
    simp only [customInitialize, config, describe_eq, Option.map_some, Option.some.injEq, kept] at made
    subst made
    rw [numbers_append]
    simp [Caps.numbers]

theorem caps_truthful_iff_high :
    Caps.numbers ⟨"audio/mpeg",
        [("mpegversion", .int 4), ("framed", .boolean true), ("stream-format", .string "raw"),
          ("codec_data", .buffer [0x12, 0x10]), ("channels", .int 2), ("rate", .int 44100),
          ("bitrate", .int 0x80000000)]⟩ ≠
      ("mpegversion", 4) :: AudioHeader.told ⟨2, 44100, 0x10000000, 0, 0, some [0x12, 0x10]⟩ := by
  intro truthful
  have small := (caps_truthful_iff ⟨2, 44100, 0x10000000, 0, 0, some [0x12, 0x10]⟩ (by decide)).mp truthful
  revert small
  decide

end AudioDecoder

namespace Request
variable (limits : MediaLimits) (request : Request)

def configured : Bool := (request.audioHeader.bind AudioHeader.audioSpecificConfig).any (· ≠ [])

theorem construct_configured :
    (AudioDecoder.construct request.audioHeader).audioSpecificConfig.isSome = request.configured ∧
      (AudioDecoder.construct request.audioHeader).configReferences = if request.configured then 1 else 0 := by
  unfold configured
  cases request.audioHeader with
  | none => exact ⟨rfl, rfl⟩
  | some header =>
    rw [Option.bind_some]
    cases config : header.audioSpecificConfig with
    | none => simp [AudioDecoder.construct, config]
    | some bytes => cases bytes <;> simp [AudioDecoder.construct, config]

theorem creates_iff : request.creates limits = true ↔
    request.window = true ∧ request.outputMode = .punchOut ∧
      limits.sbMediaIsSupported request.videoCodec request.audioCodec none = true ∧
      request.configured = true := by
  have audio := AudioDecoder.customInitialize_isSome (AudioDecoder.construct request.audioHeader) request.audioCodec
  simp only [creates, accepted, initializeDecoders, MediaLimits.outputModeSupported,
    MediaLimits.sbMediaIsSupported, limits.videoSupported_eq, Bool.and_eq_true, decide_eq_true_eq,
    limits.audioSupported_iff, ← request.construct_configured.1]
  cases video : videoCustomInitialize request.videoCodec with
  | none => simp
  | some caps => simp [audio]; tauto

/-- Only an AAC stream passes the reference on to its caps. -/
theorem references_left (accepted : request.accepted limits = true) :
    request.initializeDecoders.1.configReferences ≠ 0 ↔
      request.configured = true ∧ limits.sbMediaIsSupported request.videoCodec request.audioCodec none = false := by
  obtain ⟨kept, one⟩ := request.construct_configured
  simp only [Request.accepted, MediaLimits.outputModeSupported, limits.videoSupported_eq, Bool.and_eq_true]
    at accepted
  obtain ⟨caps, video⟩ := Option.isSome_iff_exists.mp accepted.2.2
  have unsupported : limits.sbMediaIsSupported request.videoCodec request.audioCodec none = false ↔
      request.audioCodec ≠ .aac := by
    rw [MediaLimits.sbMediaIsSupported, limits.videoSupported_eq, accepted.2.2, Bool.and_true,
      ← Bool.not_eq_true, limits.audioSupported_iff]
  rw [unsupported, initializeDecoders, video]
  cases codec : request.audioCodec with
  | aac =>
    cases config : (AudioDecoder.construct request.audioHeader).audioSpecificConfig with
    | none =>
      rw [← kept, config] at one
      simpa [AudioDecoder.customInitialize, config] using one
    | some bytes =>
      rw [← kept, config] at one
      simp [AudioDecoder.customInitialize, config, one]
  | none | other => simp [AudioDecoder.customInitialize, one]

/-- What the platform calls supported is what a player can be created for. Of the accepted requests
those with a supported pair of codecs and a configuration get their player, and those with a
configuration for another audio codec lose its buffer. -/
theorem supported_as_created (videoCodec : VideoCodec) (audioCodec : AudioCodec) (keySystem : Option String) :
    (limits.sbMediaIsSupported videoCodec audioCodec keySystem = true ↔
      ∃ request : Request, request.videoCodec = videoCodec ∧ request.audioCodec = audioCodec ∧
        request.creates limits = true) ∧
    ∀ request : Request, request.videoCodec = videoCodec → request.audioCodec = audioCodec →
      request.accepted limits = true →
        (request.initializeDecoders.2 = true ↔
          limits.sbMediaIsSupported videoCodec audioCodec keySystem = true ∧ request.configured = true) ∧
        (request.initializeDecoders.1.configReferences ≠ 0 ↔
          request.configured = true ∧ limits.sbMediaIsSupported videoCodec audioCodec keySystem = false) := by
  have unread : limits.sbMediaIsSupported videoCodec audioCodec keySystem =
      limits.sbMediaIsSupported videoCodec audioCodec none := rfl
  rw [unread]
  refine ⟨⟨fun supported => ?_, ?_⟩, ?_⟩
  · refine ⟨⟨true, videoCodec, audioCodec, some ⟨2, 44100, 0, 0, 0, some [0x12, 0x10]⟩, .punchOut⟩, rfl, rfl, ?_⟩
    exact (creates_iff limits _).mpr ⟨rfl, rfl, supported, rfl⟩
  · rintro ⟨request, rfl, rfl, created⟩
    exact ((creates_iff limits request).mp created).2.2.1
  · rintro request rfl rfl accepted
    refine ⟨?_, references_left limits request accepted⟩
    have exact_ := creates_iff limits request
    rw [creates, accepted, Bool.true_and] at exact_
    simp only [Request.accepted, MediaLimits.outputModeSupported, Bool.and_eq_true, decide_eq_true_eq] at accepted
    rw [exact_]
    simp [accepted]

end Request
end CobaltWayland
