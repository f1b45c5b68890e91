import CobaltWayland.Plans

/-!
The speed that `DoSeekAndSpeed` is asked for. A build with `SB_DCHECK` ends the process when it is below
the threshold. `DoSeek` tests the stored rate before it calls, `DoPlaybackRate` the new one, and the
handler of playbin's first `PAUSED` tests nothing: it relies on the rate stored in `Info`.
-/

namespace CobaltWayland

def Action.AtSpeed : Action → Prop
  | .seek rate _ => rateThreshold ≤ rate
  | _ => True

namespace Player

/-! ### The functions with the check in place

Each gives the actions of its namesake, or `none` where `SB_DCHECK` fires on the way. -/

def doSeekAndSpeedChecked (p : Player) (query : Option Int) (seekTo : Int) (speedTo : ℚ) :
    Option (List Action) :=
  if speedTo ≥ rateThreshold then some (p.doSeekAndSpeed query seekTo speedTo) else none

def doSeekBodyChecked (p : Player) (query : Option Int) (time : Int) : Option (List Action) :=
  let playbackRate := p.info.playbackRate
  if playbackRate ≥ rateThreshold ∧ p.positionUpdateSource then
    p.doSeekAndSpeedChecked query time playbackRate
  else
    some [.recordSeek time]

def doPlaybackRateChecked (p : Player) (query : Option Int) (newRate : ℚ) : Option (List Action) :=
  if p.positionUpdateSource ∧ newRate ≥ rateThreshold then
    p.doSeekAndSpeedChecked query p.lastSeek newRate
  else
    some <| (if p.positionUpdateSource then [.setState .paused] else []) ++
      [.storeInfo (if newRate ≥ rateThreshold then
        { p.info with playbackRate := newRate, isPaused := false }
      else
        { p.info with isPaused := true })]

def prerollChecked (p : Player) (query : Option Int) : Option (List Action) :=
  (if p.info.isPaused then some [] else p.doSeekAndSpeedChecked query p.lastSeek p.info.playbackRate).map
    fun seek =>
      let start := [.attachPositionSource, .reportPlayerState .presenting] ++ seek
      start ++ (p.performAll start).doVolume p.info.volume

def gstBusCallbackChecked (p : Player) (query : Option Int) (message : Message) : Option (List Action) :=
  if message = .stateChanged .playbin .paused ∧ ¬ p.positionUpdateSource then p.prerollChecked query
  else some (p.gstBusCallback query message)

/-! ### The check passes -/

section
variable {p : Player} {query : Option Int}

theorem doSeekAndSpeedChecked_eq {speedTo : ℚ} (fast : rateThreshold ≤ speedTo) (seekTo : Int) :
    p.doSeekAndSpeedChecked query seekTo speedTo = some (p.doSeekAndSpeed query seekTo speedTo) :=
  if_pos fast

theorem doSeekBodyChecked_eq (time : Int) :
    p.doSeekBodyChecked query time = some (p.doSeekBody query time) := by
  simp only [doSeekBodyChecked, doSeekBody]
  split
  · rename_i executed
    exact doSeekAndSpeedChecked_eq executed.1 time
  · rfl

theorem doPlaybackRateChecked_eq (newRate : ℚ) :
    p.doPlaybackRateChecked query newRate = some (p.doPlaybackRate query newRate) := by
  unfold doPlaybackRateChecked doPlaybackRate
  split
  · rename_i executed
    exact doSeekAndSpeedChecked_eq executed.2 p.lastSeek
  · rfl

theorem prerollChecked_eq (rateOk : rateThreshold ≤ p.info.playbackRate) :
    p.prerollChecked query = some (p.preroll query) := by
  unfold prerollChecked preroll
  rw [doSeekAndSpeedChecked_eq rateOk, ← apply_ite some]
  rfl

/-- The handler of the first `PAUSED` is the one place that needs more than its own test. -/
example : ({ lastTicket := 0, videoSink := true, info := { isPaused := false, playbackRate := 0 } } :
    Player).prerollChecked none = none := by
  decide +kernel

theorem gstBusCallbackChecked_eq (rateOk : rateThreshold ≤ p.info.playbackRate) (message : Message) :
    p.gstBusCallbackChecked query message = some (p.gstBusCallback query message) := by
  unfold gstBusCallbackChecked
  split
  · rename_i first
    obtain ⟨rfl, untimed⟩ := first
    rw [prerollChecked_eq rateOk]
    simp [gstBusCallback, untimed]
  · rfl

/-! ### The rates of the seeks -/

theorem SeekAndSpeedDoes.atSpeed {seekTo : Int} {speedTo : ℚ} {a : Action} (fast : rateThreshold ≤ speedTo)
    (does : SeekAndSpeedDoes p seekTo speedTo a) : a.AtSpeed := by
  cases does with
  | seek => exact fast
  | _ => trivial

theorem doSeekBody_atSpeed (time : Int) : ∀ a ∈ p.doSeekBody query time, a.AtSpeed := by
  intro a h
  cases mem_doSeekBody h with
  | seek _ fast does => exact does.atSpeed fast
  | record => trivial

theorem doPlaybackRate_atSpeed (newRate : ℚ) : ∀ a ∈ p.doPlaybackRate query newRate, a.AtSpeed := by
  intro a h
  cases mem_doPlaybackRate h with
  | seek _ fast does => exact does.atSpeed fast
  | _ => trivial

theorem gstBusCallback_atSpeed (rateOk : rateThreshold ≤ p.info.playbackRate) (message : Message) :
    ∀ a ∈ p.gstBusCallback query message, a.AtSpeed := by
  intro a h
  cases mem_gstBusCallback h with
  | seek _ _ does => exact does.atSpeed rateOk
  | _ => trivial

end

end Player

/-- The system in a build with checks: a check that fires ends the process. -/
inductive CheckedSystem where
  | aborted
  | running (system : System)

namespace System

def checkFires (s : System) : Event → Bool
  | .dispatchCall query =>
    (s.calls.head?.bind Call.rate).any fun rate => (s.player.doPlaybackRateChecked query rate).isNone
  | .dispatchMessage query =>
    s.bus.head?.any fun message => (s.player.gstBusCallbackChecked query message).isNone
  | .resume query => s.worker.target.any fun time => (s.player.doSeekBodyChecked query time).isNone
  | _ => false

def stepChecked (cfg : Config) : CheckedSystem → Event → Option CheckedSystem
  | .aborted, _ => none
  | .running s, e => (s.step cfg e).map fun t => if s.checkFires e then .aborted else .running t

theorem checkFires_of_rateOk {s : System} (rateOk : rateThreshold ≤ s.player.info.playbackRate) (e : Event) :
    s.checkFires e = false := by
  cases e with
  | dispatchCall query => simp [checkFires, Player.doPlaybackRateChecked_eq]
  | dispatchMessage query => simp [checkFires, Player.gstBusCallbackChecked_eq rateOk]
  | resume query => simp [checkFires, Player.doSeekBodyChecked_eq]
  | _ => rfl

theorem stepChecked_of_rateOk (cfg : Config) {s : System} (rateOk : rateThreshold ≤ s.player.info.playbackRate)
    (e : Event) : stepChecked cfg (.running s) e = (s.step cfg e).map .running := by
  simp only [stepChecked, checkFires_of_rateOk rateOk, Bool.false_eq_true, if_false]

/-- The build with checks does what the build without does. -/
theorem exec_checked (cfg : Config) (es : List Event) :
    Machine.exec (stepChecked cfg) (.running (start cfg)) es =
      (Machine.exec (step cfg) (start cfg) es).map .running :=
  Machine.exec_map Sound (fun _ _ _ sound h => step_sound sound h)
    (fun _ e sound => stepChecked_of_rateOk cfg sound.rateOk e) (start_sound cfg) es

/-! ### The seeks that are planned -/

structure SpeedInv (s : System) : Prop where
  sound : Sound s
  todo : ∀ a ∈ s.worker.todo, a.AtSpeed

theorem dispatchCall_atSpeed {s : System} (call : Call) (query : Option Int) :
    ∀ a ∈ (s.dispatchCall query call).worker.todo, a.AtSpeed := by
  cases call with
  | put | doSeek => simp [dispatchCall, Worker.todo]
  | reportInitialized => simp [dispatchCall, Worker.todo, Action.AtSpeed]
  | doPlaybackRate rate => exact Player.doPlaybackRate_atSpeed rate
  | doVolume volume =>
    intro a h
    rw [Player.mem_doVolume h]
    trivial
  | doBounds z x y width height =>
    intro a h
    rcases Player.mem_doBounds h with rfl | rfl <;> trivial

theorem step_speedInv {cfg : Config} {s t : System} {e : Event} (inv : SpeedInv s)
    (h : s.step cfg e = some t) : SpeedInv t := by
  refine ⟨step_sound inv.sound h, ?_⟩
  have none : ∀ a ∈ ([] : List Action), a.AtSpeed := by simp
  cases step_cases h with
  | spawning | entered | left | finished => exact none
  | dispatchedCall => exact dispatchCall_atSpeed _ _
  | dispatchedMessage => exact Player.gstBusCallback_atSpeed inv.sound.rateOk _
  | ticked =>
    intro a planned
    obtain ⟨timestamp, rfl⟩ := Player.mem_updatePosition planned
    trivial
  | resumed => exact Player.doSeekBody_atSpeed _
  | @acted calling b todo acting =>
    exact fun a later => inv.todo a (by rw [acting]; exact List.mem_cons_of_mem b later)
  -- the other threads leave the plan of the worker alone
  | _ => exact inv.todo

end System

namespace CheckedSystem

def RateStored : CheckedSystem → Prop
  | .aborted => False
  | .running s => rateThreshold ≤ s.player.info.playbackRate

/-- The `gst_element_seek` that the step issues, if it issues one, has a rate to play at. -/
def SeeksAtSpeed : CheckedSystem → System.Event → Prop
  | .running s, .act => ∀ a ∈ s.worker.todo.head?, a.AtSpeed
  | _, _ => True

def Inv : CheckedSystem → Prop
  | .aborted => False
  | .running s => s.SpeedInv

theorem step_inv {cfg : Config} {c d : CheckedSystem} {e : System.Event} (inv : Inv c)
    (h : System.stepChecked cfg c e = some d) : Inv d := by
  cases c with
  | aborted => exact inv.elim
  | running s =>
    have inv : s.SpeedInv := inv
    rw [System.stepChecked_of_rateOk cfg inv.sound.rateOk] at h
    obtain ⟨t, taken, rfl⟩ := Option.map_eq_some_iff.mp h
    exact System.step_speedInv inv taken

theorem Inv.rateStored {c : CheckedSystem} (inv : Inv c) : RateStored c := by
  cases c with
  | aborted => exact inv
  | running s => exact System.Sound.rateOk (System.SpeedInv.sound inv)

theorem Inv.seeksAtSpeed {c : CheckedSystem} (inv : Inv c) (e : System.Event) : SeeksAtSpeed c e := by
  unfold SeeksAtSpeed
  split
  · exact fun a first => inv.todo a (List.mem_of_mem_head? first)
  · trivial

/-- Whatever the client calls and the bus brings, and however the threads take turns: the check of
`DoSeekAndSpeed` fires in no call, `Info` holds a rate to play at in every state, and so does every
seek that is issued. -/
theorem speed_check_never_fires (cfg : Config) (es : List System.Event) :
    Machine.Throughout (System.stepChecked cfg) RateStored (.running (System.start cfg)) es ∧
      Machine.Along (System.stepChecked cfg) SeeksAtSpeed (.running (System.start cfg)) es := by
  have initial : Inv (.running (System.start cfg)) :=
    ⟨System.start_sound cfg, by simp [System.start, Worker.todo]⟩
  have always : Machine.Along (System.stepChecked cfg) (fun _ _ => True) (.running (System.start cfg)) es :=
    Machine.along_of_forall (fun _ _ => trivial) _
  constructor
  · exact Machine.throughout_of_kept Inv (fun _ _ _ inv h => step_inv inv h) (fun _ inv => inv.rateStored)
      initial es
  · exact Machine.along_of_along Inv (fun _ _ _ inv _ h => step_inv inv h)
      (fun _ e _ inv _ _ => inv.seeksAtSpeed e) initial always

end CheckedSystem
end CobaltWayland
