import CobaltWayland.CallOrder

/-!
The two properties of the video sink that `DoBounds` keeps a copy of. It sets one only when the copy
says that it changes, and that is not visible: the sink gets exactly the changes among the bounds that
the client asks for, in their order.
-/

namespace CobaltWayland

/-- Only `DoBounds` touches the video sink. -/
def Action.onSink : Action → Bool
  | .setZOrder _ | .setWindow .. => true
  | _ => false

def Action.zOrder : Action → Option Int
  | .setZOrder z => some z
  | _ => none

def Action.window : Action → Option (Int × Int × Int × Int)
  | .setWindow x y width height => some (x, y, width, height)
  | _ => none

def Call.bounds : Call → Option (Int × Int × Int × Int × Int)
  | .doBounds z x y width height => some (z, x, y, width, height)
  | _ => none

/-- A property of the sink: its part of the bounds, and what an action sets it to. -/
structure SinkProperty (β : Type) [DecidableEq β] where
  part : Int × Int × Int × Int × Int → β
  set : Action → Option β
  plain : ∀ a : Action, a.onSink = false → set a = none
  planned : ∀ (p : Player) (z x y width height : Int),
    (p.doBounds z x y width height).filterMap set =
      if part p.settings.bounds = part (z, x, y, width, height) then [] else [part (z, x, y, width, height)]

namespace SinkProperty

def zOrder : SinkProperty Int where
  part := Prod.fst
  set := Action.zOrder
  plain := by
    intro a plain
    cases a <;> first | rfl | cases plain
  planned := by
    intro p z x y width height
    have window : (if x = p.lastX ∧ y = p.lastY ∧ width = p.lastWidth ∧ height = p.lastHeight then []
        else [Action.setWindow x y width height]).filterMap Action.zOrder = [] := by
      split <;> rfl
    rw [Player.doBounds, List.filterMap_append, window, List.append_nil]
    by_cases same : z = p.lastZ
    · simp [same, Player.settings]
    · simp [same, Ne.symm same, Player.settings, Action.zOrder]

def window : SinkProperty (Int × Int × Int × Int) where
  part := Prod.snd
  set := Action.window
  plain := by
    intro a plain
    cases a <;> first | rfl | cases plain
  planned := by
    intro p z x y width height
    have order : (if z ≠ p.lastZ then [Action.setZOrder z] else []).filterMap Action.window = [] := by
      split <;> rfl
    rw [Player.doBounds, List.filterMap_append, order, List.nil_append]
    by_cases same : x = p.lastX ∧ y = p.lastY ∧ width = p.lastWidth ∧ height = p.lastHeight
    · simp [same, Player.settings]
    · have changed : ¬ (p.lastX = x ∧ p.lastY = y ∧ p.lastWidth = width ∧ p.lastHeight = height) := by
        rintro ⟨rfl, rfl, rfl, rfl⟩
        exact same ⟨rfl, rfl, rfl, rfl⟩
      simp [same, changed, Player.settings, Action.window]

end SinkProperty

namespace Player
variable {p : Player} {query : Option Int}

theorem SeekAndSpeedDoes.plain {seekTo : Int} {speedTo : ℚ} {a : Action}
    (does : SeekAndSpeedDoes p seekTo speedTo a) : a.onSink = false := by
  cases does <;> rfl

theorem doSeekBody_plain (time : Int) : ∀ a ∈ p.doSeekBody query time, a.onSink = false := by
  intro a h
  cases mem_doSeekBody h with
  | seek _ _ does => exact does.plain
  | record => rfl

theorem doPlaybackRate_plain (rate : ℚ) : ∀ a ∈ p.doPlaybackRate query rate, a.onSink = false := by
  intro a h
  cases mem_doPlaybackRate h with
  | seek _ _ does => exact does.plain
  | pause | storeRate | storePause => rfl

theorem doVolume_plain (volume : ℚ) : ∀ a ∈ p.doVolume volume, a.onSink = false := by
  intro a h
  rw [mem_doVolume h]
  rfl

theorem updatePosition_plain : ∀ a ∈ p.updatePosition query, a.onSink = false := by
  intro a h
  obtain ⟨timestamp, rfl⟩ := mem_updatePosition h
  rfl

theorem gstBusCallback_plain (message : Message) :
    ∀ a ∈ p.gstBusCallback query message, a.onSink = false := by
  intro a h
  cases mem_gstBusCallback h with
  | seek _ _ does => exact does.plain
  | _ => rfl

end Player

namespace System
variable {β : Type} [DecidableEq β] (property : SinkProperty β)

def sets (s : System) (e : Event) : List β :=
  if e.acts then s.worker.todo.head?.toList.filterMap property.set else []

def toSet (s : System) : List β := s.worker.todo.filterMap property.set

variable {property} {s t : System} {e : Event}

theorem filterMap_plain {plan : List Action} (plain : ∀ a ∈ plan, a.onSink = false) :
    plan.filterMap property.set = [] := by
  apply List.filterMap_eq_nil_iff.mpr
  exact fun a listed => property.plain a (plain a listed)

theorem dispatchCall_toSet (query : Option Int) (call : Call) :
    (s.dispatchCall query call).toSet property =
      (call.bounds.map property.part).elim [] fun asked =>
        if property.part s.player.settings.bounds = asked then [] else [asked] := by
  cases call with
  | put | doSeek _ _ => rfl
  | reportInitialized => exact filterMap_plain (by simp [dispatchCall, Worker.todo, Action.onSink])
  | doPlaybackRate rate => exact filterMap_plain (Player.doPlaybackRate_plain rate)
  | doVolume volume => exact filterMap_plain (Player.doVolume_plain volume)
  | doBounds z x y width height => exact property.planned s.player z x y width height

theorem serve_bounds (settings : Settings) (call : Call) :
    (settings.serve call).bounds = call.bounds.getD settings.bounds := by
  cases call <;> rfl

theorem step_sets {cfg : Config} (sound : Sound s) (h : s.step cfg e = some t) (none : s.taken e = []) :
    s.sets property e ++ t.toSet property = s.toSet property := by
  have same : e.acts = false → t.worker = s.worker →
      s.sets property e ++ t.toSet property = s.toSet property := by
    intro quiet worker
    simp [sets, toSet, quiet, worker]
  have free : e.acts = false → s.worker.todo = [] → t.toSet property = [] →
      s.sets property e ++ t.toSet property = s.toSet property := by
    intro quiet before after
    rw [after]
    simp [sets, toSet, quiet, before]
  cases step_cases h with
  | called _ _ _ client | ignored _ client =>
    exact same (by cases e <;> first | rfl | cases client) rfl
  | dispatchedCall idle head => simp [taken, head] at none
  | spawning at_ => exact free rfl (by rw [sound.early (by rw [at_]; rfl)]; rfl) rfl
  | entered created => exact free rfl (by rw [created]; rfl) rfl
  | left idle => exact free rfl (by rw [idle]; rfl) rfl
  | dispatchedMessage idle =>
    exact free rfl (by rw [idle]; rfl) (filterMap_plain (Player.gstBusCallback_plain _))
  | ticked idle => exact free rfl (by rw [idle]; rfl) (filterMap_plain Player.updatePosition_plain)
  | resumed seeking =>
    exact free rfl (by rw [seeking]; rfl) (filterMap_plain (Player.doSeekBody_plain _))
  | @acted calling a todo acting =>
    cases value : property.set a <;> simp [sets, toSet, Event.acts, acting, Worker.todo, value]
  | finished acting => exact free rfl (by rw [acting]; rfl) rfl
  | _ => exact same rfl rfl

theorem queued_bounds (s : System) (e : Event) : (s.queued e).filterMap Call.bounds = e.bounds.toList := by
  rw [queued_filterMap rfl rfl]
  cases e with
  | setPlaybackRate | setVolume =>
    simp only [Event.request]
    split <;> rfl
  | _ => rfl

/-- The bounds asked for so far are those of the calls that have been begun, whose changes are set or
about to be, and those of the calls that wait. -/
structure UpToDate (property : SinkProperty β) (first : β) (past : List Event) (log : List β) (s : System) :
    Prop where
  sound : Sound s
  served : ∃ served, past.filterMap Event.bounds = served ++ s.pending.filterMap Call.bounds ∧
    (served.map property.part).destutter' (· ≠ ·) first = first :: (log ++ s.toSet property) ∧
    property.part s.settled.bounds = (served.map property.part).getLastD first

theorem step_upToDate {cfg : Config} {first : β} {past : List Event} {log : List β}
    (upToDate : UpToDate property first past log s) (h : s.step cfg e = some t) :
    UpToDate property first (past ++ [e]) (log ++ s.sets property e) t := by
  obtain ⟨sound, served, asked, changes, shown⟩ := upToDate
  refine ⟨step_sound sound h, ?_⟩
  have settled := step_settled sound h
  have queue : (s.taken e).filterMap Call.bounds ++ t.pending.filterMap Call.bounds =
      s.pending.filterMap Call.bounds ++ e.bounds.toList := by
    rw [← List.filterMap_append, step_pending sound h, List.filterMap_append, queued_bounds]
  have asked' : (past ++ [e]).filterMap Event.bounds =
      served ++ ((s.taken e).filterMap Call.bounds ++ t.pending.filterMap Call.bounds) := by
    rw [queue, ← List.append_assoc, ← asked, List.filterMap_append]
    rfl
  cases begun : s.taken e with
  | nil =>
    rw [begun] at settled asked'
    refine ⟨served, asked', ?_, by rw [settled]; exact shown⟩
    rw [List.append_assoc, step_sets sound h begun]
    exact changes
  | cons call more =>
    obtain ⟨query, rfl, idle, rfl, rfl⟩ := taken_cons begun h
    have quiet : s.sets property (.dispatchCall query) = [] := rfl
    have free : s.toSet property = [] := by simp [toSet, idle, Worker.todo]
    have plan : (s.dispatchCall query call).toSet property = _ := dispatchCall_toSet query call
    rw [free, List.append_nil] at changes
    rw [settled_free (by rw [idle]; rfl)] at shown
    rw [begun] at settled asked'
    rw [quiet, List.append_nil, plan, settled, List.foldl_cons, List.foldl_nil, serve_bounds,
      settled_free (by rw [idle]; rfl)]
    cases bounds : call.bounds with
    | none =>
      rw [List.filterMap_cons_none bounds] at asked'
      exact ⟨served, asked', by simpa using changes, shown⟩
    | some new =>
      refine ⟨served ++ [new], ?_, ?_, ?_⟩
      · rw [asked', List.filterMap_cons_some bounds, List.append_assoc]
        rfl
      · rw [List.map_append, List.map_singleton, Deferred.destutter'_concat, changes, ← shown]
        rfl
      · rw [List.map_append, List.map_singleton, List.getLastD_concat]
        rfl

theorem run_upToDate (property : SinkProperty β) (cfg : Config) {es : List Event} {t : System}
    (run : Machine.exec (step cfg) (start cfg) es = some t) :
    UpToDate property (property.part (-1, -1, -1, -1, -1)) es
      (Machine.labels (step cfg) (sets property) (start cfg) es) t := by
  refine Machine.exec_logged _ (fun _ _ _ _ _ upToDate h => step_upToDate upToDate h) ?_ run
  exact ⟨start_sound cfg, [], rfl, rfl, rfl⟩

/-- What the property goes through if every value asked for is set at once. -/
def changes (property : SinkProperty β) (es : List Event) : List β :=
  ((es.filterMap Event.bounds).map property.part).destutter' (· ≠ ·) (property.part (-1, -1, -1, -1, -1))

theorem UpToDate.seen {es : List Event} {log : List β}
    (upToDate : UpToDate property (property.part (-1, -1, -1, -1, -1)) es log t) :
    property.part (-1, -1, -1, -1, -1) :: log <+: changes property es := by
  obtain ⟨-, served, asked, changed, -⟩ := upToDate
  have begun : property.part (-1, -1, -1, -1, -1) :: log <+: property.part (-1, -1, -1, -1, -1) ::
      (log ++ t.toSet property) := List.cons_prefix_cons.mpr ⟨rfl, List.prefix_append _ _⟩
  rw [← changed] at begun
  rw [changes, asked, List.map_append]
  exact begun.trans (Deferred.destutter'_grows _ _ _)

theorem UpToDate.seen_all {es : List Event} {log : List β}
    (upToDate : UpToDate property (property.part (-1, -1, -1, -1, -1)) es log t) (idle : t.worker = .idle)
    (calls : t.calls = []) : property.part (-1, -1, -1, -1, -1) :: log = changes property es := by
  obtain ⟨-, served, asked, changed, -⟩ := upToDate
  have drained : t.pending = [] := by simp [pending, serving, idle, calls]
  have planned : t.toSet property = [] := by simp [toSet, idle, Worker.todo]
  rw [drained, List.filterMap_nil, List.append_nil] at asked
  rw [planned, List.append_nil] at changed
  rw [changes, asked, changed]

/-- The z order asked for is always zero. -/
theorem changes_zOrder (es : List Event) : changes .zOrder es <+: [-1, 0] := by
  have zero : ∀ z ∈ (es.filterMap Event.bounds).map Prod.fst, z = 0 := by
    intro z listed
    obtain ⟨bounds, asked, rfl⟩ := List.mem_map.mp listed
    obtain ⟨e, -, given⟩ := List.mem_filterMap.mp asked
    cases e with
    | setBounds z x y width height =>
      obtain rfl := Option.some.inj given
      rfl
    | _ => cases given
  change ((es.filterMap Event.bounds).map Prod.fst).destutter' (· ≠ ·) (-1) <+: [-1, 0]
  rw [List.eq_replicate_of_mem zero]
  exact Deferred.destutter'_replicate (-1) 0 _

/-- In every run the windows that the sink is given are the changes among those the client asks for, in
their order, none of them twice in a row and none left out once the worker has nothing left to do. The
z order is given once. -/
theorem sink_up_to_date (cfg : Config) {es : List Event} {t : System}
    (run : Machine.exec (step cfg) (start cfg) es = some t) :
    (-1, -1, -1, -1) :: Machine.labels (step cfg) (sets .window) (start cfg) es <+: changes .window es ∧
      (t.worker = .idle → t.calls = [] →
        (-1, -1, -1, -1) :: Machine.labels (step cfg) (sets .window) (start cfg) es = changes .window es) ∧
      Machine.labels (step cfg) (sets .zOrder) (start cfg) es <+: [0] := by
  have window := run_upToDate .window cfg run
  have order := (run_upToDate .zOrder cfg run).seen.trans (changes_zOrder es)
  exact ⟨window.seen, window.seen_all, (List.cons_prefix_cons.mp order).2⟩

/-- The second request repeats the first one, and only the first and the third reach the sink. -/
def boundsRepeated : List Event :=
  startup ++
    ([.setBounds 1 0 0 8 6, .setBounds 2 0 0 8 6, .setBounds 3 0 0 4 3, .dispatchCall none, .act, .act, .finish,
      .dispatchCall none, .finish, .dispatchCall none, .act, .finish] : List Event)

theorem sink_up_to_date_replay :
    ∃ t : System, Machine.exec (step ⟨0, true, true, true⟩) (start ⟨0, true, true, true⟩) boundsRepeated = some t ∧
      (-1, -1, -1, -1) ::
          Machine.labels (step ⟨0, true, true, true⟩) (sets .window) (start ⟨0, true, true, true⟩) boundsRepeated =
        [(-1, -1, -1, -1), (0, 0, 8, 6), (0, 0, 4, 3)] := by
  have ends : ((Machine.exec (step ⟨0, true, true, true⟩) (start ⟨0, true, true, true⟩) boundsRepeated).any
      fun t => t.worker = .idle ∧ t.calls = []) = true := by decide +kernel
  obtain ⟨t, run, ended⟩ := (Option.any_eq_true _ _).mp ends
  obtain ⟨idle, served⟩ := of_decide_eq_true ended
  exact ⟨t, run, ((sink_up_to_date _ run).2.1 idle served).trans (by decide +kernel)⟩

end System
end CobaltWayland
