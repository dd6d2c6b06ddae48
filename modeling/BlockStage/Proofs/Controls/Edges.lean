import BlockStage.Controls.Button
import BlockStage.Proofs.Controls.Switches

/-!
# Presses and releases of a button

A button tells in which batch of events it began or ended to be pressed. `Button.turned` is the button after
a batch, and `Button.update_react` what it does when time passes. Where time passes once after each batch,
the callbacks of presses and releases are called in turn: `Button.run_frames`.
-/

namespace BlockStage.Controls.Button

/-! ## A batch, and some time -/

section Reactions

variable {α : Type} [Arith α]

/-- Whether the button was released a short time ago. -/
def soon (b : Button α) : Bool := (do Arith.lt b.lastPress (← doublePressTime?)).toOption == some true

/-- The button after a batch that leaves its sensors so. -/
def turned (b : Button α) (held : Held) : Button α :=
  match b.pressed, decide (0 < held.count) with
  | false, true =>
    { b.quiet with
      held := held, pressTime := Arith.ofInt 0, justPressed := true, justDoublePressed := b.soon }
  | true, false =>
    { b.quiet with
      held := held, lastPress := Arith.ofInt 0, justReleased := true, repeats := b.rewound }
  | _, _ => { b.quiet with held := held }

theorem actualise_react {b : Button α} {events : List Event} {held : Held} {double : Bool}
    (sensed : b.held.senseAll events = (held, none))
    (timed : (do Arith.lt b.lastPress (← doublePressTime?)) = .ok double) :
    (actualise events).react b = (.ok (), b.turned held, []) := by
  have quiet : b.quiet.held.senseAll events = (held, none) := sensed
  have soon : b.soon = double := by rw [soon, timed]; cases double <;> rfl
  have asked : ({ b.quiet with held := held } : Button α).doublePressed? =
      .ok (decide (0 < held.count) && double) := by
    unfold doublePressed? pressed
    by_cases now : 0 < held.count
    · simp only [now, decide_true, if_true, Bool.true_and]
      exact timed
    · simp only [now, decide_false, Bool.false_and]
      rfl
  have before : b.quiet.pressed = b.pressed := rfl
  have after : ({ b.quiet with held := held } : Button α).pressed = decide (0 < held.count) := rfl
  have rewound : ({ b.quiet with held := held } : Button α).rewound = b.rewound := rfl
  simp only [actualise, Reaction.react_bind, Reaction.react_change, Reaction.react_state, quiet, before, after]
  cases was : b.pressed <;> cases now : decide (0 < held.count) <;> cases double
  case false.true.false =>
    -- A single press: that of a double one is no longer told since the batch before.
    simp [turned, was, now, asked, soon, Reaction.react_bind]
    rfl
  all_goals simp [turned, was, now, asked, soon, rewound, Reaction.react_bind]

theorem update_react {b : Button α} {dt lastPress pressTime : α} (last : Arith.add b.lastPress dt = .ok lastPress)
    (press : Arith.add b.pressTime dt = .ok pressTime) : (update dt).react b =
      if b.pressed then
        let r := callRepeats pressTime b.repeats
        (r.2.2.elim (.ok ()) .error,
          { b with lastPress := lastPress, pressTime := pressTime, dt := dt, repeats := r.1 }, b.due ++ r.2.1)
      else (.ok (), { b with lastPress := lastPress, dt := dt }, b.due) := by
  have due : ∀ press, ({ b with lastPress := lastPress, pressTime := press, dt := dt } : Button α).due = b.due :=
    fun _ => rfl
  have still : ∀ press time, ({ b with lastPress := lastPress, pressTime := press, dt := time } : Button α).pressed =
      b.pressed := fun _ _ => rfl
  simp only [update, Reaction.react_bind, Reaction.react_change, Reaction.react_state, Reaction.react_ofExcept, last]
  cases now : b.pressed
  · simp [Reaction.react_bind, still, due, now]
  · rcases hr : callRepeats pressTime b.repeats with ⟨repeats, called, _ | f⟩ <;>
      simp [Reaction.react_bind, still, due, now, press, hr]

theorem callRepeats_callbacks (pressTime : α) (repeats : List (Repeat α)) :
    (callRepeats pressTime repeats).1.map (·.callback) = repeats.map (·.callback) ∧
      ∀ c ∈ (callRepeats pressTime repeats).2.1, c ∈ repeats.map (·.callback) := by
  induction repeats with
  | nil => exact ⟨rfl, nofun⟩
  | cons r rest ih =>
    obtain ⟨same, called⟩ := ih
    unfold callRepeats
    split
    · exact ⟨rfl, nofun⟩
    · exact ⟨congrArg (r.callback :: ·) same, fun c hc => .tail _ (called c hc)⟩
    · refine ⟨congrArg (r.callback :: ·) same, fun c hc => ?_⟩
      rcases List.mem_cons.1 hc with rfl | hc
      · exact .head _
      · exact .tail _ (called c hc)

end Reactions

/-! ## Times -/

end Button

/-- A time that is kept: it begins at zero, and is a double once time has passed. -/
def IsClock (v : Value) : Prop := v = Value.int 0 ∨ ∃ x, v = Value.float x

theorem IsClock.add {v : Value} (h : IsClock v) (dt : Float) :
    ∃ x, Value.add? v (Value.float dt) = .ok (Value.float x) := by
  rcases h with rfl | ⟨x, rfl⟩ <;> exact ⟨_, rfl⟩

theorem IsClock.lt {v : Value} (h : IsClock v) (limit : Float) :
    ∃ b, Value.lt? v (Value.float limit) = .ok b := by
  rcases h with rfl | ⟨x, rfl⟩ <;> exact ⟨_, rfl⟩

namespace Button

theorem doublePressTime?_eq : ∃ x, (doublePressTime? : Except Fault Value) = .ok (Value.float x) := ⟨_, rfl⟩

theorem timed (b : Button Value) (clock : IsClock b.lastPress) :
    ∃ double, (do Arith.lt b.lastPress (← doublePressTime?)) = .ok double := by
  obtain ⟨limit, hlimit⟩ := doublePressTime?_eq
  rw [hlimit]
  exact clock.lt limit

/-! ## Runs -/

/-- What is done with a button: it reads a batch of events, or lets time pass. -/
inductive Use where
  | read (batch : List Event)
  | pass (dt : Float)

def Use.react : Use → Reaction (Button Value) String Unit
  | .read batch => actualise batch
  | .pass dt => update (Value.float dt)

def Use.events : Use → List Event
  | .read batch => batch
  | .pass _ => []

def stream (uses : List Use) : List Event := uses.flatMap Use.events

theorem wellFormed_stream_cons {u : Use} {rest : List Use} (h : ∀ e ∈ stream (u :: rest), e.WellFormed) :
    (∀ e ∈ u.events, e.WellFormed) ∧ ∀ e ∈ stream rest, e.WellFormed :=
  List.forall_mem_append.1 (by simpa [stream] using h)

/-- The button after some uses, and what came of each one: whether it failed, and what was called. -/
def run : List Use → Button Value → Button Value × List (Except Fault Unit × List String)
  | [], b => (b, [])
  | u :: rest, b =>
    let (answer, b, called) := u.react.react b
    let (b, more) := run rest b
    (b, (answer, called) :: more)

/-- A button that has read this stream of events with these sensors. -/
structure Heard (sensors : List Sensor) (stream : List Event) (b : Button Value) : Prop where
  held : b.held = Held.after sensors stream
  lastPress : IsClock b.lastPress
  pressTime : IsClock b.pressTime

section Steps

variable {sensors : List Sensor} {events : List Event} {b : Button Value}

theorem Heard.pressed (h : b.Heard sensors events) : b.pressed = sensors.any (·.isDown events) := by
  rw [Button.pressed, h.held, Held.count_after, Bool.eq_iff_iff]
  simp

theorem pressed_turned {α : Type} [Arith α] (b : Button α) (held : Held) : (b.turned held).held = held := by
  unfold turned
  split <;> rfl

theorem Heard.read (h : b.Heard sensors events) (switches : ∀ s ∈ sensors, s.IsSwitch) {batch : List Event}
    (formed : ∀ e ∈ batch, e.WellFormed) :
    (actualise batch).react b = (.ok (), b.turned (Held.after sensors (events ++ batch)), []) ∧
      (b.turned (Held.after sensors (events ++ batch))).Heard sensors (events ++ batch) := by
  obtain ⟨double, timed⟩ := b.timed h.lastPress
  refine ⟨actualise_react (by rw [h.held, Held.senseAll_after switches formed]) timed, ?_⟩
  unfold turned
  split
  · exact ⟨rfl, h.lastPress, .inl rfl⟩
  · exact ⟨rfl, .inl rfl, h.pressTime⟩
  · exact ⟨rfl, h.lastPress, h.pressTime⟩

theorem Heard.pass (h : b.Heard sensors events) (dt : Float) :
    ((update (Value.float dt)).react b).2.1.Heard sensors events := by
  obtain ⟨lastPress, last⟩ := h.lastPress.add dt
  obtain ⟨pressTime, press⟩ := h.pressTime.add dt
  rw [update_react last press]
  split
  · exact ⟨h.held, .inr ⟨_, rfl⟩, .inr ⟨_, rfl⟩⟩
  · exact ⟨h.held, .inr ⟨_, rfl⟩, h.pressTime⟩

theorem Heard.react (h : b.Heard sensors events) (switches : ∀ s ∈ sensors, s.IsSwitch) (u : Use)
    (formed : ∀ e ∈ u.events, e.WellFormed) : (u.react.react b).2.1.Heard sensors (events ++ u.events) := by
  cases u with
  | read batch =>
    have formed : ∀ e ∈ batch, e.WellFormed := formed
    obtain ⟨done, heard⟩ := h.read switches formed
    rw [Use.react, done]
    exact heard
  | pass dt => rw [Use.events, List.append_nil]; exact h.pass dt

theorem Heard.run (switches : ∀ s ∈ sensors, s.IsSwitch) (uses : List Use) : ∀ {b : Button Value} {events : List Event},
    b.Heard sensors events → (∀ e ∈ stream uses, e.WellFormed) →
    (b.run uses).1.Heard sensors (events ++ stream uses) := by
  induction uses with
  | nil => exact fun h _ => by rw [stream, List.flatMap_nil, List.append_nil]; exact h
  | cons u rest ih =>
    intro b events h formed
    rw [stream, List.flatMap_cons, ← List.append_assoc]
    obtain ⟨first, others⟩ := wellFormed_stream_cons formed
    exact ih (h.react switches u first) others

/-! ## Edges -/

theorem edges_turned (b : Button Value) (held : Held) :
    ((b.turned held).justPressed ↔ ¬b.pressed ∧ (b.turned held).pressed) ∧
      ((b.turned held).justReleased ↔ b.pressed ∧ ¬(b.turned held).pressed) := by
  have now : (b.turned held).pressed = decide (0 < held.count) := by rw [Button.pressed, pressed_turned]
  rw [now]
  unfold turned
  cases was : b.pressed <;> cases decide (0 < held.count) <;> simp [quiet]

end Steps

/-! ## Callbacks -/

def registered (b : Button Value) : Occasion → List String
  | .always => b.always
  | .press => b.onPress
  | .release => b.onRelease
  | .doublePress => b.onDoublePress

/-- A callback that is registered for this occasion and for no other one. -/
structure Reserves (b : Button Value) (o : Occasion) (c : String) : Prop where
  once : (b.registered o).count c = 1
  others : ∀ o', o' ≠ o → c ∉ b.registered o'
  repeats : c ∉ b.repeats.map (·.callback)

/-- Buttons with the same callbacks. -/
def SameCallbacks (b b' : Button Value) : Prop :=
  b'.registered = b.registered ∧ b'.repeats.map (·.callback) = b.repeats.map (·.callback)

theorem SameCallbacks.reserves {b b' : Button Value} (same : b.SameCallbacks b') {o : Occasion} {c : String}
    (h : b.Reserves o c) : b'.Reserves o c :=
  ⟨same.1 ▸ h.once, same.1 ▸ h.others, same.2 ▸ h.repeats⟩

theorem sameCallbacks_turned (b : Button Value) (held : Held) : b.SameCallbacks (b.turned held) := by
  unfold turned
  split
  · exact ⟨funext fun o => by cases o <;> rfl, rfl⟩
  · exact ⟨funext fun o => by cases o <;> rfl, by simp [rewound]⟩
  · exact ⟨funext fun o => by cases o <;> rfl, rfl⟩

theorem filter_once {l : List String} {p r : String} (once : l.count p = 1) (none : r ∉ l) :
    l.filter (fun c => c == p || c == r) = [p] := by
  have only : l.filter (fun c => c == p || c == r) = l.filter (· == p) :=
    List.filter_congr fun c hc => by simp [ne_of_mem_of_not_mem hc none]
  rw [only, List.filter_beq, once]
  rfl

theorem filter_none {l : List String} {p r : String} (noPress : p ∉ l) (noRelease : r ∉ l) :
    l.filter (fun c => c == p || c == r) = [] :=
  List.filter_eq_nil_iff.2 fun c hc => by
    simp [ne_of_mem_of_not_mem hc noPress, ne_of_mem_of_not_mem hc noRelease]

section Frames

variable {sensors : List Sensor} {events : List Event} {b : Button Value} {p r : String}

theorem filter_due (press : b.Reserves .press p) (release : b.Reserves .release r) :
    b.due.filter (fun c => c == p || c == r) =
      (if b.justPressed then [p] else []) ++ (if b.justReleased then [r] else []) := by
  have always := filter_none (press.others .always nofun) (release.others .always nofun)
  have double := filter_none (press.others .doublePress nofun) (release.others .doublePress nofun)
  have pressed := filter_once press.once (release.others .press nofun)
  have released := filter_once release.once (press.others .release nofun)
  simp only [Bool.or_comm] at released
  simp only [registered] at always double pressed released
  rw [due, List.filter_append, List.filter_append, List.filter_append, always]
  cases b.justPressed <;> cases b.justDoublePressed <;> cases b.justReleased <;>
    simp [pressed, double, released]

/-- Some time passes: the callbacks stay, and those that are called first are due. -/
theorem Heard.called (h : b.Heard sensors events) (dt : Float) :
    b.SameCallbacks ((update (Value.float dt)).react b).2.1 ∧
      ∃ more, ((update (Value.float dt)).react b).2.2 = b.due ++ more ∧
        ∀ c ∈ more, c ∈ b.repeats.map (·.callback) := by
  obtain ⟨lastPress, last⟩ := h.lastPress.add dt
  obtain ⟨pressTime, press⟩ := h.pressTime.add dt
  obtain ⟨same, only⟩ := callRepeats_callbacks (Value.float pressTime) b.repeats
  rw [update_react last press]
  split
  · exact ⟨⟨funext fun o => by cases o <;> rfl, same⟩, _, rfl, only⟩
  · exact ⟨⟨funext fun o => by cases o <;> rfl, rfl⟩, [], (List.append_nil _).symm, nofun⟩

def frames (fs : List (List Event × Float)) : List Use := fs.flatMap fun f => [.read f.1, .pass f.2]

def called (outcomes : List (Except Fault Unit × List String)) : List String := outcomes.flatMap (·.2)

theorem called_run_cons (u : Use) (rest : List Use) (b : Button Value) :
    called (b.run (u :: rest)).2 = (u.react.react b).2.2 ++ called ((u.react.react b).2.1.run rest).2 := by
  simp only [called, run, List.flatMap_cons]

/-- So many calls, of the two in turn. -/
def alternating (p r : String) : Nat → List String
  | 0 => []
  | n + 1 => p :: alternating r p n

/-- How often it changes from batch to batch whether one of the sensors is held. -/
def turns (sensors : List Sensor) (events : List Event) : List (List Event) → Nat
  | [] => 0
  | batch :: rest =>
    turns sensors (events ++ batch) rest +
      if sensors.any (·.isDown events) = sensors.any (·.isDown (events ++ batch)) then 0 else 1

theorem run_frames (switches : ∀ s ∈ sensors, s.IsSwitch) (fs : List (List Event × Float)) :
    ∀ {b : Button Value} {events : List Event}, b.Heard sensors events → (∀ f ∈ fs, ∀ e ∈ f.1, e.WellFormed) →
    b.Reserves .press p → b.Reserves .release r →
    (called (b.run (frames fs)).2).filter (fun c => c == p || c == r) =
      if b.pressed then alternating r p (turns sensors events (fs.map (·.1)))
      else alternating p r (turns sensors events (fs.map (·.1))) := by
  induction fs with
  | nil => intro b _ _ _ _ _; cases b.pressed <;> rfl
  | cons f rest ih =>
    intro b events h formed press release
    obtain ⟨done, turned⟩ := h.read switches (formed f (.head _))
    obtain ⟨justPressed, justReleased⟩ := edges_turned b (Held.after sensors (events ++ f.1))
    have kept := sameCallbacks_turned b (Held.after sensors (events ++ f.1))
    generalize b.turned (Held.after sensors (events ++ f.1)) = b1 at done turned justPressed justReleased kept
    obtain ⟨same, more, passed, repeated⟩ := turned.called f.2
    have heard := turned.pass f.2
    have none : more.filter (fun c => c == p || c == r) = [] :=
      filter_none (fun hp => (kept.reserves press).repeats (repeated p hp))
        fun hr => (kept.reserves release).repeats (repeated r hr)
    have others := ih heard (fun f' hf => formed f' (.tail _ hf)) (same.reserves (kept.reserves press))
      (same.reserves (kept.reserves release))
    show (called (b.run (.read f.1 :: .pass f.2 :: frames rest)).2).filter _ = _
    rw [called_run_cons, called_run_cons]
    simp only [Use.react, done, List.nil_append, passed, List.filter_append, none, List.append_nil, others,
      filter_due (kept.reserves press) (kept.reserves release), List.map_cons, turns]
    rw [heard.pressed, ← turned.pressed, ← h.pressed]
    cases was : b.pressed <;> cases now : b1.pressed <;> simp [was, now] at justPressed justReleased <;>
      simp [justPressed, justReleased, alternating]

end Frames

/-! ## The order of the sensors -/

section Order

variable {sensors sensors' : List Sensor} {events : List Event} {b : Button Value}

/-- The button with its sensors held so. -/
def holding (b : Button Value) (held : Held) : Button Value := { b with held := held }

theorem turned_holding {h held held' : Held} (before : (b.holding h).pressed = b.pressed)
    (after : decide (0 < held'.count) = decide (0 < held.count)) :
    (b.holding h).turned held' = (b.turned held).holding held' := by
  unfold turned
  rw [before, after]
  cases b.pressed <;> cases decide (0 < held.count) <;> rfl

theorem Heard.holding (h : b.Heard sensors events) (sensors' : List Sensor) :
    (b.holding (Held.after sensors' events)).Heard sensors' events :=
  ⟨rfl, h.lastPress, h.pressTime⟩

theorem Heard.react_holding (h : b.Heard sensors events) (switches : ∀ s ∈ sensors, s.IsSwitch)
    (order : sensors'.Perm sensors) (u : Use) (formed : ∀ e ∈ u.events, e.WellFormed) :
    u.react.react (b.holding (Held.after sensors' events)) =
      ((u.react.react b).1, (u.react.react b).2.1.holding (Held.after sensors' (events ++ u.events)),
        (u.react.react b).2.2) := by
  have h' := h.holding sensors'
  have pressed : (b.holding (Held.after sensors' events)).pressed = b.pressed := by
    rw [h'.pressed, h.pressed, order.any_eq]
  cases u with
  | read batch =>
    have formed : ∀ e ∈ batch, e.WellFormed := formed
    have after : decide (0 < (Held.after sensors' (events ++ batch)).count) =
        decide (0 < (Held.after sensors (events ++ batch)).count) := by
      rw [Held.count_after, Held.count_after, order.countP_eq]
    rw [Use.react, (h.read switches formed).1, (h'.read (fun s hs => switches s (order.subset hs)) formed).1,
      turned_holding pressed after]
    rfl
  | pass dt =>
    obtain ⟨lastPress, last⟩ := h.lastPress.add dt
    obtain ⟨pressTime, press⟩ := h.pressTime.add dt
    rw [Use.react, Use.events, List.append_nil,
      update_react (b := b.holding (Held.after sensors' events)) last press, update_react last press, pressed]
    cases b.pressed <;> rfl

theorem Heard.run_holding (switches : ∀ s ∈ sensors, s.IsSwitch) (order : sensors'.Perm sensors) (uses : List Use) :
    ∀ {b : Button Value} {events : List Event}, b.Heard sensors events → (∀ e ∈ stream uses, e.WellFormed) →
    (b.holding (Held.after sensors' events)).run uses =
      ((b.run uses).1.holding (Held.after sensors' (events ++ stream uses)), (b.run uses).2) := by
  induction uses with
  | nil => exact fun h _ => by rw [stream, List.flatMap_nil, List.append_nil]; rfl
  | cons u rest ih =>
    intro b events h formed
    obtain ⟨first, later⟩ := wellFormed_stream_cons formed
    have others := ih (h.react switches u first) later
    rw [List.append_assoc] at others
    simp only [Button.run, h.react_holding switches order u first, others]
    rfl

end Order

/-! ## Buttons that are used -/

/-- A button that was made of these sensors and has been given callbacks. -/
inductive Made (sensors : List Sensor) : Button Value → Prop
  | create (never : Float) : Made sensors (create (Value.float never) sensors)
  | register {b : Button Value} (o : Occasion) (c : String) : Made sensors b → Made sensors (b.register o c)
  | registerRepeated {b : Button Value} (c : String) (delay : Value) :
    Made sensors b → Made sensors (b.registerRepeated c delay)
  | remove {b : Button Value} (c : String) : Made sensors b → Made sensors (b.remove c)

theorem Made.heard {sensors : List Sensor} {b : Button Value} (made : b.Made sensors) : b.Heard sensors [] := by
  induction made with
  | create never => exact ⟨rfl, .inr ⟨never, rfl⟩, .inl rfl⟩
  | register o c _ ih => cases o <;> exact ⟨ih.held, ih.lastPress, ih.pressTime⟩
  | registerRepeated c delay _ ih => exact ⟨ih.held, ih.lastPress, ih.pressTime⟩
  | remove c _ ih => exact ⟨ih.held, ih.lastPress, ih.pressTime⟩

/-- A button is pressed while the last event that one of its switches matches was a press, and tells the batches
in which that began or ended. Where time passes once after each batch, a callback of presses and one of releases
are called in turn, once for every such batch. -/
theorem follows_switches {sensors : List Sensor} (switches : ∀ s ∈ sensors, s.IsSwitch) {b : Button Value}
    (made : b.Made sensors) : (∀ uses, (∀ e ∈ stream uses, e.WellFormed) →
      ((b.run uses).1.pressed ↔ ∃ s ∈ sensors, s.isDown (stream uses))) ∧
    (∀ uses batch, (∀ e ∈ stream uses ++ batch, e.WellFormed) →
      ∃ after, (actualise batch).react (b.run uses).1 = (.ok (), after, []) ∧
        (after.justPressed ↔ ¬(b.run uses).1.pressed ∧ after.pressed) ∧
        (after.justReleased ↔ (b.run uses).1.pressed ∧ ¬after.pressed)) ∧
    (∀ fs p r, (∀ f ∈ fs, ∀ e ∈ f.1, e.WellFormed) → b.Reserves .press p → b.Reserves .release r →
      (called (b.run (frames fs)).2).filter (fun c => c == p || c == r) =
        alternating p r (turns sensors [] (fs.map (·.1)))) ∧
    (∀ uses sensors', sensors'.Perm sensors → (∀ e ∈ stream uses, e.WellFormed) →
      (b.holding (Held.released sensors')).run uses =
        ((b.run uses).1.holding (Held.after sensors' (stream uses)), (b.run uses).2)) := by
  refine ⟨fun uses formed => ?_, fun uses batch formed => ?_, fun fs p r formed press release => ?_,
    fun uses sensors' order formed => Heard.run_holding switches order uses made.heard formed⟩
  · have heard := Heard.run switches uses made.heard formed
    rw [heard.pressed, List.any_eq_true]
    rfl
  · have heard := Heard.run switches uses made.heard fun e he => formed e (List.mem_append_left _ he)
    obtain ⟨done, -⟩ := heard.read switches fun e he => formed e (List.mem_append_right _ he)
    exact ⟨_, done, edges_turned _ _⟩
  · have idle : b.pressed = false := by rw [made.heard.pressed]; simp [Sensor.isDown]
    have turn := run_frames switches fs made.heard formed press release
    rwa [idle] at turn

def keyDown (code : Int) : Event := ⟨[("type", Value.int Event.keyDown), ("key", Value.int code)]⟩

def keyUp (code : Int) : Event := ⟨[("type", Value.int Event.keyUp), ("key", Value.int code)]⟩

theorem wellFormed_keyDown (code : Int) : (keyDown code).WellFormed := .of_key rfl rfl rfl rfl

theorem wellFormed_keyUp (code : Int) : (keyUp code).WellFormed := .of_key rfl rfl rfl rfl

def ofTwoKeys : Button Value :=
  ((create (Value.float 0) [.key (Value.int 97), .key (Value.int 98)]).register .press "down").register .release "up"

/-- The second key goes down before the first one is up again, so there is one press and one release. -/
theorem follows_switches_ofTwoKeys : (called (ofTwoKeys.run (frames
      [([keyDown 97], 0.5), ([keyDown 98, keyUp 97], 0.5), ([], 0.25), ([keyUp 98], 0.5)])).2).filter
        (fun c => c == "down" || c == "up") = ["down", "up"] := by
  have switches : ∀ s ∈ [Sensor.key (Value.int 97), .key (Value.int 98)], s.IsSwitch := by
    intro s hs
    simp only [List.mem_cons, List.not_mem_nil, or_false] at hs
    rcases hs with rfl | rfl <;> exact .key _
  have made : ofTwoKeys.Made [.key (Value.int 97), .key (Value.int 98)] :=
    .register _ _ (.register _ _ (.create 0))
  refine (follows_switches switches made).2.2.1 _ "down" "up" ?_ ?_ ?_
  · simp [wellFormed_keyDown, wellFormed_keyUp]
  · exact ⟨rfl, fun o ho => by cases o <;> simp_all [ofTwoKeys, create, register, registered], List.not_mem_nil⟩
  · exact ⟨rfl, fun o ho => by cases o <;> simp_all [ofTwoKeys, create, register, registered], List.not_mem_nil⟩

/-- Where time passes twice after a batch, the press is told twice. -/
theorem two_passes_tell_twice :
    called (ofTwoKeys.run [.read [keyDown 97], .pass 0.5, .pass 0.5]).2 = ["down", "down"] := rfl

end BlockStage.Controls.Button
