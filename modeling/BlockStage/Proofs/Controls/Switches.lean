import BlockStage.Controls.Sensor

/-!
# Switches and the events they have heard

A switch is held if the last event that it matches was a press (`Sensor.isDown`). Reading well-formed events
never fails, and what is read of a batch is what the stream so far says: `Held.senseAll_after`.
-/

namespace BlockStage

/-! ## Events -/

/-- A number that is a double, or fits into one. -/
def Value.IsReal (v : Value) : Prop := ∃ n x, v = .num n ∧ n.toFloat? = .ok x

/-- An event that has the details which belong to its kind. -/
structure Event.WellFormed (e : Event) : Prop where
  key : e.isKind keyDown ∨ e.isKind keyUp → ∃ code, e.detail? "key" = .ok code
  pad : e.isKind padDown ∨ e.isKind padUp →
    ∃ pad button, e.detail? "joy" = .ok pad ∧ e.detail? "button" = .ok button
  stick : e.isKind stickMoved → ∃ pad axis v,
    e.detail? "joy" = .ok pad ∧ e.detail? "axis" = .ok axis ∧ e.detail? "value" = .ok v ∧ v.IsReal

theorem Event.WellFormed.of_key {e : Event} {code : Value} (key : e.detail? "key" = .ok code)
    (down : e.isKind padDown = false) (up : e.isKind padUp = false) (moved : e.isKind stickMoved = false) :
    e.WellFormed := ⟨fun _ => ⟨code, key⟩, by simp [down, up], by simp [moved]⟩

namespace Controls

/-- The sensors that are switches. An axis is one above or below a threshold that is a number. -/
inductive Sensor.IsSwitch : Sensor → Prop
  | key (code : Value) : IsSwitch (.key code)
  | padButton (button pad : Value) : IsSwitch (.padButton button pad)
  | lever (axis : Value) (threshold : Number) (above pad : Value) :
    IsSwitch (.lever axis (.num threshold) above pad)
  | closing : IsSwitch .closing

namespace Sensor

variable {s : Sensor} {e : Event} {stream : List Event}

theorem concerns?_ok {down up : Int} {details : List (String × Value)}
    (has : e.isKind down ∨ e.isKind up → ∀ d ∈ details, ∃ v, e.detail? d.1 = .ok v) :
    ∃ b, concerns? e down up details = .ok b := by
  have looks : ∀ ok : Bool, (∀ d ∈ details, ∃ v, e.detail? d.1 = .ok v) →
      ∃ b, details.foldlM (fun ok d => do
        if ok then return (← e.detail? d.1).same d.2 else return false) ok = .ok b := by
    clear has
    induction details with
    | nil => exact fun ok _ => ⟨ok, rfl⟩
    | cons d rest ih =>
      intro ok has
      obtain ⟨v, hv⟩ := has d (.head _)
      obtain ⟨b, hb⟩ := ih (ok && v.same d.2) fun d' hd => has d' (.tail _ hd)
      refine ⟨b, ?_⟩
      rw [List.foldlM_cons, ← hb]
      cases ok
      · rfl
      · rw [if_pos rfl, hv]
        rfl
  unfold concerns?
  split
  · next kind => exact looks true (has (by simpa using kind))
  · exact ⟨false, rfl⟩

theorem kind_of_concerns? {down up : Int} {details : List (String × Value)}
    (h : concerns? e down up details = .ok true) : e.isKind down ∨ e.isKind up := by
  unfold concerns? at h
  split at h
  · next kind => simpa using kind
  · cases h

theorem concerns?_two {down up : Int} {first second : String} {v w : Value}
    (has : e.isKind down ∨ e.isKind up → ∃ v' w', e.detail? first = .ok v' ∧ e.detail? second = .ok w') :
    ∃ b, concerns? e down up [(first, v), (second, w)] = .ok b := by
  refine concerns?_ok fun kind d hd => ?_
  obtain ⟨v', w', hv, hw⟩ := has kind
  simp only [List.mem_cons, List.not_mem_nil, or_false] at hd
  rcases hd with rfl | rfl
  · exact ⟨v', hv⟩
  · exact ⟨w', hw⟩

theorem concerns?_stick (formed : e.WellFormed) (pad axis : Value) :
    ∃ b, concerns? e Event.stickMoved Event.stickMoved [("joy", pad), ("axis", axis)] = .ok b :=
  concerns?_two fun kind => by
    obtain ⟨j, a, _, hj, ha, -⟩ := formed.stick (kind.elim id id)
    exact ⟨j, a, hj, ha⟩

/-- Whether the sensor matches an event, and whether the event presses it. -/
def hears (s : Sensor) (e : Event) : Bool := (s.matches? e).toOption == some true

def presses (s : Sensor) (e : Event) : Bool := (s.pressed? e).toOption == some true

theorem IsSwitch.matches? (h : s.IsSwitch) (formed : e.WellFormed) : s.matches? e = .ok (s.hears e) := by
  have answers : ∃ b, s.matches? e = .ok b := by
    cases h with
    | key code =>
      refine concerns?_ok fun kind d hd => ?_
      rw [List.mem_singleton.1 hd]
      exact formed.key kind
    | padButton button pad => exact concerns?_two formed.pad
    | lever axis threshold above pad => exact concerns?_stick formed pad axis
    | closing => exact ⟨_, rfl⟩
  obtain ⟨b, hb⟩ := answers
  rw [hears, hb]
  cases b <;> rfl

theorem IsSwitch.pressed? (h : s.IsSwitch) (formed : e.WellFormed) (heard : s.hears e = true) :
    s.pressed? e = .ok (s.presses e) := by
  have answers : ∃ b, s.pressed? e = .ok b := by
    cases h with
    | lever axis threshold above pad =>
      have moved : concerns? e Event.stickMoved Event.stickMoved [("joy", pad), ("axis", axis)] = .ok true := by
        rw [← heard]
        exact (IsSwitch.lever axis threshold above pad).matches? formed
      obtain ⟨_, _, v, -, -, hv, n, x, rfl, -⟩ := formed.stick ((kind_of_concerns? moved).elim id id)
      exact ⟨_, by simp only [Sensor.pressed?, hv]; rfl⟩
    | _ => exact ⟨_, rfl⟩
  obtain ⟨b, hb⟩ := answers
  rw [presses, hb]
  cases b <;> rfl

theorem IsSwitch.reading? (h : s.IsSwitch) (formed : e.WellFormed) :
    s.reading? e = .ok (if s.hears e then some (s.presses e) else none) := by
  unfold Sensor.reading?
  rw [h.matches? formed]
  cases heard : s.hears e
  · rfl
  · simp [h.pressed? formed heard, bind, Except.bind, pure, Except.pure]

/-- Whether the last event that the sensor matches was a press. -/
def isDown (s : Sensor) (stream : List Event) : Bool :=
  (stream.filter s.hears).getLast?.elim false s.presses

theorem isDown_append_singleton (s : Sensor) (stream : List Event) (e : Event) :
    s.isDown (stream ++ [e]) = if s.hears e then s.presses e else s.isDown stream := by
  cases heard : s.hears e <;> simp [isDown, heard]

end Sensor

/-! ## Sensors that are held -/

namespace Held

variable {sensors : List Sensor} {stream events : List Event}

/-- The sensors after a stream of events. -/
def after (sensors : List Sensor) (stream : List Event) : Held := sensors.map fun s => (s, s.isDown stream)

theorem sense_after (switches : ∀ s ∈ sensors, s.IsSwitch) {e : Event} (formed : e.WellFormed) :
    (after sensors stream).sense e = (after sensors (stream ++ [e]), none) := by
  induction sensors with
  | nil => rfl
  | cons s rest ih =>
    have others := ih fun s' hs => switches s' (.tail _ hs)
    simp only [after] at others
    simp only [after, List.map_cons, sense, (switches s (.head _)).reading? formed, others,
      Sensor.isDown_append_singleton]
    cases s.hears e <;> rfl

theorem senseAll_after (switches : ∀ s ∈ sensors, s.IsSwitch) (formed : ∀ e ∈ events, e.WellFormed) :
    (after sensors stream).senseAll events = (after sensors (stream ++ events), none) := by
  induction events generalizing stream with
  | nil => rw [List.append_nil]; rfl
  | cons e rest ih =>
    have others : (after sensors (stream ++ [e])).senseAll rest = (after sensors (stream ++ [e] ++ rest), none) :=
      ih fun e' he => formed e' (.tail _ he)
    rw [senseAll, sense_after switches (formed e (.head _))]
    simpa using others

@[simp] theorem count_after (sensors : List Sensor) (stream : List Event) :
    (after sensors stream).count = sensors.countP (·.isDown stream) := by
  rw [count, after, List.countP_map]
  rfl

end Held

end Controls

end BlockStage
