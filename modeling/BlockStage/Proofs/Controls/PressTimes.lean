import BlockStage.Proofs.Controls.Edges
import BlockStage.Proofs.Motion.Coordinates

/-!
# Times of a button

In exact arithmetic each repeated callback has been called as often as its counter says, and no more often
than its delay allows (`Button.Paced`). The time since the last release, which decides whether a press is a
double press, is minus infinity before the first one (`Button.Since`).
-/

namespace BlockStage.Controls

/-! ## Repeated callbacks -/

/-- Whether the time of a repeated callback has come when the button has been held so long. -/
def Repeat.isDue (pressTime : ℚ) (r : Repeat ℚ) : Bool := r.delay * r.repetitions ≤ pressTime

/-- What is called for a repeated callback at that time. -/
def Repeat.call (pressTime : ℚ) (r : Repeat ℚ) : List String := if r.isDue pressTime then [r.callback] else []

def Repeat.called (pressTime : ℚ) (r : Repeat ℚ) : Repeat ℚ :=
  if r.isDue pressTime then { r with repetitions := r.repetitions + 1 } else r

namespace Button

theorem callRepeats_eq (pressTime : ℚ) (repeats : List (Repeat ℚ)) : callRepeats pressTime repeats =
    (repeats.map (·.called pressTime), repeats.flatMap (·.call pressTime), none) := by
  induction repeats with
  | nil => rfl
  | cons r rest ih =>
    have asked : (do Arith.le (← Arith.mul r.delay (Arith.ofInt r.repetitions)) pressTime : Except Fault Bool) =
        .ok (r.isDue pressTime) := rfl
    rw [callRepeats, asked, ih, List.map_cons, List.flatMap_cons, Repeat.called, Repeat.call]
    cases r.isDue pressTime <;> rfl

theorem timed_exact (b : Button ℚ) : ∃ double, (do Arith.lt b.lastPress (← doublePressTime?)) = .ok double := by
  have limit : (doublePressTime? : Except Fault ℚ) = .ok (1 / 10) := by simp [doublePressTime?, Arith.div, Arith.ofInt]
  rw [limit]
  exact ⟨_, rfl⟩

/-- Time passes: the callbacks that are due are called, and then each repeated callback whose time has come, once. -/
theorem update_exact (b : Button ℚ) (dt : ℚ) : (update dt).react b =
    if b.pressed then (.ok (), { b with
        lastPress := b.lastPress + dt, pressTime := b.pressTime + dt, dt
        repeats := b.repeats.map (·.called (b.pressTime + dt)) },
      b.due ++ b.repeats.flatMap (·.call (b.pressTime + dt)))
    else (.ok (), { b with lastPress := b.lastPress + dt, dt }, b.due) := by
  have last : Arith.add b.lastPress dt = .ok (b.lastPress + dt) := rfl
  have press : Arith.add b.pressTime dt = .ok (b.pressTime + dt) := rfl
  rw [update_react last press, callRepeats_eq]
  rfl

/-- What a registration calls when time passes: what is called after the callbacks that are due, if it is the only one. -/
def calls (b : Button ℚ) (dt : ℚ) (r : Repeat ℚ) : List String :=
  ((update dt).react { b with repeats := [r] }).2.2.drop b.due.length

theorem calls_eq (b : Button ℚ) (dt : ℚ) (r : Repeat ℚ) :
    b.calls dt r = if b.pressed then r.call (b.pressTime + dt) else [] := by
  have due : ({ b with repeats := [r] } : Button ℚ).due = b.due := rfl
  have still : ({ b with repeats := [r] } : Button ℚ).pressed = b.pressed := rfl
  rw [calls, update_exact, due, still]
  cases b.pressed <;> simp

/-- What is done with a button: it reads a batch of events, lets time pass, or is given or loses callbacks. -/
inductive Step where
  | read (batch : List Event)
  | pass (dt : ℚ)
  | register (o : Occasion) (c : String)
  | registerRepeated (c : String) (delay : ℚ)
  | remove (c : String)

namespace Step

def react : Step → Reaction (Button ℚ) String Unit
  | read batch => actualise batch
  | pass dt => update dt
  | register o c => Reaction.change (·.register o c)
  | registerRepeated c delay => Reaction.change (·.registerRepeated c delay)
  | remove c => Reaction.change (·.remove c)

def events : Step → List Event
  | read batch => batch
  | _ => []

/-- Events are well-formed, and neither time nor delays are negative. -/
def Sensible : Step → Prop
  | read batch => ∀ e ∈ batch, e.WellFormed
  | pass dt => 0 ≤ dt
  | registerRepeated _ delay => 0 ≤ delay
  | _ => True

/-- How often each registration called its callback since it was made or the button was pressed, whatever came later:
what a step makes of these counts. -/
def count (b : Button ℚ) (counts : List Nat) : Step → List Nat
  | read batch =>
    if !b.pressed && ((actualise batch).react b).2.1.pressed then counts.map fun _ => 0 else counts
  | pass dt => List.zipWith (fun r n => n + (b.calls dt r).length) b.repeats counts
  | register _ _ => counts
  | registerRepeated _ _ => counts ++ [0]
  | remove c => ((b.repeats.zip counts).filter (·.1.callback != c)).map (·.2)

end Step

/-- The button after some steps, with the counts of its repeated callbacks. -/
def counting : List Step → Button ℚ → List Nat → Button ℚ × List Nat
  | [], b, counts => (b, counts)
  | u :: rest, b, counts => counting rest (u.react.react b).2.1 (u.count b counts)

/-- The counters of a button that has read these events: its counts while it is pressed, and else zero. -/
structure Paced (sensors : List Sensor) (events : List Event) (b : Button ℚ) (counts : List Nat) : Prop where
  held : b.held = Held.after sensors events
  time : 0 ≤ b.pressTime
  counters : b.repeats.map (·.repetitions) = counts.map fun n => if b.pressed then n else 0
  pace : ∀ r ∈ b.repeats, 0 ≤ r.delay ∧ ((r.repetitions : ℚ) - 1) * r.delay ≤ b.pressTime

section Steps

variable {sensors : List Sensor} {events : List Event} {b : Button ℚ} {counts : List Nat}

theorem Paced.released (h : b.Paced sensors events counts) (off : b.pressed = false) :
    ∀ r ∈ b.repeats, r.repetitions = 0 := by
  intro r hr
  have mem := List.mem_map_of_mem (f := (·.repetitions)) hr
  rw [h.counters, off] at mem
  obtain ⟨n, -, zero⟩ := List.mem_map.1 mem
  exact zero.symm

theorem pace_zero {r : Repeat ℚ} {time : ℚ} (delay : 0 ≤ r.delay) (pos : 0 ≤ time) (zero : r.repetitions = 0) :
    0 ≤ r.delay ∧ ((r.repetitions : ℚ) - 1) * r.delay ≤ time := by
  refine ⟨delay, ?_⟩
  rw [zero]
  push_cast
  linarith

theorem parts_turned {α : Type} [Arith α] (b : Button α) (held : Held) :
    (b.turned held).repeats = (if b.pressed && !(b.turned held).pressed then b.rewound else b.repeats) ∧
    (b.turned held).pressTime = (if !b.pressed && (b.turned held).pressed then Arith.ofInt 0 else b.pressTime) ∧
    (b.turned held).lastPress = (if b.pressed && !(b.turned held).pressed then Arith.ofInt 0 else b.lastPress) ∧
    (b.turned held).justDoublePressed = (!b.pressed && (b.turned held).pressed && b.soon) := by
  have now : (b.turned held).pressed = decide (0 < held.count) := by rw [Button.pressed, pressed_turned]
  rw [now, turned]
  cases b.pressed <;> cases decide (0 < held.count) <;> exact ⟨rfl, rfl, rfl, rfl⟩

theorem Paced.turned (h : b.Paced sensors events counts) (stream : List Event) :
    (b.turned (Held.after sensors stream)).Paced sensors stream
      (if !b.pressed && (b.turned (Held.after sensors stream)).pressed then counts.map fun _ => 0 else counts) := by
  have held := pressed_turned b (Held.after sensors stream)
  obtain ⟨repeats, time, -, -⟩ := parts_turned b (Held.after sensors stream)
  generalize b.turned (Held.after sensors stream) = b' at held repeats time ⊢
  have same := h.counters
  cases was : b.pressed <;> cases now : b'.pressed <;>
    simp only [was, now, Bool.not_true, Bool.not_false, Bool.and_true, Bool.and_false, Bool.false_eq_true, if_true,
      if_false] at repeats time same ⊢
  · exact ⟨held, time ▸ h.time, by rw [repeats, same, now]; rfl, by rw [repeats, time]; exact h.pace⟩
  · exact ⟨held, time.ge, by rw [repeats, same, now]; simp, by
      rw [repeats, time]
      exact fun r hr => pace_zero (h.pace r hr).1 le_rfl (h.released was r hr)⟩
  · refine ⟨held, time ▸ h.time, ?_, ?_⟩ <;> rw [repeats]
    · rw [List.map_id'] at same
      rw [← same, now]
      simp [rewound]
    · rw [time]
      intro r hr
      obtain ⟨before, mem, rfl⟩ := List.mem_map.1 hr
      exact pace_zero (h.pace before mem).1 h.time rfl
  · exact ⟨held, time ▸ h.time, by rw [repeats, same, now]; rfl, by rw [repeats, time]; exact h.pace⟩

theorem Paced.read (h : b.Paced sensors events counts) (switches : ∀ s ∈ sensors, s.IsSwitch) {batch : List Event}
    (formed : ∀ e ∈ batch, e.WellFormed) : ((actualise batch).react b).1 = .ok () ∧
      ((actualise batch).react b).2.1.Paced sensors (events ++ batch) ((Step.read batch).count b counts) := by
  obtain ⟨double, timed⟩ := b.timed_exact
  have done := actualise_react (by rw [h.held, Held.senseAll_after switches formed]) timed
  rw [Step.count, done]
  exact ⟨rfl, h.turned _⟩

theorem Paced.pass (h : b.Paced sensors events counts) {dt : ℚ} (forward : 0 ≤ dt) :
    ((update dt).react b).2.1.Paced sensors events ((Step.pass dt).count b counts) := by
  have same := h.counters
  have long : b.repeats.length = counts.length := by simpa using congrArg List.length same
  rw [Step.count, update_exact]
  cases on : b.pressed <;>
    simp only [calls_eq, on, Bool.false_eq_true, if_true, if_false] at same ⊢
  · have none : List.zipWith (fun _ n => n) b.repeats counts = counts := by
      rw [← List.map_uncurry_zip_eq_zipWith]
      exact List.map_snd_zip long.ge
    simp only [List.length_nil, Nat.add_zero, none]
    exact ⟨h.held, h.time, h.counters, h.pace⟩
  · have still (last time t : ℚ) (repeats : List (Repeat ℚ)) :
        ({ b with lastPress := last, pressTime := time, dt := t, repeats } : Button ℚ).pressed = true := on
    refine ⟨h.held, add_nonneg h.time forward, ?_, fun r hr => ?_⟩
    · rw [List.map_id'] at same
      simp only [← same, still, if_true, List.zipWith_map_right, List.zipWith_self, List.map_map]
      refine List.map_congr_left fun r _ => ?_
      simp only [Function.comp_apply, Repeat.called, Repeat.call]
      split <;> rfl
    · obtain ⟨before, mem, rfl⟩ := List.mem_map.1 hr
      obtain ⟨delay, pace⟩ := h.pace before mem
      rw [Repeat.called]
      split
      -- It was called because its delay has passed once for each earlier call.
      · next due =>
        have due : before.delay * before.repetitions ≤ b.pressTime + dt := of_decide_eq_true due
        refine ⟨delay, ?_⟩
        push_cast
        linarith
      · exact ⟨delay, pace.trans (le_add_of_nonneg_right forward)⟩

theorem map_filter_zip {α β γ : Type} (f : α → γ) (g : β → γ) (p : α → Bool) : ∀ (l : List α) (n : List β),
    l.map f = n.map g → (l.filter p).map f = (((l.zip n).filter (p ·.1)).map (·.2)).map g
  | [], _, _ => rfl
  | x :: l, [], h => by simp at h
  | x :: l, y :: n, h => by
    have rest := map_filter_zip f g p l n (List.tail_eq_of_cons_eq h)
    have head : f x = g y := List.head_eq_of_cons_eq h
    rw [List.zip_cons_cons, List.filter_cons, List.filter_cons]
    cases p x <;> simp_all

theorem Paced.react (h : b.Paced sensors events counts) (switches : ∀ s ∈ sensors, s.IsSwitch) (u : Step)
    (sensible : u.Sensible) : (u.react.react b).1 = .ok () ∧
      (u.react.react b).2.1.Paced sensors (events ++ u.events) (u.count b counts) := by
  cases u with
  | read batch => exact h.read switches sensible
  | pass dt =>
    simp only [Step.events, List.append_nil]
    refine ⟨?_, h.pass sensible⟩
    rw [Step.react, update_exact]
    split <;> rfl
  | register o c =>
    simp only [Step.events, List.append_nil]
    cases o <;> exact ⟨rfl, h.held, h.time, h.counters, h.pace⟩
  | registerRepeated c delay =>
    simp only [Step.events, List.append_nil]
    refine ⟨rfl, h.held, h.time, ?_, fun r hr => ?_⟩
    · have zero : [0] = [0].map fun n => if b.pressed then n else 0 := by simp
      have longer : b.repeats.map (·.repetitions) ++ [0] =
          (counts ++ [0]).map fun n => if b.pressed then n else 0 := by
        rw [h.counters, List.map_append, ← zero]
      exact List.map_append.trans longer
    · rcases List.mem_append.1 hr with hr | hr
      · exact h.pace r hr
      · rw [List.mem_singleton.1 hr]
        exact pace_zero sensible h.time rfl
  | remove c =>
    simp only [Step.events, List.append_nil]
    exact ⟨rfl, h.held, h.time, map_filter_zip _ _ _ _ _ h.counters, fun r hr => h.pace r (List.mem_of_mem_filter hr)⟩

theorem Paced.counting (switches : ∀ s ∈ sensors, s.IsSwitch) (steps : List Step) :
    ∀ {b : Button ℚ} {events : List Event} {counts : List Nat}, b.Paced sensors events counts →
    (∀ u ∈ steps, u.Sensible) →
    (b.counting steps counts).1.Paced sensors (events ++ steps.flatMap Step.events) (b.counting steps counts).2 := by
  induction steps with
  | nil => exact fun h _ => by rw [List.flatMap_nil, List.append_nil]; exact h
  | cons u rest ih =>
    intro b events counts h sensible
    rw [List.flatMap_cons, ← List.append_assoc]
    exact ih (h.react switches u (sensible u (.head _))).2 fun v hv => sensible v (.tail _ hv)

end Steps

/-- However a button of switches is used, its repeated callbacks are called in time. Each registration of a
callback has a counter. While the button is not pressed, every counter is zero. While it is pressed, the counter
says how often the registration called the callback since the press or since the registration, and the delay has
passed once for every call but the first. Whenever time passes, each registration calls its callback at most
once. -/
theorem repeats_keep_pace {sensors : List Sensor} (switches : ∀ s ∈ sensors, s.IsSwitch) (never : ℚ)
    {steps : List Step} (sensible : ∀ u ∈ steps, u.Sensible) {b : Button ℚ} {counts : List Nat}
    (after : (create never sensors).counting steps [] = (b, counts)) :
    (b.pressed ↔ ∃ s ∈ sensors, s.isDown (steps.flatMap Step.events)) ∧
    (∀ u : Step, u.Sensible → (u.react.react b).1 = .ok ()) ∧
    (b.pressed = false → ∀ r ∈ b.repeats, r.repetitions = 0) ∧
    (b.pressed → b.repeats.map (·.repetitions) = counts ∧
      ∀ r ∈ b.repeats, ((r.repetitions : ℚ) - 1) * r.delay ≤ b.pressTime) ∧
    ∀ dt, ((update dt).react b).2.2 = b.due ++ b.repeats.flatMap (b.calls dt) ∧ ∀ r,
      (b.calls dt r).length ≤ 1 ∧ b.calls dt r = if b.pressed then r.call (b.pressTime + dt) else [] := by
  have first : (create never sensors).Paced sensors [] [] := ⟨rfl, le_rfl, rfl, nofun⟩
  have paced := Paced.counting switches steps first sensible
  rw [after, List.nil_append] at paced
  refine ⟨?_, fun u hu => (paced.react switches u hu).1, paced.released,
    fun on => ⟨?_, fun r hr => (paced.pace r hr).2⟩, fun dt => ?_⟩
  · rw [Button.pressed, paced.held, Held.count_after]
    simp
  · rw [paced.counters, on]
    exact List.map_id' _
  · refine ⟨?_, fun r => ⟨?_, b.calls_eq dt r⟩⟩
    · rw [update_exact, funext (b.calls_eq dt)]
      cases b.pressed <;> simp
    · have once : (r.call (b.pressTime + dt)).length ≤ 1 := by
        unfold Repeat.call
        split <;> simp
      rw [calls_eq]
      split
      · exact once
      · exact Nat.zero_le 1

theorem isSwitch_key (code : Int) : ∀ s ∈ [Sensor.key (Value.int code)], s.IsSwitch := by
  simpa using Sensor.IsSwitch.key _

def ticking : List Step :=
  [.registerRepeated "tick" (1 / 2), .read [keyDown 97], .pass (1 / 4), .pass (1 / 4), .pass (1 / 4)]

/-- A key is held for three quarters of a second, and calls its callback at the start and after half a second. -/
theorem repeats_keep_pace_ticking :
    ((create 0 [.key (Value.int 97)]).counting ticking []).1.repeats.map (·.repetitions) = [2] := by
  have sensible : ∀ u ∈ ticking, u.Sensible := by simp [ticking, Step.Sensible, wellFormed_keyDown]
  have after : (create 0 [.key (Value.int 97)]).counting ticking [] = (_, [2]) := Prod.ext rfl (by decide +kernel)
  exact ((repeats_keep_pace (isSwitch_key 97) 0 sensible after).2.2.2.1 (by decide +kernel)).1

/-! ## Double presses -/

/-- The times that passed since the button was last released, if it was: `since` up to the first of these uses, before
which these events were read. -/
def sinceRelease (sensors : List Sensor) : List Event → Option (List Float) → List Use → Option (List Float)
  | _, since, [] => since
  | events, since, .read batch :: rest =>
    sinceRelease sensors (events ++ batch)
      (if sensors.any (·.isDown events) && !sensors.any (·.isDown (events ++ batch)) then some [] else since) rest
  | events, since, .pass dt :: rest => sinceRelease sensors events (since.map (· ++ [dt])) rest

def total (dts : List Float) : Float := dts.foldl (· + ·) 0

/-- A batch is a double press after these uses if it presses the button, and the button was not released, or less than a
tenth of a second ago. -/
def DoublePress (sensors : List Sensor) (uses : List Use) (batch : List Event) : Prop :=
  sensors.any (·.isDown (stream uses)) = false ∧ sensors.any (·.isDown (stream uses ++ batch)) = true ∧
    ∀ dts ∈ sinceRelease sensors [] none uses, total dts < 0.1

/-- The time since a release is the sum of the times that passed, and minus infinity if there was none. -/
def Since : Option (List Float) → Value → Prop
  | none, v => ∃ x, v = Value.float x ∧ Binary.parts x = .infinity .negative
  | some dts, v => v = Value.float (total dts) ∨ v = Value.int 0 ∧ dts = []

theorem Since.add {since : Option (List Float)} {v : Value} (h : Since since v) {dt : Float}
    (finite : dt < Binary.infinity) : ∃ x, Value.add? v (Value.float dt) = .ok (Value.float x) ∧
      Since (since.map (· ++ [dt])) (Value.float x) := by
  cases since with
  | none =>
    obtain ⟨x, rfl, low⟩ := h
    exact ⟨x + dt, rfl, _, rfl, Binary.parts_add_negInfinity low finite⟩
  | some dts =>
    have longer : total (dts ++ [dt]) = total dts + dt := List.foldl_append
    rcases h with rfl | ⟨rfl, rfl⟩
    · exact ⟨_, rfl, .inl (congrArg Value.float longer.symm)⟩
    · exact ⟨_, rfl, .inl rfl⟩

theorem Since.soon {since : Option (List Float)} {b : Button Value} (h : Since since b.lastPress) :
    b.soon = true ↔ ∀ dts ∈ since, total dts < 0.1 := by
  have limit : (doublePressTime? : Except Fault Value) = .ok (Value.float 0.1) := rfl
  have asked : b.soon = ((Value.lt? b.lastPress (Value.float 0.1)).toOption == some true) := by
    rw [Button.soon, limit]
    rfl
  have less (x : Float) : Value.lt? (Value.float x) (Value.float 0.1) = .ok (decide (x < 0.1)) := by
    show Except.ok (Number.lt _ _) = _
    by_cases hx : x < 0.1 <;> simp only [Number.lt, Number.compare?, hx, if_true, if_false]
    · rfl
    · split <;> [rfl; split <;> rfl]
  rw [asked]
  cases since with
  | none =>
    obtain ⟨x, hx, low⟩ := h
    have small : x < 0.1 := by
      rw [Binary.lt_iff, low]
      rfl
    rw [hx, less, decide_eq_true small]
    simp [Except.toOption]
  | some dts =>
    rcases h with hv | ⟨hv, rfl⟩
    · rw [hv, less]
      simp [Except.toOption]
    · have zero : total [] < 0.1 := by decide +kernel
      rw [hv]
      exact ⟨fun _ dts hdts => (Option.some.inj hdts) ▸ zero, fun _ => rfl⟩

section Releases

variable {sensors : List Sensor} {events : List Event} {b : Button Value} {since : Option (List Float)}

theorem Since.read (last : Since since b.lastPress) (h : b.Heard sensors events) (switches : ∀ s ∈ sensors, s.IsSwitch)
    {batch : List Event} (formed : ∀ e ∈ batch, e.WellFormed) :
    Since (if sensors.any (·.isDown events) && !sensors.any (·.isDown (events ++ batch)) then some [] else since)
      ((actualise batch).react b).2.1.lastPress := by
  obtain ⟨done, turned⟩ := h.read switches formed
  obtain ⟨-, -, lastPress, -⟩ := parts_turned b (Held.after sensors (events ++ batch))
  rw [done, lastPress, h.pressed, turned.pressed]
  split
  · exact .inr ⟨rfl, rfl⟩
  · exact last

theorem Since.update (last : Since since b.lastPress) (h : b.Heard sensors events) {dt : Float}
    (finite : dt < Binary.infinity) :
    Since (since.map (· ++ [dt])) ((update (Value.float dt)).react b).2.1.lastPress := by
  obtain ⟨x, added, since⟩ := last.add finite
  obtain ⟨pressTime, press⟩ := h.pressTime.add dt
  rw [update_react added press]
  split <;> exact since

theorem Since.run (switches : ∀ s ∈ sensors, s.IsSwitch) (uses : List Use) :
    ∀ {b : Button Value} {events : List Event} {since : Option (List Float)}, Since since b.lastPress →
    b.Heard sensors events → (∀ e ∈ stream uses, e.WellFormed) → (∀ dt, .pass dt ∈ uses → dt < Binary.infinity) →
    Since (sinceRelease sensors events since uses) (b.run uses).1.lastPress := by
  induction uses with
  | nil => exact fun last _ _ _ => last
  | cons u rest ih =>
    intro b events since last h formed finite
    obtain ⟨first, others⟩ := wellFormed_stream_cons formed
    have heard := h.react switches u first
    have finite' : ∀ dt, .pass dt ∈ rest → dt < Binary.infinity := fun dt hdt => finite dt (.tail _ hdt)
    cases u with
    | read batch => exact ih (last.read h switches first) heard others finite'
    | pass dt =>
      rw [Use.events, List.append_nil] at heard
      exact ih (last.update h (finite dt (.head _))) heard others finite'

theorem Heard.sameCallbacks (switches : ∀ s ∈ sensors, s.IsSwitch) (uses : List Use) :
    ∀ {b : Button Value} {events : List Event}, b.Heard sensors events → (∀ e ∈ stream uses, e.WellFormed) →
    b.SameCallbacks (b.run uses).1 := by
  induction uses with
  | nil => exact fun _ _ => ⟨rfl, rfl⟩
  | cons u rest ih =>
    intro b events h formed
    obtain ⟨first, others⟩ := wellFormed_stream_cons formed
    have later := ih (h.react switches u first) others
    have now : b.SameCallbacks (u.react.react b).2.1 := by
      cases u with
      | read batch =>
        have first : ∀ e ∈ batch, e.WellFormed := first
        rw [Use.react, (h.read switches first).1]
        exact sameCallbacks_turned b _
      | pass dt => exact (h.called dt).1
    exact ⟨later.1.trans now.1, later.2.trans now.2⟩

theorem mem_due {c : String} (h : b.Reserves .doublePress c) : c ∈ b.due ↔ b.justDoublePressed := by
  have once : c ∈ b.onDoublePress := List.count_pos_iff.1 (h.once.symm ▸ Nat.one_pos)
  have always : c ∉ b.always := h.others .always nofun
  have press : c ∉ b.onPress := h.others .press nofun
  have release : c ∉ b.onRelease := h.others .release nofun
  rw [due]
  cases b.justPressed <;> cases b.justDoublePressed <;> cases b.justReleased <;> simp [once, always, press, release]

/-- However often time passes after a batch, a callback of double presses is called if the batch was one. -/
theorem Heard.called_iff {c : String} {dt : Float} (dts : List Float) : ∀ {b : Button Value}, b.Heard sensors events →
    b.Reserves .doublePress c →
    (c ∈ ((update (Value.float dt)).react (b.run (dts.map .pass)).1).2.2 ↔ b.justDoublePressed) := by
  induction dts with
  | nil =>
    intro b h reserves
    obtain ⟨-, more, called, repeated⟩ := h.called dt
    rw [List.map_nil, Button.run, called, List.mem_append, mem_due reserves]
    exact or_iff_left fun hc => reserves.repeats (repeated c hc)
  | cons dt' rest ih =>
    intro b h reserves
    have flag : ((update (Value.float dt')).react b).2.1.justDoublePressed = b.justDoublePressed := by
      obtain ⟨lastPress, last⟩ := h.lastPress.add dt'
      obtain ⟨pressTime, press⟩ := h.pressTime.add dt'
      rw [update_react last press]
      split <;> rfl
    rw [← flag]
    exact ih (h.pass dt') ((h.called dt').1.reserves reserves)

/-- A press is a double press if the button was released less than a tenth of a second ago, and also if it was
not released before. The callbacks of double presses are called after such a batch, and only then. -/
theorem double_press_iff (switches : ∀ s ∈ sensors, s.IsSwitch) (made : b.Made sensors)
    (fresh : b.lastPress = Value.float (-Binary.infinity)) {uses : List Use} {batch : List Event}
    (formed : ∀ e ∈ stream uses ++ batch, e.WellFormed) (finite : ∀ dt, .pass dt ∈ uses → dt < Binary.infinity) :
    ∃ after, (actualise batch).react (b.run uses).1 = (.ok (), after, []) ∧
      (after.justDoublePressed ↔ DoublePress sensors uses batch) ∧
      ∀ c, b.Reserves .doublePress c → ∀ (dts : List Float) (dt : Float),
        (c ∈ ((update (Value.float dt)).react (after.run (dts.map .pass)).1).2.2 ↔ DoublePress sensors uses batch) := by
  obtain ⟨before, now⟩ := List.forall_mem_append.1 formed
  have heard := Heard.run switches uses made.heard before
  have never : Since none b.lastPress := ⟨_, fresh, rfl⟩
  have last := Since.run switches uses never made.heard before finite
  obtain ⟨done, turned⟩ := heard.read switches now
  obtain ⟨-, -, -, double⟩ := parts_turned (b.run uses).1 (Held.after sensors ([] ++ stream uses ++ batch))
  have told : ((b.run uses).1.turned (Held.after sensors ([] ++ stream uses ++ batch))).justDoublePressed ↔
      DoublePress sensors uses batch := by
    rw [double, heard.pressed, turned.pressed, List.nil_append, Bool.and_eq_true, Bool.and_eq_true, Bool.not_eq_true',
      and_assoc, last.soon]
    rfl
  refine ⟨_, done, told, fun c reserves dts dt => ?_⟩
  have kept := (Heard.sameCallbacks switches uses made.heard before).reserves reserves
  rw [turned.called_iff dts ((sameCallbacks_turned _ _).reserves kept), told]

end Releases

def ofOneKey : Button Value :=
  (create (Value.float (-Binary.infinity)) [.key (Value.int 97)]).register .doublePress "twice"

/-- A key is pressed and released, and half a second passes. -/
def slowly : List Use := [.read [keyDown 97], .pass 0.25, .read [keyUp 97], .pass 0.5]

theorem double_press_iff_slowly : ∃ after : Button Value,
    (actualise [keyDown 97]).react (ofOneKey.run slowly).1 = (.ok (), after, []) ∧
      ¬after.justDoublePressed ∧ "twice" ∉ ((update (Value.float 0.25)).react after).2.2 := by
  have made : ofOneKey.Made [.key (Value.int 97)] := .register _ _ (.create _)
  have formed : ∀ e ∈ stream slowly ++ [keyDown 97], e.WellFormed := by
    simp [slowly, stream, Use.events, wellFormed_keyDown, wellFormed_keyUp]
  have finite : ∀ dt, .pass dt ∈ slowly → dt < Binary.infinity := by
    simp only [slowly, List.mem_cons, List.not_mem_nil, reduceCtorEq, Use.pass.injEq, false_or, or_false,
      forall_eq_or_imp, forall_eq]
    decide +kernel
  have late : ¬DoublePress [.key (Value.int 97)] slowly [keyDown 97] :=
    fun h => absurd (h.2.2 [0.5] rfl) (by decide +kernel)
  have reserves : ofOneKey.Reserves .doublePress "twice" :=
    ⟨rfl, fun o ho => by cases o <;> simp_all [ofOneKey, create, register, registered], List.not_mem_nil⟩
  obtain ⟨after, done, told, called⟩ := double_press_iff (isSwitch_key 97) made rfl formed finite
  exact ⟨after, done, told.not.2 late, (called "twice" reserves [] 0.25).not.2 late⟩

/-- A button that was never released takes its first press for a double press. -/
theorem first_press_is_double : sinceRelease [.key (Value.int 97)] [] none [.read [keyDown 97], .pass 0.5] = none ∧
    ((ofOneKey.run [.read [keyDown 97]]).1.justDoublePressed = true) ∧
    called (ofOneKey.run [.read [keyDown 97], .pass 0.5]).2 = ["twice"] := ⟨rfl, rfl, rfl⟩

end Button

end BlockStage.Controls
