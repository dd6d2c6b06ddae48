import BlockStage.Controls.Axis
import BlockStage.Proofs.Controls.Switches

/-!
# Axes and the events they have read

The push of an axis follows its keys, however the stream of events is cut into batches. The deflection is
the most extreme position that a stick took in the last batch in which one moved.
-/

namespace BlockStage.Controls

/-! ## Positions of sticks -/

/-- A stick whose threshold and sensitivity are numbers. -/
def Sensor.IsStick (s : Sensor) : Prop :=
  ∃ k : Stick, s = .stick k ∧ (∃ n, k.threshold = .num n) ∧ k.sensitivity.IsReal

theorem Number.mul_real {n m : Number} {x y : Float} (hx : n.toFloat? = .ok x) (hy : m.toFloat? = .ok y) :
    ∃ z, n.mul m = .ok z := by
  cases n <;> cases m <;> simp only [Number.mul, Number.lift, hx, hy] <;> exact ⟨_, rfl⟩

theorem Stick.value?_num {k : Stick} {e : Event} {v : Value} (threshold : ∃ n, k.threshold = .num n)
    (sensitivity : k.sensitivity.IsReal) (has : e.detail? "value" = .ok v) (real : v.IsReal) :
    ∃ n, k.value? e = .ok (.num n) := by
  obtain ⟨t, ht⟩ := threshold
  obtain ⟨n, x, rfl, hx⟩ := real
  obtain ⟨m, y, hm, hy⟩ := sensitivity
  obtain ⟨z, hz⟩ := Number.mul_real hx hy
  have scaled : Value.mul? (.num n) (.num m) = .ok (.num z) := by
    have plain : Value.mul? (.num n) (.num m) = (n.mul m).map .num := by cases n <;> cases m <;> rfl
    rw [plain, hz]
    rfl
  have small : Value.lt? (.num n.abs) (.num t) = .ok (n.abs.lt t) := rfl
  unfold Stick.value?
  simp only [has, ht, hm, Arith.abs, Value.number?, Arith.lt, small, Arith.mul, scaled, bind, Except.bind, pure, Except.pure]
  cases n.abs.lt t
  · cases k.reversed.holds
    · exact ⟨z, rfl⟩
    · exact ⟨z.neg, rfl⟩
  · exact ⟨.int 0, rfl⟩

/-- The one of two positions that is farther from the centre; the first one if neither is. -/
def farther (v w : Value) : Value :=
  match v, w with
  | .num n, .num m => if n.abs.lt m.abs then w else v
  | _, _ => v

/-- The most extreme position. -/
def farthest (positions : List Value) : Value := positions.foldl farther (Value.int 0)

namespace Sensor

variable {sticks : List Sensor} {e : Event}

/-- The position to which an event moves a stick. -/
def position? (e : Event) (s : Sensor) : Option Value := if s.hears e then (s.value? e).toOption else none

/-- All positions that sticks are moved to, in order. -/
def positions (sticks : List Sensor) (events : List Event) : List Value :=
  events.flatMap fun e => sticks.filterMap (position? e)

theorem larger?_num (n m : Number) : larger? (.num n) (.num m) = .ok (farther (.num n) (.num m)) := by
  show (do if ← Value.lt? (.num n.abs) (.num m.abs) then return Value.num m else return .num n) = _
  simp only [farther, Value.lt?]
  cases n.abs.lt m.abs <;> rfl

theorem IsStick.matches? {s : Sensor} (h : s.IsStick) (formed : e.WellFormed) :
    s.matches? e = .ok (s.hears e) ∧ (s.hears e = true → ∃ n, s.value? e = .ok (.num n)) := by
  obtain ⟨k, rfl, threshold, sensitivity⟩ := h
  obtain ⟨b, hb⟩ : ∃ b, (stick k).matches? e = .ok b := concerns?_stick formed k.pad k.axis
  have heard : (stick k).hears e = b := by rw [hears, hb]; cases b <;> rfl
  rw [heard]
  refine ⟨hb, fun moved => ?_⟩
  subst moved
  obtain ⟨_, _, v, -, -, has, real⟩ := formed.stick ((kind_of_concerns? hb).elim id id)
  exact Stick.value?_num threshold sensitivity has real

/-- The next record of the positions. -/
def record (best : Option Value) (v : Value) : Option Value := some (farther (best.getD (Value.int 0)) v)

/-- Records are numbers. -/
def Recorded (best : Option Value) : Prop := ∃ n, best.getD (Value.int 0) = .num n

theorem Recorded.record {best : Option Value} (h : Recorded best) (m : Number) :
    larger? (best.getD (Value.int 0)) (.num m) = .ok (farther (best.getD (Value.int 0)) (.num m)) ∧
      Recorded (record best (.num m)) := by
  obtain ⟨n, hn⟩ := h
  rw [hn]
  refine ⟨larger?_num n m, ?_⟩
  show ∃ k, farther (best.getD (Value.int 0)) (.num m) = .num k
  rw [hn]
  unfold farther
  dsimp only
  split
  · exact ⟨m, rfl⟩
  · exact ⟨n, rfl⟩

theorem largest?_eq (all : ∀ s ∈ sticks, s.IsStick) (formed : e.WellFormed) {best : Option Value}
    (h : Recorded best) :
    largest? e sticks best = .ok ((sticks.filterMap (position? e)).foldl record best) ∧
      Recorded ((sticks.filterMap (position? e)).foldl record best) := by
  induction sticks generalizing best with
  | nil => exact ⟨rfl, h⟩
  | cons s rest ih =>
    have others := fun {best} (h : Recorded best) => ih (fun s' hs => all s' (.tail _ hs)) h
    obtain ⟨hmatch, hvalue⟩ := (all s (.head _)).matches? formed
    unfold largest?
    rw [hmatch]
    cases heard : s.hears e
    · have still : position? e s = none := by rw [position?, heard]; rfl
      rw [List.filterMap_cons_none still]
      exact others h
    · obtain ⟨m, hm⟩ := hvalue heard
      have moved : position? e s = some (.num m) := by rw [position?, heard, hm]; rfl
      obtain ⟨larger, recorded⟩ := h.record m
      rw [List.filterMap_cons_some moved, List.foldl_cons]
      obtain ⟨done, kept⟩ := others recorded
      exact ⟨by rw [← done]; simp [hm, larger, record, bind, Except.bind], kept⟩

end Sensor

/-! ## Batches -/

namespace Axis

open Sensor

/-- The sensors that an axis is made of: switches that push it up and down, and sticks. -/
structure Sensible (ups downs sticks : List Sensor) : Prop where
  ups : ∀ s ∈ ups, s.IsSwitch
  downs : ∀ s ∈ downs, s.IsSwitch
  sticks : ∀ s ∈ sticks, s.IsStick

variable {ups downs sticks : List Sensor} {events : List Event}

theorem Sensible.senseAll (h : Sensible ups downs sticks) {batch : List Event} (formed : ∀ e ∈ batch, e.WellFormed)
    {best : Option Value} (recorded : Recorded best) :
    Reading.senseAll sticks batch ⟨Held.after ups events, Held.after downs events, best⟩ =
      (⟨Held.after ups (events ++ batch), Held.after downs (events ++ batch),
        (positions sticks batch).foldl record best⟩, none) := by
  induction batch generalizing events best with
  | nil => simp [Reading.senseAll, positions]
  | cons e rest ih =>
    have he := formed e (.head _)
    obtain ⟨largest, recorded⟩ := largest?_eq h.sticks he recorded
    rw [Reading.senseAll, Reading.sense, Held.sense_after h.ups he]
    dsimp only
    rw [Held.sense_after h.downs he]
    dsimp only
    rw [largest]
    have others : Reading.senseAll sticks rest ⟨Held.after ups (events ++ [e]), Held.after downs (events ++ [e]),
        (sticks.filterMap (position? e)).foldl record best⟩ = _ := ih (fun e' he => formed e' (.tail _ he)) recorded
    simpa [positions] using others

theorem foldl_record (v : Value) (rest : List Value) :
    (v :: rest).foldl record none = some (farthest (v :: rest)) := by
  have step : ∀ (rest : List Value) (u : Value), rest.foldl record (some u) = some (rest.foldl farther u) := by
    intro rest
    induction rest with
    | nil => exact fun _ => rfl
    | cons w rest ih => exact fun u => ih (farther u w)
  exact step rest (farther (Value.int 0) v)

/-- The deflection after a batch in which sticks take these positions. -/
def deflected (old : Value) (positions : List Value) : Value := if positions = [] then old else farthest positions

/-- An axis of these sensors that has read a stream of events. -/
structure Heard {α : Type} (ups downs sticks : List Sensor) (events : List Event) (a : Axis α) : Prop where
  positive : a.positive = Held.after ups events
  negative : a.negative = Held.after downs events
  sticks : a.sticks = sticks
  push : a.push = (ups.countP (·.isDown events) : Int) - downs.countP (·.isDown events)

variable {α : Type} {a : Axis α}

theorem Heard.actualise (h : a.Heard ups downs sticks events) (sensible : Sensible ups downs sticks)
    {batch : List Event} (formed : ∀ e ∈ batch, e.WellFormed) : (actualise batch).react a = (.ok (),
      { a with
        positive := Held.after ups (events ++ batch)
        negative := Held.after downs (events ++ batch)
        push := (ups.countP (·.isDown (events ++ batch)) : Int) - downs.countP (·.isDown (events ++ batch))
        deflection := deflected a.deflection (positions sticks batch) }, []) := by
  have read : Reading.senseAll sticks batch ⟨Held.after ups events, Held.after downs events, none⟩ = _ :=
    sensible.senseAll formed ⟨.int 0, rfl⟩
  have deflection : ((positions sticks batch).foldl record none).getD a.deflection =
      deflected a.deflection (positions sticks batch) := by
    cases positions sticks batch with
    | nil => rfl
    | cons v rest => rw [foldl_record]; rfl
  simp only [Axis.actualise, Reaction.react_bind, Reaction.react_state, Reaction.react_change, h.positive, h.negative,
    h.sticks, read]
  simp [deflection]

/-! ## Cuts of a stream -/

/-- The axis after some batches. -/
def read (batches : List (List Event)) (a : Axis α) : Axis α :=
  batches.foldl (fun a batch => ((actualise batch).react a).2.1) a

theorem read_snoc (batches : List (List Event)) (batch : List Event) (a : Axis α) :
    a.read (batches ++ [batch]) = ((actualise batch).react (a.read batches)).2.1 := by
  simp only [read, List.foldl_append, List.foldl_cons, List.foldl_nil]

theorem Heard.read (sensible : Sensible ups downs sticks) (batches : List (List Event)) :
    ∀ {a : Axis α} {events : List Event}, a.Heard ups downs sticks events →
    (∀ e ∈ batches.flatten, e.WellFormed) →
    (a.read batches).Heard ups downs sticks (events ++ batches.flatten) ∧
      (a.read batches).deflection = (batches.map (positions sticks)).foldl deflected a.deflection := by
  induction batches with
  | nil => exact fun h _ => ⟨by rw [List.flatten_nil, List.append_nil]; exact h, rfl⟩
  | cons batch rest ih =>
    intro a events h formed
    rw [List.flatten_cons] at formed ⊢
    have done := h.actualise sensible fun e he => formed e (List.mem_append_left _ he)
    have next : ((Axis.actualise batch).react a).2.1.Heard ups downs sticks (events ++ batch) := by
      rw [done]
      exact ⟨rfl, rfl, h.sticks, rfl⟩
    obtain ⟨heard, deflection⟩ := ih next fun e he => formed e (List.mem_append_right _ he)
    rw [List.append_assoc] at heard
    refine ⟨heard, deflection.trans ?_⟩
    rw [done]
    rfl

theorem foldl_deflected (old : Value) (moves : List (List Value)) :
    moves.foldl deflected old = (moves.filter (· ≠ [])).getLast?.elim old farthest := by
  induction moves generalizing old with
  | nil => rfl
  | cons positions rest ih =>
    rw [List.foldl_cons, ih, deflected]
    by_cases still : positions = []
    · simp [still]
    · rw [if_neg still, List.filter_cons_of_pos (by simpa using still), List.getLast?_cons]
      cases (rest.filter (· ≠ [])).getLast? <;> rfl

theorem foldl_deflected_single (old : Value) {moves : List (List Value)} (single : ∀ m ∈ moves, m.length ≤ 1) :
    moves.foldl deflected old = moves.flatten.getLast?.elim old (farther (Value.int 0)) := by
  induction moves generalizing old with
  | nil => rfl
  | cons positions rest ih =>
    have first := single positions (.head _)
    rw [List.foldl_cons, ih _ fun m hm => single m (.tail _ hm), deflected, List.flatten_cons]
    cases positions with
    | nil => rfl
    | cons v more =>
      obtain rfl : more = [] := List.eq_nil_of_length_eq_zero (by simpa using first)
      rw [List.singleton_append, List.getLast?_cons]
      cases rest.flatten.getLast? <;> rfl

theorem positions_flatten (sticks : List Sensor) (cut : List (List Event)) :
    positions sticks cut.flatten = (cut.map (positions sticks)).flatten := by
  induction cut with
  | nil => rfl
  | cons batch rest ih =>
    rw [List.flatten_cons, List.map_cons, List.flatten_cons, ← ih, positions, List.flatMap_append]
    rfl

/-- The positions that sticks take in the last batch in which one moves. -/
def lastMoves (sticks : List Sensor) (cut : List (List Event)) : List Value :=
  ((cut.map (positions sticks)).filter (· ≠ [])).getLast?.getD []

/-- Sticks move at most once in a batch. -/
def Single (sticks : List Sensor) (cut : List (List Event)) : Prop := ∀ batch ∈ cut, (positions sticks batch).length ≤ 1

/-- An axis that was made of these sensors and has been given callbacks. -/
inductive Made [Arith α] (ups downs sticks : List Sensor) : Axis α → Prop
  | create (smooth : α) : Made ups downs sticks (create downs ups sticks smooth)
  | register {a : Axis α} (c : String) : Made ups downs sticks a → Made ups downs sticks (a.register c)
  | remove {a : Axis α} (c : String) : Made ups downs sticks a → Made ups downs sticks (a.remove c)

theorem Made.heard [Arith α] (made : a.Made ups downs sticks) :
    a.Heard ups downs sticks [] ∧ a.deflection = Value.int 0 := by
  induction made with
  | create smooth => exact ⟨⟨rfl, rfl, rfl, by simp [Axis.create, isDown]⟩, rfl⟩
  | register c _ ih => exact ⟨⟨ih.1.positive, ih.1.negative, ih.1.sticks, ih.1.push⟩, ih.2⟩
  | remove c _ ih => exact ⟨⟨ih.1.positive, ih.1.negative, ih.1.sticks, ih.1.push⟩, ih.2⟩

theorem Made.deflection_read [Arith α] (made : a.Made ups downs sticks) (sensible : Sensible ups downs sticks)
    {cut : List (List Event)} (formed : ∀ e ∈ cut.flatten, e.WellFormed) :
    (a.read cut).deflection = farthest (lastMoves sticks cut) ∧
      (Single sticks cut → (a.read cut).deflection = farthest (positions sticks cut.flatten).getLast?.toList) := by
  obtain ⟨heard, centred⟩ := made.heard
  have deflection := (Heard.read sensible cut heard formed).2
  rw [centred] at deflection
  refine ⟨?_, fun single => ?_⟩
  · rw [deflection, foldl_deflected, lastMoves]
    cases ((cut.map (positions sticks)).filter (· ≠ [])).getLast? <;> rfl
  · have once : ∀ m ∈ cut.map (positions sticks), m.length ≤ 1 := List.forall_mem_map.2 single
    rw [deflection, foldl_deflected_single _ once, ← positions_flatten]
    cases (positions sticks cut.flatten).getLast? <;> rfl

/-- The push of an axis depends on the stream of events alone: it is the number of held switches that push it up
less that of those that push it down. The deflection is the most extreme position in the last batch in which a
stick moves. So it is the same after two cuts of one stream that agree in that batch, or in which sticks move at
most once in each batch. -/
theorem read_of_cut [Arith α] (made : a.Made ups downs sticks) (sensible : Sensible ups downs sticks)
    {cut cut' : List (List Event)} (same : cut.flatten = cut'.flatten) (formed : ∀ e ∈ cut.flatten, e.WellFormed) :
    ((a.read cut).push = (a.read cut').push ∧ (a.read cut).push =
      (ups.countP (·.isDown cut.flatten) : Int) - downs.countP (·.isDown cut.flatten)) ∧
    (a.read cut).deflection = farthest (lastMoves sticks cut) ∧
    (Single sticks cut → (a.read cut).deflection = farthest (positions sticks cut.flatten).getLast?.toList) ∧
    (lastMoves sticks cut = lastMoves sticks cut' ∨ Single sticks cut ∧ Single sticks cut' →
      (a.read cut).deflection = (a.read cut').deflection) ∧
    ∀ before batch after, cut = before ++ batch :: after →
      (actualise batch).react (a.read before) = (.ok (), a.read (before ++ [batch]), []) := by
  obtain ⟨last, once⟩ := made.deflection_read sensible formed
  obtain ⟨last', once'⟩ := made.deflection_read sensible (same ▸ formed)
  have push := (Heard.read sensible cut made.heard.1 formed).1.push
  have push' := (Heard.read sensible cut' made.heard.1 (same ▸ formed)).1.push
  rw [List.nil_append] at push push'
  refine ⟨⟨by rw [push, push', same], push⟩, last, once, ?_, ?_⟩
  · rintro (agree | ⟨single, single'⟩)
    · rw [last, last', agree]
    · rw [once single, once' single', same]
  · rintro before batch after rfl
    have formed : ∀ e ∈ before.flatten ++ batch, e.WellFormed := by
      intro e he
      refine formed e ?_
      rw [List.flatten_append, List.flatten_cons, ← List.append_assoc]
      exact List.mem_append_left _ he
    have heard := (Heard.read sensible before made.heard.1 fun e he => formed e (List.mem_append_left _ he)).1
    have done := heard.actualise sensible fun e he => formed e (List.mem_append_right _ he)
    rw [read_snoc, done]

def stickMoved (x : Float) : Event :=
  ⟨[("type", Value.int Event.stickMoved), ("joy", Value.int 0), ("axis", Value.int 0), ("value", Value.float x)]⟩

def stick : Sensor := .stick { axis := Value.int 0 }

def ofKeyAndStick : Axis Value := create [] [.key (Value.int 97)] [stick] (Value.float 0)

theorem read_of_cut_ofKeyAndStick : (ofKeyAndStick.read [[stickMoved 1], [], [stickMoved 0]]).push =
        (ofKeyAndStick.read [[stickMoved 1, stickMoved 0]]).push ∧
      (ofKeyAndStick.read [[stickMoved 1], [], [stickMoved 0]]).deflection = Value.int 0 := by
  have sensible : Sensible [.key (Value.int 97)] [] [stick] := by
    refine ⟨fun s hs => ?_, nofun, fun s hs => ?_⟩
    · rw [List.mem_singleton.1 hs]
      exact .key _
    · exact ⟨_, List.mem_singleton.1 hs, ⟨_, rfl⟩, _, _, rfl, rfl⟩
  have formed : ∀ x, (stickMoved x).WellFormed := fun x =>
    ⟨nofun, nofun, fun _ => ⟨_, _, _, rfl, rfl, rfl, .float x, x, rfl, rfl⟩⟩
  have single : Single [stick] [[stickMoved 1], [], [stickMoved 0]] := by
    intro batch hb
    simp only [List.mem_cons, List.not_mem_nil, or_false] at hb
    rcases hb with rfl | rfl | rfl <;> decide
  have same : [[stickMoved 1], [], [stickMoved 0]].flatten = [[stickMoved 1, stickMoved 0]].flatten := rfl
  obtain ⟨⟨push, -⟩, -, last, -⟩ :=
    read_of_cut (a := ofKeyAndStick) (.create (Value.float 0)) sensible same (by simp [formed])
  exact ⟨push, last single⟩

/-- A stick that is pushed and returns in one batch leaves the axis deflected. -/
theorem return_in_same_batch :
    (ofKeyAndStick.read [[stickMoved 1, stickMoved 0]]).deflection = Value.float 1 ∧
      (ofKeyAndStick.read [[stickMoved 1], [stickMoved 0]]).deflection = Value.int 0 := ⟨rfl, rfl⟩

end Axis

end BlockStage.Controls
