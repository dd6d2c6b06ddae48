import BlockStage.Proofs.Motion.Coordinates
import BlockStage.Widget.Slider

/-!
# Dragging a slider

Both kinds of sliders compute the same along the track and across it: `Slider.draw_along`. So whatever is done to a
slider, in exact arithmetic the percentage stays between zero and a hundred: `Slider.percent_stays_in_range`.
-/

namespace BlockStage

/-- Integers are added, subtracted, halved and compared as such, whatever other numbers there are. -/
class Arith.Integral (α : Type) [Arith α] : Prop where
  add : ∀ a b : Int, Arith.add (Arith.ofInt a : α) (Arith.ofInt b) = .ok (Arith.ofInt (a + b))
  sub : ∀ a b : Int, Arith.sub (Arith.ofInt a : α) (Arith.ofInt b) = .ok (Arith.ofInt (a - b))
  mul : ∀ a b : Int, Arith.mul (Arith.ofInt a : α) (Arith.ofInt b) = .ok (Arith.ofInt (a * b))
  half : ∀ a : Int, Arith.half (Arith.ofInt a : α) = .ok (Arith.ofInt (a.fdiv 2))
  le : ∀ a b : Int, Arith.le (Arith.ofInt a : α) (Arith.ofInt b) = .ok (decide (a ≤ b))
  present : ∀ a : Int, Arith.present? (Arith.ofInt a : α) = .ok (Arith.ofInt a)
  truncate : ∀ a : Int, Arith.truncate? (Arith.ofInt a : α) = .ok a

instance : Arith.Integral ℚ where
  add a b := congrArg Except.ok (Int.cast_add a b).symm
  sub a b := congrArg Except.ok (Int.cast_sub a b).symm
  mul a b := congrArg Except.ok (Int.cast_mul a b).symm
  half a := by
    have floor := Rat.floor_intCast_div_natCast a 2
    push_cast at floor
    show Except.ok ((⌊(a : ℚ) / 2⌋ : Int) : ℚ) = _
    rw [floor, ← Int.fdiv_eq_ediv_of_nonneg a (by decide)]
    rfl
  le a b := congrArg Except.ok (decide_eq_decide.2 Int.cast_le)
  present _ := rfl
  truncate a := by simp [Arith.truncate?, Arith.ofInt]

namespace Widget

/-! ## Along and across the track -/

namespace Orientation

def along {β : Type} : Orientation → β × β → β
  | .vertical, point => point.2
  | .horizontal, point => point.1

section

variable {α : Type} (o : Orientation) (s : Slider α)

def start : α :=
  match o with
  | .vertical => s.y
  | .horizontal => s.x

def length : α :=
  match o with
  | .vertical => s.height
  | .horizontal => s.width

def side : α :=
  match o with
  | .vertical => s.x
  | .horizontal => s.y

def breadth : α :=
  match o with
  | .vertical => s.width
  | .horizontal => s.height

variable [Arith α]

def alongTrack? (m : α) : Except Fault Bool :=
  Slider.between? (return o.start s) (Arith.add (o.start s) (o.length s)) m

def acrossTrack? (m : α) : Except Fault Bool :=
  Slider.between? (do Arith.sub (o.side s) (← Arith.half s.handle)) (do Arith.add (o.side s) (← Arith.half s.handle)) m

def over? (mouse : α × α) : Except Fault Bool := do
  match o with
  | .vertical => if ← acrossTrack? .vertical s mouse.1 then alongTrack? .vertical s mouse.2 else return false
  | .horizontal => if ← alongTrack? .horizontal s mouse.1 then acrossTrack? .horizontal s mouse.2 else return false

def dragged? (m : α) : Except Fault α := do
  if ← Arith.le m (o.start s) then return o.start s
  let last ← Arith.sub (← Arith.add (o.start s) (o.length s)) s.handle
  if ← Arith.le last m then return last
  return m

def percentAt? (place : α) : Except Fault α := do
  let twice ← Arith.mul (Arith.ofInt 2) place
  let origin ← Arith.mul (Arith.ofInt 2) (o.start s)
  let reach ← Arith.sub (← Arith.add s.handle twice) origin
  Arith.div (← Arith.mul (Arith.ofInt 50) reach) (o.length s)

def resting? : Except Fault α := do
  let part ← Arith.mul (o.length s) (← Arith.div s.percent (Arith.ofInt 100))
  let middle ← Arith.add (o.start s) part
  let reach ← Arith.round? (← Arith.div s.handle (Arith.ofInt 2))
  return Arith.ofInt (← Arith.round? (← Arith.sub middle (Arith.ofInt reach)))

def stroke (part : Slider.Part) (place side length breadth : α) : Slider.Doing α Unit :=
  match o with
  | .vertical => Slider.stroke part side place breadth length
  | .horizontal => Slider.stroke part place side length breadth

def isHover (mouse : α × α) : Slider.Doing α Unit := do
  let hovered ← Reaction.ofExcept (o.over? (← Reaction.state) mouse)
  Reaction.change fun s => { s with hover := .bool hovered }
  if hovered then Reaction.emit .hand

def placeHandle (mouse : α × α) : Slider.Doing α α := do
  let s ← Reaction.state
  if ← Reaction.ofExcept (holds? s.active) then
    let place ← Reaction.ofExcept (o.dragged? s (o.along mouse))
    let percent ← Reaction.ofExcept (o.percentAt? s place)
    Reaction.change fun s => { s with percent := percent }
    return place
  else Reaction.ofExcept (o.resting? s)

def draw (mouse : α × α) : Slider.Doing α Unit := do
  if !(← Reaction.ofExcept (holds? (← Reaction.state).visible)) then return ()
  if Table.has (← Reaction.state).added "isHover" then throw .wrongKind
  o.isHover mouse
  let s ← Reaction.state
  o.stroke .track (o.start s) (o.side s) (o.length s) (o.breadth s)
  let place ← o.placeHandle mouse
  let done ← Reaction.ofExcept (Arith.sub place (o.start s))
  let side ← Reaction.ofExcept (do
    Arith.add (← Arith.sub (o.side s) (← Arith.half s.handle)) (← Arith.half (o.breadth s)))
  o.stroke .bar (o.start s) (o.side s) done (o.breadth s)
  o.stroke .handle place side s.handle s.handle

end

end Orientation

namespace Slider

open Arith
open Reaction (react_bind react_state react_ofExcept react_change react_emit react_pure)

section

variable {α : Type}

theorem byKind_react {β : Type} (v h : Doing α β) (s : Slider α) :
    (byKind v h).react s = (match s.orientation with | .vertical => v | .horizontal => h).react s := by
  simp only [byKind, react_bind, react_state]
  cases s.orientation <;> rfl

/-- An event does the same to both kinds. -/
theorem press_eq (s : Slider α) (e : Event) : (press e).react s = (Vertical.press e).react s := by
  rw [press, byKind_react]
  cases s.orientation <;> rfl

theorem setVisible_eq (s : Slider α) (v : Value) : (setVisible v).react s = (Vertical.setVisible v).react s := by
  rw [setVisible, byKind_react]
  cases s.orientation <;> rfl

variable [Arith α]

/-- Each kind of sliders is drawn along and across its track. -/
theorem draw_along (s : Slider α) (mouse : α × α) : (draw mouse).react s = (s.orientation.draw mouse).react s := by
  rw [draw, byKind_react]
  cases s.orientation <;> rfl

theorem setPercent_eq (s : Slider α) (p : α) : (setPercent p).react s = (Vertical.setPercent p).react s := by
  rw [setPercent, byKind_react]
  cases s.orientation <;> rfl

end

/-! ## Sliders on whole pixels -/

/-- The measures of a slider, along and across its track. The handle is not longer than the track. -/
structure Measures where
  start : Int
  length : Int
  handle : Int
  side : Int
  breadth : Int
  length_pos : 0 < length
  handle_nonneg : 0 ≤ handle
  handle_le : handle ≤ length

variable {α : Type} [Arith α]

def boxAlong (o : Orientation) (part : Part) (place side length breadth : Int) : Stroke α :=
  match o with
  | .vertical => .box part (ofInt side) (ofInt place) (ofInt breadth) (ofInt length)
  | .horizontal => .box part (ofInt place) (ofInt side) (ofInt length) (ofInt breadth)

/-- The rectangle of the handle at a place of the track. -/
def Measures.handleAt (m : Measures) (o : Orientation) (place : Int) : Stroke α :=
  boxAlong o .handle place (m.side - m.handle.fdiv 2 + m.breadth.fdiv 2) m.handle m.handle

/-- All that is drawn of a slider, and the shape of the cursor over it. -/
def Measures.drawing (m : Measures) (o : Orientation) (hover : Bool) (place : Int) : List (Stroke α) :=
  (if hover then [.hand] else []) ++ [boxAlong o .track m.start m.side m.length m.breadth,
    boxAlong o .bar m.start m.side (place - m.start) m.breadth, m.handleAt o place]

/-- A slider of these measures as it is made, but for what using it changes. -/
structure Made (m : Measures) (s : Slider α) : Prop where
  start : s.orientation.start s = ofInt m.start
  length : s.orientation.length s = ofInt m.length
  handle : s.handle = ofInt m.handle
  side : s.orientation.side s = ofInt m.side
  breadth : s.orientation.breadth s = ofInt m.breadth
  color : ∀ part, ∃ v, (s.colorOf part).present? = .ok v
  added : Table.has s.added "isHover" = false
  active : ∃ b, s.active = .bool b

def ofInts (p : Int × Int) : α × α := (ofInt p.1, ofInt p.2)

variable {m : Measures} {s : Slider α}

theorem along_ofInts (o : Orientation) (mouse : Int × Int) : o.along (ofInts mouse : α × α) = ofInt (o.along mouse) := by
  cases o <;> rfl

theorem Made.set (made : s.Made m) (percent : α) (visible hover : Value) (active : Bool) :
    Made m { s with percent, visible, hover, active := .bool active } where
  start := made.start
  length := made.length
  handle := made.handle
  side := made.side
  breadth := made.breadth
  color := made.color
  added := made.added
  active := ⟨_, rfl⟩

/-- A horizontal slider of these measures. -/
def ofMeasures (m : Measures) : Slider α where
  orientation := .horizontal
  x := ofInt m.start
  y := ofInt m.side
  width := ofInt m.length
  height := ofInt m.breadth
  handle := ofInt m.handle
  percent := ofInt 50

theorem made_ofMeasures (m : Measures) : (ofMeasures m : Slider α).Made m :=
  ⟨rfl, rfl, rfl, rfl, rfl, fun part => by cases part <;> exact ⟨_, rfl⟩, rfl, ⟨_, rfl⟩⟩

/-! ## Percentages -/

/-- The percentages that can be set. -/
def Accepts (p : α) : Prop := Arith.lt p (ofInt 0) = .ok false ∧ Arith.lt (ofInt 100) p = .ok false

/-- A percentage that is refused leaves the slider as it was. -/
theorem setPercent_cases (s : Slider α) (p : α) :
    Accepts p ∧ (setPercent p).react s = (.ok (), { s with percent := p }, []) ∨
      ¬ Accepts p ∧ ∃ e, (setPercent p).react s = (.error e, s, []) := by
  simp only [setPercent_eq, Vertical.setPercent, Accepts, react_bind, react_ofExcept]
  rcases Arith.lt p (ofInt 0) with e | low
  · exact .inr ⟨by simp, e, rfl⟩
  cases low with
  | true => rcases Arith.text? p with e | text <;> exact .inr ⟨by simp, _, rfl⟩
  | false =>
    rcases Arith.lt (ofInt 100) p with e | high
    · exact .inr ⟨by simp, e, rfl⟩
    cases high with
    | true => rcases Arith.text? p with e | text <;> exact .inr ⟨by simp, _, rfl⟩
    | false => exact .inl ⟨⟨rfl, rfl⟩, rfl⟩

theorem accepts_int (p : Int) : Accepts (ofInt p : ℚ) ↔ 0 ≤ p ∧ p ≤ 100 := by
  simp only [Accepts, Arith.lt, ofInt, Except.ok.injEq, decide_eq_false_iff_not, not_lt, Int.cast_le]

variable [Integral α]

/-! ## Drawing -/

theorem stroke_react (o : Orientation) (t : Slider α) {part : Part}
    (color : ∃ v, (t.colorOf part).present? = .ok v) (place side length breadth : Int) :
    (o.stroke part (ofInt place) (ofInt side) (ofInt length) (ofInt breadth)).react t =
      (.ok (), t, [boxAlong o part place side length breadth]) := by
  obtain ⟨v, color⟩ := color
  have plain : ∀ x y w h : Int, (stroke part (ofInt x) (ofInt y) (ofInt w) (ofInt h)).react t =
      (.ok (), t, [.box part (ofInt x) (ofInt y) (ofInt w) (ofInt h)]) := by
    intro x y w h
    simp only [stroke, react_bind, react_state, react_ofExcept, color, List.forIn_cons,
      List.forIn_nil, Integral.present, Integral.truncate, react_emit, react_pure]
    rfl
  cases o <;> exact plain _ _ _ _

theorem between?_ofInt {low high : Except Fault α} {a b : Int} (hlow : low = .ok (ofInt a)) (hhigh : high = .ok (ofInt b))
    (n : Int) : ∃ c, between? low high (ofInt n) = .ok c := by
  simp only [between?, hlow, hhigh, Integral.le, bind, Except.bind]
  split <;> exact ⟨_, rfl⟩

theorem Made.over? (made : s.Made m) (mouse : Int × Int) : ∃ b, s.orientation.over? s (ofInts mouse) = .ok b := by
  have along : ∀ n : Int, ∃ b, s.orientation.alongTrack? s (ofInt n) = .ok b :=
    between?_ofInt (by rw [made.start]; rfl) (by rw [made.start, made.length, Integral.add])
  have across : ∀ n : Int, ∃ b, s.orientation.acrossTrack? s (ofInt n) = .ok b :=
    between?_ofInt (a := m.side - m.handle.fdiv 2) (b := m.side + m.handle.fdiv 2)
      (by simp only [made.side, made.handle, Integral.half, Integral.sub, bind, Except.bind])
      (by simp only [made.side, made.handle, Integral.half, Integral.add, bind, Except.bind])
  cases o : s.orientation <;> rw [o] at along across
  · obtain ⟨a, ha⟩ := along mouse.2
    obtain ⟨b, hb⟩ := across mouse.1
    simp only [Orientation.over?, ofInts, ha, hb, bind, Except.bind]
    split <;> exact ⟨_, rfl⟩
  · obtain ⟨a, ha⟩ := along mouse.1
    obtain ⟨b, hb⟩ := across mouse.2
    simp only [Orientation.over?, ofInts, ha, hb, bind, Except.bind]
    split <;> exact ⟨_, rfl⟩

/-- What drawing a visible slider does, when it is known where its handle is put. -/
theorem draw_react (made : s.Made m) (visible : holds? s.visible = .ok true) (mouse : Int × Int)
    {place : Int} {percent : α} (placed : ∀ t hover, t = { s with hover } →
      (s.orientation.placeHandle (ofInts mouse)).react t = (.ok (ofInt place), { t with percent }, [])) :
    ∃ hover : Bool, (draw (ofInts mouse)).react s =
      (.ok (), { s with hover := .bool hover, percent }, m.drawing s.orientation hover place) := by
  obtain ⟨hover, found⟩ := made.over? mouse
  obtain ⟨active, held⟩ := made.active
  obtain ⟨t, ht⟩ : ∃ t, t = { s with hover := .bool hover } := ⟨_, rfl⟩
  have noticed : (s.orientation.isHover (ofInts mouse)).react s = (.ok (), t, if hover then [.hand] else []) := by
    simp only [Orientation.isHover, react_bind, react_state, react_ofExcept, found, react_change, ht]
    cases hover <;> rfl
  have kept : t.Made m := by
    have kept := made.set s.percent s.visible (.bool hover) active
    rwa [← held, ← ht] at kept
  have same : s.orientation = t.orientation := by rw [ht]
  obtain ⟨u, hu⟩ : ∃ u, u = { t with percent } := ⟨_, rfl⟩
  have placed : (s.orientation.placeHandle (ofInts mouse)).react t = (.ok (ofInt place), u, []) := by
    rw [hu, placed t _ ht]
  have color : ∀ part, ∃ v, (u.colorOf part).present? = .ok v := by
    rw [hu]
    exact kept.color
  have middle : (do
      Arith.add (← Arith.sub (ofInt m.side) (← Arith.half (ofInt m.handle))) (← Arith.half (ofInt m.breadth)) :
      Except Fault α) = .ok (ofInt (m.side - m.handle.fdiv 2 + m.breadth.fdiv 2)) := by
    simp only [Integral.half, Integral.sub, Integral.add, bind, Except.bind]
  refine ⟨hover, ?_⟩
  rw [same] at noticed placed
  rw [draw_along, same]
  simp only [Orientation.draw, react_bind, react_state, react_ofExcept, visible, Bool.not_true,
    Bool.false_eq_true, if_false, made.added, noticed, kept.start, kept.length, kept.side, kept.breadth, kept.handle,
    stroke_react t.orientation t (kept.color .track), placed, stroke_react t.orientation u (color .bar),
    stroke_react t.orientation u (color .handle), Integral.sub, middle]
  subst hu ht
  cases hover <;> rfl

/-! ## The handle -/

/-- Where a handle is dragged to by the mouse. -/
def Measures.dragged (m : Measures) (mouse : Int) : Int := max m.start (min mouse (m.start + m.length - m.handle))

theorem Made.dragged? (made : s.Made m) (mouse : Int × Int) :
    s.orientation.dragged? s (s.orientation.along (ofInts mouse)) =
      .ok (ofInt (m.dragged (s.orientation.along mouse))) := by
  have fits := m.handle_le
  simp only [Orientation.dragged?, along_ofInts, made.start, made.length, made.handle, Integral.le, Integral.add,
    Integral.sub, bind, Except.bind, decide_eq_true_eq, Measures.dragged]
  split
  · next before => rw [max_eq_left (min_le_of_left_le before)]; rfl
  · next after =>
    split
    · next beyond => rw [min_eq_right beyond, max_eq_right (by omega)]; rfl
    · next within => rw [min_eq_left (by omega), max_eq_right (by omega)]; rfl

theorem Made.percentAt?_eq (made : s.Made m) (place : Int) : s.orientation.percentAt? s (ofInt place) =
    Arith.div (ofInt (50 * (m.handle + 2 * place - 2 * m.start))) (ofInt m.length) := by
  simp only [Orientation.percentAt?, made.start, made.length, made.handle, Integral.mul, Integral.add, Integral.sub, bind,
    Except.bind]

/-- Drawing a slider while its handle is dragged. -/
theorem Made.drag (made : s.Made m) (visible : holds? s.visible = .ok true) (active : s.active = .bool true)
    (mouse : Int × Int) {percent : α}
    (found : s.orientation.percentAt? s (ofInt (m.dragged (s.orientation.along mouse))) = .ok percent) :
    ∃ hover : Bool, (draw (ofInts mouse)).react s = (.ok (), { s with hover := .bool hover, percent },
      m.drawing s.orientation hover (m.dragged (s.orientation.along mouse))) := by
  refine draw_react made visible mouse fun t hover same => ?_
  have held : holds? t.active = .ok true := by rw [same, active]; rfl
  have place := made.dragged? mouse
  have percent : s.orientation.percentAt? t = s.orientation.percentAt? s := by
    rw [same]
    cases s.orientation <;> rfl
  have same : s.orientation.dragged? t = s.orientation.dragged? s := by
    rw [same]
    cases s.orientation <;> rfl
  simp only [Orientation.placeHandle, react_bind, react_state, react_ofExcept, held, if_true, same, place, percent, found]
  rfl

/-- Drawing a slider that nobody holds. -/
theorem Made.rest (made : s.Made m) (visible : holds? s.visible = .ok true) (active : s.active = .bool false)
    (mouse : Int × Int) {place : Int} (found : s.orientation.resting? s = .ok (ofInt place)) :
    ∃ hover : Bool, (draw (ofInts mouse)).react s =
      (.ok (), { s with hover := .bool hover }, m.drawing s.orientation hover place) := by
  refine draw_react made visible mouse fun t hover same => ?_
  have held : holds? t.active = .ok false := by rw [same, active]; rfl
  have kept : s.percent = t.percent := by rw [same]
  have same : s.orientation.resting? t = s.orientation.resting? s := by
    rw [same]
    cases s.orientation <;> rfl
  simp only [Orientation.placeHandle, react_bind, react_state, react_ofExcept, held, Bool.false_eq_true,
    if_false, same, found, kept]
  rfl

/-! ## In exact arithmetic -/

theorem Measures.dragged_bounds (m : Measures) (mouse : Int) :
    m.start ≤ m.dragged mouse ∧ m.dragged mouse ≤ m.start + m.length - m.handle := by
  have fits := m.handle_le
  exact ⟨le_max_left _ _, max_le (by omega) (min_le_right _ _)⟩

theorem Measures.dragged_mono (m : Measures) {n n' : Int} (le : n ≤ n') : m.dragged n ≤ m.dragged n' :=
  max_le_max le_rfl (min_le_min le le_rfl)

def Measures.percentAt (m : Measures) (place : Int) : ℚ := 50 * (m.handle + 2 * place - 2 * m.start) / m.length

theorem Measures.percentAt_mono (m : Measures) {p p' : Int} (le : p ≤ p') : m.percentAt p ≤ m.percentAt p' := by
  have pos : (0 : ℚ) < m.length := by exact_mod_cast m.length_pos
  have le : (p : ℚ) ≤ p' := by exact_mod_cast le
  exact div_le_div_of_nonneg_right (by linarith) pos.le

/-- The middle of the handle is on the track. -/
theorem Measures.percentAt_dragged (m : Measures) (mouse : Int) :
    0 ≤ m.percentAt (m.dragged mouse) ∧ m.percentAt (m.dragged mouse) ≤ 100 := by
  obtain ⟨low, high⟩ := m.dragged_bounds mouse
  generalize m.dragged mouse = place at low high
  have pos : (0 : ℚ) < m.length := by exact_mod_cast m.length_pos
  have nonneg : (0 : ℚ) ≤ m.handle := by exact_mod_cast m.handle_nonneg
  have low : (m.start : ℚ) ≤ place := by exact_mod_cast low
  have high : (place : ℚ) ≤ m.start + m.length - m.handle := by exact_mod_cast high
  exact ⟨div_nonneg (by linarith) pos.le, (div_le_iff₀ pos).2 (by linarith)⟩

section

variable {s : Slider ℚ}

theorem Made.percentAt? (made : s.Made m) (place : Int) :
    s.orientation.percentAt? s (ofInt place) = .ok (m.percentAt place) := by
  have ne : (m.length : ℚ) ≠ 0 := by exact_mod_cast m.length_pos.ne'
  rw [made.percentAt?_eq]
  refine (if_neg ne).trans (congrArg Except.ok ?_)
  rw [Measures.percentAt]
  simp only [Arith.ofInt]
  push_cast
  rfl

theorem Made.resting? (made : s.Made m) : ∃ place : Int, s.orientation.resting? s = .ok (ofInt place) := by
  have hundred : ((100 : Int) : ℚ) ≠ 0 := by norm_num
  have two : ((2 : Int) : ℚ) ≠ 0 := by norm_num
  simp only [Orientation.resting?, made.start, made.length, made.handle, Arith.mul, Arith.add, Arith.sub, Arith.div,
    Arith.round?, Arith.ofInt, bind, Except.bind, if_neg hundred, if_neg two]
  exact ⟨_, rfl⟩

/-- What is done to a slider. -/
inductive Step where
  | draw (mouse : Int × Int)
  | press (e : Event)
  | setPercent (percent : Int)
  | setVisible (visible : Value)

/-- The slider after a step, which may have failed. -/
def Step.after : Step → Slider ℚ → Slider ℚ
  | draw mouse, s => ((Slider.draw (ofInts mouse)).react s).2.1
  | press e, s => ((Slider.press e).react s).2.1
  | setPercent percent, s => ((Slider.setPercent (ofInt percent)).react s).2.1
  | setVisible visible, s => ((Slider.setVisible visible).react s).2.1

def run (steps : List Step) (s : Slider ℚ) : Slider ℚ := steps.foldl (fun s step => step.after s) s

/-- A slider with a percentage in its range. -/
structure InRange (m : Measures) (s : Slider ℚ) : Prop where
  made : s.Made m
  low : 0 ≤ s.percent
  high : s.percent ≤ 100

theorem InRange.set (h : s.InRange m) {percent : ℚ} (low : 0 ≤ percent) (high : percent ≤ 100) (visible : Value)
    (hover : Value) (active : Bool) : InRange m { s with percent, visible, hover, active := .bool active } :=
  ⟨h.made.set percent visible hover active, low, high⟩

theorem InRange.draw (h : s.InRange m) (mouse : Int × Int) : ((draw (ofInts mouse)).react s).2.1.InRange m := by
  rcases visible : holds? s.visible with e | shown
  · simp only [draw_along, Orientation.draw, react_bind, react_state, react_ofExcept, visible]
    exact h
  obtain ⟨active, held⟩ := h.made.active
  cases shown with
  | false =>
    simp only [draw_along, Orientation.draw, react_bind, react_state, react_ofExcept, visible, Bool.not_false,
      if_true]
    exact h
  | true =>
    cases active with
    | true =>
      obtain ⟨hover, drawn⟩ := h.made.drag visible held mouse (h.made.percentAt? _)
      obtain ⟨low, high⟩ := m.percentAt_dragged (s.orientation.along mouse)
      rw [drawn, held]
      exact h.set low high _ _ _
    | false =>
      obtain ⟨place, found⟩ := h.made.resting?
      obtain ⟨hover, drawn⟩ := h.made.rest visible held mouse found
      rw [drawn, held]
      exact h.set h.low h.high _ _ _

theorem InRange.press (h : s.InRange m) (e : Event) : ((press e).react s).2.1.InRange m := by
  have held (b : Bool) : InRange m { s with active := .bool b } := h.set h.low h.high _ _ b
  have unheld : ((do
      if (← Reaction.ofExcept (holds? s.active)) && e.isKind Event.mouseUp then
        Reaction.change fun s => { s with active := .bool false }
      return false : Doing ℚ Bool).react s).2.1.InRange m := by
    rcases holds? s.active with e' | active
    · exact h
    · cases active <;> cases up : e.isKind Event.mouseUp <;> simp [react_bind]
      · exact h
      · exact h
      · exact h
      · exact held false
  simp only [press_eq, Vertical.press, react_bind, react_state] at unheld ⊢
  cases e.isKind Event.mouseDown
  · exact unheld
  · rcases holds? s.hover with e' | hover
    · exact h
    · cases hover
      · exact unheld
      · exact held true

theorem Step.inRange (h : s.InRange m) (step : Step) : (step.after s).InRange m := by
  obtain ⟨active, held⟩ := h.made.active
  cases step with
  | draw mouse => exact h.draw mouse
  | press e => exact h.press e
  | setPercent p =>
    rcases setPercent_cases s (ofInt p) with ⟨inside, set⟩ | ⟨-, e, kept⟩
    · obtain ⟨low, high⟩ := (accepts_int p).1 inside
      rw [after, set, held]
      exact h.set (Int.cast_nonneg low) (by exact_mod_cast (Int.cast_le (R := ℚ)).2 high) _ _ _
    · rw [after, kept]
      exact h
  | setVisible v =>
    rw [after, setVisible_eq]
    show InRange m { s with visible := v }
    rw [held]
    exact h.set h.low h.high _ _ _

theorem InRange.run (h : s.InRange m) (steps : List Step) : (s.run steps).InRange m := by
  induction steps generalizing s with
  | nil => exact h
  | cons step rest ih => exact ih (step.inRange h)

end

/-- Whatever is done to a slider whose percentage is in its range, it stays there. While the handle is dragged,
it is drawn on the track, and the percentage does not fall when the mouse moves forward. A percentage out of the
range is refused, in any arithmetic. -/
theorem percent_stays_in_range {s : Slider ℚ} (h : s.InRange m) (steps : List Step) :
    (0 ≤ (s.run steps).percent ∧ (s.run steps).percent ≤ 100) ∧
    (holds? (s.run steps).visible = .ok true → (s.run steps).active = .bool true → ∀ mouse : Int × Int,
      ∃ (place : Int) (hover : Bool) (t : Slider ℚ), (draw (ofInts mouse)).react (s.run steps) =
          (.ok (), t, m.drawing (s.run steps).orientation hover place) ∧
        m.start ≤ place ∧ place ≤ m.start + m.length - m.handle ∧
        ∀ mouse', (s.run steps).orientation.along mouse ≤ (s.run steps).orientation.along mouse' →
          t.percent ≤ ((draw (ofInts mouse')).react (s.run steps)).2.1.percent) ∧
    (∀ p : Int, (((setPercent (ofInt p)).react (s.run steps)).1 = .ok () ↔ 0 ≤ p ∧ p ≤ 100)) ∧
    ∀ {β : Type} [Arith β] (t : Slider β) (p : β) (e : Fault), ((setPercent p).react t).1 = .error e →
      ((setPercent p).react t).2.1 = t := by
  have kept := h.run steps
  generalize s.run steps = t at kept
  refine ⟨⟨kept.low, kept.high⟩, fun visible active mouse => ?_, fun p => ?_, fun t p e refused => ?_⟩
  · have dragged (mouse : Int × Int) := kept.made.drag visible active mouse (kept.made.percentAt? _)
    obtain ⟨hover, drawn⟩ := dragged mouse
    obtain ⟨low, high⟩ := m.dragged_bounds (t.orientation.along mouse)
    refine ⟨_, hover, _, drawn, low, high, fun mouse' le => ?_⟩
    obtain ⟨_, later⟩ := dragged mouse'
    rw [later]
    exact m.percentAt_mono (m.dragged_mono le)
  · rw [← accepts_int]
    rcases setPercent_cases t (ofInt p) with ⟨inside, set⟩ | ⟨outside, e, kept⟩
    · simp [set, inside]
    · simp [kept, outside]
  · rcases setPercent_cases t p with ⟨-, set⟩ | ⟨-, _, kept⟩
    · rw [set] at refused
      cases refused
    · rw [kept]

/-- A track of 200 pixels with a handle of ten. -/
def tenOfTwoHundred : Measures := ⟨0, 200, 10, 0, 5, by decide, by decide, by decide⟩

theorem percent_of_dragged : ((ofMeasures tenOfTwoHundred).run
    [.draw (90, 0), .press ⟨[("type", Value.int Event.mouseDown)]⟩,
    .draw (950, -7), .press ⟨[("type", Value.int Event.mouseUp)]⟩, .setPercent 130]).percent ≤ 100 :=
  (percent_stays_in_range ⟨made_ofMeasures _, by norm_num [ofMeasures, ofInt], by norm_num [ofMeasures, ofInt]⟩ _).1.2

end Slider

end Widget

end BlockStage
