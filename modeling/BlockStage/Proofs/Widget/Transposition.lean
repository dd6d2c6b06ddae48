import BlockStage.Widget.Toolkit

/-!
# Vertical and horizontal sliders

With their coordinates, their sizes and the mouse exchanged, a vertical slider and a horizontal one answer the same,
fail alike and draw each other's transposes (`Slider.transposed_uses`): each method of `Slider.Vertical` is compared
with the one of `Slider.Horizontal` (`Slider.Mirrors`). They test the mouse and hand their measures over in different
orders, so these must not fail across the track (`Slider.Steady`), which integers do not.
-/

namespace BlockStage.Widget

def Orientation.other : Orientation → Orientation
  | .vertical => .horizontal
  | .horizontal => .vertical

namespace Slider

/-! ## Transposes -/

section

variable {α : Type} (s : Slider α)

def transpose : Slider α :=
  { s with orientation := s.orientation.other, x := s.y, y := s.x, width := s.height, height := s.width }

def Stroke.transpose : Stroke α → Stroke α
  | .hand => .hand
  | .box part x y w h => .box part y x h w

end

/-! ## Steady sliders -/

def Whole (v : Value) : Prop := ∃ n, v.toInt? = .ok n

/-- A vertical slider that can be tested for every place of the mouse, and whose measures across the track have
integer parts. -/
structure Steady (s : Slider Value) : Prop where
  vertical : s.orientation = .vertical
  across : ∀ m : Number, ∃ b, between? (do Arith.sub s.x (← Arith.half s.handle))
    (do Arith.add s.x (← Arith.half s.handle)) (.num m) = .ok b
  along : ∀ m : Number, ∃ b, between? (return s.y) (Arith.add s.y s.height) (.num m) = .ok b
  x : Whole s.x
  width : Whole s.width
  handle : Whole s.handle
  handlePosX : ∃ v, (do Arith.add (← Arith.sub s.x (← Arith.half s.handle)) (← Arith.half s.width)) = .ok v ∧ Whole v

theorem steady_of_int {s : Slider Value} (vertical : s.orientation = .vertical)
    (geometry : ∀ v ∈ [s.x, s.y, s.width, s.height, s.handle], ∃ n, v = Value.int n) : s.Steady := by
  obtain ⟨⟨x, hx⟩, ⟨y, hy⟩, ⟨w, hw⟩, ⟨h, hh⟩, ⟨k, hk⟩, -⟩ := by simpa only [List.forall_mem_cons] using geometry
  obtain ⟨_, _, _, _, _, _⟩ := s
  cases hx; cases hy; cases hw; cases hh; cases hk
  have tested : ∀ (low high : Int) (m : Number),
      ∃ b, between? (.ok (Value.int low)) (.ok (Value.int high)) (.num m) = .ok b := by
    intro low high m
    cases le : Number.le (.int low) m <;>
      simp [between?, Arith.le, Value.le?, Value.int, le, bind, Except.bind, pure, Except.pure]
  exact ⟨vertical, tested _ _, tested _ _, ⟨_, rfl⟩, ⟨_, rfl⟩, ⟨_, rfl⟩, ⟨_, rfl, _, rfl⟩⟩

theorem Steady.horizontal {s : Slider Value} (h : s.Steady) : s.transpose.orientation = .horizontal := by
  rw [transpose, h.vertical]
  rfl

theorem Steady.set {s : Slider Value} (h : s.Steady) (percent visible hover active : Value) :
    Steady { s with percent := percent, visible := visible, hover := hover, active := active } :=
  ⟨h.vertical, h.across, h.along, h.x, h.width, h.handle, h.handlePosX⟩

theorem Whole.present {v : Value} (h : Whole v) : ∃ u, v.present? = .ok u := by
  obtain ⟨n, hn⟩ := h
  cases v with
  | absent => cases hn
  | _ => exact ⟨_, rfl⟩

/-- The two tests are made in different orders, which does not matter if both can be made. -/
theorem Steady.over? {s : Slider Value} (h : s.Steady) (x y : Number) :
    Horizontal.over? s.transpose (.num y, .num x) = Vertical.over? s (.num x, .num y) := by
  obtain ⟨b, across⟩ := h.across x
  obtain ⟨a, along⟩ := h.along y
  have across' : between? (do Arith.sub s.transpose.y (← Arith.half s.transpose.handle))
    (do Arith.add s.transpose.y (← Arith.half s.transpose.handle)) (.num x) = .ok b := across
  have along' : between? (return s.transpose.x) (Arith.add s.transpose.x s.transpose.width) (.num y) = .ok a := along
  simp only [Horizontal.over?, Vertical.over?, across, along, across', along']
  cases a <;> cases b <;> rfl

/-! ## Reactions that mirror each other -/

variable {α β : Type} {r r' : Doing Value α}

/-- Where a steady slider reacts in one way and its transpose in the other, they do the same, transposed. The first is
vertical and the second horizontal. -/
def Mirrors (r r' : Doing Value α) : Prop :=
  ∀ s : Slider Value, s.Steady → (r.react s).2.1.Steady ∧
    r'.react s.transpose = ((r.react s).1, (r.react s).2.1.transpose, (r.react s).2.2.map Stroke.transpose)

namespace Mirrors

theorem pure (a : α) : Mirrors (Pure.pure a) (Pure.pure a) := fun _ h => ⟨h, rfl⟩

theorem throw (e : Fault) : Mirrors (MonadExcept.throw e : Reaction _ _ α) (MonadExcept.throw e) :=
  fun _ h => ⟨h, rfl⟩

theorem ofExcept (e : Except Fault α) : Mirrors (Reaction.ofExcept e) (Reaction.ofExcept e) := fun _ h => ⟨h, rfl⟩

theorem emit (e : Stroke Value) : Mirrors (Reaction.emit e) (Reaction.emit e.transpose) := fun _ h => ⟨h, rfl⟩

theorem change {f : Slider Value → Slider Value}
    (h : ∀ s, s.Steady → (f s).Steady ∧ f s.transpose = (f s).transpose) :
    Mirrors (Reaction.change f) (Reaction.change f) := fun s steady =>
  ⟨(h s steady).1, congrArg (fun t => (Except.ok (), t, [])) (h s steady).2⟩

theorem state_bind {f f' : Slider Value → Doing Value β} (h : ∀ s, s.Steady → Mirrors (f s) (f' s.transpose)) :
    Mirrors (Reaction.state >>= f) (Reaction.state >>= f') := fun s steady => h s steady s steady

/-- The second reactions need to mirror each other for what the first one answers. -/
theorem bind_of {f f' : α → Doing Value β} {P : α → Prop} (h : Mirrors r r')
    (answers : ∀ s, s.Steady → ∀ a, (r.react s).1 = .ok a → P a) (k : ∀ a, P a → Mirrors (f a) (f' a)) :
    Mirrors (r >>= f) (r' >>= f') := by
  intro s steady
  obtain ⟨kept, same⟩ := h s steady
  have holds := answers s steady
  rw [Reaction.react_bind, Reaction.react_bind, same]
  generalize r.react s = reacted at kept holds
  rcases reacted with ⟨e | a, t, out⟩
  · exact ⟨kept, rfl⟩
  · obtain ⟨kept, same⟩ := k a (holds a rfl) t kept
    refine ⟨kept, ?_⟩
    dsimp only
    rw [same, List.map_append]

theorem bind {f f' : α → Doing Value β} (h : Mirrors r r')
    (k : ∀ a, Mirrors (f a) (f' a)) : Mirrors (r >>= f) (r' >>= f') :=
  h.bind_of (P := fun _ => True) (fun _ _ _ _ => trivial) fun a _ => k a

theorem ofExcept_bind {f f' : α → Doing Value β} {e e' : Except Fault α} (same : e' = e)
    (k : ∀ a, e = .ok a → Mirrors (f a) (f' a)) :
    Mirrors (Reaction.ofExcept e >>= f) (Reaction.ofExcept e' >>= f') :=
  same ▸ (ofExcept e).bind_of (fun _ _ _ h => h) k

theorem ite {c : Prop} [Decidable c] {t t' : Doing Value α} (yes : Mirrors r r')
    (no : Mirrors t t') : Mirrors (if c then r else t) (if c then r' else t') := by
  split
  · exact yes
  · exact no

theorem byKind {t t' : Doing Value α} (h : Mirrors r t') : Mirrors (byKind r t) (byKind r' t') := by
  refine .state_bind fun s steady => ?_
  rw [steady.vertical, steady.horizontal]
  exact h

end Mirrors

/-! ## What a slider does -/

theorem mirrors_isHover (x y : Number) :
    Mirrors (Vertical.isHover (.num x, .num y)) (Horizontal.isHover (.num y, .num x)) := by
  refine .state_bind fun s steady => .ofExcept_bind (steady.over? x y) fun hovered _ => ?_
  refine .bind (.change fun s steady => ⟨steady.set _ _ _ _, rfl⟩) fun _ => ?_
  cases hovered
  · exact .pure ()
  · exact .emit .hand

/-- All values pass a check, and the first one that does not fails. -/
def checkAll {γ : Type} (check : Value → Except Fault γ) : List Value → Except Fault Unit
  | [] => .ok ()
  | v :: rest => do
    let _ ← check v
    checkAll check rest

theorem for_ofExcept {γ : Type} (check : Value → Except Fault γ) (vs : List Value) :
    (do for v in vs do let _ ← Reaction.ofExcept (check v) : Doing Value Unit) =
      Reaction.ofExcept (checkAll check vs) := by
  induction vs with
  | nil => rfl
  | cons v rest ih =>
    rw [List.forIn_cons, checkAll]
    cases check v with
    | error e => rfl
    | ok c => exact ih

theorem checkAll_across {γ : Type} {check : Value → Except Fault γ} (place length : Value) {side breadth : Value}
    {a b : γ} (hs : check side = .ok a) (hb : check breadth = .ok b) :
    checkAll check [side, place, breadth, length] = checkAll check [place, length] ∧
      checkAll check [place, side, length, breadth] = checkAll check [place, length] := by
  simp only [checkAll, hs, hb]
  cases check place <;> cases check length <;> exact ⟨rfl, rfl⟩

theorem stroke_eq (part : Part) (x y w h : Value) : stroke part x y w h = (do
    let _ ← Reaction.ofExcept (colorOf (← Reaction.state) part).present?
    let _ ← Reaction.ofExcept (checkAll Value.present? [x, y, w, h])
    Reaction.emit (.box part x y w h)
    Reaction.ofExcept (checkAll Value.toInt? [x, y, w, h])) := by
  simp only [stroke, ← for_ofExcept, bind_assoc, pure_bind]
  rfl

/-- Of the numbers of a rectangle only those along the track can fail, so that their order does not
matter. -/
theorem mirrors_stroke (part : Part) {x y width height : Value} (hx : Whole x) (hw : Whole width) :
    Mirrors (stroke part x y width height) (stroke part y x height width) := by
  obtain ⟨_, px⟩ := hx.present
  obtain ⟨_, pw⟩ := hw.present
  obtain ⟨_, tx⟩ := hx
  obtain ⟨_, tw⟩ := hw
  have shown := checkAll_across y height px pw
  have cut := checkAll_across y height tx tw
  simp only [stroke_eq, shown, cut]
  exact .state_bind fun s _ => .bind (.ofExcept _) fun _ => .bind (.ofExcept _) fun _ => .bind (.emit _) fun _ =>
    .ofExcept _

theorem mirrors_placeHandle (mouse : Value × Value) :
    Mirrors (Vertical.placeHandle mouse) (Horizontal.placeHandle mouse.swap) := by
  refine .state_bind fun s _ => .ofExcept_bind rfl fun active _ => ?_
  cases active with
  | false => exact .ofExcept _
  | true =>
    -- what is computed along the track is the same for both
    have dragged : Horizontal.dragged? s.transpose mouse.2 = Vertical.dragged? s mouse.2 := rfl
    have percent : ∀ place, Horizontal.percentAt? s.transpose place = Vertical.percentAt? s place := fun _ => rfl
    refine .ofExcept_bind dragged fun place _ => .ofExcept_bind (percent place) fun v _ => ?_
    exact .bind (.change fun s steady => ⟨steady.set _ _ _ _, rfl⟩) fun _ => .pure place

theorem mirrors_draw (x y : Number) : Mirrors (Vertical.draw (.num x, .num y)) (Horizontal.draw (.num y, .num x)) := by
  refine .state_bind fun s steady => .ofExcept_bind rfl fun visible _ => ?_
  cases visible with
  | false => exact .pure ()
  | true =>
    refine .state_bind fun s _ => ?_
    show Mirrors (if Table.has s.added "isHover" then _ else _) (if Table.has s.added "isHover" then _ else _)
    split
    · exact .throw _
    · refine .bind (mirrors_isHover x y) fun _ => .state_bind fun s steady => ?_
      refine .bind (mirrors_stroke .track steady.x steady.width) fun _ => ?_
      refine .bind (mirrors_placeHandle _) fun handlePosY => .ofExcept_bind rfl fun height _ => ?_
      refine .ofExcept_bind rfl fun handlePosX found => .bind (mirrors_stroke .bar steady.x steady.width) fun _ => ?_
      obtain ⟨_, computed, whole⟩ := steady.handlePosX
      cases computed.symm.trans found
      exact mirrors_stroke .handle whole steady.handle

theorem mirrors_press (e : Event) : Mirrors (Vertical.press e) (Horizontal.press e) := by
  have active : ∀ b, Mirrors (Reaction.change fun s : Slider Value => { s with active := .bool b })
      (Reaction.change fun s => { s with active := .bool b }) := fun b =>
    .change fun s steady => ⟨steady.set _ _ _ _, rfl⟩
  refine .state_bind fun s _ => .ite (.ofExcept_bind rfl fun taken _ => ?_) (.bind (.pure false) fun taken => ?_)
  all_goals
    refine .ite (.bind (active true) fun _ => .pure true) (.ofExcept_bind rfl fun held _ => ?_)
    exact .ite (.bind (active false) fun _ => .pure false) (.pure false)

theorem mirrors_setPercent (v : Value) : Mirrors (Vertical.setPercent v) (Horizontal.setPercent v) := by
  refine .ofExcept_bind rfl fun low _ => .ite (.bind (.pure true) fun outside => ?_)
    (.ofExcept_bind rfl fun outside _ => ?_)
  all_goals
    refine .ite (.ofExcept_bind rfl fun text _ => .bind (.throw _) fun _ => ?_) ?_
    all_goals exact .change fun s steady => ⟨steady.set _ _ _ _, rfl⟩

theorem mirrors_setVisible (v : Value) : Mirrors (Vertical.setVisible v) (Horizontal.setVisible v) :=
  .change fun _ steady => ⟨steady.set _ _ _ _, rfl⟩

/-! ## Uses -/

/-- What is done to a slider. -/
inductive Use where
  | draw
  | press (given : Item.Given)
  | setPercent (given : Item.Given)
  | setVisible (given : Item.Given)

namespace Use

def name : Use → String
  | draw => "draw"
  | press _ => "getPressed"
  | setPercent _ => "setPercent"
  | setVisible _ => "setVisible"

def args : Use → List Item.Given
  | draw => []
  | press given | setPercent given | setVisible given => [given]

theorem mirrors_useSlider (u : Use) (host : Host) :
    Mirrors (Item.useSlider host u.name u.args) (Item.useSlider { host with mouse := host.mouse.swap } u.name u.args) := by
  cases u with
  | draw => exact .bind (mirrors_draw _ _).byKind fun _ => .pure _
  | press given => exact .ofExcept_bind rfl fun e _ => .bind (mirrors_press e).byKind fun _ => .pure _
  | setPercent given => exact .bind (mirrors_setPercent _).byKind fun _ => .pure _
  | setVisible given => exact .bind (mirrors_setVisible _).byKind fun _ => .pure _

end Use

end Slider

/-! ## Widgets in a window -/

namespace Item

def transpose : Item → Item
  | .slider s => .slider s.transpose
  | item => item

end Item

def transposedCall : Call → Call
  | .rect on color (.box x y w h) style => .rect on color (.box y x h w) style
  | call => call

namespace Slider

theorem call_transpose (window : Surface) (s : Slider Value) (k : Stroke Value) :
    k.transpose.call window s.transpose = transposedCall (k.call window s) := by
  cases k <;> rfl

/-- A slider can be used unless an attribute of that name was added to it. -/
theorem use_react (window : Surface) (host : Host) (u : Use) (s : Slider Value) :
    (Item.use window host u.name u.args).react (.slider s) =
      if (Table.get? s.added u.name).isSome then (.error .wrongKind, .slider s, [])
      else
        (((Item.useSlider host u.name u.args).react s).1, .slider ((Item.useSlider host u.name u.args).react s).2.1,
          ((Item.useSlider host u.name u.args).react s).2.2.map (Stroke.call window s)) := by
  have named : Item.get? u.name (.slider s) = Table.get? s.added u.name := by cases u <;> rfl
  have special : Item.useCommon? host u.name (u.args.map Item.Given.toValue) = none := by cases u <;> rfl
  simp only [Item.use, Reaction.react_bind, Reaction.react_state, named, special]
  cases (Table.get? s.added u.name).isSome <;> rfl

/-- What a widget answers, is and draws when it is used again and again, each time with the mouse and the
clock as they are then. -/
def useAll (window : Surface) : List (Host × Use) → Item → List (Except Fault Value × Item × List Call)
  | [], _ => []
  | (host, u) :: rest, item =>
    let used := (Item.use window host u.name u.args).react item
    used :: useAll window rest used.2.1

theorem transposed_use (window : Surface) (host : Host) (u : Use) {s : Slider Value} (h : s.Steady) :
    ∃ t : Slider Value, t.Steady ∧ ((Item.use window host u.name u.args).react (.slider s)).2.1 = .slider t ∧
      (Item.use window { host with mouse := host.mouse.swap } u.name u.args).react (.slider s.transpose) =
        (((Item.use window host u.name u.args).react (.slider s)).1, .slider t.transpose,
          ((Item.use window host u.name u.args).react (.slider s)).2.2.map transposedCall) := by
  obtain ⟨kept, same⟩ := u.mirrors_useSlider host s h
  rw [use_react, use_react, same]
  show ∃ t, _ ∧ _ ∧ (if (Table.get? s.added u.name).isSome then _ else _) = _
  split
  · exact ⟨s, h, rfl, rfl⟩
  · refine ⟨_, kept, rfl, ?_⟩
    simp only [List.map_map]
    refine congrArg (fun calls => (_, _, calls)) (List.map_congr_left fun k _ => call_transpose window s k)

theorem Steady.useAll_transpose (window : Surface) (uses : List (Host × Use)) {s : Slider Value} (h : s.Steady) :
    useAll window (uses.map fun u => ({ u.1 with mouse := u.1.mouse.swap }, u.2)) (.slider s.transpose) =
      (useAll window uses (.slider s)).map fun used => (used.1, used.2.1.transpose, used.2.2.map transposedCall) := by
  induction uses generalizing s with
  | nil => rfl
  | cons u rest ih =>
    obtain ⟨t, steady, after, same⟩ := transposed_use window u.1 u.2 h
    simp only [List.map_cons, useAll, same, after, ih steady]
    rfl

/-- Whatever is done to a vertical slider of integer measures and, with the mouse transposed, to the horizontal slider
that is its transpose, both answer the same or fail alike each time, stay transposes of each other and draw transposed
rectangles. -/
theorem transposed_uses (window : Surface) (uses : List (Host × Use)) {s : Slider Value}
    (vertical : s.orientation = .vertical)
    (geometry : ∀ v ∈ [s.x, s.y, s.width, s.height, s.handle], ∃ n, v = Value.int n) :
    s.transpose.orientation = .horizontal ∧
    useAll window (uses.map fun u => ({ u.1 with mouse := u.1.mouse.swap }, u.2)) (.slider s.transpose) =
      (useAll window uses (.slider s)).map fun used => (used.1, used.2.1.transpose, used.2.2.map transposedCall) := by
  have steady := steady_of_int vertical geometry
  exact ⟨steady.horizontal, steady.useAll_transpose window uses⟩

def smallWindow : Surface := { width := 640, height := 480 }

def uprightSlider : Slider Value where
  orientation := .vertical
  x := Value.int 30
  y := Value.int 40
  width := Value.int 5
  height := Value.int 200
  handle := Value.int 10
  percent := Value.int 50

def dragging : List (Host × Use) :=
  [({ mouse := (31, 60) }, .draw), ({ mouse := (31, 60) }, .press (.event ⟨[("type", Value.int Event.mouseDown)]⟩)),
    ({ mouse := (31, 90) }, .draw)]

/-- Both are drawn, taken at their handles and dragged. -/
theorem transposed_uses_dragging :
    (useAll smallWindow dragging (.slider uprightSlider)).map (fun used => used.2.2.length) = [4, 0, 4] ∧
      useAll smallWindow (dragging.map fun u => ({ u.1 with mouse := u.1.mouse.swap }, u.2))
        (.slider uprightSlider.transpose) =
      (useAll smallWindow dragging (.slider uprightSlider)).map fun used =>
        (used.1, used.2.1.transpose, used.2.2.map transposedCall) := by
  refine ⟨by decide +kernel, (transposed_uses _ dragging rfl ?_).2⟩
  simp only [List.forall_mem_cons]
  exact ⟨⟨_, rfl⟩, ⟨_, rfl⟩, ⟨_, rfl⟩, ⟨_, rfl⟩, ⟨_, rfl⟩, by simp⟩

end Slider

end BlockStage.Widget
