import BlockStage.Panel
import BlockStage.Proofs.Number.Halves

/-!
# Drawing the panel of a list

What is recorded when the panel of a list of texts is drawn (`Panel.react_drawBoard`). No row is come to after one
that reaches below the panel (`Panel.Reached`), and one above it is not painted (`Panel.rowCalls`).
-/

namespace BlockStage

theorem Except.ok_bind {α β : Type} (a : α) (f : α → Except Fault β) : (Except.ok a >>= f) = f a := rfl

theorem Reaction.ok_bind {σ ε α β : Type} (a : α) (f : α → Reaction σ ε β) :
    (Reaction.ofExcept (.ok a) >>= f) = f a := rfl

/-! ## Numbers -/

namespace Binary

open Float.Model.UnpackedFloat

/-- A double that is neither finite nor below zero nor no number is above all finite ones. -/
theorem lt_of_dyadic?_none {x y : Float} (finite : (dyadic? x).isSome = true) (top : dyadic? y = none)
    (number : y.isNaN = false) (neg : ¬ y < 0) : x < y := by
  rw [dyadic?_eq] at finite top
  have nan : (parts y).isNaN = false := number
  rw [lt_iff] at neg ⊢
  rcases hy : parts y with s | _ | s | _ <;> rw [hy] at top nan neg
  · cases s
    · exact absurd rfl neg
    · rcases hx : parts x with s | _ | s | _ <;> rw [hx] at finite
      · cases finite
      · cases finite
      · cases s <;> rfl
      · rename_i s _ _ _
        cases s <;> rfl
  · cases nan
  · cases top
  · cases top

end Binary

/-- A number that is neither below zero nor above one that can be truncated can be truncated. -/
theorem Number.truncates_of_le {h y : Number} {k : Int} (bound : h.truncate? = .ok k)
    (low : Number.le (.int 0) y = true) (high : Number.lt h y = false) : ∃ k, y.truncate? = .ok k := by
  cases y with
  | int k => exact ⟨k, rfl⟩
  | float x =>
    rcases hd : Binary.dyadic? x with _ | d
    · have number : x.isNaN = false := by
        by_contra nan
        simp only [Number.le, Number.compare?, Binary.compareInt?, hd, if_pos (Bool.not_eq_false _ ▸ nan)] at low
        cases low
      have neg : ¬ x < 0 := by
        intro neg
        simp only [Number.le, Number.compare?, Binary.compareInt?, hd, number, if_pos neg] at low
        cases low
      cases h with
      | int n =>
        simp only [Number.lt, Number.compare?, Binary.compareInt?, hd, number, if_neg neg] at high
        cases high
      | float z =>
        have finite : (Binary.dyadic? z).isSome = true := by
          rcases hz : Binary.dyadic? z with _ | _
          · rw [Number.truncate?, Binary.truncate?, hz] at bound
            cases bound
          · rfl
        simp only [Number.lt, Number.compare?, if_pos (Binary.lt_of_dyadic?_none finite hd number neg)] at high
        cases high
    · exact ⟨_, by rw [Number.truncate?, Binary.truncate?, hd]⟩

theorem Number.add_int (y : Number) {k : Int} {z : Float} (h : Binary.ofInt? k = .ok z) :
    ∃ y', y.add (.int k) = .ok y' := by
  cases y with
  | int j => exact ⟨_, rfl⟩
  | float x => exact ⟨.float (x + z), by simp [Number.add, Number.lift, Number.toFloat?, h, bind, Except.bind]⟩

/-! ## Drawing texts -/

@[simp] theorem Surface.create?_int (a b : Nat) :
    Surface.create? (Value.int a) (Value.int b) = .ok ⟨a, b, false⟩ := by
  simp [create?, Value.toInt?, Value.int, Number.truncate?, bind, Except.bind, pure, Except.pure]

/-- The surface on which a text is drawn. -/
def textImage (s : String) : Surface := ⟨s.length * 15, 30, true⟩

def Call.text (s : String) (color : Value := .black) : Call :=
  .render (.text s) stageFont.size color .null stageFont.bold stageFont.italic

def Call.box (on : Surface) (color x y : Value) (image : Surface) (style : List Value) : Call :=
  .rect on color (.box x y (Value.int image.width) (Value.int image.height)) style

@[simp] theorem Paint.react_render (s : String) (color : Value) :
    (render stageFont (.text s) color).react () = (.ok (textImage s), (), [.text s color]) := by
  have image : extent? (.int 30) s.length = .ok (textImage s) := by
    show (Surface.create? (Value.int (s.length * 15 : Nat)) (Value.int (30 : Nat)) >>= fun blank =>
      .ok blank.painted) = _
    rw [Surface.create?_int]
    rfl
  show (extent? (.int 30) s.length, (), [Call.text s color]) = _
  rw [image]

namespace Panel

theorem react_textBox {x y : Value} {a b : Int} (hx : x.toInt? = .ok a) (hy : y.toInt? = .ok b) (on : Surface)
    (color : Value) (image : Surface) (style : List Value) :
    (textBox on color x y image style).react () =
      (.ok ⟨a, b, image.width, image.height⟩, (), [.box on color x y image style]) := by
  have area : Rect.ofValues? x y (Value.int image.width) (Value.int image.height) =
      .ok ⟨a, b, image.width, image.height⟩ := by
    rw [Rect.ofValues?, hx, hy]
    rfl
  show (Rect.ofValues? _ _ _ _, (), [Call.box _ _ _ _ _ _]) = _
  rw [area]

/-! ## Rows -/

/-- Where the row after one stands. -/
def lowered (y : Number) : Number := (y.add (.int 35)).toOption.getD y

/-- Where a row stands, counted from zero, if the first one stands at `first`. -/
def rowTop (first : Number) (i : Nat) : Number := lowered^[i] first

/-- What is done for a row: its text is rendered, and painted unless the row stands above the panel. -/
def rowCalls (board : Surface) (s : String) (y : Number) : List Call :=
  .text s :: if Number.le (.int 0) y then
    [.box board .orange (Value.int 5) (.num y) (textImage s) [Value.int 0],
      .blit board (textImage s) (.rect ⟨5, y.truncate?.toOption.getD 0, (textImage s).width, 30⟩)]
  else []

def rows (board : Surface) (first : Number) (texts : List String) : List Call :=
  texts.zipIdx.flatMap fun (s, i) => rowCalls board s (rowTop first i)

/-- How many rows of a list are come to: all up to one that reaches below the panel. -/
structure Reached (height first : Number) (length n : Nat) : Prop where
  some : 0 < length → 0 < n
  most : n ≤ length
  inside : ∀ i, i + 1 < n → Number.lt height (rowTop first (i + 1)) = false
  last : n < length → Number.lt height (rowTop first n) = true

theorem rows_cons (board : Surface) (first : Number) (s : String) (texts : List String) :
    rows board first (s :: texts) = rowCalls board s first ++ rows board (lowered first) texts := by
  rw [rows, List.zipIdx_cons', List.flatMap_cons, List.flatMap_map]
  rfl

theorem react_drawRows_cons (board : Surface) (height : Number) (s : String) (rest : List Value) {y : Number}
    (first : Number.le (.int 0) y = true → ∃ k, y.truncate? = .ok k) :
    let after : Paint Unit := if Number.lt height (lowered y) then pure () else
      drawRows board (.ok (.num height)) rest (.num (lowered y))
    (drawRows board (.ok (.num height)) (.text s :: rest) (.num y)).react () =
      ((after.react ()).1, (), rowCalls board s y ++ (after.react ()).2.2) := by
  obtain ⟨y', next⟩ := y.add_int (k := 35) rfl
  obtain rfl : lowered y = y' := by rw [lowered, next]; rfl
  have add : Arith.add (Value.num y) (Value.int ((textImage s).height + rowGap)) = .ok (.num (lowered y)) := by
    show (y.add (.int 35)).map Value.num = _
    rw [next]
    rfl
  have low : Value.le? (Value.int 0) (.num y) = .ok (Number.le (.int 0) y) := rfl
  have high : Value.lt? (.num height) (.num (lowered y)) = .ok (Number.lt height (lowered y)) := rfl
  rw [drawRows, Reaction.react_bind_ok (Paint.react_render s .black), low, add]
  simp only [Paint.ofExcept, Reaction.ok_bind, high]
  cases above : Number.le (.int 0) y
  · simp only [rowCalls, above, if_neg Bool.false_ne_true]
  · obtain ⟨k, pixel⟩ := first above
    simp only [rowCalls, above, if_pos, pixel]
    rw [Reaction.react_bind_ok (react_textBox (x := Value.int 5) (y := .num y) rfl pixel _ _ _ _)]
    rfl

theorem react_drawRows {height : Number} {k : Int} (bound : height.truncate? = .ok k) (board : Surface)
    (texts : List String) {y : Number} (first : Number.le (.int 0) y = true → ∃ k, y.truncate? = .ok k) :
    ∃ n, Reached height y texts.length n ∧
      (drawRows board (.ok (.num height)) (texts.map .text) (.num y)).react () =
        (.ok (), (), rows board y (texts.take n)) := by
  induction texts generalizing y with
  | nil => exact ⟨0, ⟨id, Nat.le_refl _, nofun, nofun⟩, rfl⟩
  | cons s texts ih =>
    rw [List.map_cons, react_drawRows_cons board height s _ first]
    cases below : Number.lt height (lowered y)
    · obtain ⟨n, reached, drawn⟩ := ih fun above => Number.truncates_of_le bound above below
      rw [if_neg Bool.false_ne_true, drawn]
      refine ⟨n + 1, ⟨fun _ => n.succ_pos, Nat.succ_le_succ reached.most, fun i less => ?_, fun less =>
        reached.last (Nat.lt_of_succ_lt_succ less)⟩, by rw [List.take_succ_cons, rows_cons]⟩
      cases i with
      | zero => exact below
      | succ i => exact reached.inside i (Nat.lt_of_succ_lt_succ less)
    · rw [if_pos rfl]
      refine ⟨1, ⟨fun _ => Nat.one_pos, Nat.succ_le_succ (Nat.zero_le _), fun i less => ?_, fun _ => below⟩, ?_⟩
      · omega
      · rw [List.take_succ_cons, rows_cons]
        rfl

/-! ## Boards -/

/-- Shortened texts: ten characters are kept. -/
def clipped (s : String) : String := if s.length ≤ 10 then s else String.ofList (s.toList.take 10) ++ "..."

theorem shortened?_text (s : String) : shortened? 10 (.text s) = .ok (.text (clipped s)) := by
  rw [clipped]
  by_cases few : s.length ≤ 10
  · rw [if_pos few]
    exact if_pos few
  · rw [if_neg few]
    exact if_neg few

/-- Texts can all be shortened. What comes of it is not used. -/
theorem shorten_texts (texts : List String) :
    (forIn (texts.map Value.text) PUnit.unit fun item _ => do
      let _ ← Reaction.ofExcept (shortened? 10 item)
      pure (ForInStep.yield PUnit.unit) : Paint PUnit) = pure () := by
  induction texts with
  | nil => rfl
  | cons s texts ih =>
    rw [List.map_cons, List.forIn_cons, bind_assoc, shortened?_text]
    exact ih

/-- How a panel of a list is laid out on the screen, and the place of its first row on it. -/
structure Layout where
  x : Value
  y : Value
  area : Rect
  height : Number
  first : Number
  title : String

/-- A panel of a list that can be drawn: its parts are there, and those that give a place give one in pixels. -/
structure Stands (p : Panel) (l : Layout) : Prop where
  x : p.x = .ok l.x
  y : p.y = .ok l.y
  left : l.x.toInt? = .ok l.area.x
  top : l.y.toInt? = .ok l.area.y
  width : ∃ v, p.width = .ok v ∧ v.toInt? = .ok l.area.w
  height : p.height = .ok (.num l.height)
  high : l.height.truncate? = .ok l.area.h
  size : 0 ≤ l.area.w ∧ 0 ≤ l.area.h
  title : ∃ params, p.params = .ok params ∧ params.field? "LIST" = .ok (.text l.title)
  scroll : ∃ n x, p.scroll = .ok (.num n) ∧ n.toFloat? = .ok x ∧ n.add (.int 30) = .ok l.first
  first : Number.le (.int 0) l.first = true → ∃ k, l.first.truncate? = .ok k

namespace Layout

def board (l : Layout) : Surface := ⟨l.area.w, l.area.h, true⟩

/-- What is recorded when a panel is drawn in which some rows are come to. -/
def drawing (l : Layout) (on : Surface) (texts : List String) : List Call :=
  .box on .orange l.x l.y l.board [Value.int 0] :: .fill { width := l.area.w, height := l.area.h } .paleBlue ::
    rows l.board l.first texts ++
    [.text l.title, .box l.board .white (Value.int 0) (Value.int 0) (textImage l.title) [],
      .blit l.board (textImage l.title) (.rect ⟨0, 0, (textImage l.title).width, 30⟩),
      .box l.board .black (Value.int 0) (Value.int 0) l.board [Value.int 2]]

end Layout

theorem react_drawBoard {p : Panel} {l : Layout} (stands : p.Stands l) (on : Surface) (texts : List String) :
    ∃ n, Reached l.height l.first texts.length n ∧
      (drawBoard on p (.list (texts.map .text))).react () =
        (.ok (l.board, l.area), (), l.drawing on (texts.take n)) := by
  obtain ⟨n, reached, drawn⟩ := react_drawRows stands.high l.board texts stands.first
  refine ⟨n, reached, ?_⟩
  obtain ⟨hx, hy, left, top, ⟨v, wide, pixels⟩, tall, high, ⟨positive, positive'⟩, ⟨params, given, titled⟩,
    ⟨m, z, scroll, -, add⟩, -⟩ := stands
  have begins : Arith.add (Value.num m) (Value.int 30) = .ok (Value.num l.first) := by
    show (m.add (.int 30)).map Value.num = _
    rw [add]
    rfl
  have blank : Surface.create? v (.num l.height) = .ok { width := l.area.w, height := l.area.h } := by
    rw [Surface.create?, pixels, show (Value.num l.height).toInt? = .ok l.area.h from high]
    exact if_neg (by simp; omega)
  have fill : (Paint.fill { width := l.area.w, height := l.area.h } .paleBlue).react () = (.ok l.board, (), [_]) := rfl
  have origin := react_textBox (x := Value.int 0) (y := Value.int 0) rfl rfl
  have blit (image : Surface) (spot : Spot) : (Paint.blit l.board image spot).react () = (.ok (), (), [_]) := rfl
  rw [drawBoard, show (Value.list (texts.map .text)).elements? = .ok (texts.map .text) from rfl]
  simp only [Paint.ofExcept, Reaction.ok_bind, shorten_texts, pure_bind, scroll, wide, tall, hx, hy, given, titled,
    Except.ok_bind, begins, blank]
  rw [Reaction.react_bind_ok (react_textBox left top _ _ _ _), Reaction.react_bind_ok fill,
    Reaction.react_bind_ok drawn, Reaction.react_bind_ok (Paint.react_render l.title .black),
    Reaction.react_bind_ok (origin _ _ _ _), Reaction.react_bind_ok (blit _ _), Reaction.react_bind_ok (origin _ _ _ _)]
  rfl

end Panel

end BlockStage
