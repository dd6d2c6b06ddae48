import BlockStage.Widget.Label
import Mathlib.Data.Int.LeastGreatest

/-!
# The size of a label's type

A label that is too wide makes its type smaller, one step at a time. At size one every text fits, so the loop ends,
at the greatest size at which the text is not too wide: `Label.shrinks_to_fit`.
-/

namespace BlockStage.Widget

theorem needAll_react {vs : List Value} (h : ∀ v ∈ vs, v ≠ .absent) : (needAll vs).react () = (.ok (), (), []) := by
  induction vs with
  | nil => rfl
  | cons v rest ih =>
    have present : v.present? = .ok v := by
      cases v with
      | absent => exact absurd rfl (h _ (.head _))
      | _ => rfl
    have later := ih fun u hu => h u (.tail _ hu)
    show (Reaction.bind (Reaction.bind (Reaction.ofExcept v.present?) fun _ => pure ()) fun _ =>
      needAll rest).react () = _
    rw [present]
    exact later

namespace Label

open Reaction (react_bind react_state react_ofExcept react_pure react_emit react_emitAll)

/-- A label that is shown, with a text, a size of its type and a greatest width. -/
structure Shown (text : String) (size width : Int) (l : Label) : Prop where
  text : l.text = .text text
  size : l.lettering.size = Value.int size
  maxWidth : l.maxWidth = Value.int width
  font : ∃ name, l.lettering.font = .text name
  visible : holds? l.visible = .ok true
  transparent : ∃ b, holds? l.transparent = .ok b
  centered : ∃ b, holds? l.centered = .ok b
  place : ∃ x y, l.x = Value.int x ∧ l.y = Value.int y
  colored : ∀ v ∈ [l.lettering.bold, l.lettering.italic, l.lettering.color, l.ground], v ≠ .absent

variable {text : String} {size width : Int} {l : Label} {ground : Value}

def image (text : String) (size : Int) : Surface := ⟨text.length * (size / 2), size, true⟩

def rendering (l : Label) (ground : Value) (size : Int) : Call :=
  .render l.text (Value.int size) l.lettering.color ground l.lettering.bold l.lettering.italic

theorem Shown.renderIn (h : l.Shown text size width) (painted : ground ≠ .absent) {f : Int} (pos : 0 ≤ f) :
    (renderIn l ground (Value.int f)).react () = (.ok (image text f), (), [l.rendering ground f]) := by
  obtain ⟨name, font⟩ := h.font
  have present : ∀ v ∈ [l.lettering.font, Value.int f, l.lettering.bold, l.lettering.italic, l.text,
      l.lettering.color, ground], v ≠ .absent := by
    have colored := h.colored
    simp only [List.forall_mem_cons] at colored ⊢
    obtain ⟨bold, italic, color, -⟩ := colored
    exact ⟨by simp [font], by simp [Value.int], bold, italic, by simp [h.text], color, painted, by simp⟩
  have length : l.text.length? = .ok text.length := by rw [h.text]; rfl
  have sized : Paint.extent? (.int f) text.length = .ok (image text f) := by
    have wide : 0 ≤ (text.length : Int) * (f / 2) := Int.mul_nonneg (by omega) (by omega)
    simp only [Paint.extent?, Surface.create?, Number.mul, Number.lift, Number.half, Value.toInt?, Number.truncate?,
      bind, Except.bind, Int.fdiv_eq_ediv_of_nonneg f (show (0 : Int) ≤ 2 by decide)]
    rw [if_neg (by simp; omega)]
    rfl
  simp only [Label.renderIn, Lettering.render, Lettering.typeface, Paint.render, Paint.record, Paint.ofExcept,
    react_bind, needAll_react present, react_emit, react_ofExcept, length]
  exact congrArg (·, (), _) sized

/-- The sizes that are tried, from the greatest one down. -/
def renderings (l : Label) (ground : Value) (least : Int) (count : Nat) : List Call :=
  (List.range count).reverse.map fun (i : Nat) => l.rendering ground (least + i)

theorem renderings_succ (l : Label) (ground : Value) (least : Int) (k : Nat) :
    l.renderings ground least (k + 1) = l.rendering ground (least + k) :: l.renderings ground least k := by
  rw [renderings, List.range_succ, List.reverse_append]
  rfl

/-- The loop ends at a size that fits, if none of those that it tries before does, whatever bounds it. -/
theorem Shown.shrink (h : l.Shown text size width) (painted : ground ≠ .absent) {f : Int} (pos : 0 ≤ f)
    (fits : text.length * (f / 2) ≤ width) (k : Nat) : ∀ n, k ≤ n →
    (∀ g, f < g → g ≤ f + k → width < text.length * (g / 2)) →
    (shrink l ground n (Value.int (f + k)) (image text (f + k))).react () =
      (.ok (image text f), (), l.renderings ground f k) := by
  have test (g : Int) : Arith.lt l.maxWidth (Value.int (image text g).width) =
      .ok (decide (width < text.length * (g / 2))) := by
    rw [h.maxWidth]
    exact congrArg Except.ok (Number.lt_int _ _)
  induction k with
  | zero =>
    intro n _ _
    rw [Int.natCast_zero, Int.add_zero]
    cases n with
    | zero => rfl
    | succ n =>
      simp only [Label.shrink, Paint.ofExcept, react_bind, react_ofExcept, test, decide_eq_true_eq,
        if_neg (not_lt.2 fits)]
      rfl
  | succ k ih =>
    intro n le wide
    obtain ⟨n, rfl⟩ : ∃ n', n = n' + 1 := ⟨n - 1, by omega⟩
    have smaller : Arith.sub (Value.int (f + (k + 1 : Nat))) (Value.int 1) = .ok (Value.int (f + k)) :=
      congrArg (fun n => Except.ok (Value.int n)) (show f + ((k + 1 : Nat) : Int) - 1 = f + k by omega)
    have again := ih n (by omega) fun g above below => wide g above (by omega)
    simp only [Label.shrink, Paint.ofExcept, react_bind, react_ofExcept, test, decide_eq_true_eq,
      if_pos (wide (f + (k + 1 : Nat)) (by omega) le_rfl), smaller,
      h.renderIn painted (show 0 ≤ f + (k : Int) by omega), again, renderings_succ]
    rfl

/-- The greatest size, up to the label's own, at which the text is not too wide. -/
def Best (text : String) (size width f : Int) : Prop := IsGreatest {g | g ≤ size ∧ text.length * (g / 2) ≤ width} f

theorem exists_best (text : String) (pos : 1 ≤ size) (wide : 0 < width) : ∃ f, 1 ≤ f ∧ Best text size width f := by
  have one : 1 ≤ size ∧ text.length * ((1 : Int) / 2) ≤ width := ⟨pos, by omega⟩
  obtain ⟨f, fits, greatest⟩ := Int.exists_greatest_of_bdd
    (P := fun g => g ≤ size ∧ text.length * (g / 2) ≤ width) ⟨size, fun _ fits => fits.1⟩ ⟨1, one⟩
  exact ⟨f, greatest 1 one, fits, fun g hg => greatest g hg⟩

theorem shrinks_to_fit (h : l.Shown text size width) (pos : 1 ≤ size) (wide : 0 < width) (window : Surface) :
    ∃ f ground left, 1 ≤ f ∧ Best text size width f ∧
      (∀ n : Nat, size ≤ n → (shrink l ground n l.lettering.size (image text size)).react () =
        (.ok (image text f), (), l.renderings ground f (size - f).toNat)) ∧
      (draw window).react l = (.ok (), l, l.renderings ground f ((size - f).toNat + 1) ++
        [.blit window (image text f) (.point left l.y)]) := by
  obtain ⟨f, positive, best⟩ := exists_best text pos wide
  obtain ⟨transparent, htransparent⟩ := h.transparent
  obtain ⟨centered, hcentered⟩ := h.centered
  obtain ⟨x, y, hx, hy⟩ := h.place
  obtain ⟨k, rfl⟩ : ∃ k : Nat, size = f + k := ⟨(size - f).toNat, by have := best.1.1; omega⟩
  obtain ⟨ground, hground⟩ : ∃ ground, ground = if transparent then .null else l.ground := ⟨_, rfl⟩
  have painted : ground ≠ .absent := by
    have colored := h.colored l.ground (by simp)
    cases transparent <;> simp_all
  have loop (n : Nat) (bound : k ≤ n) := h.shrink painted (by omega) best.1.2 k n bound fun g above below => by
    by_contra fits
    exact absurd (best.2 ⟨below, not_lt.1 fits⟩) (by omega)
  obtain ⟨left, aside, middle⟩ : ∃ left : Int, (centered = false → l.x = Value.int left) ∧
      (centered = true → Area.centred? l.x l.maxWidth (image text f).width = .ok (Value.int left)) := by
    cases centered with
    | false => exact ⟨x, fun _ => hx, by simp⟩
    | true => exact ⟨x + width.fdiv 2 - (image text f).width.fdiv 2, by simp, fun _ => by rw [hx, h.maxWidth]; rfl⟩
  refine ⟨f, ground, Value.int left, positive, best, fun n bound => ?_, ?_⟩
  · rw [h.size, loop n (by omega), show (f + (k : Int) - f).toNat = k by omega]
  · have font : l.lettering.typeface? = .ok l.lettering.typeface := by
      obtain ⟨name, font⟩ := h.font
      rw [Lettering.typeface?, font]
    have limited : Arith.lt (Value.int 0) l.maxWidth = .ok true := by
      rw [h.maxWidth]
      exact congrArg Except.ok ((Number.lt_int _ _).trans (decide_eq_true wide))
    have times : shrinkings (Value.int (f + k)) = .ok (f + k).toNat := rfl
    have drawn : (needAll [Value.int left, l.y]).react () = (.ok (), (), []) := needAll_react (by simp [hy, Value.int])
    have sized : (needAll [ground, Value.int (f + k)]).react () = (.ok (), (), []) :=
      needAll_react (by simp [painted, Value.int])
    rw [show (f + (k : Int) - f).toNat = k by omega, renderings_succ]
    cases centered <;>
      simp only [Label.draw, react_bind, react_state, react_ofExcept, h.visible, Paint.lift,
        htransparent, ← hground, Paint.ofExcept, font, limited, h.size, times, loop _ (show k ≤ (f + k).toNat by omega),
        h.renderIn painted (show 0 ≤ f + (k : Int) by omega), hcentered, aside, middle, drawn, sized, if_true,
        Bool.false_eq_true, if_false, Bool.not_true, react_pure, Paint.blit, Paint.record, react_emit,
        react_emitAll] <;>
      simp

/-- Eleven letters of size 24 in 60 pixels are drawn at size 11. -/
def score : Label := { text := "Score: 1234", maxWidth := Value.int 60, lettering := { size := Value.int 24 } }

theorem score_shrinks : ∃ ground left, (draw ⟨480, 360, true⟩).react score =
    (.ok (), score, score.renderings ground 11 14 ++
      [.blit ⟨480, 360, true⟩ (image "Score: 1234" 11) (.point left score.y)]) := by
  have shown : score.Shown "Score: 1234" 24 60 :=
    ⟨rfl, rfl, rfl, ⟨_, rfl⟩, rfl, ⟨_, rfl⟩, ⟨_, rfl⟩, ⟨0, 0, rfl, rfl⟩, by simp [score, Value.ints]⟩
  obtain ⟨f, ground, left, -, best, -, drawn⟩ := shrinks_to_fit shown (by decide) (by decide) ⟨480, 360, true⟩
  have greatest : Best "Score: 1234" 24 60 11 := by
    refine ⟨⟨by decide, by decide⟩, fun g member => ?_⟩
    have fits : 11 * (g / 2) ≤ 60 := member.2
    omega
  obtain rfl : f = 11 := le_antisymm (greatest.2 best.1) (best.2 greatest.1)
  exact ⟨ground, left, drawn⟩

end Label

end BlockStage.Widget
