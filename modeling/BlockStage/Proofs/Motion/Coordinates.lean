import BlockStage.Place
import BlockStage.Proofs.Number.Halves

/-!
# Converting coordinates

One unit of scripts is two pixels, so going to the screen and back leads to where one began, and going from
the screen to scripts and back moves odd pixels by one: `Place.conversions_are_faithful`.
-/

namespace BlockStage

open Binary

/-! ## Exact arithmetic -/

/-- The arithmetic of rational numbers. They are not written out. -/
instance : Arith ℚ where
  ofInt n := n
  add x y := .ok (x + y)
  sub x y := .ok (x - y)
  mul x y := .ok (x * y)
  div x y := if y = 0 then .error .divisionByZero else .ok (x / y)
  abs x := .ok |x|
  half x := .ok ⌊x / 2⌋
  lt x y := .ok (x < y)
  le x y := .ok (x ≤ y)
  truncate? x := .ok (if 0 ≤ x then ⌊x⌋ else ⌈x⌉)
  round? x := .ok (if Int.fract x = 1 / 2 then 2 * round (x / 2) else round x)
  text? _ := .error .wrongKind

theorem tdiv_two (a : Int) : 0 ≤ a ∧ a.tdiv 2 = a / 2 ∨ a < 0 ∧ a.tdiv 2 = -(-a / 2) := by
  rcases Int.lt_or_le a 0 with neg | pos
  · refine .inr ⟨neg, ?_⟩
    rw [← Int.tdiv_eq_ediv_of_nonneg (by omega), Int.neg_tdiv, Int.neg_neg]
  · exact .inl ⟨pos, Int.tdiv_eq_ediv_of_nonneg pos⟩

theorem truncate?_half (a : Int) : Arith.truncate? ((a : ℚ) / 2) = .ok (a.tdiv 2) := by
  have floor := Rat.floor_intCast_div_natCast a 2
  have ceil := Rat.ceil_intCast_div_natCast a 2
  push_cast at floor ceil
  show Except.ok (if 0 ≤ (a : ℚ) / 2 then ⌊(a : ℚ) / 2⌋ else ⌈(a : ℚ) / 2⌉) = _
  rw [floor, ceil]
  rcases tdiv_two a with ⟨sign, same⟩ | ⟨sign, same⟩
  · rw [if_pos (by positivity), same]
  · have : (a : ℚ) < 0 := by exact_mod_cast sign
    rw [if_neg (by linarith), same]

/-! ## One axis -/

/-- A conversion along one axis, from a range between `a` and `b` to one between `c` and `d`, makes its steps and
is linear. The scale is given in halves, and the fraction of the result is dropped. -/
def Along (α : Type) [Arith α] (a b c d scale x : Int) : Prop :=
  ∃ span width s offset product sum : α, Arith.sub (Arith.ofInt d) (Arith.ofInt c) = .ok span ∧
    Arith.sub (Arith.ofInt b) (Arith.ofInt a) = .ok width ∧ Arith.div span width = .ok s ∧
    Arith.sub (Arith.ofInt x) (Arith.ofInt a) = .ok offset ∧ Arith.mul offset s = .ok product ∧
    Arith.add (Arith.ofInt c) product = .ok sum ∧ Arith.truncate? sum = .ok ((2 * c + (x - a) * scale).tdiv 2)

theorem Frame.convert_eq {α : Type} [Arith α] {a b c d a' b' c' d' s s' x y p q : Int}
    (across : Along α a b c d s x) (hp : (2 * c + (x - a) * s).tdiv 2 = p)
    (upright : Along α a' b' c' d' s' y) (hq : (2 * c' + (y - a') * s').tdiv 2 = q) :
    (ofInts a b a' b').convert (ofInts c d c' d') (Arith.ofInt x : α) (Arith.ofInt y) = .ok (p, q) := by
  obtain ⟨span, width, scale, offset, product, sum, h1, h2, h3, h4, h5, h6, h7⟩ := across
  obtain ⟨span', width', scale', offset', product', sum', h1', h2', h3', h4', h5', h6', h7'⟩ := upright
  simp only [convert, ofInts, h1, h2, h3, h4, h5, h6, h7, h1', h2', h3', h4', h5', h6', h7', hp, hq, bind, Except.bind]
  rfl

theorem along_exact {a b c d s : Int} (apart : b - a ≠ 0) (ratio : 2 * (d - c) = s * (b - a)) (x : Int) :
    Along ℚ a b c d s x := by
  have apart : (b : ℚ) - a ≠ 0 := by exact_mod_cast apart
  have ratio : 2 * ((d : ℚ) - c) = s * (b - a) := by exact_mod_cast ratio
  have scale : ((d : ℚ) - c) / (b - a) = s / 2 := by
    rw [div_eq_div_iff apart two_ne_zero, mul_comm, ratio]
  have sum : (c : ℚ) + (x - a) * (s / 2) = ((2 * c + (x - a) * s : Int) : ℚ) / 2 := by
    push_cast
    ring
  refine ⟨d - c, b - a, s / 2, x - a, (x - a) * (s / 2), c + (x - a) * (s / 2), rfl, rfl,
    (if_neg apart).trans (congrArg _ scale), rfl, rfl, rfl, ?_⟩
  rw [sum]
  exact truncate?_half _

theorem along_double {a b c d s : Int} {z : Float} {x : Int}
    (scale : Arith.div (Value.int (d - c)) (Value.int (b - a)) = .ok (Value.float z)) (half : Halves (parts z) s)
    (few : (x - a).natAbs < 2 ^ 52) (few' : ((x - a) * s).natAbs < 2 ^ 53) (start : c.natAbs < 2 ^ 52)
    (few'' : (2 * c + (x - a) * s).natAbs < 2 ^ 53) :
    Along Value a b c d s x := by
  obtain ⟨offset, made, whole⟩ := Halves.ofInt few
  obtain ⟨first, made', whole'⟩ := Halves.ofInt start
  have product := whole.mul half (Int.mul_assoc 2 (x - a) s) few'
  have sum := whole'.add product few''
  refine ⟨_, _, Value.float z, _, Value.float (offset * z), Value.float (first + offset * z), rfl, rfl, scale, rfl, ?_,
    ?_, ?_⟩
  · show (Number.mul (.int (x - a)) (.float z)).map Value.num = _
    simp only [Number.mul, Number.lift, Number.toFloat?, made, bind, Except.bind]
    rfl
  · show (Number.add (.int c) (.float (offset * z))).map Value.num = _
    simp only [Number.add, Number.lift, Number.toFloat?, made', bind, Except.bind]
    rfl
  · exact sum.truncate

/-! ## Both axes -/

namespace Place

variable {α : Type} [Arith α] {Within : Int → Prop}

/-- The pixel of the screen for a pixel of the window. -/
def shown (u v : α) : Except Fault (Int × Int) := do
  let (x, y) ← coordinates .window u v
  onScreen x y

/-- A pixel is moved to an even one beside it, towards the middle, unless it is even. -/
structure Inward (middle u u' : Int) : Prop where
  near : (u' - u).natAbs ≤ 1
  even : 2 ∣ u → u' = u
  odd : ¬ 2 ∣ u → (u' - middle).natAbs < (u - middle).natAbs

/-- Conversions of some integers lead back to where they began, or to the pixel beside it. -/
structure Faithful (α : Type) [Arith α] (Within : Int → Prop) : Prop where
  screen : ∀ x y, Within x → Within y → (do
    let (u, v) ← onScreen (Arith.ofInt x : α) (Arith.ofInt y)
    coordinates .screen (Arith.ofInt u : α) (Arith.ofInt v)) = .ok (Arith.ofInt x, Arith.ofInt y)
  window : ∀ x y, Within x → Within y → (do
    let (u, v) ← inWindow (Arith.ofInt x : α) (Arith.ofInt y)
    coordinates .window (Arith.ofInt u : α) (Arith.ofInt v)) = .ok (Arith.ofInt x, Arith.ofInt y)
  pixel : ∀ u v, Within u → Within v → ∃ u' v', shown (Arith.ofInt u : α) (Arith.ofInt v) = .ok (u', v') ∧
    Inward 480 u u' ∧ Inward 360 v v' ∧ shown (Arith.ofInt u' : α) (Arith.ofInt v') = .ok (u', v')

theorem inward_tdiv (middle u : Int) (even : 2 ∣ middle) : Inward middle u (middle + 2 * (u - middle).tdiv 2) := by
  rcases tdiv_two (u - middle) with ⟨sign, half⟩ | ⟨sign, half⟩ <;> rw [half] <;> constructor <;> omega

/-- Going from one frame to the other is linear, where the fraction of a result is dropped. The pixels are those
of the numbers within the bounds. -/
structure Linear (α : Type) [Arith α] (Within : Int → Prop) : Prop where
  forth : ∀ x y, Within x → Within y → onScreen (Arith.ofInt x : α) (Arith.ofInt y) = .ok (480 + 2 * x, 360 - 2 * y)
  back : ∀ u v x y, Within x → Within y → u.natAbs ≤ 2 * x.natAbs + 480 → v.natAbs ≤ 2 * y.natAbs + 480 →
    ofScreen (Arith.ofInt u : α) (Arith.ofInt v) = .ok ((u - 480).tdiv 2, (360 - v).tdiv 2)
  inner : ∀ u x, Within u → 2 * x.natAbs ≤ u.natAbs + 480 → Within x

theorem Linear.there_and_back (h : Linear α Within) {x y : Int} (hx : Within x) (hy : Within y) :
    ofScreen (Arith.ofInt (480 + 2 * x) : α) (Arith.ofInt (360 - 2 * y)) = .ok (x, y) := by
  rw [h.back _ _ x y hx hy (by omega) (by omega), show 480 + 2 * x - 480 = 2 * x by omega,
    show 360 - (360 - 2 * y) = 2 * y by omega, Int.mul_tdiv_cancel_left _ two_ne_zero,
    Int.mul_tdiv_cancel_left _ two_ne_zero]

theorem Linear.faithful (h : Linear α Within) : Faithful α Within where
  screen x y hx hy := by
    rw [h.forth x y hx hy]
    show (ofScreen _ _).map _ = _
    rw [h.there_and_back hx hy]
    rfl
  window x y hx hy := by
    show (onScreen _ _ >>= fun p => (ofScreen (Arith.ofInt p.1 : α) (Arith.ofInt p.2)).map _) = _
    rw [h.forth x y hx hy]
    show (ofScreen _ _).map _ = _
    rw [h.there_and_back hx hy]
    rfl
  pixel u v hu hv := by
    have through {u v x y : Int} (hx : Within x) (hy : Within y)
        (back : ofScreen (Arith.ofInt u : α) (Arith.ofInt v) = .ok (x, y)) :
        shown (Arith.ofInt u : α) (Arith.ofInt v) = .ok (480 + 2 * x, 360 - 2 * y) := by
      show ((ofScreen (Arith.ofInt u : α) (Arith.ofInt v)).map _ >>= _) = _
      rw [back]
      exact h.forth x y hx hy
    have least (n : Int) : 2 * (n.tdiv 2).natAbs ≤ n.natAbs := by
      have half : (n.tdiv 2).natAbs = n.natAbs / 2 := Int.natAbs_tdiv n 2
      omega
    have hx := h.inner u ((u - 480).tdiv 2) hu ((least _).trans (by omega))
    have hy := h.inner v ((360 - v).tdiv 2) hv ((least _).trans (by omega))
    refine ⟨_, _, through hx hy (h.back u v u v hu hv (by omega) (by omega)), inward_tdiv 480 u (by decide), ?_,
      through hx hy (h.there_and_back hx hy)⟩
    have same : 360 - 2 * (360 - v).tdiv 2 = 360 + 2 * (v - 360).tdiv 2 := by
      rw [← Int.neg_sub v 360, Int.neg_tdiv]
      omega
    rw [same]
    exact inward_tdiv 360 v (by decide)

theorem Linear.of_along (across : ∀ x, Within x → Along α (-240) 240 0 960 4 x)
    (upright : ∀ y, Within y → Along α (-180) 180 720 0 (-4) y)
    (across' : ∀ u x, Within x → u.natAbs ≤ 2 * x.natAbs + 480 → Along α 0 960 (-240) 240 1 u)
    (upright' : ∀ v y, Within y → v.natAbs ≤ 2 * y.natAbs + 480 → Along α 720 0 (-180) 180 (-1) v)
    (inner : ∀ u x, Within u → 2 * x.natAbs ≤ u.natAbs + 480 → Within x) : Linear α Within where
  forth x y hx hy := by
    refine Frame.convert_eq (across x hx) ?_ (upright y hy) ?_
    · rw [show 2 * 0 + (x - -240) * 4 = 2 * (480 + 2 * x) by omega, Int.mul_tdiv_cancel_left _ two_ne_zero]
    · rw [show 2 * 720 + (y - -180) * -4 = 2 * (360 - 2 * y) by omega, Int.mul_tdiv_cancel_left _ two_ne_zero]
  back u v x y hx hy hu hv := by
    refine Frame.convert_eq (across' u x hx hu) ?_ (upright' v y hy hv) ?_ <;> congr 1 <;> omega
  inner := inner

theorem linear_exact : Linear ℚ fun _ => True :=
  .of_along (fun x _ => along_exact (by decide) (by decide) x) (fun y _ => along_exact (by decide) (by decide) y)
    (fun u _ _ _ => along_exact (by decide) (by decide) u) (fun v _ _ _ => along_exact (by decide) (by decide) v)
    fun _ _ _ _ => trivial

-- The scales are two and a half, with either sign, and these are doubles.
theorem linear_double : Linear Value fun n => n.natAbs < 2 ^ 50 := by
  have scale (neg : Bool) {n : Nat} (few : n < 2 ^ 53) := Halves.nearest neg (j := 1) (by decide) few
  refine .of_along (fun x hx => ?_) (fun y hy => ?_) (fun u x hx hu => ?_) (fun v y hy hv => ?_) fun u x hu small => ?_
  · exact along_double rfl (scale false (n := 4) (by decide)) (by omega) (by omega) (by decide) (by omega)
  · exact along_double rfl (scale true (n := 4) (by decide)) (by omega) (by omega) (by decide) (by omega)
  · exact along_double rfl (scale false (n := 1) (by decide)) (by omega) (by omega) (by decide) (by omega)
  · exact along_double rfl (scale true (n := 1) (by decide)) (by omega) (by omega) (by decide) (by omega)
  · omega

/-- Converting a place to the screen or to the window and back gives the place. Converting a pixel of the window
to one of the screen leaves even coordinates alone, and moves odd ones by one, towards the middle. This is so
for all integers if numbers are exact, and for those below `2 ^ 50` if they are doubles. -/
theorem conversions_are_faithful : Faithful ℚ (fun _ => True) ∧ Faithful Value fun n => n.natAbs < 2 ^ 50 :=
  ⟨linear_exact.faithful, linear_double.faithful⟩

end Place

end BlockStage
