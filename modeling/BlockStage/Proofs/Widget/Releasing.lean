import BlockStage.Proofs.Number.Rounding
import BlockStage.Proofs.Widget.Sliding

/-!
# Releasing the handle of a slider

A handle that is released rests where its percentage says. The errors in doubles are far below half a pixel, but
half the width of the handle is rounded too. So a handle of odd width may move by one pixel
(`Slider.odd_handle_moves`), and one of even width stays: `Slider.released_handle_nearly_stays`. In exact arithmetic
it is the odd pixels that a handle of odd width moves from (`Slider.resting?_exact`).
-/

namespace BlockStage

open Binary

instance : Arith.Integral Value where
  add _ _ := rfl
  sub _ _ := rfl
  mul _ _ := rfl
  half _ := rfl
  le a b := congrArg Except.ok (Number.le_int a b)
  present _ := rfl
  truncate _ := rfl

theorem Number.lift_int_float (op : Int → Int → Int) (op' : Float → Float → Float) {a : Int} {x : Float}
    (h : ofInt? a = .ok x) (y : Float) : Number.lift op op' (.int a) (.float y) = .ok (.float (op' x y)) := by
  simp only [Number.lift, Number.toFloat?, h, bind, Except.bind]

/-- Half an integer is rounded to an integer next to it, which is even if there are two. -/
theorem Binary.Rounds.half {n k : Int} (h : Rounds n (k / 2)) :
    (2 * n - k).natAbs ≤ 1 ∧ ((2 * n - k).natAbs = 1 → 2 ∣ n) := by
  have twice : |(n : ℚ) - k / 2| = ((2 * n - k).natAbs : ℚ) / 2 := by
    rw [Nat.cast_natAbs, show (n : ℚ) - k / 2 = (2 * n - k) / 2 by ring, abs_div, abs_two]
    push_cast
    rfl
  rw [Rounds, twice] at h
  refine ⟨?_, fun one => h.2 (by rw [one]; norm_num)⟩
  have le : ((2 * n - k).natAbs : ℚ) ≤ 1 := by linarith
  exact_mod_cast le

theorem Binary.rounds_exact (x : ℚ) : ∃ n, Arith.round? x = .ok n ∧ Rounds n x := by
  refine ⟨_, rfl, ?_⟩
  split
  · next tie =>
    -- Twice the number is odd, so that it cannot be as far from a multiple of four as two.
    have odd : 2 * x = (2 * ⌊x⌋ + 1 : Int) := by
      push_cast
      linarith [Int.floor_add_fract x]
    obtain ⟨low, high⟩ := abs_le.1 (abs_sub_round (x / 2))
    generalize round (x / 2) = n at *
    have low : 4 * n ≤ 2 * ⌊x⌋ + 3 := by
      have : ((4 * n : Int) : ℚ) ≤ (2 * ⌊x⌋ + 3 : Int) := by push_cast at odd ⊢; linarith
      exact_mod_cast this
    have high : 2 * ⌊x⌋ ≤ 4 * n + 1 := by
      have : ((2 * ⌊x⌋ : Int) : ℚ) ≤ (4 * n + 1 : Int) := by push_cast at odd ⊢; linarith
      exact_mod_cast this
    have low : ((4 * n : Int) : ℚ) ≤ (2 * ⌊x⌋ + 2 : Int) := by exact_mod_cast (show 4 * n ≤ 2 * ⌊x⌋ + 2 by omega)
    have high : ((2 * ⌊x⌋ : Int) : ℚ) ≤ (4 * n : Int) := by exact_mod_cast (show 2 * ⌊x⌋ ≤ 4 * n by omega)
    push_cast at odd low high
    exact ⟨abs_le.2 ⟨by push_cast; linarith, by push_cast; linarith⟩, fun _ => .intro n rfl⟩
  · next other =>
    refine ⟨by rw [abs_sub_comm]; exact abs_sub_round x, fun tie => absurd ?_ other⟩
    rw [abs_sub_comm, abs_sub_round_eq_min] at tie
    rcases min_choice (Int.fract x) (1 - Int.fract x) with h | h <;> rw [h] at tie <;> linarith

namespace Widget.Slider

open Arith

section

variable {α : Type} [Arith α] {m : Measures} {s : Slider α}

/-- The handle is drawn at one place while the mouse drags it, and at another one when it was released. -/
def Releases (m : Measures) (s : Slider α) (mouse mouse' : Int × Int) (e : Event) (place place' : Int) : Prop :=
  ∃ (t u v : Slider α) (hover hover' : Bool),
    (draw (ofInts mouse)).react s = (.ok (), t, m.drawing s.orientation hover place) ∧
    (press e).react t = (.ok false, u, []) ∧
    (draw (ofInts mouse')).react u = (.ok (), v, m.drawing s.orientation hover' place')

theorem Made.releases [Integral α] (made : s.Made m) (visible : holds? s.visible = .ok true)
    (active : s.active = .bool true) (mouse mouse' : Int × Int) {e : Event} (up : e.kind = Value.int Event.mouseUp)
    {percent : α} {place' : Int} 
    (found : s.orientation.percentAt? s (ofInt (m.dragged (s.orientation.along mouse))) = .ok percent)
    (rests : ∀ t : Slider α, t.Made m → t.percent = percent → t.orientation.resting? t = .ok (ofInt place')) :
    Releases m s mouse mouse' e (m.dragged (s.orientation.along mouse)) place' := by
  obtain ⟨hover, drags⟩ := made.drag visible active mouse found
  have idle := made.set percent s.visible (.bool hover) false
  obtain ⟨hover', drawn⟩ := idle.rest visible rfl mouse' (rests _ idle rfl)
  have released : (press e).react { s with hover := .bool hover, percent } =
      (.ok false, { s with hover := .bool hover, percent, active := .bool false }, []) := by
    simp only [press_eq, Vertical.press, Event.isKind, up, Reaction.react_bind, Reaction.react_state, active]
    rfl
  exact ⟨_, _, _, hover, hover', drags, released, drawn⟩

end

variable {m : Measures} {s : Slider Value} {place : Int}

/-! ## The percentage -/

/-- Measures that doubles are precise enough for. -/
structure Measures.Small (m : Measures) : Prop where
  handle : 0 < m.handle
  start : m.start.natAbs ≤ 2 ^ 40
  length : m.length ≤ 2 ^ 40

/-- How far the middle of the handle is along the track. -/
def Measures.reach (m : Measures) (place : Int) : ℚ := m.handle / 2 + place - m.start

/-- A place that the handle can be dragged to, on a track that is not too long. -/
structure Measures.Allows (m : Measures) (place : Int) : Prop where
  small : m.Small
  low : m.start ≤ place
  high : place ≤ m.start + m.length - m.handle

namespace Measures.Allows

theorem reach (h : m.Allows place) : 1 / 2 ≤ m.reach place ∧ m.reach place ≤ m.length := by
  have handle : (1 : ℚ) ≤ m.handle := by exact_mod_cast h.small.handle
  have low : (m.start : ℚ) ≤ place := by exact_mod_cast h.low
  have high : (place : ℚ) ≤ m.start + m.length - m.handle := by exact_mod_cast h.high
  unfold Measures.reach
  exact ⟨by linarith, by linarith⟩

theorem length (h : m.Allows place) : (1 : ℚ) ≤ m.length ∧ (m.length : ℚ) ≤ 2 ^ 40 :=
  ⟨by exact_mod_cast m.length_pos, by exact_mod_cast h.small.length⟩

end Measures.Allows

theorem moderate_of_le {z : ℚ} (low : 1 / 2 ^ 50 ≤ z) (high : z ≤ 2 ^ 50) : Moderate 50 z := by
  refine ⟨by decide, le_trans ?_ low, high.trans ?_⟩ <;> norm_num

/-- The percentage in a double, and how far along the track it is. -/
structure Measures.Shows (m : Measures) (place : Int) (q : Float) (x : ℚ) : Prop where
  stands : Stands 103 (parts q) x
  near : |m.length * (x / 100) - m.reach place| ≤ m.reach place / 2 ^ 52

theorem Made.percentAt?_double (made : s.Made m) (h : m.Allows place) :
    ∃ q x, s.orientation.percentAt? s (ofInt place) = .ok (Value.float q) ∧ m.Shows place q x := by
  obtain ⟨least, most⟩ := h.reach
  obtain ⟨one_le, length⟩ := h.length
  have pos : (0 : ℚ) < m.length := by linarith
  have share : (50 * (m.handle + 2 * place - 2 * m.start) : Int) / (m.length : ℚ) = 100 * m.reach place / m.length := by
    rw [Measures.reach]
    push_cast
    ring
  have moderate : Moderate 50 ((50 * (m.handle + 2 * place - 2 * m.start) : Int) / m.length) := by
    rw [share]
    exact moderate_of_le ((le_div_iff₀ pos).2 (by linarith)) ((div_le_iff₀ pos).2 (by linarith))
  obtain ⟨q, quotient, x, stands, near⟩ := Nears.ofQuotient (by have := h.low; have := h.small.handle; omega)
    m.length_pos moderate
  rw [share, abs_of_nonneg (div_nonneg (by linarith) pos.le)] at near
  refine ⟨q, x, ?_, stands, ?_⟩
  · rw [made.percentAt?_eq]
    show ((ofQuotient? _ _).map Number.float).map Value.num = _
    rw [quotient]
    rfl
  · have scaled : m.length * (x / 100) - m.reach place = m.length / 100 * (x - 100 * m.reach place / m.length) := by
      field_simp
    rw [scaled, abs_mul, abs_of_pos (by positivity)]
    refine (mul_le_mul_of_nonneg_left near (by positivity)).trans_eq ?_
    field_simp

/-! ## The place of the percentage -/

/-- The part of the track before the middle of the handle. -/
theorem Measures.Allows.part (h : m.Allows place) {q hundred long : Float} {x : ℚ} (shows : m.Shows place q x)
    (s1 : Stands 103 (parts hundred) 100) (s2 : Stands 103 (parts long) m.length) :
    ∃ u, Stands 103 (parts (long * (q / hundred))) u ∧ |u - m.reach place| ≤ 1 / 2 ^ 9 := by
  obtain ⟨least, most⟩ := h.reach
  obtain ⟨one_le, length⟩ := h.length
  have pos : (0 : ℚ) < m.length := by linarith
  have near := abs_le.1 shows.near
  have x_pos : 0 < x / 100 := (mul_pos_iff_of_pos_left pos).1 (by linarith)
  have x_low := mul_le_mul_of_nonneg_right length x_pos.le
  have x_high := mul_le_mul_of_nonneg_right one_le x_pos.le
  obtain ⟨t, s_t, near_t⟩ := shows.stands.div s1 (by linarith) (by norm_num)
    (moderate_of_le (by linarith) (by linarith))
  have near_t : |m.length * t - m.length * (x / 100)| ≤ 1 / 2 ^ 11 := by
    rw [← mul_sub, abs_mul, abs_of_pos pos]
    rw [abs_of_pos x_pos] at near_t
    have := mul_le_mul_of_nonneg_left near_t pos.le
    linarith
  have near_t := abs_le.1 near_t
  have t_pos : 0 < t := (mul_pos_iff_of_pos_left pos).1 (by linarith)
  obtain ⟨u, s_u, near_u⟩ := s2.mul s_t pos t_pos (moderate_of_le (by linarith) (by linarith))
  rw [abs_of_pos (mul_pos pos t_pos)] at near_u
  have near_u := abs_le.1 near_u
  exact ⟨u, s_u, abs_le.2 ⟨by linarith, by linarith⟩⟩

/-- Half the handle, rounded, is taken off; the double is rounded to a pixel. -/
theorem Measures.Allows.rounded (h : m.Allows place) {first part last : Float} {u : ℚ} {r : Int}
    (s_u : Stands 103 (parts part) u) (near_u : |u - m.reach place| ≤ 1 / 2 ^ 9)
    (s3 : Stands 103 (parts first) m.start) (s6 : Stands 156 (parts last) r)
    (near_r : |(r : ℚ) - m.handle / 2| ≤ 1 / 2) : ∃ n : Int, Binary.round? (first + part - last) = .ok n ∧
      (4 * (n - place + r) - 2 * m.handle).natAbs ≤ 3 := by
  obtain ⟨least, most⟩ := h.reach
  obtain ⟨-, length⟩ := h.length
  have start : |(m.start : ℚ)| ≤ 2 ^ 40 := by
    rw [← Int.cast_abs, Int.abs_eq_natAbs]
    exact_mod_cast h.small.start
  have start := abs_le.1 start
  have near_u := abs_le.1 near_u
  have near_r := abs_le.1 near_r
  have handle : (1 : ℚ) ≤ m.handle ∧ (m.handle : ℚ) ≤ m.length :=
    ⟨by exact_mod_cast h.small.handle, by exact_mod_cast m.handle_le⟩
  have sum : |m.start + u| ≤ 2 ^ 42 := abs_le.2 ⟨by linarith, by linarith⟩
  obtain ⟨v, s_v, near_v⟩ := s3.add s_u (by decide) (sum.trans (by norm_num))
  have near_v := abs_le.1 near_v
  have difference : |v - r| ≤ 2 ^ 43 := by
    have sum := abs_le.1 sum
    exact abs_le.2 ⟨by linarith, by linarith⟩
  obtain ⟨w, s_w, near_w⟩ := s_v.sub s6 (by decide) (difference.trans (by norm_num))
  have near_w := abs_le.1 near_w
  obtain ⟨n, rounded, near_n⟩ := Stands.round? (a := first + part - last) s_w
  have near_n := abs_le.1 near_n.1
  have reach : m.reach place = m.handle / 2 + place - m.start := rfl
  refine ⟨n, rounded, ?_⟩
  have near : |((4 * (n - place + r) - 2 * m.handle : Int) : ℚ)| ≤ 3 := by
    push_cast
    exact abs_le.2 ⟨by linarith, by linarith⟩
  have near : |4 * (n - place + r) - 2 * m.handle| ≤ 3 := by exact_mod_cast near
  rw [Int.abs_eq_natAbs] at near
  omega

/-- The arithmetic of a resting handle in doubles. -/
theorem Made.resting?_double (made : s.Made m) {q hundred long first half last : Float} {r n : Int}
    (percent : s.percent = Value.float q) (h1 : ofInt? 100 = .ok hundred) (nonzero : (hundred == 0) = false)
    (h2 : ofInt? m.length = .ok long) (h3 : ofInt? m.start = .ok first) (h4 : ofQuotient? m.handle 2 = .ok half)
    (h5 : Binary.round? half = .ok r) (h6 : ofInt? r = .ok last)
    (h7 : Binary.round? (first + long * (q / hundred) - last) = .ok n) : s.orientation.resting? s = .ok (ofInt n) := by
  have quotient : Arith.div (Value.float q) (ofInt 100) = .ok (Value.float (q / hundred)) := by
    show (Number.div (.float q) (.int 100)).map Value.num = _
    simp only [Number.div, Number.toFloat?, h1, bind, Except.bind, nonzero, Bool.false_eq_true, if_false]
    rfl
  have halved : Arith.div (ofInt m.handle) (ofInt 2) = .ok (Value.float half) := by
    show ((ofQuotient? m.handle 2).map Number.float).map Value.num = _
    rw [h4]
    rfl
  have product (c : Float) : Arith.mul (ofInt m.length) (Value.float c) = .ok (Value.float (long * c)) :=
    congrArg (Except.map Value.num) (Number.lift_int_float _ _ h2 c)
  have sum (c : Float) : Arith.add (ofInt m.start) (Value.float c) = .ok (Value.float (first + c)) :=
    congrArg (Except.map Value.num) (Number.lift_int_float _ _ h3 c)
  have difference (c : Float) : Arith.sub (Value.float c) (ofInt r) = .ok (Value.float (c - last)) := by
    show (Number.sub (.float c) (.int r)).map Value.num = _
    simp only [Number.sub, Number.lift, Number.toFloat?, h6, bind, Except.bind]
    rfl
  have half_rounded : Arith.round? (Value.float half) = .ok r := h5
  have rounded : Arith.round? (Value.float (first + long * (q / hundred) - last)) = .ok n := h7
  simp only [Orientation.resting?, made.start, made.length, made.handle, percent, quotient, product, sum, difference, halved,
    half_rounded, rounded, bind, Except.bind]
  rfl

theorem Measures.Shows.resting? {q : Float} {x : ℚ} (shows : m.Shows place q x) (h : m.Allows place) :
    ∃ place' : Int, (∀ t : Slider Value, t.Made m → t.percent = Value.float q →
        t.orientation.resting? t = .ok (ofInt place')) ∧
      (place' - place).natAbs ≤ 1 ∧ (2 ∣ m.handle → place' = place) ∧ (m.handle % 4 = 1 → place ≤ place') ∧
      (m.handle % 4 = 3 → place' ≤ place) := by
  have few := h.small.length
  have start := h.small.start
  have handle := h.small.handle
  have handle_le := m.handle_le
  obtain ⟨hundred, h1, s1⟩ := Stands.ofInt (k := 103) (by decide) (n := 100) (by decide)
  obtain ⟨long, h2, s2⟩ := Stands.ofInt (k := 103) (by decide) (n := m.length) (by omega)
  obtain ⟨first, h3, s3⟩ := Stands.ofInt (k := 103) (by decide) (n := m.start) (by omega)
  obtain ⟨half, h4, s4⟩ := Halves.ofHalf (n := m.handle) (by omega)
  obtain ⟨r, h5, rounds⟩ := (s4.stands (k := 53) le_rfl).round?
  obtain ⟨near_r, even_r⟩ := rounds.half
  obtain ⟨last, h6, s6⟩ := Stands.ofInt (k := 156) (by decide) (n := r) (by omega)
  obtain ⟨u, s_u, near_u⟩ := h.part shows s1 s2
  obtain ⟨n, h7, near_n⟩ := h.rounded s_u near_u s3 s6 rounds.1
  exact ⟨n, fun t made percent => made.resting?_double percent h1 (s1.beq_zero (by norm_num)) h2 h3 h4 h5 h6 h7,
    by omega, by omega, by omega, by omega⟩

/-! ## In exact arithmetic -/

theorem resting?_exact (m : Measures) (place : Int) : ∃ place' : Int,
    (∀ t : Slider ℚ, t.Made m → t.percent = m.percentAt place → t.orientation.resting? t = .ok (ofInt place')) ∧
      (place' = place ↔ 2 ∣ m.handle ∨ 2 ∣ place) := by
  have hundred : ((100 : Int) : ℚ) ≠ 0 := by norm_num
  have two : ((2 : Int) : ℚ) ≠ 0 := by norm_num
  have length : (m.length : ℚ) ≠ 0 := by exact_mod_cast m.length_pos.ne'
  obtain ⟨r, half, rounds⟩ := rounds_exact (m.handle / 2)
  obtain ⟨n, whole, rounds'⟩ := rounds_exact (m.start + m.length * (m.percentAt place / 100) - r)
  have middle : m.start + m.length * (m.percentAt place / 100) - (r : ℚ) =
      (m.handle + 2 * place - 2 * r : Int) / 2 := by
    rw [Measures.percentAt]
    push_cast
    field_simp
    ring
  obtain ⟨near, even⟩ := rounds.half
  obtain ⟨near', even'⟩ := (middle ▸ rounds').half
  refine ⟨n, fun t made percent => ?_, by omega⟩
  simp only [Orientation.resting?, made.start, made.length, made.handle, percent, Arith.mul, Arith.add, Arith.sub,
    Arith.div, Arith.ofInt, bind, Except.bind, if_neg hundred, if_neg two]
  push_cast
  rw [half]
  dsimp only
  rw [whole]
  rfl

/-- A handle of even width stays at its pixel when it is released. One of odd width moves by one pixel at most,
and only forward if the width is one more than a multiple of four, else only back. In exact arithmetic it stays
if its pixel is even, and moves if it is odd. In doubles the percentage may come to lie on either side of the
middle between two pixels. -/
theorem released_handle_nearly_stays (made : s.Made m) (small : m.Small) (visible : holds? s.visible = .ok true)
    (active : s.active = .bool true) (mouse mouse' : Int × Int) {e : Event} (up : e.kind = Value.int Event.mouseUp) :
    (∃ place place', Releases m s mouse mouse' e place place' ∧ (place' - place).natAbs ≤ 1 ∧
      (2 ∣ m.handle → place' = place) ∧ (m.handle % 4 = 1 → place ≤ place') ∧ (m.handle % 4 = 3 → place' ≤ place)) ∧
    ∀ t : Slider ℚ, t.Made m → holds? t.visible = .ok true → t.active = .bool true →
      ∃ place place', Releases m t mouse mouse' e place place' ∧ (place' = place ↔ 2 ∣ m.handle ∨ 2 ∣ place) := by
  constructor
  · obtain ⟨low, high⟩ := m.dragged_bounds (s.orientation.along mouse)
    obtain ⟨q, x, found, shows⟩ := made.percentAt?_double ⟨small, low, high⟩
    obtain ⟨place', rests, moves⟩ := shows.resting? ⟨small, low, high⟩
    exact ⟨_, place', made.releases visible active mouse mouse' up found rests, moves⟩
  · intro t made visible active
    obtain ⟨place', rests, stays⟩ := resting?_exact m (m.dragged (t.orientation.along mouse))
    exact ⟨_, place', made.releases visible active mouse mouse' up (made.percentAt? _) rests, stays⟩

def mouseUp : Event := ⟨[("type", Value.int Event.mouseUp)]⟩

/-- A slider whose handle is held. -/
def held (m : Measures) : Slider Value := { ofMeasures m with active := .bool true }

theorem made_held (m : Measures) : (held m).Made m := (made_ofMeasures m).set _ _ _ true

theorem even_handle_stays : ∃ place,
    Releases tenOfTwoHundred (held tenOfTwoHundred) (51, 1) (51, 1) mouseUp place place := by
  obtain ⟨⟨place, place', releases, -, even, -⟩, -⟩ := released_handle_nearly_stays (made_held tenOfTwoHundred)
    ⟨by decide, by decide, by decide⟩ rfl rfl (51, 1) (51, 1) (e := mouseUp) rfl
  obtain rfl := even (by decide)
  exact ⟨_, releases⟩

def fiveOfTwoHundred : Measures :=
  ⟨0, 200, 5, 0, 10, tenOfTwoHundred.length_pos, .intro 5 rfl, .intro 195 rfl⟩

/-- Half of five is rounded to two, and the middle of the handle, at 53.5 pixels, less two to 52. -/
theorem odd_handle_moves : Releases fiveOfTwoHundred (held fiveOfTwoHundred) (51, 1) (51, 1) mouseUp 51 52 := by
  have found : Orientation.horizontal.percentAt? (held fiveOfTwoHundred) (ofInt 51) = .ok (Value.float 26.75) := rfl
  exact (made_held fiveOfTwoHundred).releases rfl rfl (51, 1) (51, 1) rfl found fun t made percent =>
    made.resting?_double percent rfl rfl rfl rfl rfl rfl rfl rfl

end Widget.Slider

end BlockStage
