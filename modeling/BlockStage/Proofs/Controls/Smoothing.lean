import BlockStage.Proofs.Controls.Axes
import BlockStage.Proofs.Controls.Edges
import BlockStage.Proofs.Motion.Coordinates

/-!
# How an axis comes to rest

In exact arithmetic the level of an axis stays between minus one and one. While nothing pushes it, each frame
brings it nearer to zero, by at least the part of its way that the time allows (`settling_cases`).
-/

namespace BlockStage.Controls.Axis

/-! ## A frame -/

/-- A number that is kept between minus one and one. -/
def kept (x : ℚ) : ℚ := max (-1) (min x 1)

theorem kept_bounds (x : ℚ) : -1 ≤ kept x ∧ kept x ≤ 1 :=
  ⟨le_max_left _ _, max_le (by norm_num) (min_le_right _ _)⟩

theorem abs_kept_le (x : ℚ) : |kept x| ≤ |x| := by
  have pos := abs_nonneg x
  exact abs_le.2 ⟨le_max_of_le_right (le_min (neg_abs_le x) (by linarith)),
    max_le (by linarith) (min_le_of_left_le (le_abs_self x))⟩

theorem clamp_eq (x : ℚ) : Arith.clamp x (Arith.ofInt (-1)) (Arith.ofInt 1) = .ok (kept x) := by
  have order : ¬ (1 : ℚ) < -1 := by norm_num
  simp only [Arith.clamp, Arith.lt, Arith.ofInt, bind, Except.bind, decide_eq_true_eq, Int.cast_one, Int.cast_neg,
    if_neg order]
  by_cases low : x < -1
  · rw [if_pos low, kept, min_eq_left (by linarith), max_eq_left low.le]
    rfl
  by_cases high : 1 < x
  · rw [if_neg low, if_pos high, kept, min_eq_right high.le, max_eq_right (by norm_num)]
    rfl
  · rw [if_neg low, if_neg high, kept, min_eq_left (not_lt.1 high), max_eq_right (not_lt.1 low)]
    rfl

/-- The level after a step that nothing pushes. -/
def settling (level step : ℚ) : ℚ :=
  if 0 < level then if |level - step| ≤ step then 0 else level - step
  else if |level + step| ≤ step then 0 else level + step

theorem settled?_eq (level step : ℚ) : settled? level step = .ok (settling level step) := by
  simp only [settled?, settling, Arith.lt, Arith.le, Arith.add, Arith.sub, Arith.abs, Arith.ofInt, bind, Except.bind,
    decide_eq_true_eq, Int.cast_zero]
  split <;> split <;> rfl

/-- The level after some time, before it is kept in its bounds. -/
def moved (a : Axis ℚ) (dt : ℚ) : ℚ :=
  if 0 < a.push then a.level + dt / a.smooth
  else if a.push < 0 then a.level - dt / a.smooth
  else settling a.level (dt / a.smooth)

variable {a : Axis ℚ} {dt : ℚ}

theorem update_react (smooth : 0 < a.smooth) (dt : ℚ) : ∃ pushTime restTime, (update dt).react a =
    (.ok (), { a with pushTime, restTime, level := kept (a.moved dt) }, a.callbacks) := by
  have pushed : ∀ pushTime restTime, pushed? { a with pushTime, restTime } dt = .ok (a.moved dt) := by
    intro _ _
    simp only [pushed?, moved, Arith.le, Arith.ofInt, Arith.div, Arith.add, Arith.sub, bind, Except.bind, settled?_eq,
      decide_eq_true_eq, Int.cast_zero, if_neg (not_le.2 smooth), if_neg smooth.ne']
    split
    · rfl
    · split <;> rfl
  cases resting : a.push != 0
  · refine ⟨Arith.ofInt 0, a.restTime + dt, ?_⟩
    simp only [update, Reaction.react_bind, Reaction.react_state, Reaction.react_change, Reaction.react_ofExcept,
      Reaction.react_emitAll, resting, Bool.false_eq_true, if_false, Arith.add, pushed, clamp_eq, List.nil_append]
  · refine ⟨a.pushTime + dt, Arith.ofInt 0, ?_⟩
    simp only [update, Reaction.react_bind, Reaction.react_state, Reaction.react_change, Reaction.react_ofExcept,
      Reaction.react_emitAll, resting, if_true, Arith.add, pushed, clamp_eq, List.nil_append]

theorem actualise_level (a : Axis ℚ) (batch : List Event) : ((actualise batch).react a).2.1.level = a.level ∧
    ((actualise batch).react a).2.1.smooth = a.smooth := by
  simp only [actualise, Reaction.react_bind, Reaction.react_state, Reaction.react_change]
  rcases Reading.senseAll a.sticks batch ⟨a.positive, a.negative, none⟩ with ⟨r, _ | f⟩ <;> exact ⟨rfl, rfl⟩

/-! ## Coming nearer to zero -/

/-- A level that nothing pushes is taken to zero, or goes there by a whole step and does not come beyond. -/
theorem settling_cases (level : ℚ) {step : ℚ} (h : 0 ≤ step) : settling level step = 0 ∨
    0 < level ∧ 0 ≤ level - step ∧ settling level step = level - step ∨
    level < 0 ∧ level + step ≤ 0 ∧ settling level step = level + step := by
  rw [settling]
  rcases lt_or_ge 0 level with pos | neg
  · rw [if_pos pos]
    by_cases near : |level - step| ≤ step
    · exact .inl (if_pos near)
    · refine .inr (.inl ⟨pos, ?_, if_neg near⟩)
      by_contra beyond
      exact near (by rw [abs_of_neg (not_le.1 beyond)]; linarith)
  · rw [if_neg (not_lt.2 neg)]
    by_cases near : |level + step| ≤ step
    · exact .inl (if_pos near)
    · have below : level + step < 0 := by
        by_contra beyond
        exact near (by rw [abs_of_nonneg (not_lt.1 beyond)]; linarith)
      exact .inr (.inr ⟨by linarith, below.le, if_neg near⟩)

theorem settling_side (level : ℚ) {step : ℚ} (h : 0 ≤ step) :
    (0 ≤ level → 0 ≤ settling level step) ∧ (level ≤ 0 → settling level step ≤ 0) := by
  rcases settling_cases level h with zero | ⟨pos, above, same⟩ | ⟨neg, below, same⟩
  · exact ⟨fun _ => zero.ge, fun _ => zero.le⟩
  · exact ⟨fun _ => same ▸ above, fun neg => absurd pos (not_lt.2 neg)⟩
  · exact ⟨fun pos => absurd neg (not_lt.2 pos), fun _ => same ▸ below⟩

/-- While nothing pushes the axis, its level comes nearer to zero, on the same side, as far as the time allows. -/
theorem kept_moved (smooth : 0 < a.smooth) (forward : 0 ≤ dt) (still : a.push = 0) :
    (kept (a.moved dt) = 0 ∨ |kept (a.moved dt)| + dt / a.smooth ≤ |a.level|) ∧
      (0 ≤ a.level → 0 ≤ kept (a.moved dt)) ∧ (a.level ≤ 0 → kept (a.moved dt) ≤ 0) := by
  have step : 0 ≤ dt / a.smooth := div_nonneg forward smooth.le
  have moves : a.moved dt = settling a.level (dt / a.smooth) := by simp [moved, still]
  obtain ⟨above, below⟩ := settling_side a.level step
  rw [moves]
  refine ⟨?_, fun pos => le_max_of_le_right (le_min (above pos) zero_le_one),
    fun neg => max_le (by norm_num) (min_le_of_left_le (below neg))⟩
  have nearer := abs_kept_le (settling a.level (dt / a.smooth))
  rcases settling_cases a.level step with zero | ⟨pos, above, same⟩ | ⟨neg, below, same⟩
  · exact .inl (by rw [zero]; norm_num [kept])
  · rw [same, abs_of_nonneg above] at nearer
    rw [same, abs_of_pos pos]
    exact .inr (by linarith)
  · rw [same, abs_of_nonpos below] at nearer
    rw [same, abs_of_neg neg]
    exact .inr (by linarith)

/-! ## Frames -/

/-- What is done with an axis: it reads a batch of events, or lets time pass. -/
inductive Use where
  | read (batch : List Event)
  | pass (dt : ℚ)

def Use.react : Use → Reaction (Axis ℚ) String Unit
  | read batch => actualise batch
  | pass dt => update dt

def Use.time : Use → ℚ
  | read _ => 0
  | pass dt => dt

/-- The axis after some uses. -/
def run : List Use → Axis ℚ → Axis ℚ
  | [], a => a
  | u :: rest, a => run rest (u.react.react a).2.1

def elapsed (uses : List Use) : ℚ := (uses.map Use.time).sum

/-- Whenever time passes, nothing pushes the axis. -/
def Rests : List Use → Axis ℚ → Prop
  | [], _ => True
  | u :: rest, a => (∀ dt, u = .pass dt → a.push = 0) ∧ Rests rest (u.react.react a).2.1

theorem react_level (smooth : 0 < a.smooth) {u : Use} (forward : 0 ≤ u.time) :
    (u.react.react a).2.1.smooth = a.smooth ∧ (|a.level| ≤ 1 → |(u.react.react a).2.1.level| ≤ 1) ∧
      ((∀ dt, u = .pass dt → a.push = 0) → (u.react.react a).2.1.level = 0 ∨
        |(u.react.react a).2.1.level| + u.time / a.smooth ≤ |a.level|) := by
  cases u with
  | read batch =>
    obtain ⟨level, same⟩ := actualise_level a batch
    rw [Use.react, level, same]
    exact ⟨rfl, id, fun _ => .inr (by simp [Use.time])⟩
  | pass dt =>
    obtain ⟨pushTime, restTime, passes⟩ := update_react smooth dt
    rw [Use.react, passes]
    exact ⟨rfl, fun _ => abs_le.2 (kept_bounds _), fun still => (kept_moved smooth forward (still dt rfl)).1⟩

theorem run_level (uses : List Use) : ∀ {a : Axis ℚ}, 0 < a.smooth → (∀ u ∈ uses, 0 ≤ u.time) → |a.level| ≤ 1 →
    (a.run uses).smooth = a.smooth ∧ |(a.run uses).level| ≤ 1 := by
  induction uses with
  | nil => exact fun _ _ bounded => ⟨rfl, bounded⟩
  | cons u rest ih =>
    intro a smooth forward bounded
    obtain ⟨same, stays, -⟩ := react_level smooth (forward u (.head _))
    obtain ⟨later, ends⟩ := ih (same ▸ smooth) (fun v hv => forward v (.tail _ hv)) (stays bounded)
    exact ⟨later.trans same, ends⟩

theorem run_rests (uses : List Use) : ∀ {a : Axis ℚ}, 0 < a.smooth → (∀ u ∈ uses, 0 ≤ u.time) → a.Rests uses →
    (a.run uses).level = 0 ∨ |(a.run uses).level| + elapsed uses / a.smooth ≤ |a.level| := by
  induction uses with
  | nil => exact fun _ _ _ => .inr (by simp [run, elapsed])
  | cons u rest ih =>
    intro a smooth forward rests
    obtain ⟨same, -, first⟩ := react_level smooth (forward u (.head _))
    have forward := fun v hv => forward v (List.mem_cons_of_mem u hv)
    rw [run]
    rcases ih (same ▸ smooth) forward rests.2 with zero | nearer
    · exact .inl zero
    have sum : elapsed (u :: rest) / a.smooth = u.time / a.smooth + elapsed rest / a.smooth := add_div _ _ _
    rw [same] at nearer
    rcases first rests.1 with zero | first
    · have later : 0 ≤ elapsed rest / a.smooth := div_nonneg (List.sum_nonneg (by simpa using forward)) smooth.le
      rw [zero, abs_zero] at nearer
      exact .inl (abs_nonpos_iff.1 (by linarith))
    · exact .inr (by rw [sum]; linarith)

theorem Made.level {ups downs sticks : List Sensor} (made : a.Made ups downs sticks) : a.level = 0 := by
  induction made with
  | create smooth => exact Int.cast_zero
  | register c _ ih => exact ih
  | remove c _ ih => exact ih

/-- The level of a smooth axis stays between minus one and one. While nothing pushes it, no frame takes it away
from zero or to the other side, and frames that take long enough together bring it to zero. -/
theorem smoothing_settles {ups downs sticks : List Sensor} (made : a.Made ups downs sticks) (smooth : 0 < a.smooth)
    {uses : List Use} (forward : ∀ u ∈ uses, 0 ≤ u.time) :
    (∀ dt, 0 ≤ dt → ∃ b, (update dt).react (a.run uses) = (.ok (), b, (a.run uses).callbacks) ∧
      (-1 ≤ b.level ∧ b.level ≤ 1) ∧
      ((a.run uses).push = 0 → |b.level| ≤ |(a.run uses).level| ∧
        (0 ≤ (a.run uses).level → 0 ≤ b.level) ∧ ((a.run uses).level ≤ 0 → b.level ≤ 0))) ∧
    ∀ more, (∀ u ∈ more, 0 ≤ u.time) → (a.run uses).Rests more →
      (|(a.run uses).level| * a.smooth ≤ elapsed more → ((a.run uses).run more).level = 0) ∧
      ((a.run uses).level = 0 → ((a.run uses).run more).level = 0) := by
  have start : |a.level| ≤ 1 := by rw [made.level]; norm_num
  obtain ⟨same, bounded⟩ := run_level uses smooth forward start
  generalize a.run uses = b at same bounded
  rw [← same] at smooth ⊢
  constructor
  · intro dt forward
    obtain ⟨pushTime, restTime, passes⟩ := update_react smooth dt
    refine ⟨_, passes, kept_bounds _, fun still => ?_⟩
    obtain ⟨nearer, side⟩ := kept_moved smooth forward still
    have step : 0 ≤ dt / b.smooth := div_nonneg forward smooth.le
    refine ⟨?_, side⟩
    rcases nearer with zero | nearer
    · exact (abs_eq_zero.2 zero).trans_le (abs_nonneg _)
    · exact (le_add_of_nonneg_right step).trans nearer
  · intro more forward rests
    have long : 0 ≤ elapsed more := List.sum_nonneg (by simpa using forward)
    have ends : |b.level| * b.smooth ≤ elapsed more → (b.run more).level = 0 := by
      intro enough
      rcases run_rests more smooth forward rests with zero | nearer
      · exact zero
      · rw [← le_div_iff₀ smooth] at enough
        exact abs_nonpos_iff.1 (by linarith)
    exact ⟨ends, fun zero => ends (by simpa [zero] using long)⟩

def ofOneKey : Axis ℚ := create [] [.key (Value.int 97)] [] (1 / 2)

/-- A key pushes an axis and is released, and the axis is at rest half a second later. -/
theorem smoothing_settles_released :
    ((ofOneKey.run [.read [Button.keyDown 97], .pass (1 / 4), .read [Button.keyUp 97]]).run
      [.pass (1 / 4), .pass (1 / 4)]).level = 0 := by
  have made : ofOneKey.Made [.key (Value.int 97)] [] [] := .create _
  have smooth : 0 < ofOneKey.smooth := by norm_num [ofOneKey, create]
  have forward : ∀ u ∈ [Use.read [Button.keyDown 97], .pass (1 / 4), .read [Button.keyUp 97]], 0 ≤ u.time := by
    simp [Use.time]
  have rests := (smoothing_settles made smooth forward).2 [.pass (1 / 4), .pass (1 / 4)] (by simp [Use.time])
    ⟨fun _ _ => by decide +kernel, fun _ _ => by decide +kernel, trivial⟩
  exact rests.1 (by decide +kernel)

end BlockStage.Controls.Axis
