import BlockStage.Proofs.Run.Step

/-!
# The edge of the stage

A sprite that is to bounce tests its rectangle across and upright, and one of the tests holds exactly if a point
of it lies off the stage: `Motion.leaves_iff`. A sprite that is asked whether it touches the edge makes the first
test, but then one that no rectangle passes: `Sensing.edge_is_always_touched`.
-/

namespace BlockStage

open Run

variable {r : Rect}

/-- All points of a rectangle lie on the stage, as pixels of the screen. -/
def Rect.OnStage (r : Rect) : Prop :=
  ∀ x y, r.left ≤ x → x ≤ r.right → r.top ≤ y → y ≤ r.bottom → (0 ≤ x ∧ x ≤ 960) ∧ 0 ≤ y ∧ y ≤ 720

/-- A rectangle lies on the stage if two opposite corners do. -/
theorem Rect.onStage_iff (wide : 0 ≤ r.w) (high : 0 ≤ r.h) :
    r.OnStage ↔ (0 ≤ r.left ∧ r.right ≤ 960) ∧ 0 ≤ r.top ∧ r.bottom ≤ 720 := by
  have across : r.left ≤ r.right := Int.le_add_of_nonneg_right wide
  have upright : r.top ≤ r.bottom := Int.le_add_of_nonneg_right high
  constructor
  · intro inside
    have first := inside r.left r.top (Int.le_refl _) across (Int.le_refl _) upright
    have last := inside r.right r.bottom across (Int.le_refl _) upright (Int.le_refl _)
    exact ⟨⟨first.1.1, last.1.2⟩, first.2.1, last.2.2⟩
  · intro corners x y _ _ _ _
    omega

namespace Motion

/-- Whether one of the tests holds by which a sprite that is to bounce finds that it leaves the stage. -/
def leaves (r : Rect) : Bool := outsideAcross r || outsideUpright r

theorem leaves_iff (wide : 0 ≤ r.w) (high : 0 ≤ r.h) : leaves r = true ↔ ¬ r.OnStage := by
  have across : r.left ≤ r.right := Int.le_add_of_nonneg_right wide
  have upright : r.top ≤ r.bottom := Int.le_add_of_nonneg_right high
  rw [Rect.onStage_iff wide high]
  simp only [leaves, outsideAcross, outsideUpright, Bool.or_eq_true, Bool.not_eq_true', Bool.and_eq_false_iff,
    decide_eq_false_iff_not]
  omega

/-- A sprite that does not leave the stage does not bounce. -/
theorem bounce_play_inside (p : Player) {w : World} {me : Nat} (drawn : (w.sprite me).rect? = .ok r)
    (inside : leaves r = false) : ((bounce me).perform p).play w = (.ok (), w) := by
  obtain ⟨across, upright⟩ := Bool.or_eq_false_iff.1 inside
  rw [bounce, Act.play_look_bind, drawn, Act.lift_ok_bind, across,
    upright]
  rfl

end Motion

namespace Sensing

/-- No rectangle begins below the lower edge and ends above the upper one. -/
theorem touchesEdge_eq_true (r : Rect) : touchesEdge r = true := by
  simp only [touchesEdge, Bool.or_eq_true, Bool.not_eq_true', Bool.and_eq_false_iff, decide_eq_false_iff_not]
  omega

theorem touches_edge_play (p : Player) {w : World} {me : Nat} (able : (w.sprite me).hides "collision" = false)
    (drawn : (w.sprite me).rect? = .ok r) :
    ((touches me (.text "_edge_")).perform p).play w = (.ok true, w) := by
  rw [touches, Act.play_look_bind, if_neg (by decide), if_pos (by decide), Sprite.can?_of_free able, drawn,
    Act.lift_ok_bind, Act.lift_ok_bind, touchesEdge_eq_true]
  rfl

/-- A sprite touches the edge wherever it is. So its answer is what the tests of bouncing say exactly if its
rectangle is not wholly on the stage. -/
theorem edge_is_always_touched (p : Player) {w : World} {me : Nat}
    (able : (w.sprite me).hides "collision" = false) (drawn : (w.sprite me).rect? = .ok r) (wide : 0 ≤ r.w)
    (high : 0 ≤ r.h) : (invoke p me "collision" [.text "_edge_"]).play w = (.ok (.bool true), w) ∧
      (Motion.leaves r = true ↔ ¬ r.OnStage) ∧
      (r.OnStage → ∀ flag, ((Motion.ifOnEdgeBounce.act me flag).perform p).play w = (.ok .null, w)) ∧
      ((invoke p me "collision" [.text "_edge_"]).play w = (.ok (.bool (Motion.leaves r)), w) ↔ ¬ r.OnStage) := by
  have leaves := Motion.leaves_iff wide high
  have answer : (invoke p me "collision" [.text "_edge_"]).play w = (.ok (.bool true), w) := by
    have found : Member.ofName? (w.sprite me) "collision" = some .touches :=
      (Member.ofName?_of_free able (by decide)).trans rfl
    rw [invoke, play_get_bind, found]
    simp only [Member.invoke]
    rw [if_pos (by decide), Act.play_bind_ok (touches_edge_play p able drawn)]
    rfl
  refine ⟨answer, leaves, fun inside flag => ?_, ?_⟩
  · have stays : Motion.leaves r = false := Bool.eq_false_iff.2 fun out => leaves.1 out inside
    rw [Motion.act, Act.play_bind_ok (Motion.bounce_play_inside p drawn stays)]
    rfl
  · rw [answer, ← leaves]
    cases Motion.leaves r <;> simp

/-- A sprite that was drawn in the middle of the stage. -/
def drawnInMiddle : World :=
  (World.ofBlocks []).updateSprite 0 (·.paint { width := 48, height := 48, solid := true } ⟨432, 312, 48, 48⟩)

theorem edge_is_always_touched_inMiddle : ((drawnInMiddle.sprite 0).hides "collision" = false ∧
      (drawnInMiddle.sprite 0).rect? = .ok ⟨432, 312, 48, 48⟩) ∧
    (invoke (player 4) 0 "collision" [.text "_edge_"]).play drawnInMiddle = (.ok (.bool true), drawnInMiddle) :=
  ⟨⟨rfl, rfl⟩, (edge_is_always_touched (player 4) rfl rfl (by decide) (by decide)).1⟩

/-- In the middle of the stage neither test of bouncing holds, but the sprite says that it touches the edge. -/
theorem middle_touches_edge :
    Rect.OnStage ⟨432, 312, 48, 48⟩ ∧ Motion.leaves ⟨432, 312, 48, 48⟩ = false ∧
      ((invoke (player 4) 0 "collision" [.text "_edge_"]).play drawnInMiddle).1 = .ok (.bool true) := by
  refine ⟨(Rect.onStage_iff (by decide) (by decide)).2 (by decide), by decide, rfl⟩

end Sensing

end BlockStage
