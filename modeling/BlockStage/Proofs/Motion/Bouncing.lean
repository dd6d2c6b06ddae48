import BlockStage.Proofs.Motion.Turning

/-!
# Bouncing

A sprite whose rectangle is over an edge of the stage is mirrored, unless it already faces inward. So bouncing
again in the same place leaves it facing the same way: `Motion.bounce_turns_inward`.
-/

namespace BlockStage

open Run World

/-- A sprite is drawn in a rectangle, at a place and with a direction. -/
structure World.Stands (w : World) (me : Nat) (r : Rect) (x y d : Int) : Prop where
  rect : (w.sprite me).rect? = .ok r
  x : (w.sprite me).attribute? .x = .ok (Value.int x)
  y : (w.sprite me).attribute? .y = .ok (Value.int y)
  direction : w.direction? me = .ok (Value.int d)

variable {w : World} {me : Nat} {r : Rect} {x y d e : Int}

theorem World.pointed_pointed (w : World) (me : Nat) (v v' : Value) :
    (w.pointed me v).pointed me v' = w.pointed me v' := by
  simp only [World.pointed, World.updateSprite_updateSprite, Function.comp_def, Sprite.set_set]

namespace World.Stands

theorem pointed_same (h : w.Stands me r x y d) : w.pointed me (Value.int d) = w :=
  updateSprite_same (congrArg (fun fields => { w.sprite me with fields })
    (Table.put_of_get? (get?_of_direction? h.direction)))

/-- Turning a sprite does not move it. -/
theorem pointed (h : w.Stands me r x y d) (e : Int) : (w.pointed me (Value.int e)).Stands me r x y e := by
  have turned : (w.pointed me (Value.int e)).sprite me = (w.sprite me).set .direction (Value.int e) :=
    sprite_updateSprite_self (get?_of_direction? h.direction) _
  have kept : ∀ key, "direction" ≠ key →
      ((w.sprite me).set .direction (Value.int e)).get? key = (w.sprite me).get? key := fun key other => by
    rw [Sprite.get?, Sprite.set, Sprite.put, Attribute.key, Table.get?_put_of_ne _ _ other, Sprite.get?]
  refine ⟨?_, ?_, ?_, direction?_pointed h.direction _⟩
  · rw [turned, Sprite.rect?, kept "rect" (by decide)]
    exact h.rect
  · rw [turned, Sprite.attribute?, kept _ (by decide)]
    exact h.x
  · rw [turned, Sprite.attribute?, kept _ (by decide)]
    exact h.y

theorem enter (h : w.Stands me r x y d) (name opcode : String) : (w.enter name opcode).Stands me r x y d :=
  ⟨h.rect, h.x, h.y, h.direction⟩

end World.Stands

theorem Value.lt?_int (a b : Int) : Value.lt? (Value.int a) (Value.int b) = .ok (decide (a < b)) :=
  congrArg Except.ok (Number.lt_int a b)

namespace Motion

/-! ## What one bounce does -/

/-- The direction after a bounce at a side. -/
def mirrored (x d : Int) : Int := if 0 < x ↔ 180 < d % 360 then d else -d % 360

/-- The direction after a bounce at the upper or the lower edge. -/
def overturned (y d : Int) : Int := if 0 < y ↔ 90 < d % 360 ∧ d % 360 < 270 then d else 180 - d

def bounced (r : Rect) (x y d : Int) : Int :=
  let d := if outsideAcross r then mirrored x d else d
  if outsideUpright r then overturned y d else d

theorem reduceTurn_int (d : Int) : reduceTurn (Value.int d) = .ok (Value.int (d % 360)) := by
  show Except.ok (Value.int (d.fmod 360)) = _
  rw [Int.fmod_eq_emod_of_nonneg d (by decide)]

theorem mirror_play (p : Player) (h : w.Stands me r x y d) :
    ((mirror me).perform p).play w = (.ok (), w.pointed me (Value.int (mirrored x d))) := by
  have back : (Value.int d).neg? = .ok (Value.int (-d)) := rfl
  simp only [mirror, Act.perform_bind, Act.perform_lift]
  rw [play_bind_ok (Act.attr_play p (Sprite.get?_eq_ok h.x)), Value.lt?_int, lift_ok_bind,
    play_bind_ok (Act.attr_play p (get?_of_direction? h.direction))]
  simp only [reduceTurn_int, Value.lt?_int, lift_ok_bind, bne_iff_ne, ne_eq, decide_eq_decide, ite_not, mirrored]
  split
  · rw [h.pointed_same]
    rfl
  · simp only [Act.perform_bind, Act.perform_lift, back, reduceTurn_int, lift_ok_bind]
    exact congrArg (Prod.mk _) (pointed_pointed w me _ _)

theorem overturn_play (p : Player) (h : w.Stands me r x y d) :
    ((overturn me).perform p).play w = (.ok (), w.pointed me (Value.int (overturned y d))) := by
  simp only [overturn, Act.perform_bind, Act.perform_lift]
  rw [play_bind_ok (Act.attr_play p (Sprite.get?_eq_ok h.y)), Value.lt?_int, lift_ok_bind,
    play_bind_ok (Act.attr_play p (get?_of_direction? h.direction))]
  simp only [reduceTurn_int, Value.lt?_int, lift_ok_bind, ← Bool.decide_and, bne_iff_ne, ne_eq, decide_eq_decide,
    ite_not, overturned]
  split
  · rw [h.pointed_same]
    rfl
  · rfl

theorem bounce_play (p : Player) (h : w.Stands me r x y d) :
    ((bounce me).perform p).play w = (.ok (), w.pointed me (Value.int (bounced r x y d))) := by
  have rest : ∀ e, ((if outsideUpright r then overturn me else pure ()).perform p).play (w.pointed me (Value.int e)) =
      (.ok (), w.pointed me (Value.int (if outsideUpright r then overturned y e else e))) := by
    intro e
    split
    · rw [overturn_play p (h.pointed e), pointed_pointed]
    · rfl
  simp only [bounce, Act.perform_bind, Act.perform_look, bounced]
  rw [play_get_bind, h.rect, Act.perform_lift, lift_ok_bind]
  split
  · rw [Act.play_bind_ok (mirror_play p h)]
    exact rest _
  · conv_lhs => rw [← h.pointed_same]
    exact rest d

/-! ## Facing inward -/

/-- A direction that leads away from the side which a sprite is nearest to, or along it. -/
def InwardAcross (x d : Int) : Prop :=
  (0 < x → ¬ (0 < d % 360 ∧ d % 360 < 180)) ∧ (x ≤ 0 → ¬ (180 < d % 360 ∧ d % 360 < 360))

/-- A direction that leads away from the upper or the lower edge, whichever a sprite is nearest to, or along it. -/
def InwardUpright (y d : Int) : Prop :=
  (0 < y → ¬ (0 ≤ d % 360 ∧ d % 360 < 90 ∨ 270 < d % 360 ∧ d % 360 < 360)) ∧
    (y ≤ 0 → ¬ (90 < d % 360 ∧ d % 360 < 270))

theorem inwardAcross_mirrored (x d : Int) : InwardAcross x (mirrored x d) := by
  rw [mirrored, InwardAcross]
  split <;> omega

theorem inwardUpright_overturned (y d : Int) : InwardUpright y (overturned y d) := by
  rw [overturned, InwardUpright]
  split <;> omega

theorem InwardAcross.overturned (h : InwardAcross x d) (y : Int) : InwardAcross x (overturned y d) := by
  rw [InwardAcross] at h
  rw [Motion.overturned, InwardAcross]
  split <;> omega

theorem mirrored_of_inward (h : InwardAcross x d) : mirrored x d % 360 = d % 360 := by
  rw [InwardAcross] at h
  rw [mirrored]
  split <;> omega

theorem overturned_of_inward (h : InwardUpright y d) : overturned y d % 360 = d % 360 := by
  rw [InwardUpright] at h
  rw [overturned]
  split <;> omega

theorem inwardAcross_bounced (out : outsideAcross r = true) : InwardAcross x (bounced r x y d) := by
  rw [bounced, if_pos out]
  split
  · exact (inwardAcross_mirrored x d).overturned y
  · exact inwardAcross_mirrored x d

theorem inwardUpright_bounced (out : outsideUpright r = true) : InwardUpright y (bounced r x y d) := by
  rw [bounced, if_pos out]
  exact inwardUpright_overturned y _

theorem bounced_of_inward (across : outsideAcross r = true → InwardAcross x d)
    (upright : outsideUpright r = true → InwardUpright y d) : bounced r x y d % 360 = d % 360 := by
  have first : (if outsideAcross r then mirrored x d else d) % 360 = d % 360 := by
    split
    · next out => exact mirrored_of_inward (across out)
    · rfl
  rw [bounced]
  split
  · next out =>
    have inward := upright out
    rw [InwardUpright, ← first] at inward
    exact (overturned_of_inward inward).trans first
  · exact first

theorem outsideAcross_iff : outsideAcross r = true ↔ ¬ (0 ≤ r.left ∧ r.left ≤ r.right ∧ r.right ≤ 960) := by
  simp only [outsideAcross, Bool.not_eq_true', Bool.and_eq_false_iff, decide_eq_false_iff_not]
  omega

theorem outsideUpright_iff : outsideUpright r = true ↔ ¬ (0 ≤ r.top ∧ r.top ≤ r.bottom ∧ r.bottom ≤ 720) := by
  simp only [outsideUpright, Bool.not_eq_true', Bool.and_eq_false_iff, decide_eq_false_iff_not]
  omega

/-! ## The block -/

/-- A block with which a sprite bounces can be run. -/
structure Bounces (w : World) (me : Nat) (flag : Value) (name : String) (b : Block) : Prop where
  meets : w.Meets me flag name b
  opcode : b.opcode? = .ok (.text "motion_ifonedgebounce")
  able : (w.sprite me).hides "motion_ifonedgebounce" = false
  fuelled : 0 < w.fuel

variable {flag : Value} {name : String} {b : Block}

theorem Bounces.run (h : Bounces w me flag name b) (p : Player) (stands : w.Stands me r x y d) :
    (runWith p me flag false).play w =
      (.ok .null, (w.enter name "motion_ifonedgebounce").pointed me (Value.int (bounced r x y d))) := by
  have member : Member.ofName? (w.sprite me) "motion_ifonedgebounce" = some (.block (.motion .ifOnEdgeBounce)) :=
    (Member.ofName?_of_free h.able (by decide)).trans rfl
  rw [runWith_enters p h.meets h.opcode member h.fuelled, contain_play]
  simp only [Opcode.act, act, Act.perform_bind]
  rw [play_bind_ok (bounce_play p (stands.enter name _))]
  rfl

/-- A sprite that bounces is turned, if at all, and nothing else changes. Over a side of the stage, or over its
upper or lower edge, it then faces inward; on the stage it keeps its direction. Bouncing once more in the same
place leaves it facing the same way. No attribute of the sprite hides the method (`Bounces.able`). -/
theorem bounce_turns_inward (p : Player) (h : Bounces w me flag name b) (stands : w.Stands me r x y d) :
    ∃ d' w', (runWith p me flag false).play w = (.ok .null, w') ∧
      w' = (w.enter name "motion_ifonedgebounce").pointed me (Value.int d') ∧ w'.Stands me r x y d' ∧
      (¬ (0 ≤ r.left ∧ r.left ≤ r.right ∧ r.right ≤ 960) → InwardAcross x d') ∧
      (¬ (0 ≤ r.top ∧ r.top ≤ r.bottom ∧ r.bottom ≤ 720) → InwardUpright y d') ∧
      ((0 ≤ r.left ∧ r.left ≤ r.right ∧ r.right ≤ 960) → (0 ≤ r.top ∧ r.top ≤ r.bottom ∧ r.bottom ≤ 720) →
        d' = d) ∧
      ∀ p w1 flag1 name1 b1, Bounces w1 me flag1 name1 b1 → w1.Stands me r x y d' →
        ∃ d'' w'', (runWith p me flag1 false).play w1 = (.ok .null, w'') ∧ w''.Stands me r x y d'' ∧
          d'' % 360 = d' % 360 := by
  refine ⟨bounced r x y d, _, h.run p stands, rfl, (stands.enter name _).pointed _,
    fun out => inwardAcross_bounced (outsideAcross_iff.2 out),
    fun out => inwardUpright_bounced (outsideUpright_iff.2 out), fun across upright => ?_, ?_⟩
  · rw [bounced, if_neg (outsideUpright_iff.not.2 (not_not.2 upright)),
      if_neg (outsideAcross_iff.not.2 (not_not.2 across))]
  · intro p w1 flag1 name1 b1 again stands1
    exact ⟨_, _, again.run p stands1, (stands1.enter name1 _).pointed _,
      bounced_of_inward inwardAcross_bounced inwardUpright_bounced⟩

/-- A sprite in the upper right corner, half over both edges, that faces the corner. -/
def inCorner : World :=
  (World.ofBlocks [("e", Block.plain "motion_ifonedgebounce" [])]).updateSprite 0 fun s =>
    (((s.set .x (Value.int 480)).set .y (Value.int 360)).set .direction (Value.int 45)).paint
      { width := 48, height := 48, solid := true } ⟨936, -24, 48, 48⟩

theorem bounce_turns_inward_inCorner :
    (Bounces inCorner 0 (.text "e") "Cat" (Block.plain "motion_ifonedgebounce" []) ∧
      inCorner.Stands 0 ⟨936, -24, 48, 48⟩ 480 360 45) ∧
    ∃ d' w', (runWith (player 4) 0 (.text "e") false).play inCorner = (.ok .null, w') ∧
      w'.Stands 0 ⟨936, -24, 48, 48⟩ 480 360 d' ∧ InwardAcross 480 d' ∧ InwardUpright 360 d' := by
  have bounces : Bounces inCorner 0 (.text "e") "Cat" (Block.plain "motion_ifonedgebounce" []) :=
    ⟨⟨rfl, rfl, rfl⟩, rfl, rfl, by decide⟩
  have stands : inCorner.Stands 0 ⟨936, -24, 48, 48⟩ 480 360 45 := ⟨rfl, rfl, rfl, rfl⟩
  obtain ⟨d', w', run, -, there, across, upright, -⟩ := bounce_turns_inward (player 4) bounces stands
  exact ⟨⟨bounces, stands⟩, d', w', run, there, across (by decide), upright (by decide)⟩

/-- With an attribute that is called like the block the sprite in the corner goes on facing it. -/
theorem hidden_bounce_faces_outward :
    (((runBlock 0 (.text "e")).play (inCorner.updateSprite 0 (·.put "motion_ifonedgebounce" (.text "")))).2.Stands 0
      ⟨936, -24, 48, 48⟩ 480 360 45) ∧ ¬ InwardAcross 480 45 :=
  ⟨⟨rfl, rfl, rfl, rfl⟩, fun inward => inward.1 (by decide) (by decide)⟩

end Motion

end BlockStage
