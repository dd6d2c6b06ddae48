import BlockStage.Proofs.Stage.Monitors

/-!
# Hidden sprites

A sprite that is hidden is no longer drawn, but it keeps the picture that was drawn of it last. Whether a sprite
touches another is found from their last pictures alone: `Sensing.hidden_sprites_are_touched`.
-/

namespace BlockStage

open Run World

variable {w w1 : World} {me other : Nat} {title : String} {mine its : Surface × Rect}

namespace Sprite

def IsHidden (s : Sprite) : Prop := ∃ v, s.attribute? .visible = .ok v ∧ v.holds = false

/-- The picture that was drawn of a sprite last. -/
def HasPicture (s : Sprite) (picture : Surface × Rect) : Prop :=
  s.image? = .ok picture.1 ∧ s.rect? = .ok picture.2

theorem get?_set_of_ne (s : Sprite) {a : Attribute} {key : String} (v : Value) (h : a.key ≠ key) :
    (s.set a v).get? key = s.get? key := by
  rw [get?, set, put, Table.get?_put_of_ne _ _ h, get?]

theorem HasPicture.set {s : Sprite} {picture : Surface × Rect} (h : s.HasPicture picture) (a : Attribute) (v : Value) :
    (s.set a v).HasPicture picture := by
  rw [HasPicture, image?, rect?, get?_set_of_ne s v (by cases a <;> decide),
    get?_set_of_ne s v (by cases a <;> decide)]
  exact h

end Sprite

namespace Stage

/-- Of a hidden sprite no picture is drawn. -/
theorem picture_of_hidden {s : Sprite} (hidden : s.IsHidden) (images : Table Surface) (drawn : Surface × Rect) :
    (picture images s).answer ≠ .ok (some drawn) := by
  have after {α β : Type} {p : Paint α} {f : α → Paint β} {b : β} (h : ∀ a, (f a).answer ≠ .ok b) :
      (p >>= f).answer ≠ .ok b := by
    rw [Paint.answer_bind]
    rcases p.answer with _ | a
    · exact nofun
    · exact h a
  obtain ⟨v, shown, no⟩ := hidden
  refine after fun costumes => after fun costume => after fun image => after fun format => ?_
  dsimp only
  split <;> refine after fun image => after fun stage => ?_
  all_goals
    split
    · exact nofun
    · rw [shown, Paint.answer_bind, Paint.answer_ofExcept, Except.ok_bind, if_pos (by rw [no]; rfl)]
      exact nofun

/-- Drawing a sprite leaves one alone that is hidden. -/
theorem always_drawSprite_hidden (p : Player) (j : Nat) {i : Nat} {s : Sprite} (hidden : s.IsHidden) :
    ((drawSprite j).perform p).Always fun w => w.sprite i = s := by
  have recorded {w : World} (same : w.sprite i = s) (call : Call) : (w.record call).sprite i = s := by
    obtain ⟨_, _, noted⟩ := w.record_eq call
    rw [noted]
    exact same
  unfold drawSprite
  simp only [Act.perform_bind, Act.perform_look]
  refine .get_bind fun w same0 => ?_
  simp only [draw, Act.perform_bind, bind_assoc]
  refine .bind (always_records recorded p _) fun _ => ?_
  rw [Act.perform_lift]
  refine .lift_bind fun drawn known => ?_
  rcases drawn with _ | ⟨image, rect⟩
  · exact .pure _
  · refine .bind (fun w same => ?_) fun _ => always_draw recorded p _
    have other : j ≠ i := by
      rintro rfl
      exact picture_of_hidden (same0 ▸ hidden) _ _ known
    exact (w.sprite_updateSprite_of_ne other).trans same

theorem sprite_drawn_hidden {i : Nat} (hidden : (w.sprite i).IsHidden) (players : List Nat) :
    ((forPresent drawPresent players).play w).2.sprite i = w.sprite i :=
  Session.Draws.always_forPresent (J := fun w' => w'.sprite i = w.sprite i) (fun j => .bind .get fun _ =>
    .bind (.lift _) fun _ => .bind .get fun _ => always_drawSprite_hidden _ j hidden) players w rfl

end Stage

namespace Sensing

/-- Whether a sprite touches another that it finds by name is found from the pictures of the two. -/
theorem touches_play (p : Player) {what : Value} (named : w.named? what = .ok (some other))
    (usual : what.isText "_mouse_" = false ∧ what.isText "_edge_" = false)
    (able : (w.sprite me).hides "collision" = false) (hasMine : (w.sprite me).HasPicture mine)
    (hasIts : (w.sprite other).HasPicture its) :
    ((touches me what).perform p).play w = (.ok (touching mine.2 mine.1 its.2 its.1), w) := by
  rw [touches, Act.play_look_bind, usual.1, usual.2, if_neg Bool.false_ne_true, if_neg Bool.false_ne_true, named,
    Act.lift_ok_bind]
  dsimp only
  rw [Sprite.can?_of_free able, Act.lift_ok_bind, touchesSprite, Act.play_look_bind, hasMine.1, hasMine.2, hasIts.1,
    hasIts.2]
  rfl

/-- A sprite can be asked whether it touches another, and both have been drawn. -/
structure Facing (w : World) (me : Nat) (title : String) (other : Nat) (mine its : Surface × Rect) : Prop where
  named : w.named? (.text title) = .ok (some other)
  usual : title ≠ "_mouse_" ∧ title ≠ "_edge_"
  able : (w.sprite me).hides "collision" = false
  mine : (w.sprite me).HasPicture mine
  its : (w.sprite other).HasPicture its

namespace Facing

theorem touches_play (h : Facing w me title other mine its) (p : Player) :
    ((touches me (.text title)).perform p).play w = (.ok (touching mine.2 mine.1 its.2 its.1), w) :=
  Sensing.touches_play p h.named ⟨by simpa [Value.isText] using h.usual.1, by simpa [Value.isText] using h.usual.2⟩
    h.able h.mine h.its

theorem set (h : Facing w me title other mine its) (i : Nat) (a : Attribute) (v : Value) :
    Facing (w.updateSprite i (·.set a v)) me title other mine its := by
  have each (P : Sprite → Prop) (step : ∀ s, P s → P (s.set a v)) {j : Nat} (before : P (w.sprite j)) :
      P ((w.updateSprite i (·.set a v)).sprite j) := by
    rcases w.sprite_updateSprite i j (·.set a v) with same | same <;> rw [same]
    · exact before
    · exact step _ before
  refine ⟨?_, h.usual, each (fun s => s.hides "collision" = false) (fun s able => ?_) h.able,
    each (fun s => s.HasPicture mine) (fun _ h => h.set a v) h.mine,
    each (fun s => s.HasPicture its) (fun _ h => h.set a v) h.its⟩
  · have cast : (w.updateSprite i (·.set a v)).cast = w.cast := rfl
    refine (World.named?_congr w _ cast (fun j => ?_) _).trans h.named
    exact each (fun s => s.name? = (w.sprite j).name?)
      (fun s same => (s.get?_set_of_ne v (by cases a <;> decide)).trans same) rfl
  · rw [Sprite.hides, Table.has, Sprite.set, Sprite.put, Table.get?_put_of_ne _ _ (by cases a <;> decide)]
    exact able

end Facing

/-- Whether a sprite touches another is found from the pictures that were drawn of them last. That one of them
was hidden, shown, moved or turned since then makes no difference, and drawing leaves a hidden sprite its
picture. -/
theorem hidden_sprites_are_touched (p : Player) {flag : Value} {name opcode : String} {b : Block} {args : Arguments}
    (begins : w.Begins me flag name opcode (.sensing .touchingObject) b)
    (taken : ((Arguments.eval me flag).perform p).play (w.enter name opcode) = (.ok args, w1))
    (given : args.need "TOUCHINGOBJECTMENU" = .ok (.text title)) (facing : Facing w1 me title other mine its) :
    (runWith p me flag false).play w = (.ok (Value.truth (touching mine.2 mine.1 its.2 its.1)), w1) ∧
      (∀ i a v, Facing (w1.updateSprite i (·.set a v)) me title other mine its) ∧
      ∀ i, (w1.sprite i).IsHidden → ∀ players,
        ((Stage.forPresent Stage.drawPresent players).play w1).2.sprite i = w1.sprite i := by
  refine ⟨(begins.run p).trans (contain_ok ?_), facing.set, fun i => Stage.sprite_drawn_hidden⟩
  rw [Opcode.act, act, Act.play_bind_ok taken, given, Act.lift_ok_bind, Act.play_bind_ok (facing.touches_play p)]
  rfl

def middle : Surface × Rect := ({ width := 48, height := 48, solid := true }, ⟨456, 336, 48, 48⟩)

/-- Two sprites that were drawn one over the other, and blocks with which the first hides and asks for the second. -/
def drawnTogether : World :=
  let w := World.ofBlocks [("h", .plain "looks_hide" []),
    ("t", .plain "sensing_touchingobject" [("TOUCHINGOBJECTMENU", .literal "Dog")])]
  let dog : Sprite := { kit := 1, fields := [("name", .text "Dog")] }
  { w with sprites := (w.sprites ++ [dog]).map (·.paint middle.1 middle.2), cast := [0, 1] }

def hiddenAfterwards : World := ((runBlock 0 (.text "h") false).play drawnTogether).2

theorem hidden_sprites_are_touched_together : (hiddenAfterwards.sprite 0).IsHidden ∧
    ((runWith (player 4) 0 (.text "t") false).play hiddenAfterwards).1 = .ok (.text "True") := by
  have facing : Facing (hiddenAfterwards.enter "Cat" "sensing_touchingobject") 0 "Dog" 1 middle middle :=
    ⟨rfl, by decide, rfl, ⟨rfl, rfl⟩, ⟨rfl, rfl⟩⟩
  exact ⟨⟨.bool false, rfl, rfl⟩, congrArg Prod.fst (hidden_sprites_are_touched (w := hiddenAfterwards) (player 4)
    ⟨⟨rfl, rfl, rfl⟩, rfl, rfl, by decide⟩ rfl rfl facing).1⟩

/-- The first sprite has hidden, but touches the second. -/
theorem hidden_cat_touches_dog : (hiddenAfterwards.sprite 0).IsHidden ∧
    ((runBlock 0 (.text "t") false).play hiddenAfterwards).1 = .ok (.text "True") :=
  ⟨⟨.bool false, rfl, rfl⟩, rfl⟩

end Sensing

end BlockStage
