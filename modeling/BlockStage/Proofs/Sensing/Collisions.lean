import BlockStage.Proofs.Sensing.HiddenSprites

/-!
# Touching one another

Two pictures touch one another or neither touches the other (`touching_comm`). So two sprites give the same answer
when each is asked for the other by its name: `Sensing.touching_is_mutual`. A sprite is not found by a name that
stands for the mouse or the edge, or that a sprite before it has: `Sensing.touching_is_one_sided`.
-/

namespace BlockStage

open Run

/-! ## Pictures -/

theorem Rect.meets_comm (a b : Rect) : a.meets b = b.meets a := by
  rw [Bool.eq_iff_iff]
  simp only [meets, Bool.and_eq_true, decide_eq_true_eq]
  omega

theorem Surface.overlaps_comm (a b : Surface) (dx dy : Int) : a.overlaps b dx dy = b.overlaps a (-dx) (-dy) := by
  have boxes : Rect.meets ⟨0, 0, a.width, a.height⟩ ⟨dx, dy, b.width, b.height⟩ =
      Rect.meets ⟨0, 0, b.width, b.height⟩ ⟨-dx, -dy, a.width, a.height⟩ := by
    rw [Bool.eq_iff_iff]
    simp only [Rect.meets, Bool.and_eq_true, decide_eq_true_eq]
    omega
  rw [overlaps, overlaps, boxes, Bool.and_comm a.solid]

theorem touching_comm (r1 : Rect) (i1 : Surface) (r2 : Rect) (i2 : Surface) :
    touching r1 i1 r2 i2 = touching r2 i2 r1 i1 := by
  rw [touching, touching, Rect.meets_comm, Surface.overlaps_comm, Int.neg_sub, Int.neg_sub]

/-! ## Sprites -/

namespace Sensing

/-- A sprite is the first of its name, the name does not stand for something else, the sprite can be asked what it
touches, and it has been drawn. -/
structure Known (w : World) (i : Nat) (name : Value) (picture : Surface × Rect) : Prop where
  first : w.named? name = .ok (some i)
  usual : name.isText "_mouse_" = false ∧ name.isText "_edge_" = false
  able : (w.sprite i).hides "collision" = false
  drawn : (w.sprite i).HasPicture picture

/-- A block with which a sprite is asked whether it touches what has a name, and the world once its inputs are
taken. -/
def Asks (p : Player) (w : World) (me : Nat) (flag name : Value) (w1 : World) : Prop :=
  ∃ title opcode b args, w.Begins me flag title opcode (.sensing .touchingObject) b ∧
    ((Arguments.eval me flag).perform p).play (w.enter title opcode) = (.ok args, w1) ∧
    args.need "TOUCHINGOBJECTMENU" = .ok name

theorem Asks.answers {p : Player} {w w1 : World} {me other : Nat} {flag name name' : Value} {mine its : Surface × Rect}
    (asks : Asks p w me flag name' w1) (known : Known w1 me name mine) (known' : Known w1 other name' its) :
    (runWith p me flag false).play w = (.ok (Value.truth (touching mine.2 mine.1 its.2 its.1)), w1) := by
  obtain ⟨title, opcode, b, args, begins, taken, given⟩ := asks
  have touches := touches_play p known'.first known'.usual known.able known.drawn known'.drawn
  refine (begins.run p).trans (contain_ok ?_)
  rw [Opcode.act, act, Act.play_bind_ok taken, given, Act.lift_ok_bind, Act.play_bind_ok touches]
  rfl

/-- Touching is mutual: between any two pictures, and so between any two sprites that were drawn, are found by their
names and can be asked. -/
theorem touching_is_mutual :
    (∀ r1 i1 r2 i2, touching r1 i1 r2 i2 = touching r2 i2 r1 i1) ∧
      ∀ {p : Player} {w w1 w2 : World} {a b : Nat} {flag flag' name name' : Value} {picture picture' : Surface × Rect},
        Asks p w a flag name' w1 → Asks p w b flag' name w2 →
        (∀ w' ∈ [w1, w2], Known w' a name picture ∧ Known w' b name' picture') →
        let answer := Value.truth (touching picture.2 picture.1 picture'.2 picture'.1)
        (runWith p a flag false).play w = (.ok answer, w1) ∧ (runWith p b flag' false).play w = (.ok answer, w2) := by
  refine ⟨touching_comm, fun asks asks' known => ?_⟩
  obtain ⟨mine, its⟩ := known _ (.head _)
  obtain ⟨its', mine'⟩ := known _ (.tail _ (.head _))
  refine ⟨asks.answers mine its, ?_⟩
  rw [touching_comm]
  exact asks'.answers mine' its'

/-- The picture of a sprite that was drawn as a square. -/
def square (x : Int) : Surface × Rect := ({ width := 48, height := 48, solid := true }, ⟨x, 0, 48, 48⟩)

/-- Sprites that were drawn as squares. Each has its entries, the name that it is asked for, and a place. -/
def drawnActors (actors : List (Table Value × String × Int)) : World :=
  let blank := World.ofBlocks []
  { blank with
    kits := actors.map fun (_, asked, _) =>
      ⟨[("t", .plain "sensing_touchingobject" [("TOUCHINGOBJECTMENU", .literal asked)])], [], []⟩
    sprites := actors.zipIdx.map fun ((entries, _, x), i) =>
      Sprite.paint { kit := i, fields := entries ++ (blank.sprite 0).fields.tail } (square x).1 (square x).2
    cast := List.range actors.length }

def called (name : String) : Table Value := [("name", .text name)]

def catBesideDog : World := drawnActors [(called "Cat", "Dog", 0), (called "Dog", "Cat", 47)]

theorem touching_is_mutual_catBesideDog :
    ((runWith (player 4) 0 (.text "t") false).play catBesideDog).1 = .ok (.text "True") ∧
      ((runWith (player 4) 1 (.text "t") false).play catBesideDog).1 = .ok (.text "True") := by
  have asks : Asks (player 4) catBesideDog 0 (.text "t") (.text "Dog")
      (catBesideDog.enter "Cat" "sensing_touchingobject") :=
    ⟨_, _, _, _, ⟨⟨rfl, rfl, rfl⟩, rfl, rfl, by decide⟩, rfl, rfl⟩
  have asks' : Asks (player 4) catBesideDog 1 (.text "t") (.text "Cat")
      (catBesideDog.enter "Dog" "sensing_touchingobject") :=
    ⟨_, _, _, _, ⟨⟨rfl, rfl, rfl⟩, rfl, rfl, by decide⟩, rfl, rfl⟩
  have known (title : String) : let w := catBesideDog.enter title "sensing_touchingobject"
      Known w 0 (.text "Cat") (square 0) ∧ Known w 1 (.text "Dog") (square 47) :=
    ⟨⟨rfl, by decide, rfl, rfl, rfl⟩, ⟨rfl, by decide, rfl, rfl, rfl⟩⟩
  have both := touching_is_mutual.2 asks asks' fun w' mem => by
    rcases List.mem_pair.1 mem with rfl | rfl <;> exact known _
  exact ⟨congrArg Prod.fst both.1, congrArg Prod.fst both.2⟩

/-- What the first sprite and another answer when they are asked. -/
def answers (w : World) (i : Nat) : Except Stop Value × Except Stop Value :=
  (((runBlock 0 (.text "t") false).play w).1, ((runBlock i (.text "t") false).play w).1)

/-- Sprites give different answers if one has a name that stands for the edge, if a sprite before one has its name, or
if the project has an entry for one in the place of the test. -/
theorem touching_is_one_sided :
    answers (drawnActors [(called "Cat", "_edge_", 0), (called "_edge_", "Cat", 100)]) 1 =
        (.ok (.text "True"), .ok (.text "False")) ∧
      answers (drawnActors [(called "Cat", "Dog", 0), (called "Dog", "Cat", 100), (called "Dog", "Cat", 0)]) 2 =
        (.ok (.text "False"), .ok (.text "True")) ∧
      answers (drawnActors [(called "Cat" ++ [("collision", .null)], "Dog", 0), (called "Dog", "Cat", 0)]) 1 =
        (.ok .null, .ok (.text "True")) :=
  ⟨rfl, rfl, rfl⟩

end Sensing

end BlockStage
