import BlockStage.Canvas

/-!
# Touching

Two pictures touch if their rectangles meet and a coloured pixel of the one lies on one of the other.
A surface is coloured all over or not at all.
-/

namespace BlockStage

/-- The `overlap` of two masks at a distance. -/
def Surface.overlaps (a b : Surface) (dx dy : Int) : Bool :=
  a.solid && b.solid &&
    Rect.meets ⟨0, 0, a.width, a.height⟩ ⟨dx, dy, b.width, b.height⟩

/-- `check_collision` -/
def touching (rect1 : Rect) (image1 : Surface) (rect2 : Rect) (image2 : Surface) : Bool :=
  rect1.meets rect2 && image1.overlaps image2 (rect2.x - rect1.x) (rect2.y - rect1.y)

end BlockStage
