import BlockStage.Value.Basic

/-!
# Keys

Scripts name the keys of the keyboard, and the window reports codes.
-/

namespace BlockStage.Keys

/-- The codes of some keys. -/
def up : Int := 1073741906
def down : Int := 1073741905
def left : Int := 1073741904
def right : Int := 1073741903
def space : Int := 32
def enter : Int := 13
def escape : Int := 27
def comma : Int := 44

/-- The keys with a name. -/
def named : List (String × Int) := [
  ("up arrow", up), ("down arrow", down), ("left arrow", left), ("right arrow", right),
  ("space", space), ("enter", enter), ("escape", escape),
  ("numpad 0", 1073741922), ("numpad 1", 1073741913), ("numpad 2", 1073741914),
  ("numpad 3", 1073741915), ("numpad 4", 1073741916), ("numpad 5", 1073741917),
  ("numpad 6", 1073741918), ("numpad 7", 1073741919), ("numpad 8", 1073741920),
  ("numpad 9", 1073741921), ("numpad *", 1073741909), ("numpad +", 1073741911),
  ("numpad -", 1073741910), ("numpad .", 1073741923), ("numpad /", 1073741908),
  ("numpad enter", 1073741912), ("comma", comma)]

/-- Small letters and digits are named by themselves. -/
def letters : List (String × Int) :=
  "abcdefghijklmnopqrstuvwxyz1234567890".toList.map fun c => (String.singleton c, c.toNat)

/-- `keymap.keymap` -/
def codes : Table Int := named ++ letters

/-- `keymap.keymap[name]` -/
def code? (name : Value) : Except Fault Int := do
  match ← Value.find? codes name with
  | some code => return code
  | none => throw .missingKey

/-- Whether a key is among those that are held. -/
def isHeld (held : List Value) (code : Int) : Bool := held.any (·.same (Value.int code))

end BlockStage.Keys
