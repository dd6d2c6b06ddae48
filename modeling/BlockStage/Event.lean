import BlockStage.Value.Basic

/-!
# Events

What the window reports: a kind and details. Looking for a detail that is missing is a fault.
-/

namespace BlockStage

/-- A `pygame.event.Event`. -/
structure Event where
  details : Table Value := []

namespace Event

/-! ## Kinds -/

def noEvent : Int := 0
def windowClosed : Int := 256
def keyDown : Int := 768
def keyUp : Int := 769
def mouseDown : Int := 1025
def mouseUp : Int := 1026
def stickMoved : Int := 1536
def padDown : Int := 1539
def padUp : Int := 1540

/-- `event.type` -/
def kind (e : Event) : Value := (Table.get? e.details "type").getD (Value.int noEvent)

def fields (e : Event) : Table Value := Table.put e.details "type" e.kind

/-- Whether `event.type` is a kind. -/
def isKind (e : Event) (kind : Int) : Bool := e.kind.same (Value.int kind)

/-- A detail by its name. -/
def detail? (e : Event) (name : String) : Except Fault Value :=
  match Table.get? e.details name with
  | some v => .ok v
  | none => .error .missingMember

def key? (e : Event) : Except Fault Value := e.detail? "key"

def written? (e : Event) : Except Fault Value := e.detail? "unicode"

/-- The event of kind `QUIT`. -/
def close : Event := ⟨[("type", Value.int windowClosed)]⟩

end Event

/-! ## Keys with a meaning of their own -/

namespace Key

def backspace : Int := 8
def enter : Int := 13

end Key

end BlockStage
