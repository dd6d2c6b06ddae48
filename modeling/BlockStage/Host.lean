import BlockStage.Canvas

/-!
# The host

The surroundings of a running project: a clock that moves only when it is told to, the mouse, the
pictures, numbers that stand for chance, and the limits on how long a script may run.
-/

namespace BlockStage

/-- What the program asks the host for. -/
structure Host where
  start : Int := 1000000000000
  clock : Int := 1000000000000
  mouse : Number × Number := (0, 0)
  /-- Which mouse buttons are held: left, middle, right. -/
  buttons : List Value := [.bool false, .bool false, .bool false]
  images : Table Surface := []
  /-- Numbers used in turn where chance decides, from the start again when used up. -/
  random : List Int := [0]
  drawn : Nat := 0
  login : Option String := some "user"
  ticks : Int := 3
  fuel : Int := 1000
  /-- What the user answers when asked, in turn. -/
  answers : List Value := []
  /-- How many seconds a pause may last. -/
  longest : Float := 9000000000.0

namespace Host

/-- Milliseconds as seconds. -/
def seconds (ms : Int) : Except Fault Float := Binary.ofQuotient? ms 1000

/-- `time.time` -/
def time (h : Host) : Except Fault Float := seconds h.clock

/-- `pygame.time.get_ticks` -/
def elapsed (h : Host) : Int := h.clock - h.start

def advance (h : Host) (ms : Int) : Host := { h with clock := h.clock + ms }

/-- The next number of chance. -/
def chance (h : Host) : Int × Host :=
  (h.random.getD (h.drawn % h.random.length) 0, { h with drawn := h.drawn + 1 })

/-- `random.uniform` -/
def uniform (k : Int) (low high : Number) : Except Fault Number := do
  let part ← Number.div (.int (Int.fmod k 1000)) (.int 1000)
  low.add (← (← high.sub low).mul part)

/-- `random.randint` -/
def pick (k low high : Int) : Int := low + Int.fmod k (high - low + 1)

/-- How far a pause moves the clock (`time.sleep`). It is not negative, and not longer than the host allows. -/
def pause? (h : Host) (seconds : Float) : Except Fault Int :=
  if seconds.isNaN || seconds < 0 then .error .badValue
  else if h.longest < seconds then .error .overflow
  else Binary.truncate? (seconds * 1000)

/-- `pygame.mouse.get_pressed()[0]` -/
def leftButton? (h : Host) : Except Fault Value :=
  match h.buttons with
  | b :: _ => .ok b
  | [] => .error .outOfRange

end Host

end BlockStage
