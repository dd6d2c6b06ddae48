import BlockStage.Panel
import BlockStage.Script.Run

/-!
# Frames

One round of the main loop: it looks at an event and at the keys, starts the scripts that wait for a
key, and draws the stage, the sprites and the monitors.
-/

namespace BlockStage

/-- An event, and the keys that are held. -/
structure Moment where
  event : Event
  keys : List Value

def Moment.quit : Moment := ⟨Event.close, []⟩

namespace Stage

/-! ## Keys -/

/-- The key of an `event_whenkeypressed`. -/
def awaitedKey? (b : Block) : Except Fault (Option Int) := do
  if !b.hasOpcode "event_whenkeypressed" then return none
  let option ← (← b.get? "fields").field? "KEY_OPTION"
  return some (← Keys.code? (← option.at? 0))

/-- Starts what comes next after the hats of held keys. -/
def startKeyScripts (sprite : Nat) (held : List Value) : List (String × Block) → Run Unit
  | [] => return ()
  | (_, b) :: rest => do
    match ← awaitedKey? b with
    | some key =>
      if Keys.isHeld held key then
        let next ← b.get? "next"
        let _ ← ((← get).sprite sprite).title?
        match next with
        | .text flag => modify fun w => w.start sprite (.text flag)
        | _ => throw (.fault (.error .wrongKind))
    | none => pure ()
    startKeyScripts sprite held rest

/-- Goes through the sprites that are not deleted. -/
def forPresent (f : Nat → Run Unit) : List Nat → Run Unit
  | [] => return ()
  | i :: rest => do
    if !(← ((← get).sprite i).hasMode? .deleted) then f i
    forPresent f rest

/-- Gives names of the program values. -/
def giveNames (names : List (String × Expression.Datum)) : Run Unit :=
  modify fun w => { w with memory := names.foldl (fun m (name, d) => m.withName name (some d)) w.memory }

/-- The names that looking through the blocks leaves: the last block, its id or what was started after it, and
the last script that was started. -/
def nameLooked (w : World) (held : List Value) : List (String × Expression.Datum) :=
  let present := w.players.filter fun i => ((w.sprite i).hasMode? .deleted).toOption = some false
  let blocks := present.flatMap fun i => (w.blocks i).map fun p => (i, p)
  let isStarted (b : Block) : Bool := (awaitedKey? b).toOption.join.any (Keys.isHeld held)
  let threads := (blocks.filter fun (_, _, b) => isStarted b).length
  let thread := if threads = 0 then [] else [("thread", World.threadThing (w.threads + threads))]
  match blocks.getLast? with
  | some (i, id, b) => thread ++ [
    ("flag", if isStarted b then .ofValue b.next else .text id),
    ("code", .ref .record ⟨.kit (w.sprite i).kit "blocks", [.name id]⟩)]
  | none => []

/-- Starts the scripts that wait for a key. -/
def dispatchKeys (held : List Value) : Run Unit := do
  modify fun w => { w with keys := some held }
  if held.isEmpty then return ()
  giveNames (("keymap", .module "keymap") :: nameLooked (← get) held)
  forPresent (fun i => do startKeyScripts i held (← (← get).blocks? i)) (← get).players

/-! ## Monitors -/

/-- The panel of a monitor. -/
def panel (w : World) (m : Monitor) : Panel where
  visible := m.get? "visible"
  name := m.name?
  owner := (w.sprite m.sprite).title?.map Value.text
  ofStage := (w.sprite m.sprite).get? "isStage"
  x := (Place.onScreen (Value.int m.place.1) (Value.int m.place.2)).map fun p => Value.int p.1
  y := (Place.onScreen (Value.int m.place.1) (Value.int m.place.2)).map fun p => Value.int p.2
  width := m.get? "width"
  height := m.get? "height"
  params := m.get? "params"
  scroll := m.get? "show_y"

def hand (w : World) : Panel.Hand := ⟨w.host.mouse, w.host.leftButton?, w.host.elapsed⟩

/-- What other monitors show: a reporter, with the name of its sprite before it. -/
def reporterText (m : Monitor) (opcode : Value) : Run Value := do
  let s := (← get).sprite m.sprite
  match opcode with
  | .text name =>
    match Member.ofName? s name with
    | none => throw (.fault (.error .missingMember))
    | some member =>
      let value ← runAct (member.invoke m.sprite [.null])
      let front := " " ++ (← s.title?) ++ ":" ++ name.replace "motion_" ""
      Value.add? (.text front) value
  | _ => throw (.fault (.error .wrongKind))

/-- `Monitor.draw` -/
def drawMonitor (index : Nat) (m : Monitor) : Run Unit := do
  if Table.has m.fields "draw" then throw (.fault (.error .wrongKind))
  if !(← m.get? "visible").holds then return ()
  let id ← m.get? "id"
  let opcode ← m.get? "opcode"
  let w ← get
  if opcode.isText "data_variable" then
    let value ← w.variableValue? m.sprite id
    Run.paint (Panel.drawVariable screen (panel w m) value)
  else if opcode.isText "data_listcontents" then
    let (_, shown) ← w.list? m.sprite id
    match ← Run.pointAt (Panel.drawList screen (panel w m) shown (hand w)) with
    | some v => modify fun w => { w with monitors := w.monitors.modify index (·.put "show_y" v) }
    | none => return ()
  else
    let value ← reporterText m opcode
    Run.paint (Panel.drawVariable screen (panel (← get) m) value)

/-- Draws the monitors in turn. -/
def drawMonitors : List Monitor → Nat → Run Unit
  | [], _ => return ()
  | m :: rest, n => do
    drawMonitor n m
    drawMonitors rest (n + 1)

/-! ## A round -/

/-- `Sprite.draw`, unless it is hidden. -/
def drawPresent (i : Nat) : Run Unit := do
  ((← get).sprite i).can? "draw"
  runAct (drawSprite i)

/-- The name of what was drawn last. -/
def nameDrawn (w : World) : List (String × Expression.Datum) :=
  match w.monitors.length, w.players.getLast? with
  | n + 1, _ => [("i", World.monitorDatum n)]
  | 0, some s => [("i", .sprite s)]
  | 0, none => []

/-- Draws all and updates the window. -/
def redraw : Run Unit := do
  Run.record (.fill screen .white)
  forPresent drawPresent (← get).players
  drawMonitors (← get).monitors 0
  giveNames (nameDrawn (← get))
  Run.record (.scale screen screen.size)
  giveNames [("scaled_screen", .thing "Surface" "<Surface(960x720)>" 3)]
  Run.record (.blit screen screen .origin)
  Run.record .update

/-- A round of the main loop. -/
def round (moment : Moment) : Run Unit := do
  modify fun w => { w with event := some moment.event }
  if moment.event.isKind Event.keyDown then
    Run.paint (Paint.print (← (← moment.event.key?).display?))
  if moment.event.isKind Event.windowClosed then modify fun w => { w with done := true }
  dispatchKeys moment.keys
  redraw

/-- The end of the program. -/
def finish (w : World) : World :=
  { w with
    log := w.log.push .ended
    calls := w.calls.push .quit
    done := true
    managed := {} }

end Stage

end BlockStage
