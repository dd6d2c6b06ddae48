import BlockStage.Script.Arguments

/-!
# Looks blocks

The backdrops are the costumes of the stage.
-/

namespace BlockStage

/-- The `looks_` methods. -/
inductive Looks where
  | say
  | sayForSecs
  | switchCostume
  | costumeMenu
  | «show»
  | hide
  | nextCostume
  | changeSize
  | setSize
  | switchBackdrop
  | nextBackdrop
  | costumeNumberName
  | size
  | backdropNumberName
  deriving DecidableEq, Repr

namespace Looks

/-- The block of an opcode. -/
def ofName? : String → Option Looks
  | "looks_say" | "looks_think" => some say
  | "looks_sayforsecs" | "looks_thinkforsecs" => some sayForSecs
  | "looks_switchcostumeto" => some switchCostume
  | "looks_costume" | "looks_backdrops" => some costumeMenu
  | "looks_show" => some «show»
  | "looks_hide" => some hide
  | "looks_nextcostume" => some nextCostume
  | "looks_changesizeby" => some changeSize
  | "looks_setsizeto" => some setSize
  | "looks_switchbackdropto" => some switchBackdrop
  | "looks_nextbackdrop" => some nextBackdrop
  | "looks_costumenumbername" => some costumeNumberName
  | "looks_size" => some size
  | "looks_backdropnumbername" => some backdropNumberName
  | _ => none

/-- The number of the first costume with a name, counted from `n`. Nothing is looked at before it is needed. -/
def costumeNamed (name : Except Fault Value) : List Value → Nat → Except Fault (Option Nat)
  | [], _ => .ok none
  | costume :: rest, n => do
    let found ← costume.field? "name"
    if found.same (← name) then return some n else costumeNamed name rest (n + 1)

/-- Switches to the costume of a name (`looks_switchcostumeto`). -/
def switchTo (who : Nat) (name : Except Fault Value) : Act Unit := do
  let costumes ← ((← Act.look).sprite who).get? "costumes"
  match ← costumeNamed name (← costumes.elements?) 0 with
  | some n => Act.set who .costume (Value.int n)
  | none => return ()

/-- Switches to the next costume (`looks_nextcostume`). -/
def advance (who : Nat) : Act Unit := do
  let costumes ← ((← Act.look).sprite who).get? "costumes"
  let count ← costumes.length?
  Act.change who .costume (.ok (Value.int 1))
  if (← Act.attr who .costume).same (Value.int count) then Act.set who .costume (Value.int 0)

/-- The number or the name of the costume (`looks_costumenumbername`). -/
def numberOrName (who : Nat) (kind : Value) : Act Value := do
  if kind.isText "number" then
    let n ← Value.add? (← Act.attr who .costume) (Value.int 1)
    return .text n.asText
  else if kind.isText "name" then
    let costumes ← ((← Act.look).sprite who).get? "costumes"
    let costume ← costumes.index? (← Act.attr who .costume)
    return .text (← costume.field? "name").asText
  else return .null

/-- What a looks block does. -/
def act (me : Nat) (flag : Value) : Looks → Act Value
  | say => do
    let args ← Arguments.eval me flag
    Act.say me (← args.need "MESSAGE").asText
    return .null
  | sayForSecs => do
    let args ← Arguments.eval me flag
    let secs ← (← args.need "SECS").asFloat?
    Act.say me (← args.need "MESSAGE").asText
    Act.sleep secs
    Act.say me ""
    return .null
  | switchCostume => do
    let args ← Arguments.eval me flag
    switchTo me (args.need "COSTUME")
    return .null
  | costumeMenu => do
    let args ← Arguments.eval me flag
    args.need "COSTUME"
  | «show» => do
    Act.set me .visible (.bool true)
    return .null
  | hide => do
    Act.set me .visible (.bool false)
    return .null
  | nextCostume => do
    advance me
    return .null
  | changeSize => do
    let args ← Arguments.eval me flag
    Act.change me .size ((args.need "CHANGE").bind fun v => v.toFloat?.map Value.float)
    return .null
  | setSize => do
    let args ← Arguments.eval me flag
    Act.set me .size (Value.float (← (← args.need "SIZE").toFloat?))
    return .null
  | switchBackdrop => do
    let args ← Arguments.eval me flag
    switchTo (← (← Act.look).stage?) (args.need "BACKDROP")
    return .null
  | nextBackdrop => do
    advance (← (← Act.look).stage?)
    return .null
  | costumeNumberName => do
    let args ← Arguments.eval me flag
    numberOrName me (← args.need "TYPE")
  | size => do
    return .text (← Act.attr me .size).asText
  | backdropNumberName => do
    let args ← Arguments.eval me flag
    let kind ← args.need "TYPE"
    if kind.isText "number" || kind.isText "name" then
      numberOrName (← (← Act.look).stage?) kind
    else return .null

end Looks

end BlockStage
