import BlockStage.Expression.Module.Names
import BlockStage.Expression.Part

/-!
# Names

The names of an expression are not seen within the functions and the walks that are written in it:
these have frames of their own, and see the frames that they stand in. Then come the names of the
program, and names that are defined everywhere are found last.
-/

namespace BlockStage.Expression

namespace Eval

/-! ## Frames -/

/-- What a frame holds. -/
def frame (n : Nat) : Eval Frame := do
  let .frame f ← fetch ⟨.made n, []⟩ | throw .undefinedName
  return f

def newFrame (f : Frame) : Eval Nat := ask (.make (.frame f))

/-- Gives names in a frame values. -/
def setInFrame (n : Nat) (bindings : List (String × Option Datum)) : Eval Unit := do
  let f ← frame n
  let names := bindings.foldl (fun names (s, d) =>
    if (names.lookup s).isSome then names.map fun p => if p.1 == s then (s, d) else p
    else names ++ [(s, d)]) f.names
  ask (.store n (.frame { f with names := names }))

/-! ## Finding -/

def inRecord? (r : Ref) (name : String) : Eval (Option Datum) := do
  if r matches ⟨.names, []⟩ then return ← ask (.name name)
  let .record fields ← fetch r | return none
  return Datum.lookup? fields (.text name)

def sharedName (s : Scope) (name : String) : Eval Datum := do
  if let some d ← inRecord? (s.shared.getD ⟨.names, []⟩) name then return d
  (Module.everywhere? name).elim (throw .undefinedName) pure

/-- A name in the frames around. -/
def inFrames? (name : String) : Bool → List Nat → Eval (Option Datum)
  | _, [] => return none
  | first, n :: rest => do
    let f ← frame n
    match f.names.lookup name with
    | some (some d) => return some d
    | some none => throw (if first then .unsetLocal else .undefinedName)
    | none => inFrames? name false rest

/-- What a name means. -/
def lookup (name : String) : Eval Datum := do
  let s ← scope
  if let some r := s.own then
    if let some d ← inRecord? r name then return d
  if let some d ← inFrames? name true s.frames then return d
  sharedName s name

/-! ## Binding -/

/-- The frame of the innermost call. -/
def callFrame? : List Nat → Eval (Option Nat)
  | [] => return none
  | n :: rest => do if (← frame n).isCall then return some n else callFrame? rest

/-- Gives a name to a value: in the record of names in front, in the frame of the call, or else everywhere. -/
def bind (name : String) (d : Datum) : Eval Unit := do
  let s ← scope
  if let some r := s.own then
    let .record fields ← fetch r | throw .wrongKind
    return ← putField r fields (.text name) d
  match ← callFrame? s.frames, s.shared with
  | some n, _ => setInFrame n [(name, some d)]
  | none, none => giveName name d
  | none, some r =>
    let .record fields ← fetch r | throw .wrongKind
    putField r fields (.text name) d

/-- `globals()` -/
def sharedNames : Eval Datum := do return .ref .record ((← scope).shared.getD ⟨.names, []⟩)

/-- `locals()` -/
def localNames : Eval Datum := do
  let s ← scope
  match s.own, s.frames with
  | some r, _ => return .ref .record r
  | none, n :: _ =>
    namedRecord ((← frame n).names.filterMap fun (s, d) => d.map fun d => (s, d))
  | none, [] => sharedNames

end Eval

end BlockStage.Expression
