import BlockStage.Expression.Method.Text

/-!
# Functions of bytes

The text that bytes stand for, their digits, and the bytes without some of them.
-/

namespace BlockStage.Expression.Method.Bytes

def names : List String := ["decode", "hex", "translate"]

def need? (d : Datum) : Except Fault (List Nat) := d.codes?.elim (.error .wrongKind) .ok

/-- `bytes.decode` -/
def decoded? (codes : List Nat) (a : Args) : Except Fault Datum := do
  let (coding, mending) ← Text.coding? a
  return .text (← coding.decode? mending codes)

/-- The bytes without some of them. -/
def translated? (codes : List Nat) (a : Args) : Except Fault (List Nat) := do
  let [some (.one .null), gone] ← a.bind? 1 1 ["table", "delete"] | throw .wrongKind
  let gone ← need? (gone.getD (.bytes []))
  return codes.filter fun c => !gone.contains c

/-- Calls a method of bytes. -/
def call? (codes : List Nat) (name : String) (a : Args) : Except Fault Datum := do
  match name with
  | "decode" => decoded? codes a
  | "hex" =>
    a.none?
    return .chars (codes.flatMap (BlockStage.Text.hex 2))
  | "translate" => return .bytes (← translated? codes a)
  | _ => throw .missingMember

end BlockStage.Expression.Method.Bytes
