import BlockStage.Expression.Call
import BlockStage.Text.Coding

/-!
# Functions of numbers

The bytes of an integer.
-/

namespace BlockStage.Expression.Method.Number

def intNames : List String := ["from_bytes", "to_bytes"]

def bytesOf : Nat → Nat → List Nat → List Nat
  | 0, _, done => done
  | k + 1, n, done => bytesOf k (n / 256) (n % 256 :: done)

def isLittle? (d : Datum) : Except Fault Bool := do
  match ← d.needText with
  | "little" => return true
  | "big" => return false
  | _ => throw .badValue

/-- The arguments for the bytes of an integer: a first one, and the order. -/
def byteArgs? (first : String) (needed : Nat) (a : Args) : Except Fault (Option Datum × Bool) := do
  let [d, order] ← a.bind? 0 needed [first, "byteorder"] | throw .wrongKind
  return (d, ← isLittle? (order.getD (.text "big")))

/-- `int.to_bytes` -/
def toBytes? (n : Int) (a : Args) : Except Fault Datum := do
  let (length, little) ← byteArgs? "length" 0 a
  let length := length.getD (.int 1)
  if (← length.count?) < 0 then throw .badValue
  let width ← length.width?
  if n < 0 || Binary.twoTo (8 * width) ≤ n then throw .overflow
  let codes := bytesOf width n.toNat []
  return .bytes (if little then codes.reverse else codes)

/-- `int.from_bytes` -/
def ofBytes? (a : Args) : Except Fault Datum := do
  let (d, little) ← byteArgs? "bytes" 1 a
  let codes ← match d.getD .null with
    | .bytes codes => pure codes
    | d => do (← d.elements?).mapM Datum.byte?
  let codes := if little then codes.reverse else codes
  return .int (codes.foldl (fun n c => 256 * n + c) 0 : Nat)

def int? (n : Int) (name : String) (a : Args) : Except Fault Datum := do
  if name == "to_bytes" then toBytes? n a else ofBytes? a

end BlockStage.Expression.Method.Number
