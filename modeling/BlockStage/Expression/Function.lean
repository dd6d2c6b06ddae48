import BlockStage.Expression.Module.Call
import BlockStage.Expression.Program
import BlockStage.Expression.Scope

/-!
# Functions that are defined everywhere

The functions that an expression can call without defining them.
-/

namespace BlockStage.Expression.Function

open Eval

/-! ## Arithmetic -/

def powMod (m : Nat) (x : Int) (y : Nat) : Int :=
  go (y.log2 + 1) (Int.emod x m) y 1
where
  go : Nat → Int → Nat → Int → Int
    | 0, _, _, done => done
    | k + 1, x, y, done =>
      go k (Int.emod (x * x) m) (y / 2) (if y % 2 = 1 then Int.emod (done * x) m else done)

def bezout : Nat → Int → Int → Int → Int → Int × Int
  | 0, r, _, s, _ => (r, s)
  | n + 1, r, r', s, s' =>
    if r' = 0 then (r, s) else bezout n r' (r - r / r' * r') s' (s - r / r' * s')

def inverse? (x : Int) (m : Nat) : Option Int :=
  let (g, s) := bezout (2 * (x.natAbs.log2 + m.log2) + 4) (Int.emod x m) m 1 0
  if g.natAbs = 1 then some (Int.emod (s * g) m) else none

/-- `pow` with a modulus. -/
def power (a : Args) : Eval Datum := do
  match ← a.bind? 0 2 ["base", "exp", "mod"] with
  | [some x, some y, some z] =>
    let x ← x.needWhole
    let y ← y.needWhole
    let z ← z.needWhole
    if z = 0 then throw .badValue
    if y < 0 then
      let some x := inverse? x z.natAbs | throw .badValue
      return .int (Int.fmod (powMod z.natAbs x y.natAbs) z)
    return .int (Int.fmod (powMod z.natAbs x y.toNat) z)
  | _ => throw .wrongKind

/-! ## Walks -/

def zipped (a : Args) : Eval Datum := do
  walk "zip" (.zipped (← (← a.plain?).mapM iter))

/-- `map` -/
def mapped (a : Args) : Eval Datum := do
  let f :: d :: more ← a.plain? | throw .wrongKind
  walk "map" (.mapped f (← (d :: more).mapM iter))

def isCallable (d : Datum) : Bool :=
  d matches .builtin _ | .method _ _ | .ref (.function _) _ | .ref (.kind _) _

def walked (a : Args) : Eval Datum := do
  let (d, some last) ← a.oneAnd? | iter (← a.one?)
  if !isCallable d then throw .wrongKind
  walk "callable_iterator" (.called d last)

/-- `next` -/
def nextOf (a : Args) : Eval Datum := do
  let (d, default) ← a.oneAnd?
  if !canStep d then throw .wrongKind
  let some x := (← next d) <|> default | throw .exhausted
  return x

/-- `any` and `all` -/
def decided (wanted : Bool) (a : Args) : Eval Datum := do
  let found ← each (← a.one?) false fun _ d => do
    let found := (← holds d) == wanted
    return (found, !found)
  return .bool (found == wanted)

/-! ## Kinds and members -/

def isKindDatum : Datum → Bool
  | .ref (.kind _) _ => true
  | .builtin name => Datum.isKind name
  | _ => false

/-- Whether a value with these kinds is of another kind, or of one of several. -/
def isOfKind (kinds : List Datum) : Nat → Datum → Eval Bool
  | 0, _ => throw .wrongKind
  | n + 1, k => do
    if let .row .tuple items := k then return ← items.anyM (isOfKind kinds n)
    if !isKindDatum k then throw .wrongKind
    return kinds.any (Datum.identical k)

/-- `isinstance` -/
def isInstance (a : Args) : Eval Datum := do
  let (d, k) ← a.two?
  return .bool (← isOfKind (← kindsOf kindDepth d.kindDatum) kindDepth k)

/-- `getattr` -/
def attributeOf (a : Args) : Eval Datum := do
  match ← a.plain? with
  | [d, name] => member d (← name.needText)
  | [d, name, default] => return (← member? d (← name.needText)).getD default
  | _ => throw .wrongKind

/-- `vars` -/
def attributes (a : Args) : Eval Datum := do
  let some d ← a.optional? | localNames
  match d with
  | .sprite i => return .ref .record ⟨.attributes i, []⟩
  | .ref (.item _) _ => member d "__dict__"
  | _ => throw .wrongKind

/-- `type(name, bases, fields)` -/
def newKind (name : String) (bases : List Datum) (fields : List (String × Datum)) : Eval Datum := do
  let bases := if bases.isEmpty then [.builtin "object"] else bases
  let final := ["bool", "range", "memoryview", "NoneType"]
  if !(bases.all fun k => isKindDatum k && !(final.any fun s => k.identical (.builtin s))) then
    throw .wrongKind
  make (.kind name) (.kind name bases fields)

def textFields (fields : List (Datum × Datum)) : Eval (List (String × Datum)) :=
  fields.mapM fun (k, d) => do return (← Eval.ofExcept k.needText, d)

def kindFunction (a : Args) : Eval Datum := do
  match ← a.plain? with
  | [d] => return d.kindDatum
  | [name, bases, fields] =>
    let name ← name.needText
    let .row .tuple bases := bases | throw .wrongKind
    let .record fields ← open? fields | throw .wrongKind
    newKind name bases (← textFields fields)
  | _ => throw .wrongKind

/-! ## Texts that are evaluated -/

def sourceText (d : Datum) : Eval String := do
  let d ← open? d
  let some codes := d.codes? | d.needText
  Eval.ofExcept (Text.Coding.utf8.decode? "strict" codes)

/-- The scope of given names. -/
def scopeOf (shared own : Option Datum) : Eval Scope := do
  let s ← Eval.scope
  let given (d : Option Datum) := d.filter (!·.identical .null)
  match given shared, given own with
  | none, none => return s
  | some (.ref .record g), none => return { own := some g, shared := some g }
  | some (.ref .record g), some (.ref .record r) => return { own := some r, shared := some g }
  | none, some (.ref .record r) => return { s with own := some r, frames := [] }
  | _, _ => throw .wrongKind

/-- The text that is to be evaluated or run, and its scope. -/
def sourceOf (a : Args) : Eval (String × Scope) := do
  let [some source, shared, own] ← a.bind? 3 1 ["source", "globals", "locals"] | throw .wrongKind
  let s ← scopeOf shared own
  return (← sourceText source, s)

/-- `eval` -/
def evaluate (a : Args) : Eval Datum := do
  let (source, s) ← sourceOf a
  value s (← parse? source)

/-- `exec` -/
def execute (a : Args) : Eval Datum := do
  let (source, s) ← sourceOf a
  run s (← program? source)
  return .null

def imported (name : String) : Eval Datum := do
  if Module.all.contains name then return .module name
  else raise "ModuleNotFoundError" ("No module named '" ++ name ++ "'")

/-- `__import__` -/
def importFunction (a : Args) : Eval Datum := do
  let name :: rest := a.placed | throw .wrongKind
  let name ← name.needText
  let _ ← imported name
  let chosen := rest[2]? <|> a.named.lookup "fromlist"
  let whole ← holds (chosen.getD .null)
  return .module (if whole then name else String.ofList (name.toList.takeWhile (· != '.')))

/-! ## Printing -/

/-- `print` -/
def printed (a : Args) : Eval Datum := do
  a.onlyNamed ["sep", "end", "file", "flush"]
  let word (name default : String) : Except Fault String :=
    match a.named.lookup name with
    | none | some (.one .null) => .ok default
    | some d => d.needText
  let sep ← word "sep" " "
  let ending ← word "end" "\n"
  let parts ← a.placed.mapM display
  let text := sep.intercalate parts ++ ending
  match a.named.lookup "file" with
  | none | some (.one .null) => ask (.print text)
  | some d => let _ ← callWith (← member d "write") [.text text]
  return .null

/-! ## All of them -/

/-- Calls a function that is defined everywhere. -/
def builtin (name : String) (a : Args) : Eval Datum := do
  match name with
  | "__import__" => importFunction a
  | "abs" => magnitude (← a.one?)
  | "all" => decided false a
  | "any" => decided true a
  | "ascii" => return .chars (Template.asciiOnly (← quoted (← a.one?)).toList)
  | "bool" => return .bool (← holds ((← a.optional?).getD .null))
  | "bytearray" => make .buffer (.buffer (← Conversion.toCodes a))
  | "bytes" => return .bytes (← Conversion.toCodes a)
  | "callable" => return .bool (isCallable (← a.one?))
  | "complex" => Conversion.toComplex a
  | "dict" => record (← Method.Record.extended [] a)
  | "eval" => evaluate a
  | "exec" => execute a
  | "exit" | "quit" => throw .exit
  | "float" => Conversion.toFloat a
  | "format" =>
    let (d, spec) ← a.oneAnd?
    return .text (← format d (← (spec.getD (.text "")).needText))
  | "getattr" => attributeOf a
  | "globals" =>
    a.none?
    sharedNames
  | "hasattr" =>
    let (d, name) ← a.two?
    return .bool (← member? d (← name.needText)).isSome
  | "hash" => return .int (← hashOf (← a.one?))
  | "id" =>
    let n := if let .ref _ ⟨.made n, _⟩ := ← a.one? then n else 0
    return .int (140000000000000 + 16 * n)
  | "input" =>
    if let some d ← a.optional? then ask (.print (← display d))
    raise "EOFError" "EOF when reading a line"
  | "int" => Conversion.toInt a
  | "isinstance" => isInstance a
  | "iter" => walked a
  | "len" => return .int (← length (← a.one?))
  | "list" => list (← Conversion.gathered a)
  | "locals" =>
    a.none?
    localNames
  | "map" => mapped a
  | "memoryview" => return .pane (← Method.Bytes.need? (← open? (← a.one?)))
  | "next" => nextOf a
  | "object" =>
    a.none?
    Conversion.itemOf name []
  | "open" => throw .fileNotFound
  | "pow" => power a
  | "print" => printed a
  | "range" => Conversion.toSpan a
  | "repr" => return .text (← quoted (← a.one?))
  | "round" => return .int (← (← (← a.one?).number?).round?)
  | "setattr" =>
    let [d, name, v] ← a.plain? | throw .wrongKind
    setMember d (← name.needText) v
    return .null
  | "sorted" =>
    let [d] := a.placed | throw .wrongKind
    list (← Method.sorted (← elements d) a.named)
  | "str" => Conversion.toText a
  | "tuple" => return .tuple (← Conversion.gathered a)
  | "type" => kindFunction a
  | "vars" => attributes a
  | "zip" => zipped a
  | "Position" => Conversion.itemOf name (← Conversion.toPlace a)
  | _ => throw .wrongKind

end BlockStage.Expression.Function
