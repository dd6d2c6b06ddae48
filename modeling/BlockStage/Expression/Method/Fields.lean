import BlockStage.Expression.Use

/-!
# Fields in texts

A text with fields in braces is filled in with arguments. A field can name members and parts of its
argument, and say how the value is converted and laid out.
-/

namespace BlockStage.Expression.Method.Fields

open Eval

/-- How the fields without a name are counted. -/
inductive Numbering where
  | fresh
  | counted (next : Nat)
  | stated

/-- The characters up to the next field, and the rest. Doubled braces stand for one. -/
def literal? : Nat → List Char → Except Fault (List Char × List Char)
  | _, [] => .ok ([], [])
  | 0, _ => .error .badValue
  | n + 1, c :: rest =>
    let isBrace := c = '\x7b' || c = '\x7d'
    if isBrace && rest.head? ≠ some c then
      if c = '\x7d' || rest.isEmpty then .error .badValue else .ok ([], c :: rest)
    else do
      let (cs, after) ← literal? n (if isBrace then rest.tail else rest)
      return (c :: cs, after)

/-- The characters of a field, and the rest; with the number of open braces. -/
def body? : Nat → List Char → Except Fault (List Char × List Char)
  | _, [] => .error .badValue
  | depth, c :: rest =>
    if c = '\x7d' && depth = 0 then .ok ([], rest)
    else do
      let depth := if c = '\x7b' then depth + 1 else if c = '\x7d' then depth - 1 else depth
      let (cs, after) ← body? depth rest
      return (c :: cs, after)

/-- The name of a field, and the rest. Square brackets hide what stands in them. -/
def name? : Bool → List Char → Except Fault (List Char × List Char)
  | _, [] => .ok ([], [])
  | hidden, c :: rest =>
    if !hidden && (c = '!' || c = ':') then .ok ([], c :: rest)
    else if !hidden && c = '\x7b' then .error .badValue
    else do
      let (cs, after) ← name? (c = '[' || hidden && c ≠ ']') rest
      return (c :: cs, after)

def tail? (cs : List Char) : Except Fault (Option Char × List Char) :=
  match cs with
  | [] => .ok (none, [])
  | ':' :: spec => .ok (none, spec)
  | '!' :: c :: [] => .ok (some c, [])
  | '!' :: c :: ':' :: spec => .ok (some c, spec)
  | _ => .error .badValue

def isNumber (cs : List Char) : Bool := !cs.isEmpty && cs.all Reading.isAsciiDigit

def isStop (c : Char) : Bool := c == '.' || c == '['

/-- The member or part that a field names. -/
def follow : Nat → Datum → List Char → Eval Datum
  | _, d, [] => return d
  | 0, _, _ => throw .badValue
  | n + 1, d, '.' :: rest => do
    let (name, rest) := rest.span (!isStop ·)
    if name.isEmpty then throw .badValue
    follow n (← member d (String.ofList name)) rest
  | n + 1, d, '[' :: rest => do
    let index := rest.takeWhile (· != ']')
    if index.isEmpty || index.length = rest.length then throw .badValue
    let i : Datum := if isNumber index then .int (Reading.digitsValue index) else .chars index
    follow n (← part d i) (rest.drop (index.length + 1))
  | _, _, _ => throw .badValue

/-- The values for the fields: by number, and by a name. -/
structure Source where
  placed : List Datum
  named : String → Eval Datum

/-- The value of a field. -/
def value (source : Source) (numbering : Numbering) (cs : List Char) :
    Eval (Datum × Numbering) := do
  let (first, rest) := cs.span (!isStop ·)
  let (index, numbering) ← match first.isEmpty, isNumber first, numbering with
    | true, _, .fresh => pure (some 0, .counted 1)
    | true, _, .counted next => pure (some next, .counted (next + 1))
    | true, _, .stated | _, true, .counted _ => throw .badValue
    | _, true, _ => pure (some (Reading.digitsValue first), .stated)
    | _, _, numbering => pure (none, numbering)
  let d ← match index with
    | some i => (source.placed[i]?).elim (throw .outOfRange) pure
    | none => source.named (String.ofList first)
  return (← follow (rest.length + 1) d rest, numbering)

def converted (d : Datum) : Option Char → Eval Datum
  | none => return d
  | some 's' => do return .text (← display d)
  | some 'r' => do return .text (← quoted d)
  | some 'a' => do return .chars (Template.asciiOnly (← quoted d).toList)
  | some _ => throw .badValue

/-- Fills in the fields of a text; `depth` says how deep layouts may hold fields, and `n` bounds the steps. -/
def fill (source : Source) : Nat → Nat → Numbering → List Char → Eval (List Char × Numbering)
  | _, 0, _, _ | 0, _, _, _ => throw .badValue
  | depth + 1, n + 1, numbering, cs => do
    let (literal, rest) ← literal? cs.length cs
    let _ :: rest := rest | return (literal, numbering)
    let (body, rest) ← body? 0 rest
    let (name, ending) ← name? false body
    let (conversion, spec) ← tail? ending
    let (d, numbering) ← value source numbering name
    let d ← converted d conversion
    let (spec, numbering) ←
      if spec.contains '\x7b' then fill source depth n numbering spec else pure (spec, numbering)
    let written ← format d (String.ofList spec)
    let (more, numbering) ← fill source (depth + 1) n numbering rest
    return (literal ++ written.toList ++ more, numbering)

def fillWith (s : String) (source : Source) : Eval Datum := do
  return .chars (← fill source 2 (2 * s.length + 2) .fresh s.toList).1

/-- `str.format` -/
def filled (s : String) (a : Args) : Eval Datum :=
  fillWith s {
    placed := a.placed
    named := fun name => (a.named.lookup name).elim (throw .missingKey) pure }

end BlockStage.Expression.Method.Fields
