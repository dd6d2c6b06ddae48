import BlockStage.Expression.Basic
import BlockStage.Expression.FaultName
import BlockStage.Value.Format

/-!
# Values of expressions

Besides the values that blocks hand to each other there are bytes, complex numbers, tuples, records
whose names are not texts, ranges, functions and kinds.

What can change is kept apart, and a value only refers to it (`Expression/Store`). The functions here
are on values as they are at one moment.
-/

namespace BlockStage.Expression

/-- Which parts of the fields a view shows. -/
inductive View where
  | keys
  | values
  | items
  deriving DecidableEq, Repr

/-- A table from which a reference starts. -/
inductive Root where
  /-- What an expression has made, by number. -/
  | made (number : Nat)
  | attributes (sprite : Nat)
  /-- What a sprite has in common with its clones: a table of a kit. -/
  | kit (number : Nat) (table : String)
  | bindings (sprite : Nat)
  | kept (name : String)
  | names
  deriving DecidableEq, Repr

/-- A step of a reference. -/
inductive Key where
  | name (s : String)
  | position (n : Nat)
  deriving DecidableEq, Repr

/-- Where something is that can change. -/
structure Ref where
  root : Root
  path : List Key := []
  deriving DecidableEq, Repr

/-- What a reference stands for. -/
inductive Tag where
  | list
  | record
  | buffer
  /-- A walk that can be gone on with, of a kind with this name. -/
  | walk (kind : String)
  | function (name : String)
  | kind (name : String)
  | item (kind : String)
  deriving DecidableEq, Repr

def Tag.kindName : Tag → String
  | .list => "list"
  | .record => "dict"
  | .buffer => "bytearray"
  | .walk s | .item s => s
  | .function _ => "function"
  | .kind _ => "type"

/-- What an expression stands for. -/
inductive Datum where
  | one (v : Value)
  | complex (re im : Float)
  | bytes (codes : List Nat)
  /-- Bytes that can change, as they are at one moment. -/
  | buffer (codes : List Nat)
  | pane (codes : List Nat)
  | row (shape : Shape) (items : List Datum)
  | record (fields : List (Datum × Datum))
  /-- The integers from a first one on, up to a last one that is not included. -/
  | span (first last step : Int)
  | range (first last step : Datum)
  /-- A view of a record, as it is at one moment. -/
  | view (part : View) (fields : List (Datum × Datum))
  /-- A view of a record that can change. -/
  | viewOf (part : View) (of : Ref)
  /-- A kind of values or a function that is defined everywhere. -/
  | builtin (name : String)
  | method (owner : Datum) (name : String)
  | module (name : String)
  | ref (tag : Tag) (r : Ref)
  | generator (number : Nat)
  | sprite (number : Nat)
  /-- Anything else, with what it is, how it shows and which one it is. -/
  | thing (kind shown : String) (number : Nat)
  deriving Inhabited

namespace Datum

def null : Datum := .one .null

def bool (b : Bool) : Datum := .one (.bool b)

def int (n : Int) : Datum := .one (Value.int n)

def text (s : String) : Datum := .one (.text s)

def chars (cs : List Char) : Datum := .one (.text (String.ofList cs))

def list (items : List Datum) : Datum := .row .list items

def tuple (items : List Datum) : Datum := .row .tuple items

def float (x : Float) : Datum := .one (Value.float x)

def ellipsis : Datum := .one (.object "ellipsis" "Ellipsis" 0)

mutual

def ofValue : Value → Datum
  | .list items => .row .list (ofValues items)
  | .record fields => .record (ofFields fields)
  | .object "Sprite" _ i => .sprite i
  | .object "method" name i => .method (.sprite i) name
  | v => .one v

def ofValues : List Value → List Datum
  | [] => []
  | v :: rest => ofValue v :: ofValues rest

def ofFields : List (String × Value) → List (Datum × Datum)
  | [] => []
  | (k, v) :: rest => (.one (.text k), ofValue v) :: ofFields rest

end

/-! ## Kinds -/

/-- The names of kinds. -/
def kinds : List String := listed [
  "bool bytearray bytes classmethod complex dict float int list map memoryview object property range",
  "staticmethod str super tuple type zip"]

def programKinds : List String := ["Monitor", "Position", "Sprite", "ThreadManager"]

def shownKinds : List String := listed [
  "NoneType builtin_function_or_method dict_items dict_keys dict_values ellipsis function generator",
  "method module"]

def isKind (name : String) : Bool :=
  kinds.contains name || programKinds.contains name || shownKinds.contains name

/-- The kinds that a kind belongs to. -/
def lineage (name : String) : List String :=
  if name = "object" then ["object"]
  else if name = "bool" then ["bool", "int", "object"]
  else [name, "object"]

def kindOf : Value → String
  | .null => "NoneType"
  | .bool _ => "bool"
  | .num (.int _) => "int"
  | .num (.float _) => "float"
  | .text _ => "str"
  | .list _ => "list"
  | .record _ => "dict"
  | .place _ _ => "Position"
  | .object kind _ _ => kind
  | .shared | .absent => "dict"

def isUsage (name : String) : Bool := name.startsWith "__"

def writtenModules : List String := ["", "json", "os", "os.path", "random", "threading", "time"]

/-- `type(d).__name__` -/
def kind : Datum → String
  | .one v => kindOf v
  | .complex _ _ => "complex"
  | .bytes _ => "bytes"
  | .buffer _ => "bytearray"
  | .pane _ => "memoryview"
  | .row .list _ => "list"
  | .row .tuple _ => "tuple"
  | .record _ => "dict"
  | .span _ _ _ => "range"
  | .range _ _ _ => "slice"
  | .view .keys _ | .viewOf .keys _ => "dict_keys"
  | .view .values _ | .viewOf .values _ => "dict_values"
  | .view .items _ | .viewOf .items _ => "dict_items"
  | .builtin name => if isKind name then "type" else "builtin_function_or_method"
  | .method (.builtin kind) name =>
    if programKinds.contains kind && !isUsage name then "function"
    else if isUsage name then "wrapper_descriptor" else "method_descriptor"
  | .method (.sprite _) _ | .method (.ref (.item _) _) _ => "method"
  | .method (.module name) _ =>
    if writtenModules.contains name then "function" else "builtin_function_or_method"
  | .method _ name => if isUsage name then "method-wrapper" else "builtin_function_or_method"
  | .module _ => "module"
  | .ref tag _ => tag.kindName
  | .generator _ => "generator"
  | .sprite _ => "Sprite"
  | .thing kind _ _ => kind

def codes? : Datum → Option (List Nat)
  | .bytes codes | .buffer codes | .pane codes => some codes
  | _ => none

/-! ## Equality -/

def spanLength (first last step : Int) : Nat :=
  if 0 < step then ((last - first + step - 1) / step).toNat
  else if step < 0 then ((first - last - step - 1) / (-step)).toNat
  else 0

def bothNaN : Datum → Datum → Bool
  | .one a, .one b => a.bothNaN b
  | _, _ => false

mutual

/-- `a == b`. Rows are the same if they are of one shape. -/
def same : Datum → Datum → Bool
  | .one a, .one b => a.same b
  | .complex a b, .complex c d => a == c && b == d
  | .complex a b, .one (.num n) | .one (.num n), .complex a b => b == 0 && n.same (.float a)
  | .complex a b, .one (.bool c) | .one (.bool c), .complex a b =>
    b == 0 && a == (if c then 1 else 0)
  | .bytes a, .bytes b | .bytes a, .buffer b | .bytes a, .pane b => a == b
  | .buffer a, .bytes b | .buffer a, .buffer b | .buffer a, .pane b => a == b
  | .pane a, .bytes b | .pane a, .buffer b | .pane a, .pane b => a == b
  | .row .list a, .row .list b => sameItems a b
  | .row .tuple a, .row .tuple b => sameItems a b
  | .record a, .record b => a.length == b.length && sameFields a b
  | .span a b c, .span d e f =>
    let n := spanLength a b c
    n == spanLength d e f && (n == 0 || a == d && (n == 1 || c == f))
  | .builtin a, .builtin b => a == b
  | .method a s, .method b t => s == t && same a b
  | .module a, .module b => a == b
  | .ref _ a, .ref _ b => a == b
  | .viewOf p a, .viewOf q b => p == q && a == b
  | .generator a, .generator b | .sprite a, .sprite b => a == b
  | .thing a s m, .thing b t n => a == b && s == t && m == n
  | _, _ => false

def sameItems : List Datum → List Datum → Bool
  | [], [] => true
  | a :: as, b :: bs => (bothNaN a b || same a b) && sameItems as bs
  | _, _ => false

def sameFields : List (Datum × Datum) → List (Datum × Datum) → Bool
  | [], _ => true
  | (k, a) :: rest, other =>
    other.any (fun p => (bothNaN k p.1 || same k p.1) && (bothNaN a p.2 || same a p.2)) &&
      sameFields rest other

end

def alike (a b : Datum) : Bool := bothNaN a b || same a b

/-- `a is b`. Only what is one thing everywhere is identical to its like. -/
def identical : Datum → Datum → Bool
  | .one .null, .one .null => true
  | .one (.bool a), .one (.bool b) => a == b
  | .one (.num (.int a)), .one (.num (.int b)) => a == b
  | .one (.text a), .one (.text b) => a == b
  | .one (.object a s m), .one (.object b t n) => a == b && s == t && m == n
  | .row .tuple [], .row .tuple [] => true
  | .builtin a, .builtin b => a == b
  | .module a, .module b => a == b
  | .ref _ a, .ref _ b => a == b
  | .generator a, .generator b | .sprite a, .sprite b => a == b
  | .thing a s m, .thing b t n => a == b && s == t && m == n
  | _, _ => false

def holds : Datum → Bool
  | .one v => v.holds
  | .complex re im => re != 0 || im != 0
  | .bytes codes | .buffer codes | .pane codes => !codes.isEmpty
  | .row _ items => !items.isEmpty
  | .record fields | .view _ fields => !fields.isEmpty
  | .span first last step => spanLength first last step != 0
  | _ => true

/-! ## Records -/

def put (fields : List (Datum × Datum)) (key value : Datum) : List (Datum × Datum) :=
  if fields.any fun p => p.1.alike key then
    fields.map fun p => if p.1.alike key then (p.1, value) else p
  else fields ++ [(key, value)]

def lookup? (fields : List (Datum × Datum)) (key : Datum) : Option Datum :=
  (fields.find? fun p => p.1.alike key).map Prod.snd

/-! ## Showing -/

def quoteByte (quote : Char) (code : Nat) : List Char :=
  let c := Char.ofNat code
  if c = quote || c = '\\' then ['\\', c]
  else if c = '\t' then ['\\', 't']
  else if c = '\n' then ['\\', 'n']
  else if c = '\r' then ['\\', 'r']
  else if 32 ≤ code && code < 127 then [c]
  else ['\\', 'x'] ++ Text.hex 2 code

def quotedBytes (codes : List Nat) : String :=
  let quote := if codes.contains 39 && !codes.contains 34 then '"' else '\''
  String.ofList ('b' :: quote :: codes.flatMap (quoteByte quote) ++ [quote])

def builtinText (name : String) : String :=
  if name = "Position" then "<class 'position.Position'>"
  else if programKinds.contains name then "<class '__main__." ++ name ++ "'>"
  else if isKind name then "<class '" ++ name ++ "'>"
  else "<built-in function " ++ name ++ ">"

def partText (x : Float) : String :=
  let cs := (floatText x).toList
  String.ofList (if ['0', '.'].isPrefixOf cs.reverse then cs.take (cs.length - 2) else cs)

def complexText (re im : Float) : String :=
  let isZero := re == 0 && re.toBits == (0.0 : Float).toBits
  let part := partText im
  if isZero then part ++ "j"
  else
    let sign := if part.startsWith "-" then "" else "+"
    "(" ++ partText re ++ sign ++ part ++ "j)"

def enclosed (before after : String) (parts : List String) : String :=
  before ++ ", ".intercalate parts ++ after

def spanText? (first last step : Int) : Except Fault String := do
  let numbers := if step = 1 then [first, last] else [first, last, step]
  return enclosed "range(" ")" (← numbers.mapM intText?)

mutual

/-- `repr(d)` -/
def quoted? : Datum → Except Fault String
  | .one v => v.quoted?
  | .complex re im => .ok (complexText re im)
  | .bytes codes => .ok (quotedBytes codes)
  | .buffer codes => .ok ("bytearray(" ++ quotedBytes codes ++ ")")
  | .pane _ => .ok "<memory>"
  | .row .list items => (quotedItems? items).map (enclosed "[" "]")
  | .row .tuple [d] => do return "(" ++ (← quoted? d) ++ ",)"
  | .row .tuple items => (quotedItems? items).map (enclosed "(" ")")
  | .record fields => (quotedFields? fields).map (enclosed "\x7b" "\x7d")
  | .span first last step => spanText? first last step
  | .range _ _ _ => .ok "slice"
  | .view _ _ | .viewOf _ _ => .ok "<view>"
  | .builtin name => .ok (builtinText name)
  | .method (.module "") name => .ok ("<function " ++ name ++ ">")
  | .method (.builtin kind) name =>
    if name.startsWith "__" then .ok ("<slot wrapper '" ++ name ++ "' of '" ++ kind ++ "' objects>")
    else .ok ("<method '" ++ name ++ "' of '" ++ kind ++ "' objects>")
  | .method _ name => .ok ("<built-in method " ++ name ++ ">")
  | .module name => .ok ("<module '" ++ name ++ "' (built-in)>")
  | .ref (.function name) _ => .ok ("<function " ++ name ++ ">")
  | .ref (.kind name) _ => .ok ("<class '__main__." ++ name ++ "'>")
  | .ref (.item kind) _ => .ok ("<__main__." ++ kind ++ " object>")
  | .ref tag _ => .ok ("<" ++ tag.kindName ++ " object>")
  | .generator _ => .ok "<generator object>"
  | .sprite _ => .ok "<Sprite>"
  | .thing _ shown _ => .ok shown

def quotedItems? : List Datum → Except Fault (List String)
  | [] => .ok []
  | d :: rest => do
    return (← quoted? d) :: (← quotedItems? rest)

def quotedFields? : List (Datum × Datum) → Except Fault (List String)
  | [] => .ok []
  | (k, d) :: rest => do
    return ((← quoted? k) ++ ": " ++ (← quoted? d)) :: (← quotedFields? rest)

end

/-- `str(d)` -/
def display? : Datum → Except Fault String
  | .one v => v.display?
  | d => d.quoted?

/-! ## Names -/

mutual

/-- A value of blocks. -/
def toValue : Datum → Value
  | .one v => v
  | .row .list items | .row .tuple items => .list (toValues items)
  | .record fields => .record (toFields fields)
  | .sprite i => .object "Sprite" "" i
  | d => .object d.kind ((d.quoted?).toOption.getD "") 0

def toValues : List Datum → List Value
  | [] => []
  | d :: rest => toValue d :: toValues rest

def toFields : List (Datum × Datum) → List (String × Value)
  | [] => []
  | (k, d) :: rest => ((k.display?).toOption.getD "", toValue d) :: toFields rest

end

mutual

/-- Whether a value can be a key. What can change cannot, nor a tuple that holds it. -/
def canName : Datum → Bool
  | .one v => v.canName
  | .row .tuple items => canNameAll items
  | .row _ _ | .record _ | .range _ _ _ | .buffer _ => false
  | .view .values _ | .viewOf .values _ => true
  | .view _ _ | .viewOf _ _ => false
  | .ref .list _ | .ref .record _ | .ref .buffer _ => false
  | _ => true

def canNameAll : List Datum → Bool
  | [] => true
  | d :: rest => canName d && canNameAll rest

end

def needName (d : Datum) : Except Fault Unit :=
  if d.canName then .ok () else .error .wrongKind

/-! ## Going through -/

def walkLimit : Nat := 10000000

def spanItems (first step : Int) (count : Nat) : List Datum :=
  (List.range count).map fun (i : Nat) => int (first + i * step)

/-- All elements. -/
def elements? : Datum → Except Fault (List Datum)
  | .one (.text s) => .ok (s.toList.map fun c => text (String.singleton c))
  | .bytes codes | .buffer codes | .pane codes => .ok (codes.map fun (n : Nat) => int n)
  | .row _ items => .ok items
  | .record fields | .view .keys fields => .ok (fields.map Prod.fst)
  | .view .values fields => .ok (fields.map Prod.snd)
  | .view .items fields => .ok (fields.map fun p => tuple [p.1, p.2])
  | .span first last step =>
    let count := spanLength first last step
    if walkLimit < count then .error .outOfMemory else .ok (spanItems first step count)
  | _ => .error .wrongKind

def length? : Datum → Except Fault Nat
  | .one (.text s) => .ok s.length
  | .bytes codes | .buffer codes | .pane codes => .ok codes.length
  | .row _ items => .ok items.length
  | .record fields | .view _ fields => .ok fields.length
  | .span first last step => .ok (spanLength first last step)
  | _ => .error .wrongKind

def whole? : Datum → Option Int
  | .one v => v.whole?
  | _ => none

def needWhole (d : Datum) : Except Fault Int :=
  d.whole?.elim (.error .wrongKind) .ok

def needText : Datum → Except Fault String
  | .one (.text s) => .ok s
  | _ => .error .wrongKind

def number? : Datum → Except Fault Number
  | .one v => v.number?
  | _ => .error .wrongKind

end Datum

end BlockStage.Expression
