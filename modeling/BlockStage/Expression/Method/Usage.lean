import BlockStage.Expression.Method.Number
import BlockStage.Expression.Method.Row

/-!
# Names of functions of values

Methods are asked by name, or say how an operator or another use works, with underscores around them.
-/

namespace BlockStage.Expression.Method

/-- The special methods of a kind. -/
def usage : String → List String
  | "int" | "bool" => ["__index__"]
  | "str" | "bytes" | "tuple" | "range" => sequenceUsage
  | "list" | "dict" => "__delitem__" :: "__setitem__" :: sequenceUsage
  | "function" | "builtin_function_or_method" | "method" => ["__call__"]
  | _ => []
where
  sequenceUsage := ["__contains__", "__getitem__", "__len__"]

/-- The methods of a kind. -/
def names : String → List String
  | "str" => Text.names
  | "list" => Row.listNames
  | "dict" => Record.names
  | "bytes" | "bytearray" => Bytes.names
  | "int" | "bool" => Number.intNames
  | _ => []

def isOfKind (kind name : String) : Bool :=
  [("int", "from_bytes"), ("bool", "from_bytes")].contains (kind, name)

def has (kind name : String) : Bool :=
  (names kind).contains name || (usage kind).contains name

end BlockStage.Expression.Method
