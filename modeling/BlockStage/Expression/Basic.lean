import BlockStage.Expression.Token

/-!
# Expressions

The lists of names that a project stores as texts are written as expressions: most often a list of
quoted texts, but any expression is understood. An expression can run a text of statements in turn.
-/

namespace BlockStage.Expression

/-- A `list` or a `tuple`. -/
inductive Shape where
  | list
  /-- A row that cannot change, so that it can be a name. -/
  | tuple
  deriving DecidableEq, Repr

/-- A comparison. -/
inductive Relation where
  | eq
  | ne
  | lt
  | le
  | gt
  | ge
  | within
  | notWithin
  | identical
  | notIdentical
  deriving DecidableEq, Repr

/-- How a parameter gets its argument. -/
inductive ParameterKind where
  /-- By its place or its name. -/
  | plain
  /-- By its name only. -/
  | named
  /-- All arguments that are left by place. -/
  | rest
  /-- All arguments that are left by name. -/
  | namedRest
  deriving DecidableEq, Repr

mutual

/-- What a value is assigned to. -/
inductive Target where
  | name (s : String)
  /-- Several targets, which take the elements of the value. -/
  | several (targets : List Target)
  | part (e index : Expr)
  | member (e : Expr) (name : String)

/-- An expression. -/
inductive Expr where
  | datum (v : Value)
  /-- A multiple of the root of minus one. -/
  | imaginary (x : Float)
  | bytes (codes : List Nat)
  | template (parts : List Part)
  | name (s : String)
  | bound (name : String) (e : Expr)
  | row (shape : Shape) (items : List Expr)
  | record (fields : List Field)
  /-- A row of what an expression gives for the items of walks, or these one after another if no shape
  is said. -/
  | gathered (shape : Option Shape) (e : Expr) (clauses : List Clause)
  | gatheredRecord (key value : Expr) (clauses : List Clause)
  | spread (e : Expr)
  | negation (e : Expr)
  | signed (op : String) (e : Expr)
  | binary (op : String) (a b : Expr)
  | conjunction (a b : Expr)
  | disjunction (a b : Expr)
  /-- A comparison, or several in a row that all have to hold. -/
  | comparison (a : Expr) (rest : List (Relation × Expr))
  | choice (condition a b : Expr)
  | part (e index : Expr)
  | range (first last step : Expr)
  | member (e : Expr) (name : String)
  | call (f : Expr) (args : List Argument)
  /-- A function; if it `gives`, it is a walk over what it hands out. -/
  | function (parameters : List Parameter) (gives : Bool) (body : Expr)
  | given (e : Option Expr)

/-- A part of a template. -/
inductive Part where
  | literal (s : String)
  /-- The value of an expression, with the text before it, converted and laid out. -/
  | field (e : Expr) (echo : String) (conversion : Option Char) (spec : Option (List Part))

/-- A field of a record. -/
inductive Field where
  | pair (key value : Expr)
  | spread (e : Expr)

/-- A clause of a comprehension. -/
inductive Clause where
  | each (target : Target) (source : Expr)
  | only (condition : Expr)

/-- An argument of a call. -/
inductive Argument where
  | placed (e : Expr)
  | named (name : String) (e : Expr)
  | spread (e : Expr)
  | spreadNamed (e : Expr)

/-- A parameter of a function. -/
inductive Parameter where
  | mk (name : String) (kind : ParameterKind) (default : Option Expr)

end

instance : Inhabited Expr := ⟨.datum .null⟩

namespace Parameter

def name : Parameter → String
  | .mk name _ _ => name

def kind : Parameter → ParameterKind
  | .mk _ kind _ => kind

def default : Parameter → Option Expr
  | .mk _ _ default => default

end Parameter

def Target.names : Target → List String
  | .name s => [s]
  | .several targets => namesOf targets
  | .part _ _ | .member _ _ => []
where
  namesOf : List Target → List String
    | [] => []
    | t :: more => t.names ++ namesOf more

def Clause.names (clauses : List Clause) : List String :=
  clauses.flatMap fun c =>
    match c with
    | .each t _ => t.names
    | .only _ => []

/-! ## Statements -/

/-- A statement of a text that is run. -/
inductive Statement where
  | expr (e : Expr)
  | assign (targets : List Target) (e : Expr)

end BlockStage.Expression
