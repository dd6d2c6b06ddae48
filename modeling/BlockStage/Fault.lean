/-!
# Faults

Why an operation fails. A fault names the cause; whoever reports it chooses the words.
-/

namespace BlockStage

/-- The exceptions that the program meets. -/
inductive Fault where
  | missingKey
  | wrongKind
  | missingMember
  | outOfRange
  /-- A value of the right kind has no meaning here, such as a text that is not a number. -/
  | badValue
  | listNotFound (id : String)
  | spriteNotFound (name : String)
  | divisionByZero
  | overflow
  | outOfMemory
  /-- A name that only exists later was used, such as the stage of a project without one. -/
  | undefinedName
  /-- A local result was used that no branch has set. -/
  | unsetLocal
  /-- A written list of names cannot be read. -/
  | badLiteral
  /-- A line of a written list of names starts with blanks where none may stand. -/
  | badIndent
  | exhausted
  | unwritable
  | unreadable
  | unknownCoding
  /-- Functions call each other without end. -/
  | tooDeep
  | badJson
  | fileNotFound
  | system
  | badArchive
  /-- A slider was set to what is not between 0 and 100. -/
  | percentOutOfRange (percent : String)
  /-- An operation that a concrete kind of input has to supply. -/
  | abstractOperation
  /-- The program is left, by its user or by an expression. -/
  | exit
  | display
  /-- An expression failed by itself: with a kind of failures, a text, and the number by which it knows
  the failure, zero if it does not. -/
  | raised (kind message : String) (number : Nat)
  deriving DecidableEq, Repr, Inhabited

def Fault.generalKind : String := "Exception"

def Fault.listNotFoundText : String := "list not found:"

/-- The text that the program itself gives to a failure. -/
def Fault.message? : Fault → Option String
  | .listNotFound id => some (listNotFoundText ++ id)
  | .spriteNotFound name => some ("没有找到" ++ name ++ "这个角色")
  | .percentOutOfRange percent =>
    some ("Slider Error: Takes an integer between 0 and 100 not " ++ percent)
  | .raised kind message _ =>
    if kind = generalKind || message.startsWith listNotFoundText then some message else none
  | _ => none

/-- How a block fails: by an error, for which it is given up, or because the program is left. -/
inductive Failure where
  | error (f : Fault)
  | exit
  deriving DecidableEq, Repr

namespace Failure

/-- What is left of an expression that met a fault. -/
def ofFault : Fault → Failure
  | .exit => .exit
  | f => .error f

def fault : Failure → Fault
  | .error f => f
  | .exit => .exit

instance : Coe Failure Fault := ⟨fault⟩

instance : Coe Fault Failure := ⟨error⟩

end Failure

end BlockStage
