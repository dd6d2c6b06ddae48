import BlockStage.Fault

/-!
# Names of faults

The exception that a fault stands for.
-/

namespace BlockStage.Expression

/-- The name of the exception. -/
def failureName : Fault → String
  | .missingKey => "KeyError"
  | .wrongKind => "TypeError"
  | .missingMember => "AttributeError"
  | .outOfRange => "IndexError"
  | .badValue | .listNotFound _ => "ValueError"
  | .spriteNotFound _ | .percentOutOfRange _ => Fault.generalKind
  | .divisionByZero => "ZeroDivisionError"
  | .overflow => "OverflowError"
  | .outOfMemory => "MemoryError"
  | .undefinedName => "NameError"
  | .unsetLocal => "UnboundLocalError"
  | .badLiteral => "SyntaxError"
  | .badIndent => "IndentationError"
  | .exhausted => "StopIteration"
  | .unwritable => "UnicodeEncodeError"
  | .unreadable => "UnicodeDecodeError"
  | .unknownCoding => "LookupError"
  | .tooDeep => "RecursionError"
  | .badJson => "JSONDecodeError"
  | .fileNotFound => "FileNotFoundError"
  | .system => "OSError"
  | .badArchive => "BadZipFile"
  | .abstractOperation => "NotImplementedError"
  | .exit => "SystemExit"
  | .display => "error"
  | .raised kind _ _ => kind

end BlockStage.Expression
