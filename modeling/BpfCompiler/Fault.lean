import BpfCompiler.Files
import BpfCompiler.IR.Value
import BpfCompiler.Syntax.Token

/-!
# Faults

Why a program is refused.  The first group are judgements on the program and carry a message; the second
group are operations that cannot be carried out, such as storing a value into a slot of another type, and
have no message of their own.  Each fault is reported as an error of some class, which callers tell it by.
-/

namespace BpfCompiler

/-- The map methods that take a key. -/
inductive KeyMethod where
  | lookup | update | delete
deriving DecidableEq, Inhabited

/-- The part that a variable plays in a call of a map method. -/
inductive Role where
  | key | value | flags
deriving DecidableEq, Inhabited

inductive Fault where
  -- judgements on the program
  | augmentedAssignment
  | undefinedVariable (name : String)
  | leftOperand
  | rightOperand
  | operator
  | returnMismatch (expected : IR.Ty) (name : String)
  | returnName
  | returnValue
  | conflictingReturns (first later : String)
  | notFunction
  | unknownType (name : String)
  | notDereferenceable (ty : IR.Ty)
  | argumentCount (method : KeyMethod) (count : Nat)
  | undefinedRole (role : Role) (name : String)
  | unsupportedRole (method : KeyMethod) (role : Role)
  | missingPointer (method : KeyMethod)
  | nothingToPrint
  | formatConstant
  | formatValue
  | formatPart
  | unknownHelper (name : String)
  | unknownMethod (name : String)
  | unknownMap (name : String)
  | methodTarget
  | mapWithoutReturn
  | notAMap
  -- operations that cannot be carried out
  /-- A variable without a slot. -/
  | noSlot (name : String)
  /-- A slot, value or node that is not there. -/
  | absent
  /-- A slot that no earlier assignment of the suite has set. -/
  | unsetSlot
  | storeMismatch
  | callMismatch
  | operandMismatch
  | afterTerminator
  | duplicateName (name : String)
  | noEncoding
  | tooManyArguments
  | noArgument
  | slotAlignment
  | unknownMapKind
  | notKey
  | noImport
  | unopened (fault : FileFault)
  | unreadable (fault : Syntax.SourceFault)
  | unwritable (fault : IR.RenderFault)
deriving DecidableEq, Inhabited

namespace Fault

def roleName : Role → String
  | .key => "Key"
  | .value => "Value"
  | .flags => "Flags"

def rolePlural : Role → String
  | .key => "keys"
  | .value => "values"
  | .flags => "flags"

def methodName : KeyMethod → String
  | .lookup => "lookup"
  | .update => "update"
  | .delete => "delete"

def supported : KeyMethod → Role → String
  | .lookup, _ => "simple variable names"
  | _, .flags => "integer constants and simple variable names"
  | _, _ => "simple variable names and integer constants"

def expectedArguments : KeyMethod → String
  | .lookup => "exactly one argument"
  | .update => "2 or 3 arguments (key, value, flags)"
  | .delete => "exactly 1 argument (key)"

/-- What a judgement on the program says. -/
def message? : Fault → Option String
  | .augmentedAssignment => some "Augmented assignment not supported"
  | .undefinedVariable name => some ("Undefined variable: " ++ name)
  | .leftOperand => some "Unsupported left operand type"
  | .rightOperand => some "Unsupported right operand type"
  | .operator => some "Unsupported binary operation"
  | .returnMismatch expected name =>
    some ("Return type mismatch: expected" ++ expected.render ++ ", got " ++ name)
  | .returnName => some "Failed to evaluate return expression"
  | .returnValue => some "Unsupported return value"
  | .conflictingReturns first later =>
    some ("Conflicting return types:" ++ first ++ " vs " ++ later)
  | .notFunction => some "Expected ast.FunctionDef"
  | .unknownType name => some ("No mapping for " ++ name)
  | .notDereferenceable ty => some ("Unsupported type for dereferencing: " ++ ty.render)
  | .argumentCount method count =>
    some ("Map " ++ methodName method ++ " expects " ++ expectedArguments method ++ ", got " ++
      toString count)
  | .undefinedRole role name =>
    some (roleName role ++ " variable " ++ name ++ " not found in local symbol table.")
  | .unsupportedRole method role =>
    some ("Only " ++ supported method role ++ " are supported as " ++ rolePlural role ++ " in map " ++
      methodName method ++ ".")
  | .missingPointer .update => some "Key pointer or value pointer is None."
  | .missingPointer _ => some "Key pointer is None."
  | .nothingToPrint => some "print expects at least one argument"
  | .formatConstant => some "Only string and integer constants are supported in f-string."
  | .formatValue => some "Only simple variable names are supported in formatted values."
  | .formatPart => some "Unsupported value type in f-string."
  | .unknownHelper name => some ("Function " ++ name ++ " is not implemented as a helper function.")
  | .unknownMethod name => some ("Map method " ++ name ++ " is not implemented as a helper function.")
  | .unknownMap name => some ("Map variable " ++ name ++ " not found in symbol tables.")
  | .methodTarget => some "Attribute not supported for map method calls."
  | .mapWithoutReturn => some "BPF map must have a return statement"
  | .notAMap => some "Function under @map must return a map"
  | _ => none

end Fault

/-! ### Classes of errors -/

def FileFault.className : FileFault → String
  | .missing => "FileNotFoundError"
  | .isDirectory => "IsADirectoryError"
  | .notDirectory => "NotADirectoryError"
  | .nameTooLong => "OSError"
  | .nullByte => "ValueError"

def Syntax.SourceFault.className : Syntax.SourceFault → String
  | .malformed => "SyntaxError"
  | .nullByte => "ValueError"
  | .indentation => "IndentationError"
  | .inconsistentTabs => "TabError"

def IR.RenderFault.className : IR.RenderFault → String
  | .missingCondition | .bareNumber => "AttributeError"
  | .constantOverflow => "OverflowError"
  | .singleOverflow => "error"
  | .longNumber => "ValueError"
  | .unsupportedField => "TypeError"
  | .surrogate => "UnicodeEncodeError"

/-- The class of the error that a fault is reported as. -/
def Fault.className : Fault → String
  | .augmentedAssignment | .undefinedVariable _ | .leftOperand | .rightOperand | .operator => "SyntaxError"
  | .returnMismatch .. | .returnName | .returnValue | .conflictingReturns .. | .argumentCount ..
  | .undefinedRole .. | .missingPointer _ | .nothingToPrint | .unknownMap _ | .mapWithoutReturn
  | .notAMap | .operandMismatch => "ValueError"
  | .unknownType _ | .unsupportedRole .. | .formatConstant | .formatValue | .formatPart
  | .unknownHelper _ | .unknownMethod _ | .methodTarget => "NotImplementedError"
  | .notFunction | .notDereferenceable _ | .storeMismatch | .callMismatch | .tooManyArguments
  | .slotAlignment | .notKey => "TypeError"
  | .noSlot _ | .unknownMapKind => "KeyError"
  | .absent => "AttributeError"
  | .unsetSlot => "UnboundLocalError"
  | .afterTerminator => "AssertionError"
  | .duplicateName _ => "DuplicatedNameError"
  | .noEncoding => "UnicodeEncodeError"
  | .noArgument => "IndexError"
  | .noImport => "ImportError"
  | .unopened fault => fault.className
  | .unreadable fault => fault.className
  | .unwritable fault => fault.className

end BpfCompiler
