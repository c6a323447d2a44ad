import BpfCompiler.Fault

/-!
# Names of types

The type names that a program may use, and what they stand for in the target language.  Signed and
unsigned types of one width are the same there.
-/

namespace BpfCompiler.Lower

open IR

def typeNames : List (String × Ty) :=
  [("c_int8", .int 8), ("c_uint8", .int 8), ("c_int16", .int 16), ("c_uint16", .int 16),
   ("c_int32", .int 32), ("c_uint32", .int 32), ("c_int64", .int 64), ("c_uint64", .int 64),
   ("c_float", .float), ("c_double", .double), ("c_void_p", .int 64), ("str", .ptr (.int 8))]

def typeOfName (name : String) : Except Fault Ty :=
  match typeNames.lookup name with
  | some ty => .ok ty
  | none => .error (.unknownType name)

/-- The types that a variable can be given by a call with a constant. -/
def integerTypeNames : List String := ["c_int32", "c_int64", "c_uint32", "c_uint64"]

end BpfCompiler.Lower
