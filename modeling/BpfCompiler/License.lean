import BpfCompiler.Lower.Frame
import BpfCompiler.Syntax.Mark

/-!
# The licence

The kernel reads the licence of a program off a variable of its own.  The first definition at the top
level that is called `LICENSE` and is marked as a compiled global decides, whether it is well formed or
not.
-/

namespace BpfCompiler.License

open IR Lower Syntax

/-- The text that a definition consists of returning. -/
def returnedText? (d : Syntax.Function) : Option Text :=
  match d.body with
  | [.ret (some e)] => e.textLiteral?
  | _ => none

/-- The definition that decides. -/
def definition? (m : Syntax.Module) : Option Syntax.Function :=
  m.topLevelFunctions.find? fun d => d.name = "LICENSE" && d.isCompiled && d.isGlobal

/-- The variable for a licence: its bytes and a zero. -/
def licenseVariable (bytes : List UInt8) : Variable :=
  let data := bytes ++ [0]
  ⟨"LICENSE", .array data.length Ty.i8, "dso_local", false, some (.byteList data), "license", some 1,
    none⟩

/-- Adds the licence, and tells whether there is one. -/
def add (m : Syntax.Module) : Build Bool := do
  match definition? m with
  | none => return false
  | some d =>
    match returnedText? d with
    | none =>
      Build.say "ERROR: LICENSE() must return a string literal"
      return false
    | some text =>
      match text.utf8? with
      | none => throw .noEncoding
      | some bytes =>
        Build.claim "LICENSE"
        Build.addGlobal (.variable (licenseVariable bytes))
        return true

end BpfCompiler.License
