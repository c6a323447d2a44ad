import BpfCompiler.Lower.Frame
import BpfCompiler.Syntax.Mark

/-!
# Retained symbols

The optimizer drops what nothing refers to, so the module lists the symbols that have to stay: the
licence, and every top-level definition once for each of its marks that place it or make it a map or a
global.
-/

namespace BpfCompiler.Retained

open IR Lower Syntax

/-- Whether a mark asks for the definition to stay. -/
def keeps : Mark → Bool
  | .program => false
  | .map | .global | .place _ => true

/-- The names of the symbols to keep, with repetitions. -/
def names (m : Syntax.Module) : List String :=
  "LICENSE" :: m.topLevelFunctions.flatMap fun d => (d.marks.filter keeps).map fun _ => d.name

/-- The address of a symbol.  One that the module does not define takes its name as an unknown
pointer. -/
def symbol (name : String) : Build Operand := do
  match (← get).module.find? name with
  | some g => return g.address
  | none =>
    Build.claim name
    return .global name Ty.bytePtr

/-- Adds the list of symbols. -/
def add (names : List String) : Build Unit := do
  let items ← names.mapM symbol
  Build.claim "llvm.compiler.used"
  Build.addGlobal (.variable
    ⟨"llvm.compiler.used", .array names.length Ty.bytePtr, "appending", false,
      some (.references items), "llvm.metadata", none, none⟩)

end BpfCompiler.Retained
