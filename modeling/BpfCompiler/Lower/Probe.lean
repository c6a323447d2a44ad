import BpfCompiler.Lower.ReturnType
import BpfCompiler.Lower.Statement
import BpfCompiler.Syntax.Mark

/-!
# Programs

A program becomes a function of the module.  Its first block makes the slots of all variables; a body that
does not end in a return returns zero.
-/

namespace BpfCompiler.Lower

open IR Syntax

namespace Frame

/-- The frame of a function at the end of the module, in its first block. -/
def start (w : Workspace) (fn : IR.Function) : Frame :=
  let (entry, scope) := fn.scope.fresh "entry"
  let fn := { fn with scope := scope, blocks := [⟨entry, []⟩] }
  ⟨w, fn, w.module.globals.length, 0, Table.empty⟩

/-- What lasts when the function is done. -/
def finish (f : Frame) : Workspace := { f.workspace with module := f.wholeModule }

end Frame

/-- Adds a function to the module and builds it.  What was built stays when the building fails. -/
def buildFunction (fn : IR.Function) (body : Emit Unit) : Build Unit := do
  Build.claim fn.name
  let (outcome, frame) := body.run.run (Frame.start (← get) fn)
  set frame.finish
  match outcome with
  | .ok _ => return ()
  | .error fault => throw fault

/-- The names of a table as the log lists them. -/
def namesList (names : List String) : String :=
  "dict_keys([" ++ String.intercalate ", " (names.map fun n => (Text.ofString n).quoted) ++ "])"

/-- Makes the slots and lowers the statements; the answer tells whether the body has returned. -/
def lowerStatements (result : Ty) (body : List Stmt) : Emit Bool := do
  allocate body
  Emit.say ("Local symbol table: " ++ namesList (← get).locals.keys)
  lowerBody result false body

/-- The body of a function of the given type. -/
def functionBody (result : Ty) (body : List Stmt) : Emit Unit := do
  let returned ← lowerStatements result body
  if !returned then Emit.terminate (.ret (Operand.int Ty.i32 0))

/-- A program takes its context if it has a parameter at all. -/
def contextParams (d : Syntax.Function) : List Ty :=
  if d.params.any fun p => p.kind = .regular then [Ty.bytePtr] else []

/-- The function that a program becomes, before it is built. -/
def declareProgram (d : Syntax.Function) (result : Ty) : IR.Function :=
  IR.Function.declare d.name result (contextParams d) true (d.probe?.getD Text.empty)

/-- Adds the function of a program, of the given type, and builds it. -/
def buildProgram (d : Syntax.Function) (result : Ty) : Build Unit :=
  buildFunction (declareProgram d result) (functionBody result d.body)

def lowerProgram (d : Syntax.Function) : Build Unit := do
  Build.say (("Found probe_string of " ++ d.name ++ ": " : String) ++ d.probe?.getD "None")
  let result ← ((returnType d).bind typeOfName : Except Fault _)
  buildProgram d result

/-- Lowers the programs among the compiled definitions. -/
def lowerPrograms (compiled : List Syntax.Function) : Build Unit :=
  (compiled.filter fun d => !d.isMap && !d.isGlobal).forM lowerProgram

end BpfCompiler.Lower
