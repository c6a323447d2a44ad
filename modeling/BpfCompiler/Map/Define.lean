import BpfCompiler.Map.DebugInfo
import BpfCompiler.Syntax.Mark

/-!
# Defining maps

A map becomes a global variable in the section of maps, with one pointer for each parameter and debug
information that says what they mean.  It is entered in the table of maps when all is made.
-/

namespace BpfCompiler.Map

open IR Lower Syntax

/-- The variable of a map, before its debug information is known. -/
def mapVariable (name : String) (params : Params) : Variable :=
  ⟨name, .struct (List.replicate params.size Ty.bytePtr), "dso_local", false, some .zero, ".maps",
    some 8, none⟩

/-- Marks a variable with its debug information. -/
def attach (name : String) (node : Nat) : List Global → List Global :=
  List.map fun
    | .variable v => .variable (if v.name = name then { v with debug := some node } else v)
    | g => g

/-- Makes the variable of a map, describes it and enters the map in the table. -/
def createVariable (name : String) (params : Params) : Build Operand := do
  let v := mapVariable name params
  Build.claim name
  Build.addGlobal (.variable v)
  let node ← debugInfo name params
  modify fun w =>
    { w with module := { w.module with globals := attach name node w.module.globals } }
  Build.say ("Created BPF map: " ++ name)
  let address := (Global.variable v).address
  modify fun w => { w with maps := w.maps.insert name address }
  return address

/-- Creates a map and returns its address. -/
def create (name : String) (params : Params) : Build Operand := do
  if !params.kind.isKey then throw .notKey
  createVariable name params

def sayParams (params : Params) : Build Unit := do
  if !params.canShow then throw (.unwritable .longNumber)
  Build.say (("Map parameters: " : Text) ++ params.shown)

def createHash (name : String) (args : List Expr) (keywords : List (Option String × Expr)) :
    Build Unit := do
  Build.say ("Creating HashMap map: " ++ name)
  let params := Params.ofHashCall args keywords
  sayParams params
  let _ ← create name params

def createPerf (name : String) (args : List Expr) (keywords : List (Option String × Expr)) :
    Build Unit := do
  Build.say ("Creating PerfEventArray map: " ++ name)
  let params := Params.ofPerfCall args keywords
  sayParams params
  let _ ← create name params

/-- The value of the first return of a body. -/
def firstReturn? (body : List Stmt) : Option (Option Expr) :=
  body.findSome? fun
    | .ret value => some value
    | _ => none

/-- Defines the map that a definition returns. -/
def define (d : Syntax.Function) : Build Unit := do
  Build.say ("Found BPF map: " ++ d.name)
  Build.say ("Processing BPF map: " ++ d.name)
  match firstReturn? d.body with
  | none => throw .mapWithoutReturn
  | some (some (.call (.name "HashMap") args keywords)) => createHash d.name args keywords
  | some (some (.call (.name "PerfEventArray") args keywords)) => createPerf d.name args keywords
  | some (some (.call (.name id) args keywords)) =>
    Build.say ("Unknown map type " ++ id ++ ", defaulting to HashMap")
    createHash d.name args keywords
  | some _ => throw .notAMap

/-- Defines the maps among the compiled definitions. -/
def defineAll (compiled : List Syntax.Function) : Build Unit :=
  (compiled.filter fun d => d.isMap).forM define

end BpfCompiler.Map
