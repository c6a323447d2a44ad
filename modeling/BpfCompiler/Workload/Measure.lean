import BpfCompiler.Compile
import BpfCompiler.Host.Cell
import BpfCompiler.Host.HashMap
import BpfCompiler.Host.Trace
import BpfCompiler.Workload.Source

/-!
# Workloads

Tasks of any size that run one part of the compiler or of its user-space side each, with a small result
that tells whether the part did its work.
-/

namespace BpfCompiler

open IR Lower

/-- The parts that can be measured. -/
inductive Workload where
  | compilation
  | programs
  | maps
  | helpers
  | arithmetic
  | returnTypes
  | typeNames
  | userSpace
  | tracePipe
  | license
deriving DecidableEq, Inhabited

namespace Workload

/-- The size that is used when none is given. -/
def defaultSize : Workload → Nat
  | .compilation => 8
  | .programs => 6
  | .maps => 30
  | .helpers => 10
  | .arithmetic => 12
  | .returnTypes => 300
  | .typeNames => 4000
  | .userSpace => 2000
  | .tracePipe => 2000
  | .license => 20

/-- The workspace after a step on a bare module. -/
def after (b : Build Unit) : Workspace := (b.run.run (Workspace.bare "m")).2

/-- Runs a step on a parsed program. -/
def onProgram (text : String) (step : Syntax.Module → Build Unit) : Workspace :=
  after do step (← Compile.parse text.toList)

def sorted (names : List String) : Datum :=
  .list ((names.mergeSort fun a b => !(b < a)).map .ofString)

def ofOption (name : Option Text) : Datum := (name.map .text).getD .null

/-- The number of characters of a compiled module. -/
def compilationResult (n : Nat) : Datum :=
  let outcome := Compile.run "/tmp/tmpXXXXXXXX/prog.py" (.ok (Source.probes "c" n).toList) Table.empty
  match outcome.result with
  | .ok text => .int text.length
  | .error _ => .null

/-- The number of globals of a lowered program. -/
def programsResult (n : Nat) : Datum :=
  .list [.int (onProgram (Source.probes "" n) Compile.lower).module.globals.length]

def mapsResult (n : Nat) : Datum :=
  sorted (onProgram (Source.maps n) fun m => Map.defineAll m.compiled).maps.keys

def lowerAll (m : Syntax.Module) : Build Unit := do
  Map.defineAll m.compiled
  lowerPrograms m.compiled

def helpersResult (n : Nat) : Datum :=
  .int (onProgram (Source.helperCalls n) lowerAll).module.globals.length

def arithmeticResult (n : Nat) : Datum :=
  sorted ((onProgram (Source.arithmetic n) lowerAll).module.globals.map Global.name)

def returnTypesResult (n : Nat) : Datum :=
  match Syntax.Module.parse (Source.returns n).toList with
  | .error _ => .null
  | .ok m => .list (m.functions.flatMap fun d =>
      [ofOption d.probe?,
       match returnType d with
       | .ok name => .ofString name
       | .error _ => .null])

/-- The types of the first names, and how many names were looked up. -/
def typeNamesResult (n : Nat) : Datum :=
  let names := Lower.typeNames.map Prod.fst
  let types := (List.range n).filterMap fun i =>
    (names[i % names.length]?).bind fun name => (typeOfName name).toOption
  .list ((types.take 12).map (fun ty => .ofString ty.render) ++ [.int types.length])

/-- What the values that are not in the map add up to. -/
def cellSum : Nat :=
  Host.Cell.ktime.value + Host.Cell.pid.value + Host.Cell.xdpDrop.value + Host.Cell.xdpPass.value +
    ((Host.Pointer.to 7).deref?).getD 0

abbrev UserMap := Host.HashMap Nat Nat

/-- Sets, reads, doubles and reads again the entry for `i`. -/
def userStep (state : UserMap × Nat) (i : Nat) : UserMap × Nat :=
  let m := state.1.set i i
  let before := (m.lookup i).getD 0
  let m := ((Host.HashMap.serve (.update i (2 * i))).run.run m).2
  (m, state.2 + before + (m.lookup i).getD 0 + cellSum)

/-- The event of the last step. -/
def lastEvent (n : Nat) : Datum :=
  match n with
  | 0 => .null
  | i + 1 =>
    let e : Host.TraceEvent :=
      ⟨.float (Double.ofDecimal false 1 0), .ofString "cmd", .int i, .int 0, .ofString "f",
        .ofString "msg"⟩
    .list e.toList

def userSpaceResult (n : Nat) : Datum :=
  let (m, sum) := (List.range n).foldl userStep (Host.HashMap.empty, 0)
  .list [.int sum, lastEvent n, .int m.entries.length, .int Host.Cell.xdpPass.value]

/-- The text of a trace pipe: two lines of heading and `n` lines of events. -/
def traceText (n : Nat) : String :=
  "# tracer: nop\n#\n" ++ String.join ((List.range n).map fun i => "cmd-" ++ toString i ++ " [000]\n")

/-- Reads until no line is left; lines without an event are counted. -/
def readLines : Nat → Nat → Host.TraceReader → Nat × Datum × Host.TraceReader
  | 0, count, r => (count, .null, r)
  | fuel + 1, count, r =>
    match r.next with
    | (.ok none, r) => (count, .null, r)
    | (.ok (some e), r) => (count, .list e.toList, r)
    | (.error _, r) => readLines fuel (count + 1) r

def tracePipeResult (n : Nat) : Datum :=
  let r := Host.TraceReader.ofText (some (traceText n)) []
  let (count, last, r) := readLines (n + 3) 0 r
  .list [.int count, .bool ((r.exit.pipe.map fun p => !p.isOpen).getD false), last]

def licenseOf (text : String) : Datum × Nat :=
  let step : Build Bool := do
    let m ← Compile.parse text.toList
    let found ← License.add m
    Retained.add (Retained.names m)
    return found
  let (result, w) := step.run.run (Workspace.bare "m")
  (if result.toOption = some true then .ofString "LICENSE" else .null, w.module.globals.length)

def licenseResult (n : Nat) : Datum :=
  let (found, globals) := licenseOf (Source.licensed n)
  .list [found, .int globals, (licenseOf (Source.unlicensed n)).1]

/-- The result of a workload of the given size. -/
def run : Workload → Nat → Datum
  | .compilation => compilationResult
  | .programs => programsResult
  | .maps => mapsResult
  | .helpers => helpersResult
  | .arithmetic => arithmeticResult
  | .returnTypes => returnTypesResult
  | .typeNames => typeNamesResult
  | .userSpace => userSpaceResult
  | .tracePipe => tracePipeResult
  | .license => licenseResult

end Workload

end BpfCompiler
