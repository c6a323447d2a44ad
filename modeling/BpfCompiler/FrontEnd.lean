import BpfCompiler.CommandLine
import BpfCompiler.Compile
import BpfCompiler.Host.Marking
import BpfCompiler.Output

/-!
# Front ends

Three ways to get an object file: a program that calls the compiler on its own file, the tool with the file
as its argument, and running a whole program.  Each writes the text of the module to a file and then asks
the back end to make an object file of it.  Nothing here touches the outside: a front end says what is to
be written and which commands are to be run.
-/

namespace BpfCompiler.FrontEnd

open IR

/-- A command that is run; if it is checked, its failure is an error. -/
structure Command where
  argv : List String
  isChecked : Bool
deriving DecidableEq

/-- The back end's command for the given files. -/
def backEnd (names : Output.Names) : Command :=
  ⟨["llc", "-march=bpf", "-filetype=obj", "-O2", names.assembly, "-o", names.object], true⟩

/-- What a front end did: the commands it ran and the text it wrote. -/
structure Work where
  commands : List Command
  assembly : Option Text

/-- The outcome of a front end, with what it logged. -/
structure Outcome (α : Type) where
  result : Except Fault α
  log : Array Text

/-- Compiles the file of the program that asks for it; the file goes by its resolved path. -/
def compileSelf (path : String) (text : Except FileFault (List Char)) : Outcome Work :=
  let path := Files.resolve path
  let names := Output.ofSelf path
  let outcome := Compile.run path text Table.empty
  match outcome.result with
  | .error fault => ⟨.error fault, outcome.log⟩
  | .ok assembly =>
    let line := "Object written to " ++ names.object ++ ", " ++ names.assembly ++ " can be removed"
    ⟨.ok ⟨[backEnd names], some assembly⟩, outcome.log.push line⟩

/-! ### The tool -/

/-- What the tool ends with: its work, or an exit code when there was nothing to do. -/
inductive ToolResult where
  | done (work : Work)
  | exit (code : Nat)

/-- Compiles the file that the arguments name; `read` gives the texts of files. -/
def tool (args : List String) (read : String → Except FileFault (List Char)) : Outcome ToolResult :=
  match CommandLine.read args with
  | .help => ⟨.ok (.exit 0), #[]⟩
  | .misuse => ⟨.ok (.exit 2), #[]⟩
  | .compile path =>
    let names := Output.ofTool path
    let first : Text := "[+] Compiling " ++ path ++ " → " ++ names.assembly
    let outcome := Compile.run path (read path) Table.empty
    let log := #[first] ++ outcome.log
    match outcome.result with
    | .error fault => ⟨.error fault, log⟩
    | .ok assembly =>
      ⟨.ok (.done ⟨[backEnd names], some assembly⟩), log.push "[+] Running llc -march=bpf"⟩

/-! ### Programs -/

/-- The modules of the library that a program can import, with the names they export. -/
def exports : List (String × List String) :=
  [("pythonbpf", ["bpf", "map", "section", "bpfglobal", "compile", "compile_to_ir"]),
   ("pythonbpf.decorators", ["bpf", "bpfglobal", "map", "section"]),
   ("pythonbpf.helpers", ["ktime", "pid", "deref", "XDP_DROP", "XDP_PASS"]),
   ("pythonbpf.maps", ["HashMap", "PerfEventArray"])]

/-- Whether an import finds all its names; modules outside the library always do. -/
def canImport : Syntax.Stmt → Bool
  | .importFrom (some source) names _ =>
    match exports.lookup source with
    | some known => names.all fun (name, _) => known.contains name
    | none => true
  | _ => true

/-- Whether a statement calls the compiler on the program. -/
def callsCompiler : Syntax.Stmt → Bool
  | .expr (.call (.name "compile") [] []) => true
  | _ => false

/-- The work of a program, and the attributes that its functions carry. -/
structure ProgramRun where
  work : Work
  marked : List (String × Host.Marking)

/-- Runs a program whose text is at the given path. -/
def program (path : String) (text : List Char) : Outcome ProgramRun :=
  match Syntax.Module.parse (Syntax.Lexer.universalNewlines text) with
  | .error fault => ⟨.error (.unreadable fault), #[]⟩
  | .ok m =>
    if !m.body.all canImport then ⟨.error .noImport, #[]⟩
    else
      let marked := m.topLevelFunctions.map fun d => (d.name, Host.markingOf d)
      if m.body.any callsCompiler then
        let outcome := compileSelf path (.ok text)
        ⟨outcome.result.map fun work => ⟨work, marked⟩, outcome.log⟩
      else ⟨.ok ⟨⟨[], none⟩, marked⟩, #[]⟩

end BpfCompiler.FrontEnd
