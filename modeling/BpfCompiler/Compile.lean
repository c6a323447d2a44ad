import BpfCompiler.License
import BpfCompiler.Lower.Probe
import BpfCompiler.Map.Define
import BpfCompiler.Retained
import BpfCompiler.Syntax.Grammar.Statement

/-!
# Compilation

From the text of a source file to the text of a module: the maps first, then the programs, the licence and
the list of retained symbols.  The table of maps outlives a compilation, so a later source can name a map
of an earlier one.
-/

namespace BpfCompiler

open IR Lower

namespace Lower.Workspace

/-- A module that knows its source file and its compilation unit, and nothing else. -/
def ofFile (name dataLayout : String) (file unit : List (String × Field)) (maps : Table Operand) :
    Workspace :=
  let m := Module.empty name dataLayout
  let (fileNode, m) := m.addRecord "DIFile" false file
  let (unitNode, m) := m.addRecord "DICompileUnit" true (unit ++ [("file", .node fileNode)])
  ⟨m, fileNode, unitNode, maps, #[]⟩

/-- The language that debug information names. -/
def language : String × Field := ("language", .nat 29)

/-- A workspace with no more debug information than maps need. -/
def bare (name : String) : Workspace :=
  ofFile name "" [("filename", .text name), ("directory", .text "")] [language] Table.empty

end Lower.Workspace

namespace Compile

/-- The directory part of a path: what stands before the last slash, without slashes at its end. -/
def directory (path : String) : String :=
  let head := (path.toList.reverse.dropWhile (· ≠ '/')).reverse
  if head.all (· == '/') then String.ofList head
  else String.ofList (head.reverse.dropWhile (· == '/')).reverse

/-- The module for a source file, with its compilation unit listed. -/
def start (path : String) (maps : Table Operand) : Workspace :=
  let w := Workspace.ofFile path "e-m:e-p:64:64-i64:64-i128:128-n32:64-S128"
    [("filename", .text path), ("directory", .text (directory path))]
    [("language", .nat 29), ("producer", .text "PythonBPF DSL Compiler"), ("isOptimized", .bool true),
     ("runtimeVersion", .nat 0), ("emissionKind", .nat 1), ("splitDebugInlining", .bool false),
     ("nameTableKind", .nat 0)] maps
  { w with module := w.module.addNamed "llvm.dbg.cu" w.unitNode }

def parse (source : List Char) : Build Syntax.Module :=
  match Syntax.Module.parse source with
  | .ok m => return m
  | .error fault => throw (.unreadable fault)

/-- Parses a text, which has to have a UTF-8 form. -/
def parseText (source : Text) : Build Syntax.Module :=
  match source.toString? with
  | some s => parse s.toList
  | none => throw .noEncoding

/-- Lowers all parts of a source. -/
def lower (m : Syntax.Module) : Build Unit := do
  Build.say "Module"
  let compiled := m.compiled
  compiled.forM fun d => Build.say ("Found BPF function: " ++ d.name)
  Map.defineAll compiled
  lowerPrograms compiled
  let _ ← License.add m
  Retained.add (Retained.names m)

/-- The flags of a module: how to merge each, its name and its value. -/
def flags : List (Nat × String × Nat) :=
  [(1, "wchar_size", 4), (7, "frame-pointer", 2), (2, "Debug Info Version", 3), (2, "Dwarf Version", 4)]

def word (n : Nat) : Entry := .const Ty.i32 (.int n)

def addFlag : Nat × String × Nat → Build Nat
  | (behavior, name, value) =>
    Build.onModule fun m => m.addList [word behavior, .datum (.ofString name), word value]

def nameNode (name : String) (node : Nat) : Build Unit :=
  Build.onModule fun m => ((), m.addNamed name node)

/-- Adds the flags and the mark of the compiler. -/
def sign : Build Unit := do
  let nodes ← flags.mapM addFlag
  nodes.forM (nameNode "llvm.module.flags")
  let ident ← Build.onModule fun m => m.addList [.datum (.ofString "llvmlite PythonBPF v0.0.1")]
  nameNode "llvm.ident" ident

/-- The text of the module behind the name of its source. -/
def write (path : String) : Build Text := do
  match (← get).module.render with
  | .error fault => throw (.unwritable fault)
  | .ok text =>
    let full := ("source_filename = \"" ++ path ++ "\"\n" : String) ++ text ++ "\n"
    if full.utf8?.isSome then return full else throw .noEncoding

/-- Compiles the text of a source file. -/
def source (path : String) (text : List Char) : Build Text := do
  let m ← parse (Syntax.Lexer.universalNewlines text)
  lower m
  sign
  write path

/-- The outcome of a compilation: the text or a fault, what was logged, and the maps that are known
afterwards. -/
structure Outcome where
  result : Except Fault Text
  log : Array Text
  maps : Table Operand

/-- Compiles a source file, if it could be read, with the maps of earlier compilations. -/
def run (path : String) (text : Except FileFault (List Char)) (maps : Table Operand) : Outcome :=
  match text with
  | .error fault => ⟨.error (.unopened fault), #[], maps⟩
  | .ok text =>
    let (result, w) := (source path text).run.run (start path maps)
    ⟨result, w.log, w.maps⟩

/-- Compiles several files one after the other. -/
def runAll : List (String × Except FileFault (List Char)) → Table Operand → List Outcome
  | [], _ => []
  | (path, text) :: rest, maps =>
    let outcome := run path text maps
    outcome :: runAll rest outcome.maps

end Compile

end BpfCompiler
