import BpfCompiler.FrontEnd

/-!
# The command

Reads the source file, writes the module beside it and says which command makes the object file.
-/

open BpfCompiler

/-- The text of a file, if it can be read. -/
private def readSource (path : String) : IO (Except FileFault (List Char)) := do
  try return .ok (← IO.FS.readFile path).toList
  catch _ => return .error .missing

/-- A text as it can be printed. -/
private def printable (t : Text) : String :=
  String.ofList (t.points.map fun p => (CodePoint.toChar? p).getD '�')

private def report (fault : Fault) : String :=
  match fault with
  | .unopened _ => "error: the source cannot be read"
  | .unreadable _ => "error: the source cannot be parsed"
  | .unwritable _ => "error: the module cannot be written"
  | fault => "error: " ++ (fault.message?.getD "the source cannot be compiled")

private def writeOutput (path : String) (work : FrontEnd.Work) : IO Unit := do
  match work.assembly with
  | some text => IO.FS.writeFile (Output.ofTool path).assembly (printable text)
  | none => return ()
  for command in work.commands do
    IO.println (" ".intercalate command.argv)

def main (args : List String) : IO UInt32 := do
  let path? := match CommandLine.read args with
    | .compile path => some path
    | _ => none
  let text ← match path? with
    | some path => readSource path
    | none => pure (.error .missing)
  let outcome := FrontEnd.tool args fun _ => text
  for line in outcome.log do
    IO.println (printable line)
  match outcome.result with
  | .error fault =>
    IO.eprintln (report fault)
    return 1
  | .ok (.exit code) =>
    IO.println (if code = 0 then CommandLine.help else CommandLine.usage)
    return UInt32.ofNat code
  | .ok (.done work) =>
    writeOutput (path?.getD "") work
    return 0
