/-!
# Names of output files

The intermediate and the object file are named after the source.  The two front ends differ in what they
take for the ending of a name.  For a program that compiles itself, the ending starts at the last dot,
unless the name starts or ends there; for the tool, it starts at the last dot, unless only dots stand
before it.
-/

namespace BpfCompiler.Output

/-- The part before the last dot and the part behind it, if there is a dot. -/
def splitLastDot (base : List Char) : Option (List Char × List Char) :=
  let tail := (base.reverse.takeWhile (· ≠ '.')).reverse
  let head := base.take (base.length - tail.length)
  match head.getLast? with
  | some _ => some (head.dropLast, tail)
  | none => none

/-- The name without its ending, as a program that compiles itself sees it. -/
def selfStem (base : List Char) : List Char :=
  match splitLastDot base with
  | some (head, tail) => if head.isEmpty || tail.isEmpty then base else head
  | none => base

/-- The name without its ending, as the tool sees it. -/
def toolStem (base : List Char) : List Char :=
  match splitLastDot base with
  | some (head, _) => if head.all (· == '.') then base else head
  | none => base

/-- A path as its directory, with the slash, and its last part. -/
def splitPath (path : String) : List Char × List Char :=
  let base := (path.toList.reverse.takeWhile (· ≠ '/')).reverse
  (path.toList.take (path.toList.length - base.length), base)

/-- The names of the intermediate and the object file. -/
structure Names where
  assembly : String
  object : String
deriving DecidableEq

/-- A program that compiles itself puts the intermediate file under `/tmp` and the object file beside the
source. -/
def ofSelf (path : String) : Names :=
  let (directory, base) := splitPath path
  let stem := String.ofList (selfStem base)
  ⟨"/tmp/" ++ stem ++ ".ll", String.ofList directory ++ stem ++ ".o"⟩

/-- The tool puts both files beside the source. -/
def ofTool (path : String) : Names :=
  let (directory, base) := splitPath path
  let stem := String.ofList (directory ++ toolStem base)
  ⟨stem ++ ".ll", stem ++ ".o"⟩

end BpfCompiler.Output
