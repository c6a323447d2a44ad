import BpfCompiler.Text.Classes

/-!
# The command line

One positional argument, the source file, and a request for help under two names.  Arguments are read from
left to right: the first request for help that is well formed or malformed decides; an unknown option or a
wrong number of positional arguments is an error only when all has been read.  Behind `--` everything is
positional.
-/

namespace BpfCompiler.CommandLine

inductive Request where
  | compile (source : String)
  | help
  | misuse
deriving DecidableEq, Inhabited

/-- What one argument is. -/
inductive Argument where
  | positional
  | help
  /-- A request for help with a value behind it, which it does not take. -/
  | badHelp
  | unknown
deriving DecidableEq

/-- The letters behind a short request for help are short options themselves, and help is the only one. -/
def shortHelp (letters : List Char) : Argument :=
  if !letters.isEmpty && letters.all (· == 'h') then .help else .badHelp

/-- A number below zero counts as positional, written with the digits of any script.  One line break at
its end does not matter. -/
def isNegativeNumber (cs : List Char) : Bool :=
  let cs := if cs.getLast? = some '\n' then cs.dropLast else cs
  let whole := cs.takeWhile Text.isDecimalDigit
  match cs.dropWhile Text.isDecimalDigit with
  | [] => !whole.isEmpty
  | '.' :: fraction => !fraction.isEmpty && fraction.all Text.isDecimalDigit
  | _ => false

def startsWith (start cs : List Char) : Bool := start.isPrefixOf cs

/-- The part before an equals sign, and the part behind it if there is one. -/
def splitEquals (cs : List Char) : List Char × Option (List Char) :=
  match cs.dropWhile (· ≠ '=') with
  | [] => (cs, none)
  | _ :: value => (cs.takeWhile (· ≠ '='), some value)

/-- Classifies what stands behind two dashes. -/
def classifyLong (cs : List Char) : Argument :=
  let (name, value) := splitEquals cs
  if startsWith name "help".toList then
    if value.isSome then .badHelp else .help
  else if cs.contains ' ' then .positional
  else .unknown

/-- Classifies what stands behind one dash.  Letters may follow a short option at once or behind an equals
sign. -/
def classifyShort (cs : List Char) : Argument :=
  match cs with
  | ['h'] => .help
  | 'h' :: '=' :: letters => shortHelp letters
  | 'h' :: letters => shortHelp letters
  | _ =>
    if isNegativeNumber cs then .positional
    else if cs.contains ' ' then .positional
    else .unknown

def classify (arg : String) : Argument :=
  match arg.toList with
  | '-' :: '-' :: rest => classifyLong rest
  | '-' :: c :: rest => classifyShort (c :: rest)
  | _ => .positional

/-- Reads arguments from left to right, with the positional ones so far and whether an unknown option has
been met. -/
def scan (positional : List String) (unknown : Bool) : List String → Request
  | [] => finishScan positional unknown
  | arg :: rest =>
    if arg = "--" then finishScan (positional ++ rest) unknown
    else
      match classify arg with
      | .help => .help
      | .badHelp => .misuse
      | .positional => scan (positional ++ [arg]) unknown rest
      | .unknown => scan positional true rest
where
  finishScan (positional : List String) (unknown : Bool) : Request :=
    match positional, unknown with
    | [source], false => .compile source
    | _, _ => .misuse

def read (args : List String) : Request := scan [] false args

/-- How the command is called. -/
def usage : String := "usage: bpfc [-h] source"

/-- What the command says when asked for help. -/
def help : String :=
  usage ++ "\n\npositional arguments:\n  source      BPF program\n\n" ++
    "options:\n  -h, --help  show this help message and exit"

end BpfCompiler.CommandLine
