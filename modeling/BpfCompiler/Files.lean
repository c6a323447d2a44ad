/-!
# Files and paths

The files that a compilation can read, by their paths from the working directory.  A path is walked part by
part: an empty part and a dot stay where they are, two dots go up, and each of these asks for a directory, as
does every part that is followed by another.  Of what lies above the working directory nothing is known but
that it is there.
-/

namespace BpfCompiler

/-- Why a file cannot be read. -/
inductive FileFault where
  | missing
  | isDirectory
  /-- A part of the path before its end is a file. -/
  | notDirectory
  | nameTooLong
  | nullByte
deriving DecidableEq, Inhabited

namespace Files

/-- What a path leads to. -/
inductive Entry where
  | directory
  | file (text : List Char)
deriving Inhabited

/-- Where a walk stands. -/
inductive Place where
  /-- At an entry below the working directory; the parts of its path in reverse. -/
  | inside (parts : List String)
  | root
  /-- In another directory that is not known further. -/
  | elsewhere
deriving DecidableEq

/-- How many bytes a name and a path may have. -/
def maxName : Nat := 255

def maxPath : Nat := 4095

def parts (path : String) : List String := (path.toList.splitOn '/').map String.ofList

def isAbsolute (path : String) : Bool := path.toList.head? == some '/'

/-- Leaves out what a path without links does not need: empty parts, dots, and parts that two dots take
back. -/
def resolve (path : String) : String :=
  let kept := (parts path).foldl
    (fun (kept : List String) part =>
      if part = "" || part = "." then kept else if part = ".." then kept.drop 1 else part :: kept)
    []
  (if isAbsolute path then "/" else "") ++ "/".intercalate kept.reverse

end Files

/-- The entries below the working directory, each with the parts of its path in reverse. -/
structure Files where
  entries : List (List String × Files.Entry)

namespace Files

def empty : Files := ⟨[]⟩

def entry? (files : Files) : Place → Option Entry
  | .inside [] | .root | .elsewhere => some .directory
  | .inside parts => (files.entries.find? fun e => e.1 == parts).map Prod.snd

/-- The directory that a place is in. -/
def parent : Place → Place
  | .inside [] | .elsewhere => .elsewhere
  | .inside (_ :: parts) => .inside parts
  | .root => .root

/-- The place of a name in a directory. -/
def child (name : String) : Place → Option Place
  | .inside parts => some (.inside (name :: parts))
  | .root => if name = "tmp" then some .elsewhere else none
  | .elsewhere => none

/-- One step of a walk. -/
def step (files : Files) (place : Place) (part : String) : Except FileFault Place :=
  match files.entry? place with
  | none => .error .missing
  | some (.file _) => .error .notDirectory
  | some .directory =>
    if part = "" || part = "." then .ok place
    else if part = ".." then .ok (parent place)
    else if maxName < part.utf8ByteSize then .error .nameTooLong
    else
      match child part place with
      | some next => if (files.entry? next).isSome then .ok next else .error .missing
      | none => .error .missing

/-- The text of the file that a path leads to. -/
def read (files : Files) (path : String) : Except FileFault (List Char) := do
  if path.toList.contains '\x00' then throw .nullByte
  if path.isEmpty then throw .missing
  if maxPath < path.utf8ByteSize then throw .nameTooLong
  let place ← (parts path).foldlM files.step (if isAbsolute path then .root else .inside [])
  match files.entry? place with
  | some (.file text) => return text
  | some .directory => throw .isDirectory
  | none => throw .missing

/-- Makes the directories on the way to a path. -/
def addDirectories (files : Files) (path : String) : Files :=
  let way := (parts path).dropLast
  let (_, entries) := way.foldl
    (fun ((here, entries) : List String × List (List String × Entry)) part =>
      if part = "" || part = "." then (here, entries)
      else if part = ".." then (here.drop 1, entries)
      else (part :: here, (part :: here, .directory) :: entries))
    ([], files.entries)
  ⟨entries⟩

/-- The files when the text, if there is one, has been put at a path. -/
def add (files : Files) (path : String) (text : Option (List Char)) : Files :=
  let files := files.addDirectories path
  match text with
  | some text => ⟨((parts (resolve path)).reverse, .file text) :: files.entries⟩
  | none => files

end Files

end BpfCompiler
