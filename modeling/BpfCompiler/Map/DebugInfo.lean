import BpfCompiler.Dwarf
import BpfCompiler.Lower.Frame
import BpfCompiler.Map.Params

/-!
# Debug information of maps

The loader reads a map's definition off its debug information: the map is a variable of a struct type with
one pointer for each parameter.  A number is written as the length of an array that the pointer refers to;
a key or value points to a plain integer type, or to the array when its size is given.
-/

namespace BpfCompiler.Map

open IR Lower

/-! ### The vocabulary -/

def tagArray : Field := .nat (Dwarf.tags.number "array_type" (by decide))

def tagMember : Field := .nat (Dwarf.tags.number "member" (by decide))

def tagPointer : Field := .nat (Dwarf.tags.number "pointer_type" (by decide))

def tagStruct : Field := .nat (Dwarf.tags.number "structure_type" (by decide))

def encodingUnsigned : Field := .nat (Dwarf.encodings.number "unsigned" (by decide))

/-- The numbers of the map kinds. -/
def kindNumber? : Datum → Option Nat
  | .text t =>
    if t = ("HASH" : Text) then some 1
    else if t = ("PERF_EVENT_ARRAY" : Text) then some 4
    else none
  | _ => none

/-! ### Nodes -/

def record (kind : String) (fields : List (String × Field)) : Build Nat :=
  Build.onModule fun m => m.addRecord kind false fields

def distinctRecord (kind : String) (fields : List (String × Field)) : Build Nat :=
  Build.onModule fun m => m.addRecord kind true fields

def listNode (entries : List Entry) : Build Nat := Build.onModule fun m => m.addNode (.list entries)

def takeTextName : Build Unit := Build.onModule fun m => ((), m.takeTextName)

/-- Whether a datum is a dictionary, which no node can hold. -/
def isDict : Datum → Bool
  | .dict _ => true
  | _ => false

mutual

/-- The entry for a datum in a list: a text takes a name, a list becomes a node. -/
def entryOf : Datum → Build Entry
  | .list items => do
    let entries ← entriesOf items
    if items.any isDict then throw .notKey
    return .node (← listNode entries)
  | .text t => do
    takeTextName
    return .datum (.text t)
  | d => return .datum d

def entriesOf : List Datum → Build (List Entry)
  | [] => return []
  | d :: rest => do
    let e ← entryOf d
    return e :: (← entriesOf rest)

end

/-- The field for a datum: a list becomes a node. -/
def fieldOf : Datum → Build Field
  | .list items => do
    match ← entryOf (.list items) with
    | .node id => return .node id
    | _ => return .datum (.list items)
  | .dict _ => throw .notKey
  | d => return .datum d

def basicType (name : String) (size : Nat) : Build Nat :=
  record "DIBasicType" [("name", .text name), ("size", .nat size), ("encoding", encodingUnsigned)]

/-- An array of `base` with the given length. -/
def arrayType (base : Nat) (count : Datum) : Build Nat := do
  let range ← record "DISubrange" [("count", ← fieldOf count)]
  let elements ← listNode [.node range]
  record "DICompositeType"
    [("tag", tagArray), ("baseType", .node base), ("size", .nat 32), ("elements", .node elements)]

def pointerTo (base : Nat) : Build Nat :=
  record "DIDerivedType" [("tag", tagPointer), ("baseType", .node base), ("size", .nat 64)]

/-- The member at the given place of the struct. -/
def member (name : Text) (type index : Nat) : Build Nat := do
  let file := (← get).fileNode
  record "DIDerivedType"
    [("tag", tagMember), ("name", .datum (.text name)), ("file", .node file), ("baseType", .node type),
     ("size", .nat 64), ("offset", .nat (index * 64))]

/-- Whether a text stands somewhere in a list of code points. -/
def occursIn (needle : List CodePoint) : List CodePoint → Bool
  | [] => needle.isEmpty
  | p :: rest => needle.isPrefixOf (p :: rest) || occursIn needle rest

/-- The pointers that members refer to. -/
structure MemberTypes where
  kind : Nat
  key : Nat
  value : Nat

/-- The pointer for a parameter, by its name. -/
def MemberTypes.ofName (t : MemberTypes) (name : Text) : Nat :=
  if name = ("type" : Text) then t.kind
  else if occursIn ("key" : Text).points name.points then t.key
  else t.value

/-- The members for parameters in order, from the given place on. -/
def members (types : MemberTypes) : Nat → List Text → Build (List Nat)
  | _, [] => return []
  | index, name :: rest => do
    let m ← member name (types.ofName name) index
    return m :: (← members types (index + 1) rest)

def kindNumber (kind : Datum) : Build Nat :=
  match kindNumber? kind with
  | some n => return n
  | none => throw .unknownMapKind

/-- The member for the number of entries, at the given place, if the map has one. -/
def sizeMember (uint : Nat) (params : Params) (index : Nat) : Build (List Nat) :=
  match params.get? "max_entries" with
  | some count => do
    let pointer ← pointerTo (← arrayType uint count)
    return [← member "max_entries" pointer index]
  | none => return []

/-- The debug information of a map: the node that its variable is marked with. -/
def debugInfo (name : String) (params : Params) : Build Nat := do
  let file := (← get).fileNode
  let uint ← basicType "unsigned int" 32
  let ulong ← basicType "unsigned long long" 64
  let number ← kindNumber params.kind
  let kindArray ← arrayType uint (.int number)
  let kind ← pointerTo kindArray
  let key ← pointerTo (if params.contains "key_size" then kindArray else uint)
  let value ← pointerTo (if params.contains "value_size" then kindArray else ulong)
  let names := (params.entries.map Prod.fst).filter fun n => n ≠ ("max_entries" : Text)
  let fields ← members ⟨kind, key, value⟩ 0 names
  let fields := fields ++ (← sizeMember uint params names.length)
  let elements ← listNode (fields.map .node)
  let struct ← distinctRecord "DICompositeType"
    [("tag", tagStruct), ("file", .node file), ("size", .nat (64 * fields.length)),
     ("elements", .node elements)]
  let variableNode ← distinctRecord "DIGlobalVariable"
    [("name", .text name), ("scope", .node (← get).unitNode), ("file", .node file),
     ("type", .node struct), ("isLocal", .bool false), ("isDefinition", .bool true)]
  let expression ← record "DIExpression" []
  record "DIGlobalVariableExpression" [("var", .node variableNode), ("expr", .node expression)]

end BpfCompiler.Map
