import BpfCompiler.IR.Function
import BpfCompiler.IR.Metadata

/-!
# Modules

A module holds its globals in order of creation, functions among them, and its metadata.  Globals and
metadata share one scope: a global has exactly the name it asks for or is refused, while a node is named
by its number and a metadata text takes a name that nobody sees.
-/

namespace BpfCompiler.IR

inductive Initializer where
  | zero
  /-- Bytes written as one string. -/
  | bytes (data : List UInt8)
  /-- Bytes written one by one. -/
  | byteList (data : List UInt8)
  | references (items : List Operand)
deriving Inhabited

structure Variable where
  name : String
  ty : Ty
  linkage : String
  isConstant : Bool
  initializer : Option Initializer
  sectionName : String
  align : Option Nat
  debug : Option Nat
deriving Inhabited

inductive Global where
  | variable (v : Variable)
  | function (f : Function)
deriving Inhabited

namespace Global

def name : Global → String
  | .variable v => v.name
  | .function f => f.name

/-- The type of the address of the global. -/
def ty : Global → Ty
  | .variable v => .ptr v.ty
  | .function f => .ptr f.ty

/-- The address of the global. -/
def address (g : Global) : Operand := .global g.name g.ty

end Global

structure Module where
  name : String
  dataLayout : String
  scope : NameScope
  globals : List Global
  /-- The nodes with their names. -/
  nodes : List (String × Node)
  /-- The named lists of nodes. -/
  named : List (String × List Nat)
deriving Inhabited

namespace Module

def empty (name dataLayout : String) : Module := ⟨name, dataLayout, NameScope.empty, [], [], []⟩

def find? (m : Module) (name : String) : Option Global := m.globals.find? fun g => g.name == name

/-- The name of a node. -/
def nodeName (m : Module) (id : Nat) : String := (m.nodes[id]?.map Prod.fst).getD ""

/-- Takes a name for a metadata text. -/
def takeTextName (m : Module) : Module := { m with scope := (m.scope.fresh "").2 }

/-- The place of a node with this content, which is added if there is none. -/
def addNode (m : Module) (node : Node) : Nat × Module :=
  match m.nodes.findIdx? fun (_, n) => n.same node with
  | some id => (id, m)
  | none =>
    let id := m.nodes.length
    let (name, scope) := m.scope.fresh (toString id)
    (id, { m with scope := scope, nodes := m.nodes ++ [(name, node)] })

def addRecord (m : Module) (kind : String) (distinct : Bool) (fields : List (String × Field)) :
    Nat × Module :=
  m.addNode (Node.ofFields kind distinct fields)

/-- Adds a list node; each text in it takes a name first. -/
def addList (m : Module) (entries : List Entry) : Nat × Module :=
  let m := entries.foldl
    (fun (m : Module) e => match e with
      | .datum (.text _) => m.takeTextName
      | _ => m)
    m
  m.addNode (.list entries)

def putNamed (name : String) (id : Nat) :
    List (String × List Nat) → List (String × List Nat)
  | [] => [(name, [id])]
  | (n, ids) :: rest => if n = name then (n, ids ++ [id]) :: rest else (n, ids) :: putNamed name id rest

/-- Appends a node to a named list. -/
def addNamed (m : Module) (name : String) (id : Nat) : Module :=
  { m with named := putNamed name id m.named }

/-! ### Text -/

def renderInitializer : Initializer → Text
  | .zero => "zeroinitializer"
  | .bytes data => "c\"" ++ escapedBytes data ++ "\""
  | .byteList data =>
    "[" ++ String.intercalate ", " (data.map fun b => "i8 " ++ toString b.toNat) ++ "]"
  | .references items => ("[" : Text) ++ Text.join ", " (items.map Operand.typed) ++ "]"

def renderVariable (nodeName : Nat → String) (v : Variable) : Text :=
  let linkage :=
    if v.linkage.isEmpty then if v.initializer.isNone then "external " else ""
    else v.linkage ++ " "
  let kind := if v.isConstant then "constant " else "global "
  let value : Text := match v.initializer with
    | some i => (" " : Text) ++ renderInitializer i
    | none => Text.empty
  let place := if v.sectionName.isEmpty then "" else ", section \"" ++ v.sectionName ++ "\""
  let align := (v.align.map fun n => ", align " ++ toString n).getD ""
  let debug := (v.debug.map fun id => ", !dbg !" ++ nodeName id).getD ""
  ("@" ++ quotedName v.name ++ " = " ++ linkage ++ kind ++ v.ty.render : String) ++ value ++
    (place ++ align ++ debug : String)

def renderGlobal (m : Module) : Global → Text
  | .variable v => renderVariable m.nodeName v
  | .function f => f.render

/-- What stops the module from being written: the first function with a bad instruction, and then the
first bad node. -/
def fault? (m : Module) : Option RenderFault :=
  let inGlobals := m.globals.findSome? fun
    | .function f => f.fault?
    | .variable _ => none
  inGlobals.or (m.nodes.findSome? fun (_, n) => n.fault?)

/-- The lines of a module that can be written. -/
def lines (m : Module) : List Text :=
  let header : List Text :=
    ["; ModuleID = \"" ++ m.name ++ "\"", "target triple = \"bpf\"",
     "target datalayout = \"" ++ m.dataLayout ++ "\"", ""]
  let named : List Text := m.named.map fun (name, ids) =>
    "!" ++ name ++ " = !\x7b " ++ String.intercalate ", " (ids.map fun id => "!" ++ m.nodeName id) ++
      " \x7d"
  let nodes : List Text := m.nodes.map fun (name, node) =>
    ("!" ++ name ++ " = " : String) ++ node.render m.nodeName
  header ++ m.globals.map m.renderGlobal ++ named ++ nodes

def render (m : Module) : Except RenderFault Text :=
  match m.fault? with
  | some f => .error f
  | none => .ok (Text.join "\n" m.lines)

end Module

end BpfCompiler.IR
