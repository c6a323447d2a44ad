import BpfCompiler.IR.Instruction
import BpfCompiler.IR.NameScope

/-!
# Functions under construction

A function is a list of blocks, each with its label and its instructions in order.  Arguments, the result,
blocks and instructions all take their names from one scope, in the order in which they are made.
-/

namespace BpfCompiler.IR

structure Block where
  label : String
  insts : List Inst
deriving Inhabited

namespace Block

def isTerminated (b : Block) : Bool := b.insts.any fun i => i.op.isTerminator

def isLabelStart (c : Char) : Bool := c.isAlpha || ['-', '$', '.', '_'].contains c

/-- Whether a label needs no quotes.  One line break at its end does not matter. -/
def isPlainLabel (name : String) : Bool :=
  let cs := name.toList
  match if cs.getLast? = some '\n' then cs.dropLast else cs with
  | [] => false
  | c :: rest => isLabelStart c && rest.all fun c => isLabelStart c || c.isDigit

def render (b : Block) : Text :=
  let label := if isPlainLabel b.label then b.label else quotedName b.label
  Text.concat ((label ++ ":\n" : String) :: b.insts.map fun i => ("  " : Text) ++ i.render ++ "\n")

end Block

structure Param where
  name : String
  ty : Ty
  noCapture : Bool
deriving Inhabited

structure Function where
  name : String
  result : Ty
  params : List Param
  /-- Whether the symbol is local to the object and carries the attributes of a probe. -/
  isProbe : Bool
  /-- The section the function is put in; none is written for the empty text. -/
  sectionName : Text
  scope : NameScope
  blocks : List Block
  /-- How many format strings the function has made. -/
  formats : Nat
deriving Inhabited

namespace Function

/-- A function without blocks.  Its parameters and its result take the first names. -/
def declare (name : String) (result : Ty) (params : List Ty) (isProbe : Bool) (sectionName : Text) :
    Function :=
  let (scope, params) := params.foldl
    (fun ((scope, ps) : NameScope × List Param) ty =>
      let (n, scope) := scope.fresh ""
      (scope, ps ++ [⟨n, ty, isProbe⟩]))
    (NameScope.empty, [])
  let (_, scope) := scope.fresh ""
  ⟨name, result, params, isProbe, sectionName, scope, [], 0⟩

/-- The type of the function, which a reference to it points to. -/
def ty (f : Function) : Ty := .func f.result (f.params.map Param.ty) false

def renderParam (p : Param) : String :=
  p.ty.render ++ (if p.noCapture then " nocapture" else "") ++ " %" ++ quotedName p.name

def render (f : Function) : Text :=
  let state := if f.blocks.isEmpty then "declare " else "define "
  let linkage := if f.isProbe then "dso_local " else ""
  let attributes := if f.isProbe then " noinline nounwind optnone" else ""
  let head := state ++ linkage ++ f.result.render ++ " @" ++ quotedName f.name ++ "(" ++
    String.intercalate ", " (f.params.map renderParam) ++ ")" ++ attributes
  let place : Text :=
    if f.sectionName.isEmpty then Text.empty
    else (" section \"" : Text) ++ f.sectionName ++ "\""
  let body := if f.blocks.isEmpty then Text.empty
    else ("\x7b\n" : Text) ++ Text.concat (f.blocks.map Block.render) ++ "\x7d\n"
  (head : Text) ++ place ++ "\n" ++ body

/-- The first instruction that cannot be printed decides. -/
def fault? (f : Function) : Option RenderFault :=
  f.blocks.findSome? fun b => b.insts.findSome? fun i => i.op.fault?

end Function

end BpfCompiler.IR
