import BpfCompiler.Syntax.Stmt

/-!
# Marks

What the decorators of a definition say about it: whether it is compiled at all, whether it is a map or a
global instead of a program, and the section it goes to.
-/

namespace BpfCompiler.Syntax

/-- A decorator with a meaning. -/
inductive Mark where
  | program
  | map
  | global
  | place (sectionName : Text)
deriving DecidableEq, Inhabited

namespace Mark

/-- The mark that a decorator sets, if it is one of the four. -/
def ofDecorator? : Expr → Option Mark
  | .name "bpf" => some .program
  | .name "map" => some .map
  | .name "bpfglobal" => some .global
  | .call (.name "section") [arg] _ => arg.textLiteral?.map .place
  | _ => none

end Mark

namespace FunctionDef

/-- The marks of a definition, from the topmost decorator down. -/
def marks (d : Function) : List Mark := d.decorators.filterMap Mark.ofDecorator?

/-- Whether the definition is compiled. -/
def isCompiled (d : Function) : Bool := d.marks.contains .program

def isMap (d : Function) : Bool := d.marks.contains .map

def isGlobal (d : Function) : Bool := d.marks.contains .global

/-- The section of a program.  The topmost decorator that speaks of it decides: a global has none, and
without any the program is a helper. -/
def probe? (d : Function) : Option Text :=
  let decisive : Mark → Option (Option Text)
    | .global => some none
    | .place sectionName => some (some sectionName)
    | _ => none
  (d.marks.findSome? decisive).getD (some "helper")

end FunctionDef

namespace Module

/-- The definitions that are compiled, breadth first. -/
def compiled (m : Module) : List Function :=
  m.functions.filter fun d => !d.isAsync && d.isCompiled

end Module

end BpfCompiler.Syntax
