import BpfCompiler.Datum
import BpfCompiler.Syntax.Mark

/-!
# Marks at run time

When a program is run, decorators set attributes on the function below them, from the lowest to the
topmost.  A later decorator overrides the section of an earlier one.
-/

namespace BpfCompiler.Host

/-- A decorator with its argument, which at run time may be anything. -/
inductive Decorator where
  | bpf
  | map
  | bpfglobal
  | place (name : Datum)

/-- The attributes of a function. -/
structure Marking where
  isBpf : Bool
  isGlobal : Bool
  isMap : Bool
  sectionName : Option Datum

namespace Marking

def none : Marking := ⟨false, false, false, Option.none⟩

def apply (m : Marking) : Decorator → Marking
  | .bpf => { m with isBpf := true }
  | .map => { m with isMap := true }
  | .bpfglobal => { m with isGlobal := true }
  | .place name => { m with sectionName := some name }

/-- The attributes that a stack of decorators sets, given from the topmost down. -/
def ofDecorators (decorators : List Decorator) : Marking :=
  decorators.foldr (fun d m => m.apply d) none

/-- The attributes that are set, in the order of their names. -/
def attributes (m : Marking) : List (String × Datum) :=
  (if m.isBpf then [("_is_bpf", .bool true)] else []) ++
  (if m.isGlobal then [("_is_bpfglobal", .bool true)] else []) ++
  (if m.isMap then [("_is_map", .bool true)] else []) ++
  (m.sectionName.map fun d => ("_section", d)).toList

end Marking

/-- The decorator that a mark in the source is at run time. -/
def Decorator.ofMark : Syntax.Mark → Decorator
  | .program => .bpf
  | .map => .map
  | .global => .bpfglobal
  | .place name => .place (.text name)

/-- The attributes of a definition when its program is run. -/
def markingOf (d : Syntax.Function) : Marking := .ofDecorators (d.marks.map Decorator.ofMark)

end BpfCompiler.Host
