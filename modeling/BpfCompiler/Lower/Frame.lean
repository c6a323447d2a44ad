import BpfCompiler.Fault
import BpfCompiler.IR.Module
import BpfCompiler.Table

/-!
# The state of a compilation

A `Workspace` is what lasts through a compilation: the module, the table of maps and the log.  A `Frame`
adds the function that is being built, the block that instructions go to and the slots of its variables.
Both monads keep the state when a step fails: what was emitted and logged before stays.
-/

namespace BpfCompiler.Lower

open IR

structure Workspace where
  module : Module
  /-- The node of the source file. -/
  fileNode : Nat
  /-- The node of the compilation unit. -/
  unitNode : Nat
  /-- The addresses of the maps by name. -/
  maps : Table Operand
  log : Array Text

/-- A step on the module. -/
abbrev Build := ExceptT Fault (StateM Workspace)

namespace Build

def say (line : Text) : Build Unit := modify fun w => { w with log := w.log.push line }

/-- Changes the module and returns what the change gives. -/
def onModule {α : Type} (f : Module → α × Module) : Build α :=
  modifyGet fun w =>
    let (a, m) := f w.module
    (a, { w with module := m })

/-- Takes exactly this name in the scope of the module. -/
def claim (name : String) : Build Unit := do
  match (← get).module.scope.claim? name with
  | some scope => modify fun w => { w with module := { w.module with scope := scope } }
  | none => throw (.duplicateName name)

/-- Appends a global whose name has been claimed. -/
def addGlobal (g : Global) : Build Unit :=
  modify fun w => { w with module := { w.module with globals := w.module.globals ++ [g] } }

end Build

/-- Where a variable lives: the name of its `alloca` and the type it holds. -/
structure Slot where
  register : String
  ty : Ty
deriving DecidableEq, Inhabited

/-- The address of a slot. -/
def Slot.address (s : Slot) : Operand := .local s.register (.ptr s.ty)

structure Frame where
  workspace : Workspace
  fn : Function
  /-- The place of the function among the globals. -/
  position : Nat
  /-- The block that instructions are appended to. -/
  here : Nat
  locals : Table (Option Slot)

namespace Frame

/-- The module with the function as far as it is built. -/
def wholeModule (f : Frame) : Module :=
  let m := f.workspace.module
  { m with globals := m.globals.insertIdx f.position (.function f.fn) }

def block (f : Frame) : Block := f.fn.blocks.getD f.here default

end Frame

/-- A step on a function. -/
abbrev Emit := ExceptT Fault (StateM Frame)

namespace Emit

def say (line : Text) : Emit Unit :=
  modify fun f => { f with workspace := { f.workspace with log := f.workspace.log.push line } }

/-- Makes sure that the log can show an operand. -/
def checkShown (o : Operand) : Emit Unit := do
  match o.fault? with
  | some fault => throw (.unwritable fault)
  | none => return ()

/-- Takes a name in the scope of the function. -/
def freshName (base : String) : Emit String :=
  modifyGet fun f =>
    let (name, scope) := f.fn.scope.fresh base
    (name, { f with fn := { f.fn with scope := scope } })

def place (i : Inst) : Emit Unit :=
  modify fun f =>
    let blocks := f.fn.blocks.modify f.here fun b => { b with insts := b.insts ++ [i] }
    { f with fn := { f.fn with blocks := blocks } }

/-- Appends an instruction with a name like `base` to the current block. -/
def appendNamed (base : String) (op : Op) : Emit Inst := do
  let name ← freshName base
  place ⟨name, op⟩
  return ⟨name, op⟩

/-- Appends an instruction without a name of its own to the current block. -/
def append (op : Op) : Emit Inst := appendNamed "" op

/-- Appends a terminator; it takes its name even if the block has one already. -/
def terminate (op : Op) : Emit Unit := do
  let name ← freshName ""
  if (← get).block.isTerminated then throw .afterTerminator
  place ⟨name, op⟩

/-- Appends a block and returns its place and label. -/
def addBlock (base : String) : Emit (Nat × String) := do
  let label ← freshName base
  let place := (← get).fn.blocks.length
  modify fun f => { f with fn := { f.fn with blocks := f.fn.blocks ++ [⟨label, []⟩] } }
  return (place, label)

def moveTo (place : Nat) : Emit Unit := modify fun f => { f with here := place }

def alloca (name : String) (ty : Ty) (align : Option Nat) : Emit Slot := do
  let i ← appendNamed name (.alloca ty align)
  return ⟨i.name, ty⟩

/-- Reads from a slot, which has to be there. -/
def load (slot : Option Slot) : Emit Inst := do
  match slot with
  | some s => append (.load s.ty s.address)
  | none => throw .absent

/-- Writes a value into a slot; both have to be there, and the types have to agree. -/
def store (value : Option Operand) (slot : Option Slot) : Emit Unit := do
  match slot, value with
  | some s, some v =>
    if s.ty.agrees v.ty then
      let _ ← append (.store v s.address)
    else throw .storeMismatch
  | _, _ => throw .absent

/-- Writes a value into the slot of a variable. -/
def assign (name : String) (value : Option Operand) : Emit Unit := do
  match (← get).locals.get? name with
  | some slot => store value slot
  | none => throw (.noSlot name)

/-- Converts a value, which is left alone if it has the type already. -/
def cast (kind : Cast) (value : Operand) (target : Ty) : Emit Operand := do
  if value.ty.agrees target then return value
  else return (← append (.cast kind value target)).result

/-- Combines two values of one type. -/
def arith (op : Arith) (lhs rhs : Operand) : Emit Operand := do
  if lhs.ty.agrees rhs.ty then return (← append (.arith op lhs rhs)).result
  else throw .operandMismatch

def compare (predicate : Predicate) (lhs rhs : Operand) : Emit Operand := do
  return (← append (.icmp predicate lhs rhs)).result

end Emit

end BpfCompiler.Lower
