import BpfCompiler.Lower.Frame
import BpfCompiler.Syntax.Expr

/-!
# Arithmetic

An operand is a 64-bit constant or a variable, read through all its pointers.  The result goes into the
slot of the assigned variable.  The whole module is rendered for the log beforehand, so an earlier branch
without a condition comes to light here.
-/

namespace BpfCompiler.Lower

open IR Syntax Emit

/-- Reads through pointers: `source` points to a value of the given type, and each load takes off one
pointer, until an `i64` comes out. -/
def chase : Ty → Operand → Emit Inst
  | .ptr t, source => do
    let i ← append (.load (.ptr t) source)
    chase t i.result
  | .int 64, source => append (.load (.int 64) source)
  | ty, source => do
    let _ ← append (.load ty source)
    throw (.notDereferenceable ty)

/-- Reads a variable through all its pointers. -/
def dereference (slot : Option Slot) : Emit Inst := do
  match slot with
  | some s => chase s.ty s.address
  | none => throw .absent

/-- An operand and how the log shows it. -/
def arithOperand (unsupported : Fault) : Expr → Emit (Operand × Text)
  | .name id => do
    match (← get).locals.get? id with
    | some slot => do
      let i ← dereference slot
      return (i.result, i.render)
    | none => throw (.undefinedVariable id)
  | .const value _ => do
    let o : Operand := .const Ty.i64 value
    return (o, o.typed)
  | _ => throw unsupported

/-- The instruction for an operator, if there is one. -/
def arithOf? : BinaryOp → Option Arith
  | .add => some .add
  | .sub => some .sub
  | .mult => some .mul
  | .div => some .sdiv
  | .mod => some .srem
  | .leftShift => some .shl
  | .rightShift => some .lshr
  | .bitOr => some .or
  | .bitXor => some .xor
  | .bitAnd => some .and
  | .floorDiv => some .udiv
  | .matMult | .pow => none

/-- Shows the module in the log, if it can be rendered. -/
def showModule : Emit Unit := do
  match (← get).wholeModule.fault? with
  | some f => throw (.unwritable f)
  | none => say "<module>"

/-- `target = left op right`. -/
def assignBinary (target : String) (left : Expr) (op : BinaryOp) (right : Expr) : Emit Unit := do
  showModule
  let (l, leftText) ← arithOperand .leftOperand left
  let (r, rightText) ← arithOperand .rightOperand right
  checkShown l
  checkShown r
  say (("left is " : Text) ++ leftText ++ ", right is " ++ rightText ++ ", op is <ast." ++ op.kind ++
    ">")
  match arithOf? op with
  | some a => assign target (some (← arith a l r))
  | none => throw .operator

/-- `target = e` for an expression that should be an operation; another one has no operands to take. -/
def assignOperation (target : String) : Expr → Emit Unit
  | .binary left op right => assignBinary target left op right
  | _ => do
    showModule
    throw .absent

end BpfCompiler.Lower
