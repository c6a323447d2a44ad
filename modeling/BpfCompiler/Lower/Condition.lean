import BpfCompiler.Lower.Expression

/-!
# Conditions

The test of a branch as an `i1`.  A test of no supported form gives nothing; the branch is still made, and
the module then cannot be written.
-/

namespace BpfCompiler.Lower

open IR Syntax Emit

/-- The signed comparison for an operator. -/
def predicateOf? : CompareOp → Option Predicate
  | .eq => some .eq
  | .notEq => some .ne
  | .lt => some .slt
  | .ltEq => some .sle
  | .gt => some .sgt
  | .gtEq => some .sge
  | .is | .isNot | .in | .notIn => none

/-- The zero that a value is compared with. -/
def zeroOf (ty : Ty) : Operand :=
  if ty.isPointer then .const ty .none else Operand.int ty 0

/-- Whether the value of a variable is not zero. -/
def isNonzero (id : String) : Emit (Option Operand) := do
  match (← get).locals.get? id with
  | some slot =>
    let value := (← load slot).result
    if value.ty = Ty.i1 then return some value
    else return some (← compare .ne value (zeroOf value.ty))
  | none =>
    say ("Undefined variable " ++ id ++ " in condition")
    return none

/-- Two operands of one type: the narrower of two integers is extended by its sign. -/
def balance (lhs rhs : Operand) : Emit (Option (Operand × Operand)) := do
  if lhs.ty.agrees rhs.ty then return some (lhs, rhs)
  else
    match lhs.ty, rhs.ty with
    | .int m, .int n =>
      if m < n then return some (← cast .sext lhs (.int n), rhs)
      else return some (lhs, ← cast .sext rhs (.int m))
    | _, _ => return none

def comparison (op : CompareOp) (lhs rhs : Operand) : Emit (Option Operand) := do
  match ← balance lhs rhs with
  | none =>
    say "Type mismatch in comparison"
    return none
  | some (l, r) =>
    match predicateOf? op with
    | some predicate => return some (← compare predicate l r)
    | none =>
      say "Unsupported comparison operator"
      return none

def truthOf (b : Bool) : Operand := Operand.int Ty.i1 (if b then 1 else 0)

def condition : Expr → Emit (Option Operand)
  | .const value _ => do
    match value.toInt? with
    | some n => return some (truthOf (n != 0))
    | none =>
      say "Unsupported constant type in condition"
      return none
  | .name id => isNonzero id
  | .compare left [(op, right)] => do
    let lhs ← eval left
    let rhs ← eval right
    match lhs, rhs with
    | some l, some r => comparison op l r
    | _, _ => throw .absent
  | .compare left _ => do
    let _ ← eval left
    say "Unsupported complex comparison"
    return none
  | _ => do
    say "Unsupported condition expression"
    return none

end BpfCompiler.Lower
