import BpfCompiler.Lower.Helper

/-!
# Expressions as operands

An expression gives an operand or, if it is of no supported form, nothing; the log says why.
-/

namespace BpfCompiler.Lower

open IR Syntax Emit

/-- Reads through a variable once. -/
def derefCall : List Expr → Emit (Option Inst)
  | [.call (.name "deref") _ _] => do
    say "Multiple deref not supported"
    return none
  | [.name id] => do
    match (← get).locals.get? id with
    | some (some slot) => return some (← load (some slot))
    | some none =>
      say "Failed to evaluate deref argument"
      return none
    | none =>
      say ("Undefined variable " ++ id)
      return none
  | [_] => throw .absent
  | _ => do
    say "deref takes exactly one argument"
    return none

/-- The call `deref(args)` as an expression. -/
def evalDeref (args : List Expr) : Emit (Option Inst) := do
  say "Evaluating expression: <ast.Call>"
  say "Handling deref Call"
  derefCall args

def unsupported : Emit (Option Operand) := do
  say "Unsupported expression evaluation"
  return none

def evalConstant (value : Literal) : Emit (Option Operand) := do
  if value.isInteger then return some (.const Ty.i64 value)
  else
    say "Unsupported constant type"
    return none

def eval : Expr → Emit (Option Operand)
  | .call (.name id) args keywords => do
    if id = "deref" then return (← evalDeref args).map Inst.result
    else
      say "Evaluating expression: <ast.Call>"
      if (Helper.ofName? id).isSome then helperCall true (.call (.name id) args keywords)
      else unsupported
  | .call (.attribute (.call (.name map) mapArgs mapKeywords) method) args keywords => do
    say "Evaluating expression: <ast.Call>"
    if (Helper.ofName? method).isSome then
      helperCall true (.call (.attribute (.call (.name map) mapArgs mapKeywords) method) args keywords)
    else unsupported
  | e => do
    say ("Evaluating expression: <ast." ++ e.kind ++ ">")
    match e with
    | .name id => readName id
    | .const value _ => evalConstant value
    | _ => unsupported

end BpfCompiler.Lower
