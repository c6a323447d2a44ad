import BpfCompiler.Lower.Assignment
import BpfCompiler.Lower.Condition

/-!
# Statements

Statements are lowered in order into the current block.  A branch ends the block: its two suites get
blocks of their own, and both go on in the block behind the branch.  A return inside a branch gives a
64-bit value, whatever the function returns.
-/

namespace BpfCompiler.Lower

open IR Syntax Emit

/-- The call of a type name with one integer literal. -/
def typedLiteral? : Expr → Option (String × Literal)
  | .call (.name id) [arg] _ => arg.intLiteral?.map fun value => (id, value)
  | _ => none

/-- The operand of a return, for a function that returns `result`. -/
def returnOperand (result : Ty) : Option Expr → Except Fault Operand
  | none => .ok (Operand.int Ty.i32 0)
  | some (.name "XDP_PASS") => .ok (Operand.int result 2)
  | some (.name "XDP_DROP") => .ok (Operand.int result 1)
  | some (.name _) => .error .returnName
  | some e =>
    match typedLiteral? e with
    | some (id, value) => do
      let ty ← typeOfName id
      if ty.agrees result then return .const result value else throw (.returnMismatch ty id)
    | none => .error .returnValue

def lowerExpr (value : Expr) : Emit Unit := do
  say "Handling expression: Expr"
  match value with
  | .call .. => let _ ← eval value
  | _ => say "Unsupported expression type"

/-! ### Branches -/

/-- The blocks of a branch, each with its place and its label: one for the first suite, one behind the
branch, and one for the second suite if there is one. -/
structure Arms where
  thenBlock : Nat
  thenLabel : String
  endBlock : Nat
  endLabel : String
  other : Option (Nat × String)

/-- Where the branch goes when its test fails. -/
def Arms.otherwise (arms : Arms) : String := (arms.other.map Prod.snd).getD arms.endLabel

def makeArms (hasElse : Bool) : Emit Arms := do
  let (thenBlock, thenLabel) ← addBlock "if.then"
  let (endBlock, endLabel) ← addBlock "if.end"
  if hasElse then return ⟨thenBlock, thenLabel, endBlock, endLabel, some (← addBlock "if.else")⟩
  else return ⟨thenBlock, thenLabel, endBlock, endLabel, none⟩

/-- Ends the current block by a branch on a test. -/
def openBranch (test : Expr) (hasElse : Bool) : Emit Arms := do
  let arms ← makeArms hasElse
  let test ← condition test
  terminate (.condBranch test arms.thenLabel arms.otherwise)
  return arms

/-- Goes on in the given block, unless the current one has ended. -/
def joinAt (label : String) : Emit Unit := do
  if !(← get).block.isTerminated then terminate (.branch label)

/-- Lowers a suite into a block and goes on in the given one. -/
def fillBlock (place : Nat) (suite : Emit Unit) (label : String) : Emit Unit := do
  moveTo place
  suite
  joinAt label

/-! ### Statements -/

/-- Lowers a statement that is no branch and no return.  What has no meaning in a program is passed over,
except for an augmented assignment. -/
def lowerSimple (s : Stmt) : Emit Unit := do
  say ("Processing statement: " ++ s.kind)
  match s with
  | .expr value => lowerExpr value
  | .assign targets value => lowerAssign targets value
  | .augAssign .. => throw .augmentedAssignment
  | _ => pure ()

mutual

/-- Lowers a statement; the answer tells whether the function has returned, `returned` included. -/
def lowerStmt (result : Ty) (returned : Bool) : Stmt → Emit Bool
  | .cond test body orelse => do
    say "Processing statement: If"
    say "Handling if statement"
    let arms ← openBranch test (!orelse.isEmpty)
    fillBlock arms.thenBlock (lowerSuite body) arms.endLabel
    match arms.other with
    | some (elseBlock, _) => fillBlock elseBlock (lowerSuite orelse) arms.endLabel
    | none => pure ()
    moveTo arms.endBlock
    return returned
  | .ret value => do
    say "Processing statement: Return"
    terminate (.ret (← (returnOperand result value : Except Fault _)))
    return true
  | s => do
    lowerSimple s
    return returned

/-- Lowers a nested suite. -/
def lowerSuite : List Stmt → Emit Unit
  | [] => return ()
  | s :: rest => do
    let _ ← lowerStmt Ty.i64 false s
    lowerSuite rest

end

/-- Lowers the body of a function in order. -/
def lowerBody (result : Ty) : Bool → List Stmt → Emit Bool
  | returned, [] => return returned
  | returned, s :: rest => do
    let returned ← lowerStmt result returned s
    lowerBody result returned rest

end BpfCompiler.Lower
