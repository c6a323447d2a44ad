import BpfCompiler.Lower.Arithmetic
import BpfCompiler.Lower.Expression
import BpfCompiler.Lower.TypeName
import BpfCompiler.Syntax.Stmt

/-!
# Assignments and the slots they need

Every variable lives in a slot that is made at the start of the function.  `allocate` makes the slots by a
walk over the whole body, and `lowerAssign` later stores into them; the two look at the form of the
right-hand side in the same way.
-/

namespace BpfCompiler.Lower

open IR Syntax Emit

/-! ### Slots -/

/-- The slot that an assignment asks for: its type, its alignment and what the log calls it. -/
structure SlotRequest where
  ty : Ty
  align : Option Nat
  purpose : String

/-- What an assignment does to the table of variables. -/
inductive SlotPlan where
  | fresh (request : SlotRequest)
  /-- The variable takes the slot that was made last. -/
  | reuse
  | skip (reason : String)

def wordSlot (purpose : String) : SlotPlan := .fresh ⟨Ty.i64, some 8, purpose⟩

def integerType? (name : String) : Option (Nat × String) :=
  if integerTypeNames.contains name then
    match typeNames.lookup name with
    | some (.int width) => some (width, name)
    | _ => none
  else none

def slotPlan : Expr → SlotPlan
  | .call (.name id) args _ =>
    match integerType? id with
    | some (width, name) => .fresh ⟨.int width, some (width / 8), "of type " ++ name⟩
    | none =>
      if (Helper.ofName? id).isSome then wordSlot "for helper"
      else if id = "deref" ∧ args.length = 1 then wordSlot "for deref"
      else .reuse
  | .call (.attribute ..) _ _ => .fresh ⟨.ptr Ty.i64, none, "for map"⟩
  | .call .. => .skip "Unsupported assignment call function type"
  | .const (.bool _) _ => .fresh ⟨Ty.i1, some 1, "of type c_bool"⟩
  | .const (.int _) _ => wordSlot "of type c_int64"
  | .const .. => .skip "Unsupported constant type"
  | .binary .. => wordSlot "of type c_int64"
  | _ => .skip "Unsupported assignment value type"

def bindSlot (name : String) (slot : Slot) : Emit Unit :=
  modify fun f => { f with locals := f.locals.insert name (some slot) }

/-- Makes the slot of one assignment; `last` is the slot that the suite made last. -/
def allocateAssign (last : Option Slot) : List Expr → Expr → Emit (Option Slot)
  | [.name id], value => do
    match slotPlan value with
    | .fresh request =>
      let slot ← alloca id request.ty request.align
      say ("Pre-allocated variable " ++ id ++ " " ++ request.purpose)
      bindSlot id slot
      return some slot
    | .reuse =>
      match last with
      | some slot =>
        bindSlot id slot
        return last
      | none => throw .unsetSlot
    | .skip reason =>
      say reason
      return last
  | [_], _ => do
    say "Unsupported assignment target"
    return last
  | _, _ => do
    say "Unsupported multiassignment"
    return last

mutual

def allocateStmt (last : Option Slot) : Stmt → Emit (Option Slot)
  | .cond _ body orelse => do
    allocateSuite none body
    allocateSuite none orelse
    return last
  | .assign targets value => allocateAssign last targets value
  | _ => return last

def allocateSuite (last : Option Slot) : List Stmt → Emit Unit
  | [] => return ()
  | s :: rest => do
    let last ← allocateStmt last s
    allocateSuite last rest

end

/-- Makes the slots for all assignments of a suite, those in nested suites included. -/
def allocate (body : List Stmt) : Emit Unit := allocateSuite none body

/-! ### Stores -/

/-- The operand that a constant is stored as; only truth values and integers are. -/
def constantOperand? : Literal → Option Operand
  | .bool b => some (Operand.int Ty.i1 (if b then 1 else 0))
  | .int n => some (Operand.int Ty.i64 n)
  | _ => none

def assignConstant (target : String) (value : Literal) : Emit Unit := do
  match constantOperand? value with
  | some o =>
    assign target (some o)
    checkShown o
    say (("Assigned constant " : Text) ++ value.shown ++ " to " ++ target)
  | none => say "Unsupported constant type"

def assignDeref (target : String) (args : List Expr) : Emit Unit := do
  say "Handling deref assignment Call"
  match ← evalDeref args with
  | none => say "Failed to evaluate deref argument"
  | some i =>
    say (("Dereferenced value: " : Text) ++ i.render ++ ", storing in " ++ target)
    assign target (some i.result)
    say ("Dereferenced and assigned to " ++ target)

/-- The integer literal that a call with one argument converts. -/
def soleLiteral? : List Expr → Option Literal
  | [e] => e.intLiteral?
  | _ => none

def assignCall (target id : String) (args : List Expr) : Emit Unit := do
  say ("Assignment call type: " ++ id)
  match integerType? id, soleLiteral? args with
  | some (width, _), some value =>
    let o : Operand := .const (.int width) value
    assign target (some o)
    checkShown o
    say (("Assigned " ++ id ++ " constant " : String) ++ value.shown ++ " to " ++ target)
  | _, _ =>
    match Helper.ofName? id with
    | some helper =>
      assign target (← callPlain false helper args)
      say ("Assigned constant " ++ id ++ " to " ++ target)
    | none =>
      if id = "deref" ∧ args.length = 1 then assignDeref target args
      else say ("Unsupported assignment call type: " ++ id)

def assignMethod (target map method : String) (args : List Expr) : Emit Unit := do
  match (← get).workspace.maps.get? map, Helper.ofName? method with
  | some address, some helper => assign target (← callMethod address helper args)
  | _, _ => return ()

def assignValue (target : String) : Expr → Emit Unit
  | .const value _ => assignConstant target value
  | .call (.name id) args _ => assignCall target id args
  | .call (.attribute (.call (.name map) _ _) method) args _ => assignMethod target map method args
  | .call (.attribute ..) _ _ => say "Unsupported assignment call structure"
  | .call .. => say "Unsupported assignment call function type"
  | .binary left op right => assignBinary target left op right
  | _ => say "Unsupported assignment value type"

def lowerAssign : List Expr → Expr → Emit Unit
  | [.name id], value => assignValue id value
  | [_], _ => say "Unsupported assignment target"
  | _, _ => say "Unsupported multiassignment"

end BpfCompiler.Lower
