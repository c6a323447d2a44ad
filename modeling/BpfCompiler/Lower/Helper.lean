import BpfCompiler.Lower.Frame
import BpfCompiler.Syntax.Expr

/-!
# Helper calls

The helper functions of the kernel are called through their number, cast to a pointer to a function.
`ktime`, `pid` and `print` are plain functions; `lookup`, `update` and `delete` are methods of a map and
take a key that is a variable or, for the last two, an integer constant put into a slot of its own.

`print` writes its text into a global of its own.  A text with holes passes at most three of them on.
-/

namespace BpfCompiler.Lower

open IR Syntax Emit

inductive Helper where
  | lookup | print | ktime | update | delete | pid
deriving DecidableEq, Inhabited

namespace Helper

def ofName? : String → Option Helper
  | "lookup" => some .lookup
  | "print" => some .print
  | "ktime" => some .ktime
  | "update" => some .update
  | "delete" => some .delete
  | "pid" => some .pid
  | _ => none

end Helper

/-- The type of a kernel function. -/
structure Signature where
  number : Nat
  result : Ty
  params : List Ty
  variadic : Bool

namespace Signature

def lookup : Signature := ⟨1, Ty.bytePtr, [Ty.bytePtr, Ty.bytePtr], false⟩

def update : Signature := ⟨2, Ty.i64, [Ty.bytePtr, Ty.bytePtr, Ty.bytePtr, Ty.i64], false⟩

def delete : Signature := ⟨3, Ty.i64, [Ty.bytePtr, Ty.bytePtr], false⟩

def ktime : Signature := ⟨5, Ty.i64, [], false⟩

def printk : Signature := ⟨6, Ty.i64, [Ty.bytePtr, Ty.i32], true⟩

def pidTgid : Signature := ⟨14, Ty.i64, [], false⟩

def ty (s : Signature) : Ty := .func s.result s.params s.variadic

/-- Whether the arguments for the fixed parameters have the right types. -/
def accepts (s : Signature) (args : List Operand) : Bool :=
  s.params.length ≤ args.length && (s.params.zip args).all fun (p, a) => a.ty.agrees p

end Signature

/-- Calls a kernel function; only variadic ones are called in tail position. -/
def callKernel (s : Signature) (args : List Operand) : Emit Operand := do
  let callee ← append (.cast .intToPtr (Operand.int Ty.i64 s.number) (.ptr s.ty))
  if s.accepts args then
    return (← append (.call s.variadic s.result s.params s.variadic callee.result args)).result
  else throw .callMismatch

/-! ### Map methods -/

/-- The slot that a key or a value stands in. -/
def argumentSlot (method : KeyMethod) (role : Role) (e : Expr) : Emit (Option Slot) := do
  match e.name?, e.intLiteral? with
  | some id, _ =>
    match (← get).locals.get? id with
    | some slot => return slot
    | none => throw (.undefinedRole role id)
  | none, some value =>
    if method = .lookup then
      let _ ← alloca "" Ty.i64 none
      throw .slotAlignment
    else
      let slot ← alloca "" Ty.i64 (some 8)
      store (some (.const Ty.i64 value)) (some slot)
      return some slot
  | none, none => throw (.unsupportedRole method role)

/-- The flags of an update, zero if there are none. -/
def flagsOperand : Option Expr → Emit Operand
  | none => return Operand.int Ty.i64 0
  | some e => do
    match e.intLiteral?, e.name? with
    | some value, _ => return .const Ty.i64 value
    | none, some id =>
      match (← get).locals.get? id with
      | some slot => return (← load slot).result
      | none => throw (.undefinedRole .flags id)
    | none, none => throw (.unsupportedRole .update .flags)

def lookupCall (map : Operand) : List Expr → Emit Operand
  | [] => throw .noArgument
  | [key] => do
    match ← argumentSlot .lookup .key key with
    | some slot => callKernel .lookup [map, slot.address]
    | none => throw (.missingPointer .lookup)
  | args => throw (.argumentCount .lookup args.length)

def deleteCall (map : Operand) : List Expr → Emit Operand
  | [key] => do
    match ← argumentSlot .delete .key key with
    | some slot => callKernel .delete [map, slot.address]
    | none => throw (.missingPointer .delete)
  | args => throw (.argumentCount .delete args.length)

def updateWith (map : Operand) (key value : Expr) (flags : Option Expr) : Emit Operand := do
  let keySlot ← argumentSlot .update .key key
  let valueSlot ← argumentSlot .update .value value
  let flags ← flagsOperand flags
  match keySlot, valueSlot with
  | some k, some v => callKernel .update [map, k.address, v.address, flags]
  | _, _ => throw (.missingPointer .update)

def updateCall (map : Operand) : List Expr → Emit Operand
  | [key, value] => updateWith map key value none
  | [key, value, flags] => updateWith map key value (some flags)
  | args => throw (.argumentCount .update args.length)

/-! ### Plain functions -/

def ktimeCall : Emit Operand := callKernel .ktime []

/-- The process number is the lower half of what the kernel gives. -/
def pidCall : Emit Operand := do
  let both ← callKernel .pidTgid []
  arith .and both (Operand.int Ty.i64 0xFFFFFFFF)

/-! ### Printing -/

/-- Reads a variable; one without an entry gives no value. -/
def readName (id : String) : Emit (Option Operand) := do
  match (← get).locals.get? id with
  | some slot => return some (← load slot).result
  | none =>
    say ("Undefined variable " ++ id)
    return none

/-- Takes a name in the scope of the module. -/
def claimGlobal (name : String) : Emit Unit := do
  match (← get).workspace.module.scope.claim? name with
  | some scope =>
    modify fun f =>
      let m := { f.workspace.module with scope := scope }
      { f with workspace := { f.workspace with module := m } }
  | none => throw (.duplicateName name)

def pushGlobal (v : Variable) : Emit Unit :=
  modify fun f =>
    let m := f.workspace.module
    let m := { m with globals := m.globals ++ [.variable v] }
    { f with workspace := { f.workspace with module := m } }

/-- The name of a format string, from the function and how many it made before. -/
def formatName (function : String) (count : Nat) : String := function ++ "____fmt" ++ toString count

/-- Puts a text, a line feed and a zero into a global of their own; the result is its address and the
number of characters.  A text without a UTF-8 form leaves a global that is only declared. -/
def formatGlobal (text : Text) : Emit (Operand × Nat) := do
  let full := text ++ "\n\x00"
  let fn := (← get).fn
  let name := formatName fn.name fn.formats
  modify fun f => { f with fn := { f.fn with formats := f.fn.formats + 1 } }
  claimGlobal name
  let declared : Variable :=
    ⟨name, .array full.length Ty.i8, "", true, none, "", none, none⟩
  match full.utf8? with
  | some data =>
    let v := { declared with linkage := "internal", initializer := some (.bytes data), align := some 1 }
    pushGlobal v
    return ((Global.variable v).address, full.length)
  | none =>
    pushGlobal declared
    throw .noEncoding

/-- What stands in a hole: a variable, or a constant that was written there by hand. -/
inductive Hole where
  | variable (id : String)
  | constant (value : Literal)

def partOf : Expr → Except Fault (Text × Option Hole)
  | .const (.text t) _ => .ok (t, none)
  | .const value _ =>
    if value.isInteger then .ok ("%lld", some (.constant value)) else .error .formatConstant
  | .formatted (.name id) _ _ => .ok ("%lld", some (.variable id))
  | .formatted .. => .error .formatValue
  | _ => .error .formatPart

/-- The format and the holes of a text. -/
def formatParts (parts : List Expr) : Except Fault (Text × List Hole) := do
  let parts ← parts.mapM partOf
  return (Text.concat (parts.map Prod.fst), parts.filterMap Prod.snd)

def evalHole : Hole → Emit (Option Operand)
  | .variable id => do
    say "Evaluating expression: <ast.Name>"
    readName id
  | .constant value => do
    let o : Operand := .const Ty.i64 value
    checkShown o
    say (("Evaluating expression: " : Text) ++ o.typed)
    say "Unsupported expression evaluation"
    return none

/-- A hole as a 64-bit argument; what cannot be one becomes zero. -/
def holeArgument (hole : Hole) : Emit Operand := do
  match ← evalHole hole with
  | some value =>
    match value.ty with
    | .ptr _ => cast .ptrToInt value Ty.i64
    | .int width => if width < 64 then cast .sext value Ty.i64 else return value
    | _ =>
      say ("Warning: Only integer and pointer types are supported in bpf_printk arguments. " ++
        "Others will be converted to 0.")
      return Operand.int Ty.i64 0
  | none =>
    say ("Warning: Failed to evaluate expression for bpf_printk argument. " ++
      "It will be converted to 0.")
    return Operand.int Ty.i64 0

/-- Prints a text with holes. -/
def printParts (parts : List Expr) : Emit Operand := do
  let (format, holes) ← (formatParts parts : Except Fault _)
  let (address, length) ← formatGlobal format
  if holes.length > 3 then
    say ("Warning: bpf_printk supports up to 3 arguments, extra arguments will be ignored.")
  let values ← (holes.take 3).mapM holeArgument
  callKernel .printk (address :: Operand.int Ty.i32 length :: values)

/-- Prints a plain text. -/
def printText (text : Text) : Emit Unit := do
  let (address, length) ← formatGlobal text
  let _ ← callKernel .printk [address, Operand.int Ty.i32 length]

/-- Prints either one text with holes, or every plain text among the arguments. -/
def printCall : List Expr → Emit (Option Operand)
  | [] => throw .nothingToPrint
  | .joined parts :: _ => return some (← printParts parts)
  | args => do
    (args.filterMap Expr.textLiteral?).forM printText
    return none

/-! ### Dispatch -/

/-- Calls a plain function.  A direct assignment has no function to hang format strings on. -/
def callPlain (canPrint : Bool) (helper : Helper) (args : List Expr) : Emit (Option Operand) := do
  match helper with
  | .ktime => return some (← ktimeCall)
  | .pid => return some (← pidCall)
  | .print => if canPrint then printCall args else throw .absent
  | .lookup | .update | .delete => throw .tooManyArguments

/-- Calls a method of a map. -/
def callMethod (map : Operand) (helper : Helper) (args : List Expr) : Emit (Option Operand) := do
  match helper with
  | .lookup => return some (← lookupCall map args)
  | .update => return some (← updateCall map args)
  | .delete => return some (← deleteCall map args)
  | .ktime => return some (← ktimeCall)
  | .pid => return some (← pidCall)
  | .print => throw .absent

/-- The helper call that an expression is. -/
def helperCall (canPrint : Bool) : Expr → Emit (Option Operand)
  | .call (.name id) args _ =>
    match Helper.ofName? id with
    | some helper => callPlain canPrint helper args
    | none => throw (.unknownHelper id)
  | .call (.attribute (.call (.name map) _ _) method) args _ => do
    match (← get).workspace.maps.get? map with
    | some address =>
      match Helper.ofName? method with
      | some helper => callMethod address helper args
      | none => throw (.unknownMethod method)
    | none => throw (.unknownMap map)
  | .call (.attribute ..) _ _ => throw .methodTarget
  | .call .. => return none
  | _ => throw .absent

end BpfCompiler.Lower
