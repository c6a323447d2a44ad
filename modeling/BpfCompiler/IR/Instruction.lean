import BpfCompiler.IR.Value

/-!
# Instructions

One inductive type for the instructions that the compiler emits.  Every instruction has a name; it is
printed only if the instruction has a result.
-/

namespace BpfCompiler.IR

inductive Arith where
  | add | sub | mul | sdiv | udiv | srem | shl | lshr | or | xor | and
deriving DecidableEq, Inhabited

def Arith.mnemonic : Arith → String
  | .add => "add" | .sub => "sub" | .mul => "mul" | .sdiv => "sdiv" | .udiv => "udiv"
  | .srem => "srem" | .shl => "shl" | .lshr => "lshr" | .or => "or" | .xor => "xor" | .and => "and"

/-- The signed comparisons. -/
inductive Predicate where
  | eq | ne | slt | sle | sgt | sge
deriving DecidableEq, Inhabited

def Predicate.mnemonic : Predicate → String
  | .eq => "eq" | .ne => "ne" | .slt => "slt" | .sle => "sle" | .sgt => "sgt" | .sge => "sge"

inductive Cast where
  | sext | ptrToInt | intToPtr
deriving DecidableEq, Inhabited

def Cast.mnemonic : Cast → String
  | .sext => "sext" | .ptrToInt => "ptrtoint" | .intToPtr => "inttoptr"

inductive Op where
  | alloca (ty : Ty) (align : Option Nat)
  /-- `ty` is the type of the value that is read. -/
  | load (ty : Ty) (source : Operand)
  | store (value slot : Operand)
  | arith (op : Arith) (lhs rhs : Operand)
  | icmp (predicate : Predicate) (lhs rhs : Operand)
  | cast (kind : Cast) (value : Operand) (target : Ty)
  /-- A call of the function that `callee` points to, of the given type. -/
  | call (tail : Bool) (result : Ty) (params : List Ty) (variadic : Bool) (callee : Operand)
      (args : List Operand)
  | branch (target : String)
  /-- A branch whose condition may be missing; such a branch cannot be printed. -/
  | condBranch (condition : Option Operand) (yes no : String)
  | ret (value : Operand)
deriving DecidableEq, Inhabited

namespace Op

def isTerminator : Op → Bool
  | .branch _ | .condBranch .. | .ret _ => true
  | _ => false

/-- The type of the result, if there is one. -/
def result? : Op → Option Ty
  | .alloca ty _ => some (.ptr ty)
  | .load ty _ => some ty
  | .arith _ lhs _ => some lhs.ty
  | .icmp .. => some Ty.i1
  | .cast _ _ target => some target
  | .call _ result .. => some result
  | _ => none

/-- The operands that the instruction reads, in the order in which they print. -/
def operands : Op → List Operand
  | .alloca .. => []
  | .load _ source => [source]
  | .store value slot => [value, slot]
  | .arith _ lhs rhs => [lhs, rhs]
  | .icmp _ lhs rhs => [lhs, rhs]
  | .cast _ value _ => [value]
  | .call _ _ _ _ callee args => callee :: args
  | .branch _ => []
  | .condBranch condition _ _ => condition.toList
  | .ret value => [value]

def label (name : String) : Text := "label %" ++ quotedName name

def render : Op → Text
  | .alloca ty align =>
    "alloca " ++ ty.render ++ (align.map fun n => ", align " ++ toString n).getD ""
  | .load ty source => ("load " : Text) ++ ty.render ++ ", " ++ source.typed
  | .store value slot => ("store " : Text) ++ value.typed ++ ", " ++ slot.typed
  | .arith op lhs rhs => (op.mnemonic : Text) ++ " " ++ lhs.typed ++ ", " ++ rhs.ref
  | .icmp predicate lhs rhs =>
    ("icmp " : Text) ++ predicate.mnemonic ++ " " ++ lhs.typed ++ ", " ++ rhs.ref
  | .cast kind value target => (kind.mnemonic : Text) ++ " " ++ value.typed ++ " to " ++ target.render
  | .call tail result params variadic callee args =>
    let shown := if variadic then (Ty.func result params variadic).render else result.render
    (if tail then "tail call " else "call " : String) ++ shown ++ " " ++ callee.ref ++ "(" ++
      Text.join ", " (args.map Operand.typed) ++ ")"
  | .branch target => "br " ++ label target
  | .condBranch condition yes no =>
    ("br " : Text) ++ (condition.map Operand.typed).getD "" ++ ", " ++ label yes ++ ", " ++ label no
  | .ret value => ("ret " : Text) ++ value.typed

def fault? : Op → Option RenderFault
  | .condBranch none _ _ => some .missingCondition
  | op => op.operands.findSome? Operand.fault?

end Op

structure Inst where
  name : String
  op : Op
deriving DecidableEq, Inhabited

namespace Inst

/-- The blanks that are cut off the end of an instruction. -/
def isBlank (p : CodePoint) : Bool :=
  let n := p.val
  (0x09 ≤ n && n ≤ 0x0D) || (0x1C ≤ n && n ≤ 0x20) || n == 0x85 || n == 0xA0 || n == 0x1680 ||
    (0x2000 ≤ n && n ≤ 0x200A) || n == 0x2028 || n == 0x2029 || n == 0x202F || n == 0x205F ||
    n == 0x3000

def trimEnd (t : Text) : Text := ⟨(t.points.reverse.dropWhile isBlank).reverse⟩

def render (i : Inst) : Text :=
  match i.op.result? with
  | some _ => trimEnd ("%" ++ quotedName i.name ++ " = " ++ i.op.render)
  | none => trimEnd i.op.render

/-- The result as an operand of later instructions. -/
def result (i : Inst) : Operand := .local i.name (i.op.result?.getD Ty.i64)

end Inst

end BpfCompiler.IR
