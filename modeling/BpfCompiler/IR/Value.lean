import BpfCompiler.IR.Type
import BpfCompiler.Syntax.Literal

/-!
# Operands

What an instruction works on: a constant with its type, the result of an instruction or an argument, or
the address of a global.  A constant keeps the literal it was made from; nothing checks that the literal
fits the type, and it prints as the literal is shown.
-/

namespace BpfCompiler.IR

/-- A name between quotes; only the backslash and the quote are escaped. -/
def quotedName (name : String) : String :=
  let escape (c : Char) : String :=
    if c == '\\' then "\\5c" else if c == '\x22' then "\\22" else String.singleton c
  "\"" ++ String.join (name.toList.map escape) ++ "\""

/-- Why a module cannot be written out. -/
inductive RenderFault where
  /-- A conditional branch without a condition. -/
  | missingCondition
  /-- A constant too large for a double. -/
  | constantOverflow
  /-- A constant too large to be rounded to single precision. -/
  | singleOverflow
  /-- An integer with more digits than are ever shown. -/
  | longNumber
  /-- A bare number where a metadata list wants a value. -/
  | bareNumber
  /-- A field of a kind that debug information has no form for. -/
  | unsupportedField
  /-- A text with no UTF-8 form. -/
  | surrogate
deriving DecidableEq, Inhabited

inductive Operand where
  | const (ty : Ty) (value : Literal)
  | local (name : String) (ty : Ty)
  | global (name : String) (ty : Ty)
deriving DecidableEq, Inhabited

namespace Operand

def ty : Operand → Ty
  | .const ty _ => ty
  | .local _ ty => ty
  | .global _ ty => ty

/-- An integer constant. -/
def int (ty : Ty) (n : Int) : Operand := .const ty (.int n)

/-- The bits of a double in hexadecimal, padded on the left to sixteen characters. -/
def doubleBits (d : Double) : String :=
  let digits := "0x" ++ String.ofList (Nat.toDigits 16 d.bits.toNat)
  String.ofList (List.replicate (16 - digits.length) ' ') ++ digits

/-- The double that a constant of a floating point type holds. -/
def floatValue? (ty : Ty) (value : Literal) : Option Double := do
  let d ← match value with
    | .float d => some d
    | v => v.toInt?.bind Double.ofInt?
  return if ty == .float then d.toSingle else d

def constRef (ty : Ty) (value : Literal) : Text :=
  match ty with
  | .float | .double => ((floatValue? ty value).map doubleBits).getD ""
  | .ptr _ => if value == .none then "null" else value.shown
  | _ =>
    match value with
    | .bool b => if b then "true" else "false"
    | .none => "0"
    | v => v.shown

/-- The operand as an instruction refers to it. -/
def ref : Operand → Text
  | .const ty value => constRef ty value
  | .local name _ => "%" ++ quotedName name
  | .global name _ => "@" ++ quotedName name

/-- The operand behind its type. -/
def typed (o : Operand) : Text := o.ty.render ++ " " ++ o.ref

def fault? : Operand → Option RenderFault
  | .const ty value =>
    match ty with
    | .float => if (floatValue? ty value).isNone then some .singleOverflow else none
    | .double => if (floatValue? ty value).isNone then some .constantOverflow else none
    | _ => if value.canShow then none else some .longNumber
  | _ => none

end Operand

end BpfCompiler.IR
