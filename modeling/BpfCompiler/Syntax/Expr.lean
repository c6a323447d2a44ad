import BpfCompiler.Syntax.Literal

/-!
# Expressions

The expressions of the source language, as its grammar builds them.  Parentheses leave no trace,
a negative number is a sign applied to a literal, and a chain of comparisons is one node.
-/

namespace BpfCompiler.Syntax

inductive BinaryOp where
  | add | sub | mult | matMult | div | mod | pow | leftShift | rightShift
  | bitOr | bitXor | bitAnd | floorDiv
deriving DecidableEq, Inhabited

inductive UnaryOp where
  | invert | not | plus | minus
deriving DecidableEq, Inhabited

inductive CompareOp where
  | eq | notEq | lt | ltEq | gt | gtEq | is | isNot | in | notIn
deriving DecidableEq, Inhabited

inductive BoolOp where
  | and | or
deriving DecidableEq, Inhabited

/-- The name of an operator's node kind. -/
def BinaryOp.kind : BinaryOp → String
  | .add => "Add" | .sub => "Sub" | .mult => "Mult" | .matMult => "MatMult" | .div => "Div"
  | .mod => "Mod" | .pow => "Pow" | .leftShift => "LShift" | .rightShift => "RShift"
  | .bitOr => "BitOr" | .bitXor => "BitXor" | .bitAnd => "BitAnd" | .floorDiv => "FloorDiv"

inductive ParamKind where
  | positionalOnly | regular | variadic | keywordOnly | keywords
deriving DecidableEq, Inhabited

/-- One parameter of a function; `variadic` and `keywords` are the two that collect the rest. -/
structure Param (ε : Type) where
  kind : ParamKind
  name : String
  annotation : Option ε
  default : Option ε

/-- One `for … in … if …` part of a comprehension. -/
structure Clause (ε : Type) where
  isAsync : Bool
  target : ε
  source : ε
  conditions : List ε

inductive Expr where
  | name (id : String)
  /-- `marked` records the letter that marks a plain text literal, which printing keeps. -/
  | const (value : Literal) (marked : Bool)
  /-- A text with holes: constants and `formatted` values. -/
  | joined (parts : List Expr)
  | formatted (value : Expr) (conversion : Option Char) (spec : Option Expr)
  | attribute (value : Expr) (attr : String)
  | call (func : Expr) (args : List Expr) (keywords : List (Option String × Expr))
  | subscript (value index : Expr)
  | slice (lower upper step : Option Expr)
  | starred (value : Expr)
  | unary (op : UnaryOp) (operand : Expr)
  | binary (left : Expr) (op : BinaryOp) (right : Expr)
  | compare (left : Expr) (rest : List (CompareOp × Expr))
  | bool (op : BoolOp) (values : List Expr)
  | conditional (test body orelse : Expr)
  | lambda (params : List (Param Expr)) (body : Expr)
  | named (target value : Expr)
  | list (elements : List Expr)
  | tuple (elements : List Expr)
  | set (elements : List Expr)
  /-- An item without a key unpacks another mapping. -/
  | dict (items : List (Option Expr × Expr))
  | listComp (element : Expr) (clauses : List (Clause Expr))
  | setComp (element : Expr) (clauses : List (Clause Expr))
  | generator (element : Expr) (clauses : List (Clause Expr))
  | dictComp (key value : Expr) (clauses : List (Clause Expr))
  | await (value : Expr)
  | yield (value : Option Expr)
  | yieldFrom (value : Expr)

namespace Expr

instance : Inhabited Expr := ⟨.name ""⟩

def ofLiteral (l : Literal) : Expr := .const l false

/-- The name of the expression's node kind, as the log shows it. -/
def kind : Expr → String
  | .name _ => "Name"
  | .const .. => "Constant"
  | .joined _ => "JoinedStr"
  | .formatted .. => "FormattedValue"
  | .attribute .. => "Attribute"
  | .call .. => "Call"
  | .subscript .. => "Subscript"
  | .slice .. => "Slice"
  | .starred _ => "Starred"
  | .unary .. => "UnaryOp"
  | .binary .. => "BinOp"
  | .compare .. => "Compare"
  | .bool .. => "BoolOp"
  | .conditional .. => "IfExp"
  | .lambda .. => "Lambda"
  | .named .. => "NamedExpr"
  | .list _ => "List"
  | .tuple _ => "Tuple"
  | .set _ => "Set"
  | .dict _ => "Dict"
  | .listComp .. => "ListComp"
  | .setComp .. => "SetComp"
  | .generator .. => "GeneratorExp"
  | .dictComp .. => "DictComp"
  | .await _ => "Await"
  | .yield _ => "Yield"
  | .yieldFrom _ => "YieldFrom"

/-- The integer literal that an expression is; truth values count. -/
def intLiteral? : Expr → Option Literal
  | .const l _ => if l.isInteger then some l else none
  | _ => none

/-- The text literal that an expression is. -/
def textLiteral? : Expr → Option Text
  | .const (.text t) _ => some t
  | _ => none

/-- The name that an expression is. -/
def name? : Expr → Option String
  | .name id => some id
  | _ => none

end Expr

end BpfCompiler.Syntax
