import BpfCompiler.Syntax.Expr

/-!
# Nesting of expressions

How deeply an expression is nested.  A part lies three steps below the expression it belongs to;
the items of a bracket lie a step or more deeper, since a list stands between, and so does what
stands behind a keyword, in a clause or in a hole.  Names and literals are at depth zero, and the
nesting is the greatest number of steps that lead to one of them.

A step stands for a nested call of the interpreter that writes the expression out, and `nestingLimit` for
what its recursion limit leaves to the writing.  The same limit also holds where a syntax tree is dumped
to the log and where the compiler itself descends into a program.  Those two are left out: here both have
all the depth they need.
-/

namespace BpfCompiler.Syntax.Expr

mutual

/-- The number of steps from an expression down to its deepest part. -/
def nesting : Expr → Nat
  | .name _ | .const .. => 0
  | .joined parts => nestingBelow 3 parts
  | .formatted value _ spec => max (4 + nesting value) (nestingOptional 0 spec)
  | .attribute value _ => 3 + nesting value
  | .call func args keywords =>
    max (3 + nesting func) (max (nestingBelow 3 args) (nestingKeywords keywords))
  | .subscript value (.tuple [e]) => max (3 + nesting value) (4 + nesting e)
  | .subscript value (.tuple elements) => max (3 + nesting value) (nestingBelow 5 elements)
  | .subscript value index => 3 + max (nesting value) (nesting index)
  | .slice lower upper step =>
    max (nestingOptional 3 lower) (max (nestingOptional 3 upper) (nestingOptional 3 step))
  | .starred value => 3 + nesting value
  | .unary _ operand => 3 + nesting operand
  | .binary left _ right => 3 + max (nesting left) (nesting right)
  | .compare left rest => max (3 + nesting left) (nestingCompared rest)
  | .bool _ values => nestingBelow 5 values
  | .conditional test body orelse => 3 + max (nesting test) (max (nesting body) (nesting orelse))
  | .lambda params body => max (nestingParams params) (3 + nesting body)
  | .named target value => 3 + max (nesting target) (nesting value)
  | .list elements | .set elements => nestingBelow 4 elements
  | .tuple [e] => 4 + nesting e
  | .tuple elements => nestingBelow 5 elements
  | .dict items => nestingItems items
  | .listComp element clauses | .setComp element clauses | .generator element clauses =>
    max (3 + nesting element) (nestingClauses clauses)
  | .dictComp key value clauses =>
    max (3 + max (nesting key) (nesting value)) (nestingClauses clauses)
  | .await value | .yieldFrom value => 3 + nesting value
  | .yield value => nestingOptional 3 value

/-- The nesting of a list whose items lie `step` steps down. -/
def nestingBelow (step : Nat) : List Expr → Nat
  | [] => 0
  | e :: es => max (step + nesting e) (nestingBelow step es)

def nestingOptional (step : Nat) : Option Expr → Nat
  | none => 0
  | some e => step + nesting e

def nestingKeywords : List (Option String × Expr) → Nat
  | [] => 0
  | (_, e) :: rest => max (6 + nesting e) (nestingKeywords rest)

def nestingCompared : List (CompareOp × Expr) → Nat
  | [] => 0
  | (_, e) :: rest => max (3 + nesting e) (nestingCompared rest)

def nestingItems : List (Option Expr × Expr) → Nat
  | [] => 0
  | (none, value) :: rest => max (5 + nesting value) (nestingItems rest)
  | (some key, value) :: rest =>
    max (6 + max (nesting key) (nesting value)) (nestingItems rest)

def nestingClauses : List (Clause Expr) → Nat
  | [] => 0
  | ⟨_, target, source, conditions⟩ :: rest =>
    max (6 + max (nesting target) (nesting source))
      (max (nestingBelow 6 conditions) (nestingClauses rest))

def nestingParams : List (Param Expr) → Nat
  | [] => 0
  | ⟨_, _, annotation, default⟩ :: rest =>
    max (nestingOptional 9 annotation) (max (nestingOptional 6 default) (nestingParams rest))

end

/-- The deepest nesting that is still written out: what is left of the interpreter's thousand nested calls. -/
def nestingLimit : Nat := 986

end BpfCompiler.Syntax.Expr
