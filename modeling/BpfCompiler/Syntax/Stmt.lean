import BpfCompiler.Syntax.Expr

/-!
# Statements and the breadth-first walk

A module is a list of statements.  `levels` lists the statements below a node by depth, and the walk
reads the levels from the top, so it meets every statement of a level before any deeper one.  Parts
of a statement that are no statements themselves (handlers, cases) still take up a level.
-/

namespace BpfCompiler.Syntax

/-- A function definition, over the type of its body's statements. -/
structure FunctionDef (σ : Type) where
  isAsync : Bool
  name : String
  params : List (Param Expr)
  body : List σ
  decorators : List Expr
  returns : Option Expr

inductive Stmt where
  | function (definition : FunctionDef Stmt)
  | classDef (name : String) (bases : List Expr) (keywords : List (Option String × Expr))
      (body : List Stmt) (decorators : List Expr)
  | ret (value : Option Expr)
  | delete (targets : List Expr)
  | assign (targets : List Expr) (value : Expr)
  | augAssign (target : Expr) (op : BinaryOp) (value : Expr)
  | annAssign (target annotation : Expr) (value : Option Expr)
  | forLoop (isAsync : Bool) (target source : Expr) (body orelse : List Stmt)
  | whileLoop (test : Expr) (body orelse : List Stmt)
  | cond (test : Expr) (body orelse : List Stmt)
  | withBlock (isAsync : Bool) (items : List (Expr × Option Expr)) (body : List Stmt)
  /-- Each case keeps its guard and body; its pattern is only checked for form. -/
  | matchBlock (subject : Expr) (cases : List (Option Expr × List Stmt))
  | raise (error cause : Option Expr)
  | tryBlock (isGroup : Bool) (body : List Stmt) (handlers : List (Option Expr × List Stmt))
      (orelse finish : List Stmt)
  | assert (test : Expr) (message : Option Expr)
  | importModule (names : List (String × Option String))
  | importFrom (source : Option String) (names : List (String × Option String)) (level : Nat)
  | global (names : List String)
  | nonlocal (names : List String)
  | expr (value : Expr)
  | pass
  | break
  | continue

abbrev Function := FunctionDef Stmt

namespace Stmt

instance : Inhabited Stmt := ⟨.pass⟩

/-- The name of the statement's node kind, as the log shows it. -/
def kind : Stmt → String
  | .function d => if d.isAsync then "AsyncFunctionDef" else "FunctionDef"
  | .classDef .. => "ClassDef"
  | .ret _ => "Return"
  | .delete _ => "Delete"
  | .assign .. => "Assign"
  | .augAssign .. => "AugAssign"
  | .annAssign .. => "AnnAssign"
  | .forLoop isAsync .. => if isAsync then "AsyncFor" else "For"
  | .whileLoop .. => "While"
  | .cond .. => "If"
  | .withBlock isAsync .. => if isAsync then "AsyncWith" else "With"
  | .matchBlock .. => "Match"
  | .raise .. => "Raise"
  | .tryBlock isGroup .. => if isGroup then "TryStar" else "Try"
  | .assert .. => "Assert"
  | .importModule _ => "Import"
  | .importFrom .. => "ImportFrom"
  | .global _ => "Global"
  | .nonlocal _ => "Nonlocal"
  | .expr _ => "Expr"
  | .pass => "Pass"
  | .break => "Break"
  | .continue => "Continue"

/-- Two lists of levels side by side: the first comes first at every depth. -/
def merge {α : Type} : List (List α) → List (List α) → List (List α)
  | [], ys => ys
  | xs, [] => xs
  | x :: xs, y :: ys => (x ++ y) :: merge xs ys

mutual

/-- The statements at and below a statement, by depth. -/
def levels : Stmt → List (List Stmt)
  | .function ⟨isAsync, name, params, body, decorators, returns⟩ =>
    [.function ⟨isAsync, name, params, body, decorators, returns⟩] :: listLevels body
  | .classDef name bases keywords body decorators =>
    [.classDef name bases keywords body decorators] :: listLevels body
  | .forLoop isAsync target source body orelse =>
    [.forLoop isAsync target source body orelse] :: merge (listLevels body) (listLevels orelse)
  | .whileLoop test body orelse =>
    [.whileLoop test body orelse] :: merge (listLevels body) (listLevels orelse)
  | .cond test body orelse =>
    [.cond test body orelse] :: merge (listLevels body) (listLevels orelse)
  | .withBlock isAsync items body => [.withBlock isAsync items body] :: listLevels body
  | .matchBlock subject cases => [.matchBlock subject cases] :: branchLevels cases
  | .tryBlock isGroup body handlers orelse finish =>
    [.tryBlock isGroup body handlers orelse finish] ::
      merge (merge (listLevels body) (branchLevels handlers))
        (merge (listLevels orelse) (listLevels finish))
  | s => [[s]]

/-- The levels of a list of statements side by side. -/
def listLevels : List Stmt → List (List Stmt)
  | [] => []
  | s :: rest => merge (levels s) (listLevels rest)

/-- The levels below handlers or cases, which take up one level themselves. -/
def branchLevels : List (Option Expr × List Stmt) → List (List Stmt)
  | [] => []
  | (_, body) :: rest => merge ([] :: listLevels body) (branchLevels rest)

end

/-- Every statement of a list, breadth first. -/
def walk (body : List Stmt) : List Stmt := (listLevels body).flatten

end Stmt

/-- A parsed source text. -/
structure Module where
  body : List Stmt

namespace Module

/-- The function definitions of the module, breadth first, asynchronous ones included. -/
def functions (m : Module) : List Function :=
  (Stmt.walk m.body).filterMap fun
    | .function d => some d
    | _ => none

/-- The function definitions at the top level, asynchronous ones left out. -/
def topLevelFunctions (m : Module) : List Function :=
  m.body.filterMap fun
    | .function d => if d.isAsync then none else some d
    | _ => none

end Module

end BpfCompiler.Syntax
