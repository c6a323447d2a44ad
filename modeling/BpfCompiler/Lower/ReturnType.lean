import BpfCompiler.Fault
import BpfCompiler.Syntax.Printer
import BpfCompiler.Syntax.Stmt

/-!
# Return types

The name of the type that a function returns: the text of its annotation, or what its returns agree on.
All returns below the function count, those of functions inside it too.
-/

namespace BpfCompiler.Lower

open Syntax

/-- The text of an expression; one without a text goes by its attribute or its kind. -/
def sourceOrKind (e : Expr) : String :=
  match e.source?, e with
  | some s, _ => s
  | none, .attribute _ attr => attr
  | none, e => e.kind

/-- The name of the type that a return gives. -/
def returnedType : Option Expr → String
  | none => "None"
  | some (.const value _) => value.typeName
  | some (.name id) => id
  | some (.call (.name id) _ _) => id
  | some (.call func _ _) => sourceOrKind func
  | some e => sourceOrKind e

/-- The one type that all names agree on, `None` if there are none or if it is empty. -/
def agreedType : List String → Except Fault String
  | [] => .ok "None"
  | first :: rest =>
    match rest.find? fun t => t != first with
    | some later => .error (.conflictingReturns first later)
    | none => .ok (if first = "" then "None" else first)

/-- The types of all returns of a body, breadth first. -/
def returnTypes (body : List Stmt) : List String :=
  (Stmt.walk body).filterMap fun
    | .ret value => some (returnedType value)
    | _ => none

/-- The name of the type that a function returns. -/
def returnType (d : Function) : Except Fault String :=
  match d.returns with
  | some annotation =>
    .ok (match annotation.source?, annotation with
      | some s, _ => s
      | none, .attribute _ attr => attr
      | none, e => "<ast." ++ e.kind ++ ">")
  | none => agreedType (returnTypes d.body)

/-- The name of the type that a statement returns, which only a function does. -/
def stmtReturnType : Stmt → Except Fault String
  | .function d => returnType d
  | _ => .error .notFunction

end BpfCompiler.Lower
