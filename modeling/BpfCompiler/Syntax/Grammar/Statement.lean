import BpfCompiler.Syntax.Grammar.Pattern
import BpfCompiler.Syntax.Stmt

/-!
# The grammar of statements

A block is a list of statements set off by indentation, or statements on the same line.  As for
expressions, the rules take the reader for the blocks below as an argument, and `blocks` ties the knot.
A line that ends in a colon and is followed by no deeper line is a fault of indentation, whatever
stands there instead.

A text with a fault of indentation is read once more, strictly, because a mistaken statement before the
fault explains it better.
-/

namespace BpfCompiler.Syntax.Grammar

open Reader

/-! ### Simple statements -/

def assignOps : List (String × BinaryOp) :=
  [("+=", .add), ("-=", .sub), ("*=", .mult), ("@=", .matMult), ("/=", .div), ("%=", .mod),
   ("&=", .bitAnd), ("|=", .bitOr), ("^=", .bitXor), ("<<=", .leftShift), (">>=", .rightShift),
   ("**=", .pow), ("//=", .floorDiv)]

def rightSide (l : Level) : Reader Expr := do
  if (← peek).isWord "yield" then yieldExpression l else starExpressions l

/-- The sign behind a target. -/
def assignSign : Reader Unit := do
  match ← peek with
  | .op s => unless s == "=" || s == ":" || (assignOps.lookup s).isSome do stuck
  | _ => stuck

/-- Targets with the sign behind them.  They are read as operands, so that a strict reading looks only at
what is inside their brackets. -/
def targetsAhead (l : Level) : Reader Expr := do
  let item : Reader Expr := do
    if ← op? "*" then return .starred (← l.bitOr) else l.bitOr
  let (items, trailing) ← commaList l.fuel startsExpression item
  assignSign
  match items, trailing with
  | [e], false => return e
  | es, _ => return .tuple es

/-- One target in brackets with the colon of an annotation behind them. -/
def annotatedAhead (l : Level) : Reader Expr := do
  op "("
  let e ← l.bitOr
  op ")"
  if (← peek) == .op ":" then return e else stuck

/-- What begins a statement or follows an equals sign: targets if such a sign follows them, and a right
side otherwise. -/
def leadingSide (l : Level) : Reader Expr := do
  if !l.strict then rightSide l
  else if ← accepts (annotatedAhead l) then annotatedAhead l
  else if ← accepts (targetsAhead l) then targetsAhead l
  else rightSide l

/-- Further `=` signs: the targets so far, newest first, and the value. -/
def assignment (l : Level) (first : Expr) : Reader Stmt := do
  let (targets, value) ← repeatFrom
    (fun ((targets, value) : List Expr × Expr) => do
      if ← op? "=" then
        unless isTarget value do stuck
        return some (value :: targets, ← leadingSide l)
      else return none)
    (l.fuel + 1) ([], first)
  return .assign targets.reverse value

/-- An assignment of any kind, or an expression for its effect. -/
def expressionStatement (l : Level) : Reader Stmt := do
  let first ← leadingSide l
  match ← peek with
  | .op "=" => assignment l first
  | .op ":" => do
    unless isSingleTarget first do stuck
    advance
    let annotation ← l.expression
    let value ← if ← op? "=" then pure (some (← rightSide l)) else pure none
    return .annAssign first annotation value
  | .op s =>
    match assignOps.lookup s with
    | some o => do
      unless isSingleTarget first do stuck
      advance
      return .augAssign first o (← rightSide l)
    | none => return .expr first
  | _ => return .expr first

def dottedName (l : Level) : Reader String := do
  let first ← identifier
  repeatFrom
    (fun name => do
      if ← op? "." then return some (name ++ "." ++ (← identifier)) else return none)
    (l.fuel + 1) first

def alias? : Reader (Option String) := do
  if ← word? "as" then return some (← identifier) else return none

def isName : Token → Bool
  | .name _ _ => true
  | _ => false

def importStatement (l : Level) : Reader Stmt := do
  let item : Reader (String × Option String) := do
    let name ← dottedName l
    return (name, ← alias?)
  let (names, trailing) ← commaList l.fuel (fun _ => true) item
  if trailing then stuck
  return .importModule names

def importFromStatement (l : Level) : Reader Stmt := do
  let dots ← repeatFrom
    (fun (n : Nat) => do
      if ← op? "." then return some (n + 1)
      else if ← op? "..." then return some (n + 3)
      else return none)
    (l.fuel + 1) 0
  let source ← if dots > 0 && (← peek).isWord "import" then pure none
    else pure (some (← dottedName l))
  word "import"
  let item : Reader (String × Option String) := do
    let name ← identifier
    return (name, ← alias?)
  if ← op? "*" then return .importFrom source [("*", none)] dots
  else if ← op? "(" then
    let (names, _) ← commaList l.fuel isName item
    op ")"
    return .importFrom source names dots
  else
    let (names, trailing) ← commaList l.fuel (fun _ => true) item
    if trailing then stuck
    return .importFrom source names dots

def nameList (l : Level) : Reader (List String) := do
  return (← commaList l.fuel (fun _ => true) identifier).1

def deleteStatement (l : Level) : Reader Stmt := do
  let (targets, _) ← commaList l.fuel startsExpression l.bitOr
  unless areDeletable targets do stuck
  return .delete targets

def simpleStatement (l : Level) : Reader Stmt := do
  match ← peek with
  | .name "return" _ => do
    advance
    if startsExpression (← peek) then return .ret (some (← starExpressions l)) else return .ret none
  | .name "pass" _ => do advance; return .pass
  | .name "break" _ => do advance; return .break
  | .name "continue" _ => do advance; return .continue
  | .name "import" _ => do advance; importStatement l
  | .name "from" _ => do advance; importFromStatement l
  | .name "global" _ => do advance; return .global (← nameList l)
  | .name "nonlocal" _ => do advance; return .nonlocal (← nameList l)
  | .name "del" _ => do advance; deleteStatement l
  | .name "assert" _ => do
    advance
    let test ← l.expression
    let message ← if ← op? "," then pure (some (← l.expression)) else pure none
    return .assert test message
  | .name "raise" _ => do
    advance
    if startsExpression (← peek) then
      let error ← l.expression
      let cause ← if ← word? "from" then pure (some (← l.expression)) else pure none
      return .raise (some error) cause
    else return .raise none none
  | _ => expressionStatement l

/-- The statements of one line. -/
def line (l : Level) : Reader (List Stmt) := do
  let first ← simpleStatement l
  let (statements, _) ← repeatFrom
    (fun ((statements, done) : List Stmt × Bool) => do
      if done then return none
      if ← op? ";" then
        if (← peek) == .newline then return some (statements, true)
        else return some ((← simpleStatement l) :: statements, false)
      else return some (statements, true))
    (l.fuel + 2) ([first], false)
  newline
  return statements.reverse

/-! ### Compound statements -/

def colonBlock (block : Reader (List Stmt)) : Reader (List Stmt) := do
  op ":"
  block

/-- What follows the test of an `if`: its block, and the parts that may come after. -/
def ifRest (l : Level) (block : Reader (List Stmt)) : Reader Stmt := do
  -- the tests and blocks in order, newest first
  let test ← namedExpression l
  let body ← colonBlock block
  let branches ← repeatFrom
    (fun (branches : List (Expr × List Stmt)) => do
      if ← word? "elif" then
        let test ← namedExpression l
        let body ← colonBlock block
        return some ((test, body) :: branches)
      else return none)
    (l.fuel + 1) []
  let last ← if ← word? "else" then colonBlock block else pure []
  let orelse := branches.foldl (fun orelse (test, body) => [Stmt.cond test body orelse]) last
  return .cond test body orelse

def elseBlock (block : Reader (List Stmt)) : Reader (List Stmt) := do
  if ← word? "else" then colonBlock block else return []

def forRest (l : Level) (isAsync : Bool) (block : Reader (List Stmt)) : Reader Stmt := do
  let target ← loopTargets l
  word "in"
  let source ← starExpressions l
  let body ← colonBlock block
  return .forLoop isAsync target source body (← elseBlock block)

def withItem (l : Level) : Reader (Expr × Option Expr) := do
  let value ← l.expression
  if ← word? "as" then
    let target ← if ← op? "*" then pure (.starred (← l.bitOr)) else l.bitOr
    unless isTarget target do stuck
    match ← peek with
    | .op "," | .op ")" | .op ":" => return (value, some target)
    | _ => stuck
  else return (value, none)

def withRest (l : Level) (isAsync : Bool) (block : Reader (List Stmt)) : Reader Stmt := do
  let bracketed : Reader (List (Expr × Option Expr)) := do
    op "("
    let (items, _) ← commaList l.fuel startsExpression (withItem l)
    op ")"
    op ":"
    return items
  let bare : Reader (List (Expr × Option Expr)) := do
    let (items, trailing) ← commaList l.fuel (fun _ => true) (withItem l)
    if trailing then stuck
    op ":"
    return items
  let items ← bracketed.orElse bare
  return .withBlock isAsync items (← block)

/-- A handler: its error, if it names one, and its block.  All handlers of a statement carry a star or
none does. -/
def handler (l : Level) (block : Reader (List Stmt)) (grouped : Option Bool) :
    Reader (Bool × Option Expr × List Stmt) := do
  let starred ← op? "*"
  if grouped == some (!starred) then stuck
  let error ← if !starred && (← peek) == .op ":" then pure none
    else do
      let e ← l.expression
      if ← word? "as" then
        let _ ← identifier
      pure (some e)
  return (starred, error, ← colonBlock block)

def finallyBlock (block : Reader (List Stmt)) : Reader (Option (List Stmt)) := do
  if ← word? "finally" then return some (← colonBlock block) else return none

/-- Gives up where a handler is missing. -/
def missingHandler : Reader Unit := do
  match ← peek with
  | .bad f => refuse f
  | _ => fail .malformed

def tryRest (l : Level) (block : Reader (List Stmt)) : Reader Stmt := do
  let body ← colonBlock block
  let (handlers, grouped) ← repeatFrom
    (fun ((handlers, grouped) : List (Option Expr × List Stmt) × Option Bool) => do
      if ← word? "except" then
        let (starred, error, body) ← handler l block grouped
        return some ((error, body) :: handlers, some starred)
      else return none)
    (l.fuel + 1) ([], none)
  let orelse ← if handlers.isEmpty then pure [] else elseBlock block
  let finish ← finallyBlock block
  if handlers.isEmpty && finish.isNone then missingHandler
  return .tryBlock (grouped.getD false) body handlers.reverse orelse (finish.getD [])

def functionRest (l : Level) (isAsync : Bool) (decorators : List Expr)
    (block : Reader (List Stmt)) : Reader Stmt := do
  let name ← identifier
  op "("
  let params ← parameters l true (.op ")")
  op ")"
  let returns ← if ← op? "->" then pure (some (← l.expression)) else pure none
  let body ← colonBlock block
  return .function ⟨isAsync, name, params, body, decorators, returns⟩

def classRest (l : Level) (decorators : List Expr) (block : Reader (List Stmt)) :
    Reader Stmt := do
  let name ← identifier
  let (bases, keywords) ← if ← op? "(" then arguments l false else pure ([], [])
  let body ← colonBlock block
  return .classDef name bases keywords body decorators

def decorated (l : Level) (block : Reader (List Stmt)) : Reader Stmt := do
  let decorators ← repeatFrom
    (fun (decorators : List Expr) => do
      if ← op? "@" then
        let e ← namedExpression l
        newline
        return some (e :: decorators)
      else return none)
    (l.fuel + 1) []
  let decorators := decorators.reverse
  if ← word? "class" then classRest l decorators block
  else
    let isAsync ← word? "async"
    word "def"
    functionRest l isAsync decorators block

/-- Enters the lines below a colon.  That they are missing is reported only if the rest of the text can
be cut into tokens. -/
def enterBlock (l : Level) : Reader Unit := do
  newline
  match ← peek with
  | .indent => advance
  | .bad f => refuse f
  | .unfinished => refuse .malformed
  | _ =>
    match (← get).getLast? with
    | some (.bad .malformed) => refuse .malformed
    | _ => if l.strict then refuse .indentation else fail .indentation

def caseBlock (l : Level) (block : Reader (List Stmt)) :
    Reader (Option Expr × List Stmt) := do
  word "case"
  patterns l
  let guard ← if ← word? "if" then pure (some (← namedExpression l)) else pure none
  return (guard, ← colonBlock block)

def matchStatement (l : Level) (block : Reader (List Stmt)) : Reader Stmt := do
  word "match"
  let (items, trailing) ← commaList l.fuel startsExpression (starNamedExpression l)
  let subject ← match items, trailing with
    | [.starred _], false => stuck
    | [e], false => pure e
    | es, _ => pure (.tuple es)
  if l.strict && (← peek) == .newline then refuse .malformed
  op ":"
  enterBlock l
  let first ← caseBlock l block
  let cases ← repeatFrom
    (fun (cases : List (Option Expr × List Stmt)) => do
      if (← peek) == .dedent then return none
      return some ((← caseBlock l block) :: cases))
    (l.fuel + 1) [first]
  advance
  return .matchBlock subject cases.reverse

/-- One statement, or the statements of one line. -/
def statement (l : Level) (block : Reader (List Stmt)) : Reader (List Stmt) := do
  let one (s : Reader Stmt) : Reader (List Stmt) := do
    return [← s]
  match ← peek with
  | .name "if" _ => do advance; one (ifRest l block)
  | .name "while" _ => one do
    advance
    let test ← namedExpression l
    let body ← colonBlock block
    return .whileLoop test body (← elseBlock block)
  | .name "for" _ => do advance; one (forRest l false block)
  | .name "with" _ => do advance; one (withRest l false block)
  | .name "try" _ => do advance; one (tryRest l block)
  | .name "def" _ => do advance; one (functionRest l false [] block)
  | .name "class" _ => do advance; one (classRest l [] block)
  | .op "@" => one (decorated l block)
  | .name "async" _ => do
    advance
    if ← word? "for" then one (forRest l true block)
    else if ← word? "with" then one (withRest l true block)
    else
      word "def"
      one (functionRest l true [] block)
  | .name "match" _ => (one (matchStatement l block)).orElse (line l)
  | _ => line l

/-- Statements until `ending`, which is taken. -/
def statementsUntil (l : Level) (block : Reader (List Stmt)) (ending : Token) :
    Reader (List Stmt) := do
  let statements ← repeatFrom
    (fun (statements : List (List Stmt)) => do
      if (← peek) == ending then return none
      return some ((← statement l block) :: statements))
    (l.fuel + 1) []
  advance
  return statements.reverse.flatten

/-- A block with `n` levels of nesting below it. -/
def blocks (l : Level) : Nat → Reader (List Stmt)
  | 0 => stuck
  | n + 1 => do
    if (← peek) == .newline then
      enterBlock l
      statementsUntil l (blocks l n) .dedent
    else line l

/-- The statements of a whole text. -/
def program (n : Nat) (strict : Bool) : Reader (List Stmt) :=
  let l := level strict n
  statementsUntil l (blocks l n) .eof

/-- An expression that is a whole text, or a tuple without brackets and without stars. -/
def wholeExpression (n : Nat) (strict : Bool) : Reader Expr := do
  let l := level strict n
  let (items, trailing) ← commaList n (fun t => t != .op "*" && startsExpression t) l.expression
  let _ ← repeatFrom
    (fun (_ : Unit) => do
      if (← peek) == .newline then
        advance
        return some ()
      else return none)
    (n + 1) ()
  unless (← peek) == .eof do stuck
  match items, trailing with
  | [e], false => return e
  | es, _ => return .tuple es

/-- Reads a whole text.  After a fault of indentation a strict reading may find a better reason. -/
def readWhole {α : Type} (tokens : List Token) (reading : Bool → Reader α) : Except SourceFault α :=
  match (reading false).run tokens with
  | .ok (a, _) => .ok a
  | .error e =>
    if e.fault = .indentation && !e.isFinal then
      match (reading true).run tokens with
      | .error better => .error (if better.isFinal then better.fault else e.fault)
      | .ok _ => .error e.fault
    else .error e.fault

end Grammar

/-- The module that a source text writes. -/
def Module.parse (source : List Char) : Except SourceFault Module :=
  if source.contains '\x00' then .error .nullByte
  else (Grammar.readWhole (Lexer.tokens source) (Grammar.program (source.length + 8))).map Module.mk

/-- The expression that a source text writes. -/
def Expr.parse (source : List Char) : Except SourceFault Expr :=
  if source.contains '\x00' then .error .nullByte
  else
    Grammar.readWhole (Lexer.expressionTokens source) (Grammar.wholeExpression (source.length + 8))

end BpfCompiler.Syntax
