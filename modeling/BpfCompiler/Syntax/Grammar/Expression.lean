import BpfCompiler.Syntax.FormatString
import BpfCompiler.Syntax.Lexer
import BpfCompiler.Syntax.Reader

/-!
# The grammar of expressions

Each rule is a reader over a `Level`, the readers for what may stand inside brackets or behind an
operator.  A level uses the one below it only after it has taken a token, so a text with `n`
characters needs no more than `n` levels, and `level` ties the knot by recursion on their number.

A text can be read strictly.  Then what looks like a mistaken statement is refused for good although it
can be read as an expression: a former statement such as `print + 1`, and what stands behind the word
`match` with an equals sign or a lone star in its brackets.
-/

namespace BpfCompiler.Syntax.Grammar

open Reader

/-- The readers for nested expressions, a bound on repetitions, and whether the text is read strictly. -/
structure Level where
  fuel : Nat
  strict : Bool
  item : Reader Expr
  expression : Reader Expr
  disjunction : Reader Expr
  bitOr : Reader Expr
  factor : Reader Expr

/-- Whether an expression may begin with the token. -/
def startsExpression : Token → Bool
  | .name id _ => !Token.keywords.contains id || ["None", "True", "False", "lambda", "not", "await"].contains id
  | .number _ | .string _ => true
  | .op s => ["(", "[", "\x7b", "-", "+", "~", "...", "*"].contains s
  | _ => false

/-! ### Targets -/

mutual

/-- Whether an expression may be assigned to. -/
def isTarget : Expr → Bool
  | .name _ | .attribute .. | .subscript .. => true
  | .starred (.starred _) => false
  | .starred e => isTarget e
  | .tuple es | .list es => areTargets es
  | _ => false

def areTargets : List Expr → Bool
  | [] => true
  | e :: es => isTarget e && areTargets es

end

/-- Whether an expression may be assigned to with an operator or an annotation. -/
def isSingleTarget : Expr → Bool
  | .name _ | .attribute .. | .subscript .. => true
  | _ => false

mutual

/-- Whether an expression may be deleted. -/
def isDeletable : Expr → Bool
  | .name _ | .attribute .. | .subscript .. => true
  | .tuple es | .list es => areDeletable es
  | _ => false

def areDeletable : List Expr → Bool
  | [] => true
  | e :: es => isDeletable e && areDeletable es

end

/-! ### Lists of expressions -/

/-- One operand, an equals sign and another.  The first is no tuple and no list. -/
def loneEquation (l : Level) : Reader Unit := do
  let isDisplay ← match ← peek with
    | .op "[" => pure true
    | .op "(" => do
      let isGroup ← accepts do
        advance
        let _ ← l.item
        op ")"
      pure !isGroup
    | _ => pure false
  if isDisplay then stuck
  let _ ← l.bitOr
  op "="
  let _ ← l.bitOr
  match ← peek with
  | .op "=" | .op ":=" => stuck
  | _ => return ()

/-- A name, `:=` and an expression; or an expression alone. -/
def namedExpression (l : Level) : Reader Expr := do
  match ← peek, ← peekSecond with
  | .name _ _, .op ":=" => do
    let id ← identifier
    op ":="
    return .named (.name id) (← l.expression)
  | _, _ => do
    if l.strict then
      if ← accepts (loneEquation l) then refuse .malformed
    l.expression

def starExpression (l : Level) : Reader Expr := do
  if ← op? "*" then return .starred (← l.bitOr) else l.expression

def starNamedExpression (l : Level) : Reader Expr := do
  if ← op? "*" then return .starred (← l.bitOr) else namedExpression l

/-- One expression, or a tuple without brackets. -/
def starExpressions (l : Level) : Reader Expr := do
  let (items, trailing) ← commaList l.fuel startsExpression (starExpression l)
  match items, trailing with
  | [e], false => return e
  | es, _ => return .tuple es

/-- The targets of a loop, up to the word `in`. -/
def loopTargets (l : Level) : Reader Expr := do
  let item : Reader Expr := do
    if ← op? "*" then return .starred (← l.bitOr) else l.bitOr
  let (items, trailing) ← commaList l.fuel startsExpression item
  let target := match items, trailing with
    | [e], false => e
    | es, _ => .tuple es
  if isTarget target then return target else stuck

def yieldExpression (l : Level) : Reader Expr := do
  word "yield"
  if ← word? "from" then return .yieldFrom (← l.expression)
  else if startsExpression (← peek) then return .yield (some (← starExpressions l))
  else return .yield none

/-! ### Comprehensions -/

def startsClause : Token → Bool
  | .name "for" _ | .name "async" _ => true
  | _ => false

def clause (l : Level) : Reader (Clause Expr) := do
  let isAsync ← word? "async"
  word "for"
  let target ← loopTargets l
  word "in"
  let source ← l.disjunction
  let conditions ← repeatFrom
    (fun conditions => do
      if ← word? "if" then return some ((← l.disjunction) :: conditions) else return none)
    (l.fuel + 1) []
  return ⟨isAsync, target, source, conditions.reverse⟩

def clauses (l : Level) : Reader (List (Clause Expr)) := do
  let first ← clause l
  let cs ← repeatFrom
    (fun cs => do
      if startsClause (← peek) then return some ((← clause l) :: cs) else return none)
    (l.fuel + 1) [first]
  return cs.reverse

/-! ### Calls and subscripts -/

/-- The arguments read so far, newest first; `unpacked` is set by a mapping. -/
structure Arguments where
  positional : List Expr
  keywords : List (Option String × Expr)
  unpacked : Bool
  done : Bool

def argument (l : Level) (a : Arguments) : Reader Arguments := do
  if ← op? "*" then
    if a.unpacked then stuck
    return { a with positional := .starred (← l.expression) :: a.positional }
  else if ← op? "**" then
    return { a with keywords := (none, ← l.expression) :: a.keywords, unpacked := true }
  else
    match ← peek, ← peekSecond with
    | .name _ _, .op "=" => do
      let id ← identifier
      op "="
      return { a with keywords := (some id, ← l.expression) :: a.keywords }
    | _, _ => do
      if !a.keywords.isEmpty then stuck
      return { a with positional := (← namedExpression l) :: a.positional }

def moreArguments : Token → Bool
  | .op "*" | .op "**" => true
  | t => startsExpression t

/-- The arguments of a call, behind the opening bracket and through the closing one.  A lone argument
of a function may be a generator without brackets of its own. -/
def arguments (l : Level) (generators : Bool) :
    Reader (List Expr × List (Option String × Expr)) := do
  if ← op? ")" then return ([], [])
  let first ← argument l ⟨[], [], false, false⟩
  match first.positional, first.keywords with
  | [e], [] =>
    if generators && startsClause (← peek) then
      match e with
      | .starred _ => stuck
      | _ => do
        let cs ← clauses l
        op ")"
        return ([.generator e cs], [])
  | _, _ => pure ()
  let all ← repeatFrom
    (fun (a : Arguments) => do
      if a.done then return none
      if ← op? "," then
        if moreArguments (← peek) then return some (← argument l a)
        else return some { a with done := true }
      else return some { a with done := true })
    (l.fuel + 2) first
  op ")"
  return (all.positional.reverse, all.keywords.reverse)

def optional (l : Level) : Reader (Option Expr) := do
  if startsExpression (← peek) then return some (← l.expression) else return none

def sliceItem (l : Level) : Reader Expr := do
  if ← op? "*" then return .starred (← l.expression)
  let isNamed := match ← peek, ← peekSecond with
    | .name _ _, .op ":=" => true
    | _, _ => false
  let lower ← match ← peek with
    | .op ":" => pure none
    | _ => pure (some (← namedExpression l))
  match lower with
  | some e => if isNamed || (← peek) != .op ":" then return e
  | none => pure ()
  op ":"
  let upper ← optional l
  let step ← if ← op? ":" then optional l else pure none
  return .slice lower upper step

def startsSlice : Token → Bool
  | .op ":" => true
  | t => startsExpression t

/-- What stands between the brackets of a subscript, through the closing one. -/
def subscriptIndex (l : Level) : Reader Expr := do
  let (items, trailing) ← commaList l.fuel startsSlice (sliceItem l)
  op "]"
  match items, trailing with
  | [.starred e], false => return .tuple [.starred e]
  | [e], false => return e
  | es, _ => return .tuple es

/-! ### Parameters -/

/-- How far a list of parameters has come. -/
structure Params where
  params : List (Param Expr)
  slash : Bool
  star : Bool
  /-- A bare star that still wants a parameter. -/
  bare : Bool
  defaults : Bool
  closed : Bool
  done : Bool

def default? (l : Level) : Reader (Option Expr) := do
  if ← op? "=" then return some (← l.expression) else return none

/-- One entry of a parameter list: a parameter, a slash or a star. -/
def paramEntry (l : Level) (annotated : Bool) (p : Params) : Reader Params := do
  if p.closed then stuck
  let annotation (starred : Bool) : Reader (Option Expr) := do
    if annotated then
      if ← op? ":" then
        return some (← if starred then starExpression l else l.expression)
    return none
  if ← op? "/" then
    if p.slash || p.star || p.params.isEmpty then stuck
    return { p with
      params := p.params.map fun q => { q with kind := .positionalOnly }
      slash := true }
  else if ← op? "**" then
    if p.bare then stuck
    let id ← identifier
    let a ← annotation false
    return { p with params := ⟨.keywords, id, a, none⟩ :: p.params, closed := true }
  else if ← op? "*" then
    if p.star then stuck
    match ← peek with
    | .op "," => return { p with star := true, bare := true }
    | _ => do
      let id ← identifier
      let a ← annotation true
      return { p with params := ⟨.variadic, id, a, none⟩ :: p.params, star := true }
  else
    let id ← identifier
    let a ← annotation false
    let d ← default? l
    if p.star then
      return { p with params := ⟨.keywordOnly, id, a, d⟩ :: p.params, bare := false }
    else if p.defaults && d.isNone then stuck
    else
      return { p with params := ⟨.regular, id, a, d⟩ :: p.params, defaults := d.isSome }

/-- The parameters of a function, up to the token that ends them. -/
def parameters (l : Level) (annotated : Bool) (ending : Token) : Reader (List (Param Expr)) := do
  let start : Params := ⟨[], false, false, false, false, false, false⟩
  if (← peek) == ending then return []
  let first ← paramEntry l annotated start
  let all ← repeatFrom
    (fun (p : Params) => do
      if p.done then return none
      if ← op? "," then
        if (← peek) == ending then return some { p with done := true }
        else return some (← paramEntry l annotated p)
      else return some { p with done := true })
    (l.fuel + 2) first
  if all.bare then stuck
  return all.params.reverse

/-! ### Strings -/

/-- Neighbouring texts joined, empty ones dropped. -/
def joinTexts : List Expr → List Expr
  | [] => []
  | .const (.text a) marked :: rest =>
    match joinTexts rest with
    | .const (.text b) _ :: rest' => .const (.text (a ++ b)) marked :: rest'
    | rest' => if a.isEmpty then rest' else .const (.text a) marked :: rest'
  | e :: rest => e :: joinTexts rest

/-- The expression of a field, read from its characters. -/
def fieldExpression (l : Level) (chars : List Char) : Reader Expr := do
  match (starExpressions l).run (Lexer.bracketedTokens chars) with
  | .ok (e, _) => return e
  | .error _ => fail .malformed

/-- The parts that pieces of a format literal stand for, specifications nested `depth` deep. -/
def formatParts (l : Level) (marked : Bool) :
    Nat → List FormatString.Piece → Reader (List Expr)
  | 0, _ => stuck
  | _, [] => return []
  | depth + 1, .literal t :: rest => do
    return .const (.text t) marked :: (← formatParts l marked (depth + 1) rest)
  | depth + 1, .field chars conversion spec :: rest => do
    let value ← fieldExpression l chars
    let spec ← match spec with
      | none => pure none
      | some pieces => pure (some (Expr.joined (joinTexts (← formatParts l marked depth pieces))))
    return .formatted value conversion spec :: (← formatParts l marked (depth + 1) rest)

def stringParts (l : Level) (marked : Bool) (s : StringToken) : Reader (List Expr) := do
  if s.format then
    match FormatString.cut? s.raw s.body with
    | some pieces => formatParts l marked 4 pieces
    | none => fail .malformed
  else
    match StringLiteral.text? s.raw s.body with
    | some t => return [.const (.text t) marked]
    | none => fail .malformed

/-- Neighbouring literals join to one: byte strings only with each other, and a text with holes if
one of them has holes. -/
def joinStrings (l : Level) (tokens : List StringToken) : Reader Expr := do
  let marked := (tokens.head?.map StringToken.marked).getD false
  if tokens.all StringToken.bytes then
    match tokens.mapM fun s => StringLiteral.bytes? s.raw s.body with
    | some bs => return .const (.bytes bs.flatten) false
    | none => fail .malformed
  else if tokens.any StringToken.bytes then fail .malformed
  else
    let parts ← tokens.mapM (stringParts l marked)
    let joined := joinTexts parts.flatten
    if tokens.any StringToken.format then return .joined joined
    else match joined with
      | [e] => return e
      | _ => return .const (.text Text.empty) marked

/-- Neighbouring string literals.  A strict reading does not look into them again. -/
def strings (l : Level) : Reader Expr := do
  let tokens ← repeatFrom
    (fun (tokens : List StringToken) => do
      match ← peek with
      | .string s => do
        advance
        return some (s :: tokens)
      | _ => return none)
    (l.fuel + 1) []
  if l.strict then return .ofLiteral (.text Text.empty) else joinStrings l tokens.reverse

/-! ### Atoms -/

/-- A star or two, an expression and the closing bracket. -/
def loneStarred (l : Level) : Reader Unit := do
  unless (← op? "*") || (← op? "**") do stuck
  let _ ← l.expression
  op ")"

/-- What stands in round brackets: a group, a tuple or a generator. -/
def inParens (l : Level) : Reader Expr := do
  if l.strict then
    if ← accepts (loneStarred l) then refuse .malformed
  if ← op? ")" then return .tuple []
  if (← peek).isWord "yield" then
    let e ← yieldExpression l
    op ")"
    return e
  let first ← starNamedExpression l
  let isStarred := match first with
    | .starred _ => true
    | _ => false
  if startsClause (← peek) && !isStarred then
    let cs ← clauses l
    op ")"
    return .generator first cs
  if ← op? "," then
    if ← op? ")" then return .tuple [first]
    let (more, _) ← commaList l.fuel startsExpression (starNamedExpression l)
    op ")"
    return .tuple (first :: more)
  if isStarred then stuck
  op ")"
  return first

def inBrackets (l : Level) : Reader Expr := do
  if ← op? "]" then return .list []
  let first ← starNamedExpression l
  let isStarred := match first with
    | .starred _ => true
    | _ => false
  if startsClause (← peek) && !isStarred then
    let cs ← clauses l
    op "]"
    return .listComp first cs
  if ← op? "," then
    if ← op? "]" then return .list [first]
    let (more, _) ← commaList l.fuel startsExpression (starNamedExpression l)
    op "]"
    return .list (first :: more)
  op "]"
  return .list [first]

def dictItem (l : Level) : Reader (Option Expr × Expr) := do
  if ← op? "**" then return (none, ← l.bitOr)
  let key ← l.expression
  op ":"
  return (some key, ← l.expression)

def startsItem : Token → Bool
  | .op "**" => true
  | t => startsExpression t

def moreItems (l : Level) (first : Option Expr × Expr) : Reader Expr := do
  let rest ← if ← op? "," then
      if startsItem (← peek) then pure (← commaList l.fuel startsItem (dictItem l)).1 else pure []
    else pure []
  op "\x7d"
  return .dict (first :: rest)

def inBraces (l : Level) : Reader Expr := do
  if ← op? "\x7d" then return .dict []
  if (← peek) == .op "**" then moreItems l (← dictItem l)
  else
    let isNamed := match ← peek, ← peekSecond with
      | .name _ _, .op ":=" => true
      | _, _ => false
    let first ← starNamedExpression l
    let isStarred := match first with
      | .starred _ => true
      | _ => false
    if !isNamed && !isStarred && (← op? ":") then
      let value ← l.expression
      if startsClause (← peek) then
        let cs ← clauses l
        op "\x7d"
        return .dictComp first value cs
      moreItems l (some first, value)
    else if startsClause (← peek) && !isStarred then
      let cs ← clauses l
      op "\x7d"
      return .setComp first cs
    else if ← op? "," then
      if ← op? "\x7d" then return .set [first]
      let (more, _) ← commaList l.fuel startsExpression (starNamedExpression l)
      op "\x7d"
      return .set (first :: more)
    else
      op "\x7d"
      return .set [first]

def atom (l : Level) : Reader Expr := do
  match ← peek with
  | .name "True" _ => do advance; return .ofLiteral (.bool true)
  | .name "False" _ => do advance; return .ofLiteral (.bool false)
  | .name "None" _ => do advance; return .ofLiteral .none
  | .name _ _ => return .name (← identifier)
  | .number value => do advance; return .ofLiteral value
  | .string _ => strings l
  | .op "..." => do advance; return .ofLiteral .ellipsis
  | .op "(" => do advance; inParens l
  | .op "[" => do advance; inBrackets l
  | .op "\x7b" => do advance; inBraces l
  | _ => stuck

/-! ### Operators -/

/-- An atom with the attributes, calls and subscripts that follow it. -/
def primary (l : Level) : Reader Expr := do
  let first ← atom l
  repeatFrom
    (fun e => do
      if ← op? "." then return some (.attribute e (← identifier))
      else if ← op? "(" then
        let (args, keywords) ← arguments l true
        return some (.call e args keywords)
      else if ← op? "[" then return some (.subscript e (← subscriptIndex l))
      else return none)
    (l.fuel + 1) first

def awaited (l : Level) : Reader Expr := do
  if ← word? "await" then return .await (← primary l) else primary l

def factorRule (l : Level) : Reader Expr := do
  if ← op? "+" then return .unary .plus (← l.factor)
  else if ← op? "-" then return .unary .minus (← l.factor)
  else if ← op? "~" then return .unary .invert (← l.factor)
  else
    let base ← awaited l
    if ← op? "**" then return .binary base .pow (← l.factor) else return base

/-- Operators of one rank, grouped from the left. -/
def leftGrouped (l : Level) (ops : List (String × BinaryOp)) (operand : Reader Expr) :
    Reader Expr := do
  let first ← operand
  repeatFrom
    (fun e => do
      match ← peek with
      | .op s =>
        match ops.lookup s with
        | some o => do
          advance
          return some (.binary e o (← operand))
        | none => return none
      | _ => return none)
    (l.fuel + 1) first

def termRule (l : Level) : Reader Expr :=
  leftGrouped l
    [("*", .mult), ("/", .div), ("//", .floorDiv), ("%", .mod), ("@", .matMult)] (factorRule l)

def sumRule (l : Level) : Reader Expr :=
  leftGrouped l [("+", .add), ("-", .sub)] (termRule l)

def shiftRule (l : Level) : Reader Expr :=
  leftGrouped l [("<<", .leftShift), (">>", .rightShift)] (sumRule l)

def bitOrRule (l : Level) : Reader Expr :=
  leftGrouped l [("|", .bitOr)]
    (leftGrouped l [("^", .bitXor)] (leftGrouped l [("&", .bitAnd)] (shiftRule l)))

/-- Takes a comparison operator if one is next. -/
def compareOp? : Reader (Option CompareOp) := do
  let single (o : CompareOp) : Reader (Option CompareOp) := do
    advance
    return some o
  match ← peek with
  | .op "==" => single .eq
  | .op "!=" => single .notEq
  | .op "<=" => single .ltEq
  | .op "<" => single .lt
  | .op ">=" => single .gtEq
  | .op ">" => single .gt
  | .name "in" _ => single .in
  | .name "is" _ => do
    advance
    if ← word? "not" then return some .isNot else return some .is
  | .name "not" _ =>
    if (← peekSecond).isWord "in" then
      advance
      single .notIn
    else return none
  | _ => return none

def comparison (l : Level) : Reader Expr := do
  let left ← bitOrRule l
  let rest ← repeatFrom
    (fun rest => do
      match ← compareOp? with
      | some o => return some ((o, ← bitOrRule l) :: rest)
      | none => return none)
    (l.fuel + 1) []
  return if rest.isEmpty then left else .compare left rest.reverse

def inversion (l : Level) : Reader Expr := do
  let count ← repeatFrom
    (fun (n : Nat) => do
      if ← word? "not" then return some (n + 1) else return none)
    (l.fuel + 1) 0
  let e ← comparison l
  return (List.replicate count ()).foldl (fun e _ => .unary .not e) e

/-- Operands joined by a word, as one node. -/
def joinedBy (l : Level) (w : String) (o : BoolOp) (operand : Reader Expr) :
    Reader Expr := do
  let first ← operand
  let values ← repeatFrom
    (fun values => do
      if ← word? w then return some ((← operand) :: values) else return none)
    (l.fuel + 1) [first]
  match values with
  | [e] => return e
  | _ => return .bool o values.reverse

def disjunctionRule (l : Level) : Reader Expr :=
  joinedBy l "or" .or (joinedBy l "and" .and (inversion l))

/-- A name that used to begin a statement, with an operand that is not in round brackets. -/
def formerStatement (l : Level) : Reader Unit := do
  let id ← identifier
  unless ["print", "exec"].contains id && (← peek) != .op "(" do stuck
  let _ ← starExpression l

def expressionRule (l : Level) : Reader Expr := do
  if l.strict then
    if ← accepts (formerStatement l) then refuse .malformed
  if ← word? "lambda" then
    let params ← parameters l false (.op ":")
    op ":"
    return .lambda params (← l.expression)
  let body ← disjunctionRule l
  if ← word? "if" then
    let test ← l.disjunction
    word "else"
    return .conditional test body (← l.expression)
  return body

/-- The readers with `n` levels of nesting below them. -/
def level (strict : Bool) : Nat → Level
  | 0 => ⟨0, strict, stuck, stuck, stuck, stuck, stuck⟩
  | n + 1 =>
    let below := level strict n
    ⟨n + 1, strict, starNamedExpression below, expressionRule below, disjunctionRule below,
      bitOrRule below, factorRule below⟩

end BpfCompiler.Syntax.Grammar
