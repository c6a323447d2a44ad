import BpfCompiler.Syntax.Nesting

/-!
# Writing expressions

The source text of an expression, with one blank around operators and only the parentheses that
the ranks of the operators ask for.  A text with holes is written with a quote that none of its
parts holds; inside a hole no backslash may stand, and an expression that would need one there has
no source text.  Nor has one that is nested too deeply.
-/

namespace BpfCompiler.Syntax

/-! ### Ranks -/

namespace Rank

/-- The ranks of the grammar, from the loosest to the tightest. -/
def named : Nat := 0
def tuple : Nat := 1
def yield : Nat := 2
def test : Nat := 3
def or : Nat := 4
def and : Nat := 5
def not : Nat := 6
def compare : Nat := 7
def bitOr : Nat := 8
def factor : Nat := 14
def power : Nat := 15
def await : Nat := 16
def atom : Nat := 17

def next (rank : Nat) : Nat := min (rank + 1) atom

end Rank

def BinaryOp.symbol : BinaryOp → String
  | .add => "+" | .sub => "-" | .mult => "*" | .matMult => "@" | .div => "/" | .mod => "%"
  | .pow => "**" | .leftShift => "<<" | .rightShift => ">>" | .bitOr => "|" | .bitXor => "^"
  | .bitAnd => "&" | .floorDiv => "//"

def BinaryOp.rank : BinaryOp → Nat
  | .bitOr => Rank.bitOr
  | .bitXor => 9
  | .bitAnd => 10
  | .leftShift | .rightShift => 11
  | .add | .sub => 12
  | .mult | .matMult | .div | .mod | .floorDiv => 13
  | .pow => Rank.power

def UnaryOp.symbol : UnaryOp → String
  | .invert => "~" | .not => "not " | .plus => "+" | .minus => "-"

def UnaryOp.rank : UnaryOp → Nat
  | .not => Rank.not
  | _ => Rank.factor

def CompareOp.symbol : CompareOp → String
  | .eq => "==" | .notEq => "!=" | .lt => "<" | .ltEq => "<=" | .gt => ">" | .gtEq => ">="
  | .is => "is" | .isNot => "is not" | .in => "in" | .notIn => "not in"

def BoolOp.symbol : BoolOp → String
  | .and => " and "
  | .or => " or "

def BoolOp.rank : BoolOp → Nat
  | .and => Rank.and
  | .or => Rank.or

namespace Printer

def parens (needed : Bool) (s : String) : String := if needed then "(" ++ s ++ ")" else s

def commas (items : List String) : String := String.intercalate ", " items

/-- The items of a tuple; a single one keeps its comma. -/
def tupleItems : List String → String
  | [s] => s ++ ","
  | items => commas items

/-! ### Quotes -/

def occursIn (needle : String) (s : String) : Bool := (s.splitOn needle).length > 1

def allQuotes : List String := ["'", "\"", "\"\"\"", "'''"]

/-- A text with few escapes, and the quotes it can stand between, the best first. -/
def literalBody (t : Text) (quotes : List String) (escapeBlanks : Bool) :
    String × List String :=
  let body := t.plainBody escapeBlanks
  let quotes' := if occursIn "\n" body then quotes.filter fun q => q.length = 3 else quotes
  let quotes' := quotes'.filter fun q => !occursIn q body
  if quotes'.isEmpty then
    let mark := Text.quoteMark (t.points.map Fin.val)
    let markText := String.singleton (Char.ofNat mark)
    let quote := (quotes.find? fun q => occursIn markText q).getD markText
    (t.quotedBody mark, [quote])
  else
    match body.toList.getLast? with
    | none => (body, quotes')
    | some last =>
      let ends (q : String) : Bool := q.toList.head? == some last
      let sorted := (quotes'.filter fun q => !ends q) ++ quotes'.filter ends
      match sorted.head? with
      | some q =>
        if ends q then (String.ofList (body.toList.dropLast ++ ['\\', last]), sorted)
        else (body, sorted)
      | none => (body, sorted)

def between (body : String) (quotes : List String) : String :=
  let quote := quotes.headD ""
  quote ++ body ++ quote

def avoidingBackslashes (t : Text) : String :=
  let (body, quotes) := literalBody t allQuotes false
  between body quotes

/-- The parts of a text with holes between one pair of quotes; each part says whether it is literal
text. -/
def joinedText (parts : List (Text × Bool)) : String :=
  let rec go : List (Text × Bool) → List String → Option (String × List String)
    | [], quotes => some ("", quotes)
    | (t, isLiteral) :: rest, quotes =>
      let (body, quotes') := literalBody t quotes isLiteral
      if quotes'.any quotes.contains then
        (go rest quotes').map fun (more, final) => (body ++ more, final)
      else none
  match go parts allQuotes with
  | some (body, quotes) => between body quotes
  | none => between (String.join (parts.map fun (t, _) => t.quotedBody 0x27)) ["'''"]

def doubleBraces (t : Text) : Text :=
  ⟨t.points.flatMap fun p => if p.val == 0x7B || p.val == 0x7D then [p, p] else [p]⟩

/-! ### Literals -/

/-- Writes what stands for infinity, which has no literal of its own. -/
def replaceInfinity : List Char → List Char
  | 'i' :: 'n' :: 'f' :: rest => "1e309".toList ++ replaceInfinity rest
  | c :: rest => c :: replaceInfinity rest
  | [] => []

def withoutInfinity (s : String) : String := String.ofList (replaceInfinity s.toList)

def literalText (avoid : Bool) : Literal → String
  | .none => "None"
  | .ellipsis => "..."
  | .bool b => if b then "True" else "False"
  | .int n => toString n
  | .float d => withoutInfinity (d.render Double.literalStyle)
  | .imaginary d => withoutInfinity (d.render Double.imaginaryStyle ++ "j")
  | .text t => if avoid then avoidingBackslashes t else t.quoted
  | .bytes b => Text.quotedBytes b

/-- A hole with its expression, conversion and specification. -/
def hole? (inner : String) (conversion : Option Char) (spec : Text) : Option Text :=
  if inner.contains '\\' then none
  else
    let gap := if "\x7b".isPrefixOf inner then " " else ""
    let conv := match conversion with
      | some c => String.ofList ['!', c]
      | none => ""
    some (("\x7b" : Text) ++ gap ++ inner ++ conv ++ spec ++ "\x7d")

/-! ### Expressions -/

structure ParamText where
  kind : ParamKind
  text : String

/-- A parameter list: a slash behind the positional ones, a star before the keyword-only ones unless
a variadic parameter stands there. -/
def paramList (params : List ParamText) : String :=
  let ofKind (k : ParamKind) : List String :=
    (params.filter fun p => p.kind == k).map ParamText.text
  let positional := ofKind .positionalOnly
  let slash := if positional.isEmpty then [] else ["/"]
  let variadic := (ofKind .variadic).map ("*" ++ ·)
  let keywordOnly := ofKind .keywordOnly
  let star := if variadic.isEmpty && !keywordOnly.isEmpty then ["*"] else variadic
  commas (positional ++ slash ++ ofKind .regular ++ star ++ keywordOnly ++
    (ofKind .keywords).map ("**" ++ ·))

mutual

/-- The text of an expression where the rank `rank` is asked for. `avoid` is set inside a hole. -/
def print (avoid : Bool) (rank : Nat) : Expr → Option String
  | .name id => some id
  | .const value marked =>
    if value.canShow then some ((if marked then "u" else "") ++ literalText avoid value) else none
  | .joined parts => do
    if avoid then
      let inner ← innerTexts parts
      return "f" ++ avoidingBackslashes (Text.concat (inner.map Prod.fst))
    else
      return "f" ++ joinedText (← innerTexts parts)
  | .formatted value conversion spec => do
    let inner ← print true Rank.or value
    (← hole? inner conversion (← innerSpec spec)).toString?
  | .attribute value attr => do
    let v ← print avoid Rank.atom value
    let gap := match value with
      | .const l _ => if l.isInteger then " " else ""
      | _ => ""
    return v ++ gap ++ "." ++ attr
  | .call func args keywords => do
    let f ← print avoid Rank.atom func
    return f ++ "(" ++ commas ((← printList avoid args) ++ (← printKeywords avoid keywords)) ++ ")"
  | .subscript value (.tuple (e :: es)) => do
    let v ← print avoid Rank.atom value
    let first ← print avoid Rank.test e
    return v ++ "[" ++ tupleItems (first :: (← printList avoid es)) ++ "]"
  | .subscript value index => do
    let v ← print avoid Rank.atom value
    return v ++ "[" ++ (← print avoid Rank.test index) ++ "]"
  | .slice lower upper step => do
    let l ← printOptional avoid lower
    let u ← printOptional avoid upper
    let s ← printOptional avoid step
    return l.getD "" ++ ":" ++ u.getD "" ++ (s.map (":" ++ ·)).getD ""
  | .starred value => do
    return "*" ++ (← print avoid Rank.bitOr value)
  | .unary op operand => do
    let e ← print avoid op.rank operand
    return parens (rank > op.rank) (op.symbol ++ e)
  | .binary left op right => do
    let (l, r) := if op == .pow then (Rank.next op.rank, op.rank) else (op.rank, Rank.next op.rank)
    let a ← print avoid l left
    let b ← print avoid r right
    return parens (rank > op.rank) (a ++ " " ++ op.symbol ++ " " ++ b)
  | .compare left rest => do
    let a ← print avoid (Rank.next Rank.compare) left
    return parens (rank > Rank.compare) (a ++ String.join (← printCompared avoid rest))
  | .bool op values => do
    let vs ← printRising avoid op.rank values
    return parens (rank > op.rank) (String.intercalate op.symbol vs)
  | .conditional test body orelse => do
    let b ← print avoid Rank.or body
    let t ← print avoid Rank.or test
    let e ← print avoid Rank.test orelse
    return parens (rank > Rank.test) (b ++ " if " ++ t ++ " else " ++ e)
  | .lambda params body => do
    let ps := paramList (← printParams avoid params)
    let b ← print avoid Rank.test body
    let gap := if ps.isEmpty then "" else " "
    return parens (rank > Rank.test) ("lambda" ++ gap ++ ps ++ ": " ++ b)
  | .named target value => do
    let t ← print avoid Rank.atom target
    let v ← print avoid Rank.atom value
    return parens (rank > Rank.named) (t ++ " := " ++ v)
  | .list elements => do
    return "[" ++ commas (← printList avoid elements) ++ "]"
  | .tuple elements => do
    let items := tupleItems (← printList avoid elements)
    return parens (elements.isEmpty || rank > Rank.tuple) items
  | .set elements => do
    if elements.isEmpty then return "\x7b*()\x7d"
    return "\x7b" ++ commas (← printList avoid elements) ++ "\x7d"
  | .dict items => do
    return "\x7b" ++ commas (← printItems avoid items) ++ "\x7d"
  | .listComp element clauses => do
    let e ← print avoid Rank.test element
    return "[" ++ e ++ String.join (← printClauses avoid clauses) ++ "]"
  | .setComp element clauses => do
    let e ← print avoid Rank.test element
    return "\x7b" ++ e ++ String.join (← printClauses avoid clauses) ++ "\x7d"
  | .generator element clauses => do
    let e ← print avoid Rank.test element
    return "(" ++ e ++ String.join (← printClauses avoid clauses) ++ ")"
  | .dictComp key value clauses => do
    let k ← print avoid Rank.test key
    let v ← print avoid Rank.test value
    return "\x7b" ++ k ++ ": " ++ v ++ String.join (← printClauses avoid clauses) ++ "\x7d"
  | .await value => do
    return parens (rank > Rank.await) ("await " ++ (← print avoid Rank.atom value))
  | .yield none => some (parens (rank > Rank.yield) "yield")
  | .yield (some value) => do
    return parens (rank > Rank.yield) ("yield " ++ (← print avoid Rank.atom value))
  | .yieldFrom value => do
    return parens (rank > Rank.yield) ("yield from " ++ (← print avoid Rank.atom value))

def printList (avoid : Bool) : List Expr → Option (List String)
  | [] => some []
  | e :: es => do
    let s ← print avoid Rank.test e
    return s :: (← printList avoid es)

def printOptional (avoid : Bool) : Option Expr → Option (Option String)
  | none => some none
  | some e => do
    return some (← print avoid Rank.test e)

/-- Operands of `and` or `or`: each is held to a tighter rank than the one before it. -/
def printRising (avoid : Bool) (rank : Nat) : List Expr → Option (List String)
  | [] => some []
  | e :: es => do
    let s ← print avoid (Rank.next rank) e
    return s :: (← printRising avoid (Rank.next rank) es)

def printCompared (avoid : Bool) : List (CompareOp × Expr) → Option (List String)
  | [] => some []
  | (op, e) :: rest => do
    let s ← print avoid (Rank.next Rank.compare) e
    return (" " ++ op.symbol ++ " " ++ s) :: (← printCompared avoid rest)

def printKeywords (avoid : Bool) : List (Option String × Expr) → Option (List String)
  | [] => some []
  | (name, e) :: rest => do
    let s ← print avoid Rank.test e
    let front := match name with
      | some id => id ++ "="
      | none => "**"
    return (front ++ s) :: (← printKeywords avoid rest)

def printItems (avoid : Bool) : List (Option Expr × Expr) → Option (List String)
  | [] => some []
  | (none, value) :: rest => do
    let v ← print avoid Rank.bitOr value
    return ("**" ++ v) :: (← printItems avoid rest)
  | (some key, value) :: rest => do
    let k ← print avoid Rank.test key
    let v ← print avoid Rank.test value
    return (k ++ ": " ++ v) :: (← printItems avoid rest)

/-- The conditions of a clause, each behind its word. -/
def printConditions (avoid : Bool) : List Expr → Option (List String)
  | [] => some []
  | e :: es => do
    let s ← print avoid Rank.or e
    return (" if " ++ s) :: (← printConditions avoid es)

def printClauses (avoid : Bool) : List (Clause Expr) → Option (List String)
  | [] => some []
  | ⟨isAsync, target, source, conditions⟩ :: rest => do
    let t ← print avoid Rank.tuple target
    let s ← print avoid Rank.or source
    let cs ← printConditions avoid conditions
    let front := if isAsync then " async for " else " for "
    return (front ++ t ++ " in " ++ s ++ String.join cs) :: (← printClauses avoid rest)

def printParams (avoid : Bool) : List (Param Expr) → Option (List ParamText)
  | [] => some []
  | ⟨kind, name, annotation, default⟩ :: rest => do
    let a ← printOptional avoid annotation
    let d ← printOptional avoid default
    let text := name ++ (a.map (": " ++ ·)).getD "" ++ (d.map ("=" ++ ·)).getD ""
    return ⟨kind, text⟩ :: (← printParams avoid rest)

/-- A part of a text with holes, and whether it is literal text. -/
def innerText : Expr → Option (Text × Bool)
  | .const (.text t) _ => some (doubleBraces t, true)
  | .joined parts => do
    return (Text.concat ((← innerTexts parts).map Prod.fst), false)
  | .formatted value conversion spec => do
    let inner ← print true Rank.or value
    return (← hole? inner conversion (← innerSpec spec), false)
  | _ => none

def innerTexts : List Expr → Option (List (Text × Bool))
  | [] => some []
  | e :: es => do
    let t ← innerText e
    return t :: (← innerTexts es)

/-- A format specification behind its colon. -/
def innerSpec : Option Expr → Option Text
  | none => some Text.empty
  | some e => do
    return (":" : Text) ++ (← innerText e).1

end

end Printer

/-- The source text of an expression, if it has one. -/
def Expr.source? (e : Expr) : Option String :=
  if e.nesting ≤ Expr.nestingLimit then Printer.print false Rank.test e else none

end BpfCompiler.Syntax
