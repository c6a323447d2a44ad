import BpfCompiler.Syntax.Grammar.Expression

/-!
# The grammar of case patterns

The compiler looks at no case, so patterns are only checked for form.
-/

namespace BpfCompiler.Syntax.Grammar

open Reader

def numberLiteral : Reader Literal := do
  match ← peek with
  | .number value => do
    advance
    return value
  | _ => stuck

def isImaginary : Literal → Bool
  | .imaginary _ => true
  | _ => false

/-- A number, perhaps with a sign, perhaps with an imaginary part. -/
def signedNumber : Reader Unit := do
  let _ ← op? "-"
  let first ← numberLiteral
  if (← op? "+") || (← op? "-") then
    let second ← numberLiteral
    if isImaginary first || !isImaginary second then stuck

/-- The token of a pattern that matches anything. -/
def isWildcard (t : Token) : Bool := t.isWord "_"

def captureName : Reader Unit := do
  if isWildcard (← peek) then stuck
  let _ ← identifier
  match ← peek with
  | .op "." | .op "(" | .op "=" => stuck
  | _ => return ()

/-- Items with commas between them and before `ending`, which is taken. -/
def itemsUntil (fuel : Nat) (ending : String) (item : Reader Unit) : Reader Unit :=
  repeatFrom
    (fun (_ : Unit) => do
      if (← peek) == .op ending then return none
      item
      if (← peek) == .op ending then return some ()
      op ","
      return some ())
    (fuel + 1) ()
  *> op ending

/-- A pattern, or a star and a name. -/
def starOrPattern (nested : Reader Unit) : Reader Unit := do
  if ← op? "*" then
    let _ ← identifier
  else nested

def mappingItem (l : Level) (nested : Reader Unit) : Reader Unit := do
  if ← op? "**" then
    captureName
    -- nothing but the end may follow
    let _ ← op? ","
    if (← peek) != .op "\x7d" then stuck
  else
    match ← peek with
    | .number _ | .op "-" => signedNumber
    | .string _ => do
      let _ ← strings l
    | .name "None" _ | .name "True" _ | .name "False" _ => advance
    | _ => do
      let _ ← identifier
      let dots ← repeatFrom
        (fun (n : Nat) => do
          if ← op? "." then
            let _ ← identifier
            return some (n + 1)
          else return none)
        (l.fuel + 1) 0
      if dots = 0 then stuck
    op ":"
    nested

/-- How far the arguments of a class pattern have come. -/
inductive ClassArguments where
  | start
  | positional
  | keyworded
deriving DecidableEq

/-- Positional patterns first, then patterns for attributes.  Behind a positional pattern a wildcard is
never the name of an attribute. -/
def classArguments (l : Level) (nested : Reader Unit) : Reader Unit := do
  let _ ← repeatFrom
    (fun (before : ClassArguments) => do
      if (← peek) == .op ")" then return none
      let isKeyword : Bool := match ← peek, ← peekSecond with
        | .name id _, .op "=" => before != .positional || id != "_"
        | _, _ => false
      if isKeyword then
        let _ ← identifier
        op "="
      else if before == .keyworded then stuck
      nested
      if (← peek) != .op ")" then op ","
      return some (if isKeyword then .keyworded else .positional))
    (l.fuel + 1) ClassArguments.start
  op ")"

def nameOrClass (l : Level) (nested : Reader Unit) : Reader Unit := do
  let _ ← identifier
  let _ ← repeatFrom
    (fun (_ : Unit) => do
      if ← op? "." then
        let _ ← identifier
        return some ()
      else return none)
    (l.fuel + 1) ()
  if ← op? "(" then classArguments l nested
  else if (← peek) == .op "=" then stuck

/-- Patterns in round brackets.  One alone is a group, and then it has no star. -/
def inPatternParens (l : Level) (nested : Reader Unit) : Reader Unit := do
  if ← op? ")" then return ()
  let starred := (← peek) == .op "*"
  starOrPattern nested
  if ← op? "," then itemsUntil l.fuel ")" (starOrPattern nested)
  else if starred then stuck
  else op ")"

def closedPattern (l : Level) (nested : Reader Unit) : Reader Unit := do
  match ← peek with
  | .number _ | .op "-" => signedNumber
  | .string _ => do
    let _ ← strings l
  | .name "None" _ | .name "True" _ | .name "False" _ => advance
  | .name "_" _ => advance
  | .name _ _ => nameOrClass l nested
  | .op "(" => do
    advance
    inPatternParens l nested
  | .op "[" => do
    advance
    itemsUntil l.fuel "]" (starOrPattern nested)
  | .op "\x7b" => do
    advance
    let _ ← repeatFrom
      (fun (_ : Unit) => do
        if (← peek) == .op "\x7d" then return none
        mappingItem l nested
        if (← peek) != .op "\x7d" then op ","
        return some ())
      (l.fuel + 1) ()
    op "\x7d"
  | _ => stuck

/-- A pattern with `n` levels of nesting below it. -/
def patternAt (l : Level) : Nat → Reader Unit
  | 0 => stuck
  | n + 1 => do
    let closed := closedPattern l (patternAt l n)
    closed
    let _ ← repeatFrom
      (fun (_ : Unit) => do
        if ← op? "|" then
          closed
          return some ()
        else return none)
      (l.fuel + 1) ()
    if ← word? "as" then captureName

/-- What a case matches: a pattern, or several with commas between them. -/
def patterns (l : Level) : Reader Unit := do
  let item := starOrPattern (patternAt l l.fuel)
  let starred := (← peek) == .op "*"
  item
  let commas ← repeatFrom
    (fun (n : Nat) => do
      if ← op? "," then
        match ← peek with
        | .op ":" | .name "if" _ => return some (n + 1)
        | _ => do
          item
          return some (n + 1)
      else return none)
    (l.fuel + 1) 0
  if starred && commas = 0 then stuck

end BpfCompiler.Syntax.Grammar
