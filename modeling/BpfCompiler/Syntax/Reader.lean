import BpfCompiler.Syntax.Expr
import BpfCompiler.Syntax.Token
import BpfCompiler.Text.Normal

/-!
# Reading tokens

The steps that the grammar is built from.  A reader takes tokens from the front of a list.  One that
cannot go on is stuck at a token; when two readings of the same tokens both get stuck, the one that
got further explains the failure.  Some failures are final: then no other reading is tried.
-/

namespace BpfCompiler.Syntax

/-- Where a reader got stuck: the fault, how many tokens were left, and whether that is final. -/
structure Stuck where
  fault : SourceFault
  left : Nat
  isFinal : Bool

abbrev Reader := StateT (List Token) (Except Stuck)

namespace Reader

variable {α : Type}

/-- The next token; the last token of the list is never taken. -/
def peek : Reader Token := do
  return (← get).head?.getD .eof

/-- The token after the next. -/
def peekSecond : Reader Token := do
  return (← get).tail.head?.getD .eof

def advance : Reader Unit := modify List.tail

def fail (fault : SourceFault) : Reader α := do
  throw ⟨fault, (← get).length, false⟩

/-- Fails for good. -/
def refuse (fault : SourceFault) : Reader α := do
  throw ⟨fault, (← get).length, true⟩

/-- Gives up at the next token, for good if the text cannot be cut there. -/
def stuck : Reader α := do
  let token ← peek
  if token.isCut then refuse token.fault else fail token.fault

/-- Takes the operator if it is next. -/
def op? (symbol : String) : Reader Bool := do
  if (← peek) == .op symbol then
    advance
    return true
  else return false

def op (symbol : String) : Reader Unit := do
  unless ← op? symbol do stuck

/-- Takes the word if it is next; used for keywords, also the soft ones. -/
def word? (w : String) : Reader Bool := do
  if (← peek).isWord w then
    advance
    return true
  else return false

def word (w : String) : Reader Unit := do
  unless ← word? w do stuck

def newline : Reader Unit := do
  if (← peek) == .newline then advance else stuck

/-- A name that is no keyword, in its normal form. -/
def identifier : Reader String := do
  match ← peek with
  | .name id _ =>
    if Token.keywords.contains id then stuck
    else
      advance
      return Text.Normal.identifier id
  | _ => stuck

/-- Tries a second reading when the first gets stuck. -/
def orElse (first second : Reader α) : Reader α := fun tokens =>
  match first tokens with
  | .ok r => .ok r
  | .error e =>
    if e.isFinal then .error e
    else
      match second tokens with
      | .ok r => .ok r
      | .error e' => .error (if e.left ≤ e'.left && !e'.isFinal then e else e')

/-- Whether a reading succeeds here.  Nothing is taken. -/
def accepts (reading : Reader α) : Reader Bool := fun tokens =>
  match reading tokens with
  | .ok _ => .ok (true, tokens)
  | .error e => if e.isFinal then .error e else .ok (false, tokens)

/-- Repeats a step until it answers none, at most `fuel` times. -/
def repeatFrom (step : α → Reader (Option α)) : Nat → α → Reader α
  | 0, _ => stuck
  | fuel + 1, a => do
    match ← step a with
    | some a' => repeatFrom step fuel a'
    | none => return a

/-- Items with commas between them.  After a comma the list ends when `more` refuses the next token;
the answer also says whether the last comma was left over. -/
def commaList (fuel : Nat) (more : Token → Bool) (item : Reader α) : Reader (List α × Bool) := do
  let first ← item
  let (items, trailing, _) ← repeatFrom
    (fun ((items, trailing, done) : List α × Bool × Bool) => do
      if done then return none
      if ← op? "," then
        if more (← peek) then return some ((← item) :: items, false, false)
        else return some (items, true, true)
      else return some (items, trailing, true))
    (fuel + 2) ([first], false, false)
  return (items.reverse, trailing)

end Reader

end BpfCompiler.Syntax
