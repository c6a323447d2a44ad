import BpfCompiler.Syntax.Token

/-!
# Number literals

Integers in four bases, decimals with a point or an exponent, and imaginary numbers.  An underscore
may stand between two digits.  A decimal integer has no leading zero unless it is zero, and a literal
is not followed directly by a letter, except where a keyword that may follow a number begins.
-/

namespace BpfCompiler.Syntax.NumberLiteral

def digitValue? (base : Nat) (c : Char) : Option Nat :=
  let v :=
    if c.isDigit then c.toNat - 0x30
    else if 'a' ≤ c && c ≤ 'f' then c.toNat - 0x61 + 10
    else if 'A' ≤ c && c ≤ 'F' then c.toNat - 0x41 + 10
    else base
  if v < base then some v else none

/-- A run of digits with single underscores between them: the digits' values and what follows.
The run is refused when an underscore is not followed by a digit. -/
def digitRun (base : Nat) : List Char → Option (List Nat × List Char)
  | [] => some ([], [])
  | [c] =>
    match digitValue? base c with
    | some v => some ([v], [])
    | none => some ([], [c])
  | c :: d :: rest =>
    match digitValue? base c with
    | none => some ([], c :: d :: rest)
    | some v =>
      if d == '_' then
        match rest with
        | [] => none
        | e :: _ =>
          if (digitValue? base e).isSome then
            (digitRun base rest).map fun (vs, left) => (v :: vs, left)
          else none
      else (digitRun base (d :: rest)).map fun (vs, left) => (v :: vs, left)

def ofDigits (base : Nat) (vs : List Nat) : Nat :=
  vs.foldl (fun n v => n * base + v) 0

def isIdentifierLike (c : Char) : Bool := c.isAlphanum || c == '_' || 0x80 ≤ c.toNat

/-- Whether a number may end before `cs`. -/
def mayEnd (cs : List Char) : Bool :=
  match cs with
  | [] => true
  | c :: _ =>
    !isIdentifierLike c ||
      ["and", "else", "for", "if", "in", "is", "or", "not"].any fun w => w.toList.isPrefixOf cs

/-- Decimal integers other than zero are limited in length. -/
def maxDecimalDigits : Nat := 4300

def radixInteger (base : Nat) (cs : List Char) : Option (Literal × List Char) :=
  let cs := match cs with
    | '_' :: rest => rest
    | _ => cs
  match digitRun base cs with
  | some (v :: vs, rest) =>
    if mayEnd rest then some (.int (ofDigits base (v :: vs)), rest) else none
  | _ => none

/-- What may follow the digits of a decimal: an exponent, with its sign. -/
def exponent? (cs : List Char) : Option (Option Int × List Char) :=
  match cs with
  | c :: rest =>
    if c == 'e' || c == 'E' then
      match rest with
      | s :: d :: _ =>
        if s == '+' || s == '-' then
          if d.isDigit then
            (digitRun 10 (rest.drop 1)).map fun (vs, left) =>
              let n : Int := ofDigits 10 vs
              (some (if s == '-' then -n else n), left)
          else none
        else if s.isDigit then
          (digitRun 10 rest).map fun (vs, left) => (some (ofDigits 10 vs : Int), left)
        else some (none, cs)
      | [s] =>
        if s.isDigit then
          (digitRun 10 rest).map fun (vs, left) => (some (ofDigits 10 vs : Int), left)
        else some (none, cs)
      | [] => some (none, cs)
    else some (none, cs)
  | [] => some (none, [])

def imaginaryMark (cs : List Char) : Bool × List Char :=
  match cs with
  | c :: rest => if c == 'j' || c == 'J' then (true, rest) else (false, cs)
  | [] => (false, [])

def finish (value : Literal) (cs : List Char) : Option (Literal × List Char) :=
  if mayEnd cs then some (value, cs) else none

/-- A decimal from its whole digits on; `whole` may be empty when a point follows. -/
def decimal (whole : List Nat) (cs : List Char) : Option (Literal × List Char) := do
  let (point, fraction, cs) ← match cs with
    | '.' :: rest => do
      let (vs, left) ← digitRun 10 rest
      pure (true, vs, left)
    | _ => pure (false, [], cs)
  let (exponent, cs) ← exponent? cs
  let digits := ofDigits 10 (whole ++ fraction)
  let value := Double.ofDecimal false digits (exponent.getD 0 - fraction.length)
  let (isImaginary, cs) := imaginaryMark cs
  if isImaginary then finish (.imaginary value) cs
  else if point || exponent.isSome then finish (.float value) cs
  else if whole.head? == some 0 && digits ≠ 0 then none
  else if maxDecimalDigits < whole.length && digits ≠ 0 then none
  else finish (.int digits) cs

/-- The number literal at the head of `cs`, which begins with a digit or with a point and a digit;
none when it is ill formed. -/
def scan (cs : List Char) : Option (Literal × List Char) :=
  match cs with
  | '0' :: c :: rest =>
    if c == 'x' || c == 'X' then radixInteger 16 rest
    else if c == 'o' || c == 'O' then radixInteger 8 rest
    else if c == 'b' || c == 'B' then radixInteger 2 rest
    else do
      let (whole, left) ← digitRun 10 cs
      decimal whole left
  | _ => do
    let (whole, left) ← digitRun 10 cs
    decimal whole left

end BpfCompiler.Syntax.NumberLiteral
