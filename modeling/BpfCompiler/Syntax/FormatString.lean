import BpfCompiler.Syntax.StringLiteral

/-!
# Texts with holes

The body of a format literal is cut into literal text and fields.  A field holds the characters of
an expression, which ends at the first `!`, `:`, `=` or closing brace outside brackets and quotes; then
come, each optional, an equals sign that repeats the expression as text, a conversion and a format
specification.  A specification is cut in the same way, but its braces are never doubled and its own
fields have specifications without fields.
-/

namespace BpfCompiler.Syntax.FormatString

inductive Piece where
  | literal (value : Text)
  | field (expression : List Char) (conversion : Option Char) (spec : Option (List Piece))

def openBrace : Char := '\x7b'

def closeBrace : Char := '\x7d'

/-- Where literal text ends. -/
inductive Stop where
  /-- A doubled brace: the literal goes on behind it. -/
  | doubled
  | brace
  | finished

/-- The literal text at the head of `cs`: its characters, why it ends, and the rest.  `skipName` is
set inside the braces of a named escape. -/
def literalRun (raw top : Bool) : Bool → List Char → Option (List Char × Stop × List Char)
  | _, [] => some ([], .finished, [])
  | true, c :: rest => do
    let (cs, stop, left) ← literalRun raw top (c != closeBrace) rest
    pure (c :: cs, stop, left)
  | false, [c] =>
    if c == openBrace then some ([], .brace, [c])
    else if c == closeBrace then if top then none else some ([], .brace, [c])
    else some ([c], .finished, [])
  | false, c :: d :: rest =>
    if c == openBrace || c == closeBrace then
      if top && c == d then some ([c], .doubled, rest)
      else if top && c == closeBrace then none
      else some ([], .brace, c :: d :: rest)
    else if !raw && c == '\\' && d != openBrace && d != closeBrace then
      if d == 'N' then
        match rest with
        | e :: rest' =>
          if e == openBrace then do
            let (cs, stop, left) ← literalRun raw top true rest'
            pure (c :: d :: e :: cs, stop, left)
          else do
            let (cs, stop, left) ← literalRun raw top false rest'
            pure (c :: d :: e :: cs, stop, left)
        | [] => some ([c, d], .finished, [])
      else do
        let (cs, stop, left) ← literalRun raw top false rest
        pure (c :: d :: cs, stop, left)
    else do
      let (cs, stop, left) ← literalRun raw top false (d :: rest)
      pure (c :: cs, stop, left)

def closes (o c : Char) : Bool :=
  (o == '(' && c == ')') || (o == '[' && c == ']') || (o == openBrace && c == closeBrace)

def isQuote (c : Char) : Bool := c == '\x27' || c == '\x22'

/-- Inside a nested literal: the quote that ends it, and whether it takes three. -/
structure Quoting where
  mark : Char
  triple : Bool

/-- The characters of a field's expression, and the rest from the character that ends it.  `skip`
characters have been looked at and belong to the expression. -/
def expressionRun :
    Nat → Option Quoting → List Char → List Char → Option (List Char × List Char)
  | _, _, _, [] => none
  | skip + 1, quoting, brackets, c :: rest => do
    let (cs, left) ← expressionRun skip quoting brackets rest
    pure (c :: cs, left)
  | 0, quoting, brackets, c :: rest =>
    let take (skip : Nat) (quoting : Option Quoting) (brackets : List Char) := do
      let (cs, left) ← expressionRun skip quoting brackets rest
      pure (c :: cs, left)
    if c == '\\' then none
    else match quoting with
      | some q =>
        if c == q.mark then
          if q.triple then
            if rest.take 2 == [c, c] then take 2 none brackets
            else take 0 quoting brackets
          else take 0 none brackets
        else take 0 quoting brackets
      | none =>
        if isQuote c then
          if rest.take 2 == [c, c] then take 2 (some ⟨c, true⟩) brackets
          else take 0 (some ⟨c, false⟩) brackets
        else if c == '[' || c == openBrace || c == '(' then take 0 none (c :: brackets)
        else if c == '#' then none
        else if brackets.isEmpty && (['!', ':', '=', '<', '>'].contains c || c == closeBrace) then
          if ['!', '=', '<', '>'].contains c && rest.head? == some '=' then take 1 none brackets
          else if c == '<' || c == '>' then take 0 none brackets
          else some ([], c :: rest)
        else if c == ']' || c == closeBrace || c == ')' then
          match brackets with
          | [] => none
          | o :: outer => if closes o c then take 0 none outer else none
        else take 0 none brackets

def isBlank (c : Char) : Bool := c == ' ' || c == '\t' || c == '\n' || c == '\x0c'

/-- Blanks that may follow the equals sign of a field. -/
def isSpace (c : Char) : Bool := isBlank c || c == '\x0b' || c == '\r'

structure Field where
  expression : List Char
  repeated : Option (List Char)
  conversion : Option Char
  rest : List Char

/-- A field up to its specification; `cs` begins behind the opening brace. -/
def fieldHead (cs : List Char) : Option Field := do
  let (expression, rest) ← expressionRun 0 none [] cs
  if expression.all isBlank then none
  let (repeated, rest) := match rest with
    | '=' :: more =>
      let blanks := more.takeWhile isSpace
      (some (expression ++ '=' :: blanks), more.dropWhile isSpace)
    | _ => (none, rest)
  match rest with
  | '!' :: c :: more =>
    if c == 's' || c == 'r' || c == 'a' then pure ⟨expression, repeated, some c, more⟩ else none
  | '!' :: [] => none
  | _ => pure ⟨expression, repeated, none, rest⟩

/-- Cuts a body, or a specification when `top` is false, into pieces; returns the rest, which is
empty for a body and begins with the closing brace for a specification. -/
def pieces (raw : Bool) : Nat → Nat → Bool → List Char → Option (List Piece × List Char)
  | 0, _, _, _ => none
  | fuel + 1, depth, top, cs => do
    let (chars, stop, rest) ← literalRun raw top false cs
    let value ← if chars.isEmpty then pure Text.empty else StringLiteral.text? raw chars
    let front : List Piece := if value.isEmpty then [] else [.literal value]
    match stop with
    | .finished => pure (front, [])
    | .doubled => do
      let (more, left) ← pieces raw fuel depth top rest
      pure (front ++ more, left)
    | .brace =>
      match rest with
      | [] => none
      | c :: rest =>
        if c == closeBrace then pure (front, c :: rest)
        else
          match depth with
          | 0 => none
          | depth + 1 => do
            let field ← fieldHead rest
            let front := front ++ match field.repeated with
              | some chars => [.literal (Text.ofChars chars)]
              | none => []
            let (spec, rest) ← match field.rest with
              | ':' :: more => do
                let (spec, left) ← pieces raw fuel depth false more
                pure (some spec, left)
              | rest => pure (none, rest)
            match rest with
            | c :: rest =>
              if c == closeBrace then do
                let conversion :=
                  if field.repeated.isSome && spec.isNone && field.conversion.isNone then some 'r'
                  else field.conversion
                let (more, left) ← pieces raw fuel (depth + 1) top rest
                pure (front ++ .field field.expression conversion spec :: more, left)
              else none
            | [] => none

/-- The pieces of a format literal's body; none when it is ill formed. -/
def cut? (raw : Bool) (body : List Char) : Option (List Piece) := do
  let (ps, left) ← pieces raw (body.length + 1) 2 true body
  if left.isEmpty then pure ps else none

end BpfCompiler.Syntax.FormatString
