import BpfCompiler.Syntax.NumberLiteral
import BpfCompiler.Text.Classes

/-!
# Cutting a source text into tokens

Lines are logical: inside brackets and after a backslash a line end is a blank.  The blanks that begin
a logical line give its indentation, measured twice: with tab stops every eight columns and with a
tab as one column.  Both measures have to agree on which of two lines stands deeper, so a text
whose structure hangs on the width of a tab is refused.
-/

namespace BpfCompiler.Syntax.Lexer

/-- Every line end becomes a line feed. -/
def universalNewlines : List Char → List Char
  | [] => []
  | '\r' :: '\n' :: rest => '\n' :: universalNewlines rest
  | '\r' :: rest => '\n' :: universalNewlines rest
  | c :: rest => c :: universalNewlines rest

/-- The lines of a source text, each with its end.  A text that ends in a carriage return and a line feed
gets an empty line more. -/
def lines (cs : List Char) : List Char :=
  let ends := match cs.reverse with
    | '\n' :: '\r' :: _ => false
    | '\n' :: _ | '\r' :: _ | [] => true
    | _ => false
  universalNewlines cs ++ if ends then [] else ['\n']

/-- An indentation by the two measures. -/
structure Indent where
  column : Nat
  tabless : Nat

/-- How deep brackets and blocks may nest. -/
def maxBrackets : Nat := 200

def maxIndents : Nat := 100

/-- The blanks at the head of a line.  A backslash may split them, and then the first line counts. -/
def indentation :
    Option Indent → Indent → List Char → Option (Indent × List Char)
  | first, here, ' ' :: rest => indentation first ⟨here.column + 1, here.tabless + 1⟩ rest
  | first, here, '\t' :: rest =>
    indentation first ⟨(here.column / 8 + 1) * 8, here.tabless + 1⟩ rest
  | first, _, '\x0c' :: rest => indentation first ⟨0, 0⟩ rest
  | first, here, '\\' :: '\n' :: rest =>
    if rest.isEmpty then none
    else
      let counted := if here.column = 0 then none else some ⟨here.column, here.column⟩
      indentation (first.or counted) here rest
  | _, _, '\\' :: _ => none
  | first, here, rest => some (first.getD here, rest)

/-- The tokens that a line's indentation gives, and the open blocks after it, innermost first. -/
def layout (here : Indent) : List Indent → List Token × List Indent
  | [] => ([], [here])
  | top :: outer =>
    if here.column = top.column then
      if here.tabless = top.tabless then ([], top :: outer)
      else ([.bad .inconsistentTabs], top :: outer)
    else if top.column < here.column then
      if maxIndents ≤ outer.length + 1 then ([.bad .indentation], top :: outer)
      else if here.tabless ≤ top.tabless then ([.bad .inconsistentTabs], top :: outer)
      else ([.indent], here :: top :: outer)
    else leave outer [.dedent]
where
  /-- Closes blocks until one stands at the indentation of the line. -/
  leave : List Indent → List Token → List Token × List Indent
    | [], _ => ([.bad .indentation], [])
    | top :: outer, tokens =>
      if here.column < top.column then leave outer (.dedent :: tokens)
      else if here.column ≠ top.column then ([.bad .indentation], top :: outer)
      else if here.tabless ≠ top.tabless then ([.bad .inconsistentTabs], top :: outer)
      else (tokens, top :: outer)

def isIdentifierLike (c : Char) : Bool := c.isAlphanum || c == '_' || 0x80 ≤ c.toNat

def isIdentifier : List Char → Bool
  | [] => false
  | c :: rest => Text.isIdentifierStart c && rest.all Text.isIdentifierContinue

theorem ofList_ne_empty {chars : List Char} (h : isIdentifier chars) : String.ofList chars ≠ "" := by
  rw [ne_eq, String.ofList_eq_empty_iff]
  rintro rfl
  cases h

def isQuote (c : Char) : Bool := c == '\x27' || c == '\x22'

/-- What the letters in front of a quote say. -/
def flags? (letters : List Char) : Option StringToken :=
  let lower := letters.map Char.toLower
  match String.ofList lower with
  | "" => some ⟨false, false, false, false, []⟩
  | "r" => some ⟨true, false, false, false, []⟩
  | "b" => some ⟨false, true, false, false, []⟩
  | "u" => some ⟨false, false, false, letters == ['u'], []⟩
  | "f" => some ⟨false, false, true, false, []⟩
  | "br" | "rb" => some ⟨true, true, false, false, []⟩
  | "fr" | "rf" => some ⟨true, false, true, false, []⟩
  | _ => none

/-- The body of a literal that one quote ends, and the rest. -/
def lineBody (mark : Char) : List Char → Option (List Char × List Char)
  | [] => none
  | '\n' :: _ => none
  | '\\' :: c :: rest => (lineBody mark rest).map fun (body, left) => ('\\' :: c :: body, left)
  | c :: rest =>
    if c == mark then some ([], rest)
    else (lineBody mark rest).map fun (body, left) => (c :: body, left)

/-- The body of a literal that three quotes end, and the rest. -/
def longBody (mark : Char) : List Char → Option (List Char × List Char)
  | [] => none
  | '\\' :: c :: rest => (longBody mark rest).map fun (body, left) => ('\\' :: c :: body, left)
  | c :: rest =>
    if c == mark && rest.take 2 == [mark, mark] then some ([], rest.drop 2)
    else (longBody mark rest).map fun (body, left) => (c :: body, left)

/-- The string literal at the head of `cs`, if its first characters announce one: the token, or a
refusal when it does not end. -/
def string? (cs : List Char) : Option (Option (Token × List Char)) :=
  let letters := (cs.take 3).takeWhile fun c => c.isAlpha
  match flags? letters, cs.drop letters.length with
  | some flags, c :: rest =>
    if isQuote c then
      let body :=
        if rest.take 2 == [c, c] then longBody c (rest.drop 2) else lineBody c rest
      some (body.map fun (b, left) => (.string { flags with body := b }, left))
    else none
  | _, _ => none

def symbols3 : List String := ["**=", "//=", ">>=", "<<=", "..."]

def symbols2 : List String :=
  ["**", "//", ">>", "<<", "<=", ">=", "==", "!=", "->", "+=", "-=", "*=", "/=", "%=", "&=", "|=",
   "^=", "@=", ":=", "<>"]

/-- The longest operator at the head of `cs`. -/
def symbol (cs : List Char) : String × List Char :=
  let three := String.ofList (cs.take 3)
  let two := String.ofList (cs.take 2)
  if symbols3.contains three then (three, cs.drop 3)
  else if symbols2.contains two then (two, cs.drop 2)
  else (String.ofList (cs.take 1), cs.drop 1)

def closes (o c : Char) : Bool :=
  (o == '(' && c == ')') || (o == '[' && c == ']') || (o == '\x7b' && c == '\x7d')

def isOpen (c : Char) : Bool := c == '(' || c == '[' || c == '\x7b'

def isClose (c : Char) : Bool := c == ')' || c == ']' || c == '\x7d'

/-- Closes what is open at the end of the text. -/
def finish (indents : List Indent) (brackets : List Char) : List Token :=
  if brackets.isEmpty then List.replicate (indents.length - 1) .dedent ++ [.eof]
  else [.unfinished]

/-- The tokens of `cs`.  `atStart` is set where a logical line begins. -/
def scan : Nat → Bool → List Indent → List Char → List Char → List Token
  | 0, _, _, _, _ => [.bad .malformed]
  | _ + 1, _, indents, brackets, [] => finish indents brackets
  | fuel + 1, true, indents, brackets, c :: cs =>
    match indentation none ⟨0, 0⟩ (c :: cs) with
    | none => [.unfinished]
    | some (here, rest) =>
      match rest with
      | '\n' :: rest => scan fuel true indents brackets rest
      | '#' :: rest => scan fuel true indents brackets ((rest.dropWhile (· != '\n')).drop 1)
      | rest =>
        let (tokens, indents) := layout here indents
        if tokens.any Token.isBad then tokens
        else tokens ++ scan fuel false indents brackets rest
  | fuel + 1, false, indents, brackets, c :: cs =>
    if c == ' ' || c == '\t' || c == '\x0c' then scan fuel false indents brackets cs
    else if c == '#' then scan fuel false indents brackets (cs.dropWhile (· != '\n'))
    else if c == '\n' then
      if brackets.isEmpty then .newline :: scan fuel true indents brackets cs
      else scan fuel false indents brackets cs
    else if c == '\\' then
      match cs with
      | '\n' :: rest =>
        if rest.isEmpty then [.unfinished] else scan fuel false indents brackets rest
      | _ => [.unfinished]
    else if c.isDigit || (c == '.' && (cs.head?.map Char.isDigit).getD false) then
      match NumberLiteral.scan (c :: cs) with
      | some (value, rest) => .number value :: scan fuel false indents brackets rest
      | none => [.bad .malformed]
    else match string? (c :: cs) with
      | some (some (token, rest)) => token :: scan fuel false indents brackets rest
      | some none => [.bad .malformed]
      | none =>
        if isIdentifierLike c then
          let chars := (c :: cs).takeWhile isIdentifierLike
          if h : isIdentifier chars then
            .name (String.ofList chars) (ofList_ne_empty h) ::
              scan fuel false indents brackets ((c :: cs).dropWhile isIdentifierLike)
          else [.bad .malformed]
        else if isOpen c then
          if maxBrackets ≤ brackets.length then [.bad .malformed]
          else .op (String.singleton c) :: scan fuel false indents (c :: brackets) cs
        else if isClose c then
          match brackets with
          | o :: outer =>
            if closes o c then .op (String.singleton c) :: scan fuel false indents outer cs
            else [.bad .malformed]
          | [] => [.bad .malformed]
        else if c.toNat < 0x20 || c.toNat = 0x7F then [.bad .malformed]
        else
          let (text, rest) := symbol (c :: cs)
          .op text :: scan fuel false indents brackets rest

/-- The tokens of lines; the last one is `eof`, `unfinished` or `bad`. -/
def lineTokens (cs : List Char) : List Token :=
  -- each step takes a character, or moves from the start of a line into it
  scan (2 * cs.length + 2) true [⟨0, 0⟩] [] cs

/-- The tokens of a source text. -/
def tokens (source : List Char) : List Token := lineTokens (lines source)

/-- The tokens of an expression alone, whose last line need not end. -/
def expressionTokens (source : List Char) : List Token := lineTokens (universalNewlines source)

/-- The tokens of an expression that stands in brackets of its own. -/
def bracketedTokens (expression : List Char) : List Token :=
  let cs := '(' :: expression ++ [')']
  scan (2 * cs.length + 2) false [⟨0, 0⟩] [] cs

end BpfCompiler.Syntax.Lexer
