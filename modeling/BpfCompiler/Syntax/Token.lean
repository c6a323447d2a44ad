import BpfCompiler.Syntax.Literal

/-!
# Tokens

What the source text is cut into.  Keywords are names, and no name is empty.  The last token of a text is `eof`, or `bad` with
the reason why it cannot be cut further, or `unfinished` when a line goes on that has no end.  Such a
reason counts only if the grammar gets that far.
-/

namespace BpfCompiler.Syntax

/-- Why a text is no program. -/
inductive SourceFault where
  | malformed
  | indentation
  | inconsistentTabs
  | nullByte
deriving DecidableEq, Inhabited

/-- A string literal as it stands: the letters in front of it, and what is between the quotes. -/
structure StringToken where
  raw : Bool
  bytes : Bool
  format : Bool
  marked : Bool
  body : List Char
deriving DecidableEq, Inhabited

inductive Token where
  | name (id : String) (nonempty : id ≠ "")
  | number (value : Literal)
  | string (literal : StringToken)
  | op (symbol : String)
  | newline
  | indent
  | dedent
  | eof
  | unfinished
  | bad (fault : SourceFault)
deriving DecidableEq, Inhabited

namespace Token

def keywords : List String :=
  ["False", "None", "True", "and", "as", "assert", "async", "await", "break", "class", "continue",
   "def", "del", "elif", "else", "except", "finally", "for", "from", "global", "if", "import", "in",
   "is", "lambda", "nonlocal", "not", "or", "pass", "raise", "return", "try", "while", "with",
   "yield"]

/-- The fault of a text that the grammar refuses at this token. -/
def fault : Token → SourceFault
  | .bad f => f
  | .indent | .dedent => .indentation
  | _ => .malformed

/-- Whether the token is the word, a keyword or another name. -/
def isWord (w : String) : Token → Bool
  | .name id _ => id == w
  | _ => false

def isBad : Token → Bool
  | .bad _ => true
  | _ => false

/-- Whether the text behind the token is not cut into tokens. -/
def isCut : Token → Bool
  | .bad _ | .unfinished => true
  | _ => false

end Token

end BpfCompiler.Syntax
