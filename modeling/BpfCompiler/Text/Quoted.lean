import BpfCompiler.Text.Classes

/-!
# Quoted forms

How a text or a byte string is shown between quotes.  A single quote delimits it unless it holds
a single quote and no double one.  Backslash, the delimiter and the three usual blanks are escaped by
name; what cannot be shown is escaped by its number, in the shortest of the three widths.
-/

namespace BpfCompiler.Text

/-- The number in lower-case hexadecimal, padded with zeros to `width`. -/
def hexPadded (width n : Nat) : String :=
  let digits := Nat.toDigits 16 n
  String.ofList (List.replicate (width - digits.length) '0' ++ digits)

def backslash : Nat := 0x5C

/-- The delimiter of a quoted form. -/
def quoteMark (codes : List Nat) : Nat :=
  if codes.contains 0x27 && !codes.contains 0x22 then 0x22 else 0x27

def namedEscape? (mark n : Nat) : Option String :=
  if n == backslash then some "\\\\"
  else if n == mark then some (String.ofList ['\\', Char.ofNat mark])
  else if n == 0x09 then some "\\t"
  else if n == 0x0A then some "\\n"
  else if n == 0x0D then some "\\r"
  else none

def numberEscape (n : Nat) : String :=
  if n < 0x100 then "\\x" ++ hexPadded 2 n
  else if n < 0x10000 then "\\u" ++ hexPadded 4 n
  else "\\U" ++ hexPadded 8 n

def shownPoint (p : CodePoint) : String :=
  match p.toChar? with
  | some c => if isPrintable p.val then String.singleton c else numberEscape p.val
  | none => numberEscape p.val

/-- The text as it stands between two quotes of the given kind. -/
def quotedBody (mark : Nat) (t : Text) : String :=
  String.join (t.points.map fun p => (namedEscape? mark p.val).getD (shownPoint p))

/-- The text between quotes. -/
def quoted (t : Text) : String :=
  let mark := quoteMark (t.points.map Fin.val)
  let delimiter := String.singleton (Char.ofNat mark)
  delimiter ++ t.quotedBody mark ++ delimiter

def quotedByte (mark : Nat) (b : UInt8) : String :=
  match namedEscape? mark b.toNat with
  | some s => s
  | none =>
    if 0x20 ≤ b.toNat && b.toNat < 0x7F then String.singleton (Char.ofNat b.toNat)
    else numberEscape b.toNat

/-- The bytes between quotes, behind the letter that marks a byte string. -/
def quotedBytes (bytes : List UInt8) : String :=
  let mark := quoteMark (bytes.map UInt8.toNat)
  let delimiter := String.singleton (Char.ofNat mark)
  "b" ++ delimiter ++ String.join (bytes.map (quotedByte mark)) ++ delimiter

/-- The text with few escapes: only a backslash and what cannot be shown are escaped, and line
feeds and tabs only on demand. -/
def plainBody (escapeBlanks : Bool) (t : Text) : String :=
  String.join <| t.points.map fun p =>
    if !escapeBlanks && (p.val == 0x0A || p.val == 0x09) then String.singleton (Char.ofNat p.val)
    else (namedEscape? backslash p.val).getD (shownPoint p)

end BpfCompiler.Text
