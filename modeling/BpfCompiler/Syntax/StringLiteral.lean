import BpfCompiler.Syntax.Token
import BpfCompiler.Text.Name

/-!
# String literals

What the characters between the quotes stand for.  In a raw literal every character stands for
itself.  Otherwise a backslash begins an escape: a blank or a quote by its letter, a code point by its
number in octal or hexadecimal or by its name, nothing for an escaped line end, and the backslash
itself when the escape is unknown.  A code point given by number may be a surrogate.  A byte string holds ASCII
only, and its escapes give bytes.
-/

namespace BpfCompiler.Syntax.StringLiteral

def octalValue? (c : Char) : Option Nat :=
  if '0' ≤ c && c ≤ '7' then some (c.toNat - 0x30) else none

def hexValue? (c : Char) : Option Nat :=
  if c.isDigit then some (c.toNat - 0x30)
  else if 'a' ≤ c && c ≤ 'f' then some (c.toNat - 0x61 + 10)
  else if 'A' ≤ c && c ≤ 'F' then some (c.toNat - 0x41 + 10)
  else none

/-- The number that the first `count` characters write in hexadecimal. -/
def hexNumber? (count : Nat) (cs : List Char) : Option Nat :=
  let digits := (cs.take count).filterMap hexValue?
  if digits.length = count then some (digits.foldl (fun n d => n * 16 + d) 0) else none

/-- One to three octal digits. -/
def octalNumber (cs : List Char) : Nat × Nat :=
  let digits := ((cs.take 3).takeWhile fun c => (octalValue? c).isSome).filterMap octalValue?
  (digits.foldl (fun n d => n * 8 + d) 0, digits.length)

def simpleEscape? (c : Char) : Option Nat :=
  match c.toNat with
  | 0x5C => some 0x5C
  | 0x27 => some 0x27
  | 0x22 => some 0x22
  | 0x61 => some 0x07
  | 0x62 => some 0x08
  | 0x66 => some 0x0C
  | 0x6E => some 0x0A
  | 0x72 => some 0x0D
  | 0x74 => some 0x09
  | 0x76 => some 0x0B
  | _ => none

/-- The code point whose name stands in braces at the head of `cs`, and how many characters that takes. -/
def namedPoint? (cs : List Char) : Option (Nat × Nat) :=
  match cs with
  | '\x7b' :: rest =>
    let name := rest.takeWhile (· != '\x7d')
    if name.length < rest.length then (Text.Name.lookup? name).map fun n => (n, name.length + 2)
    else none
  | _ => none

/-- What follows a backslash: the numbers it stands for and how many characters it takes up, or a
refusal.  `wide` allows the escapes of code points beyond a byte. -/
def escape? (wide : Bool) (cs : List Char) : Option (List Nat × Nat) :=
  match cs with
  | [] => some ([0x5C], 0)
  | c :: rest =>
    if c == '\n' then some ([], 1)
    else if let some n := simpleEscape? c then some ([n], 1)
    else if (octalValue? c).isSome then
      let (n, count) := octalNumber cs
      some ([n], count)
    else if c == 'x' then (hexNumber? 2 rest).map fun n => ([n], 3)
    else if wide && c == 'u' then (hexNumber? 4 rest).map fun n => ([n], 5)
    else if wide && c == 'U' then
      (hexNumber? 8 rest).bind fun n => if n < 0x110000 then some ([n], 9) else none
    else if wide && c == 'N' then (namedPoint? rest).map fun (n, count) => ([n], count + 1)
    else some ([0x5C, c.toNat], 1)

/-- The numbers that the characters stand for.  `skip` characters belong to an escape that has been
read. -/
def decode (wide : Bool) : Nat → List Char → Option (List Nat)
  | _, [] => some []
  | skip + 1, _ :: rest => decode wide skip rest
  | 0, c :: rest =>
    if c == '\\' then do
      let (ns, count) ← escape? wide rest
      let more ← decode wide count rest
      pure (ns ++ more)
    else (decode wide 0 rest).map (c.toNat :: ·)

def toPoint (n : Nat) : CodePoint := Fin.ofNat 0x110000 n

/-- The text between the quotes of a text literal. -/
def text? (raw : Bool) (body : List Char) : Option Text :=
  if raw then some (Text.ofChars body)
  else (decode true 0 body).map fun ns => ⟨ns.map toPoint⟩

/-- The bytes between the quotes of a byte string literal. -/
def bytes? (raw : Bool) (body : List Char) : Option (List UInt8) :=
  if body.any fun c => 0x80 ≤ c.toNat then none
  else if raw then some (body.map fun c => UInt8.ofNat c.toNat)
  else (decode false 0 body).map fun ns => ns.map UInt8.ofNat

end BpfCompiler.Syntax.StringLiteral
