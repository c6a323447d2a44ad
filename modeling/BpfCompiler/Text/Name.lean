import BpfCompiler.Text.Name.Aliases
import BpfCompiler.Text.Name.Alphabets
import BpfCompiler.Text.Name.Pictures
import BpfCompiler.Text.Name.Scripts
import BpfCompiler.Text.Name.Syllabaries
import BpfCompiler.Text.Name.Symbols
import BpfCompiler.Text.Normal

/-!
# Names of characters

The names that the Unicode standard, version 14, gives to code points.  Most are listed, in tables where a
name takes over the beginning of the one before it.  The names of ideographs end in their number, and the
names of Hangul syllables are spelled from those of their letters.
-/

namespace BpfCompiler.Text.Name

/-! ### Tables

An entry is a sign for the number of letters that the name shares with the one before it, followed by the
other letters, where some signs stand for a blank or for a frequent word.  Its code point is the one after the
last, unless an equals sign and a number stand in front.  Line breaks and blanks do not count. -/

/-- The signs for 0, 1, 2 and so on; none of them occurs in a name. -/
def countSigns : List Char := "abcdefghijklmnopqrstuvwxyz!$%&*+,.;<>?^|~".toList

def sharedCount? (c : Char) : Option Nat := countSigns.findIdx? (· == c)

/-- The signs for a blank and for words that many names have. -/
def wordSigns : List (Char × String) :=
  [('_', " "), (':', " LETTER "), ('@', " WITH "), ('/', " AND "), ('(', "CAPITAL"), (')', "SMALL"),
    ('[', " ARROW"), (']', " FORM")]

/-- What a character of a table stands for in a name. -/
def spelling (c : Char) : List Char :=
  match wordSigns.lookup c with
  | some word => word.toList
  | none => [c]

/-- How far a table has been read: the names found, and the entry being read, its letters in reverse. -/
structure Progress where
  found : List (String × Nat)
  letters : List Char
  point : Nat
  inNumber : Bool

def Progress.close (p : Progress) : List (String × Nat) :=
  if p.letters.isEmpty then p.found else (String.ofList p.letters.reverse, p.point) :: p.found

def Progress.step (p : Progress) (c : Char) : Progress :=
  match sharedCount? c with
  | some count =>
    let letters := p.letters.drop (p.letters.length - count)
    if p.inNumber then { p with letters, inNumber := false }
    else ⟨p.close, letters, p.point + 1, false⟩
  | none =>
    if c.isWhitespace then p
    else if c == '=' then ⟨p.close, p.letters, 0, true⟩
    else if p.inNumber then { p with point := p.point * 16 + Normal.hexDigit c }
    else { p with letters := (spelling c).reverse ++ p.letters }

/-- The names of a table with their code points. -/
def entries (table : String) : List (String × Nat) :=
  (table.foldl Progress.step ⟨[], [], 0, false⟩).close

/-- The names that are listed. -/
def listed : Thunk (Std.HashMap String Nat) :=
  Thunk.mk fun _ =>
    [alphabets, symbols, syllabaries, scripts, pictures, aliases].foldl
      (fun names table => names.insertMany (entries table)) ∅

/-! ### Numbered names -/

/-- A run of code points with the beginning of their names. -/
structure Series where
  stem : String
  first : Nat
  last : Nat

/-- The series other than that of the unified ideographs. -/
def series : List Series :=
  [⟨"CJK COMPATIBILITY IDEOGRAPH-", 0xF900, 0xFA6D⟩, ⟨"CJK COMPATIBILITY IDEOGRAPH-", 0xFA70, 0xFAD9⟩,
   ⟨"CJK COMPATIBILITY IDEOGRAPH-", 0x2F800, 0x2FA1D⟩,
   ⟨"KHITAN SMALL SCRIPT CHARACTER-", 0x18B00, 0x18CD5⟩, ⟨"NUSHU CHARACTER-", 0x1B170, 0x1B2FB⟩]

def unifiedIdeographs : List (Nat × Nat) :=
  [(0x3400, 0x4DBF), (0x4E00, 0x9FFF), (0x20000, 0x2A6DF), (0x2A700, 0x2B738), (0x2B740, 0x2B81D),
   (0x2B820, 0x2CEA1), (0x2CEB0, 0x2EBE0), (0x30000, 0x3134A)]

/-- What follows `stem`, if the name begins with it. -/
def behind? (stem : String) (name : List Char) : Option (List Char) :=
  if stem.toList.isPrefixOf name then some (name.drop stem.length) else none

/-- A number of four or five hexadecimal digits with capital letters. -/
def number? (digits : List Char) : Option Nat :=
  if (digits.length = 4 || digits.length = 5) &&
      digits.all fun c => c.isDigit || ('A' ≤ c && c ≤ 'F') then
    some (Normal.hexNumber (String.ofList digits))
  else none

/-- In a series the number is written without leading zeros. -/
def Series.lookup? (s : Series) (name : List Char) : Option Nat := do
  let digits ← behind? s.stem name
  let n ← number? digits
  if s.first ≤ n && n ≤ s.last && (digits.length = 5) = (0x10000 ≤ n) then some n else none

def ideograph? (digits : List Char) : Option Nat := do
  let n ← number? digits
  if unifiedIdeographs.any fun (first, last) => first ≤ n && n ≤ last then some n else none

/-! ### Hangul syllables -/

def leads : List String :=
  ["G", "GG", "N", "D", "DD", "R", "M", "B", "BB", "S", "SS", "", "J", "JJ", "C", "K", "T", "P", "H"]

def vowels : List String :=
  ["A", "AE", "YA", "YAE", "EO", "E", "YEO", "YE", "O", "WA", "WAE", "OE", "YO", "U", "WEO", "WE",
   "WI", "YU", "EU", "YI", "I"]

def trails : List String :=
  ["", "G", "GG", "GS", "N", "NJ", "NH", "D", "L", "LG", "LM", "LB", "LS", "LT", "LP", "LH", "M", "B",
   "BS", "S", "SS", "NG", "J", "C", "K", "T", "P", "H"]

/-- The place of the longest spelling at the head of `cs`, and what follows it. -/
def spelled? (spellings : List String) (cs : List Char) : Option (Nat × List Char) :=
  let fitting := (List.range spellings.length).zip spellings |>.filter fun (_, s) =>
    s.toList.isPrefixOf cs
  let longest := fitting.foldl
    (fun (best : Option (Nat × String)) (entry : Nat × String) =>
      match best with
      | some (_, s) => if s.length < entry.2.length then some entry else best
      | none => some entry)
    none
  longest.map fun (i, s) => (i, cs.drop s.length)

def syllable? (letters : List Char) : Option Nat := do
  let (lead, rest) ← spelled? leads letters
  let (vowel, rest) ← spelled? vowels rest
  let (trail, rest) ← spelled? trails rest
  if rest.isEmpty then
    some (Normal.syllableBase + (lead * Normal.vowelCount + vowel) * Normal.trailCount + trail)
  else none

/-- The code point of a name.  Listed names may be written in small letters. -/
def lookup? (name : List Char) : Option Nat :=
  if let some letters := behind? "HANGUL SYLLABLE " name then syllable? letters
  else if let some digits := behind? "CJK UNIFIED IDEOGRAPH-" name then ideograph? digits
  else
    let name := name.map Char.toUpper
    (listed.get.get? (String.ofList name)).or (series.findSome? fun s => s.lookup? name)

end BpfCompiler.Text.Name
