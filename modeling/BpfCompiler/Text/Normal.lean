import BpfCompiler.Text.Compositions
import BpfCompiler.Text.Decompositions
import Std.Data.HashMap

/-!
# Normal form

Two spellings of an identifier that differ only in how their characters are put together, or in a variant of
a character such as its bold or its wide form, are the same identifier.  Its normal form is found in three
steps: every character is decomposed, neighbouring marks are put in the order of their classes, and then
each character takes up the marks that it combines with.
-/

namespace BpfCompiler.Text.Normal

def hexDigit (c : Char) : Nat :=
  if c.isDigit then c.toNat - 0x30 else c.toNat - 0x41 + 10

def hexNumber (s : String) : Nat := s.toList.foldl (fun n c => n * 16 + hexDigit c) 0

/-- What stands behind an equals sign: one number or more. -/
structure Image where
  head : Nat
  tail : List Nat

namespace Image

def toList (image : Image) : List Nat := image.head :: image.tail

def advance (image : Image) (i : Nat) : Image := ⟨image.head + i, image.tail.map (· + i)⟩

def ofString (s : String) : Image :=
  match (s.splitOn "+").map hexNumber with
  | [] => ⟨0, []⟩
  | n :: ns => ⟨n, ns⟩

end Image

/-- One entry of a table: a run of code points and what stands behind the equals sign. -/
structure Entry where
  first : Nat
  count : Nat
  image : Image

/-- An entry that does not say where its run begins goes on at `next`. -/
def Entry.ofString (next : Nat) (s : String) : Entry :=
  let point (s : String) : Nat := if s.isEmpty then next else hexNumber s
  match s.splitOn "=" with
  | [left, right] =>
    match left.splitOn "*" with
    | [first, count] => ⟨point first, hexNumber count, .ofString right⟩
    | _ => ⟨point left, 1, .ofString right⟩
  | _ => ⟨next, 0, ⟨0, []⟩⟩

/-- The entries of a table, which stand between blanks and line breaks. -/
def entries (table : String) : List Entry :=
  let words := ((table.splitOn "\n").flatMap fun line => line.splitOn " ").filter fun word => !word.isEmpty
  let read : List Entry × Nat → String → List Entry × Nat := fun (found, next) word =>
    let entry := Entry.ofString next word
    (entry :: found, entry.first + entry.count)
  (words.foldl read ([], 0)).1.reverse

/-- The decompositions of single code points.  In a run the images advance with the code points. -/
def decompositions : Std.HashMap Nat Image :=
  (entries decompositionEntries).foldl
    (fun table e => (List.range e.count).foldl
      (fun table i => table.insert (e.first + i) (e.image.advance i)) table) ∅

/-- The classes of marks. -/
def markClasses : Std.HashMap Nat Nat :=
  (entries markEntries).foldl
    (fun table e => (List.range e.count).foldl
      (fun table i => table.insert (e.first + i) e.image.head) table) ∅

/-- The code points that pairs combine to. -/
def compositions : Std.HashMap (List Nat) Nat :=
  (entries compositionEntries).foldl (fun table e => table.insert e.image.toList e.first) ∅

/-! ### Hangul syllables

A syllable is a leading consonant, a vowel and perhaps a trailing consonant, and its number follows from
theirs. -/

def syllableBase : Nat := 0xAC00

def leadBase : Nat := 0x1100

def vowelBase : Nat := 0x1161

/-- One below the first trailing consonant, so that none counts as zero. -/
def trailBase : Nat := 0x11A7

def leadCount : Nat := 19

def vowelCount : Nat := 21

def trailCount : Nat := 28

def isSyllable (n : Nat) : Bool :=
  syllableBase ≤ n && n < syllableBase + leadCount * vowelCount * trailCount

def syllableParts (n : Nat) : List Nat :=
  let i := n - syllableBase
  let trail := i % trailCount
  [leadBase + i / (vowelCount * trailCount), vowelBase + i / trailCount % vowelCount] ++
    if trail = 0 then [] else [trailBase + trail]

/-- A lead with a vowel, or a syllable without trail with a trail. -/
def syllable? (a b : Nat) : Option Nat :=
  if leadBase ≤ a && a < leadBase + leadCount && vowelBase ≤ b && b < vowelBase + vowelCount then
    some (syllableBase + ((a - leadBase) * vowelCount + (b - vowelBase)) * trailCount)
  else if isSyllable a && (a - syllableBase) % trailCount = 0 && trailBase < b &&
      b < trailBase + trailCount then
    some (a + (b - trailBase))
  else none

/-! ### The three steps -/

def decompose (n : Nat) : List Nat :=
  if isSyllable n then syllableParts n else (decompositions.getD n ⟨n, []⟩).toList

def markClass (n : Nat) : Nat := markClasses.getD n 0

/-- Puts a mark behind the last code point whose class is not larger; `before` is in reverse. -/
def insertMark (n : Nat) : List Nat → List Nat
  | [] => [n]
  | m :: before =>
    if 0 < markClass n && markClass n < markClass m then m :: insertMark n before
    else n :: m :: before

/-- Neighbouring marks in the order of their classes, those of one class as they stand. -/
def order (ns : List Nat) : List Nat := (ns.foldl (fun before n => insertMark n before) []).reverse

def compose? (a b : Nat) : Option Nat := (syllable? a b).or (compositions.get? [a, b])

/-- The code point that takes up marks, with what stands before it and the marks that it has not taken up,
both in reverse. -/
structure Joined where
  before : List Nat
  base : Option Nat
  marks : List Nat

def Joined.toList (j : Joined) : List Nat := j.before.reverse ++ j.base.toList ++ j.marks.reverse

/-- Takes the next code point up, or puts it behind.  A mark that was left and is not of a smaller class
stands between it and the base. -/
def Joined.push (j : Joined) (n : Nat) : Joined :=
  let isBlocked := match j.marks with
    | [] => false
    | m :: _ => markClass n ≤ markClass m
  match (if isBlocked then none else j.base.bind fun b => compose? b n) with
  | some c => { j with base := some c }
  | none =>
    if markClass n = 0 then ⟨j.marks ++ j.base.toList ++ j.before, some n, []⟩
    else { j with marks := n :: j.marks }

def compose (ns : List Nat) : List Nat := (ns.foldl Joined.push ⟨[], none, []⟩).toList

/-- The normal form of a list of code points. -/
def form (ns : List Nat) : List Nat := compose (order (ns.flatMap decompose))

/-- The normal form of an identifier.  ASCII is in normal form. -/
def identifier (id : String) : String :=
  if id.toList.all fun c => c.toNat < 0x80 then id
  else String.ofList ((form (id.toList.map Char.toNat)).map Char.ofNat)

end BpfCompiler.Text.Normal
