/-!
# Text

A text is a list of Unicode code points.  It differs from `String` in one way: a string literal of
the source language may name a surrogate by an escape, so a text may hold code points that no
`Char` has.  Such a text can be stored and logged, but it has no UTF-8 form, and `utf8?` is where
that shows.
-/

namespace BpfCompiler

/-- A Unicode code point, the surrogates included. -/
abbrev CodePoint := Fin 0x110000

namespace CodePoint

def ofChar (c : Char) : CodePoint :=
  ⟨c.toNat, by
    have h := c.valid
    simp only [UInt32.isValidChar, Nat.isValidChar] at h
    have e : c.toNat = c.val.toNat := rfl
    omega⟩

def isSurrogate (p : CodePoint) : Bool := 0xD800 ≤ p.val && p.val ≤ 0xDFFF

/-- The character a code point stands for; a surrogate stands for none. -/
def toChar? (p : CodePoint) : Option Char :=
  if p.isSurrogate then none else some (Char.ofNat p.val)

/-- The UTF-8 bytes of a code point; a surrogate has none. -/
def utf8? (p : CodePoint) : Option (List UInt8) :=
  if p.isSurrogate then none
  else
    let n := p.val
    let tail (shift : Nat) : UInt8 := UInt8.ofNat (0x80 + n / Nat.pow 2 shift % 64)
    some <|
      if n < 0x80 then [UInt8.ofNat n]
      else if n < 0x800 then [UInt8.ofNat (0xC0 + n / 64), tail 0]
      else if n < 0x10000 then [UInt8.ofNat (0xE0 + n / 4096), tail 6, tail 0]
      else [UInt8.ofNat (0xF0 + n / 262144), tail 12, tail 6, tail 0]

end CodePoint

structure Text where
  points : List CodePoint
deriving DecidableEq, Inhabited

namespace Text

def empty : Text := ⟨[]⟩

def ofChars (cs : List Char) : Text := ⟨cs.map CodePoint.ofChar⟩

def ofString (s : String) : Text := ofChars s.toList

instance : Coe String Text := ⟨ofString⟩

def append (a b : Text) : Text := ⟨a.points ++ b.points⟩

instance : Append Text := ⟨append⟩

/-- The number of code points. -/
def length (t : Text) : Nat := t.points.length

def isEmpty (t : Text) : Bool := t.points.isEmpty

/-- The text as a string, when it holds no surrogate. -/
def toString? (t : Text) : Option String :=
  (t.points.mapM CodePoint.toChar?).map String.ofList

/-- The UTF-8 bytes of a text, when it holds no surrogate. -/
def utf8? (t : Text) : Option (List UInt8) :=
  (t.points.mapM CodePoint.utf8?).map List.flatten

/-- The texts one after the other, with `sep` between neighbours. -/
def join (sep : Text) : List Text → Text
  | [] => empty
  | [t] => t
  | t :: rest => t ++ sep ++ join sep rest

def concat (ts : List Text) : Text := ⟨(ts.map Text.points).flatten⟩

@[simp] theorem points_append (a b : Text) : (a ++ b).points = a.points ++ b.points := rfl

@[simp] theorem length_append (a b : Text) : (a ++ b).length = a.length + b.length := by
  simp [length]

@[simp] theorem points_empty : empty.points = [] := rfl

end Text

end BpfCompiler
