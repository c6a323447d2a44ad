import BpfCompiler.Number.Double

/-!
# Shortest decimals

The fewest digits that read back as the same double.  A finite double `m * 2 ^ q` is the nearest
double to every real of an interval around it, whose ends belong to it when `m` is even.  For one,
two, … seventeen digits the two neighbours of the value on that decimal grid are tested; the first
grid with a hit wins, and of two hits the nearer.
-/

namespace BpfCompiler.Double

/-- A positive decimal `0.d₁d₂… * 10 ^ point`, with the digits as one number. -/
structure Decimal where
  digits : Nat
  point : Int
deriving DecidableEq, Inhabited

/-- An interval of positive reals over a common denominator. -/
structure Interval where
  low : Nat
  value : Nat
  high : Nat
  den : Nat
  closed : Bool

def Interval.holds (i : Interval) (num den : Nat) : Bool :=
  let x := num * i.den
  let lo := i.low * den
  let hi := i.high * den
  if i.closed then lo ≤ x && x ≤ hi else lo < x && x < hi

def around (m : Nat) (q : Int) : Interval :=
  -- the gap below a power of two is half the gap above it
  let narrow := m == Nat.pow 2 52 && q > -1074
  let low := if narrow then 4 * m - 1 else 4 * m - 2
  let e := q - 2
  let up (n : Nat) := if 0 ≤ e then n * Nat.pow 2 e.toNat else n
  ⟨up low, up (4 * m), up (4 * m + 2), if 0 ≤ e then 1 else Nat.pow 2 (-e).toNat, m % 2 == 0⟩

/-- The exponent `e` with `10 ^ (e - 1) ≤ num / den < 10 ^ e`, searched from an estimate. -/
def decimalPoint (num den : Nat) : Int :=
  let estimate : Int := ((Nat.toDigits 10 num).length : Int) - (Nat.toDigits 10 den).length
  let below (e : Int) : Bool :=
    if 0 ≤ e then num < den * Nat.pow 10 e.toNat else num * Nat.pow 10 (-e).toNat < den
  if below estimate then estimate else estimate + 1

/-- The hit with `count` digits, if there is one. -/
def hit? (i : Interval) (point : Int) (count : Nat) : Option Decimal :=
  let step : Int := point - count
  -- a grid point `c` stands for `c * up / down`
  let (up, down) := if 0 ≤ step then (Nat.pow 10 step.toNat, 1) else (1, Nat.pow 10 (-step).toNat)
  let c := i.value * down / (i.den * up)
  let lowHit := c ≠ 0 && i.holds (c * up) down
  let highHit := i.holds ((c + 1) * up) down
  let twice := 2 * i.value * down
  let middle := (2 * c + 1) * up * i.den
  let pick (n : Nat) : Option Decimal :=
    some (if n = Nat.pow 10 count then ⟨Nat.pow 10 (count - 1), point + 1⟩ else ⟨n, point⟩)
  match lowHit, highHit with
  | false, false => none
  | true, false => pick c
  | false, true => pick (c + 1)
  | true, true => if twice < middle || (twice == middle && c % 2 == 0) then pick c else pick (c + 1)

def search (i : Interval) (point : Int) : Nat → Nat → Decimal
  | 0, _ => ⟨0, 0⟩
  | fuel + 1, count =>
    match hit? i point count with
    | some d => d
    | none => search i point fuel (count + 1)

/-- The shortest decimal that reads back as the absolute value of a finite, nonzero double. -/
def shortest (d : Double) : Decimal :=
  let (m, q) := d.unpack
  let i := around m q
  search i (decimalPoint i.value i.den) 18 1

/-- How a number is written: positional between two exponents, otherwise with an exponent of at
least two digits. `whole` is what a number without a fraction ends in. -/
structure Style where
  firstPoint : Int
  lastPoint : Int
  whole : String

def zeros (n : Nat) : String := String.ofList (List.replicate n '0')

def exponentText (e : Int) : String :=
  let digits := toString e.natAbs
  (if e < 0 then "e-" else "e+") ++ (if digits.length < 2 then "0" ++ digits else digits)

def Decimal.render (style : Style) (d : Decimal) : String :=
  let digits := toString d.digits
  let count := digits.length
  if style.firstPoint ≤ d.point && d.point ≤ style.lastPoint then
    if d.point ≤ 0 then "0." ++ zeros (-d.point).toNat ++ digits
    else if (count : Int) ≤ d.point then digits ++ zeros (d.point.toNat - count) ++ style.whole
    else
      let cs := digits.toList
      String.ofList (cs.take d.point.toNat ++ '.' :: cs.drop d.point.toNat)
  else
    match digits.toList with
    | [] => ""
    | c :: rest =>
      let fraction := if rest.isEmpty then [] else '.' :: rest
      String.ofList (c :: fraction) ++ exponentText (d.point - 1)

/-- The number in the given style. -/
def render (style : Style) (d : Double) : String :=
  if d.isNan then "nan"
  else
    let sign := if d.isNegative then "-" else ""
    if d.isInfinite then sign ++ "inf"
    else if d.unpack.1 == 0 then sign ++ "0" ++ style.whole
    else sign ++ d.shortest.render style

/-- Floating point literals are positional from `0.0001` up to sixteen digits, and keep a point. -/
def literalStyle : Style := ⟨-3, 16, ".0"⟩

/-- Imaginary literals use the same range and drop an empty fraction. -/
def imaginaryStyle : Style := ⟨-3, 16, ""⟩

end BpfCompiler.Double
