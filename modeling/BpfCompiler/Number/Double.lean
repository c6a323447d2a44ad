/-!
# Binary floating point

A double is kept as its 64 bits.  Everything that is needed of doubles here is exact arithmetic on
natural numbers: rounding a quotient to the nearest double with ties to even, narrowing to single
precision, and comparing with an integer.
-/

namespace BpfCompiler

structure Double where
  bits : UInt64
deriving DecidableEq, Inhabited

/-- A binary format: how many bits a significand has, the exponent of its lowest bit in the
smallest numbers, and the first exponent that is too large. -/
structure BinaryFormat where
  precision : Nat
  minExponent : Int
  tooLarge : Int

namespace BinaryFormat

def double : BinaryFormat := ⟨53, -1074, 972⟩

def single : BinaryFormat := ⟨24, -149, 105⟩

/-- Twice the power: `n * 2 ^ e` as a quotient. -/
def scaled (n : Nat) (e : Int) : Nat × Nat :=
  if 0 ≤ e then (n * Nat.pow 2 e.toNat, 1) else (n, Nat.pow 2 (-e).toNat)

/-- The nearest number `m * 2 ^ q` of the format to `num / den`, ties to even, as `(m, q)`; none when
it is too large. -/
def round? (f : BinaryFormat) (num den : Nat) : Option (Nat × Int) :=
  if num = 0 then some (0, f.minExponent)
  else
    let guess : Int := (num.log2 : Int) - (den.log2 : Int)
    let (p, q) := scaled 1 guess
    -- `num / den` lies between `2 ^ guess` and `2 ^ (guess + 1)`, or just below
    let top := if num * q < den * p then guess - 1 else guess
    let e := max (top - (f.precision - 1)) f.minExponent
    let (s, t) := scaled 1 e
    let n := num * t
    let d := den * s
    let m := n / d
    let r := n % d
    let m := if 2 * r > d || (2 * r == d && m % 2 == 1) then m + 1 else m
    let (m, e) := if m = Nat.pow 2 f.precision then (m / 2, e + 1) else (m, e)
    if f.tooLarge ≤ e then none else some (m, e)

end BinaryFormat

namespace Double

/-- The double `m * 2 ^ q`, for a pair as `BinaryFormat.round?` gives it. -/
def pack (negative : Bool) (m : Nat) (q : Int) : Double :=
  let sign := if negative then Nat.pow 2 63 else 0
  let field := if m < Nat.pow 2 52 then 0 else (q + 1075).toNat
  ⟨UInt64.ofNat (sign + field * Nat.pow 2 52 + m % Nat.pow 2 52)⟩

def infinity (negative : Bool) : Double :=
  ⟨UInt64.ofNat ((if negative then Nat.pow 2 63 else 0) + 0x7FF * Nat.pow 2 52)⟩

def zero : Double := ⟨0⟩

def isNegative (d : Double) : Bool := d.bits.toNat / Nat.pow 2 63 == 1

def exponentField (d : Double) : Nat := d.bits.toNat / Nat.pow 2 52 % Nat.pow 2 11

def fraction (d : Double) : Nat := d.bits.toNat % Nat.pow 2 52

def isInfinite (d : Double) : Bool := d.exponentField == 0x7FF && d.fraction == 0

def isNan (d : Double) : Bool := d.exponentField == 0x7FF && d.fraction != 0

/-- The pair `(m, q)` with `m * 2 ^ q` the absolute value of a finite double. -/
def unpack (d : Double) : Nat × Int :=
  if d.exponentField == 0 then (d.fraction, -1074)
  else (Nat.pow 2 52 + d.fraction, (d.exponentField : Int) - 1075)

def ofRatio (negative : Bool) (num den : Nat) : Double :=
  match BinaryFormat.double.round? num den with
  | some (m, q) => pack negative m q
  | none => infinity negative

/-- The nearest double to `digits * 10 ^ exponent`.  Exponents far outside the range are settled
by the number of digits, so that no large power is built. -/
def ofDecimal (negative : Bool) (digits : Nat) (exponent : Int) : Double :=
  let places : Int := (Nat.toDigits 10 digits).length
  if digits = 0 then pack negative 0 0
  else if places + exponent > 400 then infinity negative
  else if places + exponent < -400 then pack negative 0 0
  else if 0 ≤ exponent then ofRatio negative (digits * Nat.pow 10 exponent.toNat) 1
  else ofRatio negative digits (Nat.pow 10 (-exponent).toNat)

/-- The nearest double to an integer; none when it is too large. -/
def ofInt? (n : Int) : Option Double :=
  (BinaryFormat.double.round? n.natAbs 1).map fun (m, q) => pack (decide (n < 0)) m q

/-- The double nearest to `d` that single precision can hold; what is too large becomes infinite. -/
def toSingle (d : Double) : Double :=
  if d.isInfinite || d.isNan then d
  else
    let (m, q) := d.unpack
    let (num, den) := if 0 ≤ q then (m * Nat.pow 2 q.toNat, 1) else (m, Nat.pow 2 (-q).toNat)
    match BinaryFormat.single.round? num den with
    | some (m', q') =>
      if 0 ≤ q' then ofRatio d.isNegative (m' * Nat.pow 2 q'.toNat) 1
      else ofRatio d.isNegative m' (Nat.pow 2 (-q').toNat)
    | none => infinity d.isNegative

/-- The integer that a double equals, if it equals one. -/
def toInt? (d : Double) : Option Int :=
  if d.isInfinite || d.isNan then none
  else
    let (m, q) := d.unpack
    let magnitude : Option Nat :=
      if 0 ≤ q then some (m * Nat.pow 2 q.toNat)
      else if m % Nat.pow 2 (-q).toNat = 0 then some (m / Nat.pow 2 (-q).toNat)
      else none
    magnitude.map fun n => if d.isNegative then -(n : Int) else n

/-- Equality of the numbers: the two zeros are equal, and what is no number equals nothing. -/
def sameNumber (a b : Double) : Bool :=
  !a.isNan && !b.isNan && (a == b || (a.unpack.1 == 0 && b.unpack.1 == 0 &&
    !a.isInfinite && !b.isInfinite))

end Double

end BpfCompiler
