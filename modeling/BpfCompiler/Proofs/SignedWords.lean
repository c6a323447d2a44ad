import BpfCompiler.Proofs.WordCode
import Mathlib.Data.Int.Bitwise

/-!
# Words as signed numbers

A word stands for a number from -2^63 to 2^63 - 1.  For each operator that has a result among the integers,
`apply_eq_word_iff` says when the instruction that is chosen for it gives the word of this result.  Addition,
subtraction, multiplication, the bitwise operators and the shift to the left always do.  Quotients and shifts
to the right are computed without signs, and remainders belong to a quotient rounded toward zero; these three
depend on the signs of the operands.
-/

namespace BpfCompiler.Syntax.Words

open IR

/-- The number is that of a word with a sign. -/
def IsSigned (n : Int) : Prop := -0x8000000000000000 ≤ n ∧ n < 0x8000000000000000

instance (n : Int) : Decidable (IsSigned n) := inferInstanceAs (Decidable (_ ∧ _))

theorem toInt_word {n : Int} (h : IsSigned n) : (word n).toInt = n :=
  BitVec.toInt_ofInt_eq_self (by decide) (by simpa using h.1) (by simpa using h.2)

theorem eq_word_iff {w : Word} {n : Int} (h : IsSigned n) : w = word n ↔ w.toInt = n := by
  rw [← BitVec.toInt_inj, toInt_word h]

/-- A number as a word without a sign. -/
def unsigned (n : Int) : Int := if 0 ≤ n then n else n + 0x10000000000000000

theorem unsigned_eq_iff {n k : Int} (hn : IsSigned n) (hk : 0 ≤ k ∧ k < 0x8000000000000000) :
    unsigned n = k ↔ n = k := by
  have hlow := hn.1
  unfold unsigned
  split <;> omega

theorem toNat_word {n : Int} (h : IsSigned n) : ((word n).toNat : Int) = unsigned n := by
  have hmod : ((word n).toNat : Int) = n % 0x10000000000000000 := by
    rw [word, BitVec.toNat_ofInt]
    have hnonneg : 0 ≤ n % ((2 ^ 64 : Nat) : Int) := Int.emod_nonneg _ (by decide)
    rw [Int.toNat_of_nonneg hnonneg]
    rfl
  have hlow := h.1
  have hhigh := h.2
  rw [hmod, unsigned]
  by_cases hn : 0 ≤ n
  · rw [if_pos hn]
    exact Int.emod_eq_of_lt hn (by omega)
  · rw [if_neg hn]
    omega

theorem eq_word_iff_toNat {w : Word} {n : Int} (h : IsSigned n) :
    w = word n ↔ (w.toNat : Int) = unsigned n := by
  rw [← toNat_word h, BitVec.toNat_eq]
  omega

/-! ### Bits -/

theorem getLsbD_word (n : Int) {k : Nat} (hk : k < 64) : (word n).getLsbD k = n.testBit k := by
  cases n with
  | ofNat n =>
    have hword : word (.ofNat n) = BitVec.ofNat 64 n := BitVec.ofInt_natCast 64 n
    rw [hword, BitVec.getLsbD_ofNat]
    simp [Int.testBit, hk]
  | negSucc n =>
    have hword : word (.negSucc n) = ~~~BitVec.ofNat 64 n := BitVec.ofInt_negSucc_eq_not_ofNat
    rw [hword, BitVec.getLsbD_not, BitVec.getLsbD_ofNat]
    simp [Int.testBit, hk]

theorem word_sub (a b : Int) : word (a - b) = word a - word b := by
  rw [BitVec.sub_eq_add_neg, word, word, word, ← BitVec.ofInt_neg, ← BitVec.ofInt_add]
  rfl

theorem word_land (a b : Int) : word (a.land b) = word a &&& word b := by
  apply BitVec.eq_of_getLsbD_eq
  intro k hk
  rw [BitVec.getLsbD_and, getLsbD_word _ hk, getLsbD_word _ hk, getLsbD_word _ hk, Int.testBit_land]

theorem word_lor (a b : Int) : word (a.lor b) = word a ||| word b := by
  apply BitVec.eq_of_getLsbD_eq
  intro k hk
  rw [BitVec.getLsbD_or, getLsbD_word _ hk, getLsbD_word _ hk, getLsbD_word _ hk, Int.testBit_lor]

theorem word_xor (a b : Int) : word (a.xor b) = word a ^^^ word b := by
  apply BitVec.eq_of_getLsbD_eq
  intro k hk
  rw [BitVec.getLsbD_xor, getLsbD_word _ hk, getLsbD_word _ hk, getLsbD_word _ hk, Int.testBit_lxor]

theorem word_shiftLeft (a : Int) (k : Nat) : word (a * 2 ^ k) = word a <<< k := by
  rw [word, word, BitVec.ofInt_mul, BitVec.shiftLeft_eq_mul_twoPow]
  congr 1
  apply BitVec.eq_of_toNat_eq
  rw [BitVec.toNat_ofInt, BitVec.toNat_twoPow]
  norm_cast

/-! ### Quotients -/

/-- Divided by a positive number, a word without a sign gives the quotient rounded down for a number that is
not negative, and otherwise only by one. -/
theorem unsigned_ediv_of_pos {a d : Int} (ha : IsSigned a) (hd : 0 < d) :
    unsigned a / d = unsigned (a.fdiv d) ↔ 0 ≤ a ∨ d = 1 := by
  have hnonneg : 0 ≤ d := by omega
  rw [Int.fdiv_eq_ediv_of_nonneg a hnonneg]
  by_cases hsign : 0 ≤ a
  · have hquotient : 0 ≤ a / d := Int.ediv_nonneg hsign hnonneg
    simp [unsigned, hsign, hquotient]
  · have hquotient : a / d < 0 := Int.ediv_neg_of_neg_of_pos (by omega) hd
    rw [unsigned, if_neg hsign, unsigned, if_neg (by omega)]
    by_cases hone : d = 1
    · simp [hone]
    · -- a divisor of two or more brings the quotient of the word below the half of all words
      have hlow := ha.1
      have hsmall : (a + 0x10000000000000000) / d < 0x8000000000000000 :=
        Int.ediv_lt_of_lt_mul hd (by omega)
      have hlarge : -0x4000000000000000 ≤ a / d := Int.le_ediv_of_mul_le hd (by omega)
      omega

/-- Divided by a negative number, a word without a sign is smaller than the divisor or goes into it once. -/
theorem unsigned_ediv_of_neg {a d : Int} (ha : IsSigned a) (hd : IsSigned d) (hneg : d < 0)
    (hquotient : IsSigned (a.fdiv d)) :
    unsigned a / unsigned d = unsigned (a.fdiv d) ↔ a = 0 ∨ a = d := by
  obtain ⟨hsum, hlow, hhigh⟩ := (Int.fdiv_fmod_unique' (a := a) hneg).mp ⟨rfl, rfl⟩
  have hzero : a = 0 → a.fdiv d = 0 := by
    rintro rfl
    exact Int.zero_fdiv d
  have hone : a = d → a.fdiv d = 1 := by
    rintro rfl
    exact Int.fdiv_self (by omega)
  obtain ⟨haLow, haHigh⟩ := ha
  obtain ⟨hdLow, -⟩ := hd
  have hdivisor : unsigned d = d + 0x10000000000000000 := if_neg (by omega)
  rw [hdivisor, eq_comm]
  generalize a.fdiv d = c at *
  by_cases hsign : 0 ≤ a
  · have hword : unsigned a / (d + 0x10000000000000000) = 0 := by
      rw [unsigned, if_pos hsign]
      exact Int.ediv_eq_zero_of_lt hsign (by omega)
    rw [hword, unsigned_eq_iff hquotient (by decide)]
    constructor
    · rintro rfl
      omega
    · omega
  · rw [unsigned.eq_1 a, if_neg hsign]
    by_cases hless : a < d
    · have hword : (a + 0x10000000000000000) / (d + 0x10000000000000000) = 0 :=
        Int.ediv_eq_zero_of_lt (by omega) (by omega)
      rw [hword, unsigned_eq_iff hquotient (by decide)]
      constructor
      · rintro rfl
        omega
      · omega
    · have hword : (a + 0x10000000000000000) / (d + 0x10000000000000000) = 1 := by
        rw [Int.ediv_eq_iff_of_pos (by omega)]
        omega
      rw [hword, unsigned_eq_iff hquotient (by decide)]
      constructor
      · rintro rfl
        omega
      · omega

/-- The remainder rounded toward zero is the one of the quotient rounded down. -/
theorem tmod_eq_fmod_iff {a b : Int} (hb : b ≠ 0) :
    a.tmod b = a.fmod b ↔ b ∣ a ∨ (0 ≤ a ↔ 0 < b) := by
  rw [Int.tmod_eq_fmod]
  by_cases hdvd : b ∣ a
  · simp [hdvd]
  · simp only [hdvd, if_false, false_or]
    split <;> split <;> omega

/-! ### Instructions -/

theorem word_eq_zero_iff {b : Int} (hb : IsSigned b) : word b = 0 ↔ b = 0 := by
  rw [eq_comm, show (0 : Word) = word 0 from rfl, eq_word_iff hb, toInt_word (by decide), eq_comm]

theorem udiv_apply_iff {a b : Int} (ha : IsSigned a) (hb : IsSigned b) (hzero : b ≠ 0)
    (hquotient : IsSigned (a.fdiv b)) :
    Arith.udiv.apply (word a) (word b) = some (word (a.fdiv b)) ↔
      a = 0 ∨ b = 1 ∨ a = b ∨ (0 ≤ a ∧ 0 < b) := by
  have hword : word b ≠ 0 := (word_eq_zero_iff hb).not.mpr hzero
  have hdiv : ((word a / word b).toNat : Int) = unsigned a / unsigned b := by
    rw [BitVec.toNat_udiv, Int.natCast_ediv, toNat_word ha, toNat_word hb]
  rw [Arith.apply, if_neg hword, Option.some_inj, eq_word_iff_toNat hquotient, hdiv]
  by_cases hneg : b < 0
  · rw [unsigned_ediv_of_neg ha hb hneg hquotient]
    omega
  · have hpos : unsigned b = b := if_pos (by omega)
    rw [hpos, unsigned_ediv_of_pos ha (by omega)]
    omega

theorem srem_apply_iff {a b : Int} (ha : IsSigned a) (hb : IsSigned b) (hzero : b ≠ 0)
    (hremainder : IsSigned (a.fmod b)) :
    Arith.srem.apply (word a) (word b) = some (word (a.fmod b)) ↔
      ¬(a = -0x8000000000000000 ∧ b = -1) ∧ (b ∣ a ∨ (0 ≤ a ↔ 0 < b)) := by
  have hword : word b ≠ 0 := (word_eq_zero_iff hb).not.mpr hzero
  have hmin : word a = BitVec.intMin 64 ↔ a = -0x8000000000000000 := by
    rw [show BitVec.intMin 64 = word (-0x8000000000000000) by decide, eq_word_iff (by decide),
      toInt_word ha]
  have hminus : word b = -1 ↔ b = -1 := by
    rw [show (-1 : Word) = word (-1) by decide, eq_word_iff (by decide), toInt_word hb]
  have hundefined : (word b = 0 ∨ (word a = BitVec.intMin 64 ∧ word b = -1)) ↔
      a = -0x8000000000000000 ∧ b = -1 := by
    rw [hmin, hminus, or_iff_right hword]
  rw [Arith.apply]
  by_cases hover : a = -0x8000000000000000 ∧ b = -1
  · rw [if_pos (hundefined.mpr hover)]
    simp [hover]
  · rw [if_neg (hundefined.not.mpr hover), Option.some_inj, eq_word_iff hremainder,
      BitVec.toInt_srem, toInt_word ha, toInt_word hb, tmod_eq_fmod_iff hzero]
    exact (and_iff_right hover).symm

/-- The amount of a shift. -/
theorem toNat_word_of_lt {b : Int} (hnonneg : 0 ≤ b) (hlt : b < 64) : (word b).toNat = b.toNat := by
  have hword := toNat_word (n := b) ⟨by omega, by omega⟩
  rw [unsigned, if_pos hnonneg] at hword
  omega

theorem shl_apply {b : Int} (hnonneg : 0 ≤ b) (hlt : b < 64) (a : Int) :
    Arith.shl.apply (word a) (word b) = some (word (a * 2 ^ b.toNat)) := by
  rw [Arith.apply, toNat_word_of_lt hnonneg hlt, if_pos (by omega), word_shiftLeft]

theorem lshr_apply_iff {a b : Int} (ha : IsSigned a) (hnonneg : 0 ≤ b) (hlt : b < 64)
    (hquotient : IsSigned (a.fdiv (2 ^ b.toNat))) :
    Arith.lshr.apply (word a) (word b) = some (word (a.fdiv (2 ^ b.toNat))) ↔ 0 ≤ a ∨ b = 0 := by
  have hshift : ((word a >>> b.toNat).toNat : Int) = unsigned a / 2 ^ b.toNat := by
    rw [BitVec.toNat_ushiftRight, Nat.shiftRight_eq_div_pow, Int.natCast_ediv, toNat_word ha]
    norm_cast
  have hpos : (0 : Int) < 2 ^ b.toNat := Int.pow_pos (by decide)
  have hone : (2 : Int) ^ b.toNat = 1 ↔ b = 0 := by
    have hnat : (2 : Nat) ^ b.toNat = 1 ↔ b.toNat = 0 := by simp
    norm_cast
    omega
  rw [Arith.apply, toNat_word_of_lt hnonneg hlt, if_pos (by omega), Option.some_inj,
    eq_word_iff_toNat hquotient, hshift, unsigned_ediv_of_pos ha hpos, hone]

end BpfCompiler.Syntax.Words

namespace BpfCompiler.Syntax.BinaryOp

open IR Words Lower

/-- What an operator gives for two integers: the quotient is rounded down, and the remainder belongs to it.  A
shift is by less than the width of a word. -/
def onIntegers? : BinaryOp → Int → Int → Option Int
  | .add, a, b => some (a + b)
  | .sub, a, b => some (a - b)
  | .mult, a, b => some (a * b)
  | .bitAnd, a, b => some (a.land b)
  | .bitOr, a, b => some (a.lor b)
  | .bitXor, a, b => some (a.xor b)
  | .floorDiv, a, b => if b = 0 then none else some (a.fdiv b)
  | .mod, a, b => if b = 0 then none else some (a.fmod b)
  | .leftShift, a, b => if 0 ≤ b ∧ b < 64 then some (a * 2 ^ b.toNat) else none
  | .rightShift, a, b => if 0 ≤ b ∧ b < 64 then some (a.fdiv (2 ^ b.toNat)) else none
  | _, _, _ => none

/-- The operands have signs that the instruction for the operator gets right: it divides and shifts to the
right without signs, and its remainder is that of a quotient rounded toward zero. -/
def SignsAgree : BinaryOp → Int → Int → Prop
  | .floorDiv, a, b => a = 0 ∨ b = 1 ∨ a = b ∨ (0 ≤ a ∧ 0 < b)
  | .mod, a, b => ¬(a = -0x8000000000000000 ∧ b = -1) ∧ (b ∣ a ∨ (0 ≤ a ↔ 0 < b))
  | .rightShift, a, b => 0 ≤ a ∨ b = 0
  | _, _, _ => True

theorem apply_eq_word_iff {op : BinaryOp} {a b c : Int} (ha : IsSigned a) (hb : IsSigned b)
    (hc : IsSigned c) (hvalue : op.onIntegers? a b = some c) :
    ∃ i, arithOf? op = some i ∧
      (i.apply (word a) (word b) = some (word c) ↔ op.SignsAgree a b) := by
  cases op with
  | add =>
    obtain rfl := Option.some_inj.mp hvalue
    exact ⟨_, rfl, by simp [Arith.apply, word, BitVec.ofInt_add, SignsAgree]⟩
  | sub =>
    obtain rfl := Option.some_inj.mp hvalue
    exact ⟨_, rfl, by simp [Arith.apply, word_sub, SignsAgree]⟩
  | mult =>
    obtain rfl := Option.some_inj.mp hvalue
    exact ⟨_, rfl, by simp [Arith.apply, word, BitVec.ofInt_mul, SignsAgree]⟩
  | bitAnd =>
    obtain rfl := Option.some_inj.mp hvalue
    exact ⟨_, rfl, by simp [Arith.apply, word_land, SignsAgree]⟩
  | bitOr =>
    obtain rfl := Option.some_inj.mp hvalue
    exact ⟨_, rfl, by simp [Arith.apply, word_lor, SignsAgree]⟩
  | bitXor =>
    obtain rfl := Option.some_inj.mp hvalue
    exact ⟨_, rfl, by simp [Arith.apply, word_xor, SignsAgree]⟩
  | floorDiv =>
    obtain ⟨hzero, ⟨⟩⟩ := Option.ite_none_left_eq_some.mp hvalue
    exact ⟨_, rfl, udiv_apply_iff ha hb hzero hc⟩
  | mod =>
    obtain ⟨hzero, ⟨⟩⟩ := Option.ite_none_left_eq_some.mp hvalue
    exact ⟨_, rfl, srem_apply_iff ha hb hzero hc⟩
  | leftShift =>
    obtain ⟨⟨hnonneg, hlt⟩, ⟨⟩⟩ := Option.ite_none_right_eq_some.mp hvalue
    exact ⟨_, rfl, by simp [shl_apply hnonneg hlt, SignsAgree]⟩
  | rightShift =>
    obtain ⟨⟨hnonneg, hlt⟩, ⟨⟩⟩ := Option.ite_none_right_eq_some.mp hvalue
    exact ⟨_, rfl, lshr_apply_iff ha hnonneg hlt hc⟩
  | div | matMult | pow => cases hvalue

end BpfCompiler.Syntax.BinaryOp
