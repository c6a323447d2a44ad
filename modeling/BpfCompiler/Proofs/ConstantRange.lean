import BpfCompiler.IR.Instruction
import Mathlib.Algebra.Group.Int.Defs
import Mathlib.Algebra.Group.Nat.Defs

/-!
# Constants and their types

A constant of an integer type prints a text of its literal, and nothing makes the two agree.  It fits if the
text writes an integer that the type has a signed or an unsigned form for, or a truth value for a type of one
bit.

`Delivers` compares the constants that a piece of code has with those that were asked for: it has them all, and
what it has beyond them fits.
-/

namespace BpfCompiler

/-! ### Integers as texts -/

/-- The number that some digits write. -/
def decimal? (digits : List Char) : Option Nat :=
  if !digits.isEmpty && digits.all Char.isDigit then some (Nat.ofDigitChars 10 digits 0) else none

/-- The integer that some characters write: digits, with a minus before them if it is negative. -/
def integer? : List Char → Option Int
  | '-' :: digits => (decimal? digits).map fun n => -(n : Int)
  | digits => (decimal? digits).map fun n => (n : Int)

theorem decimal?_toDigits (n : Nat) : decimal? (Nat.toDigits 10 n) = some n := by
  have hdigits : (Nat.toDigits 10 n).all Char.isDigit = true :=
    List.all_eq_true.mpr fun c hc => Nat.isDigit_of_mem_toDigits (by decide) (by decide) hc
  rw [decimal?, hdigits]
  simp [Nat.ofDigitChars_ten_toDigits, Nat.toDigits_ne_nil]

theorem integer?_toDigits (n : Nat) : integer? (Nat.toDigits 10 n) = some (n : Int) := by
  have hsign : ∀ digits, Nat.toDigits 10 n ≠ '-' :: digits := by
    intro digits heq
    have hdigit : Char.isDigit '-' = true :=
      Nat.isDigit_of_mem_toDigits (b := 10) (n := n) (by decide) (by decide) (by simp [heq])
    exact absurd hdigit (by decide)
  rw [integer?, decimal?_toDigits]
  · rfl
  · exact hsign

theorem integer?_toString (n : Int) : integer? (toString n).toList = some n := by
  rw [Int.toString_eq_repr]
  cases n with
  | ofNat n =>
    rw [Int.repr, Nat.repr_eq_ofList_toDigits, String.toList_ofList]
    exact integer?_toDigits n
  | negSucc n =>
    have hchars : (Int.repr (.negSucc n)).toList = '-' :: Nat.toDigits 10 n.succ := by
      simp [Int.repr, Nat.repr_eq_ofList_toDigits]
    rw [hchars, integer?, decimal?_toDigits]
    rfl

theorem CodePoint.toChar?_ofChar (c : Char) : (CodePoint.ofChar c).toChar? = some c := by
  have hvalid := c.valid
  have hsurrogate : (CodePoint.ofChar c).isSurrogate = false := by
    simp only [UInt32.isValidChar, Nat.isValidChar] at hvalid
    have hval : c.toNat = c.val.toNat := rfl
    refine Bool.eq_false_iff.mpr fun h => ?_
    obtain ⟨hlow, hhigh⟩ := (Bool.and_eq_true _ _).mp h
    have hlow : 0xD800 ≤ c.toNat := of_decide_eq_true hlow
    have hhigh : c.toNat ≤ 0xDFFF := of_decide_eq_true hhigh
    omega
  rw [toChar?, hsurrogate]
  simp [ofChar]

namespace Text

theorem toString?_ofString (s : String) : (ofString s).toString? = some s := by
  have hpoints : ∀ cs : List Char, (cs.map CodePoint.ofChar).mapM CodePoint.toChar? = some cs := by
    intro cs
    induction cs with
    | nil => rfl
    | cons c cs ih => simp [CodePoint.toChar?_ofChar, ih]
  rw [toString?, ofString, ofChars, hpoints]
  simp

/-- The integer that a text writes. -/
def integer? (t : Text) : Option Int := t.toString?.bind fun s => BpfCompiler.integer? s.toList

theorem integer?_toString (n : Int) : (ofString (toString n)).integer? = some n := by
  rw [integer?, toString?_ofString]
  exact BpfCompiler.integer?_toString n

end Text

end BpfCompiler

namespace BpfCompiler.IR

/-- Whether a text may stand for a constant of the given width: an integer that the width has a signed or an
unsigned form for, or a truth value of one bit. -/
def fitsWidth (width : Nat) (t : Text) : Bool :=
  match t.integer? with
  | some v => -2 ^ (width - 1) ≤ v && v < 2 ^ width
  | none => width == 1 && (t == "true" || t == "false")

namespace Operand

/-- Whether an operand is a constant of an integer type. -/
def isIntConstant : Operand → Bool
  | .const (.int _) _ => true
  | _ => false

/-- Whether the text that the operand prints fits its type, if it is a constant of an integer type. -/
def fits : Operand → Bool
  | .const (.int width) value => fitsWidth width (constRef (.int width) value)
  | _ => true

/-- Which literals fit.  Truth values print as words, and the absent value as zero. -/
theorem fits_const_iff {width : Nat} {value : Literal} :
    (Operand.const (.int width) value).fits = true ↔
      match value with
      | .int n => -2 ^ (width - 1) ≤ n ∧ n < 2 ^ width
      | .bool _ => width = 1
      | .none => True
      | v => fitsWidth width v.shown = true := by
  cases value with
  | int n =>
    have hread : (constRef (.int width) (.int n)).integer? = some n := Text.integer?_toString n
    rw [fits, fitsWidth, hread]
    simp
  | bool b =>
    have hread : (constRef (.int width) (.bool b)).integer? = none := by cases b <;> rfl
    rw [fits, fitsWidth, hread]
    cases b <;> simp [constRef]
  | none =>
    have hread : (constRef (.int width) .none).integer? = some 0 := rfl
    have hlow : (0 : Int) ≤ 2 ^ (width - 1) := Int.pow_nonneg (by decide)
    have hhigh : (0 : Int) < 2 ^ width := Int.pow_pos (by decide)
    rw [fits, fitsWidth, hread]
    simp [hlow, hhigh]
  | _ => rfl

/-- A number that is not negative fits every integer type that is wide enough for it. -/
theorem fits_nat {width n : Nat} (h : n < 2 ^ width) : (Operand.int (.int width) n).fits = true := by
  have hlow : (0 : Int) ≤ 2 ^ (width - 1) := Int.pow_nonneg (by decide)
  refine fits_const_iff.mpr ⟨by omega, ?_⟩
  exact_mod_cast h

theorem fits_zero (width : Nat) : (Operand.int (.int width) 0).fits = true :=
  fits_nat (Nat.pow_pos (by decide))

end Operand

/-! ### Constants of instructions -/

/-- The constants of integer types among operands. -/
def intConstants (os : List Operand) : List Operand := os.filter Operand.isIntConstant

@[simp] theorem intConstants_nil : intConstants [] = [] := rfl

@[simp] theorem intConstants_append (os os' : List Operand) :
    intConstants (os ++ os') = intConstants os ++ intConstants os' :=
  List.filter_append os os'

theorem intConstants_cons {o : Operand} (h : o.isIntConstant = false) (os : List Operand) :
    intConstants (o :: os) = intConstants os := by
  rw [intConstants, List.filter_cons_of_neg (by simp [h])]
  rfl

/-- The constants of integer types in some code. -/
def codeConstants (code : List Inst) : List Operand := code.flatMap fun i => intConstants i.op.operands

@[simp] theorem codeConstants_append (code code' : List Inst) :
    codeConstants (code ++ code') = codeConstants code ++ codeConstants code' :=
  List.flatMap_append

@[simp] theorem codeConstants_singleton (i : Inst) : codeConstants [i] = intConstants i.op.operands := by
  simp [codeConstants]

/-! ### Constants that were written and constants that are found -/

/-- All that was written is found, and what else is found fits. -/
structure Delivers (written found : List Operand) : Prop where
  present : ∀ o ∈ written, o ∈ found
  fitting : ∀ o ∈ found, o ∈ written ∨ o.fits = true

namespace Delivers

theorem refl (os : List Operand) : Delivers os os := ⟨fun _ h => h, fun _ => .inl⟩

theorem trans {a b c : List Operand} (h : Delivers a b) (h' : Delivers b c) : Delivers a c where
  present o ho := h'.present o (h.present o ho)
  fitting o ho := by
    rcases h'.fitting o ho with hb | hfits
    · exact h.fitting o hb
    · exact .inr hfits

theorem append {a b a' b' : List Operand} (h : Delivers a b) (h' : Delivers a' b') :
    Delivers (a ++ a') (b ++ b') where
  present o ho := by
    rcases List.mem_append.mp ho with ha | ha
    · exact List.mem_append_left _ (h.present o ha)
    · exact List.mem_append_right _ (h'.present o ha)
  fitting o ho := by
    rcases List.mem_append.mp ho with hb | hb
    · exact (h.fitting o hb).imp_left (List.mem_append_left _)
    · exact (h'.fitting o hb).imp_left (List.mem_append_right _)

/-- What fits need not have been written. -/
theorem of_fits {o : Operand} (h : o.fits = true) : Delivers [] (intConstants [o]) where
  present := by simp
  fitting o' ho' := by
    obtain rfl := List.mem_singleton.mp (List.mem_filter.mp ho').1
    exact .inr h

theorem of_mem_iff {a b : List Operand} (h : ∀ o, o ∈ a ↔ o ∈ b) : Delivers a b :=
  ⟨fun o => (h o).mp, fun o ho => .inl ((h o).mpr ho)⟩

theorem swap (a b : List Operand) : Delivers (a ++ b) (b ++ a) :=
  .of_mem_iff fun _ => by rw [List.mem_append, List.mem_append, or_comm]

/-- What one step hands on, the next one has to deliver. -/
theorem into {w found out found' : List Operand} (h : Delivers w (found ++ out)) (h' : Delivers out found') :
    Delivers w (found ++ found') :=
  h.trans ((refl found).append h')

theorem followed {w w' found out found' : List Operand} (h : Delivers w (found ++ out))
    (h' : Delivers (out ++ w') found') : Delivers (w ++ w') (found ++ found') := by
  have hboth : Delivers (w ++ w') (found ++ (out ++ w')) := by
    simpa using h.append (.refl w')
  exact hboth.into h'

/-- All that is found fits exactly if all that was written does. -/
theorem all_fit_iff {written found : List Operand} (h : Delivers written found) :
    (∀ o ∈ found, o.fits = true) ↔ ∀ o ∈ written, o.fits = true := by
  constructor
  · intro hall o ho
    exact hall o (h.present o ho)
  · intro hall o ho
    rcases h.fitting o ho with hwritten | hfits
    · exact hall o hwritten
    · exact hfits

end Delivers

end BpfCompiler.IR
