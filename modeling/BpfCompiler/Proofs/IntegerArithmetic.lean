import BpfCompiler.Proofs.Registers
import BpfCompiler.Proofs.SignedWords

/-!
# Operations on integers

An operand of an operation stands for an integer: a literal for itself, and a variable for the word at the end
of the pointers that its slot holds.  The code of `x = a op b` changes no cell but that of `x`, and it puts the
word of the integer `a op b` there exactly if the instruction for the operator gets the signs of `a` and `b`
right (`assignBinary_stores_integer_iff`).
-/

namespace BpfCompiler.Lower

open IR Syntax Emit
open Syntax.Words (IsSigned word)

/-- The value of an operand of an operation: a variable is read through all its pointers. -/
def operandValue (locals : Table (Option Slot)) : Expr → Machine → Option Value
  | .const value _, _ => Operand.constant Ty.i64 value
  | .name x, m => (locals.get? x).join.bind fun slot => slot.target m
  | _, _ => none

/-- The operand stands for the number: it is the literal of the number, or a variable with its word. -/
def StandsFor (locals : Table (Option Slot)) (m : Machine) (e : Expr) (n : Int) : Prop :=
  (∃ marked, e = .const (.int n) marked) ∨
    (∃ x, e = .name x) ∧ operandValue locals e m = some (.int 64 (word n))

theorem StandsFor.value {locals : Table (Option Slot)} {m : Machine} {e : Expr} {n : Int}
    (h : StandsFor locals m e n) : operandValue locals e m = some (.int 64 (word n)) := by
  rcases h with ⟨marked, rfl⟩ | ⟨-, hvalue⟩
  · rfl
  · exact hvalue

theorem kept_operandValue {f : Frame} (hnamed : SlotsNamed f) (e : Expr) :
    Kept f (operandValue f.locals e) := by
  intro m m' hsame hcells
  cases e with
  | name x =>
    simp only [operandValue]
    cases hx : (f.locals.get? x).join with
    | none => rfl
    | some slot =>
      have hsettled := settled_address hnamed (Option.join_eq_some_iff.mp hx)
      exact (Kept.operand hsettled).bind (fun cells => chased cells slot.ty) m m' hsame hcells
  | _ => rfl

theorem fault?_signed {n : Int} (h : IsSigned n) : (Operand.int Ty.i64 n).fault? = none := by
  have hlow := h.1
  have hhigh := h.2
  exact fault?_int_of_canShow (canShow_of_natAbs_lt (by omega)) 64

theorem exec_arithOperand_of_standsFor {f : Frame} (hnamed : SlotsNamed f) {m : Machine} {e : Expr}
    {n : Int} (hn : IsSigned n) (he : StandsFor f.locals m e n) (unsupported : Fault) :
    ∃ o text code f', exec (arithOperand unsupported e) f = (.ok (o, text), f') ∧
      o.ty = Ty.i64 ∧ o.fault? = none ∧ Computes (operandValue f.locals e) f code o f' := by
  rcases he with ⟨marked, rfl⟩ | ⟨⟨x, rfl⟩, hvalue⟩
  · have hsettled : Settled f.fn.scope.used (Operand.int Ty.i64 n) := by
      rintro _ _ ⟨⟩
    exact ⟨_, _, [], f, rfl, rfl, fault?_signed hn, Computes.operand hsettled⟩
  · obtain ⟨slot, hjoin, htarget⟩ := Option.bind_eq_some_iff.mp hvalue
    obtain ⟨address, -, hchased⟩ := Option.bind_eq_some_iff.mp htarget
    have hslot := Option.join_eq_some_iff.mp hjoin
    obtain ⟨i, code, f', hchase, hresult, hcomputes⟩ :=
      exec_chase (leadsToWord_of_chased hchased) (Computes.operand (settled_address hnamed hslot))
    have hfunction : operandValue f.locals (.name x) = slot.target := by
      funext m
      rw [operandValue, hjoin, Option.bind_some]
    refine ⟨i.result, i.render, code, f', ?_, by rw [hresult]; rfl, by rw [hresult]; rfl, ?_⟩
    · rw [arithOperand, exec_bind_ok (exec_get f), hslot]
      exact exec_bind_ok hchase
    · rw [hfunction]
      exact hcomputes

/-- The result of an operation goes into a cell, if the operation has one. -/
theorem executeAll_arith_store {m : Machine} {l r : Operand} {x y : BitVec 64} {register : String}
    {place : Nat} (hl : l.eval m = some (.int 64 x)) (hr : r.eval m = some (.int 64 y))
    (hregister : m.registers register = some (.cell place)) (results : Nat → BitVec 64) (op : Arith)
    {name : String} (hne : register ≠ name) (store : String) :
    (m.executeAll results [⟨name, .arith op l r⟩,
        ⟨store, .store (.local name Ty.i64) (.local register (.ptr Ty.i64))⟩]).map Machine.cells =
      (op.apply x y).map fun w => m.cells.set place (some (.int 64 w)) := by
  cases happly : op.apply x y with
  | none => simp [Machine.executeAll, Machine.execute, hl, hr, arithmetic, happly]
  | some w =>
    have hregister' : (m.set name (.int 64 w)).registers register = some (.cell place) := by
      rw [Machine.set_registers, Function.update_of_ne hne, hregister]
    have hvalue : (Operand.local name Ty.i64).eval (m.set name (.int 64 w)) = some (.int 64 w) :=
      Machine.eval_set m name rfl
    rw [Machine.executeAll, List.foldlM_cons, Machine.execute_arith hl hr happly, Option.bind_eq_bind,
      Option.bind_some, List.foldlM_cons, Machine.execute_store hvalue hregister' Ty.i64]
    rfl

/-- The code of an operation computes its operands, applies the instruction and stores the result. -/
theorem exec_assignBinary_of_standsFor {f : Frame} (hnamed : SlotsNamed f)
    (hwritable : f.wholeModule.fault? = none) {x register : String}
    (htarget : f.locals.get? x = some (some ⟨register, Ty.i64⟩)) {m : Machine} {place : Nat}
    (hregister : m.registers register = some (.cell place)) {left right : Expr} {op : BinaryOp}
    {i : Arith} (hop : arithOf? op = some i) {a b : Int} (ha : IsSigned a) (hb : IsSigned b)
    (hleft : StandsFor f.locals m left a) (hright : StandsFor f.locals m right b) :
    ∃ code f', exec (assignBinary x left op right) f = (.ok (), f') ∧ Straight f f' code ∧
      ∀ results, (m.executeAll results code).map Machine.cells =
        (i.apply (word a) (word b)).map fun w => m.cells.set place (some (.int 64 w)) := by
  have htaken : register ∈ f.fn.scope.used := hnamed x _ htarget
  obtain ⟨f₀, hsay₀, hquiet₀, -⟩ := say_straight "<module>" f
  have hshow : exec showModule f = (.ok (), f₀) := by
    rw [showModule, exec_bind_ok (exec_get f), hwritable]
    exact hsay₀
  have hnamed₀ := hnamed.grown hquiet₀.grown
  rw [← hquiet₀.locals] at hleft hright htarget
  obtain ⟨l, leftText, code₁, f₁, hexec₁, hlty, hlshown, hcomputes₁⟩ :=
    exec_arithOperand_of_standsFor hnamed₀ ha hleft .leftOperand
  have hnamed₁ := hnamed₀.grown hcomputes₁.grown
  rw [← hcomputes₁.locals] at hright htarget
  obtain ⟨r, rightText, code₂, f₂, hexec₂, hrty, hrshown, hcomputes₂⟩ :=
    exec_arithOperand_of_standsFor hnamed₁ hb hright .rightOperand
  obtain ⟨f₃, hsay₃, hquiet₃, -⟩ := say_straight (("left is " : Text) ++ leftText ++ ", right is " ++
    rightText ++ ", op is <ast." ++ op.kind ++ ">") f₂
  obtain ⟨name, f₄, harith, hstraight₄⟩ := exec_arith hlty hrty i f₃
  rw [← hcomputes₂.locals, ← hquiet₃.locals, ← hstraight₄.locals] at htarget
  obtain ⟨store, f₅, hassign, hstraight₅⟩ :=
    exec_assign (o := .local name Ty.i64) htarget rfl
  have hoperands := hcomputes₁.toStraight.trans hcomputes₂.toStraight
  have hcode := (hquiet₀.trans hoperands).trans (hquiet₃.trans (hstraight₄.trans hstraight₅))
  refine ⟨_, f₅, ?_, hcode, ?_⟩
  · rw [assignBinary, exec_bind_ok hshow, exec_bind_ok hexec₁]
    dsimp only
    rw [exec_bind_ok hexec₂]
    dsimp only
    rw [exec_bind_ok (exec_checkShown hlshown f₂), exec_bind_ok (exec_checkShown hrshown f₂),
      exec_bind_ok hsay₃, hop]
    dsimp only
    rw [exec_bind_ok harith, hassign]
  · intro results
    have hkept : Kept f₀ (operandValue f₁.locals right) := by
      rw [hcomputes₁.locals]
      exact kept_operandValue hnamed₀ right
    obtain ⟨m', hsets, hevals⟩ := (hcomputes₁.both hcomputes₂ hkept).carries results m _
      (.cons hleft.value (.cons hright.value .nil))
    obtain ⟨hl, hr⟩ : l.eval m' = some (.int 64 (word a)) ∧ r.eval m' = some (.int 64 (word b)) := by
      simpa using hevals
    have hregister' : m'.registers register = some (.cell place) :=
      (hsets.same register (hquiet₀.used htaken)).trans hregister
    -- the result of the operation gets a name of its own, so the address of the slot stays
    have hne : register ≠ name := by
      rintro rfl
      have hused := ((hquiet₀.trans hoperands).trans hquiet₃).used htaken
      exact hstraight₄.fresh _ (List.mem_singleton_self _) hused
    have hrun := executeAll_arith_store hl hr hregister' results i hne store
    rw [← hsets.cells, ← hrun, List.nil_append, List.nil_append, hsets.executeAll_append]
    rfl

/-- The code of `x = a op b` stores the integer `a op b` exactly if the instruction for the operator gets the
signs right. -/
theorem assignBinary_stores_integer_iff {f : Frame} (hnamed : SlotsNamed f)
    (hwritable : f.wholeModule.fault? = none) {x register : String}
    (htarget : f.locals.get? x = some (some ⟨register, Ty.i64⟩)) {m : Machine} {place : Nat}
    (hregister : m.registers register = some (.cell place)) (hplace : place < m.cells.length)
    {left right : Expr} {op : BinaryOp} {a b c : Int} (ha : IsSigned a) (hb : IsSigned b)
    (hleft : StandsFor f.locals m left a) (hright : StandsFor f.locals m right b)
    (hvalue : op.onIntegers? a b = some c) (hc : IsSigned c) :
    ∃ code f', exec (assignBinary x left op right) f = (.ok (), f') ∧ Straight f f' code ∧
      ∀ results, (m.executeAll results code).map Machine.cells =
        some (m.cells.set place (some (.int 64 (word c)))) ↔ op.SignsAgree a b := by
  obtain ⟨i, hop, hexact⟩ := BinaryOp.apply_eq_word_iff ha hb hc hvalue
  obtain ⟨code, f', hexec, hstraight, hcells⟩ :=
    exec_assignBinary_of_standsFor hnamed hwritable htarget hregister hop ha hb hleft hright
  refine ⟨code, f', hexec, hstraight, fun results => ?_⟩
  rw [hcells results, ← hexact]
  cases i.apply (word a) (word b) with
  | none => simp
  | some w =>
    rw [Option.map_some, Option.some_inj, Option.some_inj]
    constructor
    · intro heq
      have hcell := congrArg (·[place]?) heq
      simpa [hplace] using hcell
    · rintro rfl
      rfl

/-- The slots of `x`, `a` and `b`. -/
def numberSlots : List (String × Ty) := [("x", Ty.i64), ("a", Ty.i64), ("b", Ty.i64)]

/-- `a` is -7, and `b` is 2. -/
def numbers : Machine :=
  slotMachine [("x", .int 64 0), ("a", .int 64 (word (-7))), ("b", .int 64 (word 2))]

/-- The cells after `x = a op b`. -/
def afterOperation (op : BinaryOp) : Option (List (Option Value)) :=
  let f := (exec (assignBinary "x" (.name "a") op (.name "b")) (slotFrame numberSlots)).2
  (numbers.executeAll (fun _ => 0) f.block.insts).map Machine.cells

/-- The quotient of -7 and 2 is computed as that of 2^64 - 7 and 2, and so is neither -4 nor one that fits the
remainder.  A shift to the right fills up with zeros and gives 2^62 - 2 in place of -2. -/
theorem quotient_not_stored :
    (∃ q r : BitVec 64, BinaryOp.floorDiv.onIntegers? (-7) 2 = some (-4) ∧
      afterOperation .floorDiv = some (numbers.cells.set 0 (some (.int 64 q))) ∧ q ≠ word (-4) ∧
      afterOperation .mod = some (numbers.cells.set 0 (some (.int 64 r))) ∧
      q * word 2 + r ≠ word (-7)) ∧
    BinaryOp.rightShift.onIntegers? (-7) 2 = some (-2) ∧
      afterOperation .rightShift = some (numbers.cells.set 0 (some (.int 64 (word 0x3FFFFFFFFFFFFFFE)))) := by
  refine ⟨⟨word 0x7FFFFFFFFFFFFFFC, word (-1), ?_⟩, ?_⟩
  · decide +kernel
  · decide +kernel

/-- The product of -7 and 2 is stored, and their quotient is not. -/
theorem numbers_stored_iff :
    (∃ code f', exec (assignBinary "x" (.name "a") .mult (.name "b")) (slotFrame numberSlots) =
        (.ok (), f') ∧ Straight (slotFrame numberSlots) f' code ∧
      ∀ results, (numbers.executeAll results code).map Machine.cells =
        some (numbers.cells.set 0 (some (.int 64 (word (-14)))))) ∧
    ∃ code f', exec (assignBinary "x" (.name "a") .floorDiv (.name "b")) (slotFrame numberSlots) =
        (.ok (), f') ∧ Straight (slotFrame numberSlots) f' code ∧
      ∀ results, (numbers.executeAll results code).map Machine.cells ≠
        some (numbers.cells.set 0 (some (.int 64 (word (-4))))) := by
  have hnamed := slotFrame_named numberSlots
  have hwritable : (slotFrame numberSlots).wholeModule.fault? = none := by decide +kernel
  have htarget : (slotFrame numberSlots).locals.get? "x" = some (some ⟨"x", Ty.i64⟩) := by
    decide +kernel
  have hregister : numbers.registers "x" = some (.cell 0) := by decide +kernel
  have hplace : 0 < numbers.cells.length := by decide
  have ha : IsSigned (-7) := by decide
  have hb : IsSigned 2 := by decide
  have hleft : StandsFor (slotFrame numberSlots).locals numbers (.name "a") (-7) :=
    .inr ⟨⟨"a", rfl⟩, by decide +kernel⟩
  have hright : StandsFor (slotFrame numberSlots).locals numbers (.name "b") 2 :=
    .inr ⟨⟨"b", rfl⟩, by decide +kernel⟩
  have hproduct : BinaryOp.mult.onIntegers? (-7) 2 = some (-14) := by decide
  have hquotient : BinaryOp.floorDiv.onIntegers? (-7) 2 = some (-4) := by decide
  constructor
  · obtain ⟨code, f', hexec, hstraight, hstored⟩ := assignBinary_stores_integer_iff hnamed hwritable
      htarget hregister hplace ha hb hleft hright hproduct (by decide)
    exact ⟨code, f', hexec, hstraight, fun results => (hstored results).mpr trivial⟩
  · obtain ⟨code, f', hexec, hstraight, hstored⟩ := assignBinary_stores_integer_iff hnamed hwritable
      htarget hregister hplace ha hb hleft hright hquotient (by decide)
    have hsigns : ¬BinaryOp.floorDiv.SignsAgree (-7) 2 := by
      unfold BinaryOp.SignsAgree
      decide
    exact ⟨code, f', hexec, hstraight, fun results => (hstored results).not.mpr hsigns⟩

end BpfCompiler.Lower
