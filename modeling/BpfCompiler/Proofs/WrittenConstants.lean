import BpfCompiler.Proofs.ConstantEmitters
import BpfCompiler.Proofs.Coverage
import BpfCompiler.Proofs.OperandTypes
import BpfCompiler.Proofs.ReturnDepth

/-!
# The constants that a program writes

Every constant of an integer type in a function either stands in its program, as it was written there, or fits
its type.  And every constant that is written at one of the places where literals are taken over stands in the
function.  The literals are not looked at on the way, so nothing but the program decides whether all constants
fit: a truth value that a number is compared with and a fraction in a sum become constants of 64 bits, and so
does `18446744073709551616`.
-/

namespace BpfCompiler.IR

/-- An integer type has eight bits at least. -/
def Ty.isWide : Ty → Bool
  | .int width => 8 ≤ width
  | _ => true

theorem Operand.fits_of_isWide {ty : Ty} (hty : ty.isWide = true) {n : Nat} (hn : n < 2 ^ 8) :
    (Operand.int ty n).fits = true := by
  cases ty with
  | int width =>
    have hwidth : 8 ≤ width := of_decide_eq_true hty
    exact Operand.fits_nat (Nat.lt_of_lt_of_le hn (Nat.pow_le_pow_right (by decide) hwidth))
  | _ => rfl

end BpfCompiler.IR

namespace BpfCompiler.Lower

open IR Syntax Emit

/-! ### Returns -/

/-- The constant of a return of a typed literal. -/
def returnConstants (result : Ty) (value : Option Expr) : List Operand :=
  intConstants ((value.bind typedLiteral?).map fun p => Operand.const result p.2).toList

theorem isWide_of_typeOfName {name : String} {ty : Ty} (h : typeOfName name = .ok ty) : ty.isWide = true := by
  have hnames : ∀ p ∈ typeNames, p.2.isWide = true := by decide
  exact hnames _ (mem_typeNames h)

theorem returnOperand_delivers {result : Ty} (hresult : result.isWide = true) {value : Option Expr}
    {o : Operand} (h : returnOperand result value = .ok o) :
    Delivers (returnConstants result value) (intConstants [o]) := by
  cases value with
  | none =>
    obtain rfl := Except.ok.inj h
    exact .of_fits (Operand.fits_zero 32)
  | some e =>
    cases htyped : typedLiteral? e with
    | none =>
      rcases returnOperand_plain htyped h with rfl | rfl
      · obtain rfl := Except.ok.inj h
        exact .of_fits (Operand.fits_of_isWide hresult (n := 2) (by decide))
      · obtain rfl := Except.ok.inj h
        exact .of_fits (Operand.fits_of_isWide hresult (n := 1) (by decide))
    | some typed =>
      obtain ⟨id, value⟩ := typed
      have hconst : o = .const result value := by
        rw [returnOperand_literal htyped] at h
        cases hty : typeOfName id with
        | error fault =>
          rw [hty] at h
          cases h
        | ok ty =>
          rw [hty] at h
          change (if ty.agrees result then _ else _) = Except.ok o at h
          split at h
          · exact (Except.ok.inj h).symm
          · cases h
      rw [hconst, returnConstants, Option.bind_some, htyped]
      exact .refl _

/-! ### Suites -/

mutual

/-- The constants that a statement writes, in a function that returns `result`.  Inside a branch, returns are
of words. -/
def stmtConstants (maps : Table Operand) (result : Ty) : Stmt → List Operand
  | .cond test body orelse =>
    testConstants test ++ (suiteConstants maps Ty.i64 body ++ suiteConstants maps Ty.i64 orelse)
  | .ret value => returnConstants result value
  | s => simpleConstants maps s

def suiteConstants (maps : Table Operand) (result : Ty) : List Stmt → List Operand
  | [] => []
  | s :: rest => stmtConstants maps result s ++ suiteConstants maps result rest

end

theorem stmtConstants_of_isSimple {s : Stmt} (hs : s.isSimple = true) (maps : Table Operand) (result : Ty) :
    stmtConstants maps result s = simpleConstants maps s := by
  cases s with
  | cond => cases hs
  | ret => cases hs
  | _ => rfl

/-- Every conditional branch has a condition. -/
def Tested (code : List Inst) : Prop :=
  ∀ i ∈ code, ∀ condition yes no, i.op = .condBranch condition yes no → condition.isSome = true

theorem tested_append {code code' : List Inst} : Tested (code ++ code') ↔ Tested code ∧ Tested code' :=
  List.forall_mem_append

theorem Joins.codeConstants_eq {label : String} {f f' : Frame} {join : List Inst} (h : Joins label f f' join) :
    codeConstants join = [] := by
  cases h with
  | ended => rfl
  | branch => rfl

/-- The test of a branch is delivered by its own code, the condition of the branch included. -/
theorem Opens.delivers {test : Expr} {f g : Frame} {arms : Arms} {new : List Inst}
    (h : Opens test f g arms new) (hin : f.here < f.fn.blocks.length) (htested : Tested new) :
    Delivers (testConstants test) (codeConstants new) := by
  obtain ⟨f₁, f₂, code, outcome, name, hmakes, hcondition, hcode, -, -, rfl⟩ := h.run
  -- a test that came to nothing may have dropped constants, but then the branch has no condition
  have hsome : outcome.isSome = true :=
    htested _ (List.mem_append_right _ (List.mem_singleton_self _)) _ _ _ rfl
  obtain ⟨o, rfl⟩ := Option.isSome_iff_exists.mp hsome
  obtain ⟨code', hcode', hdelivers⟩ := condition_delivers f₁ hcondition
  obtain rfl := hcode.toAppends.unique hcode'.toAppends (hmakes.inRange hin)
  rw [codeConstants_append, codeConstants_singleton]
  exact hdelivers

/-- The parts of a suite deliver what it writes.  The tables are the same at every statement, and a suite inside
a branch returns words. -/
theorem Lowers.delivers {maps : Table Operand} {locals : Table (Option Slot)} {result : Ty} {body : List Stmt}
    {f f' : Frame} {parts : List (Stmt × List Inst)} (h : Lowers result body f parts f')
    (hf : f.HasTables maps locals) (hresult : result.isWide = true)
    (htested : Tested (parts.flatMap Prod.snd)) :
    Delivers (suiteConstants maps result body) (codeConstants (parts.flatMap Prod.snd)) := by
  have hword : Ty.i64.isWide = true := rfl
  induction h with
  | nil => exact .refl []
  | @simple result s rest f f₁ f₂ new parts hsimple hexec hstraight hrest ih =>
    rw [List.flatMap_cons] at htested ⊢
    rw [suiteConstants, stmtConstants_of_isSimple hsimple, codeConstants_append]
    obtain ⟨code, hcode, -, hdelivers⟩ := (lowerSimple_writes f s).ok hexec
    obtain rfl := hstraight.toAppends.unique hcode.toAppends hf.inRange
    rw [hf.maps, intConstants_nil, List.append_nil] at hdelivers
    exact hdelivers.append (ih (hstraight.grown.hasTables hf) hresult (tested_append.mp htested).2)
  | @ret result value o rest f f₁ f₂ name parts hopen hoperand happends hlocals hrest ih =>
    rw [List.flatMap_cons] at htested ⊢
    rw [suiteConstants, stmtConstants, codeConstants_append, codeConstants_singleton]
    have hrest := ih ((happends.grown hlocals).hasTables hf) hresult (tested_append.mp htested).2
    exact (returnOperand_delivers hresult hoperand).append hrest
  | @branch result test body rest f g g₁ g₂ f' arms new join parts₁ parts₂ hopens hother hbody hjoins
      hrest ihbody ihrest =>
    have hthen := (List.getElem?_eq_some_iff.mp (hopens.getElem?_then hf.inRange)).1
    have harm := hbody.grown.trans hjoins.grown
    have hg := hopens.grown.hasTables hf
    simp only [List.flatMap_cons, List.flatMap_append, tested_append] at htested
    obtain ⟨⟨hnew, -⟩, hfirst, hsecond⟩ := htested
    have htest := hopens.delivers hf.inRange hnew
    have hinner := ihbody ⟨hthen, hg.maps, hg.locals⟩ hword hfirst
    have hafter := ihrest ((hopens.grown_after harm).hasTables hf) hresult hsecond
    simpa [suiteConstants, stmtConstants, hjoins.codeConstants_eq] using
      htest.append (hinner.append hafter)
  | @branchElse result test body orelse rest f g g₁ g₂ g₃ g₄ f' arms elseBlock elseLabel new join join'
      parts₁ parts₂ parts₃ helse hopens hother hbody hjoins horelse hjoins' hrest ihbody ihorelse
      ihrest =>
    have hthen := (List.getElem?_eq_some_iff.mp (hopens.getElem?_then hf.inRange)).1
    have harm := hbody.grown.trans hjoins.grown
    have hother' :=
      (List.getElem?_eq_some_iff.mp (hopens.getElem?_else_after hf.inRange hother harm)).1
    have harm' := horelse.grown.trans hjoins'.grown
    have hg := hopens.grown.hasTables hf
    simp only [List.flatMap_cons, List.flatMap_append, tested_append] at htested
    obtain ⟨⟨⟨hnew, -⟩, -⟩, ⟨hfirst, hsecond⟩, hthird⟩ := htested
    have htest := hopens.delivers hf.inRange hnew
    have hinner := ihbody ⟨hthen, hg.maps, hg.locals⟩ hword hfirst
    have houter := ihorelse ⟨hother', harm.maps.trans hg.maps, harm.locals.trans hg.locals⟩ hword hsecond
    have hafter := ihrest ((hopens.grown_after_else hother harm harm').hasTables hf) hresult hthird
    simpa [suiteConstants, stmtConstants, hjoins.codeConstants_eq, hjoins'.codeConstants_eq] using
      htest.append (hinner.append (houter.append hafter))

/-! ### Functions -/

theorem mem_insts_iff_holds {f : Frame} {i : Inst} : i ∈ f.fn.insts ↔ Holds f i :=
  List.mem_flatMap

theorem Allocates.codeConstants_eq {f f' : Frame} {slots : List Inst} (h : Allocates f f' slots) :
    codeConstants slots = [] := by
  refine List.flatMap_eq_nil_iff.mpr fun i hi => ?_
  obtain ⟨ty, align, hop⟩ := h.alloca i hi
  rw [hop]
  rfl

theorem Prepares.holds_slots_iff {w : Workspace} {d : Syntax.Function} {result : Ty} {f : Frame}
    {slots : List Inst} (h : Prepares d.body (programStart w d result) f slots) {i : Inst} :
    Holds f i ↔ i ∈ slots := by
  obtain ⟨entry, hblocks⟩ := h.blocks_start
  simp [Holds, hblocks]

/-- A function is made of the slots, the statements and, if it would run off its end, a return of zero. -/
theorem Builds.mem_insts_iff {w : Workspace} {d : Syntax.Function} {result : Ty} {f : Frame}
    {parts : List (Stmt × List Inst)} (h : Builds result d.body (programStart w d result) parts f) :
    ∃ f₁ g slots last, Prepares d.body (programStart w d result) f₁ slots ∧
      Lowers result d.body f₁ parts g ∧
      (last = [] ∨ ∃ name, last = [⟨name, .ret (Operand.int Ty.i32 0)⟩]) ∧
      ∀ i, i ∈ f.fn.insts ↔ i ∈ slots ++ (parts.flatMap Prod.snd ++ last) := by
  have hstart := programStart_inRange w d result
  cases h with
  | @returned f₁ f' slots parts hslots hlowers hreturn =>
    refine ⟨f₁, f, slots, [], hslots, hlowers, .inl rfl, fun i => ?_⟩
    rw [mem_insts_iff_holds, hlowers.holds_iff (hslots.inRange hstart), hslots.holds_slots_iff,
      List.append_nil, List.mem_append]
  | @falls f₁ g f' slots parts name hslots hlowers hreturn hopen happends hlocals =>
    have hin := hslots.inRange hstart
    refine ⟨f₁, g, slots, _, hslots, hlowers, .inr ⟨name, rfl⟩, fun i => ?_⟩
    rw [mem_insts_iff_holds, happends.holds_iff (hlowers.grown.inRange hin), hlowers.holds_iff hin,
      hslots.holds_slots_iff, List.mem_append, List.mem_append, or_assoc]

theorem Builds.delivers {w : Workspace} {d : Syntax.Function} {result : Ty} {f : Frame}
    {parts : List (Stmt × List Inst)}
    (h : Builds result d.body (programStart w d result) parts f)
    (hresult : result.isWide = true) (htested : Tested f.fn.insts) :
    Delivers (suiteConstants w.maps result d.body) (codeConstants f.fn.insts) := by
  obtain ⟨f₁, g, slots, last, hslots, hlowers, hlast, hinsts⟩ := h.mem_insts_iff
  have hmade : Delivers (codeConstants (slots ++ (parts.flatMap Prod.snd ++ last)))
      (codeConstants f.fn.insts) :=
    .of_mem_iff fun o => by simp only [codeConstants, List.mem_flatMap, hinsts]
  have htables : f₁.HasTables w.maps f₁.locals :=
    ⟨hslots.inRange (programStart_inRange w d result), hslots.maps, rfl⟩
  have hbody := hlowers.delivers htables hresult fun i hi => htested i ((hinsts i).mpr (by simp [hi]))
  have hend : Delivers [] (codeConstants last) := by
    rcases hlast with rfl | ⟨name, rfl⟩
    · exact .refl []
    · exact codeConstants_singleton _ ▸ .of_fits (Operand.fits_zero 32)
  refine Delivers.trans ?_ hmade
  simpa [hslots.codeConstants_eq] using hbody.append hend

theorem Lowered.delivers {maps : Table Operand} {d : Syntax.Function} {fn : IR.Function}
    (h : Lowered maps d fn) (hfault : fn.fault? = none) :
    Delivers (suiteConstants maps fn.result d.body) (codeConstants fn.insts) := by
  have hresult : fn.result.isWide = true := by
    have hname := h.result
    cases hreturn : returnType d with
    | error fault =>
      rw [hreturn] at hname
      cases hname
    | ok name =>
      rw [hreturn] at hname
      exact isWide_of_typeOfName hname
  obtain ⟨w, parts, f, rfl, rfl, hbuilds⟩ := h.builds
  refine hbuilds.delivers hresult fun i hi condition yes no hop => ?_
  obtain ⟨b, hb, hmem⟩ := List.mem_flatMap.mp hi
  exact tested_of_fault? hfault hb hmem hop

/-- In every source that compiles, and for every function of its module, the constants of integer types are
those that the program writes, each as it is written, and constants that fit their types.  So all of them fit
exactly if those that the program writes do. -/
theorem source_constants_fit_iff {path : String} {text : List Char} {maps : Table Operand} {out : Text}
    {w : Workspace}
    (h : exec (Compile.source path text) (Compile.start path maps) = (.ok out, w)) :
    ∃ m, Syntax.Module.parse (Lexer.universalNewlines text) = .ok m ∧
      List.Forall₂
        (fun d fn => fn.name = d.name ∧ (returnType d).bind typeOfName = .ok fn.result ∧
          Delivers (suiteConstants w.maps fn.result d.body) (codeConstants fn.insts) ∧
          ((∀ o ∈ codeConstants fn.insts, o.fits = true) ↔
            ∀ o ∈ suiteConstants w.maps fn.result d.body, o.fits = true))
        m.programs w.module.functions := by
  obtain ⟨m, hparse, hall⟩ := source_functions h
  refine ⟨m, hparse, hall.imp ?_⟩
  rintro d fn ⟨hlowered, hfault⟩
  have hdelivers := hlowered.delivers hfault
  exact ⟨hlowered.name, hlowered.result, hdelivers, hdelivers.all_fit_iff⟩

/-- A number compared with a truth value. -/
def truthComparedSource : List Char :=
  "@bpf\ndef f() -> c_int64:\n    x = 1\n    if x == True:\n        x = 2\n    return c_int64(0)\n".toList

/-- A fraction in a sum of whole numbers. -/
def fractionAddedSource : List Char :=
  "@bpf\ndef f() -> c_int64:\n    x = 1.5 + 2\n    return c_int64(0)\n".toList

/-- The source compiles, and the constant stands in the code of one of its functions. -/
def WritesConstant (source : List Char) (o : Operand) : Prop :=
  (exec (Compile.source "prog.py" source) (Compile.start "prog.py" Table.empty)).1.isOk = true ∧
  ∃ fn ∈ (exec (Compile.source "prog.py" source) (Compile.start "prog.py" Table.empty)).2.module.functions,
    o ∈ codeConstants fn.insts

instance (source : List Char) (o : Operand) : Decidable (WritesConstant source o) :=
  inferInstanceAs (Decidable (_ ∧ _))

theorem truthCompared_writes : WritesConstant truthComparedSource (.const Ty.i64 (.bool true)) := by
  decide +kernel

theorem truthCompared_fits_iff :
    ∃ (out : Text) (w : Workspace) (m : Syntax.Module),
      exec (Compile.source "prog.py" truthComparedSource) (Compile.start "prog.py" Table.empty) =
        (.ok out, w) ∧
      Syntax.Module.parse (Lexer.universalNewlines truthComparedSource) = .ok m ∧
      List.Forall₂
        (fun d fn => fn.name = d.name ∧ (returnType d).bind typeOfName = .ok fn.result ∧
          Delivers (suiteConstants w.maps fn.result d.body) (codeConstants fn.insts) ∧
          ((∀ o ∈ codeConstants fn.insts, o.fits = true) ↔
            ∀ o ∈ suiteConstants w.maps fn.result d.body, o.fits = true))
        m.programs w.module.functions := by
  obtain ⟨out, w, hsource⟩ := exec_of_isOk truthCompared_writes.1
  obtain ⟨m, hparse, hall⟩ := source_constants_fit_iff hsource
  exact ⟨out, w, m, hsource, hparse, hall⟩

/-- Both sources compile, and their functions hold a constant of 64 bits that is no whole number. -/
theorem misfits_not_fit :
    WritesConstant truthComparedSource (.const Ty.i64 (.bool true)) ∧
    (Operand.const Ty.i64 (.bool true)).fits = false ∧
    WritesConstant fractionAddedSource (.const Ty.i64 (.float (Double.ofDecimal false 15 (-1)))) ∧
    (Operand.const Ty.i64 (.float (Double.ofDecimal false 15 (-1)))).fits = false :=
  ⟨truthCompared_writes, rfl, by decide +kernel, rfl⟩

end BpfCompiler.Lower
