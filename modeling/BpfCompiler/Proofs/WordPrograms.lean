import BpfCompiler.Proofs.Compilation
import BpfCompiler.Proofs.WordSimulation

/-!
# Programs of words are compiled faithfully

A program of words becomes a function that calls the same helpers in the same order and returns the same word
(`lowerProgram_faithful`).  What is left for this are the slots, which a walk of its own makes before any
statement is lowered: every assignment makes a new one, and the last one counts.  The step lemma is about one
slot (`Matches.alloca`), the run lemma about the whole walk (`exec_allocateSuite`).
-/

namespace BpfCompiler.Lower

open IR Syntax Emit
open Syntax.Words (State Word Halt Outcome)

/-! ### The slots -/

/-- A new cell for a variable, as long as no variable has a value. -/
theorem Matches.alloca {locals : Table (Option Slot)} {m : Machine} {register : String}
    (h : Matches locals State.empty m)
    (hfresh : ∀ y slot, locals.get? y = some (some slot) → slot.register ≠ register) (x : String)
    (ty : Ty) : Matches (locals.insert x (some ⟨register, ty⟩)) State.empty
      { m.set register (.cell m.cells.length) with cells := m.cells ++ [none] } where
  calls := h.calls
  cell := by
    intro y slot hy
    rw [Table.get?_insert] at hy
    split at hy
    · obtain rfl : ⟨register, ty⟩ = slot := by simpa using hy
      refine ⟨m.cells.length, Function.update_self _ _ _, by simp, ?_⟩
      rintro w ⟨⟩
    · obtain ⟨place, hregister, hlt, -⟩ := h.cell y slot hy
      refine ⟨place, ?_, by simp; omega, ?_⟩
      · exact (Function.update_of_ne (hfresh y slot hy) _ _).trans hregister
      · rintro w ⟨⟩
  apart := by
    intro y z slot slot' place hne hy hz
    rw [Table.get?_insert] at hy hz
    -- the registers of the other variables are as they were, and point to older cells
    have hother : ∀ {z : String} {slot : Slot}, locals.get? z = some (some slot) →
        Function.update m.registers register (some (.cell m.cells.length)) slot.register =
          m.registers slot.register ∧ m.registers slot.register ≠ some (.cell m.cells.length) := by
      intro z slot hz
      obtain ⟨place, hregister, hlt, -⟩ := h.cell z slot hz
      refine ⟨Function.update_of_ne (hfresh z slot hz) _ _, ?_⟩
      rw [hregister]
      simp
      omega
    have hself : Function.update m.registers register (some (.cell m.cells.length)) register =
        some (.cell m.cells.length) := Function.update_self _ _ _
    change Function.update m.registers register _ slot.register = _ →
      Function.update m.registers register _ slot'.register ≠ _
    by_cases hyx : y = x
    · rw [if_pos hyx] at hy
      rw [if_neg fun hzx => hne (hyx.trans hzx.symm)] at hz
      obtain rfl : ⟨register, ty⟩ = slot := by simpa using hy
      rw [hself, (hother hz).1]
      rintro ⟨⟩
      exact (hother hz).2
    · rw [if_neg hyx] at hy
      rw [(hother hy).1]
      by_cases hzx : z = x
      · rw [if_pos hzx] at hz
        obtain rfl : ⟨register, ty⟩ = slot' := by simpa using hz
        rw [hself]
        intro hplace hlength
        exact (hother hy).2 (hplace.trans hlength.symm)
      · rw [if_neg hzx] at hz
        rw [(hother hz).1]
        exact h.apart y z slot slot' place hne hy hz

/-- The code makes the slots that the table has got. -/
structure Supplies (f : Frame) (code : List Inst) (f' : Frame) : Prop
    extends Allocates f f' code where
  carries : ∀ results m, Matches f.locals State.empty m →
    ∃ m', m.executeAll results code = some m' ∧ Matches f'.locals State.empty m'

namespace Supplies

variable {f f₁ f₂ : Frame} {code code' : List Inst}

theorem of_straight (h : Straight f f₁ []) : Supplies f [] f₁ where
  toAllocates := Allocates.of_straight h
  carries := by
    intro results m hmatches
    rw [← h.locals] at hmatches
    exact ⟨m, Machine.executeAll_nil results m, hmatches⟩

theorem refl (f : Frame) : Supplies f [] f := of_straight (Straight.refl f)

theorem trans (h : Supplies f code f₁) (h' : Supplies f₁ code' f₂) :
    Supplies f (code ++ code') f₂ where
  toAllocates := h.toAllocates.trans h'.toAllocates
  carries := by
    intro results m hmatches
    obtain ⟨m₁, hrun₁, hmatches₁⟩ := h.carries results m hmatches
    obtain ⟨m₂, hrun₂, hmatches₂⟩ := h'.carries results m₁ hmatches₁
    exact ⟨m₂, Machine.executeAll_append hrun₁ hrun₂, hmatches₂⟩

theorem slot {register : String} {ty : Ty} {align : Option Nat} (hty : ty.isScalar = true)
    (h : Straight f f₁ [⟨register, .alloca ty align⟩]) (hnamed : SlotsNamed f) (x : String) :
    Supplies f [⟨register, .alloca ty align⟩]
      { f₁ with locals := f₁.locals.insert x (some ⟨register, ty⟩) } where
  toAppends := h.toAppends.trans (Appends.of_same (.of_eq rfl rfl rfl) rfl rfl)
  alloca := by simp
  scalar := by simpa using hty
  carries := by
    intro results m hmatches
    refine ⟨_, Machine.executeAll_singleton results m _, ?_⟩
    rw [h.locals]
    refine hmatches.alloca (fun y slot hy hregister => ?_) x ty
    exact h.fresh _ (List.mem_singleton_self _) (hregister ▸ hnamed y slot hy)

end Supplies

namespace WordFrame

variable {vars vars' : List String} {f : Frame}

theorem mono (h : WordFrame vars f) (hsub : vars' ⊆ vars) : WordFrame vars' f :=
  ⟨h.inRange, fun x hx => h.slots x (hsub hx), h.named, h.rest, h.code⟩

theorem bindSlot (h : WordFrame vars f) {register : String} (hused : register ∈ f.fn.scope.used)
    (x : String) :
    WordFrame (x :: vars) { f with locals := f.locals.insert x (some ⟨register, Ty.i64⟩) } where
  inRange := h.inRange
  slots := by
    intro y hy
    rw [Table.get?_insert]
    split
    · exact ⟨register, rfl⟩
    · rename_i hne
      exact h.slots y ((List.mem_cons.mp hy).resolve_left hne)
  named := by
    intro y slot hy
    rw [Table.get?_insert] at hy
    split at hy
    · obtain rfl : ⟨register, Ty.i64⟩ = slot := by simpa using hy
      exact hused
    · exact h.named y slot hy
  rest := h.rest
  code := h.code

end WordFrame

section Slots

variable {vars seen : List String} {f : Frame}

theorem slotPlan_word {e : Expr} (h : Words.isValue vars e = true) :
    ∃ align purpose, slotPlan e = .fresh ⟨Ty.i64, align, purpose⟩ := by
  rcases Words.isValue_cases h with rfl | rfl | ⟨id, arg, rfl, hid, -⟩ |
    ⟨left, op, right, apply, rfl, -⟩ | hliteral
  · exact ⟨_, _, rfl⟩
  · exact ⟨_, _, rfl⟩
  · rw [Words.isWordType, Bool.or_eq_true, beq_iff_eq, beq_iff_eq] at hid
    rcases hid with rfl | rfl
    · exact ⟨_, _, rfl⟩
    · exact ⟨_, _, rfl⟩
  · exact ⟨_, _, rfl⟩
  · obtain ⟨n, marked, rfl, -⟩ := Words.isLiteral_cases hliteral
    exact ⟨_, _, rfl⟩

theorem exec_allocateAssign (hf : WordFrame seen f) {e : Expr} (he : Words.isValue vars e = true)
    (last : Option Slot) (x : String) :
    ∃ out code f', exec (allocateAssign last [.name x] e) f = (.ok out, f') ∧
      WordFrame (x :: seen) f' ∧ Supplies f code f' := by
  obtain ⟨align, purpose, hplan⟩ := slotPlan_word he
  obtain ⟨register, f₁, halloca, hstraight₁⟩ := exec_alloca x Ty.i64 align f
  obtain ⟨f₂, hsay, hstraight₂, -⟩ :=
    say_straight ("Pre-allocated variable " ++ x ++ " " ++ purpose) f₁
  have hstraight : Straight f f₂ [⟨register, .alloca Ty.i64 align⟩] := hstraight₁.trans hstraight₂
  have hf₂ := hf.straight hstraight (by simp [Op.fault?, Op.operands])
  have hused : register ∈ f₂.fn.scope.used := hstraight.taken _ (List.mem_singleton_self _)
  refine ⟨some ⟨register, Ty.i64⟩, _, _, ?_, hf₂.bindSlot hused x,
    Supplies.slot rfl hstraight hf.named x⟩
  unfold allocateAssign
  dsimp only
  rw [hplan]
  dsimp only
  rw [exec_bind_ok halloca, exec_bind_ok hsay]
  rfl

/-- The walk over the body gives every variable that is assigned somewhere a slot. -/
theorem exec_allocateSuite (vars : List String) :
    (∀ (last : Option Slot) (s : Stmt) {seen : List String} {f : Frame},
      Words.isStmt vars s = true → WordFrame seen f →
        ∃ out code f', exec (allocateStmt last s) f = (.ok out, f') ∧
          WordFrame (Words.targets s ++ seen) f' ∧ Supplies f code f') ∧
    ∀ (last : Option Slot) (body : List Stmt) {seen : List String} {f : Frame},
      Words.isSuite vars body = true → WordFrame seen f →
        ∃ code f', exec (allocateSuite last body) f = (.ok (), f') ∧
          WordFrame (Words.assigned body ++ seen) f' ∧ Supplies f code f' := by
  apply allocateStmt.mutual_induct
  · intro last test body orelse ihbody ihorelse seen f hstmt hf
    rw [Words.isStmt, Bool.and_eq_true, Bool.and_eq_true] at hstmt
    obtain ⟨code₁, f₁, hexec₁, hf₁, hsupplies₁⟩ := ihbody hstmt.1.2 hf
    obtain ⟨code₂, f₂, hexec₂, hf₂, hsupplies₂⟩ := ihorelse hstmt.2 hf₁
    -- the slot made last is passed around a branch, but values that are words never ask for it
    refine ⟨last, _, f₂, ?_, hf₂.mono ?_, hsupplies₁.trans hsupplies₂⟩
    · rw [allocateStmt, exec_bind_ok hexec₁, exec_bind_ok hexec₂]
      rfl
    · rw [Words.targets_cond]
      intro x hx
      simp only [List.mem_append] at hx ⊢
      tauto
  · intro last targets value seen f hstmt hf
    rcases Words.isStmt_cases hstmt with ⟨x, e, heq, he⟩ | ⟨e, body, orelse, heq, -⟩ | ⟨e, heq, -⟩
    · cases heq
      rw [Words.targets_assign, allocateStmt]
      exact exec_allocateAssign hf he last x
    · cases heq
    · cases heq
  · intro s last hcond hassign seen f hstmt hf
    rcases Words.isStmt_cases hstmt with ⟨x, e, rfl, -⟩ | ⟨e, body, orelse, rfl, -⟩ | ⟨e, rfl, -⟩
    · exact absurd rfl (hassign _ _)
    · exact absurd rfl (hcond _ _ _)
    · exact ⟨last, [], f, rfl, hf, Supplies.refl f⟩
  · intro last seen f hsuite hf
    exact ⟨[], f, rfl, hf, Supplies.refl f⟩
  · intro last s rest ihstmt ihrest seen f hsuite hf
    obtain ⟨hstmt, -, hrest⟩ := Words.isSuite_cons hsuite
    obtain ⟨out, code₁, f₁, hexec₁, hf₁, hsupplies₁⟩ := ihstmt hstmt hf
    obtain ⟨code₂, f₂, hexec₂, hf₂, hsupplies₂⟩ := ihrest out hrest hf₁
    refine ⟨_, f₂, ?_, hf₂.mono ?_, hsupplies₁.trans hsupplies₂⟩
    · rw [allocateSuite, exec_bind_ok hexec₁, hexec₂]
    · rw [Words.assigned_cons]
      intro x hx
      simp only [List.mem_append] at hx ⊢
      tauto

end Slots

/-! ### Programs -/

section Programs

variable {w : Workspace} {d : Syntax.Function}

theorem programStart_wordFrame (hrest : w.module.fault? = none) (d : Syntax.Function) (result : Ty) :
    WordFrame [] (programStart w d result) where
  inRange := programStart_inRange w d result
  slots := by simp
  named := by
    intro x slot hx
    cases hx
  rest := hrest
  code := rfl

/-- A program of words has a body: its slots are made, its statements are lowered, and nothing of it stands in
the way of writing it. -/
theorem exec_functionBody (h : Words.IsProgram d) (hrest : w.module.fault? = none) :
    ∃ code f₁ parts f, exec (functionBody Ty.i64 d.body) (programStart w d Ty.i64) = (.ok (), f) ∧
      f.fn.fault? = none ∧ Supplies (programStart w d Ty.i64) code f₁ ∧
      WordFrame (Words.assigned d.body) f₁ ∧ Lowers Ty.i64 d.body f₁ parts f := by
  obtain ⟨code, f₀, hallocate, hf₀, hsupplies⟩ :=
    (exec_allocateSuite _).2 none d.body h.suite (programStart_wordFrame hrest d Ty.i64)
  rw [List.append_nil] at hf₀
  obtain ⟨f₁, hsay, hquiet, -⟩ :=
    say_straight ("Local symbol table: " ++ namesList f₀.locals.keys) f₀
  have hf₁ := hf₀.straight hquiet (by simp)
  have hsupplies₁ := hsupplies.trans (Supplies.of_straight hquiet)
  have hopen : f₁.block.isTerminated = false := hsupplies₁.toAllocates.entry.2.2.1
  obtain ⟨r, f, hlower, hcode⟩ := exec_lowerBody h.suite (List.Subset.refl _) hf₁ hopen false
  obtain ⟨hreturned, parts, hlowers⟩ := lowers_of_lowerBody hlower hf₁.inRange
  rw [Bool.false_or, h.any_isReturn] at hreturned
  subst hreturned
  refine ⟨_, f₁, parts, f, ?_, hcode, hsupplies₁, hf₁, hlowers⟩
  have hstatements :
      exec (lowerStatements Ty.i64 d.body) (programStart w d Ty.i64) = (.ok true, f) := by
    rw [lowerStatements, allocate, exec_bind_ok hallocate, exec_bind_ok (exec_get f₀),
      exec_bind_ok hsay, hlower]
  rw [functionBody, exec_bind_ok hstatements]
  rfl

/-- A call of the function runs the slots and then the statements. -/
theorem Lowers.returns {code : List Inst} {f₁ f : Frame} {parts : List (Stmt × List Inst)}
    (hlowers : Lowers Ty.i64 d.body f₁ parts f) (h : Words.IsProgram d)
    (hsupplies : Supplies (programStart w d Ty.i64) code f₁)
    (hf₁ : WordFrame (Words.assigned d.body) f₁) (hcode : f.fn.fault? = none)
    {results : Nat → Word} {value : Word} {σ : State}
    (hrun : Words.runSuite results State.empty d.body = .ok (.returned value σ))
    (arguments : List Value) :
    ∃ m, f.fn.Runs results (f.fn.start arguments) (.returned (.int 64 value) m) ∧
      m.calls = σ.calls := by
  have hresult : f.fn.result = Ty.i64 := by
    rw [hlowers.grown.result, hsupplies.result]
    rfl
  -- nothing follows the last frame, so it is completed by its own function
  have hcompletes : Completes f.fn f := {
    extended := fun k b hb => ⟨[], by rw [hb, Block.extend_nil]⟩
    distinct := (hlowers.labelled hsupplies.toAllocates.entry.2.2.2).distinct
    writable := hcode
    result := hresult }
  have hin := programStart_inRange w d Ty.i64
  obtain ⟨rest, hrest⟩ := (hcompletes.of_grown hlowers.grown).ahead hf₁.inRange
  obtain ⟨rest', hrest'⟩ := hcompletes.ahead (hlowers.grown.inRange hf₁.inRange)
  have hstart : f.fn.start arguments = .running (code ++ rest) (Machine.start f.fn arguments) := by
    have hahead := hrest.of_appends hsupplies.toAppends hin
    rw [Ahead, programStart_here, ← List.head?_eq_getElem?] at hahead
    rw [IR.Function.start, hahead]
    rfl
  have hempty : Matches (programStart w d Ty.i64).locals State.empty
      (Machine.start f.fn arguments) := ⟨rfl, by simp [programStart, Frame.start], by
        simp [programStart, Frame.start]⟩
  obtain ⟨m₁, hslots, hmatches⟩ := hsupplies.carries results _ hempty
  have hsimulates : Simulates f.fn results f₁.locals d.body f₁ f :=
    hlowers.simulates rfl h.suite (List.Subset.refl _) hf₁ hcompletes rfl
  obtain ⟨m, hruns, hcalls⟩ := hsimulates hrest hrest' hmatches hrun
  refine ⟨m, ?_, hcalls⟩
  rw [hstart]
  exact (Function.Runs.straight hsupplies.plain hslots).trans hruns

/-- A program of words is built, with a function that does what the program says. -/
theorem exec_buildProgram (h : Words.IsProgram d) (hrest : w.module.fault? = none)
    (hfree : w.module.scope.isUsed d.name = false) :
    ∃ w' fn, exec (buildProgram d Ty.i64) w = (.ok (), w') ∧ w'.module.fault? = none ∧
      fn.name = d.name ∧ w'.module.functions = w.module.functions ++ [fn] ∧
      ∀ results arguments value σ,
        Words.runSuite results State.empty d.body = .ok (.returned value σ) →
          ∃ m, fn.Runs results (fn.start arguments) (.returned (.int 64 value) m) ∧
            m.calls = σ.calls := by
  obtain ⟨scope, hscope⟩ : ∃ scope, w.module.scope.claim? d.name = some scope := by
    rw [NameScope.claim?, hfree]
    exact ⟨_, rfl⟩
  let w₁ : Workspace := { w with module := { w.module with scope := scope } }
  have hrest₁ : w₁.module.fault? = none := hrest
  obtain ⟨code, f₁, parts, f, hbody, hcode, hsupplies, hf₁, hlowers⟩ := exec_functionBody h hrest₁
  obtain ⟨parts', hbuilds⟩ := functionBody_inv hbody (programStart_inRange w₁ d Ty.i64)
  obtain ⟨added, hglobals⟩ := hbuilds.finish_globals
  refine ⟨f.finish, f.fn, exec_buildFunction hscope hbody, ?_, hbuilds.sameContext.name, ?_, ?_⟩
  · exact (hf₁.grown hlowers.grown hcode).wholeModule
  · rw [IR.Module.functions, hglobals, functions_added]
    rfl
  · intro results arguments value σ hrun
    exact hlowers.returns h hsupplies hf₁ hcode hrun arguments

/-- A program of words compiles, the module can then be written, and a call of its function runs as the program
does: unless the program reads a variable before it is assigned, the function makes the same helper calls and
returns the same word. -/
theorem lowerProgram_faithful {text : Text} (h : Words.IsProgram d)
    (hrender : w.module.render = .ok text) (hfree : w.module.scope.isUsed d.name = false) :
    ∃ w' fn text', exec (lowerProgram d) w = (.ok (), w') ∧ w'.module.render = .ok text' ∧
      fn.name = d.name ∧ w'.module.functions = w.module.functions ++ [fn] ∧
      ∀ results arguments,
        (∃ x, Words.runSuite results State.empty d.body = .error (.unassigned x)) ∨
        ∃ value σ m, Words.runSuite results State.empty d.body = .ok (.returned value σ) ∧
          fn.Runs results (fn.start arguments) (.returned (.int 64 value) m) ∧
          m.calls = σ.calls := by
  obtain ⟨w₀, hsay, hmodule⟩ : ∃ w₀, exec (Build.say (("Found probe_string of " ++ d.name ++ ": " :
      String) ++ d.probe?.getD "None")) w = (.ok (), w₀) ∧ w₀.module = w.module := ⟨_, rfl, rfl⟩
  have hresult : (returnType d).bind typeOfName = .ok Ty.i64 := by
    rw [returnType, h.returns]
    rfl
  have hrest : w₀.module.fault? = none := by
    rw [hmodule]
    rw [IR.Module.render] at hrender
    split at hrender
    · cases hrender
    · assumption
  rw [← hmodule] at hfree
  obtain ⟨w', fn, hbuild, hfault, hname, hfunctions, hruns⟩ := exec_buildProgram h hrest hfree
  refine ⟨w', fn, Text.join "\n" w'.module.lines, ?_, ?_, hname, ?_, ?_⟩
  · rw [lowerProgram, exec_bind_ok hsay, hresult]
    exact hbuild
  · rw [IR.Module.render, hfault]
  · rw [hfunctions, hmodule]
  · intro results arguments
    cases hrun : Words.runSuite results State.empty d.body with
    | error halt =>
      cases halt with
      | unassigned x => exact .inl ⟨x, rfl⟩
      | unsupported => exact absurd hrun ((Words.runSuite_supported _ results).2 d.body h.suite _)
    | ok outcome =>
      cases outcome with
      | next σ => exact absurd hrun (Words.runSuite_returned h.any_isReturn)
      | returned value σ =>
        obtain ⟨m, hreturns, hcalls⟩ := hruns results arguments value σ hrun
        exact .inr ⟨value, σ, m, rfl, hreturns, hcalls⟩

end Programs

/-- The clock decides on a branch, and the process number on one inside it. -/
def clockProgram : Syntax.Function :=
  let int (n : Int) : Expr := .const (.int n) false
  let give (n : Int) : Stmt := .ret (some (.call (.name "c_int64") [int n] []))
  ⟨false, "probe", [],
    [.assign [.name "x"] (.call (.name "ktime") [] []),
      .cond (.compare (.name "x") [(.lt, int 0)])
        [.assign [.name "y"] (.call (.name "pid") [] []),
          .assign [.name "y"] (.binary (.name "y") .sub (int 0xFFFFFFFF)),
          .cond (.name "y") [give 3] [.assign [.name "x"] (.call (.name "c_uint64") [int 7] [])]]
        [],
      .cond (.compare (.name "x") [(.eq, int 7)]) [give 1] [give 2],
      give 0],
    [], some (.name "c_int64")⟩

theorem clockProgram_faithful :
    Words.IsProgram clockProgram ∧ ∃ w' fn,
      exec (lowerProgram clockProgram) ⟨Module.empty "" "", 0, 0, Table.empty, #[]⟩ =
        (.ok (), w') ∧
      w'.module.functions = [fn] ∧
      ∃ m, fn.Runs (fun _ => -1) (fn.start []) (.returned (.int 64 1) m) ∧
        m.calls = [⟨5, []⟩, ⟨14, []⟩] := by
  have hprogram : Words.IsProgram clockProgram := ⟨rfl, by decide +kernel, by decide +kernel⟩
  have hrun : ∃ σ, Words.runSuite (fun _ => -1) State.empty clockProgram.body =
      .ok (.returned 1 σ) ∧ σ.calls = [⟨5, []⟩, ⟨14, []⟩] := ⟨_, rfl, rfl⟩
  obtain ⟨σ, hrun, hcalls⟩ := hrun
  obtain ⟨w', fn, text, hexec, -, -, hfunctions, hruns⟩ :=
    lowerProgram_faithful (w := ⟨Module.empty "" "", 0, 0, Table.empty, #[]⟩) hprogram rfl
      (by decide +kernel)
  refine ⟨hprogram, w', fn, hexec, hfunctions, ?_⟩
  rcases hruns (fun _ => -1) [] with ⟨x, herror⟩ | ⟨value, σ', m, hreturned, hmachine, hsame⟩
  · rw [hrun] at herror
    cases herror
  · rw [hrun] at hreturned
    cases hreturned
    exact ⟨m, hmachine, hsame.trans hcalls⟩

end BpfCompiler.Lower
