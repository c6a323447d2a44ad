import BpfCompiler.Proofs.ControlFlow
import BpfCompiler.Proofs.WordCode

/-!
# Lowering programs of words

Programs of words are always lowered.  The code of an assignment does what the assignment says (`Performs`), for
each form of its right-hand side, and a suite is lowered statement by statement (`exec_lowerSuite`): every frame
on the way gives its variables slots for words and can be written (`WordFrame`).
-/

namespace BpfCompiler.Lower

open IR Syntax Emit
open Syntax.Words (State Word Halt word)

/-! ### Assignments -/

/-- Assigns the value of an expression to a variable. -/
def storing (x : String) (value : (Nat → Word) → State → Except Halt (Word × State)) :
    (Nat → Word) → State → Except Halt State :=
  fun results σ => do
    let (w, σ') ← value results σ
    return σ'.assign x w

theorem storing_eq_ok {x : String} {value : (Nat → Word) → State → Except Halt (Word × State)}
    {results : Nat → Word} {σ σ₁ : State} (h : storing x value results σ = .ok σ₁) :
    ∃ w σ', value results σ = .ok (w, σ') ∧ σ'.assign x w = σ₁ := by
  cases hvalue : value results σ with
  | error halt =>
    rw [storing, hvalue] at h
    cases h
  | ok outcome =>
    obtain ⟨w, σ'⟩ := outcome
    rw [storing, hvalue] at h
    exact ⟨w, σ', rfl, Except.ok.inj h⟩

/-- The code takes a machine from one state to the next. -/
structure Performs (meaning : (Nat → Word) → State → Except Halt State) (f : Frame)
    (code : List Inst) (f' : Frame) : Prop extends Straight f f' code where
  writable : ∀ i ∈ code, i.op.fault? = none
  carries : ∀ results σ m σ', Matches f.locals σ m → meaning results σ = .ok σ' →
    ∃ m', m.executeAll results code = some m' ∧ Matches f.locals σ' m'

namespace Performs

variable {meaning : (Nat → Word) → State → Except Halt State} {f f₀ f₁ f' : Frame}
  {code : List Inst}

theorem after (h : Performs meaning f₀ code f') (hquiet : Straight f f₀ []) :
    Performs meaning f code f' where
  toStraight := hquiet.trans h.toStraight
  writable := h.writable
  carries := by
    rw [← hquiet.locals]
    exact h.carries

theorem before (h : Performs meaning f code f₁) (hquiet : Straight f₁ f' []) :
    Performs meaning f code f' where
  toStraight := by simpa using h.toStraight.trans hquiet
  writable := h.writable
  carries := h.carries

end Performs

/-- Storing a word into the slot of a variable assigns it, and no other variable. -/
theorem Matches.store {locals : Table (Option Slot)} {σ : State} {m : Machine}
    (h : Matches locals σ m) {x register : String} {place : Nat} (w : Word)
    (hx : locals.get? x = some (some ⟨register, Ty.i64⟩))
    (hregister : m.registers register = some (.cell place)) :
    Matches locals (σ.assign x w) { m with cells := m.cells.set place (some (.int 64 w)) } where
  calls := h.calls
  cell := by
    intro y slot hy
    obtain ⟨place', hplace', hlt, hcell⟩ := h.cell y slot hy
    refine ⟨place', hplace', by simpa using hlt, ?_⟩
    intro w' hw'
    by_cases hyx : y = x
    · subst hyx
      obtain rfl : ⟨register, Ty.i64⟩ = slot := Option.some.inj (Option.some.inj (hx.symm.trans hy))
      obtain rfl : place = place' := by simpa [hregister] using hplace'
      obtain rfl : w = w' := by simpa [State.assign] using hw'
      exact List.getElem?_set_self hlt
    · have hne : place ≠ place' := by
        rintro rfl
        exact h.apart x y _ slot place (Ne.symm hyx) hx hy hregister hplace'
      have hold : σ.vars y = some w' := by simpa [State.assign, hyx] using hw'
      rw [List.getElem?_set_ne hne]
      exact hcell w' hold
  apart := h.apart

section Assignments

variable {vars : List String} {f : Frame}

theorem Evaluates.assign {value : (Nat → Word) → State → Except Halt (Word × State)} {f₁ : Frame}
    {code : List Inst} {o : Operand} (h : Evaluates (Value.int 64) Ty.i64 value f code o f₁)
    (hf : WordFrame vars f) {x : String} (hx : x ∈ vars) :
    ∃ code' f', exec (assign x (some o)) f₁ = (.ok (), f') ∧
      Performs (storing x value) f code' f' := by
  obtain ⟨register, hslot⟩ := hf.slots x hx
  obtain ⟨name, f', hexec, hstraight⟩ :=
    exec_append (.store o (.local register (.ptr Ty.i64))) rfl f₁
  have hagrees : Ty.i64.agrees o.ty = true := by
    rw [h.ofTy]
    rfl
  have hrun : exec (Emit.assign x (some o)) f₁ = (.ok (), f') := by
    rw [Emit.assign, exec_bind_ok (exec_get f₁), h.locals, hslot]
    dsimp only [store, Slot.address]
    rw [if_pos hagrees, exec_bind_ok hexec]
    rfl
  refine ⟨_, f', hrun, h.toStraight.trans hstraight, ?_, ?_⟩
  · intro i hi
    rcases List.mem_append.mp hi with hi | hi
    · exact h.writable i hi
    · rw [List.mem_singleton.mp hi]
      simp [Op.fault?, Op.operands, h.shown, fault?_local]
  · intro results σ m σ₁ hmatches hmeaning
    obtain ⟨w, σ', hvalue, rfl⟩ := storing_eq_ok hmeaning
    obtain ⟨m₁, hcarries, heval⟩ := h.carries results σ m w σ' hmatches hvalue
    obtain ⟨place, hregister, -, -⟩ := hcarries.state.cell x _ hslot
    refine ⟨_, Machine.executeAll_append hcarries.run ?_, hcarries.state.store w hslot hregister⟩
    rw [Machine.executeAll_singleton, Machine.execute_store heval hregister]

theorem exec_checkShown {o : Operand} (h : o.fault? = none) (f : Frame) :
    exec (checkShown o) f = (.ok (), f) := by
  rw [checkShown, h]
  rfl

theorem exec_assignConstant (hf : WordFrame vars f) {x : String} (hx : x ∈ vars) {n : Int}
    (hn : Words.IsWord n) (marked : Bool) :
    ∃ code f', exec (assignConstant x (.int n)) f = (.ok (), f') ∧
      Performs (storing x fun results σ => Words.value results σ (.const (.int n) marked)) f code
        f' := by
  have hliteral := literal_evaluates hn marked f
  obtain ⟨code, f₁, hassign, hperforms⟩ := (hliteral.congr fun _ _ => rfl).assign hf hx
  obtain ⟨f₂, hsay, hquiet, -⟩ :=
    say_straight (("Assigned constant " : Text) ++ (Literal.int n).shown ++ " to " ++ x) f₁
  refine ⟨code, f₂, ?_, hperforms.before hquiet⟩
  rw [assignConstant, constantOperand?]
  dsimp only
  rw [exec_bind_ok hassign, exec_bind_ok (exec_checkShown (fault?_int hn 64) f₁), hsay]

theorem exec_assignTyped (hf : WordFrame vars f) {x id : String} (hx : x ∈ vars)
    (hid : Words.isWordType id = true) {n : Int} (hn : Words.IsWord n) (marked : Bool) :
    ∃ code f', exec (assignCall x id [.const (.int n) marked]) f = (.ok (), f') ∧
      Performs (storing x fun results σ =>
        Words.value results σ (.call (.name id) [.const (.int n) marked] [])) f code f' := by
  have htype : ∃ name, integerType? id = some (64, name) := by
    rcases (by simpa [Words.isWordType] using hid : id = "c_int64" ∨ id = "c_uint64") with rfl | rfl
    · exact ⟨_, rfl⟩
    · exact ⟨_, rfl⟩
  obtain ⟨typeName, htype⟩ := htype
  obtain ⟨f₀, hsay₀, hquiet₀, -⟩ := say_straight ("Assignment call type: " ++ id) f
  have hf₀ := hf.straight hquiet₀ (by simp)
  have hliteral := literal_evaluates hn marked f₀
  have hvalue : ∀ results σ,
      Words.value results σ (.call (.name id) [.const (.int n) marked] []) =
        reading (Words.operand · (.const (.int n) marked)) results σ := by
    intro results σ
    rw [Words.value, if_pos hid]
    rfl
  obtain ⟨code, f₁, hassign, hperforms⟩ := (hliteral.congr hvalue).assign hf₀ hx
  obtain ⟨f₂, hsay₂, hquiet₂, -⟩ := say_straight
    (("Assigned " ++ id ++ " constant " : String) ++ (Literal.int n).shown ++ " to " ++ x) f₁
  refine ⟨code, f₂, ?_, (hperforms.before hquiet₂).after hquiet₀⟩
  have hsole : soleLiteral? [.const (.int n) marked] = some (.int n) := rfl
  rw [assignCall, exec_bind_ok hsay₀, htype, hsole]
  refine (exec_bind_ok hassign).trans ?_
  exact (exec_bind_ok (exec_checkShown (fault?_int hn 64) f₁)).trans hsay₂

theorem exec_assignHelper (hf : WordFrame vars f) {x id : String} (hx : x ∈ vars) (helper : Helper)
    (hid : Helper.ofName? id = some helper) (htype : integerType? id = none)
    {value : (Nat → Word) → State → Except Halt (Word × State)}
    (hcall : ∀ f₀, SlotsNamed f₀ → ∃ o code f₁,
      exec (callPlain false helper []) f₀ = (.ok (some o), f₁) ∧
        Evaluates (Value.int 64) Ty.i64 value f₀ code o f₁) :
    ∃ code f', exec (assignCall x id []) f = (.ok (), f') ∧
      Performs (storing x value) f code f' := by
  obtain ⟨f₀, hsay₀, hquiet₀, -⟩ := say_straight ("Assignment call type: " ++ id) f
  have hf₀ := hf.straight hquiet₀ (by simp)
  obtain ⟨o, code, f₁, hplain, heval⟩ := hcall f₀ hf₀.named
  obtain ⟨code', f₂, hassign, hperforms⟩ := heval.assign hf₀ hx
  obtain ⟨f₃, hsay₃, hquiet₃, -⟩ := say_straight ("Assigned constant " ++ id ++ " to " ++ x) f₂
  refine ⟨code', f₃, ?_, (hperforms.before hquiet₃).after hquiet₀⟩
  rw [assignCall, exec_bind_ok hsay₀, htype]
  dsimp only
  rw [hid]
  dsimp only
  rw [exec_bind_ok hplain, exec_bind_ok hassign, hsay₃]

theorem exec_assignBinary (hf : WordFrame vars f) {x : String} (hx : x ∈ vars)
    {left right : Expr} {op : BinaryOp} {apply : Word → Word → Word}
    (hop : Words.operation? op = some apply) (hleft : Words.isOperand vars left = true)
    (hright : Words.isOperand vars right = true) :
    ∃ code f', exec (assignBinary x left op right) f = (.ok (), f') ∧
      Performs (storing x fun results σ => Words.value results σ (.binary left op right)) f code
        f' := by
  obtain ⟨f₀, hsay₀, hquiet₀, -⟩ := say_straight "<module>" f
  have hshow : exec showModule f = (.ok (), f₀) := by
    rw [showModule, exec_bind_ok (exec_get f), hf.wholeModule]
    exact hsay₀
  have hf₀ := hf.straight hquiet₀ (by simp)
  obtain ⟨l, leftText, code₁, f₁, hexec₁, heval₁⟩ := exec_arithOperand hf₀ hleft .leftOperand
  have hf₁ := hf₀.straight heval₁.toStraight heval₁.writable
  obtain ⟨r, rightText, code₂, f₂, hexec₂, heval₂⟩ := exec_arithOperand hf₁ hright .rightOperand
  obtain ⟨f₃, hsay₃, hquiet₃, -⟩ := say_straight (("left is " : Text) ++ leftText ++ ", right is " ++
    rightText ++ ", op is <ast." ++ op.kind ++ ">") f₂
  obtain ⟨a, ha, happly⟩ := arithOf?_of_operation? hop
  obtain ⟨name, f₄, harith, hstraight⟩ := exec_arith heval₁.ofTy heval₂.ofTy a f₃
  have heval : Evaluates (Value.int 64) Ty.i64 (combining apply _ _) f₀ _ (.local name Ty.i64) f₄ :=
    heval₁.binary (heval₂.before hquiet₃) hf₀.named hstraight
      (by simp [Op.fault?, Op.operands, heval₁.shown, heval₂.shown]) (fun _ => rfl)
      fun results m v w hv hw => Machine.execute_arith hv hw (happly v w)
  have hvalue : ∀ results σ, Words.value results σ (.binary left op right) =
      combining apply (reading (Words.operand · left)) (reading (Words.operand · right)) results
        σ := by
    intro results σ
    rw [← combining_reading, Words.value, hop]
    cases hl : Words.operand σ left with
    | error halt => simp [reading, hl, Bind.bind, Except.bind, Except.map]
    | ok v =>
      cases hr : Words.operand σ right with
      | error halt => simp [reading, hl, hr, Bind.bind, Except.bind, Except.map]
      | ok w => simp [reading, hl, hr, Bind.bind, Except.bind, Except.map, Pure.pure, Except.pure]
  obtain ⟨code, f₅, hassign, hperforms⟩ := (heval.congr hvalue).assign hf₀ hx
  refine ⟨code, f₅, ?_, hperforms.after hquiet₀⟩
  rw [assignBinary, exec_bind_ok hshow, exec_bind_ok hexec₁]
  dsimp only
  rw [exec_bind_ok hexec₂]
  dsimp only
  rw [exec_bind_ok (exec_checkShown heval₁.shown f₂), exec_bind_ok (exec_checkShown heval₂.shown f₂),
    exec_bind_ok hsay₃, ha]
  dsimp only
  rw [exec_bind_ok harith, hassign]

theorem exec_assignValue (hf : WordFrame vars f) {x : String} (hx : x ∈ vars) {e : Expr}
    (he : Words.isValue vars e = true) :
    ∃ code f', exec (assignValue x e) f = (.ok (), f') ∧
      Performs (storing x fun results σ => Words.value results σ e) f code f' := by
  rcases Words.isValue_cases he with rfl | rfl | ⟨id, arg, rfl, hid, harg⟩ |
    ⟨left, op, right, apply, rfl, hop, hleft, hright⟩ | hliteral
  · refine exec_assignHelper hf hx .ktime rfl rfl fun f₀ hnamed => ?_
    obtain ⟨o, code, f₁, hcall, heval⟩ :=
      exec_callKernel hnamed (s := .ktime) rfl rfl (by decide)
    exact ⟨o, code, f₁, exec_bind_ok hcall, heval.congr fun _ _ => rfl⟩
  · refine exec_assignHelper hf hx .pid rfl rfl fun f₀ hnamed => ?_
    obtain ⟨o, code, f₁, hcall, heval⟩ := exec_pidCall hnamed
    exact ⟨o, code, f₁, exec_bind_ok hcall, heval.congr fun _ _ => rfl⟩
  · obtain ⟨n, marked, rfl, hn⟩ := Words.isLiteral_cases harg
    exact exec_assignTyped hf hx hid hn marked
  · exact exec_assignBinary hf hx hop hleft hright
  · obtain ⟨n, marked, rfl, hn⟩ := Words.isLiteral_cases hliteral
    exact exec_assignConstant hf hx hn marked

/-- An assignment is lowered, and its code does what it says. -/
theorem exec_lowerSimple (hf : WordFrame vars f) {x : String} (hx : x ∈ vars) {e : Expr}
    (he : Words.isValue vars e = true) :
    ∃ code f', exec (lowerSimple (.assign [.name x] e)) f = (.ok (), f') ∧
      Performs (storing x fun results σ => Words.value results σ e) f code f' := by
  obtain ⟨f₀, hsay, hquiet, -⟩ :=
    say_straight ("Processing statement: " ++ (Stmt.assign [.name x] e).kind) f
  obtain ⟨code, f', hexec, hperforms⟩ := exec_assignValue (hf.straight hquiet (by simp)) hx he
  refine ⟨code, f', ?_, hperforms.after hquiet⟩
  rw [lowerSimple, exec_bind_ok hsay]
  exact hexec

end Assignments

/-! ### Suites are lowered -/

section Success

variable {vars : List String} {f g : Frame}

theorem Makes.code_fault? {arms : Arms} (h : Makes f g arms) (hcode : f.fn.fault? = none) :
    g.fn.fault? = none := by
  rw [IR.Function.fault?_eq_none_iff] at hcode ⊢
  intro b hb i hi
  rw [h.blocks, List.mem_append] at hb
  rcases hb with hold | hnew
  · exact hcode b hold i hi
  · obtain ⟨label, -, rfl⟩ := List.mem_map.mp hnew
    simp at hi

theorem exec_openBranch (hf : WordFrame vars f) (hopen : f.block.isTerminated = false) {test : Expr}
    (htest : Words.isTest vars test = true) (hasElse : Bool) :
    ∃ arms g, exec (openBranch test hasElse) f = (.ok arms, g) ∧ g.fn.fault? = none := by
  obtain ⟨arms, f₁, hexec₁, hmakes, -⟩ := exec_makeArms hasElse f
  have hf₁ := hf.grown hmakes.grown (hmakes.code_fault? hf.code)
  obtain ⟨o, code, f₂, hexec₂, heval⟩ := exec_condition hf₁ htest
  have hopen₂ : f₂.block.isTerminated = false := by
    rw [heval.isTerminated hf₁.inRange, hmakes.block hf.inRange, hopen]
  obtain ⟨name, f₃, hexec₃, happends, -⟩ :=
    exec_terminate_open hopen₂ (.condBranch (some o) arms.thenLabel arms.otherwise)
  refine ⟨arms, f₃, ?_, ?_⟩
  · rw [openBranch, exec_bind_ok hexec₁, exec_bind_ok hexec₂, exec_bind_ok hexec₃]
    rfl
  · refine happends.code_fault? (heval.code_fault? hf₁.code heval.writable) ?_
    simp [Op.fault?, Op.operands, heval.shown]

theorem exec_joinAt (label : String) (hcode : f.fn.fault? = none) :
    ∃ f', exec (joinAt label) f = (.ok (), f') ∧ f'.fn.fault? = none := by
  rw [joinAt, exec_bind_ok (exec_get f)]
  cases hended : f.block.isTerminated with
  | true => exact ⟨f, rfl, hcode⟩
  | false =>
    obtain ⟨name, f', hexec, happends, -⟩ := exec_terminate_open hended (.branch label)
    refine ⟨f', hexec, happends.code_fault? hcode ?_⟩
    simp [Op.fault?, Op.operands]

theorem exec_fillBlock {place : Nat} {suite : Emit Unit} (label : String)
    (h : exec suite (f.moved place) = (.ok (), g)) (hcode : g.fn.fault? = none) :
    ∃ f', exec (fillBlock place suite label) f = (.ok (), f') ∧ f'.fn.fault? = none := by
  obtain ⟨f', hjoin, hcode'⟩ := exec_joinAt label hcode
  refine ⟨f', ?_, hcode'⟩
  rw [fillBlock, exec_bind_ok (exec_moveTo place f), exec_bind_ok h, hjoin]

theorem exec_ret {e : Option Expr} (he : Words.isResult e = true) (hf : WordFrame vars f)
    (hopen : f.block.isTerminated = false) (returned : Bool) :
    ∃ r f', exec (lowerStmt Ty.i64 returned (.ret e)) f = (.ok r, f') ∧ f'.fn.fault? = none := by
  obtain ⟨n, marked, rfl, hn⟩ := Words.isResult_cases he
  obtain ⟨f₀, hsay, hquiet, -⟩ := say_straight "Processing statement: Return" f
  have hf₀ := hf.straight hquiet (by simp)
  have hopen₀ : f₀.block.isTerminated = false := by rw [hquiet.isTerminated hf.inRange, hopen]
  obtain ⟨name, f', hexec, happends, -⟩ :=
    exec_terminate_open hopen₀ (.ret (Operand.int Ty.i64 n))
  refine ⟨true, f', ?_, happends.code_fault? hf₀.code ?_⟩
  · rw [lowerStmt, exec_bind_ok hsay]
    refine (exec_bind_ok (exec_lift _ f₀)).trans ?_
    exact exec_bind_ok hexec
  · simp [Op.fault?, Op.operands, fault?_int hn 64]

theorem WordFrame.lowerStmt {result : Ty} {returned r : Bool} {s : Stmt} (hf : WordFrame vars f)
    (hopen : f.block.isTerminated = false)
    (h : exec (lowerStmt result returned s) f = (.ok r, g)) (hcode : g.fn.fault? = none) :
    WordFrame vars g ∧ g.block.isTerminated = s.isReturn := by
  obtain ⟨-, hextends⟩ := lowers_of_exec.1 result returned s h hf.inRange
  obtain ⟨parts, hlowers⟩ := hextends (.nil : Lowers result [] g [] g)
  refine ⟨hf.grown hlowers.grown hcode, ?_⟩
  rw [hlowers.isTerminated hf.inRange, hopen]
  simp

theorem WordFrame.fillBlock {place : Nat} {body : List Stmt} {label : String}
    (hf : WordFrame vars f) (hin : place < f.fn.blocks.length)
    (h : exec (fillBlock place (lowerSuite body) label) f = (.ok (), g))
    (hcode : g.fn.fault? = none) : WordFrame vars g ∧ Grown (f.moved place) g := by
  obtain ⟨g₁, join, hsuite, hjoins⟩ := fillBlock_inv h
  obtain ⟨parts, hlowers⟩ := lowers_of_exec.2 body hsuite hin
  have hgrown := hlowers.grown.trans hjoins.grown
  exact ⟨(hf.moved hin).grown hgrown hcode, hgrown⟩

theorem exec_cond {test : Expr} {body orelse : List Stmt} (result : Ty) (returned : Bool)
    (htest : Words.isTest vars test = true) (hf : WordFrame vars f)
    (hopen : f.block.isTerminated = false)
    (hbody : ∀ {f : Frame}, WordFrame vars f → f.block.isTerminated = false →
      ∃ f', exec (lowerSuite body) f = (.ok (), f') ∧ f'.fn.fault? = none)
    (horelse : ∀ {f : Frame}, WordFrame vars f → f.block.isTerminated = false →
      ∃ f', exec (lowerSuite orelse) f = (.ok (), f') ∧ f'.fn.fault? = none) :
    ∃ r f', exec (lowerStmt result returned (.cond test body orelse)) f = (.ok r, f') ∧
      f'.fn.fault? = none := by
  obtain ⟨f₀, hsay, hsay', hquiet⟩ := say_twice "Processing statement: If" "Handling if statement" f
  have hf₀ := hf.straight hquiet (by simp)
  have hopen₀ : f₀.block.isTerminated = false := by rw [hquiet.isTerminated hf.inRange, hopen]
  obtain ⟨arms, g, hexec, hcode⟩ := exec_openBranch hf₀ hopen₀ htest (!orelse.isEmpty)
  obtain ⟨new, hopens, hother⟩ := openBranch_inv hexec hf₀.inRange
  have hg := hf₀.grown hopens.grown hcode
  have hthen := hopens.getElem?_then hf₀.inRange
  have hinThen := (List.getElem?_eq_some_iff.mp hthen).1
  have hopenThen : (g.moved arms.thenBlock).block.isTerminated = false := by
    rw [Frame.block_of_getElem? (f := g.moved arms.thenBlock) hthen]
    rfl
  -- the suite is lowered into a block that is still empty, and so is the other one below
  obtain ⟨g₁, hsuite, hcode₁⟩ := hbody (hg.moved hinThen) hopenThen
  obtain ⟨g₂, hfill, hcode₂⟩ := exec_fillBlock arms.endLabel hsuite hcode₁
  obtain ⟨hg₂, harm⟩ := hg.fillBlock hinThen hfill hcode₂
  cases harms : arms.other with
  | none =>
    refine ⟨returned, g₂.moved arms.endBlock, ?_, hcode₂⟩
    rw [lowerStmt, exec_bind_ok hsay, exec_bind_ok hsay', exec_bind_ok hexec, exec_bind_ok hfill,
      harms]
    rfl
  | some place =>
    obtain ⟨elseBlock, elseLabel⟩ := place
    have helse := hopens.getElem?_else_after hf₀.inRange harms harm
    have hinElse := (List.getElem?_eq_some_iff.mp helse).1
    have hopenElse : (g₂.moved elseBlock).block.isTerminated = false := by
      rw [Frame.block_of_getElem? (f := g₂.moved elseBlock) helse]
      rfl
    obtain ⟨g₃, hsuite', hcode₃⟩ := horelse (hg₂.moved hinElse) hopenElse
    obtain ⟨g₄, hfill', hcode₄⟩ := exec_fillBlock arms.endLabel hsuite' hcode₃
    refine ⟨returned, g₄.moved arms.endBlock, ?_, hcode₄⟩
    rw [lowerStmt, exec_bind_ok hsay, exec_bind_ok hsay', exec_bind_ok hexec, exec_bind_ok hfill,
      harms]
    exact exec_bind_ok hfill'

/-- Suites of words are lowered. -/
theorem exec_lowerSuite (vars : List String) :
    (∀ (result : Ty) (returned : Bool) (s : Stmt) {f : Frame}, result = Ty.i64 →
      Words.isStmt vars s = true → Words.targets s ⊆ vars → WordFrame vars f →
        f.block.isTerminated = false →
          ∃ r f', exec (lowerStmt result returned s) f = (.ok r, f') ∧ f'.fn.fault? = none) ∧
    ∀ (body : List Stmt) {f : Frame}, Words.isSuite vars body = true →
      Words.assigned body ⊆ vars → WordFrame vars f → f.block.isTerminated = false →
        ∃ f', exec (lowerSuite body) f = (.ok (), f') ∧ f'.fn.fault? = none := by
  refine lowerStmt.mutual_induct
    (fun result returned s => ∀ {f : Frame}, result = Ty.i64 →
      Words.isStmt vars s = true → Words.targets s ⊆ vars → WordFrame vars f →
        f.block.isTerminated = false →
          ∃ r f', exec (lowerStmt result returned s) f = (.ok r, f') ∧ f'.fn.fault? = none)
    (fun body => ∀ {f : Frame}, Words.isSuite vars body = true →
      Words.assigned body ⊆ vars → WordFrame vars f → f.block.isTerminated = false →
        ∃ f', exec (lowerSuite body) f = (.ok (), f') ∧ f'.fn.fault? = none) ?_ ?_ ?_ ?_ ?_
  · intro result returned test body orelse ihbody ihorelse f hresult hstmt htargets hf hopen
    rw [Words.isStmt, Bool.and_eq_true, Bool.and_eq_true] at hstmt
    rw [Words.targets_cond, List.append_subset] at htargets
    exact exec_cond result returned hstmt.1.1 hf hopen (ihbody hstmt.1.2 htargets.1)
      (ihorelse hstmt.2 htargets.2)
  · rintro result returned e f rfl hstmt htargets hf hopen
    exact exec_ret hstmt hf hopen returned
  · intro result returned s hcond hret f hresult hstmt htargets hf hopen
    rcases Words.isStmt_cases hstmt with ⟨x, e, rfl, he⟩ | ⟨e, body, orelse, rfl, -⟩ | ⟨e, rfl, -⟩
    · rw [Words.targets_assign] at htargets
      have hx : x ∈ vars := htargets (List.mem_singleton_self x)
      obtain ⟨code, f', hexec, hperforms⟩ := exec_lowerSimple hf hx he
      refine ⟨returned, f', ?_, hperforms.code_fault? hf.code hperforms.writable⟩
      rw [lowerStmt_simple rfl]
      exact exec_bind_ok hexec
    · exact (hcond e body orelse rfl).elim
    · exact (hret e rfl).elim
  · intro f hsuite hassigned hf hopen
    rw [lowerSuite]
    exact ⟨f, rfl, hf.code⟩
  · intro s rest ihstmt ihrest f hsuite hassigned hf hopen
    obtain ⟨hstmt, hlast, hrest⟩ := Words.isSuite_cons hsuite
    rw [Words.assigned_cons, List.append_subset] at hassigned
    obtain ⟨r, f₁, hexec, hcode⟩ := ihstmt rfl hstmt hassigned.1 hf hopen
    obtain ⟨hf₁, hended⟩ := hf.lowerStmt hopen hexec hcode
    rw [lowerSuite, exec_bind_ok hexec]
    -- a return closes the block, but nothing follows it in its suite
    cases hreturn : s.isReturn with
    | true =>
      rw [hlast hreturn, lowerSuite]
      exact ⟨f₁, rfl, hcode⟩
    | false =>
      rw [hreturn] at hended
      exact ihrest hrest hassigned.2 hf₁ hended

theorem exec_lowerBody {body : List Stmt} (hsuite : Words.isSuite vars body = true)
    (hassigned : Words.assigned body ⊆ vars) (hf : WordFrame vars f)
    (hopen : f.block.isTerminated = false) (returned : Bool) :
    ∃ r f', exec (lowerBody Ty.i64 returned body) f = (.ok r, f') ∧ f'.fn.fault? = none := by
  induction body generalizing f returned with
  | nil => exact ⟨returned, f, rfl, hf.code⟩
  | cons s rest ih =>
    obtain ⟨hstmt, hlast, hrest⟩ := Words.isSuite_cons hsuite
    rw [Words.assigned_cons, List.append_subset] at hassigned
    obtain ⟨r, f₁, hexec, hcode⟩ :=
      (exec_lowerSuite vars).1 Ty.i64 returned s rfl hstmt hassigned.1 hf hopen
    obtain ⟨hf₁, hended⟩ := hf.lowerStmt hopen hexec hcode
    rw [lowerBody, exec_bind_ok hexec]
    cases hreturn : s.isReturn with
    | true =>
      rw [hlast hreturn]
      exact ⟨r, f₁, rfl, hcode⟩
    | false =>
      rw [hreturn] at hended
      exact ih hrest hassigned.2 hf₁ hended r

end Success

end BpfCompiler.Lower
