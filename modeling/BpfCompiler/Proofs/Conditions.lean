import BpfCompiler.Proofs.Coverage
import BpfCompiler.Proofs.Dominance

/-!
# The tests of branches

A test is supported if it is an integer or truth value, a variable, or one comparison of two integers or of
two pointers.  Lowering a test that is not supported gives no operand; the branch is made all the same, and
the function cannot be written then.  So in a source that compiles every test that is met is supported, and
every branch is on an operand of type `i1`.
-/

namespace BpfCompiler.Lower

open IR Syntax Emit

/-! ### The types of operands -/

/-- The type of a variable that has a slot. -/
def slotType? (locals : Table (Option Slot)) (x : String) : Option Ty :=
  (locals.get? x).join.map Slot.ty

def plainType? : Helper → List Expr → Option Ty
  | .ktime, _ | .pid, _ => some Ty.i64
  | .print, .joined _ :: _ => some Ty.i64
  | _, _ => none

def methodType? : Helper → Option Ty
  | .lookup => some Ty.bytePtr
  | .update | .delete | .ktime | .pid => some Ty.i64
  | .print => none

def derefType? (locals : Table (Option Slot)) : List Expr → Option Ty
  | [.name x] => slotType? locals x
  | _ => none

/-- The type of what an expression evaluates to, if it evaluates to something (`eval_gives`). -/
def operandType? (locals : Table (Option Slot)) : Expr → Option Ty
  | .name x => slotType? locals x
  | .const value _ => if value.isInteger then some Ty.i64 else none
  | .call (.name id) args _ =>
    if id = "deref" then derefType? locals args
    else (Helper.ofName? id).bind fun helper => plainType? helper args
  | .call (.attribute (.call (.name _) _ _) method) _ _ => (Helper.ofName? method).bind methodType?
  | _ => none

/-- If the action succeeds from the frame, its result satisfies the condition. -/
def Gives (f : Frame) {α : Type} (m : Emit α) (Q : α → Prop) : Prop :=
  Ends f m (fun a _ => Q a) AnyFault

section Types

variable {f : Frame}

theorem append_gives (op : Op) : Gives f (append op) fun i => i.op = op := by
  obtain ⟨name, f₁, happend, -⟩ := exec_appendNamed "" op f
  exact .of_exec_ok happend rfl

theorem ty_result {i : Inst} {op : Op} {ty : Ty} (hop : i.op = op) (hty : op.result? = some ty) :
    i.result.ty = ty := by
  rw [Inst.result, hop, hty]
  rfl

theorem load_gives (slot : Option Slot) :
    Gives f (load slot) fun i => slot.map Slot.ty = some i.result.ty := by
  unfold load
  split
  · exact (append_gives _).weaken fun i _ hop => congrArg some (ty_result hop rfl).symm
  · exact .throw trivial

theorem callKernel_gives (s : Signature) (args : List Operand) :
    Gives f (callKernel s args) fun o => o.ty = s.result := by
  refine .last fun callee f₁ => ?_
  split
  · exact .bind (append_gives _) fun i f₂ hop => .pure (ty_result hop rfl)
  · exact .throw trivial

/-- The result is an operand of the type. -/
theorem Gives.some {m : Emit Operand} {ty : Ty} (h : Gives f m fun o => o.ty = ty) :
    Gives f (do return Option.some (← m)) fun value => value.map Operand.ty = Option.some ty :=
  h.bind fun _ _ ho => .pure (congrArg Option.some ho)

theorem lookupCall_gives (map : Operand) (args : List Expr) :
    Gives f (lookupCall map args) fun o => o.ty = Ty.bytePtr := by
  unfold lookupCall
  split
  · exact .throw trivial
  · refine .last fun slot f₁ => ?_
    split
    · exact callKernel_gives _ _
    · exact .throw trivial
  · exact .throw trivial

theorem deleteCall_gives (map : Operand) (args : List Expr) :
    Gives f (deleteCall map args) fun o => o.ty = Ty.i64 := by
  unfold deleteCall
  split
  · refine .last fun slot f₁ => ?_
    split
    · exact callKernel_gives _ _
    · exact .throw trivial
  · exact .throw trivial

theorem updateWith_gives (map : Operand) (key value : Expr) (flags : Option Expr) :
    Gives f (updateWith map key value flags) fun o => o.ty = Ty.i64 := by
  refine .last fun keySlot f₁ => .last fun valueSlot f₂ => .last fun flags f₃ => ?_
  split
  · exact callKernel_gives _ _
  · exact .throw trivial

theorem updateCall_gives (map : Operand) (args : List Expr) :
    Gives f (updateCall map args) fun o => o.ty = Ty.i64 := by
  unfold updateCall
  split
  · exact updateWith_gives _ _ _ _
  · exact updateWith_gives _ _ _ _
  · exact .throw trivial

theorem pidCall_gives : Gives f pidCall fun o => o.ty = Ty.i64 := by
  refine .bind (callKernel_gives _ _) fun both f₁ hboth => ?_
  unfold arith
  split
  · exact .bind (append_gives _) fun i f₂ hop => .pure ((ty_result hop rfl).trans hboth)
  · exact .throw trivial

theorem printParts_gives (parts : List Expr) :
    Gives f (printParts parts) fun o => o.ty = Ty.i64 := by
  refine .last fun format f₁ => .last fun text f₂ => ?_
  dsimp only
  split
  · exact .last fun _ _ => .last fun values _ => callKernel_gives _ _
  · exact .last fun values _ => callKernel_gives _ _

theorem printCall_gives (args : List Expr) :
    Gives f (printCall args) fun value => value.map Operand.ty = plainType? .print args := by
  unfold printCall
  split
  · exact .throw trivial
  · exact (printParts_gives _).some
  · rename_i hjoined
    refine .last fun _ f₁ => .pure ?_
    unfold plainType?
    split <;> simp_all

theorem callPlain_gives (helper : Helper) (args : List Expr) :
    Gives f (callPlain true helper args) fun value =>
      value.map Operand.ty = plainType? helper args := by
  unfold callPlain
  cases helper with
  | ktime => exact (callKernel_gives _ _).some
  | pid => exact pidCall_gives.some
  | print => exact printCall_gives args
  | lookup | update | delete => exact .throw trivial

theorem callMethod_gives (map : Operand) (helper : Helper) (args : List Expr) :
    Gives f (callMethod map helper args) fun value =>
      value.map Operand.ty = methodType? helper := by
  unfold callMethod
  cases helper with
  | lookup => exact (lookupCall_gives map args).some
  | update => exact (updateCall_gives map args).some
  | delete => exact (deleteCall_gives map args).some
  | ktime => exact (callKernel_gives _ _).some
  | pid => exact pidCall_gives.some
  | print => exact .throw trivial

theorem readName_gives (x : String) :
    Gives f (readName x) fun value => value.map Operand.ty = slotType? f.locals x := by
  refine .get ?_
  unfold slotType?
  split
  · rename_i slot hslot
    refine .bind (load_gives slot) fun i f₁ hi => .pure ?_
    rw [hslot, Option.join_some, hi]
    rfl
  · rename_i hnone
    refine .say_then fun f₁ _ => .pure ?_
    rw [hnone]
    rfl

theorem derefCall_gives (args : List Expr) :
    Gives f (derefCall args) fun i => (i.map Inst.result).map Operand.ty = derefType? f.locals args := by
  unfold derefCall
  split
  · exact .say_then fun f₁ _ => .pure rfl
  · rename_i x
    refine .get ?_
    rw [derefType?, slotType?]
    split
    · rename_i slot hslot
      refine .bind (load_gives _) fun i f₁ hi => .pure ?_
      rw [hslot, Option.join_some, hi]
      rfl
    · rename_i hslot
      refine .say_then fun f₁ _ => .pure ?_
      rw [hslot]
      rfl
    · rename_i hnone
      refine .say_then fun f₁ _ => .pure ?_
      rw [hnone]
      rfl
  · exact .throw trivial
  · rename_i hmany
    refine .say_then fun f₁ _ => .pure ?_
    unfold derefType?
    split
    · exact absurd rfl (hmany _)
    · rfl

theorem evalDeref_gives (args : List Expr) :
    Gives f (evalDeref args) fun i => (i.map Inst.result).map Operand.ty = derefType? f.locals args := by
  refine .say_then fun f₁ h₁ => .say_then fun f₂ h₂ => ?_
  rw [← h₁.locals, ← h₂.locals]
  exact derefCall_gives args

theorem unsupported_gives : Gives f unsupported fun value => value.map Operand.ty = none :=
  .say_then fun _ _ => .pure rfl

theorem evalConstant_gives (value : Literal) :
    Gives f (evalConstant value) fun o =>
      o.map Operand.ty = if value.isInteger then some Ty.i64 else none := by
  unfold evalConstant
  split
  · exact .pure rfl
  · exact .say_then fun _ _ => .pure rfl

theorem plainHelper_gives (id : String) (args : List Expr) (keywords : List (Option String × Expr)) :
    Gives f (helperCall true (.call (.name id) args keywords)) fun value =>
      value.map Operand.ty = (Helper.ofName? id).bind fun helper => plainType? helper args := by
  rw [helperCall]
  cases Helper.ofName? id with
  | some helper => exact callPlain_gives helper args
  | none => exact .throw trivial

theorem methodHelper_gives (map : String) (mapArgs : List Expr)
    (mapKeywords : List (Option String × Expr)) (method : String) (args : List Expr)
    (keywords : List (Option String × Expr)) :
    Gives f (helperCall true
        (.call (.attribute (.call (.name map) mapArgs mapKeywords) method) args keywords)) fun value =>
      value.map Operand.ty = (Helper.ofName? method).bind methodType? := by
  rw [helperCall]
  refine .get ?_
  split
  · cases Helper.ofName? method with
    | some helper => exact callMethod_gives _ helper args
    | none => exact .throw trivial
  · exact .throw trivial

/-- What an expression evaluates to has the type that is foreseen. -/
theorem eval_gives (e : Expr) :
    Gives f (eval e) fun value => value.map Operand.ty = operandType? f.locals e := by
  unfold eval
  split
  · rename_i id args keywords
    rw [operandType?]
    split
    · exact .bind (evalDeref_gives args) fun i f₁ hi => .pure hi
    · refine .say_then fun f₁ _ => ?_
      split
      · exact plainHelper_gives id args keywords
      · rename_i hnone
        rw [Option.not_isSome_iff_eq_none.mp hnone]
        exact unsupported_gives
  · rename_i map mapArgs mapKeywords method args keywords
    rw [operandType?]
    refine .say_then fun f₁ _ => ?_
    split
    · exact methodHelper_gives map mapArgs mapKeywords method args keywords
    · rename_i hnone
      rw [Option.not_isSome_iff_eq_none.mp hnone]
      exact unsupported_gives
  · rename_i hplain hmethod
    refine .say_then fun f₁ hstraight => ?_
    split
    · rw [operandType?, ← hstraight.locals]
      exact readName_gives _
    · exact evalConstant_gives _
    · rename_i hname hconst
      have hnone : operandType? f.locals e = none := by
        unfold operandType?
        split
        · exact absurd rfl (hname _)
        · exact absurd rfl (hconst _ _)
        · exact absurd rfl (hplain _ _ _)
        · exact absurd rfl (hmethod _ _ _ _ _ _)
        · rfl
      rw [hnone]
      exact unsupported_gives

/-- An expression leaves the variables alone. -/
theorem Gives.eval_then {e : Expr} {β : Type} {k : Option Operand → Emit β} {Q : β → Prop}
    (hk : ∀ value f₁, f₁.locals = f.locals → value.map Operand.ty = operandType? f.locals e →
      Gives f₁ (k value) Q) : Gives f (eval e >>= k) Q := by
  have hcode : StraightCode (fun _ => True) (fun _ => True) True (eval e) := eval_code fun _ _ => trivial
  refine Ends.afterOk (eval_gives e) fun value f₁ hexec hvalue => ?_
  obtain ⟨new, hstraight⟩ := hcode.straightLine.of_exec hexec
  exact hk value f₁ hstraight.locals hvalue

end Types

/-! ### Supported tests -/

/-- Two integers or two pointers. -/
def comparable : Ty → Ty → Bool
  | .int _, .int _ | .ptr _, .ptr _ => true
  | _, _ => false

def testOperators : List CompareOp := [.eq, .notEq, .lt, .ltEq, .gt, .gtEq]

/-- A truth value, an integer, a variable of the table, or one comparison of two integers or two pointers. -/
def isSupportedTest (locals : Table (Option Slot)) : Expr → Bool
  | .const value _ => value.isInteger
  | .name x => (locals.get? x).isSome
  | .compare left [(op, right)] =>
    testOperators.contains op &&
      ((operandType? locals left).any fun l => (operandType? locals right).any fun r => comparable l r)
  | _ => false

/-- The variables are integers and pointers. -/
def HasScalarSlots (locals : Table (Option Slot)) : Prop :=
  ∀ x slot, locals.get? x = some (some slot) → slot.ty.isScalar = true

theorem toInt?_isSome (value : Literal) : value.toInt?.isSome = value.isInteger := by
  cases value <;> rfl

theorem predicateOf?_isSome (op : CompareOp) :
    (predicateOf? op).isSome = testOperators.contains op := by
  cases op <;> decide

theorem HasScalarSlots.slotType? {locals : Table (Option Slot)} (h : HasScalarSlots locals) {x : String}
    {ty : Ty} (hty : slotType? locals x = some ty) : ty.isScalar = true := by
  obtain ⟨slot, hslot, rfl⟩ := Option.map_eq_some_iff.mp hty
  exact h x slot (Option.join_eq_some_iff.mp hslot)

theorem HasScalarSlots.operandType? {locals : Table (Option Slot)} (h : HasScalarSlots locals) {e : Expr}
    {ty : Ty} (hty : operandType? locals e = some ty) : ty.isScalar = true := by
  unfold Lower.operandType? at hty
  split at hty
  · exact h.slotType? hty
  · split at hty <;> cases hty
    rfl
  · split at hty
    · unfold derefType? at hty
      split at hty
      · exact h.slotType? hty
      · cases hty
    · obtain ⟨helper, -, hhelper⟩ := Option.bind_eq_some_iff.mp hty
      unfold plainType? at hhelper
      split at hhelper <;> cases hhelper <;> rfl
  · obtain ⟨helper, -, hhelper⟩ := Option.bind_eq_some_iff.mp hty
    unfold methodType? at hhelper
    split at hhelper <;> cases hhelper <;> rfl
  · cases hty

section Tests

variable {f : Frame}

theorem comparable_of_agrees {l r : Ty} (hl : l.isScalar = true) (h : l.agrees r = true) :
    comparable l r = true := by
  cases l <;> cases r <;> simp_all [Ty.isScalar, Ty.agrees, comparable]

/-- All pointers agree, so only integers are compared after an extension. -/
theorem comparable_eq_false {l r : Ty} (h : l.agrees r = false)
    (hint : ∀ m n, l = .int m → r = .int n → False) : comparable l r = false := by
  cases l <;> cases r <;> simp_all [Ty.agrees, comparable]

theorem balance_gives {lhs rhs : Operand} (hl : lhs.ty.isScalar = true) :
    Gives f (balance lhs rhs) fun pair => pair.isSome = comparable lhs.ty rhs.ty := by
  unfold balance
  split
  · rename_i hagree
    exact .pure (comparable_of_agrees hl hagree).symm
  · rename_i hdiffer
    split
    · rename_i hm hn
      rw [hm, hn]
      split
      · exact .last fun _ _ => .pure rfl
      · exact .last fun _ _ => .pure rfl
    · rename_i hint
      exact .pure (comparable_eq_false (Bool.eq_false_iff.mpr hdiffer) hint).symm

theorem comparison_gives (op : CompareOp) {lhs rhs : Operand} (hl : lhs.ty.isScalar = true) :
    Gives f (comparison op lhs rhs) fun outcome =>
      outcome.isSome = (testOperators.contains op && comparable lhs.ty rhs.ty) := by
  refine .bind (balance_gives hl) fun pair f₁ hpair => ?_
  rw [← hpair, ← predicateOf?_isSome]
  split
  · exact .say_then fun _ _ => .pure (by simp)
  · split
    · rename_i hop
      exact .last fun _ _ => .pure (by simp [hop])
    · rename_i hop
      exact .say_then fun _ _ => .pure (by simp [hop])

theorem isNonzero_gives (x : String) :
    Gives f (isNonzero x) fun outcome => outcome.isSome = (f.locals.get? x).isSome := by
  refine .get ?_
  split
  · rename_i hx
    refine .last fun i f₁ => ?_
    rw [hx]
    dsimp only
    split
    · exact .pure rfl
    · exact .last fun _ _ => .pure rfl
  · rename_i hx
    exact .say_then fun _ _ => .pure (by rw [hx]; rfl)

/-- Lowering a test gives an operand exactly if the test is supported. -/
theorem condition_gives (hscalar : HasScalarSlots f.locals) (test : Expr) :
    Gives f (condition test) fun outcome => outcome.isSome = isSupportedTest f.locals test := by
  unfold condition
  split
  · rename_i value marked
    rw [isSupportedTest, ← toInt?_isSome]
    cases value.toInt? with
    | some n => exact .pure rfl
    | none => exact .say_then fun _ _ => .pure rfl
  · exact isNonzero_gives _
  · rename_i left op right
    refine .eval_then fun lhs f₁ h₁ hlhs => .eval_then fun rhs f₂ _ hrhs => ?_
    rw [h₁] at hrhs
    split
    · rename_i l r
      rw [isSupportedTest, ← hlhs, ← hrhs]
      exact comparison_gives op (hscalar.operandType? hlhs.symm)
    · exact .throw trivial
  · rename_i hsingle
    refine .last fun _ _ => .say_then fun _ _ => .pure ?_
    rw [isSupportedTest]
    · rfl
    · simp
    · simp
    · rintro _ op right ⟨⟩
      exact hsingle op right rfl
  · rename_i hconst hname hsingle hcompare
    refine .say_then fun _ _ => .pure ?_
    rw [isSupportedTest]
    · rfl
    · exact hconst
    · exact hname
    · exact hsingle

end Tests

/-! ### Branches -/

/-- A branch is on the operand that its test gave. -/
def Decides (locals : Table (Option Slot)) (s : Stmt) (own : List Inst) : Prop :=
  ∀ test body orelse, s = .cond test body orelse →
    ∃ f f' outcome name yes no, f.locals = locals ∧ exec (condition test) f = (.ok outcome, f') ∧
      ⟨name, .condBranch outcome yes no⟩ ∈ own

theorem Lowers.decides {result : Ty} {body : List Stmt} {f f' : Frame}
    {parts : List (Stmt × List Inst)} (h : Lowers result body f parts f')
    (hin : f.here < f.fn.blocks.length) : ∀ p ∈ parts, Decides f.locals p.1 p.2 := by
  refine h.forall_parts (P := Decides f.locals) ?_ ?_ ?_ ⟨hin, rfl, rfl⟩
  · rintro s f₁ f₂ new - hsimple - - test body orelse rfl
    cases hsimple
  · rintro value name o test body orelse ⟨⟩
  · rintro test f₁ g arms new hf hopens body orelse joins test' body' orelse' ⟨⟩
    obtain ⟨g₁, g₂, code, outcome, name, hmakes, hexec, -, -, -, rfl⟩ := hopens.run
    exact ⟨g₁, g₂, outcome, name, arms.thenLabel, arms.otherwise, hmakes.locals.trans hf.locals, hexec,
      by simp⟩

theorem Prepares.hasScalarSlots {w : Workspace} {d : Syntax.Function} {result : Ty} {f : Frame}
    {slots : List Inst} (h : Prepares d.body (programStart w d result) f slots) :
    HasScalarSlots f.locals := by
  intro x slot hx
  obtain ⟨align, hmem⟩ := h.tableMade x slot hx
  obtain ⟨entry, hblocks⟩ := h.blocks_start
  have hblock : f.block = ⟨entry, slots⟩ :=
    Frame.block_of_getElem? (by rw [h.here, programStart_here, hblocks]; rfl)
  rw [hblock] at hmem
  exact h.scalar _ hmem _ _ rfl

theorem Assembled.condBranch_ty {f : Frame} (h : Assembled f) {b : Block} (hb : b ∈ f.fn.blocks)
    {i : Inst} (hi : i ∈ b.insts) {o : Operand} {yes no : String}
    (hop : i.op = .condBranch (some o) yes no) : o.ty = Ty.i1 := by
  obtain ⟨k, hk⟩ := List.getElem?_of_mem hi
  have hformed := (h b hb).of_getElem? hk
  rw [hop] at hformed
  cases hformed with
  | condBranch hcondition => exact (hcondition o rfl).2

/-- The tests that are met in a program are supported: each leaves a branch on the operand that it gave, and
none of them can be lowered to nothing.  The branches of the function are on operands of type `i1`. -/
structure BranchesDecided (d : Syntax.Function) (fn : IR.Function) (locals : Table (Option Slot)) :
    Prop where
  table : IsTableOf d fn.result locals
  supported : ∀ test body orelse, .cond test body orelse ∈ Stmt.reachedAll d.body →
    isSupportedTest locals test = true
  decided : ∀ test body orelse, .cond test body orelse ∈ Stmt.reachedAll d.body →
    ∃ f f' o name yes no, f.locals = locals ∧ exec (condition test) f = (.ok (some o), f') ∧
      ∃ b ∈ fn.blocks, ⟨name, .condBranch (some o) yes no⟩ ∈ b.insts
  never : ∀ test body orelse, .cond test body orelse ∈ Stmt.reachedAll d.body →
    ∀ f f', f.locals = locals → exec (condition test) f ≠ (.ok none, f')
  typed : ∀ b ∈ fn.blocks, ∀ i ∈ b.insts, ∀ outcome yes no, i.op = .condBranch outcome yes no →
    ∃ o, outcome = some o ∧ o.ty = Ty.i1

/-- The branch of a test stays in the function, and a function that can be written has a condition there. -/
theorem Lowers.decided {result : Ty} {body : List Stmt} {f g f' : Frame}
    {parts : List (Stmt × List Inst)} (h : Lowers result body f parts g)
    (hin : f.here < f.fn.blocks.length) (hgrown : Grown g f') (hfault : f'.fn.fault? = none)
    {test : Expr} {suite orelse : List Stmt} (hmem : .cond test suite orelse ∈ Stmt.reachedAll body) :
    ∃ f₁ f₂ o name yes no, f₁.locals = f.locals ∧ exec (condition test) f₁ = (.ok (some o), f₂) ∧
      ∃ b ∈ f'.fn.blocks, ⟨name, .condBranch (some o) yes no⟩ ∈ b.insts := by
  rw [← h.map_fst_parts] at hmem
  obtain ⟨p, hp, hstmt⟩ := List.mem_map.mp hmem
  obtain ⟨f₁, f₂, outcome, name, yes, no, hlocals, hexec, hown⟩ := h.decides hin p hp _ _ _ hstmt
  have hheld := (h.holds_iff hin).mpr (.inr (List.mem_flatMap.mpr ⟨p, hp, hown⟩))
  obtain ⟨b, hb, hi⟩ := hgrown.holds hheld
  obtain ⟨o, rfl⟩ := Option.isSome_iff_exists.mp (tested_of_fault? hfault hb hi rfl)
  exact ⟨f₁, f₂, o, name, yes, no, hlocals, hexec, b, hb, hi⟩

theorem Lowered.branchesDecided {maps : Table Operand} {d : Syntax.Function} {fn : IR.Function}
    (h : Lowered maps d fn) (hfault : fn.fault? = none) : ∃ locals, BranchesDecided d fn locals := by
  obtain ⟨w, parts, f, -, rfl, hbuilds⟩ := h.builds
  obtain ⟨f₁, slots, g, hslots, hlowers, hgrown⟩ := hbuilds.stages
  have hin₁ := hslots.inRange (programStart_inRange w d f.fn.result)
  have hgives : ∀ test f₂ f₃ outcome, f₂.locals = f₁.locals →
      exec (condition test) f₂ = (.ok outcome, f₃) →
        outcome.isSome = isSupportedTest f₁.locals test := by
    intro test f₂ f₃ outcome hlocals hexec
    have hscalar := hslots.hasScalarSlots
    rw [← hlocals] at hscalar ⊢
    exact (condition_gives hscalar test).ok hexec
  have hsupported : ∀ test body orelse, .cond test body orelse ∈ Stmt.reachedAll d.body →
      isSupportedTest f₁.locals test = true := by
    intro test body orelse hmem
    obtain ⟨f₂, f₃, o, _, _, _, hlocals, hexec, -⟩ := hlowers.decided hin₁ hgrown hfault hmem
    exact (hgives test f₂ f₃ (some o) hlocals hexec).symm
  refine ⟨f₁.locals, hslots.isTableOf, hsupported, ?_, ?_, ?_⟩
  · exact fun _ _ _ hmem => hlowers.decided hin₁ hgrown hfault hmem
  · intro test body orelse hmem f₂ f₃ hlocals hexec
    have hnone := hgives test f₂ f₃ none hlocals hexec
    rw [hsupported test body orelse hmem] at hnone
    cases hnone
  · intro b hb i hi outcome yes no hop
    obtain ⟨o, rfl⟩ := Option.isSome_iff_exists.mp (tested_of_fault? hfault hb hi hop)
    exact ⟨o, rfl, hbuilds.assembled.condBranch_ty hb hi hop⟩

/-- In every source that compiles, the tests that are met are supported and the branches are on operands of
type `i1`: a test that gives no operand is always noticed when the module is written. -/
theorem source_branchesDecided {path : String} {text : List Char} {maps : Table Operand} {out : Text}
    {w : Workspace}
    (h : exec (Compile.source path text) (Compile.start path maps) = (.ok out, w)) :
    ∃ m, Syntax.Module.parse (Lexer.universalNewlines text) = .ok m ∧
      List.Forall₂ (fun d fn => fn.name = d.name ∧ ∃ locals, BranchesDecided d fn locals)
        m.programs w.module.functions := by
  obtain ⟨m, hparse, hall⟩ := source_functions h
  exact ⟨m, hparse, hall.imp fun d fn ⟨hlowered, hfault⟩ =>
    ⟨hlowered.name, hlowered.branchesDecided hfault⟩⟩

/-- Tests of all three kinds: a comparison, a variable and a constant. -/
def testingSource : List Char :=
  ("@bpf\ndef f() -> c_int64:\n    x = ktime()\n    if x > 3:\n        if x:\n" ++
    "            return c_int64(1)\n    elif 1:\n        x = 2\n    return c_int64(0)\n").toList

def branchCount (fn : IR.Function) : Nat :=
  (fn.blocks.flatMap Block.insts).countP fun i => i.op matches .condBranch ..

theorem testingSource_branchesDecided :
    ∃ (out : Text) (w : Workspace) (m : Syntax.Module),
      exec (Compile.source "prog.py" testingSource) (Compile.start "prog.py" Table.empty) =
        (.ok out, w) ∧
      Syntax.Module.parse (Lexer.universalNewlines testingSource) = .ok m ∧
      w.module.functions.map branchCount = [3] ∧
      List.Forall₂ (fun d fn => fn.name = d.name ∧ ∃ locals, BranchesDecided d fn locals)
        m.programs w.module.functions := by
  have hrun :
      (exec (Compile.source "prog.py" testingSource)
        (Compile.start "prog.py" Table.empty)).1.isOk = true ∧
      (exec (Compile.source "prog.py" testingSource)
        (Compile.start "prog.py" Table.empty)).2.module.functions.map branchCount = [3] := by
    decide +kernel
  obtain ⟨out, w, hsource⟩ := exec_of_isOk hrun.1
  rw [hsource] at hrun
  obtain ⟨m, hparse, hall⟩ := source_branchesDecided hsource
  exact ⟨out, w, m, hsource, hparse, hrun.2, hall⟩

end BpfCompiler.Lower
