import BpfCompiler.Proofs.Returns
import BpfCompiler.Proofs.SlotUse

/-!
# Returns at every depth

A statement stands at some depth of branches: `nested places s` is `s` inside a chain of suites, each of them
one arm of a branch.  Lowering it enters the arms one by one, lowers the statement itself, and leaves the arms
again.  The suites do not know what the function returns and lower a return as one of a 64-bit word, so that
a return means the same inside a branch and outside exactly when it gives nothing, the function returns a
64-bit word, or the value is refused in both places.
-/

namespace BpfCompiler.Syntax

/-- A place inside a branch: the arm it is in, what stands before and behind it in the suite of that arm, and
the suite of the other arm. -/
structure Place where
  test : Expr
  inElse : Bool
  before : List Stmt
  after : List Stmt
  other : List Stmt

namespace Place

/-- The suite with a statement put at the place. -/
def suite (p : Place) (s : Stmt) : List Stmt := p.before ++ s :: p.after

/-- The branch with a statement put at the place. -/
def around (p : Place) (s : Stmt) : Stmt :=
  if p.inElse then .cond p.test p.other (p.suite s) else .cond p.test (p.suite s) p.other

end Place

/-- The statement inside a chain of branches, the outermost first. -/
def nested (places : List Place) (s : Stmt) : Stmt := places.foldr Place.around s

end BpfCompiler.Syntax

namespace BpfCompiler.Lower

open IR Syntax Emit

/-! ### Into a chain of branches and out of it -/

/-- Where the second suite goes. -/
def Arms.elseBlock (arms : Arms) : Nat := (arms.other.map Prod.fst).getD arms.endBlock

/-- Everything that is lowered of a branch before the statement at the place. -/
def enterArm (p : Place) : Emit Arms := do
  say "Processing statement: If"
  say "Handling if statement"
  let arms ← openBranch p.test (p.inElse || !p.other.isEmpty)
  if p.inElse then
    fillBlock arms.thenBlock (lowerSuite p.other) arms.endLabel
    moveTo arms.elseBlock
  else moveTo arms.thenBlock
  lowerSuite p.before
  return arms

/-- Everything that is lowered of a branch behind the statement at the place. -/
def leaveArm (p : Place) (arms : Arms) : Emit Unit := do
  lowerSuite p.after
  joinAt arms.endLabel
  unless p.inElse || p.other.isEmpty do
    fillBlock arms.elseBlock (lowerSuite p.other) arms.endLabel
  moveTo arms.endBlock

def enter : List Place → Emit (List Arms)
  | [] => return []
  | p :: rest => do
    let arms ← enterArm p
    return arms :: (← enter rest)

def leave : List Place → List Arms → Emit Unit
  | p :: places, arms :: rest => do
    leave places rest
    leaveArm p arms
  | _, _ => return ()

theorem exec_bind_congr {σ α β : Type} {x : ExceptT Fault (StateM σ) α}
    {k k' : α → ExceptT Fault (StateM σ) β} {s : σ}
    (h : ∀ a s', exec x s = (.ok a, s') → exec (k a) s' = exec (k' a) s') :
    exec (x >>= k) s = exec (x >>= k') s := by
  rw [exec_bind, exec_bind]
  cases hx : exec x s with
  | mk outcome s' =>
    cases outcome with
    | error fault => rfl
    | ok a => exact h a s' hx

theorem lowerSuite_append (first second : List Stmt) :
    lowerSuite (first ++ second) = lowerSuite first >>= fun _ => lowerSuite second := by
  induction first with
  | nil => simp [lowerSuite]
  | cons s rest ih => simp [lowerSuite, ih]

/-- The second suite has a block exactly when it has statements. -/
theorem exec_lowerStmt_cond (result : Ty) (returned : Bool) (test : Expr) (body orelse : List Stmt)
    (f : Frame) :
    exec (lowerStmt result returned (.cond test body orelse)) f =
      exec (do
        say "Processing statement: If"
        say "Handling if statement"
        let arms ← openBranch test (!orelse.isEmpty)
        fillBlock arms.thenBlock (lowerSuite body) arms.endLabel
        unless orelse.isEmpty do fillBlock arms.elseBlock (lowerSuite orelse) arms.endLabel
        moveTo arms.endBlock
        return returned) f := by
  simp only [lowerStmt]
  refine exec_bind_congr fun _ f₁ _ => exec_bind_congr fun _ f₂ _ => exec_bind_congr fun arms f₃ hopen => ?_
  have hother := openBranch_other hopen
  cases harms : arms.other with
  | none =>
    have hempty : orelse.isEmpty = true := by simpa [harms] using hother
    simp [hempty]
  | some block =>
    have hempty : orelse.isEmpty = false := by simpa [harms] using hother
    simp [hempty, Arms.elseBlock, harms]

/-- A branch is lowered up to a statement in one of its arms, then the statement, as one of a suite, and then
the rest. -/
theorem exec_lowerStmt_around (result : Ty) (returned : Bool) (p : Place) (s : Stmt) (f : Frame) :
    exec (lowerStmt result returned (p.around s)) f =
      exec (do
        let arms ← enterArm p
        let _ ← lowerStmt Ty.i64 false s
        leaveArm p arms
        return returned) f := by
  cases hin : p.inElse with
  | false =>
    rw [Place.around, hin, if_neg Bool.false_ne_true, exec_lowerStmt_cond]
    cases hempty : p.other.isEmpty <;>
      simp only [hin, hempty, Place.suite, enterArm, leaveArm, fillBlock, lowerSuite_append, lowerSuite,
        bind_assoc, pure_bind, Bool.false_or, Bool.false_eq_true, if_false, if_true]
  | true =>
    rw [Place.around, hin, if_pos rfl, exec_lowerStmt_cond]
    have hempty : (p.suite s).isEmpty = false := by simp [Place.suite]
    rw [hempty]
    simp only [hin, Place.suite, enterArm, leaveArm, fillBlock, lowerSuite_append, lowerSuite, bind_assoc,
      pure_bind, Bool.true_or, Bool.not_false, Bool.false_eq_true, if_true, if_false]

/-- A statement inside branches is lowered as a statement of a suite, between the way in and the way out. -/
theorem exec_lowerStmt_nested (result : Ty) (returned : Bool) {places : List Place} (hplaces : places ≠ [])
    (s : Stmt) (f : Frame) :
    exec (lowerStmt result returned (nested places s)) f =
      exec (do
        let arms ← enter places
        let _ ← lowerStmt Ty.i64 false s
        leave places arms
        return returned) f := by
  induction places generalizing result returned f with
  | nil => exact absurd rfl hplaces
  | cons p rest ih =>
    change exec (lowerStmt result returned (p.around (nested rest s))) f = _
    rw [exec_lowerStmt_around]
    cases rest with
    | nil => simp only [enter, leave, bind_assoc, pure_bind, nested, List.foldr_nil]
    | cons q rest =>
      simp only [enter, leave, bind_assoc, pure_bind]
      refine exec_bind_congr fun arms g _ => ?_
      rw [exec_bind, ih Ty.i64 false (List.cons_ne_nil q rest) g, ← exec_bind]
      simp only [bind_assoc, pure_bind, enter, leave]

/-! ### The values of returns -/

theorem mem_typeNames {name : String} {ty : Ty} (h : typeOfName name = .ok ty) :
    (name, ty) ∈ typeNames := by
  unfold typeOfName at h
  split at h
  · rename_i hlookup
    cases h
    exact mem_of_lookup hlookup
  · cases h

/-- Different type names may stand for one type, but different types never agree. -/
theorem agrees_iff_of_typeOfName {a b : String} {s t : Ty} (ha : typeOfName a = .ok s)
    (hb : typeOfName b = .ok t) : s.agrees t = true ↔ s = t := by
  have hnames : ∀ p ∈ typeNames, ∀ q ∈ typeNames, (p.2.agrees q.2 = true ↔ p.2 = q.2) := by
    decide
  exact hnames _ (mem_typeNames ha) _ (mem_typeNames hb)

/-- The values that a return may have where `ty` is returned: the two verdicts, and an integer literal as one
of that type. -/
def TakesValue (ty : Ty) (e : Expr) : Prop :=
  e = .name "XDP_PASS" ∨ e = .name "XDP_DROP" ∨
    ∃ id value, typedLiteral? e = some (id, value) ∧ typeOfName id = .ok ty

theorem returnOperand_literal {ty : Ty} {e : Expr} {id : String} {value : Literal}
    (h : typedLiteral? e = some (id, value)) :
    returnOperand ty (some e) = (typeOfName id).bind fun named =>
      if named.agrees ty then .ok (.const ty value) else .error (.returnMismatch named id) := by
  unfold returnOperand
  split
  · simp_all
  · simp_all [typedLiteral?]
  · simp_all [typedLiteral?]
  · simp_all [typedLiteral?]
  · rename_i heq
    cases heq
    rw [h]
    rfl

theorem returnOperand_plain {ty : Ty} {e : Expr} {o : Operand} (h : typedLiteral? e = none)
    (hoperand : returnOperand ty (some e) = .ok o) : e = .name "XDP_PASS" ∨ e = .name "XDP_DROP" := by
  unfold returnOperand at hoperand
  split at hoperand <;> simp_all

/-- A return with a value is lowered exactly when the value is one that may be returned. -/
theorem exists_returnOperand_iff {type : String} {ty : Ty} (htype : typeOfName type = .ok ty) (e : Expr) :
    (∃ o, returnOperand ty (some e) = .ok o) ↔ TakesValue ty e := by
  cases hliteral : typedLiteral? e with
  | none =>
    constructor
    · rintro ⟨o, hoperand⟩
      exact (returnOperand_plain hliteral hoperand).imp_right .inl
    · rintro (rfl | rfl | ⟨id, value, hsome, -⟩)
      · exact ⟨_, rfl⟩
      · exact ⟨_, rfl⟩
      · simp [hliteral] at hsome
  | some literal =>
    obtain ⟨id, value⟩ := literal
    have hnames : ∀ name, e ≠ .name name := by
      rintro name rfl
      simp [typedLiteral?] at hliteral
    rw [returnOperand_literal hliteral]
    simp only [TakesValue, hnames, hliteral, false_or, Option.some.injEq, Prod.mk.injEq]
    cases hid : typeOfName id with
    | error fault => simp [Except.bind, hid]
    | ok named =>
      by_cases hnamed : named = ty <;>
        simp [Except.bind, hid, agrees_iff_of_typeOfName hid htype, Ty.agrees_self, hnamed]

/-- Whether a return means the same in a function that returns `result` and inside a branch of it. -/
def SameAtDepth (result : Ty) (value : Option Expr) : Prop :=
  ∀ e, value = some e → result = Ty.i64 ∨ ¬TakesValue result e ∧ ¬TakesValue Ty.i64 e

theorem sameAtDepth_iff {type : String} {result : Ty} (htype : typeOfName type = .ok result)
    (value : Option Expr) :
    (∀ o, returnOperand Ty.i64 value = .ok o ↔ returnOperand result value = .ok o) ↔
      SameAtDepth result value := by
  cases value with
  | none => simp [SameAtDepth, returnOperand]
  | some e =>
    have hword : (∃ o, returnOperand Ty.i64 (some e) = .ok o) ↔ TakesValue Ty.i64 e :=
      exists_returnOperand_iff (show typeOfName "c_int64" = .ok Ty.i64 from rfl) e
    have hresult := exists_returnOperand_iff htype e
    simp only [SameAtDepth, Option.some.injEq, forall_eq']
    constructor
    · intro hsame
      -- an operand that both give has both types
      refine or_iff_not_imp_left.mpr fun hne => ⟨fun htakes => hne ?_, fun htakes => hne ?_⟩
      · obtain ⟨o, ho⟩ := hresult.mpr htakes
        rw [← returnOperand_ty ho, returnOperand_ty ((hsame o).mpr ho)]
      · obtain ⟨o, ho⟩ := hword.mpr htakes
        rw [← returnOperand_ty ((hsame o).mp ho), returnOperand_ty ho]
    · rintro (rfl | ⟨hrefused, hrefused'⟩) o
      · exact Iff.rfl
      · exact iff_of_false (fun ho => hrefused' (hword.mp ⟨o, ho⟩)) fun ho => hrefused (hresult.mp ⟨o, ho⟩)

/-! ### Returns inside branches -/

/-- Lowering the return succeeds, and all that it adds is the end of the block with the operand. -/
def EndsWith (ty : Ty) (returned : Bool) (value : Option Expr) (f : Frame) (o : Operand) : Prop :=
  ∃ name f', exec (lowerStmt ty returned (.ret value)) f = (.ok true, f') ∧ Appends f f' [⟨name, .ret o⟩]

theorem endsWith_iff {ty : Ty} {returned : Bool} {value : Option Expr} {f : Frame} {o : Operand}
    (hin : f.here < f.fn.blocks.length) :
    EndsWith ty returned value f o ↔
      f.block.isTerminated = false ∧ returnOperand ty value = .ok o := by
  obtain ⟨f₁, hsay, hstraight, -⟩ := say_straight (Text.ofString "Processing statement: Return") f
  have hopen : f₁.block.isTerminated = f.block.isTerminated := hstraight.isTerminated hin
  constructor
  · rintro ⟨name, f', hexec, happends⟩
    rw [lowerStmt, exec_bind_ok hsay] at hexec
    obtain ⟨o', f₂, hlift, htail⟩ := exec_bind_inv hexec
    obtain ⟨hoperand, rfl⟩ := exec_lift_inv hlift
    obtain ⟨⟨⟩, f₃, hterminate, hend⟩ := exec_bind_inv htail
    obtain ⟨-, rfl⟩ := exec_pure_inv hend
    obtain ⟨hnot, name', happends', -⟩ := terminate_inv hterminate
    have hnew := happends.unique (hstraight.toAppends.trans happends') hin
    obtain ⟨-, rfl⟩ : name = name' ∧ o = o' := by simpa using hnew
    exact ⟨hopen ▸ hnot, hoperand⟩
  · rintro ⟨hnot, hoperand⟩
    obtain ⟨name, f', hterminate, happends, -⟩ := exec_terminate_open (hopen.trans hnot) (.ret o)
    refine ⟨name, f', ?_, hstraight.toAppends.trans happends⟩
    rw [lowerStmt, exec_bind_ok hsay, hoperand, exec_bind_ok (exec_lift _ _), exec_bind_ok hterminate]
    rfl

/-- A return in a function of a known type, inside any chain of branches, is lowered between the way into the
chain and the way out of it, as a return of a 64-bit word.  Where it is met, it gives the same return
instruction as in the body of the function itself, or is refused like there, exactly when the block has
ended before or the return means the same at every depth. -/
theorem nestedReturn_same_iff {type : String} {result : Ty} (htype : typeOfName type = .ok result)
    {places : List Place} (hplaces : places ≠ []) (returned : Bool) (value : Option Expr) :
    (∀ f, exec (lowerStmt result returned (nested places (.ret value))) f =
      exec (do
        let arms ← enter places
        let _ ← lowerStmt Ty.i64 false (.ret value)
        leave places arms
        return returned) f) ∧
    ∀ f g : Frame, f.here < f.fn.blocks.length → g.here < g.fn.blocks.length →
      f.block.isTerminated = g.block.isTerminated →
      ((∀ o, EndsWith Ty.i64 false value g o ↔ EndsWith result returned value f o) ↔
        f.block.isTerminated = true ∨ SameAtDepth result value) := by
  refine ⟨fun f => exec_lowerStmt_nested result returned hplaces (.ret value) f, ?_⟩
  intro f g hf hg hsame
  simp only [endsWith_iff hf, endsWith_iff hg, ← hsame]
  cases f.block.isTerminated with
  | true => simp
  | false => simpa using sameAtDepth_iff htype value

/-- A place in the second suite of a branch, behind `x = []`, inside the first suite of another branch. -/
def innerPlaces : List Place :=
  [⟨.const (.int 1) false, false, [], [], []⟩,
    ⟨.const (.int 1) false, true, [.assign [.name "x"] (.list [])], [], [.pass]⟩]

/-- `c_int32(0)` -/
def shortZero : Expr := .call (.name "c_int32") [.const (.int 0) false] []

/-- In a function of 32-bit words a 32-bit zero is returned from the body, and refused inside the branches. -/
theorem shortZero_same_iff :
    ∃ f : Frame, f.block.isTerminated = false ∧
      (exec (lowerStmt Ty.i32 false (.ret (some shortZero))) f).1.isOk = true ∧
      (exec (enter innerPlaces) f).1.isOk = true ∧
      (exec (lowerStmt Ty.i32 false (nested innerPlaces (.ret (some shortZero)))) f).1.isOk = false ∧
      ((∀ o, EndsWith Ty.i64 false (some shortZero) f o ↔ EndsWith Ty.i32 false (some shortZero) f o) ↔
        f.block.isTerminated = true ∨ SameAtDepth Ty.i32 (some shortZero)) := by
  have hname : typeOfName "c_int32" = .ok Ty.i32 := rfl
  have hplaces : innerPlaces ≠ [] := List.cons_ne_nil _ _
  obtain ⟨hrun, hsame⟩ := nestedReturn_same_iff hname hplaces false (some shortZero)
  have hin : (bareFrame Table.empty).here < (bareFrame Table.empty).fn.blocks.length := by decide +kernel
  refine ⟨bareFrame Table.empty, by decide +kernel, by decide +kernel, by decide +kernel, ?_,
    hsame _ _ hin hin rfl⟩
  rw [hrun]
  decide +kernel

/-- The return that the body of a function accepts is refused inside a branch, as one of another type. -/
theorem branchedZero_refused :
    (exec (functionBody Ty.i32 [.ret (some shortZero)]) (bareFrame Table.empty)).1 = .ok () ∧
    (exec (functionBody Ty.i32 [.cond (.const (.int 1) false) [.ret (some shortZero)] [],
      .ret (some shortZero)]) (bareFrame Table.empty)).1 = .error (.returnMismatch Ty.i32 "c_int32") ∧
    (Fault.returnMismatch Ty.i32 "c_int32").className = "ValueError" := by
  decide +kernel

end BpfCompiler.Lower
