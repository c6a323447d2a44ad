import BpfCompiler.Proofs.Compilation
import BpfCompiler.Proofs.Ownership

/-!
# The types of returns

A function has one type for its result, but its returns do not all look at it.  A return with a value gives
the type of the function when it stands in the body itself, and a 64-bit word when it stands inside a branch;
a return without a value, and the one that is put at the end of a body without a return of its own, give a
32-bit zero.  So all returns have the type of the function exactly when that type happens to be the one that
these forms give.
-/

namespace BpfCompiler.Syntax.Stmt

open IR

def isBareReturn : Stmt → Bool
  | .ret none => true
  | _ => false

def isValuedReturn : Stmt → Bool
  | .ret (some _) => true
  | _ => false

/-- The statements inside a statement that the lowering meets. -/
def inner : Stmt → List Stmt
  | .cond _ body orelse => reachedAll body ++ reachedAll orelse
  | _ => []

theorem reached_eq (s : Stmt) : s.reached = s :: s.inner := by
  cases s <;> rfl

/-- What is met in a suite stands in the suite itself or inside one of its statements. -/
theorem any_reachedAll (p : Stmt → Bool) (body : List Stmt) :
    (reachedAll body).any p = (body.any p || (body.flatMap inner).any p) := by
  induction body with
  | nil => rfl
  | cons s rest ih =>
    rw [reachedAll, reached_eq, List.any_append, ih, List.any_cons, List.any_cons, List.flatMap_cons,
      List.any_append]
    simp only [Bool.or_assoc, Bool.or_left_comm]

theorem not_return_of_isSimple {s : Stmt} (h : s.isSimple = true) :
    s.isValuedReturn = false ∧ s.isBareReturn = false ∧ s.inner = [] := by
  cases s <;> first | exact ⟨rfl, rfl, rfl⟩ | simp [isSimple] at h

/-- The types that the returns of a suite give, in a function or suite that returns `result`. -/
def Gives (result : Ty) (body : List Stmt) (ty : Ty) : Prop :=
  (body.any isValuedReturn = true ∧ ty = result) ∨
    ((body.flatMap inner).any isValuedReturn = true ∧ ty = Ty.i64) ∨
      ((reachedAll body).any isBareReturn = true ∧ ty = Ty.i32)

/-- In a suite of 64-bit words the depth of a return does not matter. -/
theorem gives_word {body : List Stmt} {ty : Ty} :
    Gives Ty.i64 body ty ↔ ((reachedAll body).any isValuedReturn = true ∧ ty = Ty.i64) ∨
      ((reachedAll body).any isBareReturn = true ∧ ty = Ty.i32) := by
  rw [Gives, any_reachedAll isValuedReturn, Bool.or_eq_true, or_and_right, or_assoc]

theorem gives_simple {s : Stmt} (h : s.isSimple = true) {result ty : Ty} {rest : List Stmt} :
    Gives result (s :: rest) ty ↔ Gives result rest ty := by
  obtain ⟨hvalued, hbare, hinner⟩ := not_return_of_isSimple h
  rw [Gives, Gives, reachedAll, reached_of_isSimple h]
  simp only [List.any_cons, List.flatMap_cons, List.singleton_append, List.nil_append, hvalued, hbare,
    hinner, Bool.false_or]

theorem gives_bare {result ty : Ty} {rest : List Stmt} :
    Gives result (.ret none :: rest) ty ↔ ty = Ty.i32 ∨ Gives result rest ty := by
  rw [Gives, Gives, reachedAll, reached_eq]
  simp only [List.any_cons, List.flatMap_cons, List.cons_append, List.nil_append, isValuedReturn,
    isBareReturn, inner, Bool.false_or, Bool.true_or, true_and]
  constructor
  · rintro (hvalued | hinner | hbare)
    · exact .inr (.inl hvalued)
    · exact .inr (.inr (.inl hinner))
    · exact .inl hbare
  · rintro (hbare | hvalued | hinner | ⟨-, hbare⟩)
    · exact .inr (.inr hbare)
    · exact .inl hvalued
    · exact .inr (.inl hinner)
    · exact .inr (.inr hbare)

theorem gives_valued {result ty : Ty} {e : Expr} {rest : List Stmt} :
    Gives result (.ret (some e) :: rest) ty ↔ ty = result ∨ Gives result rest ty := by
  rw [Gives, Gives, reachedAll, reached_eq]
  simp only [List.any_cons, List.flatMap_cons, List.cons_append, List.nil_append, isValuedReturn,
    isBareReturn, inner, Bool.false_or, Bool.true_or, true_and]
  constructor
  · rintro (hvalued | hrest)
    · exact .inl hvalued
    · exact .inr (.inr hrest)
  · rintro (hvalued | ⟨-, hvalued⟩ | hrest)
    · exact .inl hvalued
    · exact .inl hvalued
    · exact .inr hrest

/-- Inside a branch every suite is one of 64-bit words. -/
theorem gives_cond {result ty : Ty} {test : Expr} {body orelse rest : List Stmt} :
    Gives result (.cond test body orelse :: rest) ty ↔
      Gives Ty.i64 body ty ∨ Gives Ty.i64 orelse ty ∨ Gives result rest ty := by
  rw [gives_word, gives_word, Gives, Gives, reachedAll, reached_eq]
  simp only [List.any_cons, List.any_append, List.flatMap_cons, List.cons_append, isValuedReturn,
    isBareReturn, inner, Bool.false_or, Bool.or_eq_true, or_and_right, or_assoc, or_comm,
    or_left_comm]

/-- The returns of a body all give the type of the function. -/
def ReturnsAgree (result : Ty) (body : List Stmt) : Prop :=
  ((body.flatMap inner).any isValuedReturn = true → result = Ty.i64) ∧
    (body.any isReturn = false ∨ (reachedAll body).any isBareReturn = true → result = Ty.i32)

end BpfCompiler.Syntax.Stmt

namespace BpfCompiler.Lower

open IR Syntax Emit

/-! ### Returns among instructions -/

/-- One of the instructions returns a value of the type. -/
def Returns (insts : List Inst) (ty : Ty) : Prop :=
  ∃ i ∈ insts, ∃ o, i.op = .ret o ∧ o.ty = ty

theorem returns_append {first second : List Inst} {ty : Ty} :
    Returns (first ++ second) ty ↔ Returns first ty ∨ Returns second ty := by
  constructor
  · rintro ⟨i, hi, hret⟩
    rcases List.mem_append.mp hi with hfirst | hsecond
    · exact .inl ⟨i, hfirst, hret⟩
    · exact .inr ⟨i, hsecond, hret⟩
  · rintro (⟨i, hi, hret⟩ | ⟨i, hi, hret⟩)
    · exact ⟨i, List.mem_append_left _ hi, hret⟩
    · exact ⟨i, List.mem_append_right _ hi, hret⟩

theorem returns_singleton {name : String} {o : Operand} {ty : Ty} :
    Returns [⟨name, .ret o⟩] ty ↔ ty = o.ty := by
  simp [Returns, eq_comm]

theorem not_returns_of_plain {insts : List Inst} (h : ∀ i ∈ insts, i.op.isTerminator = false)
    (ty : Ty) : ¬Returns insts ty := by
  rintro ⟨i, hi, o, hop, -⟩
  have hplain := h i hi
  rw [hop] at hplain
  simp [Op.isTerminator] at hplain

theorem Opens.not_returns {test : Expr} {f g : Frame} {arms : Arms} {new : List Inst}
    (h : Opens test f g arms new) (ty : Ty) : ¬Returns new ty := by
  obtain ⟨code, condition, name, rfl, hcode⟩ := h.shape
  rw [returns_append]
  rintro (hreturns | ⟨i, hi, o, hop, -⟩)
  · exact not_returns_of_plain hcode ty hreturns
  · rw [List.mem_singleton.mp hi] at hop
    cases hop

theorem Joins.not_returns {label : String} {f f' : Frame} {new : List Inst}
    (h : Joins label f f' new) (ty : Ty) : ¬Returns new ty := by
  rintro ⟨i, hi, o, hop, -⟩
  cases h with
  | ended hended => simp at hi
  | branch hopen happends hlocals =>
    rw [List.mem_singleton.mp hi] at hop
    cases hop

/-! ### Returns of suites -/

/-- The operand of a return with a value has the type that is asked for. -/
theorem returnOperand_ty {result : Ty} {e : Expr} {o : Operand}
    (h : returnOperand result (some e) = .ok o) : o.ty = result := by
  unfold returnOperand at h
  split at h
  · simp_all
  · cases h
    rfl
  · cases h
    rfl
  · cases h
  · split at h
    · rename_i id value hliteral
      cases hty : typeOfName id with
      | error fault =>
        rw [hty] at h
        cases h
      | ok ty =>
        rw [hty] at h
        change (if ty.agrees result then _ else _) = _ at h
        split at h
        · cases h
          rfl
        · cases h
    · cases h

/-- What the returns of a suite give is decided by its syntax. -/
theorem Lowers.returns_iff {result : Ty} {body : List Stmt} {f f' : Frame}
    {parts : List (Stmt × List Inst)} (h : Lowers result body f parts f') (ty : Ty) :
    Returns (parts.flatMap Prod.snd) ty ↔ Stmt.Gives result body ty := by
  induction h with
  | nil => simp [Returns, Stmt.Gives, Stmt.reachedAll]
  | simple hsimple hexec hstraight hrest ih =>
    rw [List.flatMap_cons, returns_append, ih, Stmt.gives_simple hsimple]
    exact or_iff_right (not_returns_of_plain hstraight.plain ty)
  | @ret result value o rest f f₁ f₂ name parts hopen hoperand happends hlocals hrest ih =>
    rw [List.flatMap_cons, returns_append, ih, returns_singleton]
    cases value with
    | none =>
      obtain rfl : Operand.int Ty.i32 0 = o := Except.ok.inj hoperand
      exact Stmt.gives_bare.symm
    | some e =>
      rw [returnOperand_ty hoperand]
      exact Stmt.gives_valued.symm
  | branch hopens hother hbody hjoins hrest ihbody ihrest =>
    have hnone : ¬Stmt.Gives Ty.i64 [] ty := by simp [Stmt.Gives, Stmt.reachedAll]
    rw [List.flatMap_cons, List.flatMap_append, returns_append, returns_append, returns_append, ihbody,
      ihrest, Stmt.gives_cond]
    -- what the branch itself adds, the test and the joins, does not return
    simp only [hopens.not_returns, hjoins.not_returns, hnone, false_or]
  | branchElse helse hopens hother hbody hjoins horelse hjoins' hrest ihbody ihorelse ihrest =>
    rw [List.flatMap_cons, List.flatMap_append, List.flatMap_append, returns_append, returns_append,
      returns_append, returns_append, returns_append, ihbody, ihorelse, ihrest, Stmt.gives_cond]
    simp only [hopens.not_returns, hjoins.not_returns, hjoins'.not_returns, false_or, or_assoc]

/-! ### Returns of functions -/

/-- Every return of the function has the type of its result. -/
def ReturnsTyped (fn : IR.Function) : Prop :=
  ∀ b ∈ fn.blocks, ∀ i ∈ b.insts, ∀ o, i.op = .ret o → o.ty = fn.result

/-- Whether an instruction is a return of another type. -/
def isMistyped (result : Ty) (i : Inst) : Bool :=
  match i.op with
  | .ret o => o.ty != result
  | _ => false

theorem isMistyped_eq_false_iff {result : Ty} {i : Inst} :
    isMistyped result i = false ↔ ∀ o, i.op = .ret o → o.ty = result := by
  unfold isMistyped
  split
  · rename_i o hop
    simp [hop]
  · rename_i hop
    exact iff_of_true rfl fun o ho => (hop o ho).elim

instance (fn : IR.Function) : Decidable (ReturnsTyped fn) :=
  decidable_of_iff (∀ b ∈ fn.blocks, ∀ i ∈ b.insts, isMistyped fn.result i = false) <| by
    simp only [ReturnsTyped, isMistyped_eq_false_iff]

theorem Allocates.not_holds_ret {w : Workspace} {d : Syntax.Function} {result : Ty} {f : Frame}
    {slots : List Inst} (h : Allocates (programStart w d result) f slots) {i : Inst} {o : Operand}
    (hop : i.op = .ret o) : ¬Holds f i := by
  obtain ⟨entry, hblocks, -⟩ := programStart_blocks w d result
  rw [h.holds_iff (programStart_inRange w d result)]
  rintro (⟨b, hb, hi⟩ | hi)
  · rw [hblocks, List.mem_singleton] at hb
    rw [hb] at hi
    simp at hi
  · obtain ⟨ty, align, halloca⟩ := h.alloca i hi
    rw [hop] at halloca
    cases halloca

/-- The types of the returns of a function: those of the body, and a 32-bit zero at the end of a body that
has no return of its own. -/
theorem Builds.returns_iff {result : Ty} {w : Workspace} {d : Syntax.Function} {f : Frame}
    {parts : List (Stmt × List Inst)}
    (h : Builds result d.body (programStart w d result) parts f) (ty : Ty) :
    (∃ i o, Holds f i ∧ i.op = .ret o ∧ o.ty = ty) ↔
      Stmt.Gives result d.body ty ∨ (d.body.any Stmt.isReturn = false ∧ ty = Ty.i32) := by
  cases h with
  | @returned f₁ f' slots parts hslots hlowers hreturn =>
    have hin := hslots.inRange (programStart_inRange w d result)
    rw [← hlowers.returns_iff, hreturn]
    constructor
    · rintro ⟨i, o, hi, hop, hty⟩
      rcases (hlowers.holds_iff hin).mp hi with hold | hnew
      · exact (hslots.not_holds_ret hop hold).elim
      · exact .inl ⟨i, hnew, o, hop, hty⟩
    · rintro (⟨i, hi, o, hop, hty⟩ | ⟨hfalse, -⟩)
      · exact ⟨i, o, (hlowers.holds_iff hin).mpr (.inr hi), hop, hty⟩
      · cases hfalse
  | @falls f₁ g f' slots parts name hslots hlowers hreturn hopen happends hlocals =>
    have hin := hslots.inRange (programStart_inRange w d result)
    have hholds := fun i => happends.holds_iff (i := i) (hlowers.grown.inRange hin)
    rw [← hlowers.returns_iff, hreturn]
    constructor
    · rintro ⟨i, o, hi, hop, hty⟩
      rcases (hholds i).mp hi with hbefore | hlast
      · rcases (hlowers.holds_iff hin).mp hbefore with hold | hnew
        · exact (hslots.not_holds_ret hop hold).elim
        · exact .inl ⟨i, hnew, o, hop, hty⟩
      · rw [List.mem_singleton.mp hlast] at hop
        cases hop
        exact .inr ⟨rfl, hty.symm⟩
    · rintro (⟨i, hi, o, hop, hty⟩ | ⟨-, rfl⟩)
      · exact ⟨i, o, (hholds i).mpr (.inl ((hlowers.holds_iff hin).mpr (.inr hi))), hop, hty⟩
      · exact ⟨_, _, (hholds _).mpr (.inr (List.mem_singleton_self _)), rfl, rfl⟩

/-- The returns of a function have its type exactly when those of its program agree with it. -/
theorem Lowered.returnsTyped_iff {maps : Table Operand} {d : Syntax.Function} {fn : IR.Function}
    (h : Lowered maps d fn) : ReturnsTyped fn ↔ Stmt.ReturnsAgree fn.result d.body := by
  obtain ⟨w, parts, f, -, rfl, hbuilds⟩ := h.builds
  have htypes := hbuilds.returns_iff
  constructor
  · intro htyped
    have hall : ∀ ty, Stmt.Gives f.fn.result d.body ty ∨
        (d.body.any Stmt.isReturn = false ∧ ty = Ty.i32) → ty = f.fn.result := by
      intro ty hty
      obtain ⟨i, o, ⟨b, hb, hi⟩, hop, rfl⟩ := (htypes ty).mpr hty
      exact htyped b hb i hi o hop
    constructor
    · intro hnested
      exact (hall Ty.i64 (.inl (.inr (.inl ⟨hnested, rfl⟩)))).symm
    · rintro (hnone | hbare)
      · exact (hall Ty.i32 (.inr ⟨hnone, rfl⟩)).symm
      · exact (hall Ty.i32 (.inl (.inr (.inr ⟨hbare, rfl⟩)))).symm
  · rintro ⟨hnested, hbare⟩ b hb i hi o hop
    rcases (htypes o.ty).mp ⟨i, o, ⟨b, hb, hi⟩, hop, rfl⟩ with
      (⟨-, hty⟩ | ⟨hinner, hty⟩ | ⟨hreached, hty⟩) | ⟨hnone, hty⟩
    · exact hty
    · rw [hty, hnested hinner]
    · rw [hty, hbare (.inr hreached)]
    · rw [hty, hbare (.inl hnone)]

/-- In every source that compiles, and for every function of its module, the returns have the type that
the program declares exactly when two things hold: if a return with a value stands inside a branch, the type
is the 64-bit word, and if a return has no value or the body has none of its own, the type is the 32-bit
word. -/
theorem source_returnsTyped_iff {path : String} {text : List Char} {maps : Table Operand} {out : Text}
    {w : Workspace}
    (h : exec (Compile.source path text) (Compile.start path maps) = (.ok out, w)) :
    ∃ m, Syntax.Module.parse (Lexer.universalNewlines text) = .ok m ∧
      List.Forall₂
        (fun d fn => fn.name = d.name ∧ (returnType d).bind typeOfName = .ok fn.result ∧
          (ReturnsTyped fn ↔ Stmt.ReturnsAgree fn.result d.body))
        m.programs w.module.functions := by
  obtain ⟨m, hparse, hall, -⟩ := source_inv h
  refine ⟨m, hparse, hall.imp ?_⟩
  intro d fn hlowered
  exact ⟨hlowered.name, hlowered.result, hlowered.returnsTyped_iff⟩

/-- A return inside a branch of a function of 64-bit words. -/
def nestedReturnSource : List Char :=
  "@bpf\ndef f() -> c_int64:\n    if 1:\n        return c_int64(2)\n    return c_int64(0)\n".toList

theorem nestedReturn_typed_iff :
    ∃ (out : Text) (w : Workspace) (m : Syntax.Module),
      exec (Compile.source "prog.py" nestedReturnSource) (Compile.start "prog.py" Table.empty) =
        (.ok out, w) ∧
      Syntax.Module.parse (Lexer.universalNewlines nestedReturnSource) = .ok m ∧
      List.Forall₂
        (fun d fn => fn.name = d.name ∧ (returnType d).bind typeOfName = .ok fn.result ∧
          (ReturnsTyped fn ↔ Stmt.ReturnsAgree fn.result d.body))
        m.programs w.module.functions := by
  obtain ⟨out, w, hsource⟩ := exec_of_isOk
    (m := Compile.source "prog.py" nestedReturnSource)
    (s := Compile.start "prog.py" Table.empty) (by decide +kernel)
  obtain ⟨m, hparse, hall⟩ := source_returnsTyped_iff hsource
  exact ⟨out, w, m, hsource, hparse, hall⟩

/-- A function of 64-bit words without a return. -/
def missingReturnSource : List Char := "@bpf\ndef f() -> c_int64:\n    x = 1\n".toList

theorem missingReturn_not_typed :
    ∃ (out : Text) (w : Workspace),
      exec (Compile.source "prog.py" missingReturnSource) (Compile.start "prog.py" Table.empty) =
        (.ok out, w) ∧ ∃ fn ∈ w.module.functions, ¬ReturnsTyped fn := by
  have hrun :
      (exec (Compile.source "prog.py" missingReturnSource)
        (Compile.start "prog.py" Table.empty)).1.isOk = true ∧
      ∃ fn ∈ (exec (Compile.source "prog.py" missingReturnSource)
        (Compile.start "prog.py" Table.empty)).2.module.functions, ¬ReturnsTyped fn := by
    decide +kernel
  obtain ⟨out, w, hsource⟩ := exec_of_isOk hrun.1
  rw [hsource] at hrun
  exact ⟨out, w, hsource, hrun.2⟩

end BpfCompiler.Lower
