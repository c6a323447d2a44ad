import BpfCompiler.Proofs.Compilation
import BpfCompiler.Proofs.Effects
import BpfCompiler.Proofs.Ownership
import BpfCompiler.Proofs.Slots

/-!
# What becomes of every statement

A program that compiles has been lowered statement by statement, but not every statement has a meaning: what
is of no supported form is logged and passed over.  This module says which statements are sure to leave
their instructions in the function.  A variable that is assigned a supported value gets a store into its
slot, a statement that calls a helper leaves a call, a return leaves a return and a branch leaves a branch on
a condition; what is passed over adds no instruction at all.
-/

namespace BpfCompiler.Lower

open IR Syntax Emit

/-! ### Assignments -/

/-- The call reads through a variable that has a slot. -/
def readsThrough (locals : Table (Option Slot)) (id : String) : List Expr → Bool
  | [.name x] => id == "deref" && (locals.get? x).join.isSome
  | _ => false

theorem readsThrough_inv {locals : Table (Option Slot)} {id : String} {args : List Expr}
    (h : readsThrough locals id args = true) :
    id = "deref" ∧ ∃ x slot, args = [.name x] ∧ locals.get? x = some (some slot) := by
  unfold readsThrough at h
  split at h
  · rename_i x
    obtain ⟨hid, hslot⟩ := Bool.and_eq_true_iff.mp h
    obtain ⟨slot, hsome⟩ := Option.isSome_iff_exists.mp hslot
    exact ⟨eq_of_beq hid, x, slot, rfl, Option.join_eq_some_iff.mp hsome⟩
  · cases h

/-- The values that an assignment stores. -/
def isStored (maps : Table Operand) (locals : Table (Option Slot)) : Expr → Bool
  | .const value _ => (constantOperand? value).isSome
  | .call (.name id) args _ =>
    ((integerType? id).isSome && (soleLiteral? args).isSome) || (Helper.ofName? id).isSome ||
      readsThrough locals id args
  | .call (.attribute (.call (.name map) _ _) method) _ _ =>
    (maps.get? map).isSome && (Helper.ofName? method).isSome
  | .binary .. => true
  | _ => false

variable {f : Frame} {locals : Table (Option Slot)}

theorem assignConstant_adds (hlocals : f.locals = locals) (target : String) {value : Literal}
    (h : (constantOperand? value).isSome = true) :
    Adds (StoresTo locals target) f (assignConstant target value) := by
  unfold assignConstant
  split
  · exact Adds.first (assign_adds hlocals _ _) fun _ =>
      Preserves.bind (checkShown_code _).straightLine fun _ => say_preserves _
  · rename_i hnone
    rw [hnone] at h
    cases h

theorem evalDeref_isSome {args : List Expr} (h : readsThrough f.locals "deref" args = true)
    {out : Option Inst} {f' : Frame} (hexec : exec (evalDeref args) f = (.ok out, f')) :
    out.isSome = true := by
  obtain ⟨-, x, slot, rfl, hslot⟩ := readsThrough_inv h
  obtain ⟨f₀, hsay, hsay', hstraight⟩ :=
    say_twice "Evaluating expression: <ast.Call>" "Handling deref Call" f
  rw [evalDeref, exec_bind_ok hsay, exec_bind_ok hsay', derefCall, exec_bind_ok (exec_get f₀),
    hstraight.locals, hslot] at hexec
  obtain ⟨i, f₁, hload, hend⟩ := exec_bind_inv hexec
  obtain ⟨rfl, -⟩ := exec_pure_inv hend
  rfl

theorem assignDeref_adds (hlocals : f.locals = locals) (target : String) {args : List Expr}
    (h : readsThrough locals "deref" args = true) :
    Adds (StoresTo locals target) f (assignDeref target args) := by
  subst hlocals
  unfold assignDeref
  refine Adds.later (say_preserves _) fun _ f₁ htables₁ => ?_
  rw [← htables₁.locals] at h ⊢
  refine Adds.afterOk (evalDeref_code _).straightLine fun out f₂ hexec htables₂ => ?_
  have hsome := evalDeref_isSome h hexec
  cases out with
  | none => cases hsome
  | some i =>
    refine Adds.later (say_preserves _) fun _ f₃ htables₃ => ?_
    exact Adds.first (assign_adds (htables₂.trans htables₃).locals _ _) fun _ => say_preserves _

theorem assignCall_adds (hlocals : f.locals = locals) (target : String) {id : String}
    {args : List Expr}
    (h : (((integerType? id).isSome && (soleLiteral? args).isSome) || (Helper.ofName? id).isSome ||
      readsThrough locals id args) = true) :
    Adds (StoresTo locals target) f (assignCall target id args) := by
  unfold assignCall
  refine Adds.later (say_preserves _) fun _ f₁ htables₁ => ?_
  have hlocals₁ := htables₁.locals.trans hlocals
  split
  · exact Adds.first (assign_adds hlocals₁ _ _) fun _ =>
      Preserves.bind (checkShown_code _).straightLine fun _ => say_preserves _
  · rename_i hliteral
    split
    · refine Adds.later (callPlain_code (fun _ => trivial) _ _).straightLine fun value f₂ htables₂ => ?_
      exact Adds.first (assign_adds (htables₂.locals.trans hlocals₁) _ _) fun _ => say_preserves _
    · rename_i hhelper
      have hnoLiteral : ((integerType? id).isSome && (soleLiteral? args).isSome) = false := by
        cases hid : integerType? id with
        | none => rfl
        | some entry =>
          cases hargs : soleLiteral? args with
          | none => rfl
          | some value => exact (hliteral entry.1 entry.2 value hid hargs).elim
      rw [hnoLiteral, hhelper] at h
      have hderef : readsThrough locals id args = true := by simpa using h
      obtain ⟨rfl, x, slot, rfl, -⟩ := readsThrough_inv hderef
      rw [if_pos ⟨rfl, rfl⟩]
      exact assignDeref_adds hlocals₁ target hderef

theorem assignMethod_adds {maps : Table Operand} (hlocals : f.locals = locals)
    (hmaps : f.workspace.maps = maps) (target : String) {map method : String} (args : List Expr)
    (h : ((maps.get? map).isSome && (Helper.ofName? method).isSome) = true) :
    Adds (StoresTo locals target) f (assignMethod target map method args) := by
  obtain ⟨hmap, hmethod⟩ := Bool.and_eq_true_iff.mp h
  obtain ⟨address, haddress⟩ := Option.isSome_iff_exists.mp hmap
  obtain ⟨helper, hhelper⟩ := Option.isSome_iff_exists.mp hmethod
  unfold assignMethod
  refine .get ?_
  rw [hmaps, haddress, hhelper]
  refine Adds.later (callMethod_code _ _ _).straightLine fun value f₁ htables => ?_
  exact assign_adds (htables.locals.trans hlocals) _ _

theorem assignBinary_adds (hlocals : f.locals = locals) (target : String) (left : Expr)
    (op : BinaryOp) (right : Expr) :
    Adds (StoresTo locals target) f (assignBinary target left op right) := by
  unfold assignBinary
  refine Adds.later showModule_code.straightLine fun _ f₁ htables₁ => ?_
  refine Adds.later (arithOperand_code rfl _).straightLine fun l f₂ htables₂ => ?_
  refine Adds.later (arithOperand_code rfl _).straightLine fun r f₃ htables₃ => ?_
  refine Adds.later (checkShown_code _).straightLine fun _ f₄ htables₄ => ?_
  refine Adds.later (checkShown_code _).straightLine fun _ f₅ htables₅ => ?_
  refine Adds.later (say_preserves _) fun _ f₆ htables₆ => ?_
  have htables := ((((htables₁.trans htables₂).trans htables₃).trans htables₄).trans htables₅).trans
    htables₆
  split
  · refine Adds.later (arith_code _ _ _).straightLine fun value f₇ htables₇ => ?_
    exact assign_adds ((htables.trans htables₇).locals.trans hlocals) _ _
  · exact .throw trivial

/-- A value that is stored leaves a store into the slot of the variable. -/
theorem assignValue_adds {maps : Table Operand} (hlocals : f.locals = locals)
    (hmaps : f.workspace.maps = maps) (target : String) {value : Expr}
    (h : isStored maps locals value = true) :
    Adds (StoresTo locals target) f (assignValue target value) := by
  unfold assignValue
  split
  · exact assignConstant_adds hlocals target h
  · exact assignCall_adds hlocals target h
  · exact assignMethod_adds hlocals hmaps target _ h
  · rw [isStored] at h <;> simp_all
  · rw [isStored] at h <;> simp_all
  · exact assignBinary_adds hlocals target _ _ _
  · rw [isStored] at h <;> simp_all

def isMethod : Expr → Bool
  | .call (.attribute (.call (.name _) _ _) _) _ _ => true
  | _ => false

/-- Reading through what has no slot gives no value and adds nothing. -/
theorem derefCall_none {args : List Expr} (h : readsThrough f.locals "deref" args = false)
    {out : Option Inst} {f' : Frame} (hexec : exec (derefCall args) f = (.ok out, f')) :
    out = none ∧ Straight f f' [] := by
  unfold derefCall at hexec
  split at hexec
  · obtain ⟨⟨⟩, f₁, hsay, hend⟩ := exec_bind_inv hexec
    obtain ⟨rfl, rfl⟩ := exec_pure_inv hend
    exact ⟨rfl, (Silent.say _).straight hsay⟩
  · rename_i x
    rw [exec_bind_ok (exec_get f)] at hexec
    split at hexec
    · rename_i slot hslot
      simp [readsThrough, hslot] at h
    · obtain ⟨⟨⟩, f₁, hsay, hend⟩ := exec_bind_inv hexec
      obtain ⟨rfl, rfl⟩ := exec_pure_inv hend
      exact ⟨rfl, (Silent.say _).straight hsay⟩
    · obtain ⟨⟨⟩, f₁, hsay, hend⟩ := exec_bind_inv hexec
      obtain ⟨rfl, rfl⟩ := exec_pure_inv hend
      exact ⟨rfl, (Silent.say _).straight hsay⟩
  · exact exec_throw_inv hexec
  · obtain ⟨⟨⟩, f₁, hsay, hend⟩ := exec_bind_inv hexec
    obtain ⟨rfl, rfl⟩ := exec_pure_inv hend
    exact ⟨rfl, (Silent.say _).straight hsay⟩

theorem evalDeref_none {args : List Expr} (h : readsThrough f.locals "deref" args = false)
    {out : Option Inst} {f' : Frame} (hexec : exec (evalDeref args) f = (.ok out, f')) :
    out = none ∧ Straight f f' [] := by
  obtain ⟨f₀, hsay, hsay', hstraight⟩ :=
    say_twice "Evaluating expression: <ast.Call>" "Handling deref Call" f
  rw [evalDeref, exec_bind_ok hsay, exec_bind_ok hsay'] at hexec
  rw [← hstraight.locals] at h
  obtain ⟨hnone, hrest⟩ := derefCall_none h hexec
  exact ⟨hnone, hstraight.trans hrest⟩

theorem assignDeref_silent (target : String) {args : List Expr}
    (h : readsThrough f.locals "deref" args = false) : Silent f (assignDeref target args) := by
  unfold assignDeref
  refine Silent.bind (Silent.say _) fun _ f₁ htables => ?_
  rw [← htables.locals] at h
  refine Silent.afterOk (.of_straight fun _ _ hexec => (evalDeref_none h hexec).2) fun out f₂ hexec _ => ?_
  obtain ⟨rfl, -⟩ := evalDeref_none h hexec
  exact Silent.say _

theorem assignCall_silent (target : String) {id : String} {args : List Expr}
    (h : (((integerType? id).isSome && (soleLiteral? args).isSome) || (Helper.ofName? id).isSome ||
      readsThrough f.locals id args) = false) : Silent f (assignCall target id args) := by
  obtain ⟨hbefore, hderef⟩ := Bool.or_eq_false_iff.mp h
  obtain ⟨hliteral, hhelper⟩ := Bool.or_eq_false_iff.mp hbefore
  unfold assignCall
  refine Silent.bind (Silent.say _) fun _ f₁ htables => ?_
  split
  · rename_i hid hargs
    rw [hid, hargs] at hliteral
    cases hliteral
  · split
    · rename_i hsome
      rw [hsome] at hhelper
      cases hhelper
    · split
      · rename_i hboth
        rw [hboth.1, ← htables.locals] at hderef
        exact assignDeref_silent target hderef
      · exact Silent.say _

/-- A value that is not stored adds nothing, unless it may be a method of a map. -/
theorem assignValue_silent {maps : Table Operand} (target : String) {value : Expr}
    (h : isStored maps f.locals value = false) (hmethod : isMethod value = false) :
    Silent f (assignValue target value) := by
  unfold assignValue
  split
  · unfold assignConstant
    rw [isStored, Option.isSome_eq_false_iff, Option.isNone_iff_eq_none] at h
    rw [h]
    exact Silent.say _
  · exact assignCall_silent target h
  · cases hmethod
  · exact Silent.say _
  · exact Silent.say _
  · cases h
  · exact Silent.say _

/-! ### Expressions -/

/-- The expressions that leave a helper call when they stand as a statement. -/
def isCalled : Expr → Bool
  | .call (.name id) args _ =>
    match Helper.ofName? id with
    | some helper => callsPlain helper args
    | none => false
  | .call (.attribute (.call (.name _) _ _) method) _ _ => (Helper.ofName? method).isSome
  | _ => false

/-- The expressions that are evaluated at all. -/
def isEvaluated : Expr → Bool
  | .call (.name id) _ _ => (Helper.ofName? id).isSome || id == "deref"
  | .call (.attribute (.call (.name _) _ _) method) _ _ => (Helper.ofName? method).isSome
  | _ => false

theorem evalPlain_adds {id : String} {args : List Expr} {keywords : List (Option String × Expr)}
    {helper : Helper} (hhelper : Helper.ofName? id = some helper)
    (hcalls : callsPlain helper args = true) :
    Adds IsCall f (eval (.call (.name id) args keywords)) := by
  have hderef : id ≠ "deref" := by
    rintro rfl
    cases hhelper
  rw [eval, if_neg hderef, hhelper, Option.isSome_some, if_pos rfl, helperCall, hhelper]
  exact Adds.later (say_preserves _) fun _ f₁ _ => callPlain_adds f₁ true hcalls

theorem evalMethod_adds {map method : String} {mapArgs args : List Expr}
    {mapKeywords keywords : List (Option String × Expr)} {helper : Helper}
    (hhelper : Helper.ofName? method = some helper) :
    Adds IsCall f
      (eval (.call (.attribute (.call (.name map) mapArgs mapKeywords) method) args keywords)) := by
  rw [eval, hhelper, Option.isSome_some, if_pos rfl, helperCall]
  refine Adds.later (say_preserves _) fun _ f₁ _ => .get ?_
  split
  · rw [hhelper]
    exact callMethod_adds f₁ _ _ _
  · exact .throw trivial

theorem lowerExpr_adds {value : Expr} (h : isCalled value = true) :
    Adds IsCall f (lowerExpr value) := by
  unfold lowerExpr
  refine Adds.later (say_preserves _) fun _ f₁ _ => ?_
  unfold isCalled at h
  split at h
  · split at h
    · rename_i hhelper
      exact Adds.first (evalPlain_adds hhelper h) fun _ => Preserves.pure _
    · cases h
  · obtain ⟨helper, hhelper⟩ := Option.isSome_iff_exists.mp h
    exact Adds.first (evalMethod_adds hhelper) fun _ => Preserves.pure _
  · cases h

theorem unsupported_silent : Silent f unsupported :=
  Silent.bind (Silent.say _) fun _ _ _ => .pure rfl

theorem lowerExpr_silent {value : Expr} (h : isEvaluated value = false) :
    Silent f (lowerExpr value) := by
  unfold lowerExpr
  refine Silent.bind (Silent.say _) fun _ f₁ _ => ?_
  split
  · rename_i func args keywords
    refine Silent.bind ?_ fun _ _ _ => .pure rfl
    unfold eval
    split
    · rename_i hshape
      rw [hshape, isEvaluated, Bool.or_eq_false_iff] at h
      rw [if_neg (by simpa using h.2), h.1, if_neg Bool.false_ne_true]
      exact Silent.bind (Silent.say _) fun _ f₂ _ => unsupported_silent
    · rename_i hshape
      rw [hshape, isEvaluated] at h
      rw [h, if_neg Bool.false_ne_true]
      exact Silent.bind (Silent.say _) fun _ f₂ _ => unsupported_silent
    · exact Silent.bind (Silent.say _) fun _ f₂ _ => unsupported_silent
  · exact Silent.say _

/-- A method that names a helper is called on a map that is known. -/
theorem lowerExpr_map {map method : String} {mapArgs args : List Expr}
    {mapKeywords keywords : List (Option String × Expr)} {f' : Frame}
    (hmethod : (Helper.ofName? method).isSome = true)
    (h : exec (lowerExpr
      (.call (.attribute (.call (.name map) mapArgs mapKeywords) method) args keywords)) f =
        (.ok (), f')) : (f.workspace.maps.get? map).isSome = true := by
  obtain ⟨helper, hhelper⟩ := Option.isSome_iff_exists.mp hmethod
  obtain ⟨f₁, hsay₁, hstraight₁, -⟩ := say_straight "Handling expression: Expr" f
  obtain ⟨f₂, hsay₂, hstraight₂, -⟩ := say_straight "Evaluating expression: <ast.Call>" f₁
  rw [lowerExpr, exec_bind_ok hsay₁] at h
  obtain ⟨value, f₃, heval, -⟩ := exec_bind_inv h
  rw [eval, exec_bind_ok hsay₂, hhelper, Option.isSome_some, if_pos rfl, helperCall,
    exec_bind_ok (exec_get f₂), (hstraight₁.trans hstraight₂).maps] at heval
  cases hmap : f.workspace.maps.get? map with
  | some address => rfl
  | none =>
    rw [hmap] at heval
    exact exec_throw_inv heval

/-- The map of an expression that calls a helper on one. -/
def calledMap? : Expr → Option String
  | .call (.attribute (.call (.name map) _ _) method) _ _ =>
    if (Helper.ofName? method).isSome then some map else none
  | _ => none

theorem calledMap?_known {value : Expr} {map : String} {f' : Frame}
    (hmap : calledMap? value = some map) (h : exec (lowerExpr value) f = (.ok (), f')) :
    (f.workspace.maps.get? map).isSome = true := by
  unfold calledMap? at hmap
  split at hmap
  · split at hmap
    · rename_i hmethod
      obtain rfl := Option.some.inj hmap
      exact lowerExpr_map hmethod h
    · cases hmap
  · cases hmap

/-! ### Statements -/

/-- The statements that have no meaning in a program. -/
def isPassedOver (maps : Table Operand) (locals : Table (Option Slot)) : Stmt → Bool
  | .assign [.name _] value => !isStored maps locals value && !isMethod value
  | .assign .. => true
  | .expr value => !isEvaluated value
  | .augAssign .. | .cond .. | .ret _ => false
  | _ => true

/-- What a statement leaves among the instructions that it owns. -/
structure Translated (maps : Table Operand) (locals : Table (Option Slot)) (s : Stmt)
    (own : List Inst) : Prop where
  assigned : ∀ x value, s = .assign [.name x] value → isStored maps locals value = true →
    ∃ i ∈ own, StoresTo locals x i
  called : ∀ value, s = .expr value → isCalled value = true → ∃ i ∈ own, IsCall i
  known : ∀ value map, s = .expr value → calledMap? value = some map →
    (maps.get? map).isSome = true
  returned : ∀ value, s = .ret value → ∃ name o, own = [⟨name, .ret o⟩]
  branched : ∀ test body orelse, s = .cond test body orelse →
    ∃ i ∈ own, ∃ condition yes no, i.op = .condBranch condition yes no
  rejected : ∀ target op value, s ≠ .augAssign target op value
  passed : isPassedOver maps locals s = true → own = []

theorem Adds.of_straight {P : Inst → Prop} {m : Emit Unit} {f' : Frame} {new : List Inst}
    (h : Adds P f m) (hexec : exec m f = (.ok (), f')) (hstraight : Straight f f' new)
    (hin : f.here < f.fn.blocks.length) : ∃ i ∈ new, P i := by
  obtain ⟨new', hstraight', hadded⟩ := h.ok hexec
  rwa [hstraight.toAppends.unique hstraight'.toAppends hin]

theorem lowerSimple_adds {P : Inst → Prop} {s : Stmt} {m : Emit Unit}
    (hm : lowerSimple s = do say ("Processing statement: " ++ s.kind); m)
    (h : ∀ f₁, SameTables f f₁ → Adds P f₁ m) : Adds P f (lowerSimple s) := by
  rw [hm]
  exact Adds.later (say_preserves _) fun _ f₁ htables => h f₁ htables

theorem lowerSimple_silent {maps : Table Operand} {s : Stmt}
    (h : isPassedOver maps f.locals s = true) : Silent f (lowerSimple s) := by
  unfold lowerSimple
  refine Silent.bind (Silent.say _) fun _ f₁ htables => ?_
  rw [← htables.locals] at h
  split
  · exact lowerExpr_silent (by simpa [isPassedOver] using h)
  · unfold lowerAssign
    split
    · obtain ⟨hstored, hmethod⟩ : isStored maps f₁.locals _ = false ∧ isMethod _ = false := by
        simpa [isPassedOver] using h
      exact assignValue_silent _ hstored hmethod
    · exact Silent.say _
    · exact Silent.say _
  · exact .throw trivial
  · exact .pure rfl

theorem Translated.of_simple {maps : Table Operand} {s : Stmt} {f' : Frame} {new : List Inst}
    (hsimple : s.isSimple = true) (hexec : exec (lowerSimple s) f = (.ok (), f'))
    (hstraight : Straight f f' new) (hin : f.here < f.fn.blocks.length)
    (hmaps : f.workspace.maps = maps) (hlocals : f.locals = locals) :
    Translated maps locals s new where
  assigned := by
    rintro x value rfl hstored
    refine Adds.of_straight (lowerSimple_adds rfl fun f₁ htables => ?_) hexec hstraight hin
    exact assignValue_adds (htables.locals.trans hlocals) (htables.maps.trans hmaps) x hstored
  called := by
    rintro value rfl hcalled
    refine Adds.of_straight (lowerSimple_adds rfl fun f₁ _ => ?_) hexec hstraight hin
    exact lowerExpr_adds hcalled
  known := by
    rintro value map rfl hmap
    rw [lowerSimple] at hexec
    obtain ⟨⟨⟩, f₁, hsay, hlower⟩ := exec_bind_inv hexec
    have hsame := ((Silent.say _).straight hsay).maps
    rw [← hmaps, ← hsame]
    exact calledMap?_known hmap hlower
  returned := by
    rintro value rfl
    cases hsimple
  branched := by
    rintro test body orelse rfl
    cases hsimple
  rejected := by
    rintro target op value rfl
    obtain ⟨⟨⟩, f₁, hsay, hthrow⟩ := exec_bind_inv hexec
    exact exec_throw_inv hthrow
  passed := by
    intro hpassed
    rw [← hlocals] at hpassed
    have hsilent := (lowerSimple_silent hpassed).straight hexec
    exact hstraight.toAppends.unique hsilent.toAppends hin

theorem Translated.of_return {maps : Table Operand} (value : Option Expr) (name : String)
    (o : Operand) : Translated maps locals (.ret value) [⟨name, .ret o⟩] where
  assigned := by simp
  called := by simp
  known := by simp
  returned := fun _ _ => ⟨name, o, rfl⟩
  branched := by simp
  rejected := by simp
  passed := by simp [isPassedOver]

theorem Translated.of_branch {maps : Table Operand} {test : Expr} {g : Frame} {arms : Arms}
    {new : List Inst} (h : Opens test f g arms new) (body orelse : List Stmt) (joins : List Inst) :
    Translated maps locals (.cond test body orelse) (new ++ joins) where
  assigned := by simp
  called := by simp
  known := by simp
  returned := by simp
  branched := by
    intro _ _ _ _
    obtain ⟨code, condition, name, rfl, -⟩ := h.shape
    refine ⟨⟨name, .condBranch condition arms.thenLabel arms.otherwise⟩, ?_, _, _, _, rfl⟩
    simp
  rejected := by simp
  passed := by simp [isPassedOver]

/-- In a suite that is lowered every statement that is met leaves what it has to leave. -/
theorem Lowers.translated {result : Ty} {body : List Stmt} {f f' : Frame}
    {parts : List (Stmt × List Inst)} {maps : Table Operand} (h : Lowers result body f parts f')
    (hin : f.here < f.fn.blocks.length) (hmaps : f.workspace.maps = maps)
    (hlocals : f.locals = locals) : ∀ p ∈ parts, Translated maps locals p.1 p.2 := by
  apply h.forall_parts ?_ Translated.of_return ?_ ⟨hin, hmaps, hlocals⟩
  · exact fun hf hsimple hexec hstraight =>
      .of_simple hsimple hexec hstraight hf.inRange hf.maps hf.locals
  · exact fun _ hopens => .of_branch hopens

/-! ### Functions -/

theorem Grown.holds {f f' : Frame} (h : Grown f f') {i : Inst} (hi : Holds f i) : Holds f' i := by
  obtain ⟨k, b, hk, hmem⟩ := holds_iff_getElem?.mp hi
  obtain ⟨more, hmore⟩ := h.extended k b hk
  exact holds_iff_getElem?.mpr ⟨k, _, hmore, List.mem_append_left _ hmem⟩

/-- The table has the slots that are made for the variables of a program. -/
def IsTableOf (d : Syntax.Function) (result : Ty) (locals : Table (Option Slot)) : Prop :=
  ∃ w f, exec (allocate d.body) (programStart w d result) = (.ok (), f) ∧ f.locals = locals

theorem Prepares.isTableOf {w : Workspace} {d : Syntax.Function} {result : Ty} {f : Frame}
    {slots : List Inst} (h : Prepares d.body (programStart w d result) f slots) :
    IsTableOf d result f.locals := by
  obtain ⟨f₀, hallocate, hstraight⟩ := h.table
  exact ⟨w, f₀, hallocate, hstraight.locals.symm⟩

/-- The slot is made in the first block. -/
def HasSlot (fn : IR.Function) (slot : Slot) : Prop :=
  ∃ entry align, fn.blocks.head? = some entry ∧
    ⟨slot.register, .alloca slot.ty align⟩ ∈ entry.insts

/-- A function accounts for every statement of its program: `parts` lists the statements that are met, in
order and at any depth of branches, each with its own instructions. -/
structure AccountsFor (maps : Table Operand) (d : Syntax.Function) (fn : IR.Function)
    (locals : Table (Option Slot)) (parts : List (Stmt × List Inst)) : Prop where
  table : IsTableOf d fn.result locals
  slots : ∀ x slot, locals.get? x = some (some slot) → HasSlot fn slot
  statements : parts.map Prod.fst = Stmt.reachedAll d.body
  present : ∀ p ∈ parts, ∀ i ∈ p.2, ∃ b ∈ fn.blocks, i ∈ b.insts
  distinct : ((parts.flatMap Prod.snd).map Inst.name).Nodup
  translated : ∀ p ∈ parts, Translated maps locals p.1 p.2
  tested : ∀ b ∈ fn.blocks, ∀ i ∈ b.insts, ∀ condition yes no,
    i.op = .condBranch condition yes no → condition.isSome = true

/-- A function that can be written has a condition for every branch. -/
theorem tested_of_fault? {fn : IR.Function} (h : fn.fault? = none) {b : Block} (hb : b ∈ fn.blocks)
    {i : Inst} (hi : i ∈ b.insts) {condition : Option Operand} {yes no : String}
    (hop : i.op = .condBranch condition yes no) : condition.isSome = true := by
  have hfault := IR.Function.fault?_eq_none_iff.mp h b hb i hi
  rw [hop] at hfault
  cases condition with
  | some o => rfl
  | none => cases hfault

theorem fault?_of_mem_functions {m : IR.Module} (h : m.fault? = none) {fn : IR.Function}
    (hfn : fn ∈ m.functions) : fn.fault? = none := by
  exact (IR.Module.fault?_eq_none_iff.mp h).1 fn (IR.Module.mem_functions.mp hfn)

/-- A source that compiles has a function for each program, in order, and each can be written. -/
theorem source_functions {path : String} {text : List Char} {maps : Table Operand} {out : Text}
    {w : Workspace}
    (h : exec (Compile.source path text) (Compile.start path maps) = (.ok out, w)) :
    ∃ m, Syntax.Module.parse (Lexer.universalNewlines text) = .ok m ∧
      List.Forall₂ (fun d fn => Lowered w.maps d fn ∧ fn.fault? = none)
        m.programs w.module.functions := by
  obtain ⟨m, hparse, hall, hfault⟩ := source_inv h
  refine ⟨m, hparse, List.forall₂_iff_get.mpr ?_⟩
  obtain ⟨hlength, hget⟩ := List.forall₂_iff_get.mp hall
  exact ⟨hlength, fun k hd hfn =>
    ⟨hget k hd hfn, fault?_of_mem_functions hfault (List.get_mem _ _)⟩⟩

theorem Lowered.accountsFor {maps : Table Operand} {d : Syntax.Function} {fn : IR.Function}
    (h : Lowered maps d fn) (hfault : fn.fault? = none) :
    ∃ locals parts, AccountsFor maps d fn locals parts := by
  obtain ⟨w, parts, f, hmaps, rfl, hbuilds⟩ := h.builds
  obtain ⟨f₁, slots, g, hslots, hlowers, hgrown⟩ := hbuilds.stages
  have hin := programStart_inRange w d f.fn.result
  have hin₁ := hslots.inRange hin
  refine ⟨f₁.locals, parts, ?_⟩
  exact {
    table := hslots.isTableOf
    slots := by
      intro x slot hx
      obtain ⟨align, hmem⟩ := hslots.tableMade x slot hx
      have hentry : f₁.fn.blocks[0]? = some f₁.block := by
        rw [← Frame.getElem?_here hin₁, hslots.here]
        rfl
      obtain ⟨more, hmore⟩ := (hlowers.grown.trans hgrown).extended 0 _ hentry
      exact ⟨_, align, by rw [List.head?_eq_getElem?, hmore], List.mem_append_left _ hmem⟩
    statements := hlowers.map_fst_parts
    present := by
      intro p hp i hi
      refine hgrown.holds ((hlowers.holds_iff hin₁).mpr (.inr ?_))
      exact List.mem_flatMap.mpr ⟨p, hp, hi⟩
    distinct := hlowers.ownNames.distinct
    translated := hlowers.translated hin₁ (hslots.maps.trans hmaps) rfl
    tested := by
      intro b hb i hi condition yes no hop
      exact tested_of_fault? hfault hb hi hop }

/-- In every source that compiles, each function accounts for all statements of its program.  A name that is
assigned a supported value gets a store into its slot, a call of a helper leaves a call, a return leaves a
return and a branch leaves a branch on a condition.  A helper is called on a known map only, augmented
assignments are refused, and a statement that is passed over leaves no instruction. -/
theorem source_accountsFor {path : String} {text : List Char} {maps : Table Operand} {out : Text}
    {w : Workspace}
    (h : exec (Compile.source path text) (Compile.start path maps) = (.ok out, w)) :
    ∃ m, Syntax.Module.parse (Lexer.universalNewlines text) = .ok m ∧
      List.Forall₂
        (fun d fn => fn.name = d.name ∧ ∃ locals parts, AccountsFor w.maps d fn locals parts)
        m.programs w.module.functions := by
  obtain ⟨m, hparse, hall, hfault⟩ := source_inv h
  refine ⟨m, hparse, List.forall₂_iff_get.mpr ?_⟩
  obtain ⟨hlength, hget⟩ := List.forall₂_iff_get.mp hall
  refine ⟨hlength, fun k hd hfn => ?_⟩
  have hlowered := hget k hd hfn
  exact ⟨hlowered.name, hlowered.accountsFor (fault?_of_mem_functions hfault (List.get_mem _ _))⟩

/-- Assignments, calls and a branch, with a list that is passed over. -/
def mixedSource : List Char :=
  ("@bpf\ndef f() -> c_int64:\n    x = ktime()\n    if x > 1:\n        print(\"late\")\n" ++
    "        y = x + 2\n    z = [1]\n    return c_int64(0)\n").toList

theorem mixedSource_accountsFor :
    ∃ (out : Text) (w : Workspace) (m : Syntax.Module),
      exec (Compile.source "prog.py" mixedSource) (Compile.start "prog.py" Table.empty) =
        (.ok out, w) ∧
      Syntax.Module.parse (Lexer.universalNewlines mixedSource) = .ok m ∧
      List.Forall₂
        (fun d fn => fn.name = d.name ∧ ∃ locals parts, AccountsFor w.maps d fn locals parts)
        m.programs w.module.functions := by
  obtain ⟨out, w, hsource⟩ := exec_of_isOk
    (m := Compile.source "prog.py" mixedSource)
    (s := Compile.start "prog.py" Table.empty) (by decide +kernel)
  obtain ⟨m, hparse, hall⟩ := source_accountsFor hsource
  exact ⟨out, w, m, hsource, hparse, hall⟩

/-- A variable that is assigned a list. -/
def listSource : List Char :=
  "@bpf\ndef f() -> c_int32:\n    x = [1]\n    return c_int32(0)\n".toList

def assignsName : Stmt → Bool
  | .assign [.name _] _ => true
  | _ => false

/-- The list is neither stored nor refused. -/
theorem listSource_not_stored :
    ∃ (m : Syntax.Module) (out : Text) (w : Workspace),
      Syntax.Module.parse (Lexer.universalNewlines listSource) = .ok m ∧
      (m.programs.any fun d => d.body.any assignsName) = true ∧
      exec (Compile.source "prog.py" listSource) (Compile.start "prog.py" Table.empty) =
        (.ok out, w) ∧
      ∀ fn ∈ w.module.functions, ∀ b ∈ fn.blocks, ∀ i ∈ b.insts, i.op.isStore = false := by
  have hassigns : (Syntax.Module.parse (Lexer.universalNewlines listSource)).toOption.any
      (fun m => m.programs.any fun d => d.body.any assignsName) = true := by
    decide +kernel
  have hrun :
      (exec (Compile.source "prog.py" listSource)
        (Compile.start "prog.py" Table.empty)).1.isOk = true ∧
      ∀ fn ∈ (exec (Compile.source "prog.py" listSource)
        (Compile.start "prog.py" Table.empty)).2.module.functions,
        ∀ b ∈ fn.blocks, ∀ i ∈ b.insts, i.op.isStore = false := by
    decide +kernel
  obtain ⟨out, w, hsource⟩ := exec_of_isOk hrun.1
  rw [hsource] at hrun
  cases hparse : Syntax.Module.parse (Lexer.universalNewlines listSource) with
  | error fault =>
    rw [hparse] at hassigns
    cases hassigns
  | ok m =>
    rw [hparse] at hassigns
    exact ⟨m, out, w, rfl, hassigns, hsource, hrun.2⟩

end BpfCompiler.Lower
