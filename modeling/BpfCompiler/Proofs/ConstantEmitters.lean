import BpfCompiler.Proofs.ConstantRange
import BpfCompiler.Proofs.Effects
import BpfCompiler.Proofs.MapKeys
import BpfCompiler.Proofs.Texts

/-!
# Constants in the code of a statement

For each form of expression and statement, the constants that it writes: literals at the places where they are
taken over, and the sizes of printed texts.  The code of a statement has these constants, and those that it has
beyond them, such as the numbers of kernel functions, fit their types.
-/

namespace BpfCompiler.Lower

open IR Syntax Emit

@[simp] theorem intConstants_address (s : Slot) (os : List Operand) :
    intConstants (s.address :: os) = intConstants os := rfl

variable {α β : Type}

/-! ### What an action delivers -/

/-- The constants of the code of an action, together with those that its result hands on, are the ones that
were written; `Q` is what else is known of the result. -/
def Writes (f : Frame) (m : Emit α) (Q : α → Prop) (out : α → List Operand) (written : List Operand) :
    Prop :=
  Lays f m fun a code => Q a ∧ Delivers written (codeConstants code ++ intConstants (out a))

/-- As `Writes`, for an action whose result is of no interest. -/
abbrev WritesAll (f : Frame) (m : Emit α) (written : List Operand) : Prop :=
  Writes f m (fun _ => True) (fun _ => []) written

/-- As `Writes`, for an action whose result is no constant. -/
abbrev WritesCode (f : Frame) (m : Emit Operand) (written : List Operand) : Prop :=
  Writes f m (fun o => o.isIntConstant = false) (fun _ => []) written

/-- As `WritesCode`, for an action that may have no result. -/
abbrev WritesCall (f : Frame) (m : Emit (Option Operand)) (written : List Operand) : Prop :=
  Writes f m (fun o => intConstants o.toList = []) (fun _ => []) written

namespace Writes

variable {f : Frame} {Q : α → Prop} {Q' : β → Prop} {out : α → List Operand} {out' : β → List Operand}
  {w w' : List Operand}

theorem bind {x : Emit α} {k : α → Emit β} (hx : Writes f x Q out w)
    (hk : ∀ a f₁, SameTables f f₁ → Q a → Writes f₁ (k a) Q' out' (intConstants (out a) ++ w')) :
    Writes f (x >>= k) Q' out' (w ++ w') := by
  refine Lays.afterOk hx fun a f₁ code _ htables ⟨ha, hdelivers⟩ => ?_
  refine Lays.mono (hk a f₁ htables ha) fun b more ⟨hb, hdelivers'⟩ => ⟨hb, ?_⟩
  simpa using hdelivers.followed hdelivers'

/-- The second step has nothing to deliver but what the first hands on. -/
theorem into {x : Emit α} {k : α → Emit β} (hx : Writes f x Q out w)
    (hk : ∀ a f₁, SameTables f f₁ → Q a → Writes f₁ (k a) Q' out' (intConstants (out a))) :
    Writes f (x >>= k) Q' out' w := by
  have h : Writes f (x >>= k) Q' out' (w ++ []) := hx.bind fun a f₁ htables ha => by
    rw [List.append_nil]
    exact hk a f₁ htables ha
  rwa [List.append_nil] at h

/-- The result of the first step carries no constant. -/
theorem after {x : Emit α} {k : α → Emit β} (hx : Writes f x Q (fun _ => []) w)
    (hk : ∀ a f₁, SameTables f f₁ → Q a → Writes f₁ (k a) Q' out' w') :
    Writes f (x >>= k) Q' out' (w ++ w') :=
  hx.bind hk

theorem mono {m : Emit α} (h : Writes f m Q out w) (hw : Delivers w' w) : Writes f m Q out w' :=
  Lays.mono h fun _ _ ⟨ha, hdelivers⟩ => ⟨ha, hw.trans hdelivers⟩

/-- A result that is no constant may be handed on or not. -/
theorem handing {m : Emit α} (h : Writes f m Q (fun _ => []) w) (hout : ∀ a, Q a → intConstants (out a) = []) :
    Writes f m (fun _ => True) out w :=
  Lays.mono h fun a _ ⟨ha, hdelivers⟩ => ⟨trivial, by rwa [hout a ha]⟩

theorem say (line : Text) {k : Emit β} (hk : ∀ f₁, SameTables f f₁ → Writes f₁ k Q' out' w) :
    Writes f (Emit.say line >>= fun _ => k) Q' out' w :=
  Lays.afterOk (Silent.say line) fun _ f₁ code _ htables (hcode : code = []) => hcode ▸ hk f₁ htables

theorem append {op : Op} (hop : op.isTerminator = false) :
    WritesAll f (Emit.append op) (intConstants op.operands) :=
  Lays.append hop fun _ => ⟨trivial, by simpa using Delivers.refl (intConstants op.operands)⟩

/-- An instruction whose result is all that is kept. -/
theorem appended {op : Op} (hop : op.isTerminator = false) {k : Inst → β} (hk : ∀ i, Q' (k i))
    (hout : ∀ i, intConstants (out' (k i)) = []) :
    Writes f (Emit.append op >>= fun i => Pure.pure (k i)) Q' out' (intConstants op.operands) := by
  refine (Writes.append hop).into fun i f₁ _ _ => .pure ⟨hk i, ?_⟩
  rw [hout i]
  exact .refl []

end Writes

/-! ### Operations -/

section Emitters

variable (f : Frame)

theorem alloca_writes (name : String) (ty : Ty) (align : Option Nat) :
    WritesAll f (alloca name ty align) [] := by
  unfold alloca
  refine Lays.afterOk (P := fun _ code => codeConstants code = []) (.of_ok fun i f₁ h => ?_) ?_
  · obtain ⟨register, f₂, hexec, happends, hlocals⟩ := exec_appendNamed name (.alloca ty align) f
    rw [hexec] at h
    obtain rfl : f₂ = f₁ := (Prod.mk.inj h).2
    exact ⟨_, ⟨happends, hlocals, by simp [Op.isTerminator]⟩, rfl⟩
  · intro i f₁ code _ _ hcode
    exact .pure ⟨trivial, by simpa [hcode] using Delivers.refl []⟩

theorem load_writes (slot : Option Slot) : WritesAll f (load slot) [] := by
  unfold load
  split
  · exact Writes.append rfl
  · exact .throw trivial

theorem store_writes (value : Option Operand) (slot : Option Slot) :
    WritesAll f (store value slot) (intConstants value.toList) := by
  unfold store
  split
  · split
    · rename_i s v hagrees
      have hconstants : intConstants (Op.store v s.address).operands = intConstants [v] :=
        (intConstants_append [v] [s.address]).trans (by simp)
      exact hconstants ▸ Writes.appended rfl (fun _ => trivial) fun _ => rfl
    · exact .throw trivial
  · exact .throw trivial

theorem assign_writes (name : String) (value : Option Operand) :
    WritesAll f (assign name value) (intConstants value.toList) := by
  unfold assign
  refine .get ?_
  split
  · exact store_writes f value _
  · exact .throw trivial

theorem cast_writes (kind : Cast) (value : Operand) (target : Ty) :
    Writes f (Emit.cast kind value target) (fun _ => True) (fun o => [o]) (intConstants [value]) := by
  unfold Emit.cast
  split
  · exact .pure ⟨trivial, .refl _⟩
  · exact .appended rfl (fun _ => trivial) fun _ => rfl

theorem arith_writes (op : Arith) (lhs rhs : Operand) :
    WritesCode f (arith op lhs rhs) (intConstants [lhs, rhs]) := by
  unfold arith
  split
  · exact .appended rfl (fun _ => rfl) fun _ => rfl
  · exact .throw trivial

theorem compare_writes (predicate : Predicate) (lhs rhs : Operand) :
    WritesCode f (Emit.compare predicate lhs rhs) (intConstants [lhs, rhs]) :=
  .appended rfl (fun _ => rfl) fun _ => rfl

/-! ### Helper calls -/

/-- The number of the kernel function is the only constant that a call adds to its arguments. -/
theorem callKernel_writes {s : Signature} (hs : s.number < 2 ^ 64) {args written : List Operand}
    (hargs : s.accepts args = true → Delivers written (intConstants args)) :
    WritesCode f (callKernel s args) written := by
  have hnumber : Delivers [] (intConstants [Operand.int Ty.i64 s.number]) :=
    .of_fits (Operand.fits_nat hs)
  unfold callKernel
  refine Writes.after (w := []) ((Writes.append rfl).mono hnumber) fun callee f₁ _ _ => ?_
  split
  · rename_i haccepts
    refine Writes.mono ?_ (hargs haccepts)
    exact .appended rfl (fun _ => rfl) fun _ => rfl
  · exact .throw trivial

/-- An operand for a parameter that is a pointer is no integer. -/
theorem isIntConstant_of_accepts {s : Signature} {params : List Ty} {map : Operand} {args : List Operand}
    (hs : s.params = Ty.bytePtr :: params) (h : s.accepts (map :: args) = true) :
    map.isIntConstant = false := by
  have hagrees : map.ty.agrees Ty.bytePtr = true := by
    simp only [Signature.accepts, hs, List.zip_cons_cons, List.all_cons, Bool.and_eq_true] at h
    exact h.2.1
  cases map with
  | const ty value => cases ty <;> simp_all [Operand.isIntConstant, Operand.ty, Ty.agrees]
  | «local» name ty => rfl
  | global name ty => rfl

theorem callKernel_map_writes {s : Signature} {params : List Ty} (hs : s.number < 2 ^ 64)
    (hparams : s.params = Ty.bytePtr :: params) (map : Operand) (args : List Operand) :
    WritesCode f (callKernel s (map :: args)) (intConstants args) := by
  refine callKernel_writes f hs fun haccepts => ?_
  rw [intConstants_cons (isIntConstant_of_accepts hparams haccepts)]
  exact .refl _

/-- The constant that stands for a key, a value or the flags. -/
def argumentConstants (e : Expr) : List Operand := (e.intLiteral?.map (Operand.const Ty.i64)).toList

theorem argumentSlot_writes (method : KeyMethod) (role : Role) (e : Expr) :
    WritesAll f (argumentSlot method role e) (argumentConstants e) := by
  unfold argumentSlot
  split
  · rename_i id hname
    rw [argumentConstants, intLiteral?_of_name? hname]
    refine .get ?_
    split
    · exact .pure ⟨trivial, .refl []⟩
    · exact .throw trivial
  · rename_i value hname hvalue
    rw [argumentConstants, hvalue]
    split
    · exact (alloca_writes f _ _ _).after fun _ f₁ _ _ => .throw trivial
    · refine (alloca_writes f _ _ _).after fun slot f₁ _ _ => ?_
      exact (store_writes f₁ _ _).after fun _ f₂ _ _ => .pure ⟨trivial, .refl []⟩
  · exact .throw trivial

theorem flagsOperand_writes (flags : Option Expr) :
    Writes f (flagsOperand flags) (fun _ => True) (fun o => [o]) (flags.toList.flatMap argumentConstants) := by
  unfold flagsOperand
  split
  · exact .pure ⟨trivial, .of_fits (Operand.fits_zero 64)⟩
  · rename_i e
    simp only [Option.toList_some, List.flatMap_singleton]
    split
    · rename_i value hvalue
      rw [argumentConstants, hvalue]
      exact .pure ⟨trivial, .refl _⟩
    · rename_i hvalue hname
      rw [argumentConstants, hvalue]
      refine .get ?_
      split
      · exact (load_writes f _).after fun i f₁ _ _ => .pure ⟨trivial, .refl []⟩
      · exact .throw trivial
    · exact .throw trivial

theorem lookupCall_writes (map : Operand) (args : List Expr) :
    WritesCode f (lookupCall map args) (args.flatMap argumentConstants) := by
  unfold lookupCall
  split
  · exact .throw trivial
  · refine (argumentSlot_writes f _ _ _).after fun slot f₁ _ _ => ?_
    split
    · rename_i slot
      exact callKernel_map_writes f₁ (by decide) rfl map [slot.address]
    · exact .throw trivial
  · exact .throw trivial

theorem deleteCall_writes (map : Operand) (args : List Expr) :
    WritesCode f (deleteCall map args) (args.flatMap argumentConstants) := by
  unfold deleteCall
  split
  · refine (argumentSlot_writes f _ _ _).after fun slot f₁ _ _ => ?_
    split
    · rename_i slot
      exact callKernel_map_writes f₁ (by decide) rfl map [slot.address]
    · exact .throw trivial
  · exact .throw trivial

theorem updateWith_writes (map : Operand) (key value : Expr) (flags : Option Expr) :
    WritesCode f (updateWith map key value flags)
      (argumentConstants key ++ (argumentConstants value ++ flags.toList.flatMap argumentConstants)) := by
  unfold updateWith
  refine (argumentSlot_writes f _ _ _).after fun keySlot f₁ _ _ => ?_
  refine (argumentSlot_writes f₁ _ _ _).after fun valueSlot f₂ _ _ => ?_
  refine (flagsOperand_writes f₂ flags).into fun flags f₃ _ _ => ?_
  split
  · rename_i k v
    exact callKernel_map_writes f₃ (by decide) rfl map [k.address, v.address, flags]
  · exact .throw trivial

theorem updateCall_writes (map : Operand) (args : List Expr) :
    WritesCode f (updateCall map args) (args.flatMap argumentConstants) := by
  unfold updateCall
  split
  · simpa using updateWith_writes f map _ _ none
  · simpa using updateWith_writes f map _ _ (some _)
  · exact .throw trivial

theorem ktimeCall_writes : WritesCode f ktimeCall [] :=
  callKernel_writes f (by decide) fun _ => .refl []

theorem pidCall_writes : WritesCode f pidCall [] := by
  have hcall : WritesCode f (callKernel .pidTgid []) [] := callKernel_writes f (by decide) fun _ => .refl []
  refine hcall.after fun both f₁ _ hboth => ?_
  refine (arith_writes f₁ _ _ _).mono ?_
  rw [intConstants_cons hboth]
  exact .of_fits (Operand.fits_nat (n := 0xFFFFFFFF) (by decide))

/-! ### Printing -/

/-- The number of bytes that a printed text is said to have. -/
def sizeOperand (text : Text) : Operand := Operand.int Ty.i32 (text ++ "\n\x00").length

theorem readName_writes (id : String) : WritesCall f (readName id) [] := by
  unfold readName
  refine .get ?_
  split
  · exact (load_writes f _).after fun i f₁ _ _ => .pure ⟨rfl, .refl []⟩
  · exact Writes.say _ fun f₁ _ => .pure ⟨rfl, .refl []⟩

theorem formatGlobal_writes (text : Text) :
    Writes f (formatGlobal text) (fun _ => True) (fun p => [p.1, Operand.int Ty.i32 p.2])
      [sizeOperand text] := by
  refine .of_ok fun global f' h => ?_
  obtain ⟨scope, data, hdata, hscope, rfl, rfl⟩ := formatGlobal_inv h
  exact ⟨[], f.withText_straight _ _, trivial, .refl _⟩

theorem checkShown_writes (o : Operand) : WritesAll f (checkShown o) [] := by
  unfold checkShown
  split
  · exact .throw trivial
  · exact .pure ⟨trivial, .refl []⟩

theorem evalHole_writes (hole : Hole) : WritesCall f (evalHole hole) [] := by
  unfold evalHole
  split
  · exact .say _ fun f₁ _ => readName_writes f₁ _
  · refine (checkShown_writes f _).after fun _ f₁ _ _ => ?_
    exact .say _ fun f₂ _ => .say _ fun f₃ _ => .pure ⟨rfl, .refl []⟩

theorem holeArgument_writes (hole : Hole) :
    Writes f (holeArgument hole) (fun _ => True) (fun o => [o]) [] := by
  have hzero : Delivers [] (intConstants [Operand.int Ty.i64 0]) := .of_fits (Operand.fits_zero 64)
  unfold holeArgument
  refine (evalHole_writes f hole).after fun o f₁ _ ho => ?_
  split
  · rename_i value
    have hvalue : intConstants [value] = [] := ho
    split
    · simpa [hvalue] using cast_writes f₁ .ptrToInt value Ty.i64
    · split
      · simpa [hvalue] using cast_writes f₁ .sext value Ty.i64
      · exact .pure ⟨trivial, by rw [hvalue]; exact .refl []⟩
    · exact .say _ fun f₂ _ => .pure ⟨trivial, hzero⟩
  · exact .say _ fun f₂ _ => .pure ⟨trivial, hzero⟩

theorem mapM_holeArgument_writes (holes : List Hole) :
    Writes f (holes.mapM holeArgument) (fun _ => True) (fun os => os) [] := by
  induction holes generalizing f with
  | nil => exact .pure ⟨trivial, .refl []⟩
  | cons hole holes ih =>
    rw [List.mapM_cons]
    refine (holeArgument_writes f hole).into fun o f₁ _ _ => ?_
    refine Writes.bind (w := []) (ih f₁) fun os f₂ _ _ => .pure ⟨trivial, ?_⟩
    exact intConstants_append [o] os ▸ .swap _ _

theorem printText_writes (text : Text) : WritesAll f (printText text) [sizeOperand text] := by
  unfold printText
  refine (formatGlobal_writes f text).into fun ⟨address, length⟩ f₁ _ _ => ?_
  refine Writes.into (callKernel_writes f₁ (by decide) fun _ => .refl _) fun _ f₂ _ _ => ?_
  exact .pure ⟨trivial, .refl []⟩

theorem forM_printText_writes (texts : List Text) :
    WritesAll f (texts.forM printText) (texts.map sizeOperand) := by
  induction texts generalizing f with
  | nil => exact .pure ⟨trivial, .refl []⟩
  | cons text texts ih => exact (printText_writes f text).after fun _ f₁ _ _ => ih f₁

theorem printParts_writes (parts : List Expr) :
    WritesCode f (printParts parts)
      ((formatParts parts).toOption.toList.map fun p => sizeOperand p.1) := by
  unfold printParts
  refine .lift fun ⟨format, holes⟩ hparts => ?_
  rw [hparts]
  refine (formatGlobal_writes f format).into fun ⟨address, length⟩ f₁ _ _ => ?_
  have hcall : ∀ f₂, WritesCode f₂
      (do
        let values ← (holes.take 3).mapM holeArgument
        callKernel .printk (address :: Operand.int Ty.i32 length :: values))
      (intConstants [address, Operand.int Ty.i32 length]) := by
    intro f₂
    refine Writes.bind (w := []) (mapM_holeArgument_writes f₂ _) fun values f₃ _ _ => ?_
    refine callKernel_writes f₃ (by decide) fun _ => ?_
    exact intConstants_append [address, Operand.int Ty.i32 length] values ▸ .swap _ _
  dsimp only
  split
  · exact .say _ fun f₂ _ => hcall f₂
  · exact hcall f₁

theorem WritesCode.call {f : Frame} {m : Emit Operand} {w : List Operand} (h : WritesCode f m w) :
    WritesCall f (do return some (← m)) w :=
  h.into fun _ _ _ ho => .pure ⟨intConstants_cons ho [], .refl []⟩

theorem printCall_writes (args : List Expr) :
    WritesCall f (printCall args) ((printedTexts args).map sizeOperand) := by
  unfold printCall
  split
  · exact .throw trivial
  · rename_i parts rest
    rw [printedTexts, List.map_map]
    exact (printParts_writes f parts).call
  · rename_i hempty hjoined
    rw [printedTexts]
    · exact (forM_printText_writes f _).into fun _ f₁ _ _ => .pure ⟨rfl, .refl []⟩
    · exact hjoined

/-! ### Dispatch -/

/-- The constants of a plain call: the sizes of the texts that it prints. -/
def plainConstants : Helper → List Expr → List Operand
  | .print, args => (printedTexts args).map sizeOperand
  | _, _ => []

/-- The constants of the call of a method: those that stand for its arguments. -/
def methodConstants : Helper → List Expr → List Operand
  | .lookup, args | .update, args | .delete, args => args.flatMap argumentConstants
  | _, _ => []

theorem callPlain_writes (canPrint : Bool) (helper : Helper) (args : List Expr) :
    WritesCall f (callPlain canPrint helper args) (plainConstants helper args) := by
  unfold callPlain
  cases helper with
  | ktime => exact (ktimeCall_writes f).call
  | pid => exact (pidCall_writes f).call
  | print =>
    dsimp only
    split
    · exact printCall_writes f args
    · exact .throw trivial
  | _ => exact .throw trivial

theorem callMethod_writes (map : Operand) (helper : Helper) (args : List Expr) :
    WritesCall f (callMethod map helper args) (methodConstants helper args) := by
  unfold callMethod
  cases helper with
  | lookup => exact (lookupCall_writes f map args).call
  | update => exact (updateCall_writes f map args).call
  | delete => exact (deleteCall_writes f map args).call
  | ktime => exact (ktimeCall_writes f).call
  | pid => exact (pidCall_writes f).call
  | print => exact .throw trivial

/-- The constants of a call in an expression. -/
def callConstants : Expr → List Operand
  | .call (.name id) args _ => (Helper.ofName? id).toList.flatMap fun helper => plainConstants helper args
  | .call (.attribute (.call (.name _) _ _) method) args _ =>
    (Helper.ofName? method).toList.flatMap fun helper => methodConstants helper args
  | _ => []

theorem callConstants_other {func : Expr} {args : List Expr} {keywords : List (Option String × Expr)}
    (hname : ∀ id, func = .name id → False)
    (hmethod : ∀ map as ks method, func = .attribute (.call (.name map) as ks) method → False) :
    callConstants (.call func args keywords) = [] := by
  rw [callConstants]
  · rintro id _ _ ⟨⟩
    exact hname id rfl
  · rintro map as ks method _ _ ⟨⟩
    exact hmethod map as ks method rfl

theorem helperCall_writes (canPrint : Bool) (e : Expr) :
    WritesCall f (helperCall canPrint e) (callConstants e) := by
  unfold helperCall
  split
  · split
    · rename_i helper hhelper
      simpa [callConstants, hhelper] using callPlain_writes f canPrint helper _
    · exact .throw trivial
  · refine .get ?_
    split
    · split
      · rename_i helper hhelper
        rw [callConstants, hhelper, Option.toList_some, List.flatMap_singleton]
        exact callMethod_writes f _ helper _
      · exact .throw trivial
    · exact .throw trivial
  · exact .throw trivial
  · rename_i func args keywords hname hmethod hattribute
    rw [callConstants_other hname hmethod]
    exact .pure ⟨rfl, .refl []⟩
  · exact .throw trivial

/-! ### Expressions -/

theorem derefCall_writes (args : List Expr) : WritesAll f (derefCall args) [] := by
  unfold derefCall
  split
  · exact .say _ fun _ _ => .pure ⟨trivial, .refl []⟩
  · refine .get ?_
    split
    · exact (load_writes f _).after fun _ _ _ _ => .pure ⟨trivial, .refl []⟩
    · exact Writes.say _ fun _ _ => .pure ⟨trivial, .refl []⟩
    · exact Writes.say _ fun _ _ => .pure ⟨trivial, .refl []⟩
  · exact .throw trivial
  · exact .say _ fun _ _ => .pure ⟨trivial, .refl []⟩

theorem evalDeref_writes (args : List Expr) : WritesAll f (evalDeref args) [] :=
  .say _ fun _ _ => .say _ fun f₂ _ => derefCall_writes f₂ args

theorem unsupported_writes : WritesCall f unsupported [] :=
  .say _ fun _ _ => .pure ⟨rfl, .refl []⟩

/-- The value of a call is no constant. -/
theorem eval_call_writes (func : Expr) (args : List Expr) (keywords : List (Option String × Expr)) :
    WritesCall f (eval (.call func args keywords)) (callConstants (.call func args keywords)) := by
  unfold eval
  split
  · rename_i id args' keywords' hcall
    rw [hcall]
    split
    · rename_i hderef
      rw [hderef]
      exact (evalDeref_writes f _).into fun i _ _ _ => .pure ⟨by cases i <;> rfl, .refl []⟩
    · refine .say _ fun f₁ _ => ?_
      split
      · exact helperCall_writes f₁ _ _
      · rename_i hhelper
        rw [callConstants, Option.not_isSome_iff_eq_none.mp hhelper]
        exact unsupported_writes f₁
  · rename_i map mapArgs mapKeywords method args' keywords' hcall
    rw [hcall]
    refine .say _ fun f₁ _ => ?_
    split
    · exact helperCall_writes f₁ _ _
    · rename_i hhelper
      rw [callConstants, Option.not_isSome_iff_eq_none.mp hhelper]
      exact unsupported_writes f₁
  · rename_i hname hmethod
    rw [callConstants_other (fun id h => hname id _ _ (by rw [h]))
      fun map as ks method h => hmethod map as ks method _ _ (by rw [h])]
    exact .say _ fun f₁ _ => unsupported_writes f₁

/-- The constants of an expression: itself, if it is an integer, or those of a call. -/
def evalConstants : Expr → List Operand
  | .const value _ => if value.isInteger then [.const Ty.i64 value] else []
  | e => callConstants e

theorem eval_writes (e : Expr) :
    Writes f (eval e) (fun _ => True) (fun o => o.toList) (evalConstants e) := by
  cases e with
  | call func args keywords => exact (eval_call_writes f func args keywords).handing fun _ ho => ho
  | name id => exact .say _ fun f₁ _ => (readName_writes f₁ id).handing fun _ ho => ho
  | const value kind =>
    refine .say _ fun f₁ _ => ?_
    change Writes f₁ (evalConstant value) _ _ _
    rw [evalConstants]
    unfold evalConstant
    split
    · exact .pure ⟨trivial, .refl _⟩
    · exact .say _ fun _ _ => .pure ⟨trivial, .refl []⟩
  | _ => exact .say _ fun f₁ _ => (unsupported_writes f₁).handing fun _ ho => ho

/-! ### Conditions -/

theorem zeroOf_fits (ty : Ty) : (zeroOf ty).fits = true := by
  cases ty with
  | int width => exact Operand.fits_zero width
  | _ => rfl

theorem truthOf_fits (b : Bool) : (truthOf b).fits = true := by
  cases b with
  | false => exact Operand.fits_zero 1
  | true => exact Operand.fits_nat (n := 1) (by decide)

theorem isNonzero_writes (id : String) :
    Writes f (isNonzero id) (fun _ => True) (fun o => o.toList) [] := by
  unfold isNonzero
  refine .get ?_
  split
  · refine (load_writes f _).after fun i f₁ _ _ => ?_
    dsimp only
    split
    · exact .pure ⟨trivial, .refl []⟩
    · have hcompare := (compare_writes f₁ .ne i.result (zeroOf i.result.ty)).mono (.of_fits (zeroOf_fits _))
      exact (WritesCode.call hcompare).handing fun _ ho => ho
  · exact Writes.say _ fun _ _ => .pure ⟨trivial, .refl []⟩

/-- Two operands are brought to one type; where that fails, they are still the ones that were given. -/
theorem balance_writes (lhs rhs : Operand) :
    Writes f (balance lhs rhs) (fun _ => True) (fun pair => pair.elim [lhs, rhs] fun p => [p.1, p.2])
      (intConstants [lhs, rhs]) := by
  have hpair : ∀ l r : Operand, intConstants [l, r] = intConstants [l] ++ intConstants [r] :=
    fun l r => intConstants_append [l] [r]
  unfold balance
  split
  · exact .pure ⟨trivial, .refl _⟩
  · split
    · split
      · rw [hpair]
        refine (cast_writes f _ _ _).bind fun l _ _ _ => .pure ⟨trivial, ?_⟩
        exact hpair l rhs ▸ .refl _
      · have hswap : Delivers (intConstants [lhs, rhs]) (intConstants [rhs] ++ intConstants [lhs]) :=
          hpair lhs rhs ▸ .swap _ _
        refine Writes.mono ?_ hswap
        refine (cast_writes f _ _ _).bind fun r _ _ _ => .pure ⟨trivial, ?_⟩
        exact hpair lhs r ▸ .swap _ _
    · exact .pure ⟨trivial, .refl _⟩

/-- A comparison that comes about is one of the two operands. -/
theorem comparison_delivers {op : CompareOp} {lhs rhs o : Operand} {f' : Frame}
    (h : exec (comparison op lhs rhs) f = (.ok (some o), f')) :
    ∃ code, Straight f f' code ∧
      Delivers (intConstants [lhs, rhs]) (codeConstants code ++ intConstants [o]) := by
  unfold comparison at h
  obtain ⟨pair, f₁, hbalance, hrest⟩ := exec_bind_inv h
  obtain ⟨code, hcode, -, hdelivers⟩ := (balance_writes f lhs rhs).ok hbalance
  split at hrest
  · obtain ⟨⟨⟩, f₂, -, hnone⟩ := exec_bind_inv hrest
    cases (exec_pure_inv hnone).1
  · rename_i l r
    split at hrest
    · rename_i predicate hpredicate
      have hcompare : Writes f₁ (do return some (← Emit.compare predicate l r)) (fun _ => True)
          (fun o => o.toList) (intConstants [l, r]) :=
        (WritesCode.call (compare_writes f₁ predicate l r)).handing fun _ ho => ho
      obtain ⟨more, hmore, -, hdelivers'⟩ := hcompare.ok hrest
      refine ⟨code ++ more, hcode.trans hmore, ?_⟩
      rw [codeConstants_append, List.append_assoc]
      exact hdelivers.into hdelivers'
    · obtain ⟨⟨⟩, f₂, -, hnone⟩ := exec_bind_inv hrest
      cases (exec_pure_inv hnone).1

/-- The constants of a test. -/
def testConstants : Expr → List Operand
  | .compare left [(_, right)] => evalConstants left ++ evalConstants right
  | _ => []

theorem condition_delivers {test : Expr} {o : Operand} {f' : Frame}
    (h : exec (condition test) f = (.ok (some o), f')) :
    ∃ code, Straight f f' code ∧
      Delivers (testConstants test) (codeConstants code ++ intConstants [o]) := by
  unfold condition at h
  split at h
  · split at h
    · obtain ⟨heq, rfl⟩ := exec_pure_inv h
      obtain rfl := Option.some.inj heq
      exact ⟨[], Straight.refl f', .of_fits (truthOf_fits _)⟩
    · obtain ⟨⟨⟩, f₂, -, hnone⟩ := exec_bind_inv h
      cases (exec_pure_inv hnone).1
  · obtain ⟨code, hcode, -, hdelivers⟩ := (isNonzero_writes f _).ok h
    exact ⟨code, hcode, hdelivers⟩
  · rename_i left op right
    obtain ⟨lhs, f₁, hleft, hrest⟩ := exec_bind_inv h
    obtain ⟨rhs, f₂, hright, hcompare⟩ := exec_bind_inv hrest
    obtain ⟨first, hfirst, -, hlhs⟩ := (eval_writes f left).ok hleft
    obtain ⟨second, hsecond, -, hrhs⟩ := (eval_writes f₁ right).ok hright
    split at hcompare
    · rename_i l r
      obtain ⟨third, hthird, hdelivers⟩ := comparison_delivers f₂ hcompare
      refine ⟨first ++ second ++ third, (hfirst.trans hsecond).trans hthird, ?_⟩
      have hoperands : Delivers (intConstants [r] ++ intConstants [l])
          (codeConstants third ++ intConstants [o]) :=
        (Delivers.swap _ _).trans (intConstants_append [l] [r] ▸ hdelivers)
      have hboth := hlhs.followed ((Delivers.swap _ _).trans (hrhs.followed hoperands))
      simpa [testConstants] using hboth
    · exact exec_throw_inv hcompare
  · obtain ⟨_, f₁, -, hrest⟩ := exec_bind_inv h
    obtain ⟨⟨⟩, f₂, -, hnone⟩ := exec_bind_inv hrest
    cases (exec_pure_inv hnone).1
  · obtain ⟨⟨⟩, f₂, -, hnone⟩ := exec_bind_inv h
    cases (exec_pure_inv hnone).1

/-! ### Assignments -/

theorem say_writes (line : Text) : WritesAll f (say line) [] := Lays.say ⟨trivial, .refl []⟩

/-- The constant that an operand of an operation is. -/
def operandConstants : Expr → List Operand
  | .const value _ => [.const Ty.i64 value]
  | _ => []

theorem append_load_writes (ty : Ty) {source : Operand} (hsource : source.isIntConstant = false) :
    WritesAll f (append (.load ty source)) [] := by
  have hload : WritesAll f (append (.load ty source)) (intConstants [source]) := .append rfl
  rwa [intConstants_cons hsource] at hload

theorem chase_writes (ty : Ty) {source : Operand} (hsource : source.isIntConstant = false) :
    WritesAll f (chase ty source) [] := by
  induction ty, source using chase.induct generalizing f with
  | case1 t source ih =>
    rw [chase]
    exact (append_load_writes f _ hsource).after fun i f₁ _ _ => ih i f₁ rfl
  | case2 source =>
    rw [chase]
    exact append_load_writes f _ hsource
  | case3 ty source hptr hword =>
    rw [chase]
    · exact (append_load_writes f _ hsource).after fun _ _ _ _ => .throw trivial
    · exact hptr
    · exact hword

theorem arithOperand_writes (fault : Fault) (e : Expr) :
    Writes f (arithOperand fault e) (fun _ => True) (fun p => [p.1]) (operandConstants e) := by
  unfold arithOperand
  split
  · refine .get ?_
    split
    · rename_i slot hslot
      unfold dereference
      split
      · exact (chase_writes f _ rfl).after fun _ _ _ _ => .pure ⟨trivial, .refl []⟩
      · exact .throw trivial
    · exact .throw trivial
  · exact .pure ⟨trivial, .refl _⟩
  · exact .throw trivial

theorem assign_result_writes (target : String) {o : Option Operand} (ho : intConstants o.toList = []) :
    WritesAll f (assign target o) [] :=
  ho ▸ assign_writes f target o

theorem showModule_writes : WritesAll f showModule [] := by
  unfold showModule
  refine .get ?_
  split
  · exact .throw trivial
  · exact say_writes f _

theorem assignBinary_writes (target : String) (left : Expr) (op : BinaryOp) (right : Expr) :
    WritesAll f (assignBinary target left op right) (operandConstants left ++ operandConstants right) := by
  unfold assignBinary
  refine (showModule_writes f).after fun _ f₁ _ _ => ?_
  refine (arithOperand_writes f₁ _ left).bind fun ⟨l, leftText⟩ f₂ _ _ => ?_
  refine Writes.mono ?_ (.swap _ _)
  refine (arithOperand_writes f₂ _ right).bind fun ⟨r, rightText⟩ f₃ _ _ => ?_
  refine (checkShown_writes f₃ l).after fun _ f₄ _ _ => ?_
  refine (checkShown_writes f₄ r).after fun _ f₅ _ _ => .say _ fun f₆ _ => ?_
  split
  · rename_i a _
    have hpair : Delivers (intConstants [r] ++ intConstants [l]) (intConstants [l, r]) :=
      intConstants_append [l] [r] ▸ .swap _ _
    refine ((arith_writes f₆ a l r).mono hpair).into fun o f₇ _ ho => ?_
    exact assign_result_writes f₇ target (intConstants_cons ho [])
  · exact .throw trivial

theorem assignConstant_writes (target : String) (value : Literal) :
    WritesAll f (assignConstant target value) (constantOperand? value).toList := by
  unfold assignConstant
  split
  · rename_i o ho
    have hconstant : intConstants [o] = [o] := by
      cases value <;> cases ho <;> rfl
    rw [ho, Option.toList_some, ← hconstant]
    refine (assign_writes f target (some o)).into fun _ f₁ _ _ => ?_
    exact (checkShown_writes f₁ o).after fun _ f₂ _ _ => say_writes f₂ _
  · rename_i hnone
    rw [hnone]
    exact say_writes f _

theorem assignDeref_writes (target : String) (args : List Expr) :
    WritesAll f (assignDeref target args) [] := by
  unfold assignDeref
  refine .say _ fun f₁ _ => (evalDeref_writes f₁ args).after fun i f₂ _ _ => ?_
  split
  · exact say_writes f₂ _
  · exact .say _ fun f₃ _ => (assign_writes f₃ target (some _)).after fun _ f₄ _ _ => say_writes f₄ _

/-- The constants of an assigned value.  A method of an unknown map is passed over. -/
def valueConstants (maps : Table Operand) : Expr → List Operand
  | .const value _ => (constantOperand? value).toList
  | .call (.name id) args keywords =>
    match integerType? id, soleLiteral? args with
    | some (width, _), some value => [.const (.int width) value]
    | _, _ => callConstants (.call (.name id) args keywords)
  | .call (.attribute (.call (.name map) mapArgs mapKeywords) method) args keywords =>
    if (maps.get? map).isSome then
      callConstants (.call (.attribute (.call (.name map) mapArgs mapKeywords) method) args keywords)
    else []
  | .binary left _ right => operandConstants left ++ operandConstants right
  | _ => []

theorem valueConstants_call {maps : Table Operand} {id : String} {args : List Expr}
    {keywords : List (Option String × Expr)}
    (h : ∀ width name value, integerType? id = some (width, name) → soleLiteral? args = some value → False) :
    valueConstants maps (.call (.name id) args keywords) = callConstants (.call (.name id) args keywords) := by
  rw [valueConstants]
  split
  · rename_i width name value htype hvalue
    exact (h width name value htype hvalue).elim
  · rfl

theorem assignCall_writes (target id : String) (args : List Expr) (keywords : List (Option String × Expr)) :
    WritesAll f (assignCall target id args)
      (valueConstants f.workspace.maps (.call (.name id) args keywords)) := by
  unfold assignCall
  refine .say _ fun f₁ _ => ?_
  split
  · rename_i width name value htype hvalue
    rw [valueConstants, htype, hvalue]
    refine (assign_writes f₁ target (some (.const (.int width) value))).into fun _ f₂ _ _ => ?_
    exact (checkShown_writes f₂ _).after fun _ f₃ _ _ => say_writes f₃ _
  · rename_i hother
    rw [valueConstants_call hother, callConstants]
    split
    · rename_i helper hhelper
      rw [hhelper, Option.toList_some, List.flatMap_singleton]
      refine (callPlain_writes f₁ false helper args).into fun o f₂ _ ho => ?_
      exact (assign_result_writes f₂ target ho).after fun _ f₃ _ _ => say_writes f₃ _
    · rename_i hhelper
      rw [hhelper]
      split
      · exact assignDeref_writes f₁ target args
      · exact say_writes f₁ _

theorem assignMethod_writes (target map method : String) (args : List Expr)
    (mapArgs : List Expr) (mapKeywords keywords : List (Option String × Expr)) :
    WritesAll f (assignMethod target map method args) (valueConstants f.workspace.maps
      (.call (.attribute (.call (.name map) mapArgs mapKeywords) method) args keywords)) := by
  unfold assignMethod
  rw [valueConstants, callConstants]
  refine .get ?_
  split
  · rename_i address helper hmap hhelper
    rw [hmap, hhelper, Option.toList_some, List.flatMap_singleton]
    refine (callMethod_writes f address helper args).into fun o f₁ _ ho => ?_
    exact assign_result_writes f₁ target ho
  · rename_i hother
    have hnone : (if (f.workspace.maps.get? map).isSome then
        (Helper.ofName? method).toList.flatMap fun helper => methodConstants helper args else []) = [] := by
      cases hmap : f.workspace.maps.get? map with
      | none => rfl
      | some address =>
        cases hhelper : Helper.ofName? method with
        | none => rfl
        | some helper => exact (hother address helper hmap hhelper).elim
    rw [hnone]
    exact .pure ⟨trivial, .refl []⟩

theorem assignValue_writes (target : String) (value : Expr) :
    WritesAll f (assignValue target value) (valueConstants f.workspace.maps value) := by
  cases value with
  | const value kind => exact assignConstant_writes f target value
  | binary left op right => exact assignBinary_writes f target left op right
  | call func args keywords =>
    cases func with
    | name id => exact assignCall_writes f target id args keywords
    | «attribute» receiver method =>
      cases receiver with
      | call maker mapArgs mapKeywords =>
        cases maker with
        | name map => exact assignMethod_writes f target map method args mapArgs mapKeywords keywords
        | _ => exact say_writes f _
      | _ => exact say_writes f _
    | _ => exact say_writes f _
  | _ => exact say_writes f _

/-- The constants of an assignment, which only one to a single name has. -/
def assignConstants (maps : Table Operand) : List Expr → Expr → List Operand
  | [.name _], value => valueConstants maps value
  | _, _ => []

theorem lowerAssign_writes (targets : List Expr) (value : Expr) :
    WritesAll f (lowerAssign targets value) (assignConstants f.workspace.maps targets value) := by
  unfold lowerAssign
  split
  · exact assignValue_writes f _ value
  · rename_i target hname
    rw [assignConstants]
    · exact say_writes f _
    · rintro id ⟨⟩
      exact hname id rfl
  · rename_i hname hsingle
    rw [assignConstants]
    · exact say_writes f _
    · exact hname

theorem lowerExpr_writes (value : Expr) : WritesAll f (lowerExpr value) (callConstants value) := by
  unfold lowerExpr
  refine .say _ fun f₁ _ => ?_
  cases value with
  | call func args keywords =>
    exact (eval_call_writes f₁ func args keywords).into fun _ _ _ _ => .pure ⟨trivial, .refl []⟩
  | _ => exact say_writes f₁ _

/-! ### Statements -/

/-- The constants of a statement that is no branch and no return. -/
def simpleConstants (maps : Table Operand) : Stmt → List Operand
  | .assign targets value => assignConstants maps targets value
  | .expr value => callConstants value
  | _ => []

theorem lowerSimple_writes (s : Stmt) :
    WritesAll f (lowerSimple s) (simpleConstants f.workspace.maps s) := by
  unfold lowerSimple
  refine .say _ fun f₁ htables => ?_
  rw [← htables.maps]
  cases s with
  | expr value => exact lowerExpr_writes f₁ value
  | assign targets value => exact lowerAssign_writes f₁ targets value
  | augAssign => exact .throw trivial
  | _ => exact .pure ⟨trivial, .refl []⟩

end Emitters

end BpfCompiler.Lower
