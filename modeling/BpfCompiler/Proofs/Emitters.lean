import BpfCompiler.Proofs.Operands

/-!
# The code of expressions and assignments

Each part of the lowering that makes straight-line code gives instructions whose operands are at hand, of
the types that the instructions ask for.  Operations on slots, helper calls, expressions, conditions and
assignments come in turn.
-/

namespace BpfCompiler.IR.Ty

mutual

theorem agrees_self : ∀ t : Ty, t.agrees t = true
  | .int _ => by simp [agrees]
  | .float | .double | .ptr _ => by simp [agrees]
  | .array n a => by simp [agrees, agrees_self a]
  | .struct fields => by simp [agrees, allAgree_self fields]
  | .func r ps v => by simp [agrees, agrees_self r, allAgree_self ps]

theorem allAgree_self : ∀ ts : List Ty, allAgree ts ts = true
  | [] => by simp [allAgree]
  | t :: rest => by simp [allAgree, agrees_self t, allAgree_self rest]

end

theorem eq_int_of_agrees {m : Nat} {t : Ty} (h : (int m).agrees t = true) : t = .int m := by
  cases t with
  | int n =>
    obtain rfl : m = n := by simpa [agrees] using h
    rfl
  | _ => simp [agrees] at h

end BpfCompiler.IR.Ty

namespace BpfCompiler.Lower

open IR Syntax Emit

variable {f : Frame}

/-! ### Operations -/

theorem checkShown_emits (o : Operand) : Emits f (checkShown o) fun _ _ => True := by
  unfold checkShown
  split
  · exact .throw trivial
  · exact .pure trivial

theorem alloca_emits (name : String) (ty : Ty) (align : Option Nat) :
    Emits f (alloca name ty align) HeldSlot := by
  refine .bind (Emits.appendNamed name rfl (.alloca ty align)) fun i f₁ _ hi => .pure ?_
  have hmem : ⟨i.name, .alloca ty align⟩ ∈ f₁.block.insts := hi.2 ▸ hi.1
  exact .made hmem

theorem load_emits {slot : Option Slot} (hslot : ∀ s ∈ slot, HeldSlot s f) :
    Emits f (load slot) fun i f' => ∃ ty, Yields i ty f' := by
  unfold load
  split
  · rename_i s
    exact (Emits.append rfl rfl (.load (hslot s rfl).address rfl)).weaken fun i f' hi => ⟨s.ty, hi⟩
  · exact .throw trivial

theorem store_emits {value : Option Operand} {slot : Option Slot} (hvalue : ∀ o ∈ value, Held o f)
    (hslot : ∀ s ∈ slot, HeldSlot s f) : Emits f (store value slot) fun _ _ => True := by
  unfold store
  split
  · rename_i s v
    split
    · rename_i hagree
      have hformed : Formed f f.block.insts (.store v s.address) :=
        .store (hvalue v rfl) (hslot s rfl) hagree
      exact .bind (Emits.appendNamed "" rfl hformed) fun _ _ _ _ => .pure trivial
    · exact .throw trivial
  · exact .throw trivial

theorem assign_emits (name : String) {value : Option Operand} (hvalue : ∀ o ∈ value, Held o f) :
    Emits f (assign name value) fun _ _ => True := by
  refine .get ?_
  split
  · rename_i slot hx
    exact store_emits hvalue (heldSlot_local hx)
  · exact .throw trivial

theorem sext_emits {value : Operand} {m n : Nat} (hvalue : Held value f) (hty : value.ty = .int m)
    (hle : m ≤ n) :
    Emits f (Emit.cast .sext value (.int n)) fun o f' => Held o f' ∧ o.ty = .int n := by
  unfold Emit.cast
  split
  · rename_i hagree
    rw [hty] at hagree
    exact .pure ⟨hvalue, by rw [hty, Ty.eq_int_of_agrees hagree]⟩
  · rename_i hagree
    have hne : m ≠ n := by
      rintro rfl
      exact hagree (by rw [hty, Ty.agrees_self])
    have hlt : m < n := by omega
    exact .bind (Emits.append rfl rfl (.sext hvalue hty hlt)) fun i f' _ hi =>
      .pure ⟨hi.held, hi.ty_result⟩

theorem ptrToInt_emits {value : Operand} {ty : Ty} (hvalue : Held value f) (hty : value.ty = .ptr ty) :
    Emits f (Emit.cast .ptrToInt value Ty.i64) fun o f' => Held o f' ∧ o.ty = Ty.i64 := by
  unfold Emit.cast
  split
  · rename_i hagree
    rw [hty] at hagree
    simp [Ty.agrees] at hagree
  · exact .bind (Emits.append rfl rfl (.ptrToInt hvalue hty)) fun i f' _ hi =>
      .pure ⟨hi.held, hi.ty_result⟩

theorem arith_emits (op : Arith) {lhs rhs : Operand} (hlhs : Held lhs f) (hrhs : Held rhs f)
    (hl : lhs.ty = Ty.i64) (hr : rhs.ty = Ty.i64) :
    Emits f (arith op lhs rhs) fun o f' => Held o f' ∧ o.ty = Ty.i64 := by
  unfold arith
  split
  · have hresult : (Op.arith op lhs rhs).result? = some Ty.i64 := congrArg some hl
    exact .bind (Emits.append rfl hresult (.arith hlhs hrhs hl hr)) fun i f' _ hi =>
      .pure ⟨hi.held, hi.ty_result⟩
  · exact .throw trivial

theorem compare_emits (predicate : Predicate) {lhs rhs : Operand} (hlhs : Held lhs f)
    (hrhs : Held rhs f) (hagree : lhs.ty.agrees rhs.ty = true) :
    Emits f (Emit.compare predicate lhs rhs) fun o f' => Held o f' ∧ o.ty = Ty.i1 :=
  .bind (Emits.append rfl rfl (.icmp hlhs hrhs hagree)) fun _ _ _ hi => .pure ⟨hi.held, hi.ty_result⟩

/-! ### Helper calls -/

theorem callKernel_emits {s : Signature} {args : List Operand} (hs : s ∈ Signature.all)
    (hcount : s.variadic = false → args.length = s.params.length) (hargs : ∀ o ∈ args, Held o f) :
    Emits f (callKernel s args) fun o f' => Held o f' ∧ o.ty = s.result := by
  refine .bind (Emits.appendNamed "" rfl (.helper s)) fun callee f₁ hfollows hcallee => ?_
  split
  · rename_i haccepts
    have hformed : Formed f₁ f₁.block.insts
        (.call s.variadic s.result s.params s.variadic callee.result args) :=
      .call hcallee.1 hcallee.2 (fun o ho => hfollows.held (hargs o ho)) ⟨hs, hcount, haccepts⟩
    exact .bind (Emits.append rfl rfl hformed) fun i f' _ hi => .pure ⟨hi.held, hi.ty_result⟩
  · exact .throw trivial

theorem argumentSlot_emits (method : KeyMethod) (role : Role) (e : Expr) :
    Emits f (argumentSlot method role e) fun slot f' => ∀ s ∈ slot, HeldSlot s f' := by
  unfold argumentSlot
  split
  · refine .get ?_
    split
    · rename_i slot hx
      exact .pure (heldSlot_local hx)
    · exact .throw trivial
  · split
    · exact .bind (alloca_emits _ _ _) fun _ _ _ _ => .throw trivial
    · refine .bind (alloca_emits _ _ _) fun slot f₁ _ hslot => ?_
      refine .bind (store_emits (by simp [held_const]) (by simpa using hslot)) fun _ f₂ hfollows _ => ?_
      exact .pure (by simpa using hfollows.heldSlot hslot)
  · exact .throw trivial

theorem flagsOperand_emits (flags : Option Expr) : Emits f (flagsOperand flags) Held := by
  unfold flagsOperand
  split
  · exact .pure (held_const _ _ _)
  · split
    · exact .pure (held_const _ _ _)
    · refine .get ?_
      split
      · rename_i slot hx
        refine .bind (load_emits (heldSlot_local hx)) fun i f' _ hi => .pure ?_
        obtain ⟨ty, hi⟩ := hi
        exact hi.held
      · exact .throw trivial
    · exact .throw trivial

theorem lookupCall_emits {map : Operand} (hmap : Held map f) (args : List Expr) :
    Emits f (lookupCall map args) Held := by
  unfold lookupCall
  split
  · exact .throw trivial
  · refine .bind (argumentSlot_emits _ _ _) fun slot f₁ hfollows hslot => ?_
    split
    · rename_i key
      refine (callKernel_emits (by simp [Signature.all]) (fun _ => rfl) ?_).weaken fun _ _ h => h.1
      simp [hfollows.held hmap, (hslot key rfl).address]
    · exact .throw trivial
  · exact .throw trivial

theorem deleteCall_emits {map : Operand} (hmap : Held map f) (args : List Expr) :
    Emits f (deleteCall map args) Held := by
  unfold deleteCall
  split
  · refine .bind (argumentSlot_emits _ _ _) fun slot f₁ hfollows hslot => ?_
    split
    · rename_i key
      refine (callKernel_emits (by simp [Signature.all]) (fun _ => rfl) ?_).weaken fun _ _ h => h.1
      simp [hfollows.held hmap, (hslot key rfl).address]
    · exact .throw trivial
  · exact .throw trivial

theorem updateWith_emits {map : Operand} (hmap : Held map f) (key value : Expr)
    (flags : Option Expr) : Emits f (updateWith map key value flags) Held := by
  refine .bind (argumentSlot_emits _ _ _) fun keySlot f₁ hfollows₁ hkey => ?_
  refine .bind (argumentSlot_emits _ _ _) fun valueSlot f₂ hfollows₂ hvalue => ?_
  refine .bind (flagsOperand_emits _) fun flags f₃ hfollows₃ hflags => ?_
  split
  · rename_i k v
    have hmap₃ := hfollows₃.held (hfollows₂.held (hfollows₁.held hmap))
    have hkey₃ := hfollows₃.held (hfollows₂.held (hkey k rfl).address)
    have hvalue₃ := hfollows₃.held (hvalue v rfl).address
    refine (callKernel_emits (by simp [Signature.all]) (fun _ => rfl) ?_).weaken fun _ _ h => h.1
    simp [hmap₃, hkey₃, hvalue₃, hflags]
  · exact .throw trivial

theorem updateCall_emits {map : Operand} (hmap : Held map f) (args : List Expr) :
    Emits f (updateCall map args) Held := by
  unfold updateCall
  split
  · exact updateWith_emits hmap _ _ _
  · exact updateWith_emits hmap _ _ _
  · exact .throw trivial

theorem ktimeCall_emits : Emits f ktimeCall Held :=
  (callKernel_emits (by simp [Signature.all]) (fun _ => rfl) (by simp)).weaken fun _ _ h => h.1

theorem pidCall_emits : Emits f pidCall Held :=
  .bind (callKernel_emits (by simp [Signature.all]) (fun _ => rfl) (by simp)) fun both f₁ _ hboth =>
    (arith_emits .and hboth.1 (held_const _ _ _) hboth.2 rfl).weaken fun _ _ h => h.1

theorem readName_emits (id : String) :
    Emits f (readName id) fun value f' => ∀ o ∈ value, Held o f' := by
  refine .get ?_
  split
  · rename_i slot hx
    refine .bind (load_emits (heldSlot_local hx)) fun i f' _ hi => .pure ?_
    obtain ⟨ty, hi⟩ := hi
    simpa using hi.held
  · exact .say_then fun _ _ => .pure (by simp)

/-! ### Printing -/

theorem formatGlobal_emits (text : Text) :
    Emits f (formatGlobal text) fun global f' => Held global.1 f' := by
  refine fun hf => ⟨fun global f' hexec => ?_, fun _ _ _ => trivial⟩
  obtain ⟨scope, data, -, -, rfl, rfl⟩ := formatGlobal_inv hexec
  refine ⟨⟨hf.inRange, [], f.withText_straight scope _, trivial⟩, .text ?_⟩
  exact List.mem_append_right _ (List.mem_singleton_self _)

theorem evalHole_emits (hole : Hole) :
    Emits f (evalHole hole) fun value f' => ∀ o ∈ value, Held o f' := by
  unfold evalHole
  split
  · exact .say_then fun _ _ => readName_emits _
  · exact .bind (checkShown_emits _) fun _ _ _ _ => .say_then fun _ _ => .say_then fun _ _ =>
      .pure (by simp)

theorem holeArgument_emits (hole : Hole) : Emits f (holeArgument hole) Held := by
  refine .bind (evalHole_emits hole) fun value f₁ _ hvalue => ?_
  split
  · rename_i o
    have ho : Held o f₁ := hvalue o rfl
    split
    · rename_i hty
      exact (ptrToInt_emits ho hty).weaken fun _ _ h => h.1
    · rename_i width hty
      split
      · rename_i hlt
        exact (sext_emits ho hty (Nat.le_of_lt hlt)).weaken fun _ _ h => h.1
      · exact .pure ho
    · exact .say_then fun _ _ => .pure (held_const _ _ _)
  · exact .say_then fun _ _ => .pure (held_const _ _ _)

/-- Operands that are made one after the other are all at hand in the end. -/
theorem mapM_emits {α : Type} {step : α → Emit Operand} (hstep : ∀ a f₁, Emits f₁ (step a) Held)
    (items : List α) : Emits f (items.mapM step) fun values f' => ∀ o ∈ values, Held o f' := by
  induction items generalizing f with
  | nil =>
    rw [List.mapM_nil]
    exact .pure (by simp)
  | cons a rest ih =>
    rw [List.mapM_cons]
    refine .bind (hstep a f) fun o f₁ _ ho => .bind ih fun os f₂ hfollows hos => .pure ?_
    simpa using ⟨hfollows.held ho, hos⟩

theorem printParts_emits (parts : List Expr) : Emits f (printParts parts) Held := by
  refine .lift (fun ⟨format, holes⟩ _ => ?_) fun _ _ => trivial
  refine .bind (formatGlobal_emits format) fun ⟨address, length⟩ f₁ _ haddress => ?_
  have hcall : ∀ f₂, Follows f₁ f₂ → Emits f₂
      (do
        let values ← (holes.take 3).mapM holeArgument
        callKernel .printk (address :: Operand.int Ty.i32 length :: values)) Held := by
    intro f₂ hfollows₂
    have hholes := mapM_emits (f := f₂) (fun hole _ => holeArgument_emits hole) (holes.take 3)
    refine .bind hholes fun values f₃ hfollows₃ hvalues => ?_
    have haddress₃ := hfollows₃.held (hfollows₂.held haddress)
    refine (callKernel_emits (by simp [Signature.all]) (by simp [Signature.printk]) ?_).weaken
      fun _ _ h => h.1
    simpa [haddress₃, Operand.int, held_const] using hvalues
  dsimp only
  split
  · exact .say_then hcall
  · exact fun hf => hcall f₁ hf hf

theorem printText_emits (text : Text) : Emits f (printText text) fun _ _ => True := by
  refine .bind (formatGlobal_emits text) fun global f₁ _ hglobal => ?_
  refine .bind (callKernel_emits (by simp [Signature.all]) (fun _ => rfl) ?_) fun _ _ _ _ =>
    .pure trivial
  simp [hglobal, Operand.int, held_const]

theorem forM_emits {α : Type} {step : α → Emit Unit}
    (hstep : ∀ a f₁, Emits f₁ (step a) fun _ _ => True) (items : List α) :
    Emits f (items.forM step) fun _ _ => True := by
  induction items generalizing f with
  | nil => exact .pure trivial
  | cons a rest ih => exact .bind (hstep a f) fun _ _ _ _ => ih

theorem printCall_emits (args : List Expr) :
    Emits f (printCall args) fun value f' => ∀ o ∈ value, Held o f' := by
  unfold printCall
  split
  · exact .throw trivial
  · exact .bind (printParts_emits _) fun o f' _ ho => .pure (by simpa using ho)
  · exact .bind (forM_emits (fun text _ => printText_emits text) _) fun _ _ _ _ => .pure (by simp)

/-! ### Dispatch -/

/-- A result that is at hand is so as an optional one. -/
theorem Emits.some {m : Emit Operand} (h : Emits f m Held) :
    Emits f (do return some (← m)) fun value f' => ∀ o ∈ value, Held o f' :=
  .bind h fun o f' _ ho => .pure (by simpa using ho)

theorem callPlain_emits (canPrint : Bool) (helper : Helper) (args : List Expr) :
    Emits f (callPlain canPrint helper args) fun value f' => ∀ o ∈ value, Held o f' := by
  cases helper with
  | ktime => exact ktimeCall_emits.some
  | pid => exact pidCall_emits.some
  | print =>
    cases canPrint with
    | true => exact printCall_emits args
    | false => exact .throw trivial
  | lookup | update | delete => exact .throw trivial

theorem callMethod_emits {map : Operand} (hmap : Held map f) (helper : Helper) (args : List Expr) :
    Emits f (callMethod map helper args) fun value f' => ∀ o ∈ value, Held o f' := by
  cases helper with
  | lookup => exact (lookupCall_emits hmap args).some
  | update => exact (updateCall_emits hmap args).some
  | delete => exact (deleteCall_emits hmap args).some
  | ktime => exact ktimeCall_emits.some
  | pid => exact pidCall_emits.some
  | print => exact .throw trivial

theorem helperCall_emits (canPrint : Bool) (e : Expr) :
    Emits f (helperCall canPrint e) fun value f' => ∀ o ∈ value, Held o f' := by
  unfold helperCall
  split
  · split
    · exact callPlain_emits _ _ _
    · exact .throw trivial
  · refine .get ?_
    split
    · rename_i address hmap
      split
      · exact callMethod_emits (.map hmap) _ _
      · exact .throw trivial
    · exact .throw trivial
  · exact .throw trivial
  · exact .pure (by simp)
  · exact .throw trivial

/-! ### Expressions and conditions -/

theorem derefCall_emits (args : List Expr) :
    Emits f (derefCall args) fun out f' => ∀ i ∈ out, ∃ ty, Yields i ty f' := by
  unfold derefCall
  split
  · exact .say_then fun _ _ => .pure (by simp)
  · refine .get ?_
    split
    · rename_i slot hx
      exact .bind (load_emits (heldSlot_local hx)) fun i f' _ hi => .pure (by simpa using hi)
    · exact .say_then fun _ _ => .pure (by simp)
    · exact .say_then fun _ _ => .pure (by simp)
  · exact .throw trivial
  · exact .say_then fun _ _ => .pure (by simp)

theorem evalDeref_emits (args : List Expr) :
    Emits f (evalDeref args) fun out f' => ∀ i ∈ out, ∃ ty, Yields i ty f' :=
  .say_then fun _ _ => .say_then fun _ _ => derefCall_emits args

theorem unsupported_emits : Emits f unsupported fun value f' => ∀ o ∈ value, Held o f' :=
  .say_then fun _ _ => .pure (by simp)

theorem evalConstant_emits (value : Literal) :
    Emits f (evalConstant value) fun value f' => ∀ o ∈ value, Held o f' := by
  unfold evalConstant
  split
  · exact .pure (by simp [held_const])
  · exact .say_then fun _ _ => .pure (by simp)

theorem eval_emits (e : Expr) : Emits f (eval e) fun value f' => ∀ o ∈ value, Held o f' := by
  unfold eval
  split
  · split
    · refine .bind (evalDeref_emits _) fun out f' _ hout => .pure fun o ho => ?_
      obtain ⟨i, hi, rfl⟩ := Option.map_eq_some_iff.mp ho
      obtain ⟨ty, hyields⟩ := hout i hi
      exact hyields.held
    · refine .say_then fun _ _ => ?_
      split
      · exact helperCall_emits _ _
      · exact unsupported_emits
  · refine .say_then fun _ _ => ?_
    split
    · exact helperCall_emits _ _
    · exact unsupported_emits
  · refine .say_then fun _ _ => ?_
    split
    · exact readName_emits _
    · exact evalConstant_emits _
    · exact unsupported_emits

/-- The operand of a branch is a truth value at hand. -/
def HeldTruth (value : Option Operand) (f : Frame) : Prop :=
  ∀ o ∈ value, Held o f ∧ o.ty = Ty.i1

theorem zeroOf_ty (ty : Ty) : (zeroOf ty).ty = ty := by
  unfold zeroOf
  split <;> rfl

theorem held_zeroOf (ty : Ty) : Held (zeroOf ty) f := by
  unfold zeroOf
  split <;> exact held_const _ _ _

theorem isNonzero_emits (id : String) : Emits f (isNonzero id) HeldTruth := by
  refine .get ?_
  split
  · rename_i slot hx
    refine .bind (load_emits (heldSlot_local hx)) fun i f₁ _ hi => ?_
    obtain ⟨ty, hi⟩ := hi
    dsimp only
    split
    · rename_i htruth
      exact .pure (by simpa [HeldTruth] using ⟨hi.held, htruth⟩)
    · have hagree : i.result.ty.agrees (zeroOf i.result.ty).ty = true := by
        rw [zeroOf_ty, Ty.agrees_self]
      exact .bind (compare_emits _ hi.held (held_zeroOf _) hagree) fun o f' _ ho =>
        .pure (by simpa [HeldTruth] using ho)
  · exact .say_then fun _ _ => .pure (by simp [HeldTruth])

theorem balance_emits {lhs rhs : Operand} (hlhs : Held lhs f) (hrhs : Held rhs f) :
    Emits f (balance lhs rhs) fun pair f' => ∀ l r, pair = some (l, r) →
      Held l f' ∧ Held r f' ∧ l.ty.agrees r.ty = true := by
  unfold balance
  split
  · rename_i hagree
    refine .pure ?_
    rintro l r ⟨⟩
    exact ⟨hlhs, hrhs, hagree⟩
  · rename_i hdiffer
    split
    · rename_i m n hm hn
      split
      · rename_i hlt
        refine .bind (sext_emits hlhs hm (Nat.le_of_lt hlt)) fun o f' hfollows ho => .pure ?_
        rintro l r ⟨⟩
        exact ⟨ho.1, hfollows.held hrhs, by rw [ho.2, hn, Ty.agrees_self]⟩
      · rename_i hnlt
        refine .bind (sext_emits hrhs hn (Nat.le_of_not_lt hnlt)) fun o f' hfollows ho => .pure ?_
        rintro l r ⟨⟩
        exact ⟨hfollows.held hlhs, ho.1, by rw [ho.2, hm, Ty.agrees_self]⟩
    · exact .pure (by simp)

theorem comparison_emits (op : CompareOp) {lhs rhs : Operand} (hlhs : Held lhs f)
    (hrhs : Held rhs f) : Emits f (comparison op lhs rhs) HeldTruth := by
  refine .bind (balance_emits hlhs hrhs) fun pair f₁ _ hpair => ?_
  split
  · exact .say_then fun _ _ => .pure (by simp [HeldTruth])
  · rename_i l r
    obtain ⟨hl, hr, hagree⟩ := hpair l r rfl
    split
    · exact .bind (compare_emits _ hl hr hagree) fun o f' _ ho =>
        .pure (by simpa [HeldTruth] using ho)
    · exact .say_then fun _ _ => .pure (by simp [HeldTruth])

theorem condition_emits (test : Expr) : Emits f (condition test) HeldTruth := by
  unfold condition
  split
  · split
    · exact .pure (by simp [HeldTruth, truthOf, Operand.int, held_const, Operand.ty])
    · exact .say_then fun _ _ => .pure (by simp [HeldTruth])
  · exact isNonzero_emits _
  · refine .bind (eval_emits _) fun lhs f₁ _ hlhs =>
      .bind (eval_emits _) fun rhs f₂ hfollows hrhs => ?_
    split
    · rename_i l r
      exact comparison_emits _ (hfollows.held (hlhs l rfl)) (hrhs r rfl)
    · exact .throw trivial
  · exact .bind (eval_emits _) fun _ _ _ _ => .say_then fun _ _ => .pure (by simp [HeldTruth])
  · exact .say_then fun _ _ => .pure (by simp [HeldTruth])

/-! ### Assignments -/

theorem chase_emits {ty : Ty} {source : Operand} (hsource : Held source f)
    (hty : source.ty = .ptr ty) : Emits f (chase ty source) fun i f' => Yields i Ty.i64 f' := by
  induction ty, source using chase.induct generalizing f with
  | case1 t source ih =>
    rw [chase]
    exact .bind (Emits.append rfl rfl (.load hsource hty)) fun i f₁ _ hi => ih i hi.held hi.ty_result
  | case2 source =>
    rw [chase]
    exact .append rfl rfl (.load hsource hty)
  | case3 ty source hptr hword =>
    rw [chase]
    · exact .bind (Emits.append rfl rfl (.load hsource hty)) fun _ _ _ _ => .throw trivial
    · exact hptr
    · exact hword

theorem dereference_emits {slot : Option Slot} (hslot : ∀ s ∈ slot, HeldSlot s f) :
    Emits f (dereference slot) fun i f' => Yields i Ty.i64 f' := by
  unfold dereference
  split
  · rename_i s
    exact chase_emits (hslot s rfl).address rfl
  · exact .throw trivial

theorem arithOperand_emits (fault : Fault) (e : Expr) :
    Emits f (arithOperand fault e) fun out f' => Held out.1 f' ∧ out.1.ty = Ty.i64 := by
  unfold arithOperand
  split
  · refine .get ?_
    split
    · rename_i slot hx
      exact .bind (dereference_emits (heldSlot_local hx)) fun i f' _ hi => .pure ⟨hi.held, hi.ty_result⟩
    · exact .throw trivial
  · exact .pure ⟨held_const _ _ _, rfl⟩
  · exact .throw trivial

theorem showModule_emits : Emits f showModule fun _ _ => True := by
  refine .get ?_
  split
  · exact .throw trivial
  · exact .say _

theorem assignBinary_emits (target : String) (left : Expr) (op : BinaryOp) (right : Expr) :
    Emits f (assignBinary target left op right) fun _ _ => True := by
  refine .bind showModule_emits fun _ f₁ _ _ => ?_
  refine .bind (arithOperand_emits _ left) fun ⟨l, leftText⟩ f₂ _ hl => ?_
  refine .bind (arithOperand_emits _ right) fun ⟨r, rightText⟩ f₃ hfollows₃ hr => ?_
  refine .bind (checkShown_emits l) fun _ f₄ hfollows₄ _ => ?_
  refine .bind (checkShown_emits r) fun _ f₅ hfollows₅ _ => ?_
  refine .say_then fun f₆ hfollows₆ => ?_
  have hlater : ∀ {o : Operand}, Held o f₃ → Held o f₆ := fun ho =>
    hfollows₆.held (hfollows₅.held (hfollows₄.held ho))
  split
  · refine .bind (arith_emits _ (hlater (hfollows₃.held hl.1)) (hlater hr.1) hl.2 hr.2)
      fun o f₇ _ ho => ?_
    exact assign_emits target (by simpa using ho.1)
  · exact .throw trivial

theorem assignConstant_emits (target : String) (value : Literal) :
    Emits f (assignConstant target value) fun _ _ => True := by
  unfold assignConstant
  split
  · rename_i o hconstant
    have ho : Held o f := by
      unfold constantOperand? at hconstant
      split at hconstant
      · obtain rfl := Option.some.inj hconstant
        exact held_const _ _ f
      · obtain rfl := Option.some.inj hconstant
        exact held_const _ _ f
      · cases hconstant
    exact .bind (assign_emits target (by simpa using ho)) fun _ _ _ _ =>
      .bind (checkShown_emits _) fun _ _ _ _ => .say _
  · exact .say _

theorem assignDeref_emits (target : String) (args : List Expr) :
    Emits f (assignDeref target args) fun _ _ => True := by
  refine .say_then fun f₁ _ => .bind (evalDeref_emits args) fun out f₂ _ hout => ?_
  split
  · exact .say _
  · rename_i i
    obtain ⟨ty, hi⟩ := hout i rfl
    refine .say_then fun f₃ hfollows => ?_
    exact .bind (assign_emits target (by simpa using hfollows.held hi.held)) fun _ _ _ _ => .say _

theorem assignCall_emits (target id : String) (args : List Expr) :
    Emits f (assignCall target id args) fun _ _ => True := by
  refine .say_then fun f₁ _ => ?_
  split
  · exact .bind (assign_emits target (by simp [held_const])) fun _ _ _ _ =>
      .bind (checkShown_emits _) fun _ _ _ _ => .say _
  · split
    · exact .bind (callPlain_emits _ _ _) fun value f₂ _ hvalue =>
        .bind (assign_emits target hvalue) fun _ _ _ _ => .say _
    · split
      · exact assignDeref_emits _ _
      · exact .say _

theorem assignMethod_emits (target map method : String) (args : List Expr) :
    Emits f (assignMethod target map method args) fun _ _ => True := by
  refine .get ?_
  split
  · rename_i address helper hmap hhelper
    exact .bind (callMethod_emits (.map hmap) _ _) fun value f₁ _ hvalue => assign_emits target hvalue
  · exact .pure trivial

theorem assignValue_emits (target : String) (value : Expr) :
    Emits f (assignValue target value) fun _ _ => True := by
  unfold assignValue
  split
  · exact assignConstant_emits _ _
  · exact assignCall_emits _ _ _
  · exact assignMethod_emits _ _ _ _
  · exact .say _
  · exact .say _
  · exact assignBinary_emits _ _ _ _
  · exact .say _

theorem lowerSimple_emits (s : Stmt) : Emits f (lowerSimple s) fun _ _ => True := by
  refine .say_then fun f₁ _ => ?_
  split
  · refine .say_then fun f₂ _ => ?_
    split
    · exact .bind (eval_emits _) fun _ _ _ _ => .pure trivial
    · exact .say _
  · unfold lowerAssign
    split
    · exact assignValue_emits _ _
    · exact .say _
    · exact .say _
  · exact .throw trivial
  · exact .pure trivial

end BpfCompiler.Lower
