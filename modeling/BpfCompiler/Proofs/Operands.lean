import BpfCompiler.Proofs.Lowering

/-!
# Where operands come from

Every operand of an instruction is a constant, the result of an instruction that stands before it in the
same block, the address of a slot in the table of variables, the address of a known map or that of a text
of the module.  `Formed` lists the forms of instructions that the lowering makes, with the origins and the
types of their operands, and `Code` says that each instruction of a block is of such a form, given those
before it.

`Emits f m Q` is the rule by which this is shown: from frame `f`, an action that succeeds appends such code
and ends with a result and a frame that satisfy `Q`.
-/

namespace BpfCompiler.Lower

open IR Syntax Emit

/-! ### Kernel functions -/

/-- The kernel functions that programs call. -/
def Signature.all : List Signature := [.lookup, .update, .delete, .ktime, .printk, .pidTgid]

/-- The instruction that makes the pointer through which the function is called. -/
def Signature.pointer (s : Signature) : Op :=
  .cast .intToPtr (Operand.int Ty.i64 s.number) (.ptr s.ty)

/-- The arguments suit the type of the function; only a variadic one takes more than its fixed ones. -/
structure Signature.Fits (s : Signature) (args : List Operand) : Prop where
  known : s ∈ Signature.all
  count : s.variadic = false → args.length = s.params.length
  accepts : s.accepts args = true

/-! ### Forms of instructions -/

/-- The operand is available in the frame behind the given instructions of the current block. -/
inductive Origin (f : Frame) (before : List Inst) : Operand → Prop
  | const (ty : Ty) (value : Literal) : Origin f before (.const ty value)
  | result {i : Inst} {ty : Ty} (hi : i ∈ before) (hty : i.op.result? = some ty) :
      Origin f before (.local i.name ty)
  | slot {x : String} {s : Slot} (hs : f.locals.get? x = some (some s)) :
      Origin f before (.local s.register (.ptr s.ty))
  | map {x : String} {o : Operand} (ho : f.workspace.maps.get? x = some o) : Origin f before o
  | text {v : Variable} (hv : .variable v ∈ f.workspace.module.globals) :
      Origin f before (.global v.name (.ptr v.ty))

/-- The slot is one of a variable, or an alloca among the given instructions made it. -/
inductive SlotOrigin (f : Frame) (before : List Inst) (s : Slot) : Prop
  | table {x : String} (hs : f.locals.get? x = some (some s))
  | made {align : Option Nat} (hmem : ⟨s.register, .alloca s.ty align⟩ ∈ before)

/-- The instruction is one that the lowering makes behind the given instructions of the current block. -/
inductive Formed (f : Frame) (before : List Inst) : Op → Prop
  | alloca (ty : Ty) (align : Option Nat) : Formed f before (.alloca ty align)
  | load {ty : Ty} {source : Operand} (hsource : Origin f before source)
      (hty : source.ty = .ptr ty) : Formed f before (.load ty source)
  | store {value : Operand} {s : Slot} (hvalue : Origin f before value) (hslot : SlotOrigin f before s)
      (hagree : s.ty.agrees value.ty = true) : Formed f before (.store value s.address)
  | arith {op : Arith} {lhs rhs : Operand} (hlhs : Origin f before lhs) (hrhs : Origin f before rhs)
      (hl : lhs.ty = Ty.i64) (hr : rhs.ty = Ty.i64) : Formed f before (.arith op lhs rhs)
  | icmp {predicate : Predicate} {lhs rhs : Operand} (hlhs : Origin f before lhs)
      (hrhs : Origin f before rhs) (hagree : lhs.ty.agrees rhs.ty = true) :
      Formed f before (.icmp predicate lhs rhs)
  | sext {value : Operand} {m n : Nat} (hvalue : Origin f before value) (hty : value.ty = .int m)
      (hlt : m < n) : Formed f before (.cast .sext value (.int n))
  | ptrToInt {value : Operand} {ty : Ty} (hvalue : Origin f before value) (hty : value.ty = .ptr ty) :
      Formed f before (.cast .ptrToInt value Ty.i64)
  | helper (s : Signature) : Formed f before s.pointer
  | call {s : Signature} {callee : Inst} {args : List Operand} (hcallee : callee ∈ before)
      (hpointer : callee.op = s.pointer) (hargs : ∀ o ∈ args, Origin f before o)
      (hfits : s.Fits args) :
      Formed f before (.call s.variadic s.result s.params s.variadic callee.result args)
  | branch (target : String) : Formed f before (.branch target)
  | condBranch {condition : Option Operand} {yes no : String}
      (hcondition : ∀ o ∈ condition, Origin f before o ∧ o.ty = Ty.i1) :
      Formed f before (.condBranch condition yes no)
  | ret (ty : Ty) (value : Literal) : Formed f before (.ret (.const ty value))

/-- Every instruction is formed from what stands before it. -/
def Code (f : Frame) (before : List Inst) : List Inst → Prop
  | [] => True
  | i :: rest => Formed f before i.op ∧ Code f (before ++ [i]) rest

theorem Origin.of_mem {f : Frame} {before : List Inst} {i : Inst} {ty : Ty} (hi : i ∈ before)
    (hty : i.op.result? = some ty) : Origin f before i.result := by
  rw [Inst.result, hty]
  exact .result hi hty

theorem SlotOrigin.origin {f : Frame} {before : List Inst} {s : Slot} (h : SlotOrigin f before s) :
    Origin f before s.address := by
  cases h with
  | table hs => exact .slot hs
  | made hmem => exact .result hmem rfl

theorem Formed.origin {f : Frame} {before : List Inst} {op : Op} (h : Formed f before op) :
    ∀ o ∈ op.operands, Origin f before o := by
  cases h with
  | alloca | branch => simp [Op.operands]
  | load hsource => simpa [Op.operands] using hsource
  | store hvalue hslot => simp [Op.operands, hvalue, hslot.origin]
  | arith hlhs hrhs | icmp hlhs hrhs => simp [Op.operands, hlhs, hrhs]
  | sext hvalue | ptrToInt hvalue => simpa [Op.operands] using hvalue
  | helper s => simpa [Signature.pointer, Op.operands, Operand.int] using Origin.const _ _
  | call hcallee hpointer hargs =>
    have hresult : Origin f before _ := Origin.of_mem hcallee (by rw [hpointer]; rfl)
    simpa [Op.operands] using ⟨hresult, hargs⟩
  | condBranch hcondition =>
    intro o ho
    exact (hcondition o (Option.mem_toList.mp ho)).1
  | ret ty value => simpa [Op.operands] using Origin.const ty value

/-- The second frame can refer to all that the first one can, apart from instructions. -/
structure Sees (f f' : Frame) : Prop where
  locals : f'.locals = f.locals
  maps : f'.workspace.maps = f.workspace.maps
  globals : f.workspace.module.globals ⊆ f'.workspace.module.globals

theorem Sees.moved (f : Frame) (place : Nat) : Sees f (f.moved place) :=
  ⟨rfl, rfl, List.Subset.refl _⟩

theorem SameContext.sees {f f' : Frame} (h : SameContext f f') (hlocals : f'.locals = f.locals) :
    Sees f f' where
  locals := hlocals
  maps := h.maps
  globals := by
    obtain ⟨log, scope, added, hworkspace⟩ := h.workspace
    rw [hworkspace]
    exact List.subset_append_left _ _

theorem Grown.sees {f f' : Frame} (h : Grown f f') : Sees f f' := h.toSameContext.sees h.locals

section Mono

variable {f f' : Frame} {before before' : List Inst}

theorem Origin.mono {o : Operand} (h : Origin f before o) (hsees : Sees f f')
    (hbefore : before ⊆ before') : Origin f' before' o := by
  cases h with
  | const ty value => exact .const ty value
  | result hi hty => exact .result (hbefore hi) hty
  | slot hs => exact .slot (by rw [hsees.locals]; exact hs)
  | map ho => exact .map (by rw [hsees.maps]; exact ho)
  | text hv => exact .text (hsees.globals hv)

theorem SlotOrigin.mono {s : Slot} (h : SlotOrigin f before s) (hsees : Sees f f')
    (hbefore : before ⊆ before') : SlotOrigin f' before' s := by
  cases h with
  | table hs => exact .table (by rw [hsees.locals]; exact hs)
  | made hmem => exact .made (hbefore hmem)

theorem Formed.mono {op : Op} (h : Formed f before op) (hsees : Sees f f')
    (hbefore : before ⊆ before') : Formed f' before' op := by
  cases h with
  | alloca ty align => exact .alloca ty align
  | load hsource hty => exact .load (hsource.mono hsees hbefore) hty
  | store hvalue hslot hagree =>
    exact .store (hvalue.mono hsees hbefore) (hslot.mono hsees hbefore) hagree
  | arith hlhs hrhs hl hr => exact .arith (hlhs.mono hsees hbefore) (hrhs.mono hsees hbefore) hl hr
  | icmp hlhs hrhs hagree => exact .icmp (hlhs.mono hsees hbefore) (hrhs.mono hsees hbefore) hagree
  | sext hvalue hty hlt => exact .sext (hvalue.mono hsees hbefore) hty hlt
  | ptrToInt hvalue hty => exact .ptrToInt (hvalue.mono hsees hbefore) hty
  | helper s => exact .helper s
  | call hcallee hpointer hargs hfits =>
    exact .call (hbefore hcallee) hpointer (fun o ho => (hargs o ho).mono hsees hbefore) hfits
  | branch target => exact .branch target
  | condBranch hcondition =>
    refine .condBranch fun o ho => ?_
    obtain ⟨horigin, hty⟩ := hcondition o ho
    exact ⟨horigin.mono hsees hbefore, hty⟩
  | ret ty value => exact .ret ty value

theorem Code.mono {insts : List Inst} (h : Code f before insts) (hsees : Sees f f') :
    Code f' before insts := by
  induction insts generalizing before with
  | nil => trivial
  | cons i rest ih => exact ⟨h.1.mono hsees (List.Subset.refl _), ih h.2⟩

theorem Code.append {first second : List Inst} (h : Code f before first)
    (h' : Code f (before ++ first) second) : Code f before (first ++ second) := by
  induction first generalizing before with
  | nil => simpa using h'
  | cons i rest ih => exact ⟨h.1, ih h.2 (by simpa using h')⟩

end Mono

/-! ### Emission -/

/-- The step appended code to the current block. -/
structure Follows (f f' : Frame) : Prop where
  inRange : f.here < f.fn.blocks.length
  code : ∃ new, Straight f f' new ∧ Code f' f.block.insts new

/-- The operand can be used by the next instruction. -/
def Held (o : Operand) (f : Frame) : Prop := Origin f f.block.insts o

/-- The next instruction can store into the slot. -/
def HeldSlot (s : Slot) (f : Frame) : Prop := SlotOrigin f f.block.insts s

theorem HeldSlot.address {s : Slot} {f : Frame} (h : HeldSlot s f) : Held s.address f := h.origin

/-- The instruction stands in the current block and has a result of the type. -/
def Yields (i : Inst) (ty : Ty) (f : Frame) : Prop :=
  i ∈ f.block.insts ∧ i.op.result? = some ty

theorem Yields.held {i : Inst} {ty : Ty} {f : Frame} (h : Yields i ty f) : Held i.result f :=
  .of_mem h.1 h.2

theorem Yields.ty_result {i : Inst} {ty : Ty} {f : Frame} (h : Yields i ty f) :
    i.result.ty = ty := by
  rw [Inst.result, h.2]
  rfl

namespace Follows

theorem refl {f : Frame} (hin : f.here < f.fn.blocks.length) : Follows f f :=
  ⟨hin, [], Straight.refl f, trivial⟩

theorem sees {f f' : Frame} (h : Follows f f') : Sees f f' := by
  obtain ⟨new, hstraight, -⟩ := h.code
  exact hstraight.grown.sees

theorem inRange_after {f f' : Frame} (h : Follows f f') : f'.here < f'.fn.blocks.length := by
  obtain ⟨new, hstraight, -⟩ := h.code
  exact hstraight.inRange h.inRange

theorem trans {f f₁ f₂ : Frame} (h : Follows f f₁) (h' : Follows f₁ f₂) : Follows f f₂ := by
  obtain ⟨first, hstraight, hcode⟩ := h.code
  obtain ⟨second, hstraight', hcode'⟩ := h'.code
  refine ⟨h.inRange, first ++ second, hstraight.trans hstraight', ?_⟩
  rw [hstraight.block h.inRange] at hcode'
  exact (hcode.mono h'.sees).append hcode'

theorem insts_subset {f f' : Frame} (h : Follows f f') : f.block.insts ⊆ f'.block.insts := by
  obtain ⟨new, hstraight, -⟩ := h.code
  rw [hstraight.block h.inRange]
  exact List.subset_append_left _ _

theorem held {f f' : Frame} (h : Follows f f') {o : Operand} (ho : Held o f) : Held o f' :=
  ho.mono h.sees h.insts_subset

theorem heldSlot {f f' : Frame} (h : Follows f f') {s : Slot} (hs : HeldSlot s f) : HeldSlot s f' :=
  hs.mono h.sees h.insts_subset

end Follows

theorem held_const (ty : Ty) (value : Literal) (f : Frame) : Held (.const ty value) f :=
  .const ty value

theorem heldSlot_local {f : Frame} {x : String} {slot : Option Slot}
    (h : f.locals.get? x = some slot) : ∀ s ∈ slot, HeldSlot s f := by
  rintro s rfl
  exact .table h

instance : Composable Follows fun _ _ _ => True where
  ready h := .refl h.inRange_after
  trans := Follows.trans
  fault _ _ := trivial

instance : AllowsLog Follows := ⟨fun hf h => ⟨hf.inRange, [], h, trivial⟩⟩

/-- If the action succeeds from the frame, it appends code, and its result and the new frame satisfy the
condition. -/
def Emits (f : Frame) {α : Type} (m : Emit α) (Q : α → Frame → Prop) : Prop :=
  Leads Follows (fun _ _ _ => True) f m Q

namespace Emits

variable {f : Frame}

theorem appendNamed (base : String) {op : Op} (hop : op.isTerminator = false)
    (hformed : Formed f f.block.insts op) :
    Emits f (Emit.appendNamed base op) fun i f' => i ∈ f'.block.insts ∧ i.op = op := by
  intro hf
  obtain ⟨name, f₁, happend, happends, hlocals⟩ := exec_appendNamed base op f
  have hstraight : Straight f f₁ [⟨name, op⟩] := ⟨happends, hlocals, by simpa using hop⟩
  have hcode : Code f₁ f.block.insts [⟨name, op⟩] :=
    ⟨hformed.mono hstraight.grown.sees (List.Subset.refl _), trivial⟩
  refine .of_exec_ok happend ⟨⟨hf.inRange, _, hstraight, hcode⟩, ?_, rfl⟩
  rw [happends.block hf.inRange]
  exact List.mem_append_right _ (List.mem_singleton_self _)

/-- An instruction with a result can be used by those behind it. -/
theorem append {op : Op} {ty : Ty} (hop : op.isTerminator = false) (hty : op.result? = some ty)
    (hformed : Formed f f.block.insts op) :
    Emits f (Emit.append op) fun i f' => Yields i ty f' :=
  (appendNamed "" hop hformed).weaken fun _ _ h => ⟨h.1, by rw [h.2, hty]⟩

end Emits

end BpfCompiler.Lower
