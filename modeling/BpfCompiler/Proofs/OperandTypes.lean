import BpfCompiler.Proofs.Dominance

/-!
# Types of operands

The operands of every instruction have the types that it asks for.  Arithmetic is done on words, both sides
of a comparison have one type, a store puts a value of the type that its slot was made for, a sign extension
widens, and a call gives each fixed parameter of the kernel function an argument of its type.  All pointer
types count as one, which is what `Ty.agrees` says.

The type that an operand carries is a real one: a local value has the type of the result of the instruction
that makes it.
-/

namespace BpfCompiler.IR

/-- The instructions of all blocks, in order. -/
def Function.insts (fn : Function) : List Inst := fn.blocks.flatMap Block.insts

theorem Function.mem_insts {fn : Function} {b : Block} {i : Inst} (hb : b ∈ fn.blocks) (hi : i ∈ b.insts) :
    i ∈ fn.insts :=
  List.mem_flatMap_of_mem hb hi

/-- A local value has the type of what its instruction makes, and a global one is an address. -/
def Operand.TypedIn (fn : Function) : Operand → Prop
  | .const _ _ => True
  | .local name ty => ∃ i ∈ fn.insts, i.name = name ∧ i.op.result? = some ty
  | .global _ ty => ∃ pointee, ty = .ptr pointee

end BpfCompiler.IR

namespace BpfCompiler.Lower

open IR Syntax Emit

/-- The operands of each instruction of the function have the types that it asks for. -/
structure OperandsTyped (fn : IR.Function) : Prop where
  distinct : (fn.insts.map Inst.name).Nodup
  operands : ∀ i ∈ fn.insts, ∀ o ∈ i.op.operands, o.TypedIn fn
  arith : ∀ i ∈ fn.insts, ∀ op lhs rhs, i.op = .arith op lhs rhs → lhs.ty = Ty.i64 ∧ rhs.ty = Ty.i64
  icmp : ∀ i ∈ fn.insts, ∀ predicate lhs rhs, i.op = .icmp predicate lhs rhs →
    lhs.ty.agrees rhs.ty = true
  /-- The address of a store is that of an alloca for values of the stored type. -/
  store : ∀ i ∈ fn.insts, ∀ value address, i.op = .store value address →
    ∃ register ty align, ⟨register, .alloca ty align⟩ ∈ fn.insts ∧
      address = .local register (.ptr ty) ∧ ty.agrees value.ty = true
  sext : ∀ i ∈ fn.insts, ∀ value target, i.op = .cast .sext value target →
    ∃ m n, value.ty = .int m ∧ target = .int n ∧ m < n
  /-- A call goes through the pointer to a kernel function, of the type of that function. -/
  call : ∀ i ∈ fn.insts, ∀ tail result params variadic callee args,
    i.op = .call tail result params variadic callee args →
    ∃ s ∈ Signature.all, ∃ register, ⟨register, s.pointer⟩ ∈ fn.insts ∧
      callee = .local register (.ptr s.ty) ∧ Ty.func result params variadic = s.ty ∧
      List.Forall₂ (fun p a => a.ty.agrees p = true) s.params (args.take s.params.length) ∧
      (s.variadic = false → args.length = s.params.length)

/-! ### Instructions among those of the function -/

theorem Sees.refl (f : Frame) : Sees f f := ⟨rfl, rfl, List.Subset.refl _⟩

/-- An instruction is formed from those of its function. -/
theorem Assembled.formed {f : Frame} (h : Assembled f) {i : Inst} (hi : i ∈ f.fn.insts) :
    Formed f f.fn.insts i.op := by
  obtain ⟨b, hb, hmem⟩ := List.mem_flatMap.mp hi
  obtain ⟨k, hk⟩ := List.getElem?_of_mem hmem
  refine ((h b hb).of_getElem? hk).mono (.refl f) fun j hj => ?_
  rw [List.nil_append] at hj
  exact IR.Function.mem_insts hb (List.mem_of_mem_take hj)

/-- The slots of the table are made in the function. -/
theorem Builds.slotsMade {w : Workspace} {d : Syntax.Function} {result : Ty} {f : Frame}
    {parts : List (Stmt × List Inst)}
    (h : Builds result d.body (programStart w d result) parts f) {x : String} {s : Slot}
    (hx : f.locals.get? x = some (some s)) :
    ∃ align, ⟨s.register, .alloca s.ty align⟩ ∈ f.fn.insts := by
  obtain ⟨f₁, slots, g, hprepares, hlowers, hgrown⟩ := h.stages
  have hgrows : Grown f₁ f := hlowers.grown.trans hgrown
  rw [hgrows.locals] at hx
  obtain ⟨align, hmem⟩ := hprepares.tableMade x s hx
  have hin : f₁.here < f₁.fn.blocks.length := hprepares.inRange (programStart_inRange w d result)
  obtain ⟨rest, hrest⟩ := hgrows.extended _ _ (Frame.getElem?_here hin)
  refine ⟨align, IR.Function.mem_insts (List.mem_of_getElem? hrest) ?_⟩
  rw [Block.extend_insts]
  exact List.mem_append_left _ hmem

/-! ### Operands -/

theorem Signature.Fits.forall₂ {s : Signature} {args : List Operand} (h : s.Fits args) :
    List.Forall₂ (fun p a => a.ty.agrees p = true) s.params (args.take s.params.length) := by
  obtain ⟨hcount, hall⟩ := Bool.and_eq_true_iff.mp h.accepts
  have hlength : s.params.length ≤ args.length := of_decide_eq_true hcount
  have hzip : s.params.zip args = s.params.zip (args.take s.params.length) := by
    rw [List.zip_eq_zip_take_min, Nat.min_eq_left hlength, List.take_length]
  rw [List.forall₂_iff_zip]
  refine ⟨by rw [List.length_take, Nat.min_eq_left hlength], fun {p a} hmem => ?_⟩
  exact List.all_eq_true.mp hall (p, a) (hzip ▸ hmem)

theorem Origin.typedIn {f : Frame} {o : Operand} (h : Origin f f.fn.insts o)
    (hmaps : HoldsAddresses f.workspace.maps)
    (hslots : ∀ x s, f.locals.get? x = some (some s) →
      ∃ align, ⟨s.register, .alloca s.ty align⟩ ∈ f.fn.insts) : o.TypedIn f.fn := by
  cases h with
  | const ty value => trivial
  | result hi hty => exact ⟨_, hi, rfl, hty⟩
  | slot hs =>
    obtain ⟨align, hmem⟩ := hslots _ _ hs
    exact ⟨_, hmem, rfl, rfl⟩
  | map ho =>
    obtain ⟨ty, rfl⟩ := hmaps _ _ ho
    exact ⟨ty, rfl⟩
  | text hv => exact ⟨_, rfl⟩

/-! ### Programs -/

theorem Builds.operandsTyped {w : Workspace} {d : Syntax.Function} {result : Ty} {f : Frame}
    {parts : List (Stmt × List Inst)}
    (h : Builds result d.body (programStart w d result) parts f) (hmaps : HoldsAddresses w.maps) :
    OperandsTyped f.fn := by
  have hformed : ∀ {i : Inst} {op : Op}, i ∈ f.fn.insts → i.op = op → Formed f f.fn.insts op := by
    rintro i op hi rfl
    exact h.assembled.formed hi
  constructor
  case distinct => exact h.named.distinct
  case operands =>
    intro i hi o ho
    have hmaps' : HoldsAddresses f.workspace.maps := by
      rw [h.sameContext.maps]
      exact hmaps
    exact ((hformed hi rfl).origin o ho).typedIn hmaps' fun x s hx => h.slotsMade hx
  case arith =>
    intro i hi op lhs rhs hop
    cases hformed hi hop with
    | arith hlhs hrhs hl hr => exact ⟨hl, hr⟩
  case icmp =>
    intro i hi predicate lhs rhs hop
    cases hformed hi hop with
    | icmp hlhs hrhs hagree => exact hagree
  case store =>
    intro i hi value address hop
    cases hformed hi hop with
    | @store _ s hvalue hslot hagree =>
      obtain ⟨align, hmem⟩ : ∃ align, ⟨s.register, .alloca s.ty align⟩ ∈ f.fn.insts := by
        cases hslot with
        | table hs => exact h.slotsMade hs
        | made hmem => exact ⟨_, hmem⟩
      exact ⟨s.register, s.ty, align, hmem, rfl, hagree⟩
  case sext =>
    intro i hi value target hop
    cases hformed hi hop with
    | sext hvalue hty hlt => exact ⟨_, _, hty, rfl, hlt⟩
  case call =>
    intro i hi tail result params variadic callee args hop
    cases hformed hi hop with
    | @call s callee _ hcallee hpointer hargs hfits =>
      have hinst : (⟨callee.name, s.pointer⟩ : Inst) = callee := by rw [← hpointer]
      refine ⟨s, hfits.known, callee.name, hinst ▸ hcallee, ?_, rfl, hfits.forall₂, hfits.count⟩
      rw [Inst.result, hpointer]
      rfl

/-- In every source that compiles after any earlier compilations, the operands of all instructions of all
functions have the types that the instructions ask for. -/
theorem source_operandsTyped {path : String} {text : List Char} {maps : Table Operand} {out : Text}
    {w : Workspace} (hmaps : Compile.Leaves maps)
    (h : exec (Compile.source path text) (Compile.start path maps) = (.ok out, w)) :
    ∃ m, Syntax.Module.parse (Lexer.universalNewlines text) = .ok m ∧
      List.Forall₂ (fun d fn => fn.name = d.name ∧ OperandsTyped fn) m.programs
        w.module.functions := by
  obtain ⟨m, hparse, hall, -⟩ := source_inv h
  have hkept : HoldsAddresses w.maps :=
    (source_keepsAddresses path text).of_exec h (holdsAddresses_of_leaves hmaps)
  refine ⟨m, hparse, hall.imp fun d fn hlowered => ⟨hlowered.name, ?_⟩⟩
  obtain ⟨w₁, parts, f, hw₁, rfl, hbuilds⟩ := hlowered.builds
  exact hbuilds.operandsTyped (by rw [hw₁]; exact hkept)

/-- Values of several widths: a bit is compared with a half word, bits, words and pointers are stored, and
addresses of slots, maps and texts are passed on. -/
def mixedWidths : List Char :=
  ("@bpf\n@map\ndef seen() -> HashMap:\n    return HashMap(key=c_int32, value=c_int64, max_entries=4)\n" ++
    "@bpf\ndef f() -> c_int64:\n    b = True\n    n = c_int32(7)\n    x = ktime()\n    y = x * 2\n" ++
    "    p = seen().lookup(n)\n    if b < n:\n        seen().update(7, y)\n" ++
    "    print('seen')\n    return c_int64(0)\n").toList

/-- How many instructions of each form with typed operands there are: arithmetic, comparisons, stores, sign
extensions and calls. -/
def formCounts (fn : IR.Function) : List Nat :=
  [fn.insts.countP fun i => i.op matches .arith .., fn.insts.countP fun i => i.op matches .icmp ..,
    fn.insts.countP fun i => i.op matches .store .., fn.insts.countP fun i => i.op matches .cast .sext ..,
    fn.insts.countP fun i => i.op matches .call ..]

theorem mixedWidths_operandsTyped :
    ∃ (out : Text) (w : Workspace) (m : Syntax.Module),
      exec (Compile.source "p.py" mixedWidths) (Compile.start "p.py" Table.empty) = (.ok out, w) ∧
      Syntax.Module.parse (Lexer.universalNewlines mixedWidths) = .ok m ∧
      w.module.functions.map formCounts = [[1, 1, 6, 1, 4]] ∧
      List.Forall₂ (fun d fn => fn.name = d.name ∧ OperandsTyped fn) m.programs
        w.module.functions := by
  have hrun :
      (exec (Compile.source "p.py" mixedWidths) (Compile.start "p.py" Table.empty)).1.isOk = true ∧
      (exec (Compile.source "p.py" mixedWidths)
        (Compile.start "p.py" Table.empty)).2.module.functions.map formCounts = [[1, 1, 6, 1, 4]] := by
    decide +kernel
  obtain ⟨out, w, hsource⟩ := exec_of_isOk hrun.1
  rw [hsource] at hrun
  obtain ⟨m, hparse, hall⟩ := source_operandsTyped Compile.Leaves.empty hsource
  exact ⟨out, w, m, hsource, hparse, hrun.2, hall⟩

end BpfCompiler.Lower
