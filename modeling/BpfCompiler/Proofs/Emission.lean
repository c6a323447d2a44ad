import BpfCompiler.Proofs.NameScope
import BpfCompiler.Proofs.Steps

/-!
# What a step adds to a function

Most steps append instructions to the current block and leave everything else alone.  `Appends f f' new`
says so, with the names that the new instructions take; `Straight f f' new` adds that none of them ends
the block and that the table of variables is the same.  Each operation on a frame has its lemma here, and
later modules use these lemmas instead of the definitions.
-/

namespace BpfCompiler.IR.Block

/-- The block with more instructions behind its own. -/
def extend (b : Block) (new : List Inst) : Block := { b with insts := b.insts ++ new }

@[simp] theorem extend_label (b : Block) (new : List Inst) : (b.extend new).label = b.label := rfl

@[simp] theorem extend_insts (b : Block) (new : List Inst) :
    (b.extend new).insts = b.insts ++ new := rfl

@[simp] theorem extend_nil (b : Block) : b.extend [] = b := by
  simp [extend]

@[simp] theorem extend_extend (b : Block) (first second : List Inst) :
    (b.extend first).extend second = b.extend (first ++ second) := by
  simp [extend]

end BpfCompiler.IR.Block

namespace BpfCompiler.IR

theorem Function.fault?_eq_none_iff {fn : Function} :
    fn.fault? = none ↔ ∀ b ∈ fn.blocks, ∀ i ∈ b.insts, i.op.fault? = none := by
  simp only [Function.fault?, List.findSome?_eq_none_iff]

theorem Module.fault?_eq_none_iff {m : Module} :
    m.fault? = none ↔ (∀ fn, .function fn ∈ m.globals → fn.fault? = none) ∧
      ∀ node ∈ m.nodes, node.2.fault? = none := by
  simp only [Module.fault?, Option.or_eq_none_iff, List.findSome?_eq_none_iff]
  refine and_congr_left fun _ => ⟨fun h fn hfn => h _ hfn, fun h g hg => ?_⟩
  cases g with
  | function fn => exact h fn hg
  | _ => rfl

end BpfCompiler.IR

namespace BpfCompiler.Lower

open IR Emit

/-- What no step on a function touches: of the workspace only the log changes and variables are added to
the module, and of the function only its blocks, its count of format strings and its scope change.  A name
that was taken stays taken. -/
structure SameContext (f f' : Frame) : Prop where
  workspace : ∃ (log : Array Text) (scope : NameScope) (added : List Variable),
    f'.workspace = { f.workspace with
      log := log
      module := { f.workspace.module with
        scope := scope
        globals := f.workspace.module.globals ++ added.map Global.variable } }
  fn : ∃ (scope : NameScope) (blocks : List Block) (formats : Nat),
    f'.fn = { f.fn with scope := scope, blocks := blocks, formats := formats }
  position : f'.position = f.position
  used : f.fn.scope.used ⊆ f'.fn.scope.used

namespace SameContext

theorem of_eq {f f' : Frame} (hworkspace : f'.workspace = f.workspace) (hfn : f'.fn = f.fn)
    (hposition : f'.position = f.position) : SameContext f f' where
  workspace := ⟨f.workspace.log, f.workspace.module.scope, [], by simp [hworkspace]⟩
  fn := ⟨f.fn.scope, f.fn.blocks, f.fn.formats, hfn⟩
  position := hposition
  used := by
    rw [hfn]
    exact List.Subset.refl _

theorem refl (f : Frame) : SameContext f f := of_eq rfl rfl rfl

theorem trans {f f₁ f₂ : Frame} (h : SameContext f f₁) (h' : SameContext f₁ f₂) :
    SameContext f f₂ := by
  obtain ⟨log, scope, added, hworkspace⟩ := h.workspace
  obtain ⟨log', scope', added', hworkspace'⟩ := h'.workspace
  obtain ⟨names, blocks, formats, hfn⟩ := h.fn
  obtain ⟨names', blocks', formats', hfn'⟩ := h'.fn
  refine ⟨⟨log', scope', added ++ added', ?_⟩, ⟨names', blocks', formats', ?_⟩,
    h'.position.trans h.position, fun name hname => h'.used (h.used hname)⟩
  · simp [hworkspace', hworkspace]
  · simp [hfn', hfn]

theorem of_fresh (f : Frame) (base : String) (blocks : List Block) :
    SameContext f
      { f with fn := { f.fn with scope := (f.fn.scope.fresh base).2, blocks := blocks } } where
  workspace := ⟨f.workspace.log, f.workspace.module.scope, [], by simp⟩
  fn := ⟨_, blocks, f.fn.formats, rfl⟩
  position := rfl
  used := f.fn.scope.used_subset_fresh base

theorem maps {f f' : Frame} (h : SameContext f f') : f'.workspace.maps = f.workspace.maps := by
  obtain ⟨log, scope, added, hworkspace⟩ := h.workspace
  rw [hworkspace]

theorem name {f f' : Frame} (h : SameContext f f') : f'.fn.name = f.fn.name := by
  obtain ⟨scope, blocks, formats, hfn⟩ := h.fn
  rw [hfn]

theorem result {f f' : Frame} (h : SameContext f f') : f'.fn.result = f.fn.result := by
  obtain ⟨scope, blocks, formats, hfn⟩ := h.fn
  rw [hfn]

end SameContext

/-- The step appended `new` to the current block and stayed there.  The new instructions have names that
were not in use, all of them different. -/
structure Appends (f f' : Frame) (new : List Inst) : Prop extends SameContext f f' where
  blocks : f'.fn.blocks = f.fn.blocks.modify f.here fun b => b.extend new
  here : f'.here = f.here
  fresh : ∀ i ∈ new, i.name ∉ f.fn.scope.used
  taken : ∀ i ∈ new, i.name ∈ f'.fn.scope.used
  distinct : (new.map Inst.name).Nodup

namespace Appends

theorem of_same {f f' : Frame} (hcontext : SameContext f f')
    (hblocks : f'.fn.blocks = f.fn.blocks) (hhere : f'.here = f.here) :
    Appends f f' [] where
  toSameContext := hcontext
  blocks := by
    rw [hblocks]
    simp only [Block.extend_nil]
    exact (List.modify_id f.here f.fn.blocks).symm
  here := hhere
  fresh := by simp
  taken := by simp
  distinct := by simp

theorem refl (f : Frame) : Appends f f [] :=
  of_same (SameContext.refl f) rfl rfl

theorem trans {f f₁ f₂ : Frame} {first second : List Inst}
    (h : Appends f f₁ first) (h' : Appends f₁ f₂ second) :
    Appends f f₂ (first ++ second) where
  toSameContext := h.toSameContext.trans h'.toSameContext
  blocks := by
    rw [h'.blocks, h.blocks, h.here, List.modify_modify_eq]
    congr 1
    funext b
    simp
  here := h'.here.trans h.here
  fresh := by
    intro i hi
    rcases List.mem_append.mp hi with hfirst | hsecond
    · exact h.fresh i hfirst
    · exact fun hused => h'.fresh i hsecond (h.used hused)
  taken := by
    intro i hi
    rcases List.mem_append.mp hi with hfirst | hsecond
    · exact h'.used (h.taken i hfirst)
    · exact h'.taken i hsecond
  distinct := by
    rw [List.map_append, List.nodup_append]
    refine ⟨h.distinct, h'.distinct, ?_⟩
    intro name hfirst other hsecond heq
    obtain ⟨i, hi, rfl⟩ := List.mem_map.mp hfirst
    obtain ⟨j, hj, rfl⟩ := List.mem_map.mp hsecond
    -- the name of `i` is taken when `j` gets its own
    exact h'.fresh j hj (heq ▸ h.taken i hi)

end Appends

/-- The step appended instructions that do not end the block, and left the variables as they are. -/
structure Straight (f f' : Frame) (new : List Inst) : Prop extends Appends f f' new where
  locals : f'.locals = f.locals
  plain : ∀ i ∈ new, i.op.isTerminator = false

namespace Straight

theorem refl (f : Frame) : Straight f f [] :=
  ⟨Appends.refl f, rfl, by simp⟩

theorem trans {f f₁ f₂ : Frame} {first second : List Inst}
    (h : Straight f f₁ first) (h' : Straight f₁ f₂ second) :
    Straight f f₂ (first ++ second) where
  toAppends := h.toAppends.trans h'.toAppends
  locals := h'.locals.trans h.locals
  plain := by
    intro i hi
    rcases List.mem_append.mp hi with hfirst | hsecond
    · exact h.plain i hfirst
    · exact h'.plain i hsecond

end Straight

/-- The relation that straight-line steps preserve. -/
def StraightLine (f f' : Frame) : Prop := ∃ new, Straight f f' new

instance : Std.Refl StraightLine := ⟨fun f => ⟨[], Straight.refl f⟩⟩

instance : IsTrans Frame StraightLine :=
  ⟨fun _ _ _ ⟨first, hfirst⟩ ⟨second, hsecond⟩ => ⟨first ++ second, hfirst.trans hsecond⟩⟩

/-! ### Operations on a frame -/

theorem say_straight (line : Text) (f : Frame) :
    ∃ f', exec (say line) f = (.ok (), f') ∧ Straight f f' [] ∧ f'.fn = f.fn := by
  refine ⟨_, rfl, ⟨Appends.of_same ?_ rfl rfl, rfl, by simp⟩, rfl⟩
  exact {
    workspace := ⟨f.workspace.log.push line, f.workspace.module.scope, [], by simp⟩
    fn := ⟨f.fn.scope, f.fn.blocks, f.fn.formats, rfl⟩
    position := rfl
    used := List.Subset.refl _ }

theorem Ends.say {line : Text} {f : Frame} {Q : Unit → Frame → Prop} {E : Fault → Frame → Prop}
    (h : ∀ f', Straight f f' [] → Q () f') : Ends f (Emit.say line) Q E := by
  obtain ⟨f', hexec, hstraight, -⟩ := say_straight line f
  exact .of_exec_ok hexec (h f' hstraight)

theorem Ends.say_then {line : Text} {f : Frame} {β : Type} {k : Unit → Emit β} {Q : β → Frame → Prop}
    {E : Fault → Frame → Prop} (hk : ∀ f₁, Straight f f₁ [] → Ends f₁ (k ()) Q E) :
    Ends f (Emit.say line >>= k) Q E :=
  (Ends.say (Q := fun _ f₁ => Straight f f₁ []) fun _ h => h).bind fun _ => hk

/-- A line of the log is a step that the relation has room for. -/
class AllowsLog (R : Frame → Frame → Prop) : Prop where
  log : ∀ {f f'}, R f f → Straight f f' [] → R f f'

section Log

variable {R : Frame → Frame → Prop} [AllowsLog R] {E : Fault → Frame → Frame → Prop} {f : Frame}

theorem Leads.say (line : Text) : Leads R E f (Emit.say line) fun _ _ => True :=
  fun hf => Ends.say fun _ h => ⟨AllowsLog.log hf h, trivial⟩

theorem Leads.say_then [Composable R E] {line : Text} {β : Type} {k : Unit → Emit β}
    {Q : β → Frame → Prop} (hk : ∀ f₁, R f f₁ → Leads R E f₁ (k ()) Q) :
    Leads R E f (Emit.say line >>= k) Q :=
  (Leads.say line).bind fun _ f₁ hR _ => hk f₁ hR

end Log

theorem say_preserves (line : Text) : Preserves StraightLine (say line) := by
  intro f
  obtain ⟨f', hexec, hstraight, -⟩ := say_straight line f
  rw [hexec]
  exact ⟨[], hstraight⟩

/-- An instruction that is appended has the next free name. -/
theorem exec_appendNamed (base : String) (op : Op) (f : Frame) :
    ∃ name f', exec (appendNamed base op) f = (.ok ⟨name, op⟩, f') ∧
      Appends f f' [⟨name, op⟩] ∧ f'.locals = f.locals := by
  refine ⟨(f.fn.scope.fresh base).1, _, rfl, ?_, rfl⟩
  exact {
    toSameContext := SameContext.of_fresh f base _
    blocks := rfl
    here := rfl
    fresh := by simpa using f.fn.scope.fresh_not_mem base
    taken := by
      intro i hi
      rw [List.mem_singleton.mp hi]
      exact f.fn.scope.fresh_mem_used base
    distinct := by simp }

theorem exec_append (op : Op) (hop : op.isTerminator = false) (f : Frame) :
    ∃ name f', exec (append op) f = (.ok ⟨name, op⟩, f') ∧ Straight f f' [⟨name, op⟩] := by
  obtain ⟨name, f', hexec, happends, hlocals⟩ := exec_appendNamed "" op f
  exact ⟨name, f', hexec, happends, hlocals, by simpa using hop⟩

theorem Ends.append {op : Op} {f : Frame} {Q : Inst → Frame → Prop} {E : Fault → Frame → Prop}
    (hop : op.isTerminator = false) (h : ∀ name f', Straight f f' [⟨name, op⟩] → Q ⟨name, op⟩ f') :
    Ends f (Emit.append op) Q E := by
  obtain ⟨name, f', hexec, hstraight⟩ := exec_append op hop f
  exact .of_exec_ok hexec (h name f' hstraight)

theorem append_preserves {op : Op} (hop : op.isTerminator = false) :
    Preserves StraightLine (append op) := by
  intro f
  obtain ⟨name, f', hexec, hstraight⟩ := exec_append op hop f
  rw [hexec]
  exact ⟨_, hstraight⟩

theorem exec_alloca (name : String) (ty : Ty) (align : Option Nat) (f : Frame) :
    ∃ register f', exec (alloca name ty align) f = (.ok ⟨register, ty⟩, f') ∧
      Straight f f' [⟨register, .alloca ty align⟩] := by
  obtain ⟨register, f', hexec, happends, hlocals⟩ := exec_appendNamed name (.alloca ty align) f
  refine ⟨register, f', ?_, happends, hlocals, by simp [Op.isTerminator]⟩
  rw [alloca, exec_bind_ok hexec, exec_pure]

/-- A terminator takes its name first and then asks whether the block is open. -/
theorem exec_terminate (op : Op) (f : Frame) :
    exec (terminate op) f =
      if f.block.isTerminated then (.error .afterTerminator, (exec (freshName "") f).2)
      else (.ok (), (exec (appendNamed "" op) f).2) := by
  have hname : exec (freshName "") f =
      (.ok (f.fn.scope.fresh "").1, (exec (freshName "") f).2) := rfl
  have hblock : (exec (freshName "") f).2.block = f.block := rfl
  rw [terminate, exec_bind_ok hname, exec_bind_ok (exec_get _), hblock]
  split <;> rfl

theorem exec_terminate_open {f : Frame} (hopen : f.block.isTerminated = false) (op : Op) :
    ∃ name f', exec (terminate op) f = (.ok (), f') ∧
      Appends f f' [⟨name, op⟩] ∧ f'.locals = f.locals := by
  obtain ⟨name, f', hexec, happends, hlocals⟩ := exec_appendNamed "" op f
  refine ⟨name, f', ?_, happends, hlocals⟩
  rw [exec_terminate, hopen, hexec]
  rfl

theorem terminate_inv {op : Op} {f f' : Frame} (h : exec (terminate op) f = (.ok (), f')) :
    f.block.isTerminated = false ∧
      ∃ name, Appends f f' [⟨name, op⟩] ∧ f'.locals = f.locals := by
  cases hopen : f.block.isTerminated with
  | true =>
    rw [exec_terminate, hopen] at h
    simp at h
  | false =>
    obtain ⟨name, f'', hexec, happends, hlocals⟩ := exec_terminate_open hopen op
    rw [hexec] at h
    obtain rfl : f'' = f' := (Prod.mk.inj h).2
    exact ⟨rfl, name, happends, hlocals⟩

/-- A new block has a new label, stands behind all others and is empty. -/
theorem exec_addBlock (base : String) (f : Frame) :
    ∃ label f', exec (addBlock base) f = (.ok (f.fn.blocks.length, label), f') ∧
      SameContext f f' ∧ f'.fn.blocks = f.fn.blocks ++ [⟨label, []⟩] ∧ f'.here = f.here ∧
      f'.locals = f.locals ∧ label ∉ f.fn.scope.used ∧ label ∈ f'.fn.scope.used := by
  exact ⟨(f.fn.scope.fresh base).1, _, rfl, SameContext.of_fresh f base _, rfl, rfl, rfl,
    f.fn.scope.fresh_not_mem base, f.fn.scope.fresh_mem_used base⟩

/-- The frame with another current block. -/
def Frame.moved (f : Frame) (place : Nat) : Frame := { f with here := place }

@[simp] theorem Frame.moved_fn (f : Frame) (place : Nat) : (f.moved place).fn = f.fn := rfl

@[simp] theorem Frame.moved_here (f : Frame) (place : Nat) : (f.moved place).here = place := rfl

@[simp] theorem Frame.moved_locals (f : Frame) (place : Nat) :
    (f.moved place).locals = f.locals := rfl

@[simp] theorem Frame.moved_workspace (f : Frame) (place : Nat) :
    (f.moved place).workspace = f.workspace := rfl

theorem SameContext.moved (f : Frame) (place : Nat) : SameContext f (f.moved place) :=
  of_eq rfl rfl rfl

theorem exec_moveTo (place : Nat) (f : Frame) :
    exec (moveTo place) f = (.ok (), f.moved place) := rfl

end BpfCompiler.Lower
