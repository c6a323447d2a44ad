import BpfCompiler.Proofs.Emitters
import BpfCompiler.Proofs.FlowGraph
import BpfCompiler.Proofs.MapTable
import BpfCompiler.Proofs.Slots

/-!
# Definitions dominate uses

A value that an instruction uses is made by an instruction before it in the same block, or it is the slot of
a variable, and the slots are made at the start of the first block, before anything else.  Every path through
a function starts in its first block, so a definition stands before its uses on every path, at any nesting
of branches.
-/

namespace BpfCompiler.IR.Function

/-- The instruction at a place of a block. -/
def at? (fn : Function) (block place : Nat) : Option Inst :=
  fn.blocks[block]?.bind fun b => b.insts[place]?

/-- Control can go along the blocks, from the entry to the given one. -/
structure IsPathTo (fn : Function) (block : Nat) (path : List Nat) : Prop where
  first : path.head? = some 0
  last : path.getLast? = some block
  edges : path.IsChain fn.Edge

/-- What stands at the first place has been executed whenever control comes to the second one. -/
def Dominates (fn : Function) (block place block' place' : Nat) : Prop :=
  (block = block' ∧ place < place') ∨
    (block ≠ block' ∧ ∀ path, fn.IsPathTo block' path → block ∈ path)

theorem dominates_of_entry (fn : Function) {place block' place' : Nat}
    (h : block' = 0 → place < place') : fn.Dominates 0 place block' place' := by
  by_cases hentry : block' = 0
  · exact .inl ⟨hentry.symm, h hentry⟩
  · refine .inr ⟨fun heq => hentry heq.symm, fun path hpath => ?_⟩
    exact List.mem_of_head? hpath.first

end BpfCompiler.IR.Function

namespace BpfCompiler.Lower

open IR Syntax Emit

/-! ### Blocks of code -/

/-- Every block of the function is code. -/
def Assembled (f : Frame) : Prop := ∀ b ∈ f.fn.blocks, Code f [] b.insts

theorem Code.of_getElem? {f : Frame} {before insts : List Inst} (h : Code f before insts) {k : Nat}
    {i : Inst} (hk : insts[k]? = some i) : Formed f (before ++ insts.take k) i.op := by
  induction insts generalizing before k with
  | nil => simp at hk
  | cons first rest ih =>
    cases k with
    | zero =>
      obtain rfl : first = i := by simpa using hk
      simpa using h.1
    | succ k => simpa using ih h.2 (by simpa using hk)

theorem Code.of_allocas {f : Frame} {before insts : List Inst}
    (h : ∀ i ∈ insts, ∃ ty align, i.op = .alloca ty align) : Code f before insts := by
  induction insts generalizing before with
  | nil => trivial
  | cons i rest ih =>
    obtain ⟨ty, align, hop⟩ := h i List.mem_cons_self
    exact ⟨hop ▸ .alloca ty align, ih fun j hj => h j (List.mem_cons_of_mem i hj)⟩

namespace Assembled

theorem appends {f f' : Frame} {new : List Inst} (h : Assembled f) (happends : Appends f f' new)
    (hlocals : f'.locals = f.locals) (hin : f.here < f.fn.blocks.length)
    (hcode : Code f' f.block.insts new) : Assembled f' := by
  have hsees : Sees f f' := happends.toSameContext.sees hlocals
  intro b hb
  obtain ⟨k, hk⟩ := List.getElem?_of_mem hb
  rw [happends.blocks, List.getElem?_modify] at hk
  obtain ⟨b', hb', rfl⟩ := Option.map_eq_some_iff.mp hk
  by_cases hhere : f.here = k
  · subst hhere
    rw [Frame.getElem?_here hin] at hb'
    obtain rfl := Option.some.inj hb'
    have hbefore : Code f' [] f.block.insts :=
      (h _ (List.mem_of_getElem? (Frame.getElem?_here hin))).mono hsees
    simpa using hbefore.append (by simpa using hcode)
  · rw [if_neg hhere]
    exact (h b' (List.mem_of_getElem? hb')).mono hsees

theorem follows {f f' : Frame} (h : Assembled f) (hfollows : Follows f f') : Assembled f' := by
  obtain ⟨new, hstraight, hcode⟩ := hfollows.code
  exact h.appends hstraight.toAppends hstraight.locals hfollows.inRange hcode

theorem makes {f f' : Frame} {arms : Arms} (h : Assembled f) (hmakes : Makes f f' arms) :
    Assembled f' := by
  have hsees : Sees f f' := hmakes.toSameContext.sees hmakes.locals
  intro b hb
  rw [hmakes.blocks, List.mem_append] at hb
  rcases hb with hold | hnew
  · exact (h b hold).mono hsees
  · obtain ⟨label, -, rfl⟩ := List.mem_map.mp hnew
    trivial

theorem moved {f : Frame} (h : Assembled f) (place : Nat) : Assembled (f.moved place) :=
  fun b hb => (h b hb).mono (.moved f place)

theorem opens {test : Expr} {f g : Frame} {arms : Arms} {new : List Inst} (h : Assembled f)
    (hopens : Opens test f g arms new) (hin : f.here < f.fn.blocks.length) : Assembled g := by
  obtain ⟨f₁, f₂, code, outcome, name, hmakes, hexec, hcode, hends, hlocals, rfl⟩ := hopens.run
  have hin₁ := hmakes.inRange hin
  obtain ⟨hfollows, htruth⟩ := (condition_emits test (.refl hin₁)).ok hexec
  refine ((h.makes hmakes).follows hfollows).appends hends hlocals hfollows.inRange_after ?_
  have hformed : Formed f₂ f₂.block.insts
      (.condBranch outcome arms.thenLabel arms.otherwise) := .condBranch htruth
  exact ⟨hformed.mono (hends.toSameContext.sees hlocals) (List.Subset.refl _), trivial⟩

theorem joins {label : String} {f f' : Frame} {new : List Inst} (h : Assembled f)
    (hjoins : Joins label f f' new) (hin : f.here < f.fn.blocks.length) : Assembled f' := by
  cases hjoins with
  | ended hended => exact h
  | branch hopen happends hlocals => exact h.appends happends hlocals hin ⟨.branch label, trivial⟩

end Assembled

theorem returnOperand_const {result : Ty} {value : Option Expr} {o : Operand}
    (h : returnOperand result value = .ok o) : ∃ ty literal, o = .const ty literal := by
  unfold returnOperand at h
  split at h
  · exact ⟨_, _, (Except.ok.inj h).symm⟩
  · exact ⟨_, _, (Except.ok.inj h).symm⟩
  · exact ⟨_, _, (Except.ok.inj h).symm⟩
  · cases h
  · split at h
    · rename_i id literal hliteral
      cases hty : typeOfName id with
      | error fault =>
        rw [hty] at h
        cases h
      | ok ty =>
        rw [hty] at h
        change (if ty.agrees result then _ else _) = _ at h
        split at h
        · exact ⟨_, _, (Except.ok.inj h).symm⟩
        · cases h
    · cases h

/-- A suite that is lowered leaves blocks of code. -/
theorem Lowers.assembled {result : Ty} {body : List Stmt} {f f' : Frame}
    {parts : List (Stmt × List Inst)} (h : Lowers result body f parts f')
    (hin : f.here < f.fn.blocks.length) (hf : Assembled f) : Assembled f' := by
  refine h.invariant ?_ ?_ ?_ ?_ ?_ hin hf
  · intro s f f₁ new hin hexec _ hf
    exact hf.follows ((lowerSimple_emits s (.refl hin)).ok hexec).1
  · intro result value o f f₁ name hin hoperand happends hlocals hf
    obtain ⟨ty, literal, rfl⟩ := returnOperand_const hoperand
    exact hf.appends happends hlocals hin ⟨.ret ty literal, trivial⟩
  · exact fun hin hopens hf => hf.opens hopens hin
  · exact fun hin hjoins hf => hf.joins hjoins hin
  · exact fun f place hf => hf.moved place

/-! ### Names -/

/-- The instructions of the function have different names, all taken from its scope. -/
structure Named (f : Frame) : Prop where
  distinct : ((f.fn.blocks.flatMap Block.insts).map Inst.name).Nodup
  taken : (f.fn.blocks.flatMap Block.insts).map Inst.name ⊆ f.fn.scope.used

theorem flatMap_modify_extend {blocks : List Block} {k : Nat} (hk : k < blocks.length)
    (new : List Inst) :
    ((blocks.modify k fun b => b.extend new).flatMap Block.insts).Perm
      (blocks.flatMap Block.insts ++ new) := by
  induction blocks generalizing k with
  | nil => simp at hk
  | cons b rest ih =>
    cases k with
    | zero =>
      simp only [List.modify_zero_cons, List.flatMap_cons, Block.extend_insts, List.append_assoc]
      exact List.perm_append_comm.append_left b.insts
    | succ k =>
      simp only [List.modify_succ_cons, List.flatMap_cons, List.append_assoc]
      exact (ih (by simpa using hk)).append_left b.insts

namespace Named

theorem appends {f f' : Frame} {new : List Inst} (h : Named f) (happends : Appends f f' new)
    (hin : f.here < f.fn.blocks.length) : Named f' := by
  have hperm : ((f'.fn.blocks.flatMap Block.insts).map Inst.name).Perm
      ((f.fn.blocks.flatMap Block.insts).map Inst.name ++ new.map Inst.name) := by
    rw [happends.blocks, ← List.map_append]
    exact (flatMap_modify_extend hin new).map Inst.name
  constructor
  · rw [hperm.nodup_iff, List.nodup_append]
    refine ⟨h.distinct, happends.distinct, ?_⟩
    rintro name hold other hnew rfl
    obtain ⟨i, hi, rfl⟩ := List.mem_map.mp hnew
    exact happends.fresh i hi (h.taken hold)
  · intro name hname
    rcases List.mem_append.mp (hperm.mem_iff.mp hname) with hold | hnew
    · exact happends.used (h.taken hold)
    · obtain ⟨i, hi, rfl⟩ := List.mem_map.mp hnew
      exact happends.taken i hi

theorem makes {f f' : Frame} {arms : Arms} (h : Named f) (hmakes : Makes f f' arms) : Named f' := by
  have hinsts : f'.fn.blocks.flatMap Block.insts = f.fn.blocks.flatMap Block.insts := by
    simp [hmakes.blocks, List.flatMap_append, List.flatMap_map]
  constructor
  · rw [hinsts]
    exact h.distinct
  · rw [hinsts]
    exact fun name hname => hmakes.used (h.taken hname)

end Named

theorem Lowers.named {result : Ty} {body : List Stmt} {f f' : Frame}
    {parts : List (Stmt × List Inst)} (h : Lowers result body f parts f')
    (hin : f.here < f.fn.blocks.length) (hf : Named f) : Named f' := by
  refine h.invariant ?_ ?_ ?_ ?_ ?_ hin hf
  · exact fun hin _ hstraight hf => hf.appends hstraight.toAppends hin
  · exact fun hin _ happends _ hf => hf.appends happends hin
  · intro test f g arms new hin hopens hf
    obtain ⟨f₁, hmakes, happends, -⟩ := hopens.steps
    exact (hf.makes hmakes).appends happends (hmakes.inRange hin)
  · intro label f f₁ new hin hjoins hf
    cases hjoins with
    | ended hended => exact hf
    | branch hopen happends hlocals => exact hf.appends happends hin
  · exact fun f place hf => ⟨hf.distinct, hf.taken⟩

/-! ### Programs -/

/-- The slots of a program are all that its first block holds when the statements begin. -/
theorem Prepares.blocks_start {w : Workspace} {d : Syntax.Function} {result : Ty} {f : Frame}
    {slots : List Inst} (h : Prepares d.body (programStart w d result) f slots) :
    ∃ entry, f.fn.blocks = [⟨entry, slots⟩] := by
  obtain ⟨entry, hblocks, -⟩ := programStart_blocks w d result
  refine ⟨entry, ?_⟩
  rw [h.blocks, hblocks, programStart_here, List.modify_zero_cons, Block.extend, List.nil_append]

theorem Builds.assembled {w : Workspace} {d : Syntax.Function} {result : Ty} {f : Frame}
    {parts : List (Stmt × List Inst)}
    (h : Builds result d.body (programStart w d result) parts f) : Assembled f := by
  have hin := programStart_inRange w d result
  have hslots : ∀ {f₁ : Frame} {slots : List Inst},
      Prepares d.body (programStart w d result) f₁ slots → Assembled f₁ := by
    intro f₁ slots hprepares b hb
    obtain ⟨entry, hblocks⟩ := hprepares.blocks_start
    obtain rfl : b = ⟨entry, slots⟩ := by simpa [hblocks] using hb
    exact Code.of_allocas hprepares.alloca
  cases h with
  | returned hprepares hlowers hreturn =>
    exact hlowers.assembled (hprepares.inRange hin) (hslots hprepares)
  | falls hprepares hlowers hreturn hopen happends hlocals =>
    have hin₁ := hprepares.inRange hin
    have hlowered := hlowers.assembled hin₁ (hslots hprepares)
    exact hlowered.appends happends hlocals (hlowers.grown.inRange hin₁) ⟨.ret _ _, trivial⟩

theorem Builds.named {w : Workspace} {d : Syntax.Function} {result : Ty} {f : Frame}
    {parts : List (Stmt × List Inst)}
    (h : Builds result d.body (programStart w d result) parts f) : Named f := by
  have hin := programStart_inRange w d result
  have hstart : Named (programStart w d result) := by
    obtain ⟨entry, hblocks, -⟩ := programStart_blocks w d result
    constructor <;> simp [hblocks]
  cases h with
  | returned hprepares hlowers hreturn =>
    exact hlowers.named (hprepares.inRange hin) (hstart.appends hprepares.toAppends hin)
  | falls hprepares hlowers hreturn hopen happends hlocals =>
    have hin₁ := hprepares.inRange hin
    have hlowered := hlowers.named hin₁ (hstart.appends hprepares.toAppends hin)
    exact hlowered.appends happends (hlowers.grown.inRange hin₁)

/-- The table of variables of a program and the instructions that make its slots. -/
def IsAllocation (d : Syntax.Function) (result : Ty) (locals : Table (Option Slot))
    (slots : List Inst) : Prop :=
  ∃ w f, exec (allocate d.body) (programStart w d result) = (.ok (), f) ∧ f.locals = locals ∧
    f.block.insts = slots

/-- The slots of a function are allocas at the very start of its first block, those of the table are among
them, and every local value that an instruction uses is the result of an instruction before it in the same
block or one of the slots, and stands before it on every path. -/
structure DefinedBeforeUse (fn : IR.Function) (locals : Table (Option Slot)) (slots : List Inst) :
    Prop where
  allocas : ∀ i ∈ slots, ∃ ty align, i.op = .alloca ty align
  table : ∀ x slot, locals.get? x = some (some slot) →
    ∃ align, ⟨slot.register, .alloca slot.ty align⟩ ∈ slots
  first : ∃ entry rest, fn.blocks.head? = some entry ∧ entry.insts = slots ++ rest
  distinct : ((fn.blocks.flatMap Block.insts).map Inst.name).Nodup
  uses : ∀ block place i, fn.at? block place = some i →
    ∀ name ty, .local name ty ∈ i.op.operands →
      ∃ block₀ place₀ definition, fn.at? block₀ place₀ = some definition ∧
        definition.name = name ∧ definition.op.result? = some ty ∧
        ((block₀ = block ∧ place₀ < place) ∨ (block₀ = 0 ∧ definition ∈ slots)) ∧
        fn.Dominates block₀ place₀ block place

/-- What an instruction takes from its own block stands before it there. -/
theorem exists_place_of_mem_take {fn : IR.Function} {block place : Nat} {b : Block} {i : Inst}
    (hb : fn.blocks[block]? = some b) (hi : i ∈ b.insts.take place) :
    ∃ place₀, place₀ < place ∧ fn.at? block place₀ = some i := by
  obtain ⟨place₀, hplace₀⟩ := List.getElem?_of_mem hi
  have hlt : place₀ < place := by
    have hlength := (List.getElem?_eq_some_iff.mp hplace₀).1
    rw [List.length_take] at hlength
    omega
  rw [List.getElem?_take_of_lt hlt] at hplace₀
  exact ⟨place₀, hlt, by rw [IR.Function.at?, hb, Option.bind_some, hplace₀]⟩

/-- A slot of the first block dominates every use of it: an alloca uses nothing, so the use is no slot. -/
theorem dominates_of_slot {fn : IR.Function} {entry : Block} {slots rest : List Inst}
    (hentry : fn.blocks[0]? = some entry) (hinsts : entry.insts = slots ++ rest)
    (hallocas : ∀ i ∈ slots, ∃ ty align, i.op = .alloca ty align) {place₀ : Nat}
    (hplace₀ : place₀ < slots.length) {block place : Nat} {i : Inst}
    (hi : fn.at? block place = some i) (huses : i.op.operands ≠ []) :
    fn.Dominates 0 place₀ block place := by
  refine fn.dominates_of_entry ?_
  rintro rfl
  by_contra hnot
  have hplace : place < slots.length := by omega
  rw [IR.Function.at?, hentry, Option.bind_some, hinsts, List.getElem?_append_left hplace] at hi
  obtain ⟨ty, align, hop⟩ := hallocas i (List.mem_of_getElem? hi)
  exact huses (by rw [hop]; rfl)

theorem Assembled.uses {f : Frame} (h : Assembled f) (hmaps : HoldsAddresses f.workspace.maps)
    {entry : Block} {slots rest : List Inst} (hentry : f.fn.blocks[0]? = some entry)
    (hinsts : entry.insts = slots ++ rest)
    (hallocas : ∀ i ∈ slots, ∃ ty align, i.op = .alloca ty align)
    (htable : ∀ x slot, f.locals.get? x = some (some slot) →
      ∃ align, ⟨slot.register, .alloca slot.ty align⟩ ∈ slots)
    {block place : Nat} {i : Inst} (hi : f.fn.at? block place = some i) {name : String} {ty : Ty}
    (huse : .local name ty ∈ i.op.operands) :
    ∃ block₀ place₀ definition, f.fn.at? block₀ place₀ = some definition ∧
      definition.name = name ∧ definition.op.result? = some ty ∧
      ((block₀ = block ∧ place₀ < place) ∨ (block₀ = 0 ∧ definition ∈ slots)) ∧
      f.fn.Dominates block₀ place₀ block place := by
  obtain ⟨b, hb, hplace⟩ := Option.bind_eq_some_iff.mp hi
  have hformed := (h b (List.mem_of_getElem? hb)).of_getElem? hplace
  cases hformed.origin _ huse with
  | @result definition _ hmem hty =>
    obtain ⟨place₀, hlt, hat⟩ := exists_place_of_mem_take hb (by simpa using hmem)
    exact ⟨block, place₀, definition, hat, rfl, hty, .inl ⟨rfl, hlt⟩, .inl ⟨rfl, hlt⟩⟩
  | @slot x s hs =>
    obtain ⟨align, hmem⟩ := htable x s hs
    obtain ⟨place₀, hplace₀⟩ := List.getElem?_of_mem hmem
    have hlt : place₀ < slots.length := (List.getElem?_eq_some_iff.mp hplace₀).1
    have hat : f.fn.at? 0 place₀ = some ⟨s.register, .alloca s.ty align⟩ := by
      rw [IR.Function.at?, hentry, Option.bind_some, hinsts, List.getElem?_append_left hlt, hplace₀]
    refine ⟨0, place₀, _, hat, rfl, rfl, .inr ⟨rfl, hmem⟩, ?_⟩
    exact dominates_of_slot hentry hinsts hallocas hlt hi (List.ne_nil_of_mem huse)
  | @map x _ ho =>
    -- the table of maps has no local values
    obtain ⟨ty', heq⟩ := hmaps x _ ho
    cases heq

theorem Builds.definedBeforeUse {w : Workspace} {d : Syntax.Function} {result : Ty} {f : Frame}
    {parts : List (Stmt × List Inst)}
    (h : Builds result d.body (programStart w d result) parts f) (hmaps : HoldsAddresses w.maps) :
    ∃ locals slots, IsAllocation d result locals slots ∧ DefinedBeforeUse f.fn locals slots := by
  obtain ⟨f₁, slots, g, hprepares, hlowers, hgrown⟩ := h.stages
  obtain ⟨f₀, hallocate, hstraight⟩ := hprepares.table
  obtain ⟨label, hblocks⟩ := hprepares.blocks_start
  have hgrows : Grown f₁ f := hlowers.grown.trans hgrown
  have hentry : f₁.fn.blocks[0]? = some ⟨label, slots⟩ := by simp [hblocks]
  have hblock : f₁.block = ⟨label, slots⟩ :=
    Frame.block_of_getElem? (by rw [hprepares.here]; exact hentry)
  obtain ⟨rest, hfirst⟩ := hgrows.extended 0 _ hentry
  have htable : ∀ x slot, f.locals.get? x = some (some slot) →
      ∃ align, ⟨slot.register, .alloca slot.ty align⟩ ∈ slots := by
    intro x slot hx
    rw [hgrows.locals] at hx
    obtain ⟨align, hmem⟩ := hprepares.tableMade x slot hx
    rw [hblock] at hmem
    exact ⟨align, hmem⟩
  have hallocation : IsAllocation d result f.locals slots := by
    refine ⟨w, f₀, hallocate, by rw [hgrows.locals, hstraight.locals], ?_⟩
    have hsame : f₀.block = f₁.block := by
      rw [Frame.block, Frame.block, hstraight.blocks_nil, hstraight.here]
    rw [hsame, hblock]
  have hmaps' : HoldsAddresses f.workspace.maps := by
    rw [h.sameContext.maps]
    exact hmaps
  exact ⟨f.locals, slots, hallocation, {
    allocas := hprepares.alloca
    table := htable
    first := ⟨_, rest, by rw [List.head?_eq_getElem?, hfirst], rfl⟩
    distinct := h.named.distinct
    uses := fun block place i hi name ty huse =>
      h.assembled.uses hmaps' hfirst rfl hprepares.alloca htable hi huse }⟩

/-- In every source that compiles after any earlier compilations, the slots of each function come first in
its first block, and every local value that is used has been made before, in the same block or as a slot,
on every path that control can take. -/
theorem source_definedBeforeUse {path : String} {text : List Char} {maps : Table Operand} {out : Text}
    {w : Workspace} (hmaps : Compile.Leaves maps)
    (h : exec (Compile.source path text) (Compile.start path maps) = (.ok out, w)) :
    ∃ m, Syntax.Module.parse (Lexer.universalNewlines text) = .ok m ∧
      List.Forall₂
        (fun d fn => fn.name = d.name ∧ ∃ locals slots, IsAllocation d fn.result locals slots ∧
          DefinedBeforeUse fn locals slots)
        m.programs w.module.functions := by
  obtain ⟨m, hparse, hall, -⟩ := source_inv h
  have hkept : HoldsAddresses w.maps :=
    (source_keepsAddresses path text).of_exec h (holdsAddresses_of_leaves hmaps)
  refine ⟨m, hparse, hall.imp fun d fn hlowered => ⟨hlowered.name, ?_⟩⟩
  obtain ⟨w₁, parts, f, hw₁, rfl, hbuilds⟩ := hlowered.builds
  exact hbuilds.definedBeforeUse (by rw [hw₁]; exact hkept)

/-- A program that reads variables in nested branches and passes a constant key to a map. -/
def branchingSource : List Char :=
  ("@bpf\n@map\ndef seen() -> HashMap:\n    return HashMap(key=c_int32, value=c_int64, max_entries=4)\n" ++
    "@bpf\ndef f() -> c_int64:\n    x = ktime()\n    if x > 3:\n        if x:\n" ++
    "            y = x + 1\n            seen().update(7, y)\n    return c_int64(0)\n").toList

theorem branchingSource_definedBeforeUse :
    ∃ (out : Text) (w : Workspace) (m : Syntax.Module),
      exec (Compile.source "prog.py" branchingSource) (Compile.start "prog.py" Table.empty) =
        (.ok out, w) ∧
      Syntax.Module.parse (Lexer.universalNewlines branchingSource) = .ok m ∧
      List.Forall₂
        (fun d fn => fn.name = d.name ∧ ∃ locals slots, IsAllocation d fn.result locals slots ∧
          DefinedBeforeUse fn locals slots)
        m.programs w.module.functions := by
  obtain ⟨out, w, hsource⟩ := exec_of_isOk
    (m := Compile.source "prog.py" branchingSource)
    (s := Compile.start "prog.py" Table.empty) (by decide +kernel)
  obtain ⟨m, hparse, hall⟩ := source_definedBeforeUse Compile.Leaves.empty hsource
  exact ⟨out, w, m, hsource, hparse, hall⟩

end BpfCompiler.Lower
