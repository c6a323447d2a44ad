import BpfCompiler.Proofs.FlowGraph
import BpfCompiler.Proofs.Programs

/-!
# Control flow of programs

The blocks of a branch are made in the order first suite, block behind the branch, second suite, while
control goes through the suites before it comes to the block behind them.  `Routed` keeps the order in which
control meets the blocks while a suite is lowered: the blocks that are complete, and at the end the current
one, which goes nowhere yet.  Whatever the nesting of branches and wherever the returns stand, the
function that comes out has a well-formed graph.
-/

namespace BpfCompiler.Syntax.Stmt

/-- How many blocks a statement adds, apart from those of the statements inside it. -/
def newBlocks : Stmt → Nat
  | .cond _ _ orelse => if orelse.isEmpty then 2 else 3
  | _ => 0

theorem newBlocks_of_isSimple {s : Stmt} (h : s.isSimple = true) : s.newBlocks = 0 := by
  cases s <;> first | rfl | simp [isSimple] at h

/-- How many blocks the statements of a list add together. -/
def newBlocksSum : List Stmt → Nat
  | [] => 0
  | s :: rest => s.newBlocks + newBlocksSum rest

theorem newBlocksSum_append (first second : List Stmt) :
    newBlocksSum (first ++ second) = newBlocksSum first + newBlocksSum second := by
  induction first with
  | nil => simp [newBlocksSum]
  | cons s rest ih =>
    rw [List.cons_append, newBlocksSum, newBlocksSum, ih, Nat.add_assoc]

/-- How many blocks a suite adds to the current one. -/
def newBlocksAll (body : List Stmt) : Nat := newBlocksSum (reachedAll body)

theorem newBlocksAll_cond (test : Expr) (body orelse tail : List Stmt) :
    newBlocksAll (.cond test body orelse :: tail) =
      (cond test body orelse).newBlocks + newBlocksAll body + newBlocksAll orelse +
        newBlocksAll tail := by
  rw [newBlocksAll, reachedAll, reached, newBlocksSum_append, newBlocksSum, newBlocksSum_append]
  simp only [newBlocksAll, Nat.add_assoc]

theorem newBlocksAll_cons {s : Stmt} (h : s.reached = [s]) (rest : List Stmt) :
    newBlocksAll (s :: rest) = s.newBlocks + newBlocksAll rest := by
  rw [newBlocksAll, reachedAll, h, newBlocksSum_append]
  rfl

end BpfCompiler.Syntax.Stmt

namespace BpfCompiler.Lower

open IR Syntax Emit

/-! ### Labels -/

/-- The blocks have different labels, all taken from the scope of the function. -/
structure Labelled (f : Frame) : Prop where
  distinct : (f.fn.blocks.map Block.label).Nodup
  taken : f.fn.blocks.map Block.label ⊆ f.fn.scope.used

theorem Appends.labels {f f' : Frame} {new : List Inst} (h : Appends f f' new) :
    f'.fn.blocks.map Block.label = f.fn.blocks.map Block.label := by
  rw [h.blocks]
  apply List.ext_getElem?
  intro i
  rw [List.getElem?_map, List.getElem?_map, List.getElem?_modify]
  cases f.fn.blocks[i]? with
  | none => rfl
  | some b =>
    simp only [Option.map_some]
    split <;> rfl

namespace Labelled

theorem appends {f f' : Frame} {new : List Inst} (h : Labelled f) (happends : Appends f f' new) :
    Labelled f' where
  distinct := by
    rw [happends.labels]
    exact h.distinct
  taken := by
    rw [happends.labels]
    exact fun label hlabel => happends.used (h.taken hlabel)

theorem makes {f f' : Frame} {arms : Arms} (h : Labelled f) (hmakes : Makes f f' arms) :
    Labelled f' := by
  have hlabels : f'.fn.blocks.map Block.label = f.fn.blocks.map Block.label ++ arms.labels := by
    rw [hmakes.blocks, List.map_append, List.map_map]
    exact congrArg (f.fn.blocks.map Block.label ++ ·) (List.map_id arms.labels)
  constructor
  · rw [hlabels, List.nodup_append]
    refine ⟨h.distinct, hmakes.distinct, ?_⟩
    rintro label hlabel other hother rfl
    exact hmakes.fresh label hother (h.taken hlabel)
  · rw [hlabels]
    exact List.append_subset.mpr
      ⟨fun label hlabel => hmakes.used (h.taken hlabel), fun label => hmakes.taken label⟩

theorem opens {test : Expr} {f g : Frame} {arms : Arms} {new : List Inst} (h : Labelled f)
    (hopens : Opens test f g arms new) : Labelled g := by
  obtain ⟨f₁, hmakes, happends, -⟩ := hopens.steps
  exact (h.makes hmakes).appends happends

theorem joins {f f' : Frame} {label : String} {new : List Inst} (h : Labelled f)
    (hjoins : Joins label f f' new) : Labelled f' := by
  cases hjoins with
  | ended hended => exact h
  | branch hopen happends hlocals => exact h.appends happends

theorem moved {f : Frame} (h : Labelled f) (place : Nat) : Labelled (f.moved place) :=
  ⟨h.distinct, h.taken⟩

end Labelled

theorem Lowers.labelled {result : Ty} {body : List Stmt} {f f' : Frame}
    {parts : List (Stmt × List Inst)} (h : Lowers result body f parts f') (hf : Labelled f) :
    Labelled f' := by
  induction h with
  | nil => exact hf
  | simple hsimple hexec hstraight hrest ih => exact ih (hf.appends hstraight.toAppends)
  | ret hopen hoperand happends hlocals hrest ih => exact ih (hf.appends happends)
  | branch hopens hother hbody hjoins hrest ihbody ihrest =>
    exact ihrest (((ihbody ((hf.opens hopens).moved _)).joins hjoins).moved _)
  | branchElse helse hopens hother hbody hjoins horelse hjoins' hrest ihbody ihorelse ihrest =>
    have hfirst := (ihbody ((hf.opens hopens).moved _)).joins hjoins
    exact ihrest (((ihorelse (hfirst.moved _)).joins hjoins').moved _)

/-! ### The number of blocks -/

theorem Appends.length {f f' : Frame} {new : List Inst} (h : Appends f f' new) :
    f'.fn.blocks.length = f.fn.blocks.length := by
  rw [h.blocks, List.length_modify]

theorem Joins.length {label : String} {f f' : Frame} {new : List Inst}
    (h : Joins label f f' new) : f'.fn.blocks.length = f.fn.blocks.length := by
  cases h with
  | ended hended => rfl
  | branch hopen happends hlocals => exact happends.length

theorem Lowers.length {result : Ty} {body : List Stmt} {f f' : Frame}
    {parts : List (Stmt × List Inst)} (h : Lowers result body f parts f') :
    f'.fn.blocks.length = f.fn.blocks.length + Stmt.newBlocksAll body := by
  induction h with
  | nil => rfl
  | simple hsimple hexec hstraight hrest ih =>
    rw [ih, hstraight.length, Stmt.newBlocksAll_cons (Stmt.reached_of_isSimple hsimple),
      Stmt.newBlocks_of_isSimple hsimple, Nat.zero_add]
  | @ret result value o rest f f₁ f₂ name parts hopen hoperand happends hlocals hrest ih =>
    rw [ih, happends.length, Stmt.newBlocksAll_cons (by rw [Stmt.reached]; simp)]
    simp [Stmt.newBlocks]
  | @branch result test body rest f g g₁ g₂ f' arms new join parts₁ parts₂ hopens hother hbody hjoins
      hrest ihbody ihrest =>
    have hlabels : arms.labels.length = 2 := by simp [Arms.labels, hother]
    have hcount : (Stmt.cond test body []).newBlocks = 2 := rfl
    have hnil : Stmt.newBlocksAll [] = 0 := rfl
    have hopened := hopens.length
    have hjoined := hjoins.length
    rw [Frame.moved_fn] at ihbody ihrest
    rw [Stmt.newBlocksAll_cond, hcount]
    omega
  | @branchElse result test body orelse rest f g g₁ g₂ g₃ g₄ f' arms elseBlock elseLabel new join join'
      parts₁ parts₂ parts₃ helse hopens hother hbody hjoins horelse hjoins' hrest ihbody ihorelse
      ihrest =>
    have hlabels : arms.labels.length = 3 := by simp [Arms.labels, hother]
    have hcount : (Stmt.cond test body orelse).newBlocks = 3 := by simp [Stmt.newBlocks, helse]
    have hopened := hopens.length
    have hjoined := hjoins.length
    have hjoined' := hjoins'.length
    rw [Frame.moved_fn] at ihbody ihorelse ihrest
    rw [Stmt.newBlocksAll_cond, hcount]
    omega

/-! ### Where the current block ends -/

/-- A suite leaves the current block ended if it was so before, or if one of its own statements is a
return.  What happens inside branches does not matter: control goes on behind them. -/
theorem Lowers.isTerminated {result : Ty} {body : List Stmt} {f f' : Frame}
    {parts : List (Stmt × List Inst)} (h : Lowers result body f parts f')
    (hin : f.here < f.fn.blocks.length) :
    f'.block.isTerminated = (f.block.isTerminated || body.any Stmt.isReturn) := by
  induction h with
  | nil => simp
  | @simple result s rest f f₁ f₂ new parts hsimple hexec hstraight hrest ih =>
    have hreturn : s.isReturn = false := by
      cases s <;> first | rfl | simp [Stmt.isSimple] at hsimple
    rw [ih (hstraight.grown.inRange hin), hstraight.isTerminated hin, List.any_cons, hreturn,
      Bool.false_or]
  | ret hopen hoperand happends hlocals hrest ih =>
    have hended := happends.block hin
    rw [ih ((happends.grown hlocals).inRange hin), hended, isTerminated_extend]
    simp [Op.isTerminator, Stmt.isReturn]
  | @branch result test body rest f g g₁ g₂ f' arms new join parts₁ parts₂ hopens hother hbody hjoins
      hrest ihbody ihrest =>
    have harm := hbody.grown.trans hjoins.grown
    have hend := hopens.getElem?_end_after hin harm
    have hblock : (g₂.moved arms.endBlock).block = ⟨arms.endLabel, []⟩ :=
      Frame.block_of_getElem? hend
    rw [ihrest (List.getElem?_eq_some_iff.mp hend).1, hblock, hopens.isOpen]
    rfl
  | @branchElse result test body orelse rest f g g₁ g₂ g₃ g₄ f' arms elseBlock elseLabel new join join'
      parts₁ parts₂ parts₃ helse hopens hother hbody hjoins horelse hjoins' hrest ihbody ihorelse
      ihrest =>
    have harm := hbody.grown.trans hjoins.grown
    have harm' := horelse.grown.trans hjoins'.grown
    have hend := hopens.getElem?_end_after_else hin hother harm harm'
    have hblock : (g₄.moved arms.endBlock).block = ⟨arms.endLabel, []⟩ :=
      Frame.block_of_getElem? hend
    rw [ihrest (List.getElem?_eq_some_iff.mp hend).1, hblock, hopens.isOpen]
    rfl

/-! ### The order of control -/

/-- The current block goes nowhere yet: if anything ends it, a return does. -/
structure Tip (b : Block) : Prop where
  terminators : b.terminators.length ≤ 1
  targets : b.targets = []

theorem Tip.of_open {b : Block} (h : b.isTerminated = false) : Tip b where
  terminators := by simp [Block.terminators_of_open h]
  targets := Block.targets_of_open h

theorem Tip.one {b : Block} (h : Tip b) (hended : b.isTerminated = true) :
    b.terminators.length = 1 := by
  rw [Block.isTerminated_eq] at hended
  have hne : b.terminators ≠ [] := by simpa using hended
  have hpos := List.length_pos_iff.mpr hne
  have hle := h.terminators
  omega

theorem Tip.extend {b : Block} (h : Tip b) {new : List Inst}
    (hnew : ∀ i ∈ new, i.op.isTerminator = false) : Tip (b.extend new) := by
  obtain ⟨hterminators, htargets⟩ := Block.extend_plain hnew b
  exact ⟨by rw [hterminators]; exact h.terminators, by rw [htargets]; exact h.targets⟩

theorem Tip.ret {b : Block} (h : b.isTerminated = false) (name : String) (o : Operand) :
    Tip (b.extend [⟨name, .ret o⟩]) where
  terminators := by
    rw [Block.terminators_extend, Block.terminators_of_open h]
    exact Nat.le_refl 1
  targets := by
    rw [Block.targets_extend, Block.targets_of_open h]
    rfl

/-- Between the two frames control passes the blocks `passed`, which are complete, and comes to the block
that is current at the end.  `new` are the blocks that were made in between, in the same order. -/
structure Routed (f f' : Frame) (passed new : List Nat) : Prop where
  joined : passed ++ [f'.here] = f.here :: new
  mem_new : ∀ i, i ∈ new ↔ f.fn.blocks.length ≤ i ∧ i < f'.fn.blocks.length
  distinct : new.Nodup
  ordered : Ordered f'.fn.blocks passed [f'.here]
  tip : Tip f'.block

theorem Grown.labelAt {f f' : Frame} (h : Grown f f') {label : String} {i : Nat}
    (hat : LabelAt f.fn.blocks label i) : LabelAt f'.fn.blocks label i := by
  obtain ⟨b, hb, hlabel⟩ := hat
  obtain ⟨more, hmore⟩ := h.extended i b hb
  exact ⟨_, hmore, hlabel⟩

namespace Routed

/-- Nothing is passed while the current block stays the same. -/
theorem stay {f f' : Frame} {new : List Inst} (happends : Appends f f' new) (htip : Tip f'.block) :
    Routed f f' [] [] where
  joined := by rw [happends.here]; rfl
  mem_new := by
    intro i
    rw [happends.length]
    simp
  distinct := List.nodup_nil
  ordered := trivial
  tip := htip

/-- The block that is current at the end is not among those passed. -/
theorem here_not_mem {f f' : Frame} {passed new : List Nat} (h : Routed f f' passed new)
    (hin : f.here < f.fn.blocks.length) : (passed ++ [f'.here]).Nodup := by
  rw [h.joined, List.nodup_cons]
  refine ⟨fun hmem => ?_, h.distinct⟩
  have hle := ((h.mem_new f.here).mp hmem).1
  omega

theorem later {f f' f'' : Frame} {passed new : List Nat} (h : Routed f f' passed new)
    (hin : f.here < f.fn.blocks.length) (hgrown : Grown f' f'') :
    Ordered f''.fn.blocks passed [f'.here] := by
  refine h.ordered.transfer ?_ fun i label => hgrown.labelAt
  intro i b hi hb
  refine hgrown.others i b hb ?_
  rintro rfl
  have hnodup := h.here_not_mem hin
  rw [List.nodup_append] at hnodup
  exact hnodup.2.2 _ hi _ (List.mem_singleton_self _) rfl

theorem trans {f f₁ f₂ : Frame} {passed passed' new new' : List Nat} (h : Routed f f₁ passed new)
    (h' : Routed f₁ f₂ passed' new') (hgrown : Grown f₁ f₂) (hfirst : Grown f f₁)
    (hin : f.here < f.fn.blocks.length) : Routed f f₂ (passed ++ passed') (new ++ new') where
  joined := by
    rw [List.append_assoc, h'.joined, List.append_cons, h.joined]
    rfl
  mem_new := by
    intro i
    have hle := hfirst.length_le
    have hle' := hgrown.length_le
    rw [List.mem_append, h.mem_new, h'.mem_new]
    omega
  distinct := by
    rw [List.nodup_append]
    refine ⟨h.distinct, h'.distinct, ?_⟩
    rintro i hi j hj rfl
    have hlt := ((h.mem_new i).mp hi).2
    have hle := ((h'.mem_new i).mp hj).1
    omega
  ordered := by
    refine Ordered.append ?_ h'.ordered
    rw [h'.joined]
    exact (h.later hin hgrown).mono (List.cons_subset_cons _ (List.nil_subset _))
  tip := h'.tip

/-- A suite that goes on at a label is complete as a whole. -/
theorem join {f f' f'' : Frame} {passed new : List Nat} {label : String} {last : List Inst}
    (h : Routed f f' passed new) (hin : f.here < f.fn.blocks.length) (hfirst : Grown f f')
    (hjoins : Joins label f' f'' last) {j : Nat} (hat : LabelAt f''.fn.blocks label j) :
    Ordered f''.fn.blocks (f.here :: new) [j] := by
  rw [← h.joined]
  refine Ordered.append ((h.later hin hjoins.grown).mono ?_) ⟨?_, trivial⟩
  · exact List.cons_subset_cons _ (List.nil_subset _)
  · have hin' := hfirst.inRange hin
    cases hjoins with
    | ended hended =>
      -- the suite has returned, so its last block goes nowhere
      refine ⟨_, Frame.getElem?_here hin', h.tip.one hended, ?_⟩
      rw [h.tip.targets]
      simp
    | branch hopen happends hlocals =>
      have hblock := happends.block hin'
      refine ⟨f''.block, ?_, ?_, ?_⟩
      · rw [← happends.here]
        exact Frame.getElem?_here (by rw [happends.here, happends.length]; exact hin')
      · rw [hblock, Block.terminators_extend, Block.terminators_of_open hopen]
        rfl
      · rw [hblock, Block.targets_extend, Block.targets_of_open hopen]
        intro target htarget
        obtain rfl : target = label := by simpa [Op.targets] using htarget
        exact ⟨j, by simp, hat⟩

end Routed

/-- The block that ends in a branch is complete, and goes to the blocks of the branch. -/
theorem Opens.isSealed {test : Expr} {f g : Frame} {arms : Arms} {new : List Inst}
    (h : Opens test f g arms new) {blocks : List Block} {later : List Nat}
    (hstart : blocks[f.here]? = some (f.block.extend new))
    (hyes : ∃ j ∈ later, LabelAt blocks arms.thenLabel j)
    (hno : ∃ j ∈ later, LabelAt blocks arms.otherwise j) : Sealed blocks later f.here := by
  obtain ⟨code, condition, name, hnew, hcode⟩ := h.shape
  obtain ⟨hterminators, htargets⟩ := Block.extend_plain hcode f.block
  rw [hnew, ← Block.extend_extend] at hstart
  refine ⟨_, hstart, ?_, ?_⟩
  · rw [Block.terminators_extend, hterminators, Block.terminators_of_open h.isOpen]
    rfl
  · rw [Block.targets_extend, htargets, Block.targets_of_open h.isOpen]
    intro label hlabel
    have hcases : label = arms.thenLabel ∨ label = arms.otherwise := by
      simpa [Op.targets] using hlabel
    rcases hcases with rfl | rfl
    · exact hyes
    · exact hno

theorem Tip.empty (label : String) : Tip ⟨label, []⟩ := Tip.of_open rfl

namespace Routed

theorem branch {test : Expr} {f g g₁ g₂ : Frame} {arms : Arms} {code last : List Inst}
    {passed new : List Nat} (hopens : Opens test f g arms code) (hin : f.here < f.fn.blocks.length)
    (hother : arms.other = none) (harm : Grown (g.moved arms.thenBlock) g₁)
    (hbody : Routed (g.moved arms.thenBlock) g₁ passed new)
    (hjoins : Joins arms.endLabel g₁ g₂ last) :
    Routed f (g₂.moved arms.endBlock) (f.here :: arms.thenBlock :: new)
      (arms.thenBlock :: (new ++ [arms.endBlock])) := by
  have hlabels : arms.labels.length = 2 := by simp [Arms.labels, hother]
  have hopened := hopens.length
  have hthen := hopens.thenBlock
  have hend := hopens.endBlock
  have hjoined := hjoins.length
  have hinner : ∀ i, i ∈ new ↔ g.fn.blocks.length ≤ i ∧ i < g₁.fn.blocks.length := hbody.mem_new
  have hle : g.fn.blocks.length ≤ g₁.fn.blocks.length := harm.length_le
  have hdone := harm.trans hjoins.grown
  have hafter := hopens.getElem?_end_after hin hdone
  have hendAt : LabelAt g₂.fn.blocks arms.endLabel arms.endBlock := ⟨_, hafter, rfl⟩
  have hthenAt : LabelAt g₂.fn.blocks arms.thenLabel arms.thenBlock :=
    hdone.labelAt ⟨_, hopens.getElem?_then hin, rfl⟩
  refine ⟨rfl, ?_, ?_, ⟨?_, ?_⟩, ?_⟩
  · intro i
    rw [List.mem_cons, List.mem_append, List.mem_singleton, hinner, Frame.moved_fn]
    omega
  · rw [List.nodup_cons, List.nodup_append, List.mem_append, List.mem_singleton, hinner]
    refine ⟨by omega, hbody.distinct, List.nodup_singleton _, ?_⟩
    intro i hi j hj heq
    have hbounds := (hinner i).mp hi
    have hlast := List.mem_singleton.mp hj
    omega
  · have hstart := hopens.getElem?_start_after hin hdone
    refine hopens.isSealed hstart ⟨_, List.mem_cons_self, hthenAt⟩ ⟨arms.endBlock, by simp, ?_⟩
    rw [Arms.otherwise, hother]
    exact hendAt
  · have hinThen : (g.moved arms.thenBlock).here < (g.moved arms.thenBlock).fn.blocks.length := by
      rw [Frame.moved_here, Frame.moved_fn]
      omega
    exact hbody.join hinThen harm hjoins hendAt
  · rw [Frame.block_of_getElem? hafter]
    exact Tip.empty _

theorem branchElse {test : Expr} {f g g₁ g₂ g₃ g₄ : Frame} {arms : Arms} {elseBlock : Nat}
    {elseLabel : String} {code last last' : List Inst} {passed new passed' new' : List Nat}
    (hopens : Opens test f g arms code) (hin : f.here < f.fn.blocks.length)
    (hother : arms.other = some (elseBlock, elseLabel))
    (harm : Grown (g.moved arms.thenBlock) g₁)
    (hbody : Routed (g.moved arms.thenBlock) g₁ passed new)
    (hjoins : Joins arms.endLabel g₁ g₂ last)
    (harm' : Grown (g₂.moved elseBlock) g₃)
    (horelse : Routed (g₂.moved elseBlock) g₃ passed' new')
    (hjoins' : Joins arms.endLabel g₃ g₄ last') :
    Routed f (g₄.moved arms.endBlock)
      (f.here :: ((arms.thenBlock :: new) ++ (elseBlock :: new')))
      ((arms.thenBlock :: new) ++ (elseBlock :: new') ++ [arms.endBlock]) := by
  have hlabels : arms.labels.length = 3 := by simp [Arms.labels, hother]
  have hopened := hopens.length
  have hthen := hopens.thenBlock
  have hend := hopens.endBlock
  have hplace := hopens.elseBlock hother
  have hjoined := hjoins.length
  have hjoined' := hjoins'.length
  have hinner : ∀ i, i ∈ new ↔ g.fn.blocks.length ≤ i ∧ i < g₁.fn.blocks.length := hbody.mem_new
  have hinner' : ∀ i, i ∈ new' ↔ g₂.fn.blocks.length ≤ i ∧ i < g₃.fn.blocks.length :=
    horelse.mem_new
  have hle : g.fn.blocks.length ≤ g₁.fn.blocks.length := harm.length_le
  have hle' : g₂.fn.blocks.length ≤ g₃.fn.blocks.length := harm'.length_le
  have hfirst := harm.trans hjoins.grown
  have hsecond := harm'.trans hjoins'.grown
  have hafter := hopens.getElem?_end_after_else hin hother hfirst hsecond
  have hendAt : LabelAt g₄.fn.blocks arms.endLabel arms.endBlock := ⟨_, hafter, rfl⟩
  have hmiddle : LabelAt g₂.fn.blocks arms.endLabel arms.endBlock :=
    ⟨_, hopens.getElem?_end_after hin hfirst, rfl⟩
  have hthenMiddle : LabelAt g₂.fn.blocks arms.thenLabel arms.thenBlock :=
    hfirst.labelAt ⟨_, hopens.getElem?_then hin, rfl⟩
  have hthenAt : LabelAt g₄.fn.blocks arms.thenLabel arms.thenBlock := hsecond.labelAt hthenMiddle
  have helseMiddle : LabelAt g₂.fn.blocks elseLabel elseBlock :=
    ⟨_, hopens.getElem?_else_after hin hother hfirst, rfl⟩
  have helseAt : LabelAt g₄.fn.blocks elseLabel elseBlock := hsecond.labelAt helseMiddle
  have hinThen : (g.moved arms.thenBlock).here < (g.moved arms.thenBlock).fn.blocks.length := by
    rw [Frame.moved_here, Frame.moved_fn]
    omega
  have hinElse : (g₂.moved elseBlock).here < (g₂.moved elseBlock).fn.blocks.length := by
    rw [Frame.moved_here, Frame.moved_fn]
    omega
  have hordered : Ordered g₂.fn.blocks (arms.thenBlock :: new) [arms.endBlock] :=
    hbody.join hinThen harm hjoins hmiddle
  have hordered' : Ordered g₄.fn.blocks (elseBlock :: new') [arms.endBlock] :=
    horelse.join hinElse harm' hjoins' hendAt
  have hne : ∀ i ∈ arms.thenBlock :: new, i ∉ elseBlock :: new' := by
    intro i hi hi'
    rw [List.mem_cons, hinner] at hi
    rw [List.mem_cons, hinner'] at hi'
    omega
  refine ⟨rfl, ?_, ?_, ⟨?_, ?_⟩, ?_⟩
  · intro i
    rw [List.mem_append, List.mem_append, List.mem_cons, List.mem_cons, List.mem_singleton, hinner,
      hinner', Frame.moved_fn]
    omega
  · rw [List.nodup_append, List.nodup_append]
    refine ⟨⟨?_, ?_, fun i hi j hj heq => hne i hi (heq ▸ hj)⟩, List.nodup_singleton _, ?_⟩
    · rw [List.nodup_cons, hinner]
      exact ⟨by omega, hbody.distinct⟩
    · rw [List.nodup_cons, hinner']
      exact ⟨by omega, horelse.distinct⟩
    · intro i hi j hj heq
      rw [List.mem_append, List.mem_cons, List.mem_cons, hinner, hinner'] at hi
      have hlast := List.mem_singleton.mp hj
      omega
  · have hstart := hopens.getElem?_start_after_else hin hother hfirst hsecond
    refine hopens.isSealed hstart ⟨_, by simp, hthenAt⟩ ⟨elseBlock, by simp, ?_⟩
    rw [Arms.otherwise, hother]
    exact helseAt
  · refine Ordered.append ?_ hordered'
    refine (hordered.transfer ?_ fun i label => hsecond.labelAt).mono (by simp)
    intro i b hi hb
    refine hsecond.others i b hb ?_
    rw [Frame.moved_here]
    rintro rfl
    exact hne _ hi List.mem_cons_self
  · rw [Frame.block_of_getElem? hafter]
    exact Tip.empty _

end Routed

/-- Control passes a suite that is lowered from its first block to its last. -/
theorem Lowers.routed {result : Ty} {body : List Stmt} {f f' : Frame}
    {parts : List (Stmt × List Inst)} (h : Lowers result body f parts f')
    (hin : f.here < f.fn.blocks.length) (htip : Tip f.block) :
    ∃ passed new, Routed f f' passed new := by
  induction h with
  | nil => exact ⟨[], [], Routed.stay (Appends.refl _) htip⟩
  | simple hsimple hexec hstraight hrest ih =>
    have htip₁ := htip.extend hstraight.plain
    rw [← hstraight.block hin] at htip₁
    obtain ⟨passed, new, hrouted⟩ := ih (hstraight.grown.inRange hin) htip₁
    exact ⟨_, _, (Routed.stay hstraight.toAppends htip₁).trans hrouted hrest.grown hstraight.grown
      hin⟩
  | @ret result value o rest f f₁ f₂ name parts hopen hoperand happends hlocals hrest ih =>
    have hblock := happends.block hin
    have htip₁ : Tip f₁.block := by
      rw [hblock]
      exact Tip.ret hopen _ _
    have hgrown := happends.grown hlocals
    obtain ⟨passed, new, hrouted⟩ := ih (hgrown.inRange hin) htip₁
    exact ⟨_, _, (Routed.stay happends htip₁).trans hrouted hrest.grown hgrown hin⟩
  | @branch result test body rest f g g₁ g₂ f' arms code join parts₁ parts₂ hopens hother hbody hjoins
      hrest ihbody ihrest =>
    have hthen := hopens.getElem?_then hin
    have hafter := hopens.getElem?_end_after hin (hbody.grown.trans hjoins.grown)
    obtain ⟨passed, new, hinner⟩ := ihbody (List.getElem?_eq_some_iff.mp hthen).1
      (by rw [Frame.block_of_getElem? hthen]; exact Tip.empty _)
    -- the block behind the branch is older than those of the suite, but comes after them on the route
    have hfirst := Routed.branch hopens hin hother hbody.grown hinner hjoins
    obtain ⟨passed', new', hlast⟩ := ihrest (List.getElem?_eq_some_iff.mp hafter).1 hfirst.tip
    have hgrown := hopens.grown_after (hbody.grown.trans hjoins.grown)
    exact ⟨_, _, hfirst.trans hlast hrest.grown hgrown hin⟩
  | @branchElse result test body orelse rest f g g₁ g₂ g₃ g₄ f' arms elseBlock elseLabel new join join'
      parts₁ parts₂ parts₃ helse hopens hother hbody hjoins horelse hjoins' hrest ihbody ihorelse
      ihrest =>
    have harm := hbody.grown.trans hjoins.grown
    have harm' := horelse.grown.trans hjoins'.grown
    have hthen := hopens.getElem?_then hin
    have helseAt := hopens.getElem?_else_after hin hother harm
    have hafter := hopens.getElem?_end_after_else hin hother harm harm'
    obtain ⟨passed, new, hinner⟩ := ihbody (List.getElem?_eq_some_iff.mp hthen).1
      (by rw [Frame.block_of_getElem? hthen]; exact Tip.empty _)
    obtain ⟨passed', new', hinner'⟩ := ihorelse (List.getElem?_eq_some_iff.mp helseAt).1
      (by rw [Frame.block_of_getElem? helseAt]; exact Tip.empty _)
    have hfirst := Routed.branchElse hopens hin hother hbody.grown hinner hjoins horelse.grown
      hinner' hjoins'
    obtain ⟨passed'', new'', hlast⟩ := ihrest (List.getElem?_eq_some_iff.mp hafter).1 hfirst.tip
    have hgrown := hopens.grown_after_else hother harm harm'
    exact ⟨_, _, hfirst.trans hlast hrest.grown hgrown hin⟩

/-! ### Programs -/

theorem programStart_labelled (w : Workspace) (d : Syntax.Function) (result : Ty) :
    Labelled (programStart w d result) := by
  obtain ⟨entry, hblocks, hentry⟩ := programStart_blocks w d result
  constructor
  · rw [hblocks]
    simp
  · rw [hblocks]
    simpa using hentry

theorem programStart_open (w : Workspace) (d : Syntax.Function) (result : Ty) :
    (programStart w d result).block.isTerminated = false := rfl

/-- A route from the entry that has ended makes the graph well-formed. -/
theorem Routed.wellFormedFlow {f f' : Frame} {passed new : List Nat} (h : Routed f f' passed new)
    (hhere : f.here = 0) (hblocks : f.fn.blocks.length = 1) (hgrown : Grown f f')
    (hlabelled : Labelled f') (hended : f'.block.isTerminated = true) : f'.fn.WellFormedFlow := by
  have hin : f.here < f.fn.blocks.length := by omega
  have hnodup := h.here_not_mem hin
  have hlast : Ordered f'.fn.blocks [f'.here] [] := by
    refine ⟨⟨_, Frame.getElem?_here (hgrown.inRange hin), ?_, ?_⟩, trivial⟩
    · exact h.tip.one hended
    · simp [h.tip.targets]
  have hordered : Ordered f'.fn.blocks (passed ++ [f'.here]) [] := h.ordered.append hlast
  rw [h.joined, hhere] at hnodup hordered
  refine Function.wellFormedFlow_of_ordered hlabelled.distinct hnodup ?_ hordered
  intro i hi
  rw [List.mem_cons, h.mem_new]
  omega

/-- The slots leave the entry open, with its label. -/
theorem Allocates.entry {w : Workspace} {d : Syntax.Function} {result : Ty} {f : Frame}
    {slots : List Inst} (h : Allocates (programStart w d result) f slots) :
    f.here = 0 ∧ f.fn.blocks.length = 1 ∧ f.block.isTerminated = false ∧ Labelled f := by
  have hblock := h.block (programStart_inRange w d result)
  refine ⟨h.here, h.length, ?_, (programStart_labelled w d result).appends h.toAppends⟩
  rw [hblock, isTerminated_extend, programStart_open, Bool.false_or, List.any_eq_false]
  intro i hi
  simp [h.plain i hi]

theorem Builds.wellFormedFlow {result : Ty} {w : Workspace} {d : Syntax.Function} {f : Frame}
    {parts : List (Stmt × List Inst)}
    (h : Builds result d.body (programStart w d result) parts f) : f.fn.WellFormedFlow := by
  cases h with
  | @returned f₁ f' slots parts hslots hlowers hreturn =>
    obtain ⟨hhere, hlength, hentry, hlabelled⟩ := hslots.entry
    have hin : f₁.here < f₁.fn.blocks.length := by omega
    obtain ⟨passed, new, hrouted⟩ := hlowers.routed hin (Tip.of_open hentry)
    have hended := hlowers.isTerminated hin
    rw [hreturn, Bool.or_true] at hended
    exact hrouted.wellFormedFlow hhere hlength hlowers.grown (hlowers.labelled hlabelled) hended
  | @falls f₁ g f' slots parts name hslots hlowers hreturn hopen happends hlocals =>
    obtain ⟨hhere, hlength, hentry, hlabelled⟩ := hslots.entry
    have hin : f₁.here < f₁.fn.blocks.length := by omega
    obtain ⟨passed, new, hrouted⟩ := hlowers.routed hin (Tip.of_open hentry)
    have hgrown := happends.grown hlocals
    have hblock := happends.block (hlowers.grown.inRange hin)
    have htip : Tip f.block := by
      rw [hblock]
      exact Tip.ret hopen _ _
    have hended : f.block.isTerminated = true := by
      rw [hblock, isTerminated_extend]
      simp [Op.isTerminator]
    exact (hrouted.trans (Routed.stay happends htip) hgrown hlowers.grown hin).wellFormedFlow hhere
      hlength (hlowers.grown.trans hgrown) ((hlowers.labelled hlabelled).appends happends) hended

theorem Builds.length {result : Ty} {w : Workspace} {d : Syntax.Function} {f : Frame}
    {parts : List (Stmt × List Inst)}
    (h : Builds result d.body (programStart w d result) parts f) :
    f.fn.blocks.length = 1 + Stmt.newBlocksAll d.body := by
  cases h with
  | returned hslots hlowers hreturn =>
    rw [hlowers.length, hslots.entry.2.1]
  | falls hslots hlowers hreturn hopen happends hlocals =>
    rw [happends.length, hlowers.length, hslots.entry.2.1]

/-- A body that asks for the final return leaves an open block for it. -/
theorem lowerStatements_open {d : Syntax.Function} {result : Ty} {w : Workspace} {f : Frame}
    (h : exec (lowerStatements result d.body) (programStart w d result) = (.ok false, f)) :
    f.block.isTerminated = false := by
  obtain ⟨hreturned, f₁, slots, parts, hslots, hlowers⟩ :=
    lowerStatements_inv h (programStart_inRange w d result)
  obtain ⟨hhere, hlength, hentry, -⟩ := hslots.entry
  rw [hlowers.isTerminated (by omega), hentry, ← hreturned, Bool.or_false]

/-- Every program that is built becomes a function with a well-formed flow graph, whatever the nesting of its
branches and wherever its returns stand.  Beside the entry it has the blocks of the branches that the
lowering meets, and the return at the end never comes to a block that has ended. -/
theorem buildProgram_wellFormedFlow {d : Syntax.Function} {result : Ty} {w w' : Workspace}
    (h : exec (buildProgram d result) w = (.ok (), w')) :
    ∃ (fn : IR.Function) (added : List Variable),
      w'.module.globals = w.module.globals ++ .function fn :: added.map Global.variable ∧
      fn.name = d.name ∧ fn.WellFormedFlow ∧
      fn.blocks.length = 1 + Stmt.newBlocksSum (Stmt.reachedAll d.body) ∧
      ∀ (w₁ : Workspace) (f : Frame),
        exec (lowerStatements result d.body) (programStart w₁ d result) = (.ok false, f) →
          f.block.isTerminated = false := by
  obtain ⟨w₁, parts, f, added, -, hbuilds, hname, -, -, hglobals⟩ := buildProgram_inv h
  exact ⟨f.fn, added, hglobals, hname, hbuilds.wellFormedFlow, hbuilds.length,
    fun w₁ f => lowerStatements_open⟩

/-- A return in the first of two nested suites, and one at the end. -/
def nestedProgram : Syntax.Function :=
  let give (n : Int) : Stmt := .ret (some (.call (.name "c_int64") [.const (.int n) false] []))
  ⟨false, "probe", [],
    [.cond (.const (.int 1) false)
        [.cond (.const (.int 0) false) [give 3] [.pass]]
        [.assign [.name "x"] (.const (.int 5) false)],
      give 0],
    [], some (.name "c_int64")⟩

theorem nestedProgram_wellFormedFlow :
    ∃ (w' : Workspace) (fn : IR.Function) (added : List Variable),
      exec (buildProgram nestedProgram Ty.i64) ⟨Module.empty "" "", 0, 0, Table.empty, #[]⟩ =
        (.ok (), w') ∧
      w'.module.globals = .function fn :: added.map Global.variable ∧
      fn.WellFormedFlow ∧ fn.blocks.length = 7 := by
  obtain ⟨⟨⟩, w', hbuild⟩ := exec_of_isOk (m := buildProgram nestedProgram Ty.i64)
    (s := ⟨Module.empty "" "", 0, 0, Table.empty, #[]⟩) (by decide +kernel)
  obtain ⟨fn, added, hglobals, -, hflow, hlength, -⟩ := buildProgram_wellFormedFlow hbuild
  exact ⟨w', fn, added, hbuild, hglobals, hflow, hlength⟩

end BpfCompiler.Lower
