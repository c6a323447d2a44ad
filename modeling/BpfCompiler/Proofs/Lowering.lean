import BpfCompiler.Lower.Probe
import BpfCompiler.Proofs.StraightLine

/-!
# Successful lowerings

A suite that is lowered without a fault is lowered statement by statement.  `Lowers result body f parts f'`
is the derivation of such a run: it starts in frame `f` and ends in `f'`, and `parts` lists every statement
that was met, at any depth of branches, with the instructions that it owns.  Statements about all
successful runs are proved by induction on the derivation; the recursion over the syntax is opened only
here.
-/

namespace BpfCompiler.Syntax.Stmt

def isReturn : Stmt → Bool
  | .ret _ => true
  | _ => false

/-- Whether a statement is neither a branch nor a return. -/
def isSimple : Stmt → Bool
  | .cond .. | .ret _ => false
  | _ => true

mutual

/-- A statement and those inside it that the lowering meets: it looks into branches only. -/
def reached : Stmt → List Stmt
  | .cond test body orelse => .cond test body orelse :: (reachedAll body ++ reachedAll orelse)
  | s => [s]

/-- The statements of a suite that the lowering meets, at any depth of branches. -/
def reachedAll : List Stmt → List Stmt
  | [] => []
  | s :: rest => reached s ++ reachedAll rest

end

theorem reached_of_isSimple {s : Stmt} (h : s.isSimple = true) : s.reached = [s] := by
  cases s <;> first | rfl | simp [isSimple] at h

end BpfCompiler.Syntax.Stmt

namespace BpfCompiler.Lower

open IR Syntax Emit

/-! ### Frames that grow -/

/-- The function got more blocks and more instructions, but the blocks that it had before are as they
were, except for the current one, which may have grown. -/
structure Grown (f f' : Frame) : Prop extends SameContext f f' where
  locals : f'.locals = f.locals
  extended : ∀ (i : Nat) (b : Block), f.fn.blocks[i]? = some b →
    ∃ more, f'.fn.blocks[i]? = some (b.extend more)
  others : ∀ (i : Nat) (b : Block), f.fn.blocks[i]? = some b → i ≠ f.here →
    f'.fn.blocks[i]? = some b
  here : f'.here = f.here ∨ f.fn.blocks.length ≤ f'.here
  inRange : f.here < f.fn.blocks.length → f'.here < f'.fn.blocks.length

namespace Grown

theorem length_le {f f' : Frame} (h : Grown f f') : f.fn.blocks.length ≤ f'.fn.blocks.length := by
  by_contra hlt
  have hin : f'.fn.blocks.length < f.fn.blocks.length := Nat.lt_of_not_le hlt
  obtain ⟨more, hmore⟩ := h.extended _ _ (List.getElem?_eq_getElem hin)
  simp at hmore

theorem refl (f : Frame) : Grown f f where
  toSameContext := SameContext.refl f
  locals := rfl
  extended := fun _ b hb => ⟨[], by rw [hb, Block.extend_nil]⟩
  others := fun _ _ hb _ => hb
  here := .inl rfl
  inRange := id

theorem trans {f f₁ f₂ : Frame} (h : Grown f f₁) (h' : Grown f₁ f₂) : Grown f f₂ where
  toSameContext := h.toSameContext.trans h'.toSameContext
  locals := h'.locals.trans h.locals
  extended := by
    intro i b hb
    obtain ⟨more, hmore⟩ := h.extended i b hb
    obtain ⟨more', hmore'⟩ := h'.extended i _ hmore
    exact ⟨more ++ more', by rw [hmore', Block.extend_extend]⟩
  others := by
    intro i b hb hi
    have hlt : i < f.fn.blocks.length := (List.getElem?_eq_some_iff.mp hb).1
    have hne : i ≠ f₁.here := by
      rcases h.here with hsame | hnew
      · rwa [hsame]
      · omega
    exact h'.others i b (h.others i b hb hi) hne
  here := by
    have hle := h.length_le
    rcases h'.here with hsame | hnew
    · rcases h.here with hsame' | hnew'
      · exact .inl (hsame.trans hsame')
      · exact .inr (by omega)
    · exact .inr (by omega)
  inRange := fun hin => h'.inRange (h.inRange hin)

/-- A move to a block that has been made since is growth. -/
theorem moved {f g : Frame} {place : Nat} (h : Grown f g) (hnew : f.fn.blocks.length ≤ place)
    (hin : place < g.fn.blocks.length) : Grown f (g.moved place) where
  toSameContext := h.toSameContext.trans (.moved g place)
  locals := h.locals
  extended := h.extended
  others := h.others
  here := .inr hnew
  inRange := fun _ => hin

end Grown

instance : Std.Refl Grown := ⟨Grown.refl⟩

instance : IsTrans Frame Grown := ⟨fun _ _ _ => Grown.trans⟩

theorem Appends.inRange {f f' : Frame} {new : List Inst} (h : Appends f f' new)
    (hin : f.here < f.fn.blocks.length) : f'.here < f'.fn.blocks.length := by
  rw [h.here, h.blocks, List.length_modify]
  exact hin

theorem Appends.grown {f f' : Frame} {new : List Inst} (h : Appends f f' new)
    (hlocals : f'.locals = f.locals) : Grown f f' where
  toSameContext := h.toSameContext
  locals := hlocals
  extended := by
    intro i b hb
    rw [h.blocks, List.getElem?_modify, hb]
    by_cases hi : f.here = i
    · exact ⟨new, by simp [hi]⟩
    · exact ⟨[], by simp [hi]⟩
  others := by
    intro i b hb hi
    rw [h.blocks, List.getElem?_modify_ne _ _ (Ne.symm hi), hb]
  here := .inl h.here
  inRange := h.inRange

theorem Straight.grown {f f' : Frame} {new : List Inst} (h : Straight f f' new) : Grown f f' :=
  h.toAppends.grown h.locals

/-! ### The current block -/

theorem Frame.getElem?_here {f : Frame} (hin : f.here < f.fn.blocks.length) :
    f.fn.blocks[f.here]? = some f.block := by
  rw [Frame.block, List.getD_eq_getElem?_getD, List.getElem?_eq_getElem hin]
  rfl

theorem Frame.block_of_getElem? {f : Frame} {b : Block} (hb : f.fn.blocks[f.here]? = some b) :
    f.block = b := by
  rw [Frame.block, List.getD_eq_getElem?_getD, hb]
  rfl

theorem Appends.block {f f' : Frame} {new : List Inst} (h : Appends f f' new)
    (hin : f.here < f.fn.blocks.length) : f'.block = f.block.extend new := by
  apply Frame.block_of_getElem?
  rw [h.here, h.blocks, List.getElem?_modify_eq, Frame.getElem?_here hin]
  rfl

theorem Appends.unique {f f' : Frame} {new new' : List Inst} (h : Appends f f' new)
    (h' : Appends f f' new') (hin : f.here < f.fn.blocks.length) : new = new' := by
  have hinsts : f.block.insts ++ new = f.block.insts ++ new' := by
    rw [← Block.extend_insts, ← h.block hin, h'.block hin, Block.extend_insts]
  exact List.append_cancel_left hinsts

theorem isTerminated_extend (b : Block) (new : List Inst) :
    (b.extend new).isTerminated = (b.isTerminated || new.any fun i => i.op.isTerminator) := by
  simp [Block.isTerminated]

theorem Straight.isTerminated {f f' : Frame} {new : List Inst} (h : Straight f f' new)
    (hin : f.here < f.fn.blocks.length) : f'.block.isTerminated = f.block.isTerminated := by
  have hplain : (new.any fun i => i.op.isTerminator) = false := by
    rw [List.any_eq_false]
    intro i hi
    simp [h.plain i hi]
  rw [h.toAppends.block hin, isTerminated_extend, hplain, Bool.or_false]

/-! ### Branches -/

/-- The labels of the blocks of a branch, in the order in which they are made. -/
def Arms.labels (arms : Arms) : List String :=
  arms.thenLabel :: arms.endLabel :: (arms.other.map Prod.snd).toList

/-- The blocks of a branch stand empty behind all others. -/
structure Makes (f f' : Frame) (arms : Arms) : Prop extends SameContext f f' where
  blocks : f'.fn.blocks = f.fn.blocks ++ arms.labels.map fun label => ⟨label, []⟩
  here : f'.here = f.here
  locals : f'.locals = f.locals
  thenBlock : arms.thenBlock = f.fn.blocks.length
  endBlock : arms.endBlock = f.fn.blocks.length + 1
  other : ∀ place label, arms.other = some (place, label) → place = f.fn.blocks.length + 2
  fresh : ∀ label ∈ arms.labels, label ∉ f.fn.scope.used
  taken : ∀ label ∈ arms.labels, label ∈ f'.fn.scope.used
  distinct : arms.labels.Nodup

theorem exec_makeArms (hasElse : Bool) (f : Frame) :
    ∃ arms f', exec (makeArms hasElse) f = (.ok arms, f') ∧ Makes f f' arms ∧
      arms.other.isSome = hasElse := by
  obtain ⟨l₁, f₁, hexec₁, hsame₁, hblocks₁, hhere₁, hlocals₁, hfresh₁, htaken₁⟩ :=
    exec_addBlock "if.then" f
  obtain ⟨l₂, f₂, hexec₂, hsame₂, hblocks₂, hhere₂, hlocals₂, hfresh₂, htaken₂⟩ :=
    exec_addBlock "if.end" f₁
  have hfresh₂' : l₂ ∉ f.fn.scope.used := fun hused => hfresh₂ (hsame₁.used hused)
  have hne₁₂ : l₁ ≠ l₂ := by
    rintro rfl
    exact hfresh₂ htaken₁
  have hlength₁ : f₁.fn.blocks.length = f.fn.blocks.length + 1 := by simp [hblocks₁]
  cases hasElse with
  | false =>
    refine ⟨⟨f.fn.blocks.length, l₁, f₁.fn.blocks.length, l₂, none⟩, f₂, ?_, ?_, rfl⟩
    · rw [makeArms, exec_bind_ok hexec₁]
      dsimp only
      rw [exec_bind_ok hexec₂]
      rfl
    · exact {
        toSameContext := hsame₁.trans hsame₂
        blocks := by simp [hblocks₂, hblocks₁, Arms.labels]
        here := hhere₂.trans hhere₁
        locals := hlocals₂.trans hlocals₁
        thenBlock := rfl
        endBlock := hlength₁
        other := by simp
        fresh := by simp [Arms.labels, hfresh₁, hfresh₂']
        taken := by simp [Arms.labels, hsame₂.used htaken₁, htaken₂]
        distinct := by simp [Arms.labels, hne₁₂] }
  | true =>
    obtain ⟨l₃, f₃, hexec₃, hsame₃, hblocks₃, hhere₃, hlocals₃, hfresh₃, htaken₃⟩ :=
      exec_addBlock "if.else" f₂
    have hfresh₃' : l₃ ∉ f.fn.scope.used := fun hused =>
      hfresh₃ (hsame₂.used (hsame₁.used hused))
    have hne₁₃ : l₁ ≠ l₃ := by
      rintro rfl
      exact hfresh₃ (hsame₂.used htaken₁)
    have hne₂₃ : l₂ ≠ l₃ := by
      rintro rfl
      exact hfresh₃ htaken₂
    have hlength₂ : f₂.fn.blocks.length = f.fn.blocks.length + 2 := by simp [hblocks₂, hblocks₁]
    refine ⟨⟨f.fn.blocks.length, l₁, f₁.fn.blocks.length, l₂, some (f₂.fn.blocks.length, l₃)⟩, f₃,
      ?_, ?_, rfl⟩
    · rw [makeArms, exec_bind_ok hexec₁]
      dsimp only
      rw [exec_bind_ok hexec₂]
      dsimp only
      rw [if_pos rfl, exec_bind_ok hexec₃]
      rfl
    · exact {
        toSameContext := (hsame₁.trans hsame₂).trans hsame₃
        blocks := by simp [hblocks₃, hblocks₂, hblocks₁, Arms.labels]
        here := hhere₃.trans (hhere₂.trans hhere₁)
        locals := hlocals₃.trans (hlocals₂.trans hlocals₁)
        thenBlock := rfl
        endBlock := hlength₁
        other := by
          intro place label hother
          simp only [Option.some.injEq, Prod.mk.injEq] at hother
          rw [← hother.1, hlength₂]
        fresh := by simp [Arms.labels, hfresh₁, hfresh₂', hfresh₃']
        taken := by
          simp [Arms.labels, hsame₃.used (hsame₂.used htaken₁), hsame₃.used htaken₂, htaken₃]
        distinct := by simp [Arms.labels, hne₁₂, hne₁₃, hne₂₃] }

theorem openBranch_other {test : Expr} {hasElse : Bool} {f g : Frame} {arms : Arms}
    (h : exec (openBranch test hasElse) f = (.ok arms, g)) : arms.other.isSome = hasElse := by
  obtain ⟨made, f₁, hmakes, -, hother⟩ := exec_makeArms hasElse f
  rw [openBranch, exec_bind_ok hmakes] at h
  obtain ⟨condition, f₂, -, h⟩ := exec_bind_inv h
  obtain ⟨-, f₃, -, h⟩ := exec_bind_inv h
  obtain ⟨rfl, -⟩ := exec_pure_inv h
  exact hother

theorem Straight.blocks_nil {f f' : Frame} (h : Straight f f' []) : f'.fn.blocks = f.fn.blocks := by
  rw [h.blocks]
  simp only [Block.extend_nil]
  exact List.modify_id f.here f.fn.blocks

/-- The blocks of a branch have been made and the current block, which was open, ends in a branch to the
first of them or to the other one. -/
structure Opens (test : Expr) (f g : Frame) (arms : Arms) (new : List Inst) : Prop where
  isOpen : f.block.isTerminated = false
  run : ∃ f₁ f₂ code outcome name, Makes f f₁ arms ∧
    exec (condition test) f₁ = (.ok outcome, f₂) ∧ Straight f₁ f₂ code ∧
    Appends f₂ g [⟨name, .condBranch outcome arms.thenLabel arms.otherwise⟩] ∧
    g.locals = f₂.locals ∧
    new = code ++ [⟨name, .condBranch outcome arms.thenLabel arms.otherwise⟩]

theorem Opens.steps {test : Expr} {f g : Frame} {arms : Arms} {new : List Inst}
    (h : Opens test f g arms new) :
    ∃ f₁, Makes f f₁ arms ∧ Appends f₁ g new ∧ g.locals = f₁.locals := by
  obtain ⟨f₁, f₂, code, outcome, name, hmakes, -, hcode, hends, hlocals, rfl⟩ := h.run
  exact ⟨f₁, hmakes, hcode.toAppends.trans hends, hlocals.trans hcode.locals⟩

theorem Opens.shape {test : Expr} {f g : Frame} {arms : Arms} {new : List Inst}
    (h : Opens test f g arms new) : ∃ code condition name,
      new = code ++ [⟨name, .condBranch condition arms.thenLabel arms.otherwise⟩] ∧
        ∀ i ∈ code, i.op.isTerminator = false := by
  obtain ⟨f₁, f₂, code, outcome, name, -, -, hcode, -, -, hnew⟩ := h.run
  exact ⟨code, outcome, name, hnew, hcode.plain⟩

theorem Makes.after_straight {f f₀ f₁ : Frame} {arms : Arms} (h : Straight f f₀ [])
    (hmakes : Makes f₀ f₁ arms) : Makes f f₁ arms where
  toSameContext := h.toSameContext.trans hmakes.toSameContext
  blocks := by rw [hmakes.blocks, h.blocks_nil]
  here := hmakes.here.trans h.here
  locals := hmakes.locals.trans h.locals
  thenBlock := by rw [hmakes.thenBlock, h.blocks_nil]
  endBlock := by rw [hmakes.endBlock, h.blocks_nil]
  other := by
    intro place label hother
    rw [hmakes.other place label hother, h.blocks_nil]
  fresh := fun label hlabel hused => hmakes.fresh label hlabel (h.used hused)
  taken := hmakes.taken
  distinct := hmakes.distinct

theorem Makes.inRange {f f' : Frame} {arms : Arms} (h : Makes f f' arms)
    (hin : f.here < f.fn.blocks.length) : f'.here < f'.fn.blocks.length := by
  rw [h.here, h.blocks, List.length_append]
  omega

theorem Makes.block {f f' : Frame} {arms : Arms} (h : Makes f f' arms)
    (hin : f.here < f.fn.blocks.length) : f'.block = f.block := by
  apply Frame.block_of_getElem?
  rw [h.here, h.blocks, List.getElem?_append_left hin, Frame.getElem?_here hin]

theorem openBranch_inv {test : Expr} {hasElse : Bool} {f g : Frame} {arms : Arms}
    (h : exec (openBranch test hasElse) f = (.ok arms, g)) (hin : f.here < f.fn.blocks.length) :
    ∃ new, Opens test f g arms new ∧ arms.other.isSome = hasElse := by
  obtain ⟨arms', f₁, hexec₁, hmakes, hother⟩ := exec_makeArms hasElse f
  rw [openBranch, exec_bind_ok hexec₁] at h
  obtain ⟨condition, f₂, hcondition, h⟩ := exec_bind_inv h
  obtain ⟨⟨⟩, f₃, hterminate, h⟩ := exec_bind_inv h
  obtain ⟨rfl, rfl⟩ := exec_pure_inv h
  obtain ⟨code, hcode⟩ := (condition_code fun _ _ => trivial).straightLine.of_exec hcondition
  obtain ⟨hopen, name, hends, hlocals⟩ := terminate_inv hterminate
  refine ⟨_, ⟨?_, f₁, f₂, code, condition, name, hmakes, hcondition, hcode, hends, hlocals, rfl⟩,
    hother⟩
  rw [← hmakes.block hin, ← hcode.isTerminated (hmakes.inRange hin)]
  exact hopen

theorem Opens.after_straight {test : Expr} {f f₀ g : Frame} {arms : Arms} {new : List Inst}
    (h : Straight f f₀ []) (hin : f.here < f.fn.blocks.length)
    (hopens : Opens test f₀ g arms new) : Opens test f g arms new where
  isOpen := by rw [← h.isTerminated hin, hopens.isOpen]
  run := by
    obtain ⟨f₁, f₂, code, outcome, name, hmakes, hrest⟩ := hopens.run
    exact ⟨f₁, f₂, code, outcome, name, hmakes.after_straight h, hrest⟩

/-- A suite that has not ended goes on in the given block. -/
inductive Joins (label : String) (f : Frame) : Frame → List Inst → Prop
  | ended (hended : f.block.isTerminated = true) : Joins label f f []
  | branch {f' : Frame} {name : String} (hopen : f.block.isTerminated = false)
      (happends : Appends f f' [⟨name, .branch label⟩]) (hlocals : f'.locals = f.locals) :
      Joins label f f' [⟨name, .branch label⟩]

theorem joinAt_inv {label : String} {f f' : Frame} (h : exec (joinAt label) f = (.ok (), f')) :
    ∃ new, Joins label f f' new := by
  rw [joinAt, exec_bind_ok (exec_get f)] at h
  cases hended : f.block.isTerminated with
  | true =>
    rw [hended] at h
    obtain ⟨-, rfl⟩ := exec_pure_inv h
    exact ⟨[], .ended hended⟩
  | false =>
    rw [hended] at h
    obtain ⟨-, name, happends, hlocals⟩ := terminate_inv h
    exact ⟨_, .branch hended happends hlocals⟩

theorem fillBlock_inv {place : Nat} {suite : Emit Unit} {label : String} {f f' : Frame}
    (h : exec (fillBlock place suite label) f = (.ok (), f')) :
    ∃ g new, exec suite (f.moved place) = (.ok (), g) ∧ Joins label g f' new := by
  rw [fillBlock, exec_bind_ok (exec_moveTo place f)] at h
  obtain ⟨⟨⟩, g, hsuite, h⟩ := exec_bind_inv h
  obtain ⟨new, hjoins⟩ := joinAt_inv h
  exact ⟨g, new, hsuite, hjoins⟩

/-! ### Derivations -/

/-- The derivations of successful lowerings. -/
inductive Lowers : Ty → List Stmt → Frame → List (Stmt × List Inst) → Frame → Prop
  | nil {result : Ty} {f : Frame} : Lowers result [] f [] f
  | simple {result : Ty} {s : Stmt} {rest : List Stmt} {f f₁ f₂ : Frame} {new : List Inst}
      {parts : List (Stmt × List Inst)}
      (hsimple : s.isSimple = true) (hexec : exec (lowerSimple s) f = (.ok (), f₁))
      (hstraight : Straight f f₁ new) (hrest : Lowers result rest f₁ parts f₂) :
      Lowers result (s :: rest) f ((s, new) :: parts) f₂
  | ret {result : Ty} {value : Option Expr} {o : Operand} {rest : List Stmt} {f f₁ f₂ : Frame}
      {name : String} {parts : List (Stmt × List Inst)}
      (hopen : f.block.isTerminated = false) (hoperand : returnOperand result value = .ok o)
      (happends : Appends f f₁ [⟨name, .ret o⟩]) (hlocals : f₁.locals = f.locals)
      (hrest : Lowers result rest f₁ parts f₂) :
      Lowers result (.ret value :: rest) f ((.ret value, [⟨name, .ret o⟩]) :: parts) f₂
  | branch {result : Ty} {test : Expr} {body rest : List Stmt} {f g g₁ g₂ f' : Frame} {arms : Arms}
      {new join : List Inst} {parts₁ parts₂ : List (Stmt × List Inst)}
      (hopens : Opens test f g arms new) (hother : arms.other = none)
      (hbody : Lowers Ty.i64 body (g.moved arms.thenBlock) parts₁ g₁)
      (hjoins : Joins arms.endLabel g₁ g₂ join)
      (hrest : Lowers result rest (g₂.moved arms.endBlock) parts₂ f') :
      Lowers result (.cond test body [] :: rest) f
        ((.cond test body [], new ++ join) :: (parts₁ ++ parts₂)) f'
  | branchElse {result : Ty} {test : Expr} {body orelse rest : List Stmt}
      {f g g₁ g₂ g₃ g₄ f' : Frame} {arms : Arms} {elseBlock : Nat} {elseLabel : String}
      {new join join' : List Inst} {parts₁ parts₂ parts₃ : List (Stmt × List Inst)}
      (helse : orelse ≠ [])
      (hopens : Opens test f g arms new) (hother : arms.other = some (elseBlock, elseLabel))
      (hbody : Lowers Ty.i64 body (g.moved arms.thenBlock) parts₁ g₁)
      (hjoins : Joins arms.endLabel g₁ g₂ join)
      (horelse : Lowers Ty.i64 orelse (g₂.moved elseBlock) parts₂ g₃)
      (hjoins' : Joins arms.endLabel g₃ g₄ join')
      (hrest : Lowers result rest (g₄.moved arms.endBlock) parts₃ f') :
      Lowers result (.cond test body orelse :: rest) f
        ((.cond test body orelse, new ++ join ++ join') :: (parts₁ ++ parts₂ ++ parts₃)) f'

theorem Makes.grown {f f' : Frame} {arms : Arms} (h : Makes f f' arms) : Grown f f' where
  toSameContext := h.toSameContext
  locals := h.locals
  extended := by
    intro i b hb
    have hlt : i < f.fn.blocks.length := (List.getElem?_eq_some_iff.mp hb).1
    exact ⟨[], by rw [h.blocks, List.getElem?_append_left hlt, hb, Block.extend_nil]⟩
  others := by
    intro i b hb _
    have hlt : i < f.fn.blocks.length := (List.getElem?_eq_some_iff.mp hb).1
    rw [h.blocks, List.getElem?_append_left hlt, hb]
  here := .inl h.here
  inRange := h.inRange

namespace Opens

variable {test : Expr} {f g : Frame} {arms : Arms} {new : List Inst}

theorem grown (h : Opens test f g arms new) : Grown f g := by
  obtain ⟨f₁, hmakes, happends, hlocals⟩ := h.steps
  exact hmakes.grown.trans (happends.grown hlocals)

theorem length (h : Opens test f g arms new) :
    g.fn.blocks.length = f.fn.blocks.length + arms.labels.length := by
  obtain ⟨f₁, hmakes, happends, -⟩ := h.steps
  rw [happends.blocks, List.length_modify, hmakes.blocks, List.length_append, List.length_map]

theorem two_le_labels (arms : Arms) : 2 ≤ arms.labels.length := by
  simp [Arms.labels]

theorem thenBlock (h : Opens test f g arms new) : arms.thenBlock = f.fn.blocks.length := by
  obtain ⟨f₁, hmakes, -, -⟩ := h.steps
  exact hmakes.thenBlock

theorem endBlock (h : Opens test f g arms new) : arms.endBlock = f.fn.blocks.length + 1 := by
  obtain ⟨f₁, hmakes, -, -⟩ := h.steps
  exact hmakes.endBlock

theorem elseBlock (h : Opens test f g arms new) {place : Nat} {label : String}
    (hother : arms.other = some (place, label)) : place = f.fn.blocks.length + 2 := by
  obtain ⟨f₁, hmakes, -, -⟩ := h.steps
  exact hmakes.other place label hother

theorem grown_after (h : Opens test f g arms new) {g' : Frame}
    (harm : Grown (g.moved arms.thenBlock) g') : Grown f (g'.moved arms.endBlock) := by
  have hlabels := two_le_labels arms
  have hlength := h.length
  have hle : g.fn.blocks.length ≤ g'.fn.blocks.length := harm.length_le
  have hthen := h.thenBlock
  have hend := h.endBlock
  have hentered : Grown f (g.moved arms.thenBlock) := h.grown.moved (by omega) (by omega)
  exact (hentered.trans harm).moved (by omega) (by omega)

theorem grown_after_else (h : Opens test f g arms new) {place : Nat} {label : String}
    (hother : arms.other = some (place, label)) {g' g'' : Frame}
    (harm : Grown (g.moved arms.thenBlock) g') (harm' : Grown (g'.moved place) g'') :
    Grown f (g''.moved arms.endBlock) := by
  have hlabels : arms.labels.length = 3 := by simp [Arms.labels, hother]
  have hlength := h.length
  have hle : g.fn.blocks.length ≤ g'.fn.blocks.length := harm.length_le
  have hle' : g'.fn.blocks.length ≤ g''.fn.blocks.length := harm'.length_le
  have hthen := h.thenBlock
  have hend := h.endBlock
  have hplace := h.elseBlock hother
  have hentered : Grown f (g.moved arms.thenBlock) := h.grown.moved (by omega) (by omega)
  have hentered' : Grown f (g'.moved place) := (hentered.trans harm).moved (by omega) (by omega)
  exact (hentered'.trans harm').moved (by omega) (by omega)

theorem getElem?_start (h : Opens test f g arms new) (hin : f.here < f.fn.blocks.length) :
    g.fn.blocks[f.here]? = some (f.block.extend new) := by
  obtain ⟨f₁, hmakes, happends, -⟩ := h.steps
  rw [← hmakes.block hin, ← happends.block (hmakes.inRange hin), ← hmakes.here, ← happends.here]
  exact Frame.getElem?_here (happends.inRange (hmakes.inRange hin))

theorem getElem?_new (h : Opens test f g arms new) (hin : f.here < f.fn.blocks.length) {k : Nat}
    {label : String} (hk : arms.labels[k]? = some label) :
    g.fn.blocks[f.fn.blocks.length + k]? = some ⟨label, []⟩ := by
  obtain ⟨f₁, hmakes, happends, -⟩ := h.steps
  have hne : f₁.here ≠ f.fn.blocks.length + k := by
    rw [hmakes.here]
    omega
  rw [happends.blocks, List.getElem?_modify_ne _ _ hne, hmakes.blocks,
    List.getElem?_append_right (by omega), Nat.add_sub_cancel_left, List.getElem?_map, hk]
  rfl

theorem getElem?_then (h : Opens test f g arms new) (hin : f.here < f.fn.blocks.length) :
    g.fn.blocks[arms.thenBlock]? = some ⟨arms.thenLabel, []⟩ := by
  rw [h.thenBlock]
  exact h.getElem?_new hin (k := 0) rfl

theorem getElem?_end (h : Opens test f g arms new) (hin : f.here < f.fn.blocks.length) :
    g.fn.blocks[arms.endBlock]? = some ⟨arms.endLabel, []⟩ := by
  rw [h.endBlock]
  exact h.getElem?_new hin (k := 1) rfl

theorem getElem?_else (h : Opens test f g arms new) (hin : f.here < f.fn.blocks.length) {place : Nat}
    {label : String} (hother : arms.other = some (place, label)) :
    g.fn.blocks[place]? = some ⟨label, []⟩ := by
  rw [h.elseBlock hother]
  exact h.getElem?_new hin (k := 2) (by simp [Arms.labels, hother])

/-- The block behind the branch is still empty when the first suite is done. -/
theorem getElem?_end_after (h : Opens test f g arms new) (hin : f.here < f.fn.blocks.length) {g' : Frame}
    (harm : Grown (g.moved arms.thenBlock) g') :
    g'.fn.blocks[arms.endBlock]? = some ⟨arms.endLabel, []⟩ := by
  have hthen := h.thenBlock
  have hend := h.endBlock
  exact harm.others _ _ (h.getElem?_end hin) (by rw [Frame.moved_here]; omega)

/-- So is the block of the second suite. -/
theorem getElem?_else_after (h : Opens test f g arms new) (hin : f.here < f.fn.blocks.length)
    {place : Nat} {label : String} (hother : arms.other = some (place, label)) {g' : Frame}
    (harm : Grown (g.moved arms.thenBlock) g') :
    g'.fn.blocks[place]? = some ⟨label, []⟩ := by
  have hthen := h.thenBlock
  have helse := h.elseBlock hother
  exact harm.others _ _ (h.getElem?_else hin hother) (by rw [Frame.moved_here]; omega)

/-- And the block behind the branch is still empty when both are done. -/
theorem getElem?_end_after_else (h : Opens test f g arms new) (hin : f.here < f.fn.blocks.length)
    {place : Nat} {label : String} (hother : arms.other = some (place, label)) {g' g'' : Frame}
    (harm : Grown (g.moved arms.thenBlock) g') (harm' : Grown (g'.moved place) g'') :
    g''.fn.blocks[arms.endBlock]? = some ⟨arms.endLabel, []⟩ := by
  have hend := h.endBlock
  have helse := h.elseBlock hother
  have hmiddle := h.getElem?_end_after hin harm
  exact harm'.others _ _ hmiddle (by rw [Frame.moved_here]; omega)

/-- The block that was current is done: neither suite touches it. -/
theorem getElem?_start_after (h : Opens test f g arms new) (hin : f.here < f.fn.blocks.length)
    {g' : Frame} (harm : Grown (g.moved arms.thenBlock) g') :
    g'.fn.blocks[f.here]? = some (f.block.extend new) := by
  have hthen := h.thenBlock
  exact harm.others _ _ (h.getElem?_start hin) (by rw [Frame.moved_here]; omega)

theorem getElem?_start_after_else (h : Opens test f g arms new) (hin : f.here < f.fn.blocks.length)
    {place : Nat} {label : String} (hother : arms.other = some (place, label)) {g' g'' : Frame}
    (harm : Grown (g.moved arms.thenBlock) g') (harm' : Grown (g'.moved place) g'') :
    g''.fn.blocks[f.here]? = some (f.block.extend new) := by
  have helse := h.elseBlock hother
  have hmiddle := h.getElem?_start_after hin harm
  exact harm'.others _ _ hmiddle (by rw [Frame.moved_here]; omega)

end Opens

theorem Joins.grown {label : String} {f f' : Frame} {new : List Inst} (h : Joins label f f' new) :
    Grown f f' := by
  cases h with
  | ended hended => exact Grown.refl f
  | branch hopen happends hlocals => exact happends.grown hlocals

/-- A suite that is lowered leaves all blocks alone but the one where it starts. -/
theorem Lowers.grown {result : Ty} {body : List Stmt} {f f' : Frame}
    {parts : List (Stmt × List Inst)} (h : Lowers result body f parts f') : Grown f f' := by
  induction h with
  | nil => exact Grown.refl _
  | simple hsimple hexec hstraight hrest ih => exact hstraight.grown.trans ih
  | ret hopen hoperand happends hlocals hrest ih => exact (happends.grown hlocals).trans ih
  | @branch result test body rest f g g₁ g₂ f' arms new join parts₁ parts₂ hopens hother hbody hjoins
      hrest ihbody ihrest =>
    exact (hopens.grown_after (ihbody.trans hjoins.grown)).trans ihrest
  | @branchElse result test body orelse rest f g g₁ g₂ g₃ g₄ f' arms elseBlock elseLabel new join join'
      parts₁ parts₂ parts₃ helse hopens hother hbody hjoins horelse hjoins' hrest ihbody ihorelse
      ihrest =>
    exact (hopens.grown_after_else hother (ihbody.trans hjoins.grown)
      (ihorelse.trans hjoins'.grown)).trans ihrest

/-- What each part of a lowering keeps, a whole suite keeps.  The current block is there all along. -/
theorem Lowers.invariant {P : Frame → Prop}
    (hsimple : ∀ {s : Stmt} {f f₁ : Frame} {new : List Inst}, f.here < f.fn.blocks.length →
      exec (lowerSimple s) f = (.ok (), f₁) → Straight f f₁ new → P f → P f₁)
    (hret : ∀ {result : Ty} {value : Option Expr} {o : Operand} {f f₁ : Frame} {name : String},
      f.here < f.fn.blocks.length → returnOperand result value = .ok o →
      Appends f f₁ [⟨name, .ret o⟩] → f₁.locals = f.locals → P f → P f₁)
    (hopens : ∀ {test : Expr} {f g : Frame} {arms : Arms} {new : List Inst},
      f.here < f.fn.blocks.length → Opens test f g arms new → P f → P g)
    (hjoins : ∀ {label : String} {f f₁ : Frame} {new : List Inst}, f.here < f.fn.blocks.length →
      Joins label f f₁ new → P f → P f₁)
    (hmoved : ∀ (f : Frame) (place : Nat), P f → P (f.moved place))
    {result : Ty} {body : List Stmt} {f f' : Frame} {parts : List (Stmt × List Inst)}
    (h : Lowers result body f parts f') (hin : f.here < f.fn.blocks.length) (hf : P f) : P f' := by
  induction h with
  | nil => exact hf
  | simple hs hexec hstraight hrest ih =>
    exact ih (hstraight.inRange hin) (hsimple hin hexec hstraight hf)
  | ret hopen hoperand happends hlocals hrest ih =>
    exact ih (happends.inRange hin) (hret hin hoperand happends hlocals hf)
  | @branch result test body rest f g g₁ g₂ f' arms new join parts₁ parts₂ hopen hother hbody hjoin
      hrest ihbody ihrest =>
    have harm := hbody.grown.trans hjoin.grown
    have hthen := (List.getElem?_eq_some_iff.mp (hopen.getElem?_then hin)).1
    have hend := (List.getElem?_eq_some_iff.mp (hopen.getElem?_end_after hin harm)).1
    have hbody' := ihbody hthen (hmoved _ _ (hopens hin hopen hf))
    exact ihrest hend (hmoved _ _ (hjoins (hbody.grown.inRange hthen) hjoin hbody'))
  | @branchElse result test body orelse rest f g g₁ g₂ g₃ g₄ f' arms elseBlock elseLabel new join join'
      parts₁ parts₂ parts₃ helse hopen hother hbody hjoin horelse hjoin' hrest ihbody ihorelse
      ihrest =>
    have harm := hbody.grown.trans hjoin.grown
    have harm' := horelse.grown.trans hjoin'.grown
    have hthen := (List.getElem?_eq_some_iff.mp (hopen.getElem?_then hin)).1
    have helse' := (List.getElem?_eq_some_iff.mp (hopen.getElem?_else_after hin hother harm)).1
    have hend :=
      (List.getElem?_eq_some_iff.mp (hopen.getElem?_end_after_else hin hother harm harm')).1
    have hbody' := ihbody hthen (hmoved _ _ (hopens hin hopen hf))
    have hfirst := hmoved _ elseBlock (hjoins (hbody.grown.inRange hthen) hjoin hbody')
    have horelse' := ihorelse helse' hfirst
    exact ihrest hend (hmoved _ _ (hjoins (horelse.grown.inRange helse') hjoin' horelse'))

/-- The frame has the given tables, and its current block is there. -/
structure Frame.HasTables (f : Frame) (maps : Table Operand) (locals : Table (Option Slot)) : Prop where
  inRange : f.here < f.fn.blocks.length
  maps : f.workspace.maps = maps
  locals : f.locals = locals

theorem Grown.hasTables {f f' : Frame} {maps : Table Operand} {locals : Table (Option Slot)}
    (h : Grown f f') (hf : f.HasTables maps locals) : f'.HasTables maps locals :=
  ⟨h.inRange hf.inRange, h.maps.trans hf.maps, h.locals.trans hf.locals⟩

/-- What holds of each statement with its own instructions, wherever it is lowered, holds of all parts of a
lowering.  No statement changes the tables, so all meet those of the start. -/
theorem Lowers.forall_parts {maps : Table Operand} {locals : Table (Option Slot)}
    {P : Stmt → List Inst → Prop}
    (hsimple : ∀ {s : Stmt} {f f₁ : Frame} {new : List Inst}, f.HasTables maps locals →
      s.isSimple = true → exec (lowerSimple s) f = (.ok (), f₁) → Straight f f₁ new → P s new)
    (hret : ∀ (value : Option Expr) (name : String) (o : Operand),
      P (.ret value) [⟨name, .ret o⟩])
    (hbranch : ∀ {test : Expr} {f g : Frame} {arms : Arms} {new : List Inst},
      f.HasTables maps locals → Opens test f g arms new →
        ∀ (body orelse : List Stmt) (joins : List Inst), P (.cond test body orelse) (new ++ joins))
    {result : Ty} {body : List Stmt} {f f' : Frame} {parts : List (Stmt × List Inst)}
    (h : Lowers result body f parts f') (hf : f.HasTables maps locals) :
    ∀ p ∈ parts, P p.1 p.2 := by
  induction h with
  | nil => simp
  | simple hs hexec hstraight hrest ih =>
    exact List.forall_mem_cons.mpr
      ⟨hsimple hf hs hexec hstraight, ih (hstraight.grown.hasTables hf)⟩
  | ret hopen hoperand happends hlocals hrest ih =>
    exact List.forall_mem_cons.mpr ⟨hret _ _ _, ih ((happends.grown hlocals).hasTables hf)⟩
  | @branch result test body rest f g g₁ g₂ f' arms new join parts₁ parts₂ hopens hother hbody hjoins
      hrest ihbody ihrest =>
    have hthen := (List.getElem?_eq_some_iff.mp (hopens.getElem?_then hf.inRange)).1
    have harm := hbody.grown.trans hjoins.grown
    have hg := hopens.grown.hasTables hf
    refine List.forall_mem_cons.mpr ⟨hbranch hf hopens _ _ _, List.forall_mem_append.mpr ⟨?_, ?_⟩⟩
    · exact ihbody ⟨hthen, hg.maps, hg.locals⟩
    · exact ihrest ((hopens.grown_after harm).hasTables hf)
  | @branchElse result test body orelse rest f g g₁ g₂ g₃ g₄ f' arms elseBlock elseLabel new join join'
      parts₁ parts₂ parts₃ helse hopens hother hbody hjoins horelse hjoins' hrest ihbody ihorelse
      ihrest =>
    have hthen := (List.getElem?_eq_some_iff.mp (hopens.getElem?_then hf.inRange)).1
    have harm := hbody.grown.trans hjoins.grown
    have hother' :=
      (List.getElem?_eq_some_iff.mp (hopens.getElem?_else_after hf.inRange hother harm)).1
    have harm' := horelse.grown.trans hjoins'.grown
    have hg := hopens.grown.hasTables hf
    rw [List.append_assoc new join join']
    refine List.forall_mem_cons.mpr ⟨hbranch hf hopens _ _ _, ?_⟩
    refine List.forall_mem_append.mpr ⟨List.forall_mem_append.mpr ⟨?_, ?_⟩, ?_⟩
    · exact ihbody ⟨hthen, hg.maps, hg.locals⟩
    · exact ihorelse ⟨hother', harm.maps.trans hg.maps, harm.locals.trans hg.locals⟩
    · exact ihrest ((hopens.grown_after_else hother harm harm').hasTables hf)

/-- A statement followed by a suite that is derivable. -/
def Extends (result : Ty) (s : Stmt) (f f' : Frame) : Prop :=
  ∀ {rest : List Stmt} {parts : List (Stmt × List Inst)} {f'' : Frame},
    Lowers result rest f' parts f'' → ∃ parts', Lowers result (s :: rest) f parts' f''

theorem Extends.inRange {result : Ty} {s : Stmt} {f f' : Frame} (h : Extends result s f f')
    (hin : f.here < f.fn.blocks.length) : f'.here < f'.fn.blocks.length := by
  obtain ⟨parts, hlowers⟩ := h (.nil : Lowers result [] f' [] f')
  exact hlowers.grown.inRange hin

theorem say_twice (first second : Text) (f : Frame) :
    ∃ f₀, exec (say first) f = (.ok (), (exec (say first) f).2) ∧
      exec (say second) (exec (say first) f).2 = (.ok (), f₀) ∧ Straight f f₀ [] := by
  obtain ⟨f₁, hexec₁, hstraight₁, -⟩ := say_straight first f
  obtain ⟨f₂, hexec₂, hstraight₂, -⟩ := say_straight second f₁
  refine ⟨f₂, ?_, ?_, hstraight₁.trans hstraight₂⟩
  · rw [hexec₁]
  · rw [hexec₁, hexec₂]

theorem lowerStmt_cond_extends {result : Ty} {returned r : Bool} {test : Expr}
    {body orelse : List Stmt} {f f' : Frame}
    (ihbody : ∀ {g g' : Frame}, exec (lowerSuite body) g = (.ok (), g') →
      g.here < g.fn.blocks.length → ∃ parts, Lowers Ty.i64 body g parts g')
    (ihorelse : ∀ {g g' : Frame}, exec (lowerSuite orelse) g = (.ok (), g') →
      g.here < g.fn.blocks.length → ∃ parts, Lowers Ty.i64 orelse g parts g')
    (h : exec (lowerStmt result returned (.cond test body orelse)) f = (.ok r, f'))
    (hin : f.here < f.fn.blocks.length) :
    r = returned ∧ Extends result (.cond test body orelse) f f' := by
  obtain ⟨f₀, hsay, hsay', hstraight⟩ :=
    say_twice "Processing statement: If" "Handling if statement" f
  have hin₀ : f₀.here < f₀.fn.blocks.length := hstraight.grown.inRange hin
  rw [lowerStmt, exec_bind_ok hsay, exec_bind_ok hsay'] at h
  obtain ⟨arms, g, hopen, h⟩ := exec_bind_inv h
  obtain ⟨⟨⟩, g₂, hfill, h⟩ := exec_bind_inv h
  obtain ⟨new, hopens, hother⟩ := openBranch_inv hopen hin₀
  have hopens := hopens.after_straight hstraight hin
  have hlabels := Opens.two_le_labels arms
  have hlength := hopens.length
  have hthen := hopens.thenBlock
  obtain ⟨g₁, join, hsuite, hjoins⟩ := fillBlock_inv hfill
  obtain ⟨parts₁, hbody⟩ := ihbody hsuite (by simp only [Frame.moved_here, Frame.moved_fn]; omega)
  cases harms : arms.other with
  | none =>
    have horelse : orelse = [] := by simpa [harms] using hother
    subst horelse
    rw [harms] at h
    dsimp only at h
    rw [exec_bind_ok (exec_moveTo _ _)] at h
    obtain ⟨rfl, rfl⟩ := exec_pure_inv h
    exact ⟨rfl, fun hrest => ⟨_, .branch hopens harms hbody hjoins hrest⟩⟩
  | some place =>
    obtain ⟨elseBlock, elseLabel⟩ := place
    have horelse : orelse ≠ [] := by simpa [harms] using hother
    rw [harms] at h
    obtain ⟨⟨⟩, g₄, hfill', h⟩ := exec_bind_inv h
    dsimp only at h
    rw [exec_bind_ok (exec_moveTo _ _)] at h
    obtain ⟨rfl, rfl⟩ := exec_pure_inv h
    obtain ⟨g₃, join', hsuite', hjoins'⟩ := fillBlock_inv hfill'
    have hplace := hopens.elseBlock harms
    have hthree : arms.labels.length = 3 := by simp [Arms.labels, harms]
    have hle : g.fn.blocks.length ≤ g₂.fn.blocks.length :=
      (hbody.grown.trans hjoins.grown).length_le
    obtain ⟨parts₂, horelse'⟩ :=
      ihorelse hsuite' (by simp only [Frame.moved_here, Frame.moved_fn]; omega)
    exact ⟨rfl, fun hrest =>
      ⟨_, .branchElse horelse hopens harms hbody hjoins horelse' hjoins' hrest⟩⟩

theorem lowerStmt_ret_extends {result : Ty} {returned r : Bool} {value : Option Expr} {f f' : Frame}
    (h : exec (lowerStmt result returned (.ret value)) f = (.ok r, f'))
    (hin : f.here < f.fn.blocks.length) :
    r = true ∧ Extends result (.ret value) f f' := by
  obtain ⟨f₀, hsay, hstraight, -⟩ := say_straight "Processing statement: Return" f
  rw [lowerStmt, exec_bind_ok hsay] at h
  obtain ⟨o, f₁, hlift, htail⟩ := exec_bind_inv h
  obtain ⟨hoperand, rfl⟩ := exec_lift_inv hlift
  obtain ⟨⟨⟩, f₂, hterminate, hend⟩ := exec_bind_inv htail
  obtain ⟨rfl, rfl⟩ := exec_pure_inv hend
  obtain ⟨hopen, name, happends, hlocals⟩ := terminate_inv hterminate
  refine ⟨rfl, fun hrest => ⟨_, .ret ?_ hoperand (hstraight.toAppends.trans happends) ?_ hrest⟩⟩
  · rw [← hstraight.isTerminated hin, hopen]
  · rw [hlocals, hstraight.locals]

theorem lowerStmt_simple {s : Stmt} (hsimple : s.isSimple = true) (result : Ty) (returned : Bool) :
    lowerStmt result returned s = (do lowerSimple s; return returned) := by
  cases s with
  | cond test body orelse => simp [Stmt.isSimple] at hsimple
  | ret value => simp [Stmt.isSimple] at hsimple
  | _ => rw [lowerStmt] <;> simp

theorem lowerStmt_simple_extends {result : Ty} {returned r : Bool} {s : Stmt} {f f' : Frame}
    (hsimple : s.isSimple = true)
    (h : exec (lowerStmt result returned s) f = (.ok r, f')) :
    r = returned ∧ Extends result s f f' := by
  rw [lowerStmt_simple hsimple] at h
  obtain ⟨⟨⟩, f₁, hexec, h⟩ := exec_bind_inv h
  obtain ⟨rfl, rfl⟩ := exec_pure_inv h
  obtain ⟨new, hstraight⟩ := (lowerSimple_code (fun _ _ => trivial) fun _ _ => trivial).straightLine.of_exec hexec
  exact ⟨rfl, fun hrest => ⟨_, .simple hsimple hexec hstraight hrest⟩⟩

/-- Every successful lowering has a derivation. -/
theorem lowers_of_exec :
    (∀ (result : Ty) (returned : Bool) (s : Stmt) {f f' : Frame} {r : Bool},
      exec (lowerStmt result returned s) f = (.ok r, f') → f.here < f.fn.blocks.length →
        r = (returned || s.isReturn) ∧ Extends result s f f') ∧
    ∀ (body : List Stmt) {f f' : Frame},
      exec (lowerSuite body) f = (.ok (), f') → f.here < f.fn.blocks.length →
        ∃ parts, Lowers Ty.i64 body f parts f' := by
  -- a statement alone is no derivation: it says how a derivation of what follows gets longer
  refine lowerStmt.mutual_induct
    (fun result returned s => ∀ {f f' : Frame} {r : Bool},
      exec (lowerStmt result returned s) f = (.ok r, f') → f.here < f.fn.blocks.length →
        r = (returned || s.isReturn) ∧ Extends result s f f')
    (fun body => ∀ {f f' : Frame},
      exec (lowerSuite body) f = (.ok (), f') → f.here < f.fn.blocks.length →
        ∃ parts, Lowers Ty.i64 body f parts f') ?_ ?_ ?_ ?_ ?_
  · intro result returned test body orelse ihbody ihorelse f f' r h hin
    simp only [Stmt.isReturn, Bool.or_false]
    exact lowerStmt_cond_extends ihbody ihorelse h hin
  · intro result returned value f f' r h hin
    obtain ⟨rfl, hextends⟩ := lowerStmt_ret_extends h hin
    exact ⟨by simp [Stmt.isReturn], hextends⟩
  · intro result returned s hcond hret f f' r h hin
    have hsimple : s.isSimple = true := by
      cases s with
      | cond test body orelse => exact (hcond test body orelse rfl).elim
      | ret value => exact (hret value rfl).elim
      | _ => rfl
    have hreturn : s.isReturn = false := by
      cases s with
      | ret value => exact (hret value rfl).elim
      | _ => rfl
    rw [hreturn, Bool.or_false]
    exact lowerStmt_simple_extends hsimple h
  · intro f f' h hin
    rw [lowerSuite] at h
    obtain ⟨-, rfl⟩ := exec_pure_inv h
    exact ⟨[], .nil⟩
  · intro s rest ihstmt ihrest f f' h hin
    rw [lowerSuite] at h
    obtain ⟨r, f₁, hstmt, h⟩ := exec_bind_inv h
    obtain ⟨-, hextends⟩ := ihstmt hstmt hin
    obtain ⟨parts, hrest⟩ := ihrest h (hextends.inRange hin)
    exact hextends hrest

theorem lowers_of_lowerBody {result : Ty} {returned r : Bool} {body : List Stmt} {f f' : Frame}
    (h : exec (lowerBody result returned body) f = (.ok r, f'))
    (hin : f.here < f.fn.blocks.length) :
    r = (returned || body.any Stmt.isReturn) ∧ ∃ parts, Lowers result body f parts f' := by
  induction body generalizing returned f with
  | nil =>
    rw [lowerBody] at h
    obtain ⟨rfl, rfl⟩ := exec_pure_inv h
    exact ⟨by simp, [], .nil⟩
  | cons s rest ih =>
    rw [lowerBody] at h
    obtain ⟨r₁, f₁, hstmt, h⟩ := exec_bind_inv h
    obtain ⟨rfl, hextends⟩ := lowers_of_exec.1 result returned s hstmt hin
    obtain ⟨rfl, parts, hrest⟩ := ih h (hextends.inRange hin)
    exact ⟨by simp [Bool.or_assoc], hextends hrest⟩

end BpfCompiler.Lower
