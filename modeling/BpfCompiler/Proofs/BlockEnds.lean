import BpfCompiler.Proofs.ControlFlow
import BpfCompiler.Proofs.Coverage

/-!
# Where blocks end

A return ends the block where it stands, but its suite goes on, and what follows is lowered into the same
block.  There a second return and a branch are refused, and a statement that is passed over does no harm; an
assignment or a call leaves its instructions behind the return.  This module says which statements leave
instructions at all, and so in which programs every block ends with its terminator.
-/

namespace BpfCompiler.IR.Block

/-- The last instruction is a terminator and no other one is. -/
def EndsInTerminator (b : Block) : Prop :=
  ∃ code last, b.insts = code ++ [last] ∧ last.op.isTerminator = true ∧
    ∀ i ∈ code, i.op.isTerminator = false

/-- Something stands behind a terminator. -/
def overrun (b : Block) : Bool := b.insts.dropLast.any fun i => i.op.isTerminator

theorem overrun_of_open {b : Block} (h : b.isTerminated = false) : b.overrun = false := by
  rw [isTerminated, List.any_eq_false] at h
  rw [overrun, List.any_eq_false]
  exact fun i hi => h i (List.dropLast_subset _ hi)

theorem overrun_extend (b : Block) {new : List Inst} (h : new ≠ []) :
    (b.extend new).overrun =
      (b.isTerminated || new.dropLast.any fun i => i.op.isTerminator) := by
  rw [overrun, extend_insts, List.dropLast_append_of_ne_nil h, List.any_append]
  rfl

/-- Plain instructions stand behind a terminator when there is one. -/
theorem overrun_extend_plain (b : Block) {new : List Inst}
    (hnew : ∀ i ∈ new, i.op.isTerminator = false) :
    (b.extend new).overrun = (b.overrun || (b.isTerminated && !new.isEmpty)) := by
  by_cases hempty : new = []
  · simp [hempty]
  · have hplain : (new.dropLast.any fun i => i.op.isTerminator) = false := by
      rw [List.any_eq_false]
      intro i hi
      simp [hnew i (List.dropLast_subset _ hi)]
    have hsome : (!new.isEmpty) = true := by simpa using hempty
    rw [overrun_extend b hempty, hplain, hsome, Bool.or_false, Bool.and_true]
    cases hended : b.isTerminated with
    | true => simp
    | false => simp [overrun_of_open hended]

/-- An open block may get its terminator as the last instruction. -/
theorem overrun_extend_open {b : Block} (h : b.isTerminated = false) {new : List Inst}
    (hnew : ∀ i ∈ new.dropLast, i.op.isTerminator = false) : (b.extend new).overrun = false := by
  by_cases hempty : new = []
  · simp [hempty, overrun_of_open h]
  · rw [overrun_extend b hempty, h, Bool.false_or, List.any_eq_false]
    intro i hi
    simp [hnew i hi]

theorem overrun_eq_false {b : Block} :
    b.overrun = false ↔ ∀ i ∈ b.insts.dropLast, i.op.isTerminator = false := by
  simp [overrun]

theorem terminators_concat {code : List Inst} (hcode : ∀ i ∈ code, i.op.isTerminator = false)
    (label : String) (last : Inst) :
    terminators ⟨label, code ++ [last]⟩ = if last.op.isTerminator then [last] else [] := by
  have hnone : (code.filter fun i => i.op.isTerminator) = [] := by
    rw [List.filter_eq_nil_iff]
    intro i hi
    simp [hcode i hi]
  rw [terminators, List.filter_append, hnone, List.nil_append, List.filter_singleton, cond_eq_ite]

/-- A block ends in its terminator if it has one, with nothing behind it. -/
theorem endsInTerminator_iff {b : Block} :
    b.EndsInTerminator ↔ b.terminators.length = 1 ∧ b.overrun = false := by
  obtain ⟨label, insts⟩ := b
  constructor
  · rintro ⟨code, last, rfl, hlast, hcode⟩
    rw [overrun_eq_false, terminators_concat hcode, hlast]
    simpa using hcode
  · rintro ⟨hone, hover⟩
    have hne : insts ≠ [] := by
      rintro rfl
      cases hone
    have hcode := overrun_eq_false.mp hover
    have hsplit := List.dropLast_append_getLast hne
    refine ⟨insts.dropLast, insts.getLast hne, hsplit.symm, ?_, hcode⟩
    rw [← hsplit, terminators_concat hcode] at hone
    by_contra hlast
    simp [hlast] at hone

instance (b : Block) : Decidable b.EndsInTerminator := decidable_of_iff' _ endsInTerminator_iff

end BpfCompiler.IR.Block

namespace BpfCompiler.Lower

open IR Syntax Emit

/-! ### Statements that leave instructions -/

/-- The expression reads through a variable that has a slot. -/
def isLoaded (locals : Table (Option Slot)) : Expr → Bool
  | .call (.name id) args _ => readsThrough locals id args
  | _ => false

/-- Whether a statement that is neither a branch nor a return leaves instructions. -/
def leavesCode (maps : Table Operand) (locals : Table (Option Slot)) : Stmt → Bool
  | .assign [.name _] value => isStored maps locals value
  | .expr value => isCalled value || isLoaded locals value
  | _ => false

variable {f : Frame}

theorem assignMethod_silent (target : String) {map method : String} (args : List Expr)
    (h : ((f.workspace.maps.get? map).isSome && (Helper.ofName? method).isSome) = false) :
    Silent f (assignMethod target map method args) := by
  refine .get ?_
  split
  · rename_i hmap hmethod
    simp [hmap, hmethod] at h
  · exact Lays.pure rfl

/-- A value that is not stored adds nothing. -/
theorem assignValue_silent_of_not_stored (target : String) {value : Expr}
    (h : isStored f.workspace.maps f.locals value = false) : Silent f (assignValue target value) := by
  cases hmethod : isMethod value with
  | false => exact assignValue_silent target h hmethod
  | true =>
    unfold isMethod at hmethod
    split at hmethod
    · exact assignMethod_silent target _ h
    · cases hmethod

theorem printCall_silent {args : List Expr} (h : printsText args = false) :
    Silent f (printCall args) := by
  unfold printCall
  split
  · exact .throw trivial
  · cases h
  · rename_i hjoined
    rw [printsText] at h
    · have hnone : args.filterMap Expr.textLiteral? = [] := by simpa using h
      rw [hnone]
      exact Silent.bind (.pure rfl) fun _ _ _ => .pure rfl
    · exact hjoined

theorem callPlain_silent {helper : Helper} {args : List Expr} (h : callsPlain helper args = false) :
    Silent f (callPlain true helper args) := by
  cases helper with
  | print => exact printCall_silent h
  | _ => cases h

/-- Reading through a variable that has a slot leaves a load. -/
theorem evalDeref_adds {args : List Expr} (h : readsThrough f.locals "deref" args = true) :
    Adds (fun _ => True) f (evalDeref args) := by
  obtain ⟨-, x, slot, rfl, hslot⟩ := readsThrough_inv h
  unfold evalDeref
  refine Adds.later (say_preserves _) fun _ f₁ htables₁ => ?_
  refine Adds.later (say_preserves _) fun _ f₂ htables₂ => ?_
  rw [derefCall]
  refine .get ?_
  rw [(htables₁.trans htables₂).locals, hslot]
  refine Adds.first ?_ fun _ => Preserves.pure _
  exact Adds.append rfl fun _ => trivial

theorem lowerExpr_adds_load {value : Expr} (h : isLoaded f.locals value = true) :
    Adds (fun _ => True) f (lowerExpr value) := by
  unfold isLoaded at h
  split at h
  · rename_i id args keywords
    obtain ⟨rfl, -⟩ := readsThrough_inv h
    unfold lowerExpr
    refine Adds.later (say_preserves _) fun _ f₁ htables => ?_
    rw [← htables.locals] at h
    refine Adds.first ?_ fun _ => Preserves.pure _
    rw [eval, if_pos rfl]
    exact Adds.first (evalDeref_adds h) fun _ => Preserves.pure _
  · cases h

theorem lowerExpr_silent_of_not_called {value : Expr} (hcalled : isCalled value = false)
    (hloaded : isLoaded f.locals value = false) : Silent f (lowerExpr value) := by
  cases hevaluated : isEvaluated value with
  | false => exact lowerExpr_silent hevaluated
  | true =>
    unfold isEvaluated at hevaluated
    split at hevaluated
    · rename_i id args keywords
      unfold lowerExpr
      refine Silent.bind (Silent.say _) fun _ f₁ htables => ?_
      refine Silent.bind ?_ fun _ _ _ => .pure rfl
      rw [isLoaded, ← htables.locals] at hloaded
      rw [eval]
      by_cases hid : id = "deref"
      · rw [if_pos hid]
        rw [hid] at hloaded
        refine Silent.bind (.of_straight fun _ _ hexec => (evalDeref_none hloaded hexec).2) fun _ _ _ => ?_
        exact .pure rfl
      · rw [if_neg hid]
        obtain ⟨helper, hhelper⟩ : ∃ helper, Helper.ofName? id = some helper := by
          simpa [hid, Option.isSome_iff_exists] using hevaluated
        have hprint : callsPlain helper args = false := by
          simpa [isCalled, hhelper] using hcalled
        refine Silent.bind (Silent.say _) fun _ f₂ _ => ?_
        rw [hhelper, Option.isSome_some, if_pos rfl, helperCall, hhelper]
        exact callPlain_silent hprint
    · rw [isCalled, hevaluated] at hcalled
      cases hcalled
    · cases hevaluated

theorem lowerSimple_silent_of_not_leavesCode {s : Stmt}
    (h : leavesCode f.workspace.maps f.locals s = false) : Silent f (lowerSimple s) := by
  unfold lowerSimple
  refine Silent.bind (Silent.say _) fun _ f₁ htables => ?_
  rw [← htables.maps, ← htables.locals] at h
  split
  · obtain ⟨hcalled, hloaded⟩ := Bool.or_eq_false_iff.mp h
    exact lowerExpr_silent_of_not_called hcalled hloaded
  · unfold lowerAssign
    split
    · exact assignValue_silent_of_not_stored _ h
    · exact Silent.say _
    · exact Silent.say _
  · exact .throw trivial
  · exact .pure rfl

/-- A statement leaves instructions exactly when it is one of those that do. -/
theorem leavesCode_eq {s : Stmt} {f' : Frame} {new : List Inst} (hsimple : s.isSimple = true)
    (hexec : exec (lowerSimple s) f = (.ok (), f')) (hstraight : Straight f f' new)
    (hin : f.here < f.fn.blocks.length) :
    leavesCode f.workspace.maps f.locals s = !new.isEmpty := by
  have htranslated := Translated.of_simple hsimple hexec hstraight hin rfl rfl
  cases hleaves : leavesCode f.workspace.maps f.locals s with
  | false =>
    have hsilent := (lowerSimple_silent_of_not_leavesCode hleaves).straight hexec
    rw [hstraight.toAppends.unique hsilent.toAppends hin]
    rfl
  | true =>
    have hsome : ∃ i, i ∈ new := by
      unfold leavesCode at hleaves
      split at hleaves
      · obtain ⟨i, hi, -⟩ := htranslated.assigned _ _ rfl hleaves
        exact ⟨i, hi⟩
      · rename_i value
        rcases Bool.or_eq_true_iff.mp hleaves with hcalled | hloaded
        · obtain ⟨i, hi, -⟩ := htranslated.called value rfl hcalled
          exact ⟨i, hi⟩
        · have hadds : Adds (fun _ => True) f (lowerSimple (.expr value)) := by
            refine lowerSimple_adds rfl fun f₁ htables => ?_
            rw [← htables.locals] at hloaded
            exact lowerExpr_adds_load hloaded
          obtain ⟨i, hi, -⟩ := hadds.of_straight hexec hstraight hin
          exact ⟨i, hi⟩
      · cases hleaves
    obtain ⟨i, hi⟩ := hsome
    have hne : new ≠ [] := List.ne_nil_of_mem hi
    simpa using hne

/-! ### Suites that go on behind a return -/

mutual

/-- In one of the suites of a statement, code follows a return. -/
def overrunsInside (maps : Table Operand) (locals : Table (Option Slot)) : Stmt → Bool
  | .cond _ body orelse => overruns maps locals false body || overruns maps locals false orelse
  | _ => false

/-- Code follows a return in the suite or in one inside it; `ended` tells that a return came before. -/
def overruns (maps : Table Operand) (locals : Table (Option Slot)) (ended : Bool) :
    List Stmt → Bool
  | [] => false
  | s :: rest =>
    (ended && leavesCode maps locals s) || overrunsInside maps locals s ||
      overruns maps locals (ended || s.isReturn) rest

end

def Frame.overrun (f : Frame) : Bool := f.fn.blocks.any Block.overrun

theorem Frame.moved_overrun (f : Frame) (place : Nat) : (f.moved place).overrun = f.overrun := rfl

theorem Appends.split {f f' : Frame} {new : List Inst} (h : Appends f f' new)
    (hin : f.here < f.fn.blocks.length) :
    ∃ front back, f.fn.blocks = front ++ f.block :: back ∧
      f'.fn.blocks = front ++ f.block.extend new :: back := by
  have hblock : f.fn.blocks[f.here] = f.block := by
    rw [List.getElem_eq_iff]
    exact Frame.getElem?_here hin
  refine ⟨f.fn.blocks.take f.here, f.fn.blocks.drop (f.here + 1), ?_, ?_⟩
  · rw [← hblock, ← List.drop_eq_getElem_cons hin, List.take_append_drop]
  · rw [h.blocks, List.modify_eq_take_cons_drop hin, hblock]

/-- What is appended matters to the current block only. -/
theorem Appends.overrun {f f' : Frame} {new : List Inst} {more : Bool} (h : Appends f f' new)
    (hin : f.here < f.fn.blocks.length)
    (hblock : (f.block.extend new).overrun = (f.block.overrun || more)) :
    f'.overrun = (f.overrun || more) := by
  obtain ⟨front, back, hbefore, hafter⟩ := h.split hin
  rw [Frame.overrun, Frame.overrun, hbefore, hafter]
  simp only [List.any_append, List.any_cons, hblock]
  simp only [Bool.or_assoc, Bool.or_comm more]

theorem Straight.overrun {f f' : Frame} {new : List Inst} (h : Straight f f' new)
    (hin : f.here < f.fn.blocks.length) :
    f'.overrun = (f.overrun || (f.block.isTerminated && !new.isEmpty)) :=
  h.toAppends.overrun hin (f.block.overrun_extend_plain h.plain)

theorem Appends.overrun_open {f f' : Frame} {new : List Inst} (h : Appends f f' new)
    (hin : f.here < f.fn.blocks.length) (hopen : f.block.isTerminated = false)
    (hnew : ∀ i ∈ new.dropLast, i.op.isTerminator = false) : f'.overrun = f.overrun := by
  have hblock : (f.block.extend new).overrun = (f.block.overrun || false) := by
    rw [Block.overrun_extend_open hopen hnew, Block.overrun_of_open hopen]
    rfl
  rw [h.overrun hin hblock, Bool.or_false]

theorem Makes.overrun {f f' : Frame} {arms : Arms} (h : Makes f f' arms) :
    f'.overrun = f.overrun := by
  have hempty : ((arms.labels.map fun label => Block.mk label []).any Block.overrun) = false := by
    rw [List.any_map, List.any_eq_false]
    intro label _
    simp [Block.overrun]
  rw [Frame.overrun, h.blocks, List.any_append, hempty, Bool.or_false]
  rfl

theorem Opens.overrun {test : Expr} {f g : Frame} {arms : Arms} {new : List Inst}
    (h : Opens test f g arms new) (hin : f.here < f.fn.blocks.length) : g.overrun = f.overrun := by
  obtain ⟨f₁, hmakes, happends, -⟩ := h.steps
  obtain ⟨code, condition, name, rfl, hcode⟩ := h.shape
  have hopen : f₁.block.isTerminated = false := by rw [hmakes.block hin, h.isOpen]
  rw [happends.overrun_open (hmakes.inRange hin) hopen (by simpa using hcode), hmakes.overrun]

theorem Joins.overrun {label : String} {f f' : Frame} {new : List Inst} (h : Joins label f f' new)
    (hin : f.here < f.fn.blocks.length) : f'.overrun = f.overrun := by
  cases h with
  | ended hended => rfl
  | branch hopen happends hlocals => exact happends.overrun_open hin hopen (by simp)

theorem Frame.moved_open {f : Frame} {place : Nat} {label : String}
    (h : f.fn.blocks[place]? = some ⟨label, []⟩) : (f.moved place).block.isTerminated = false := by
  have hblock : (f.moved place).block = ⟨label, []⟩ := Frame.block_of_getElem? h
  rw [hblock]
  rfl

/-- Lowering a suite leaves code behind a terminator where code follows a return in it, and nowhere
else. -/
theorem Lowers.overrun {result : Ty} {body : List Stmt} {f f' : Frame}
    {parts : List (Stmt × List Inst)} {maps : Table Operand} {locals : Table (Option Slot)}
    (h : Lowers result body f parts f') (hin : f.here < f.fn.blocks.length)
    (hmaps : f.workspace.maps = maps) (hlocals : f.locals = locals) :
    f'.overrun = (f.overrun || overruns maps locals f.block.isTerminated body) := by
  -- a suite of a branch and what follows the branch start in empty blocks, where no return came before
  induction h with
  | nil => simp [overruns]
  | @simple result s rest f f₁ f₂ new parts hsimple hexec hstraight hrest ih =>
    have hleaves := leavesCode_eq hsimple hexec hstraight hin
    have hsame : overrunsInside maps locals s = false ∧ s.isReturn = false := by
      cases s with
      | cond | ret => cases hsimple
      | _ => exact ⟨rfl, rfl⟩
    rw [hmaps, hlocals] at hleaves
    rw [ih (hstraight.inRange hin) (hstraight.maps.trans hmaps) (hstraight.locals.trans hlocals),
      hstraight.overrun hin, hstraight.isTerminated hin, overruns, hleaves, hsame.1, hsame.2]
    simp only [Bool.or_false, Bool.or_assoc]
  | ret hopen hoperand happends hkept hrest ih =>
    have hended := happends.block hin
    rw [ih (happends.inRange hin) (happends.maps.trans hmaps) (hkept.trans hlocals),
      happends.overrun_open hin hopen (by simp), hended, isTerminated_extend, overruns, hopen]
    simp [overrunsInside, Stmt.isReturn, Op.isTerminator]
  | @branch result test body rest f g g₁ g₂ f' arms new join parts₁ parts₂ hopens hother hbody hjoins
      hrest ihbody ihrest =>
    have harm := hbody.grown.trans hjoins.grown
    have hafter := hopens.grown_after harm
    have hthen := hopens.getElem?_then hin
    have hinThen := (List.getElem?_eq_some_iff.mp hthen).1
    have hbody' := ihbody hinThen (hopens.grown.maps.trans hmaps) (hopens.grown.locals.trans hlocals)
    rw [Frame.moved_open hthen, Frame.moved_overrun, hopens.overrun hin] at hbody'
    have hrest' := ihrest (hafter.inRange hin) (hafter.maps.trans hmaps) (hafter.locals.trans hlocals)
    rw [Frame.moved_open (hopens.getElem?_end_after hin harm), Frame.moved_overrun,
      hjoins.overrun (hbody.grown.inRange hinThen), hbody'] at hrest'
    rw [hrest', hopens.isOpen]
    simp [overruns, overrunsInside, Stmt.isReturn, Bool.or_assoc]
  | @branchElse result test body orelse rest f g g₁ g₂ g₃ g₄ f' arms elseBlock elseLabel new join join'
      parts₁ parts₂ parts₃ helse hopens hother hbody hjoins horelse hjoins' hrest ihbody ihorelse
      ihrest =>
    have harm := hbody.grown.trans hjoins.grown
    have harm' := horelse.grown.trans hjoins'.grown
    have hafter := hopens.grown_after_else hother harm harm'
    have hthen := hopens.getElem?_then hin
    have hsecond := hopens.getElem?_else_after hin hother harm
    have hinThen := (List.getElem?_eq_some_iff.mp hthen).1
    have hinElse := (List.getElem?_eq_some_iff.mp hsecond).1
    have hbody' := ihbody hinThen (hopens.grown.maps.trans hmaps) (hopens.grown.locals.trans hlocals)
    rw [Frame.moved_open hthen, Frame.moved_overrun, hopens.overrun hin] at hbody'
    have horelse' := ihorelse hinElse ((harm.maps.trans hopens.grown.maps).trans hmaps)
      ((harm.locals.trans hopens.grown.locals).trans hlocals)
    rw [Frame.moved_open hsecond, Frame.moved_overrun, hjoins.overrun (hbody.grown.inRange hinThen),
      hbody'] at horelse'
    have hrest' := ihrest (hafter.inRange hin) (hafter.maps.trans hmaps) (hafter.locals.trans hlocals)
    rw [Frame.moved_open (hopens.getElem?_end_after_else hin hother harm harm'), Frame.moved_overrun,
      hjoins'.overrun (horelse.grown.inRange hinElse), horelse'] at hrest'
    rw [hrest', hopens.isOpen]
    simp [overruns, overrunsInside, Stmt.isReturn, Bool.or_assoc]

/-! ### Functions -/

theorem Prepares.overrun {body : List Stmt} {w : Workspace} {d : Syntax.Function} {result : Ty}
    {f : Frame} {slots : List Inst} (h : Prepares body (programStart w d result) f slots) :
    f.overrun = false := by
  have hin := programStart_inRange w d result
  rw [h.toAppends.overrun_open hin (programStart_open w d result)
    fun i hi => h.plain i (List.dropLast_subset _ hi)]
  rfl

theorem Prepares.overrun_after {w : Workspace} {d : Syntax.Function} {result : Ty} {f g : Frame}
    {slots : List Inst} {parts : List (Stmt × List Inst)}
    (h : Prepares d.body (programStart w d result) f slots) (hlowers : Lowers result d.body f parts g) :
    g.overrun = overruns w.maps f.locals false d.body := by
  obtain ⟨hhere, hlength, hopen, -⟩ := h.entry
  rw [hlowers.overrun (by omega) h.maps rfl, h.overrun, hopen, Bool.false_or]
  rfl

theorem Builds.overrun {result : Ty} {w : Workspace} {d : Syntax.Function} {f : Frame}
    {parts : List (Stmt × List Inst)}
    (h : Builds result d.body (programStart w d result) parts f) :
    ∃ locals, IsTableOf d result locals ∧ f.overrun = overruns w.maps locals false d.body := by
  cases h with
  | @returned f₁ f' slots parts hslots hlowers hreturn =>
    exact ⟨f₁.locals, hslots.isTableOf, hslots.overrun_after hlowers⟩
  | @falls f₁ g f' slots parts name hslots hlowers hreturn hopen happends hlocals =>
    have hin : g.here < g.fn.blocks.length :=
      hlowers.grown.inRange (hslots.inRange (programStart_inRange w d result))
    refine ⟨f₁.locals, hslots.isTableOf, ?_⟩
    rw [happends.overrun_open hin hopen (by simp), hslots.overrun_after hlowers]

/-- In a function that is built every block ends in its terminator, unless code follows a return. -/
theorem Lowered.endsInTerminator_iff {maps : Table Operand} {d : Syntax.Function} {fn : IR.Function}
    (h : Lowered maps d fn) :
    ∃ locals, IsTableOf d fn.result locals ∧
      ((∀ b ∈ fn.blocks, b.EndsInTerminator) ↔ overruns maps locals false d.body = false) := by
  obtain ⟨w, parts, f, rfl, rfl, hbuilds⟩ := h.builds
  obtain ⟨locals, htable, hover⟩ := hbuilds.overrun
  refine ⟨locals, htable, ?_⟩
  rw [← hover, Frame.overrun, List.any_eq_false]
  refine forall_congr' fun b => forall_congr' fun hb => ?_
  rw [Block.endsInTerminator_iff, Bool.not_eq_true]
  exact and_iff_right (hbuilds.wellFormedFlow.terminated b hb)

/-- Every block has one terminator, which is its last instruction, exactly in the functions whose programs
have no suite where a statement that leaves instructions follows a return. -/
theorem source_endsInTerminator_iff {path : String} {text : List Char} {maps : Table Operand}
    {out : Text} {w : Workspace}
    (h : exec (Compile.source path text) (Compile.start path maps) = (.ok out, w)) :
    ∃ m, Syntax.Module.parse (Lexer.universalNewlines text) = .ok m ∧
      List.Forall₂
        (fun d fn => fn.name = d.name ∧ ∃ locals, IsTableOf d fn.result locals ∧
          ((∀ b ∈ fn.blocks, b.EndsInTerminator) ↔ overruns w.maps locals false d.body = false))
        m.programs w.module.functions := by
  obtain ⟨m, hparse, hall, -⟩ := source_inv h
  exact ⟨m, hparse, hall.imp fun d fn hlowered => ⟨hlowered.name, hlowered.endsInTerminator_iff⟩⟩

/-- Statements that leave nothing follow a return. -/
def idleTailSource : List Char :=
  ("@bpf\ndef f() -> c_int64:\n    x = ktime()\n    if x > 1:\n        return c_int64(1)\n" ++
    "        y = [x]\n    return c_int64(0)\n    pass\n").toList

theorem idleTail_endsInTerminator_iff :
    ∃ (out : Text) (w : Workspace) (m : Syntax.Module),
      exec (Compile.source "prog.py" idleTailSource) (Compile.start "prog.py" Table.empty) =
        (.ok out, w) ∧
      Syntax.Module.parse (Lexer.universalNewlines idleTailSource) = .ok m ∧
      List.Forall₂
        (fun d fn => fn.name = d.name ∧ ∃ locals, IsTableOf d fn.result locals ∧
          ((∀ b ∈ fn.blocks, b.EndsInTerminator) ↔ overruns w.maps locals false d.body = false))
        m.programs w.module.functions ∧
      ∀ fn ∈ w.module.functions, ∀ b ∈ fn.blocks, b.EndsInTerminator := by
  have hrun :
      (exec (Compile.source "prog.py" idleTailSource)
        (Compile.start "prog.py" Table.empty)).1.isOk = true ∧
      ∀ fn ∈ (exec (Compile.source "prog.py" idleTailSource)
        (Compile.start "prog.py" Table.empty)).2.module.functions,
        ∀ b ∈ fn.blocks, b.EndsInTerminator := by
    decide +kernel
  obtain ⟨out, w, hsource⟩ := exec_of_isOk hrun.1
  rw [hsource] at hrun
  obtain ⟨m, hparse, hall⟩ := source_endsInTerminator_iff hsource
  exact ⟨out, w, m, hsource, hparse, hall, hrun.2⟩

/-- An assignment follows a return. -/
def storeAfterReturnSource : List Char :=
  "@bpf\ndef f() -> c_int64:\n    x = 1\n    return c_int64(0)\n    x = 2\n".toList

/-- The store stands behind the terminator of its block. -/
theorem storeAfterReturn_not_last :
    ∃ (out : Text) (w : Workspace),
      exec (Compile.source "prog.py" storeAfterReturnSource) (Compile.start "prog.py" Table.empty) =
        (.ok out, w) ∧
      ∃ fn ∈ w.module.functions, ∃ b ∈ fn.blocks, ¬b.EndsInTerminator := by
  have hrun :
      (exec (Compile.source "prog.py" storeAfterReturnSource)
        (Compile.start "prog.py" Table.empty)).1.isOk = true ∧
      ∃ fn ∈ (exec (Compile.source "prog.py" storeAfterReturnSource)
        (Compile.start "prog.py" Table.empty)).2.module.functions,
        ∃ b ∈ fn.blocks, ¬b.EndsInTerminator := by
    decide +kernel
  obtain ⟨out, w, hsource⟩ := exec_of_isOk hrun.1
  rw [hsource] at hrun
  exact ⟨out, w, hsource, hrun.2⟩

end BpfCompiler.Lower
