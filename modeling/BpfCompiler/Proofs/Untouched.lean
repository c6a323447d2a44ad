import BpfCompiler.Proofs.BodySteps

/-!
# What a statement leaves alone

The lowering of a statement can fail halfway, after it has made blocks, moved into them and emitted part of
their code.  However it ends, the blocks that were there before are as they were, except that the current
one may have got more instructions at its end.  The tables and the metadata are the same, and the module has
got no other globals than format strings of the function.

A single step does not keep all that, since it may move to any block.  A statement moves only to blocks that
it has made itself, so growth is followed from the frame in which the statement starts.
-/

namespace BpfCompiler.Lower

open IR Syntax Emit

/-! ### Blocks -/

theorem Composed.grown {α : Type} {m : Emit α}
    (h : StraightCode (fun _ => True) (fun _ => True) True m) : Preserves Grown m := by
  intro f
  obtain ⟨new, hstraight⟩ := h.straightLine f
  exact hstraight.grown

theorem terminate_grown (op : Op) : Preserves Grown (terminate op) := by
  intro f
  rw [exec_terminate]
  split
  · -- the block has ended before: nothing but a name is taken
    have hname : Appends f (exec (freshName "") f).2 [] :=
      .of_same (.of_fresh f "" f.fn.blocks) rfl rfl
    exact hname.grown rfl
  · obtain ⟨name, f', hexec, happends, hlocals⟩ := exec_appendNamed "" op f
    rw [hexec]
    exact happends.grown hlocals

theorem joinAt_grown (label : String) : Preserves Grown (joinAt label) := by
  unfold joinAt
  refine .bind .get fun f => ?_
  split
  · exact terminate_grown _
  · exact .pure _

theorem fillBlock_grown (place : Nat) {suite : Emit Unit} (hsuite : Preserves Grown suite)
    (label : String) (g : Frame) : Grown (g.moved place) (exec (fillBlock place suite label) g).2 := by
  have hrest : Preserves Grown (suite >>= fun _ => joinAt label) :=
    .bind hsuite fun _ => joinAt_grown label
  rw [fillBlock, exec_bind_ok (exec_moveTo place g)]
  exact hrest _

theorem branchOn_grown (test : Expr) (arms : Arms) :
    Preserves Grown (do
      let outcome ← condition test
      terminate (.condBranch outcome arms.thenLabel arms.otherwise)
      return arms) :=
  .bind (condition_code fun _ _ => trivial).grown fun _ =>
    .bind (terminate_grown _) fun _ => .pure _

theorem openBranch_grown (test : Expr) (hasElse : Bool) : Preserves Grown (openBranch test hasElse) := by
  intro f
  obtain ⟨arms, f₁, hexec, hmakes, -⟩ := exec_makeArms hasElse f
  rw [openBranch, exec_bind_ok hexec]
  exact hmakes.grown.trans (branchOn_grown test arms f₁)

theorem openBranch_made {test : Expr} {hasElse : Bool} {f g : Frame} {arms : Arms}
    (h : exec (openBranch test hasElse) f = (.ok arms, g)) : ∃ f₁, Makes f f₁ arms ∧ Grown f₁ g := by
  obtain ⟨made, f₁, hexec, hmakes, -⟩ := exec_makeArms hasElse f
  rw [openBranch, exec_bind_ok hexec] at h
  have hgrown := (branchOn_grown test made).of_exec h
  obtain ⟨outcome, f₂, -, htail⟩ := exec_bind_inv h
  obtain ⟨⟨⟩, f₃, -, hend⟩ := exec_bind_inv htail
  obtain ⟨rfl, -⟩ := exec_pure_inv hend
  exact ⟨f₁, hmakes, hgrown⟩

theorem lowerStmt_cond_grown {body orelse : List Stmt} (hbody : Preserves Grown (lowerSuite body))
    (horelse : Preserves Grown (lowerSuite orelse)) (result : Ty) (returned : Bool) (test : Expr) :
    Preserves Grown (lowerStmt result returned (.cond test body orelse)) := by
  rw [lowerStmt]
  refine .bind (say_code _).grown fun _ => .bind (say_code _).grown fun _ => ?_
  intro f
  refine exec_bind_state (openBranch_grown test _ f) fun arms g hopen => ?_
  obtain ⟨f₁, hmakes, hgrown⟩ := openBranch_made hopen
  have hg : Grown f g := hmakes.grown.trans hgrown
  have hlength : f₁.fn.blocks.length = f.fn.blocks.length + arms.labels.length := by
    simp [hmakes.blocks]
  have hle := hgrown.length_le
  have hlabels := Opens.two_le_labels arms
  have hthen := hmakes.thenBlock
  have hend := hmakes.endBlock
  have hentered : Grown f (g.moved arms.thenBlock) := hg.moved (by omega) (by omega)
  have hfilled := fillBlock_grown arms.thenBlock hbody arms.endLabel g
  refine exec_bind_state (hentered.trans hfilled) fun _ g₁ hfirst => ?_
  rw [hfirst] at hfilled
  have hle₁ : g.fn.blocks.length ≤ g₁.fn.blocks.length := hfilled.length_le
  have hg₁ : Grown f g₁ := hentered.trans hfilled
  cases harms : arms.other with
  | none => exact hg₁.moved (by omega) (by omega)
  | some other =>
    obtain ⟨place, label⟩ := other
    have hplace := hmakes.other place label harms
    have hthree : arms.labels.length = 3 := by simp [Arms.labels, harms]
    have hentered' : Grown f (g₁.moved place) := hg₁.moved (by omega) (by omega)
    have hfilled' := fillBlock_grown place horelse arms.endLabel g₁
    refine exec_bind_state (hentered'.trans hfilled') fun _ g₂ hsecond => ?_
    rw [hsecond] at hfilled'
    have hle₂ : g₁.fn.blocks.length ≤ g₂.fn.blocks.length := hfilled'.length_le
    have hg₂ : Grown f g₂ := hentered'.trans hfilled'
    exact hg₂.moved (by omega) (by omega)

theorem lowerStmt_grown :
    (∀ (result : Ty) (returned : Bool) (s : Stmt), Preserves Grown (lowerStmt result returned s)) ∧
    ∀ body : List Stmt, Preserves Grown (lowerSuite body) := by
  apply lowerStmt.mutual_induct
  · intro result returned test body orelse ihbody ihorelse
    exact lowerStmt_cond_grown ihbody ihorelse result returned test
  · intro result returned value
    rw [lowerStmt]
    exact .bind (say_code _).grown fun _ => .bind (.lift _) fun _ =>
      .bind (terminate_grown _) fun _ => .pure _
  · intro result returned s hcond hret
    have hsimple : s.isSimple = true := by
      cases s with
      | cond test body orelse => exact (hcond test body orelse rfl).elim
      | ret value => exact (hret value rfl).elim
      | _ => rfl
    rw [lowerStmt_simple hsimple]
    exact .bind (lowerSimple_code (fun _ _ => trivial) fun _ _ => trivial).grown fun _ => .pure _
  · rw [lowerSuite]
    exact .pure _
  · intro s rest ihstmt ihrest
    rw [lowerSuite]
    exact .bind ihstmt fun _ => ihrest

/-! ### Globals -/

/-- The variable is a format string of the function, with a number from its count of them up to another. -/
def IsFormatOf (fn : IR.Function) (upTo : Nat) (v : Variable) : Prop :=
  ∃ (number : Nat) (full : Text), fn.formats ≤ number ∧ number < upTo ∧
    v = textVariable (formatName fn.name number) full full.utf8?

structure AddsFormats (f f' : Frame) : Prop where
  name : f'.fn.name = f.fn.name
  count : f.fn.formats ≤ f'.fn.formats
  globals : ∃ added : List Variable,
    f'.workspace.module.globals = f.workspace.module.globals ++ added.map Global.variable ∧
      ∀ v ∈ added, IsFormatOf f.fn f'.fn.formats v

instance : Std.Refl AddsFormats := ⟨fun _ => ⟨rfl, Nat.le_refl _, [], by simp, by simp⟩⟩

instance : IsTrans Frame AddsFormats where
  trans f f₁ f₂ h h' := by
    obtain ⟨first, hglobals, hfirst⟩ := h.globals
    obtain ⟨second, hglobals', hsecond⟩ := h'.globals
    refine ⟨h'.name.trans h.name, Nat.le_trans h.count h'.count, first ++ second, ?_, fun v hv => ?_⟩
    · simp [hglobals', hglobals]
    · rcases List.mem_append.mp hv with hv | hv
      · obtain ⟨number, full, hle, hlt, rfl⟩ := hfirst v hv
        exact ⟨number, full, hle, Nat.lt_of_lt_of_le hlt h'.count, rfl⟩
      · obtain ⟨number, full, hle, hlt, rfl⟩ := hsecond v hv
        exact ⟨number, full, Nat.le_trans h.count hle, hlt, by rw [h.name]⟩

theorem formatGlobal_addsFormats (text : Text) : Preserves AddsFormats (formatGlobal text) := by
  intro f
  rw [exec_formatGlobal]
  dsimp only
  split
  · exact ⟨rfl, Nat.le_succ _, [], by simp [Frame.withText], by simp⟩
  · refine ⟨rfl, Nat.le_succ _, [_], rfl, fun v hv => ?_⟩
    rw [List.mem_singleton.mp hv]
    exact ⟨f.fn.formats, text ++ "\n\x00", Nat.le_refl _, Nat.lt_succ_self _, rfl⟩

theorem FrameStep.addsFormats {stored : String → Prop} {prints : Prop} {α : Type} {m : Emit α}
    (h : FrameStep stored prints α m) : Preserves AddsFormats m := by
  refine h.of_texts (P := fun _ m => Preserves AddsFormats m) ?_ fun _ => formatGlobal_addsFormats
  intro _ _ hsame f
  obtain ⟨hmodule, hname, hformats⟩ := hsame f
  exact ⟨hname, Nat.le_of_eq hformats.symm, [], by simp [hmodule], by simp⟩

/-! ### Statements -/

/-- What two frames have in common if the second one is behind the lowering of a statement: all that was
there before, apart from the end of the current block. -/
structure Untouched (f f' : Frame) : Prop where
  locals : f'.locals = f.locals
  maps : f'.workspace.maps = f.workspace.maps
  nodes : f'.workspace.module.nodes = f.workspace.module.nodes
  named : f'.workspace.module.named = f.workspace.module.named
  globals : ∃ added : List Variable,
    f'.workspace.module.globals = f.workspace.module.globals ++ added.map Global.variable ∧
      ∀ v ∈ added, IsFormatOf f.fn f'.fn.formats v
  position : f'.position = f.position
  header : ∃ (scope : NameScope) (blocks : List Block) (formats : Nat),
    f'.fn = { f.fn with scope := scope, blocks := blocks, formats := formats }
  extended : ∀ (i : Nat) (b : Block), f.fn.blocks[i]? = some b →
    ∃ more, f'.fn.blocks[i]? = some (b.extend more)
  others : ∀ (i : Nat) (b : Block), f.fn.blocks[i]? = some b → i ≠ f.here →
    f'.fn.blocks[i]? = some b

theorem Grown.untouched {f f' : Frame} (h : Grown f f') (hformats : AddsFormats f f') :
    Untouched f f' := by
  obtain ⟨log, scope, added, hworkspace⟩ := h.workspace
  exact {
    locals := h.locals
    maps := h.maps
    nodes := by rw [hworkspace]
    named := by rw [hworkspace]
    globals := hformats.globals
    position := h.position
    header := h.fn
    extended := h.extended
    others := h.others }

/-- From every frame and for every statement, whether the lowering succeeds or fails: the table of variables,
the table of maps and the metadata are unchanged, only format strings of the function are added to the
globals, every block keeps its instructions as a prefix, and only the current block may have got more. -/
theorem lowerStmt_untouched (result : Ty) (returned : Bool) (s : Stmt) (f : Frame) :
    Untouched f (exec (lowerStmt result returned s) f).2 := by
  have hcode : BodyCode (fun _ => True) (fun _ => True) True (lowerStmt result returned s) :=
    lowerStmt_code.1 result returned s (fun _ _ => trivial) fun _ _ _ _ => trivial
  exact (lowerStmt_grown.1 result returned s f).untouched (hcode.preserves FrameStep.addsFormats f)

end BpfCompiler.Lower
