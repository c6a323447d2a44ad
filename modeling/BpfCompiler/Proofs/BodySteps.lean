import BpfCompiler.Lower.Probe
import BpfCompiler.Proofs.Lowering

/-!
# Steps on a function

Besides straight-line code, the lowering of a body ends blocks, makes and enters blocks and enters slots in
the table.  Of the state it reads the function, the place in it, the variables and the maps that its
statements name.  So two frames that agree on these take the same steps; only making a text and showing the
module also look at what has been built before.
-/

namespace BpfCompiler.Lower

open IR Syntax Emit

/-- The steps that the body of a function is put together from, if it stores into the given variables and may
print or not. -/
inductive FrameStep (stored : String → Prop) (prints : Prop) : (α : Type) → Emit α → Prop
  | straight {α : Type} {m : Emit α} (h : StraightStep stored prints α m) : FrameStep stored prints α m
  | terminate (op : Op) : FrameStep stored prints Unit (terminate op)
  | addBlock (base : String) : FrameStep stored prints (Nat × String) (addBlock base)
  | moveTo (place : Nat) : FrameStep stored prints Unit (moveTo place)
  | bindSlot (name : String) (slot : Slot) : FrameStep stored prints Unit (bindSlot name slot)

/-- Code of a body that asks for known maps only, stores into the given variables only, and makes texts only if
it may print. -/
abbrev BodyCode (known stored : String → Prop) (prints : Prop) {α : Type} (m : Emit α) : Prop :=
  Composed (FrameStep stored prints) (Frame.Alike known) m

section Code

variable {known stored : String → Prop} {prints : Prop}

theorem Frame.Alike.block {f g : Frame} (h : Frame.Alike known f g) : g.block = f.block := by
  rw [Frame.block, Frame.block, h.fn, h.here]

theorem Composed.bodyCode {α : Type} {m : Emit α} (h : StraightCode known stored prints m) :
    BodyCode known stored prints m :=
  h.of_basic fun hstep => .basic (.straight hstep)

/-! ### Two frames at once -/

/-- The relation ties frames that are alike, and stays when both change their function, place and variables
to the same ones or log the same line. -/
structure Frame.Congruence (known : String → Prop) (R : Frame → Frame → Prop) : Prop where
  alike : ∀ {f g : Frame}, R f g → Frame.Alike known f g
  change : ∀ {f g : Frame}, R f g → ∀ {fn fn' : IR.Function} {here here' : Nat}
    {locals locals' : Table (Option Slot)}, fn' = fn → here' = here → locals' = locals →
      R { f with fn := fn, here := here, locals := locals }
        { g with fn := fn', here := here', locals := locals' }
  say : ∀ line, RunsAlike R (say line)

namespace Frame.Congruence

variable {R : Frame → Frame → Prop}

theorem freshName (hR : Congruence known R) (base : String) : RunsAlike R (freshName base) := by
  intro f g h
  have hfn := (hR.alike h).fn
  constructor
  · change Except.ok (f.fn.scope.fresh base).1 = Except.ok (g.fn.scope.fresh base).1
    rw [hfn]
  · exact hR.change h (by rw [hfn]) (hR.alike h).here (hR.alike h).locals

theorem place (hR : Congruence known R) (i : Inst) : RunsAlike R (place i) :=
  RunsAlike.modify fun _ _ h => hR.change h (by rw [(hR.alike h).fn, (hR.alike h).here])
    (hR.alike h).here (hR.alike h).locals

theorem appendNamed (hR : Congruence known R) (base : String) (op : Op) :
    RunsAlike R (appendNamed base op) :=
  RunsAlike.bind (hR.freshName base) fun _ => RunsAlike.bind (hR.place _) fun _ => RunsAlike.pure _

theorem assign (hR : Congruence known R) (name : String) (value : Option Operand) :
    RunsAlike R (assign name value) := by
  refine RunsAlike.read (fun f => ?_) fun f g h => by simp only [(hR.alike h).locals]
  split
  · unfold store
    split
    · split
      · exact RunsAlike.bind (hR.appendNamed _ _) fun _ => RunsAlike.pure _
      · exact RunsAlike.throw _
    · exact RunsAlike.throw _
  · exact RunsAlike.throw _

theorem terminate (hR : Congruence known R) (op : Op) : RunsAlike R (terminate op) := by
  refine RunsAlike.bind (hR.freshName "") fun name => ?_
  refine RunsAlike.read (fun f => ?_) fun f g h => by simp only [(hR.alike h).block]
  split
  · exact RunsAlike.bind (RunsAlike.throw _) fun _ => hR.place _
  · exact hR.place _

theorem addBlock (hR : Congruence known R) (base : String) : RunsAlike R (addBlock base) := by
  refine RunsAlike.bind (hR.freshName base) fun label => ?_
  refine RunsAlike.read (fun f => ?_) fun f g h => by simp only [(hR.alike h).fn]
  refine RunsAlike.bind (RunsAlike.modify fun f g h => ?_) fun _ => RunsAlike.pure _
  exact hR.change h (by rw [(hR.alike h).fn]) (hR.alike h).here (hR.alike h).locals

end Frame.Congruence

/-- All steps but two run alike in related frames. -/
theorem FrameStep.of_congruence {R : Frame → Frame → Prop} (hR : Frame.Congruence known R)
    {P : (α : Type) → Emit α → Prop} (hruns : ∀ {α : Type} {m : Emit α}, RunsAlike R m → P α m)
    (htext : ∀ text, P _ (formatGlobal text)) (hshow : P _ showModule) {α : Type} {m : Emit α}
    (h : FrameStep stored prints α m) : P α m := by
  cases h with
  | straight h =>
    cases h with
    | say line => exact hruns (hR.say line)
    | append base hop => exact hruns (hR.appendNamed base _)
    | text _ text => exact htext text
    | showModule => exact hshow
    | assign hname value => exact hruns (hR.assign _ value)
  | terminate op => exact hruns (hR.terminate op)
  | addBlock base => exact hruns (hR.addBlock base)
  | moveTo place =>
    exact hruns (RunsAlike.modify fun _ _ h =>
      hR.change h (hR.alike h).fn rfl (hR.alike h).locals)
  | bindSlot name slot =>
    exact hruns (RunsAlike.modify fun _ _ h =>
      hR.change h (hR.alike h).fn (hR.alike h).here (by rw [(hR.alike h).locals]))

/-! ### Texts -/

/-- Neither the module nor the count of texts changed. -/
structure Frame.SameTexts (f f' : Frame) : Prop where
  module : f'.workspace.module = f.workspace.module
  name : f'.fn.name = f.fn.name
  formats : f'.fn.formats = f.fn.formats

instance : Std.Refl Frame.SameTexts := ⟨fun _ => ⟨rfl, rfl, rfl⟩⟩

instance : IsTrans Frame Frame.SameTexts :=
  ⟨fun _ _ _ h h' => ⟨h'.module.trans h.module, h'.name.trans h.name, h'.formats.trans h.formats⟩⟩

/-- Of all steps only the making of a text changes the module or the count of texts. -/
theorem FrameStep.of_texts {P : (α : Type) → Emit α → Prop}
    (hsame : ∀ {α : Type} {m : Emit α}, Preserves Frame.SameTexts m → P α m)
    (htext : prints → ∀ text, P _ (formatGlobal text)) {α : Type} {m : Emit α}
    (h : FrameStep stored prints α m) : P α m := by
  cases h with
  | straight h =>
    cases h with
    | say | append => exact hsame fun _ => ⟨rfl, rfl, rfl⟩
    | text hprints text => exact htext hprints text
    | showModule =>
      refine hsame (Preserves.bind Preserves.get fun f => ?_)
      split
      · exact Preserves.throw _
      · exact fun _ => ⟨rfl, rfl, rfl⟩
    | assign hname value =>
      refine hsame (Preserves.bind Preserves.get fun f => ?_)
      split
      · unfold store
        split
        · split
          · exact Preserves.bind (fun _ => ⟨rfl, rfl, rfl⟩) fun _ => Preserves.pure _
          · exact Preserves.throw _
        · exact Preserves.throw _
      · exact Preserves.throw _
  | terminate op =>
    refine hsame fun f => ?_
    rw [exec_terminate]
    split <;> exact ⟨rfl, rfl, rfl⟩
  | addBlock | moveTo | bindSlot => exact hsame fun _ => ⟨rfl, rfl, rfl⟩

/-! ### Ends of blocks -/

theorem say_bodyCode (line : Text) : BodyCode known stored prints (say line) := (say_code line).bodyCode

theorem terminate_code (op : Op) : BodyCode known stored prints (terminate op) := .basic (.terminate op)

/-! ### Slots -/

theorem allocateAssign_code (last : Option Slot) (targets : List Expr) (value : Expr) :
    BodyCode known stored prints (allocateAssign last targets value) := by
  unfold allocateAssign
  split
  · split
    · exact .bind (alloca_code _ _ _).bodyCode fun slot => .bind (say_bodyCode _) fun _ =>
        .bind (.basic (.bindSlot _ slot)) fun _ => .pure _
    · split
      · exact .bind (.basic (.bindSlot _ _)) fun _ => .pure _
      · exact .throw _ rfl
    · exact .bind (say_bodyCode _) fun _ => .pure _
  · exact .bind (say_bodyCode _) fun _ => .pure _
  · exact .bind (say_bodyCode _) fun _ => .pure _

theorem allocateSuite_code :
    (∀ (last : Option Slot) (s : Stmt), BodyCode known stored prints (allocateStmt last s)) ∧
    ∀ (last : Option Slot) (body : List Stmt), BodyCode known stored prints (allocateSuite last body) := by
  apply allocateStmt.mutual_induct
  · intro last test body orelse ihbody ihorelse
    rw [allocateStmt]
    exact .bind ihbody fun _ => .bind ihorelse fun _ => .pure _
  · intro last targets value
    rw [allocateStmt]
    exact allocateAssign_code last targets value
  · intro s last hcond hassign
    rw [allocateStmt] <;> first | exact .pure _ | assumption
  · intro last
    rw [allocateSuite]
    exact .pure _
  · intro last s rest ihstmt ihrest
    rw [allocateSuite]
    exact .bind ihstmt ihrest

/-! ### Statements -/

theorem makeArms_code (hasElse : Bool) : BodyCode known stored prints (makeArms hasElse) := by
  have hblock : ∀ base, BodyCode known stored prints (addBlock base) := fun base => .basic (.addBlock base)
  unfold makeArms
  refine .bind (hblock _) fun first => .bind (hblock _) fun second => ?_
  dsimp only
  split
  · exact .bind (hblock _) fun _ => .pure _
  · exact .pure _

theorem openBranch_code {test : Expr} (hmaps : ∀ map ∈ test.testMaps, known map) (hasElse : Bool) :
    BodyCode known stored True (openBranch test hasElse) :=
  .bind (makeArms_code hasElse) fun _ => .bind (condition_code hmaps).bodyCode fun _ =>
    .bind (terminate_code _) fun _ => .pure _

theorem joinAt_code (label : String) : BodyCode known stored prints (joinAt label) := by
  unfold joinAt
  refine .read (fun f => ?_) fun f g h => by simp only [h.block]
  split
  · exact terminate_code _
  · exact .pure _

theorem fillBlock_code (place : Nat) {suite : Emit Unit} (hsuite : BodyCode known stored prints suite)
    (label : String) : BodyCode known stored prints (fillBlock place suite label) :=
  .bind (.basic (.moveTo place)) fun _ => .bind hsuite fun _ => joinAt_code label

/-- The body stores into variables of the given kind only. -/
abbrev StoresOnly (stored : String → Prop) (body : List Stmt) : Prop :=
  ∀ s ∈ body, ∀ x ∈ s.storedVariable?, stored x

theorem returnOperand_fault {result : Ty} {value : Option Expr} {fault : Fault}
    (h : returnOperand result value = .error fault) : fault.isNoSlot = false := by
  unfold returnOperand at h
  split at h
  · cases h
  · cases h
  · cases h
  · cases h
    rfl
  · split at h
    · rename_i id literal _
      unfold typeOfName at h
      cases htype : typeNames.lookup id with
      | none =>
        rw [htype] at h
        cases h
        rfl
      | some ty =>
        rw [htype] at h
        change (if ty.agrees result then _ else _) = _ at h
        split at h <;> cases h
        rfl
    · cases h
      rfl

theorem lowerStmt_code :
    (∀ (result : Ty) (returned : Bool) (s : Stmt),
      (∀ map ∈ s.reached.flatMap Stmt.usedMaps, known map) → StoresOnly stored s.reached →
        BodyCode known stored True (lowerStmt result returned s)) ∧
    ∀ body : List Stmt, (∀ map ∈ (Stmt.reachedAll body).flatMap Stmt.usedMaps, known map) →
      StoresOnly stored (Stmt.reachedAll body) → BodyCode known stored True (lowerSuite body) := by
  apply lowerStmt.mutual_induct
  · intro result returned test body orelse ihbody ihorelse hmaps hstored
    rw [Stmt.reached, List.flatMap_cons, List.flatMap_append] at hmaps
    rw [Stmt.reached] at hstored
    have htest : ∀ map ∈ test.testMaps, known map := fun map hmap =>
      hmaps map (List.mem_append_left _ hmap)
    have hbody : BodyCode known stored True (lowerSuite body) := ihbody
      (fun map hmap => hmaps map (List.mem_append_right _ (List.mem_append_left _ hmap)))
      fun s hs => hstored s (List.mem_cons_of_mem _ (List.mem_append_left _ hs))
    have horelse : BodyCode known stored True (lowerSuite orelse) := ihorelse
      (fun map hmap => hmaps map (List.mem_append_right _ (List.mem_append_right _ hmap)))
      fun s hs => hstored s (List.mem_cons_of_mem _ (List.mem_append_right _ hs))
    rw [lowerStmt]
    refine .bind (say_bodyCode _) fun _ => .bind (say_bodyCode _) fun _ => ?_
    refine .bind (openBranch_code htest _) fun arms => ?_
    refine .bind (fillBlock_code _ hbody _) fun _ => ?_
    split
    · exact .bind (fillBlock_code _ horelse _) fun _ =>
        .bind (.basic (.moveTo _)) fun _ => .pure _
    · exact .bind (.basic (.moveTo _)) fun _ => .pure _
  · intro result returned value hmaps hstored
    rw [lowerStmt]
    exact .bind (say_bodyCode _) fun _ => .bind (.lift fun _ => returnOperand_fault) fun _ =>
      .bind (terminate_code _) fun _ => .pure _
  · intro result returned s hcond hret hmaps hstored
    have hsimple : s.isSimple = true := by
      cases s with
      | cond test body orelse => exact (hcond test body orelse rfl).elim
      | ret value => exact (hret value rfl).elim
      | _ => rfl
    rw [Stmt.reached_of_isSimple hsimple] at hmaps hstored
    rw [List.flatMap_singleton] at hmaps
    rw [lowerStmt_simple hsimple]
    exact .bind (lowerSimple_code hmaps (hstored s (List.mem_singleton_self s))).bodyCode fun _ =>
      .pure _
  · intro hmaps hstored
    rw [lowerSuite]
    exact .pure _
  · intro s rest ihstmt ihrest hmaps hstored
    rw [Stmt.reachedAll, List.flatMap_append] at hmaps
    rw [Stmt.reachedAll] at hstored
    rw [lowerSuite]
    exact .bind
      (ihstmt (fun map hmap => hmaps map (List.mem_append_left _ hmap))
        fun t ht => hstored t (List.mem_append_left _ ht))
      fun _ => ihrest (fun map hmap => hmaps map (List.mem_append_right _ hmap))
        fun t ht => hstored t (List.mem_append_right _ ht)

theorem lowerBody_code (result : Ty) (returned : Bool) {body : List Stmt}
    (hmaps : ∀ map ∈ (Stmt.reachedAll body).flatMap Stmt.usedMaps, known map)
    (hstored : StoresOnly stored (Stmt.reachedAll body)) :
    BodyCode known stored True (lowerBody result returned body) := by
  induction body generalizing returned with
  | nil => exact .pure _
  | cons s rest ih =>
    rw [Stmt.reachedAll, List.flatMap_append] at hmaps
    rw [Stmt.reachedAll] at hstored
    rw [lowerBody]
    refine .bind (lowerStmt_code.1 result returned s
      (fun map hmap => hmaps map (List.mem_append_left _ hmap))
      fun t ht => hstored t (List.mem_append_left _ ht)) fun r => ?_
    exact ih r (fun map hmap => hmaps map (List.mem_append_right _ hmap))
      fun t ht => hstored t (List.mem_append_right _ ht)

/-- The body of a function asks for the maps that its statements name. -/
theorem functionBody_code (result : Ty) {body : List Stmt}
    (hmaps : ∀ map ∈ (Stmt.reachedAll body).flatMap Stmt.usedMaps, known map) :
    BodyCode known (fun _ => True) True (functionBody result body) := by
  have hstatements : BodyCode known (fun _ => True) True (lowerStatements result body) := by
    refine .bind (allocateSuite_code.2 none body) fun _ => ?_
    refine .read (fun f => ?_) fun f g h => by simp only [h.locals]
    exact .bind (say_bodyCode _) fun _ => lowerBody_code result false hmaps fun _ _ _ _ => trivial
  refine .bind hstatements fun returned => ?_
  cases returned with
  | true => exact .pure _
  | false => exact terminate_code _

end Code

end BpfCompiler.Lower
