import BpfCompiler.Proofs.Lowering

/-!
# How a program becomes a function

A program is built in three stages: the slots of its variables are made in the first block, the statements
are lowered, and a body without a return of its own gets one at the end.  `Builds` describes a successful
building, and `buildProgram_inv` tells what it leaves in the module: the globals that were there, then the
function, then its format strings.
-/

namespace BpfCompiler.IR

/-- Integers and pointers. -/
def Ty.isScalar : Ty → Bool
  | .int _ | .ptr _ => true
  | _ => false

end BpfCompiler.IR

namespace BpfCompiler.Lower

open IR Syntax Emit

/-! ### Slots -/

/-- The step appended slots for integers and pointers, and possibly entered them in the table. -/
structure Allocates (f f' : Frame) (slots : List Inst) : Prop extends Appends f f' slots where
  alloca : ∀ i ∈ slots, ∃ ty align, i.op = .alloca ty align
  scalar : ∀ i ∈ slots, ∀ ty align, i.op = .alloca ty align → ty.isScalar = true

namespace Allocates

theorem plain {f f' : Frame} {slots : List Inst} (h : Allocates f f' slots) :
    ∀ i ∈ slots, i.op.isTerminator = false := by
  intro i hi
  obtain ⟨ty, align, hop⟩ := h.alloca i hi
  rw [hop, Op.isTerminator]
  all_goals simp

theorem trans {f f₁ f₂ : Frame} {first second : List Inst}
    (h : Allocates f f₁ first) (h' : Allocates f₁ f₂ second) :
    Allocates f f₂ (first ++ second) where
  toAppends := h.toAppends.trans h'.toAppends
  alloca := by
    intro i hi
    rcases List.mem_append.mp hi with hfirst | hsecond
    · exact h.alloca i hfirst
    · exact h'.alloca i hsecond
  scalar := fun i hi => (List.mem_append.mp hi).elim (h.scalar i) (h'.scalar i)

theorem of_straight {f f' : Frame} (h : Straight f f' []) : Allocates f f' [] :=
  ⟨h.toAppends, by simp, by simp⟩

end Allocates

/-- The relation that the making of slots preserves. -/
def AllocationLine (f f' : Frame) : Prop := ∃ slots, Allocates f f' slots

instance : Std.Refl AllocationLine := ⟨fun f => ⟨[], Appends.refl f, by simp, by simp⟩⟩

instance : IsTrans Frame AllocationLine :=
  ⟨fun _ _ _ ⟨first, hfirst⟩ ⟨second, hsecond⟩ => ⟨first ++ second, hfirst.trans hsecond⟩⟩

theorem say_allocation (line : Text) : Preserves AllocationLine (say line) := by
  intro f
  obtain ⟨f', hexec, hstraight, -⟩ := say_straight line f
  rw [hexec]
  exact ⟨[], Allocates.of_straight hstraight⟩

theorem alloca_allocation (name : String) {ty : Ty} (hty : ty.isScalar = true)
    (align : Option Nat) : Preserves AllocationLine (alloca name ty align) := by
  intro f
  obtain ⟨register, f', hexec, hstraight⟩ := exec_alloca name ty align f
  rw [hexec]
  exact ⟨_, hstraight.toAppends, by simp, by simpa using hty⟩

theorem bindSlot_allocation (name : String) (slot : Slot) :
    Preserves AllocationLine (bindSlot name slot) := by
  intro f
  exact ⟨[], Appends.of_same (.of_eq rfl rfl rfl) rfl rfl, by simp, by simp⟩

theorem slotPlan_scalar {value : Expr} {request : SlotRequest}
    (h : slotPlan value = .fresh request) : request.ty.isScalar = true := by
  unfold slotPlan wordSlot at h
  split at h
  · split at h
    · cases h
      rfl
    · split at h
      · cases h
        rfl
      · split at h <;> cases h
        rfl
  all_goals
    cases h
    try rfl

theorem allocateAssign_allocation (last : Option Slot) (targets : List Expr) (value : Expr) :
    Preserves AllocationLine (allocateAssign last targets value) := by
  unfold allocateAssign
  split
  · split
    · rename_i hplan
      exact Preserves.bind (alloca_allocation _ (slotPlan_scalar hplan) _) fun slot =>
        Preserves.bind (say_allocation _) fun _ =>
          Preserves.bind (bindSlot_allocation _ _) fun _ => Preserves.pure _
    · split
      · exact Preserves.bind (bindSlot_allocation _ _) fun _ => Preserves.pure _
      · exact Preserves.throw _
    · exact Preserves.bind (say_allocation _) fun _ => Preserves.pure _
  · exact Preserves.bind (say_allocation _) fun _ => Preserves.pure _
  · exact Preserves.bind (say_allocation _) fun _ => Preserves.pure _

/-- Making the slots of a suite adds slots to the current block and nothing else. -/
theorem allocateSuite_allocation :
    (∀ (last : Option Slot) (s : Stmt), Preserves AllocationLine (allocateStmt last s)) ∧
    ∀ (last : Option Slot) (body : List Stmt), Preserves AllocationLine (allocateSuite last body) := by
  apply allocateStmt.mutual_induct
  · intro last test body orelse ihbody ihorelse
    rw [allocateStmt]
    exact Preserves.bind ihbody fun _ => Preserves.bind ihorelse fun _ => Preserves.pure _
  · intro last targets value
    rw [allocateStmt]
    exact allocateAssign_allocation last targets value
  · intro s last hcond hassign
    rw [allocateStmt] <;> first | exact Preserves.pure _ | assumption
  · intro last
    rw [allocateSuite]
    exact Preserves.pure _
  · intro last s rest ihstmt ihrest
    rw [allocateSuite]
    exact Preserves.bind ihstmt ihrest

theorem allocate_allocation (body : List Stmt) : Preserves AllocationLine (allocate body) :=
  allocateSuite_allocation.2 none body

/-! ### Bodies -/

/-- The slots of a body have been made, and the table lists them. -/
structure Prepares (body : List Stmt) (f f' : Frame) (slots : List Inst) : Prop
    extends Allocates f f' slots where
  table : ∃ f₀, exec (allocate body) f = (.ok (), f₀) ∧ Straight f₀ f' []

/-- The derivations of successful bodies: the slots first, then the statements, and a return at the end
if the suite has none of its own. -/
inductive Builds (result : Ty) (body : List Stmt) (f : Frame) :
    List (Stmt × List Inst) → Frame → Prop
  | returned {f₁ f' : Frame} {slots : List Inst} {parts : List (Stmt × List Inst)}
      (hslots : Prepares body f f₁ slots) (hlowers : Lowers result body f₁ parts f')
      (hreturn : body.any Stmt.isReturn = true) : Builds result body f parts f'
  | falls {f₁ g f' : Frame} {slots : List Inst} {parts : List (Stmt × List Inst)} {name : String}
      (hslots : Prepares body f f₁ slots) (hlowers : Lowers result body f₁ parts g)
      (hreturn : body.any Stmt.isReturn = false) (hopen : g.block.isTerminated = false)
      (happends : Appends g f' [⟨name, .ret (Operand.int Ty.i32 0)⟩])
      (hlocals : f'.locals = g.locals) : Builds result body f parts f'

theorem lowerStatements_inv {result : Ty} {body : List Stmt} {returned : Bool} {f f' : Frame}
    (h : exec (lowerStatements result body) f = (.ok returned, f'))
    (hin : f.here < f.fn.blocks.length) :
    returned = body.any Stmt.isReturn ∧
      ∃ f₁ slots parts, Prepares body f f₁ slots ∧ Lowers result body f₁ parts f' := by
  rw [lowerStatements] at h
  obtain ⟨⟨⟩, g, hallocate, htail⟩ := exec_bind_inv h
  rw [exec_bind_ok (exec_get g)] at htail
  obtain ⟨f₁, hsay, hstraight, -⟩ :=
    say_straight ("Local symbol table: " ++ namesList g.locals.keys) g
  rw [exec_bind_ok hsay] at htail
  obtain ⟨slots, hslots⟩ := (allocate_allocation body).of_exec hallocate
  have hslots₁ : Prepares body f f₁ (slots ++ []) :=
    ⟨hslots.trans (Allocates.of_straight hstraight), g, hallocate, hstraight⟩
  obtain ⟨hreturned, parts, hlowers⟩ := lowers_of_lowerBody htail (hslots₁.inRange hin)
  exact ⟨by simpa using hreturned, f₁, _, parts, hslots₁, hlowers⟩

theorem functionBody_inv {result : Ty} {body : List Stmt} {f f' : Frame}
    (h : exec (functionBody result body) f = (.ok (), f'))
    (hin : f.here < f.fn.blocks.length) : ∃ parts, Builds result body f parts f' := by
  rw [functionBody] at h
  obtain ⟨returned, g, hstatements, htail⟩ := exec_bind_inv h
  obtain ⟨hreturned, f₁, slots, parts, hslots, hlowers⟩ := lowerStatements_inv hstatements hin
  cases returned with
  | true =>
    obtain ⟨-, rfl⟩ := exec_pure_inv htail
    exact ⟨parts, .returned hslots hlowers hreturned.symm⟩
  | false =>
    obtain ⟨hopen, name, happends, hlocals⟩ := terminate_inv htail
    exact ⟨parts, .falls hslots hlowers hreturned.symm hopen happends hlocals⟩

/-- The statements of a body are lowered behind its slots, and at most a return follows. -/
theorem Builds.stages {result : Ty} {body : List Stmt} {f f' : Frame}
    {parts : List (Stmt × List Inst)} (h : Builds result body f parts f') :
    ∃ f₁ slots g, Prepares body f f₁ slots ∧ Lowers result body f₁ parts g ∧ Grown g f' := by
  cases h with
  | returned hslots hlowers hreturn => exact ⟨_, _, _, hslots, hlowers, Grown.refl _⟩
  | falls hslots hlowers hreturn hopen happends hlocals =>
    exact ⟨_, _, _, hslots, hlowers, happends.grown hlocals⟩

/-! ### Functions of the module -/

theorem insertIdx_append_length {α : Type} (front back : List α) (a : α) :
    (front ++ back).insertIdx front.length a = front ++ a :: back := by
  induction front with
  | nil => simp
  | cons x front ih => simp [ih]

/-- A function whose name is free is built in a frame of its own, and what was built stays however the
building ends. -/
theorem buildFunction_eq (fn : IR.Function) (body : Emit Unit) (w : Workspace) :
    exec (buildFunction fn body) w =
      match w.module.scope.claim? fn.name with
      | none => (.error (.duplicateName fn.name), w)
      | some scope =>
        let built := exec body (Frame.start { w with module := { w.module with scope := scope } } fn)
        (built.1, built.2.finish) := by
  rw [buildFunction, Build.claim, exec_bind, exec_bind_ok (exec_get w)]
  cases w.module.scope.claim? fn.name with
  | none => rfl
  | some scope =>
    dsimp only
    rw [exec_modify]
    dsimp only
    rw [exec_bind_ok (exec_get _)]
    cases hbody : exec body
        (Frame.start { w with module := { w.module with scope := scope } } fn) with
    | mk outcome f =>
      rw [exec] at hbody
      rw [hbody]
      cases outcome <;> rfl

theorem buildFunction_inv {fn : IR.Function} {body : Emit Unit} {w w' : Workspace}
    (h : exec (buildFunction fn body) w = (.ok (), w')) :
    ∃ scope f', w.module.scope.claim? fn.name = some scope ∧
      exec body (Frame.start { w with module := { w.module with scope := scope } } fn) =
        (.ok (), f') ∧
      w' = f'.finish := by
  rw [buildFunction_eq] at h
  cases hscope : w.module.scope.claim? fn.name with
  | none =>
    rw [hscope] at h
    simp at h
  | some scope =>
    rw [hscope] at h
    obtain ⟨houtcome, hfinish⟩ := Prod.mk.inj h
    exact ⟨scope, _, rfl, Prod.ext houtcome rfl, hfinish.symm⟩

theorem exec_buildFunction {fn : IR.Function} {body : Emit Unit} {w : Workspace} {scope : NameScope}
    {f : Frame} (hscope : w.module.scope.claim? fn.name = some scope)
    (hbody : exec body (Frame.start { w with module := { w.module with scope := scope } } fn) =
      (.ok (), f)) : exec (buildFunction fn body) w = (.ok (), f.finish) := by
  rw [buildFunction_eq, hscope]
  dsimp only
  rw [hbody]

/-- The frame in which a program is built. -/
def programStart (w : Workspace) (d : Syntax.Function) (result : Ty) : Frame :=
  Frame.start w (declareProgram d result)

theorem programStart_here (w : Workspace) (d : Syntax.Function) (result : Ty) :
    (programStart w d result).here = 0 := rfl

theorem programStart_blocks (w : Workspace) (d : Syntax.Function) (result : Ty) :
    ∃ entry, (programStart w d result).fn.blocks = [⟨entry, []⟩] ∧
      entry ∈ (programStart w d result).fn.scope.used :=
  ⟨_, rfl, NameScope.fresh_mem_used _ _⟩

theorem programStart_inRange (w : Workspace) (d : Syntax.Function) (result : Ty) :
    (programStart w d result).here < (programStart w d result).fn.blocks.length :=
  Nat.zero_lt_one

theorem Builds.sameContext {result : Ty} {body : List Stmt} {f f' : Frame}
    {parts : List (Stmt × List Inst)} (h : Builds result body f parts f') : SameContext f f' := by
  cases h with
  | returned hslots hlowers hreturn =>
    exact hslots.toSameContext.trans hlowers.grown.toSameContext
  | falls hslots hlowers hreturn hopen happends hlocals =>
    exact (hslots.toSameContext.trans hlowers.grown.toSameContext).trans happends.toSameContext

/-- A function stands before what was added while it was built. -/
theorem Frame.finish_globals {f : Frame} {globals added : List Global}
    (hglobals : f.workspace.module.globals = globals ++ added) (hposition : f.position = globals.length) :
    f.finish.module.globals = globals ++ .function f.fn :: added := by
  change f.workspace.module.globals.insertIdx f.position (.function f.fn) = _
  rw [hglobals, hposition, insertIdx_append_length]

/-- The module then has the function of the program, with variables behind it. -/
theorem Builds.finish_globals {w : Workspace} {d : Syntax.Function} {result : Ty} {f : Frame}
    {parts : List (Stmt × List Inst)}
    (h : Builds result d.body (programStart w d result) parts f) :
    ∃ added : List Variable, f.finish.module.globals =
      w.module.globals ++ .function f.fn :: added.map Global.variable := by
  obtain ⟨log, names, added, hworkspace⟩ := h.sameContext.workspace
  refine ⟨added, Frame.finish_globals ?_ h.sameContext.position⟩
  rw [hworkspace]
  rfl

/-- A program that is built adds its function to the module, with variables behind it. -/
theorem buildProgram_inv {d : Syntax.Function} {result : Ty} {w w' : Workspace}
    (h : exec (buildProgram d result) w = (.ok (), w')) :
    ∃ (w₁ : Workspace) (parts : List (Stmt × List Inst)) (f : Frame) (added : List Variable),
      w₁.maps = w.maps ∧ Builds result d.body (programStart w₁ d result) parts f ∧
      f.fn.name = d.name ∧ f.fn.result = result ∧ w'.maps = w.maps ∧
      w'.module.globals =
        w.module.globals ++ .function f.fn :: added.map Global.variable := by
  obtain ⟨scope, f, hscope, hbody, rfl⟩ := buildFunction_inv h
  obtain ⟨parts, hbuilds⟩ := functionBody_inv hbody (programStart_inRange _ d result)
  have hcontext := hbuilds.sameContext
  obtain ⟨added, hglobals⟩ := hbuilds.finish_globals
  exact ⟨{ w with module := { w.module with scope := scope } }, parts, f, added, rfl, hbuilds,
    hcontext.name, hcontext.result, hcontext.maps, hglobals⟩

end BpfCompiler.Lower
