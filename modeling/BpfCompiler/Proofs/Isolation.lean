import BpfCompiler.Proofs.BodySteps
import BpfCompiler.Proofs.Compilation

/-!
# Earlier compilations do not leak

The table of maps outlives a compilation.  Two compilations of one source that start with different tables
stay in step: their modules and logs are the same, and their tables agree on the maps that the source has
defined so far.  A source that calls methods of its own maps only asks for nothing else, so the leftovers of
earlier compilations change neither its result nor its log.
-/

namespace BpfCompiler.Syntax

/-- Every map that a program calls a method of is one that the source defines. -/
def Module.OwnsItsMaps (m : Module) : Prop :=
  ∀ d ∈ m.programs, ∀ map ∈ (Stmt.reachedAll d.body).flatMap Stmt.usedMaps,
    ∃ definition ∈ m.compiled, definition.isMap = true ∧ definition.name = map

instance (m : Module) : Decidable m.OwnsItsMaps :=
  inferInstanceAs (Decidable (∀ d ∈ m.programs,
    ∀ map ∈ (Stmt.reachedAll d.body).flatMap Stmt.usedMaps,
      ∃ definition ∈ m.compiled, definition.isMap = true ∧ definition.name = map))

end BpfCompiler.Syntax

namespace BpfCompiler.Lower

open IR Syntax Emit

/-! ### Functions -/

/-- Two workspaces that differ in their maps at most. -/
structure Workspace.Alike (w v : Workspace) : Prop where
  module : v.module = w.module
  fileNode : v.fileNode = w.fileNode
  unitNode : v.unitNode = w.unitNode
  log : v.log = w.log

theorem Workspace.Alike.sameModule {w v : Workspace} (h : w.Alike v) : w.SameModule v :=
  ⟨h.module, h.fileNode, h.unitNode⟩

/-- Two frames in step: they differ in their maps at most, and there only on maps that are not known. -/
structure Frame.InStep (known : String → Prop) (f g : Frame) : Prop extends Frame.Alike known f g where
  workspace : f.workspace.Alike g.workspace
  position : g.position = f.position

section Frames

variable {known : String → Prop}

theorem Frame.InStep.wholeModule {f g : Frame} (h : Frame.InStep known f g) :
    g.wholeModule = f.wholeModule := by
  simp only [Frame.wholeModule, h.workspace.module, h.position, h.fn]

/-- A change of the workspace that leaves the maps alone. -/
theorem Frame.InStep.onWorkspace {f g : Frame} (h : Frame.InStep known f g) {w v : Workspace}
    (halike : w.Alike v) (hw : w.maps = f.workspace.maps) (hv : v.maps = g.workspace.maps) :
    Frame.InStep known { f with workspace := w } { g with workspace := v } where
  fn := h.fn
  here := h.here
  locals := h.locals
  maps := fun name hname => by rw [hv, hw, h.maps name hname]
  workspace := halike
  position := h.position

theorem Frame.InStep.congruence : Frame.Congruence known (Frame.InStep known) where
  alike h := h.toAlike
  change h _ _ _ _ _ _ hfn hhere hlocals := ⟨⟨hfn, hhere, hlocals, h.maps⟩, h.workspace, h.position⟩
  say line := by
    refine RunsAlike.modify fun f g h => h.onWorkspace ?_ rfl rfl
    exact ⟨h.workspace.module, h.workspace.fileNode, h.workspace.unitNode, by rw [h.workspace.log]⟩

theorem onModule_inStep (change : IR.Module → IR.Module) :
    RunsAlike (Frame.InStep known) (modify fun f =>
      { f with workspace := { f.workspace with module := change f.workspace.module } } : Emit Unit) := by
  refine RunsAlike.modify fun f g h => h.onWorkspace ?_ rfl rfl
  exact ⟨by rw [h.workspace.module], h.workspace.fileNode, h.workspace.unitNode, h.workspace.log⟩

theorem formatGlobal_inStep (text : Text) : RunsAlike (Frame.InStep known) (formatGlobal text) := by
  have hclaim : ∀ name, RunsAlike (Frame.InStep known) (claimGlobal name) := by
    intro name
    refine RunsAlike.read (fun f => ?_) fun f g h => by simp only [h.workspace.module]
    split
    · exact onModule_inStep fun m => { m with scope := _ }
    · exact RunsAlike.throw _
  have hpush : ∀ v, RunsAlike (Frame.InStep known) (pushGlobal v) :=
    fun v => onModule_inStep fun m => { m with globals := m.globals ++ [.variable v] }
  refine RunsAlike.read (fun f => ?_) fun f g h => by simp only [h.fn]
  refine RunsAlike.bind (RunsAlike.modify fun f g h =>
    Frame.InStep.congruence.change h (by rw [h.fn]) h.here h.locals) fun _ => ?_
  refine RunsAlike.bind (hclaim _) fun _ => ?_
  dsimp only
  split
  · exact RunsAlike.bind (hpush _) fun _ => RunsAlike.pure _
  · exact RunsAlike.bind (hpush _) fun _ => RunsAlike.throw _

theorem showModule_inStep : RunsAlike (Frame.InStep known) showModule := by
  refine RunsAlike.read (fun f => ?_) fun f g h => by simp only [h.wholeModule]
  split
  · exact RunsAlike.throw _
  · exact Frame.InStep.congruence.say _

theorem Composed.inStep {stored : String → Prop} {α : Type} {m : Emit α}
    (h : BodyCode known stored True m) :
    RunsAlike (Frame.InStep known) m :=
  h.runsAlike (fun h => h.toAlike) <|
    FrameStep.of_congruence Frame.InStep.congruence (P := fun _ m => RunsAlike (Frame.InStep known) m)
      id formatGlobal_inStep showModule_inStep

/-! ### The module -/

/-- Two workspaces in step: they differ in their maps at most, and there only on maps that are not known. -/
structure Workspace.InStep (known : String → Prop) (w v : Workspace) : Prop
    extends Workspace.Alike w v where
  maps : ∀ name, known name → v.maps.get? name = w.maps.get? name

theorem Workspace.InStep.congruence : Workspace.Congruence (Workspace.InStep known) where
  sameModule h := h.toAlike.sameModule
  change h _ _ hm := ⟨⟨hm, h.fileNode, h.unitNode, h.log⟩, h.maps⟩
  say line := by
    refine RunsAlike.modify fun w v h => ⟨⟨h.module, h.fileNode, h.unitNode, ?_⟩, h.maps⟩
    rw [h.log]

theorem Composed.moduleInStep {α : Type} {m : Build α} (h : ModuleCode m) :
    RunsAlike (Workspace.InStep known) m :=
  h.congruent Workspace.InStep.congruence

theorem buildFunction_inStep (fn : IR.Function) {body : Emit Unit}
    (hbody : RunsAlike (Frame.InStep known) body) :
    RunsAlike (Workspace.InStep known) (buildFunction fn body) := by
  intro w v h
  rw [buildFunction_eq, buildFunction_eq, h.module]
  cases w.module.scope.claim? fn.name with
  | none => exact ⟨rfl, h⟩
  | some scope =>
    have hstart : Frame.InStep known
        (Frame.start { w with module := { w.module with scope := scope } } fn)
        (Frame.start { v with module := { w.module with scope := scope } } fn) :=
      ⟨⟨rfl, rfl, rfl, h.maps⟩, ⟨rfl, h.fileNode, h.unitNode, h.log⟩, rfl⟩
    obtain ⟨houtcome, hbuilt⟩ := hbody hstart
    have hends := hbuilt.workspace
    exact ⟨houtcome, ⟨hbuilt.wholeModule, hends.fileNode, hends.unitNode, hends.log⟩, hbuilt.maps⟩

theorem lowerProgram_inStep {d : Syntax.Function}
    (hmaps : ∀ map ∈ (Stmt.reachedAll d.body).flatMap Stmt.usedMaps, known map) :
    RunsAlike (Workspace.InStep known) (lowerProgram d) := by
  refine RunsAlike.bind (build_say_code _).moduleCode.moduleInStep fun _ => ?_
  refine RunsAlike.bind (RunsAlike.lift _) fun result => ?_
  exact buildFunction_inStep _ (functionBody_code result hmaps).inStep

end Frames

/-! ### Known maps -/

/-- From workspaces in step the action ends in the same way, and it leaves workspaces that differ in their
maps at most.  If it succeeds, they are in step on the maps that are known then. -/
def Learns (known known' : String → Prop) {α : Type} (m : Build α) : Prop :=
  ∀ ⦃w v : Workspace⦄, Workspace.InStep known w v →
    EndAlike w v m m (Workspace.InStep known') Workspace.Alike

namespace Learns

variable {α β : Type} {known known' known'' : String → Prop}

theorem of_runsAlike {m : Build α} (h : RunsAlike (Workspace.InStep known) m) :
    Learns known known m := by
  intro w v hstep
  obtain ⟨houtcome, hafter⟩ := h hstep
  exact ⟨houtcome, hafter.toAlike, fun _ => hafter⟩

theorem bind {x : Build α} {k : α → Build β} (hx : Learns known known' x)
    (hk : ∀ a, Learns known' known'' (k a)) : Learns known known'' (x >>= k) :=
  fun _ _ hstep => (hx hstep).bind fun a _ _ => @hk a _ _

end Learns

/-- The definition of a map makes it known, whatever the table held under its name. -/
theorem Defines.learns {known : String → Prop} {name : String} {made : Option Map.Params}
    {m : Build Unit} (h : Defines name made m) :
    Learns known (fun other => known other ∨ other = name) m := by
  induction h with
  | say line hrest ih =>
    exact (Learns.of_runsAlike (build_say_code line).moduleCode.moduleInStep).bind fun _ => ih
  | fail fault => exact fun w v hstep => ⟨rfl, hstep.toAlike, fun h => by cases h⟩
  | create params =>
    refine (Learns.of_runsAlike (describeVariable_code name params).moduleInStep).bind fun _ => ?_
    intro w v hstep
    have halike : Workspace.Alike (exec (enterMap name (mapAddress name params)) w).2
        (exec (enterMap name (mapAddress name params)) v).2 :=
      ⟨hstep.module, hstep.fileNode, hstep.unitNode, hstep.log⟩
    refine ⟨rfl, halike, fun _ => ⟨halike, fun other hother => ?_⟩⟩
    change (v.maps.insert name _).get? other = (w.maps.insert name _).get? other
    rw [Table.get?_insert, Table.get?_insert]
    by_cases heq : other = name
    · rw [if_pos heq, if_pos heq]
    · rw [if_neg heq, if_neg heq]
      exact hstep.maps other (hother.resolve_right heq)

theorem forM_define_learns {known : String → Prop} (definitions : List Syntax.Function) :
    Learns known (fun other => known other ∨ ∃ d ∈ definitions, d.name = other)
      (definitions.forM Map.define) := by
  induction definitions generalizing known with
  | nil =>
    intro w v hstep
    refine ⟨rfl, hstep.toAlike, fun _ => ⟨hstep.toAlike, fun other hother => ?_⟩⟩
    exact hstep.maps other (hother.resolve_right (by simp))
  | cons d rest ih =>
    refine (define_defines d).learns.bind fun _ => ?_
    intro w v hstep
    obtain ⟨houtcome, halike, hok⟩ := ih hstep
    refine ⟨houtcome, halike, fun h => ⟨halike, fun other hother => ?_⟩⟩
    apply (hok h).maps
    rcases hother with hknown | ⟨e, he, rfl⟩
    · exact .inl (.inl hknown)
    · rcases List.mem_cons.mp he with rfl | hrest
      · exact .inl (.inr rfl)
      · exact .inr ⟨e, hrest, rfl⟩

theorem lower_learns {m : Syntax.Module} (hown : m.OwnsItsMaps) :
    ∃ known, Learns (fun _ => False) known (Compile.lower m) := by
  let known : String → Prop := fun other =>
    False ∨ ∃ d ∈ m.compiled.filter fun d => d.isMap, d.name = other
  have hquiet : ∀ {α : Type} {action : Build α} {known : String → Prop}, ModuleCode action →
      Learns known known action := fun h => .of_runsAlike h.moduleInStep
  have hprograms : Learns known known (lowerPrograms m.compiled) := by
    refine .of_runsAlike (RunsAlike.forM fun d hd => lowerProgram_inStep fun map hmap => ?_)
    obtain ⟨definition, hdefinition, hmapMark, rfl⟩ := hown d hd map hmap
    exact .inr ⟨definition, List.mem_filter.mpr ⟨hdefinition, hmapMark⟩, rfl⟩
  refine ⟨known, ?_⟩
  refine (hquiet (build_say_code _).moduleCode).bind fun _ => ?_
  refine (hquiet (forM_say_code _).moduleCode).bind fun _ => ?_
  refine (forM_define_learns _).bind fun _ => ?_
  refine hprograms.bind fun _ => ?_
  exact (hquiet (license_code m)).bind fun _ => hquiet (retained_code _)

/-- A source that defines the maps whose methods its programs call, or that has no syntax tree at all,
compiles to the same text or fault, with the same log, whatever the table of maps holds beforehand. -/
theorem run_eq_of_ownsItsMaps (path : String) (text : List Char) (maps : Table Operand)
    (hown : ∀ m, Syntax.Module.parse (Lexer.universalNewlines text) = .ok m → m.OwnsItsMaps) :
    (Compile.run path (.ok text) maps).result =
        (Compile.run path (.ok text) Table.empty).result ∧
      (Compile.run path (.ok text) maps).log = (Compile.run path (.ok text) Table.empty).log := by
  have hstart : Workspace.InStep (fun _ => False) (Compile.start path maps)
      (Compile.start path Table.empty) := ⟨⟨rfl, rfl, rfl, rfl⟩, fun _ h => h.elim⟩
  have hsource : ∃ known, Learns (fun _ => False) known (Compile.source path text) := by
    cases hparse : Syntax.Module.parse (Lexer.universalNewlines text) with
    | error fault =>
      refine ⟨fun _ => False, .of_runsAlike ?_⟩
      rw [Compile.source, Compile.parse, hparse]
      exact RunsAlike.throw (.unreadable fault)
    | ok m =>
      obtain ⟨known, hlower⟩ := lower_learns (hown m hparse)
      refine ⟨known, ?_⟩
      rw [Compile.source, Compile.parse, hparse]
      refine hlower.bind fun _ => ?_
      refine (Learns.of_runsAlike sign_code.moduleCode.moduleInStep).bind fun _ => ?_
      exact .of_runsAlike (write_code path).moduleCode.moduleInStep
  obtain ⟨known, hlearns⟩ := hsource
  obtain ⟨houtcome, halike, -⟩ := hlearns hstart
  exact ⟨houtcome, halike.log.symm⟩

/-- A program that deletes from a map of its own. -/
def ownMapSource : List Char :=
  ("@bpf\n@map\ndef seen() -> HashMap:\n    return HashMap(key=c_int32, value=c_int64, max_entries=4)\n" ++
    "@bpf\ndef f() -> c_int64:\n    k = 1\n    seen().delete(k)\n    return c_int64(0)\n").toList

/-- A table with another map of that name and one more. -/
def leftoverMaps : Table Operand :=
  Table.ofList [("seen", .global "seen" Ty.bytePtr), ("old", .global "old" Ty.bytePtr)]

theorem ownMapSource_run_eq :
    (∃ m, Syntax.Module.parse (Lexer.universalNewlines ownMapSource) = .ok m ∧ m.OwnsItsMaps ∧
      ∃ d ∈ m.programs, "seen" ∈ (Stmt.reachedAll d.body).flatMap Stmt.usedMaps) ∧
    (Compile.run "prog.py" (.ok ownMapSource) leftoverMaps).result =
      (Compile.run "prog.py" (.ok ownMapSource) Table.empty).result ∧
    (Compile.run "prog.py" (.ok ownMapSource) leftoverMaps).log =
      (Compile.run "prog.py" (.ok ownMapSource) Table.empty).log := by
  have hchecks : (Syntax.Module.parse (Lexer.universalNewlines ownMapSource)).toOption.any
      (fun m => decide (m.OwnsItsMaps ∧
        ∃ d ∈ m.programs, "seen" ∈ (Stmt.reachedAll d.body).flatMap Stmt.usedMaps)) = true := by
    decide +kernel
  cases hparse : Syntax.Module.parse (Lexer.universalNewlines ownMapSource) with
  | error fault =>
    rw [hparse] at hchecks
    cases hchecks
  | ok m =>
    rw [hparse] at hchecks
    obtain ⟨hown, huse⟩ := of_decide_eq_true hchecks
    refine ⟨⟨m, rfl, hown, huse⟩, run_eq_of_ownsItsMaps "prog.py" ownMapSource leftoverMaps ?_⟩
    intro m' hm'
    rw [hparse] at hm'
    obtain rfl := Except.ok.inj hm'
    exact hown

end BpfCompiler.Lower
