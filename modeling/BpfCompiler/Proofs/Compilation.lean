import BpfCompiler.Proofs.ModuleSteps
import BpfCompiler.Proofs.Programs

/-!
# The functions of a compiled source

A compilation that succeeds has turned every program of the source into one function of the module, in
order, and nothing else has made a function: maps, the licence, the list of retained symbols and the flags
only add variables and nodes.  `source_inv` says so.  It is the way from a statement about programs that are
built to one about whole sources.
-/

namespace BpfCompiler.IR

def Global.function? : Global → Option Function
  | .function f => some f
  | .variable _ => none

/-- The functions of a module, in order. -/
def Module.functions (m : Module) : List Function := m.globals.filterMap Global.function?

theorem Module.mem_functions {m : Module} {fn : Function} :
    fn ∈ m.functions ↔ .function fn ∈ m.globals := by
  rw [functions, List.mem_filterMap]
  constructor
  · rintro ⟨g, hg, hfn⟩
    rcases g with v | fn'
    · cases hfn
    · obtain rfl : fn' = fn := Option.some.inj hfn
      exact hg
  · exact fun hg => ⟨_, hg, rfl⟩

end BpfCompiler.IR

namespace BpfCompiler.Syntax

/-- The definitions that become functions. -/
def Module.programs (m : Module) : List Function :=
  m.compiled.filter fun d => !d.isMap && !d.isGlobal

end BpfCompiler.Syntax

namespace BpfCompiler.Compile

open Lower

/-- The text of a module in the file for its source. -/
def written (path : String) (m : IR.Module) : Text :=
  ("source_filename = \"" ++ path ++ "\"\n" : String) ++ Text.join "\n" m.lines ++ "\n"

/-- Compiles a syntax tree. -/
def tree (path : String) (m : Syntax.Module) : Build Text := do
  lower m
  sign
  write path

end BpfCompiler.Compile

namespace BpfCompiler.Lower

open IR Syntax

/-! ### Steps that make no function -/

/-- The functions of the module are the same, whatever else was added. -/
def SameFunctions (w w' : Workspace) : Prop := w'.module.functions = w.module.functions

instance : Std.Refl SameFunctions := ⟨fun _ => rfl⟩

instance : IsTrans Workspace SameFunctions := ⟨fun _ _ _ h h' => Eq.trans h' h⟩

/-- Neither the functions of the module nor the table of maps changed. -/
structure Quiet (w w' : Workspace) : Prop where
  functions : SameFunctions w w'
  maps : w'.maps = w.maps

instance : Std.Refl Quiet := ⟨fun _ => ⟨rfl, rfl⟩⟩

instance : IsTrans Workspace Quiet :=
  ⟨fun _ _ _ h h' => ⟨trans_of SameFunctions h.functions h'.functions, h'.maps.trans h.maps⟩⟩

theorem attach_functions (name : String) (node : Nat) (globals : List Global) :
    (Map.attach name node globals).filterMap Global.function? =
      globals.filterMap Global.function? := by
  rw [Map.attach, List.filterMap_map]
  congr 1
  funext g
  cases g <;> rfl

theorem Workspace.Annotated.quiet {w w' : Workspace} (h : w.Annotated w') : Quiet w w' :=
  ⟨congrArg (List.filterMap Global.function?) h.module.globals, h.maps⟩

theorem ModuleStep.quiet {α : Type} {m : Build α} (h : ModuleStep α m) : Preserves Quiet m := by
  cases h with
  | node h => exact fun w => (h.annotated w).quiet
  | claim name =>
    unfold Build.claim
    refine Preserves.bind Preserves.get fun w => ?_
    split
    · exact fun _ => ⟨rfl, rfl⟩
    · exact Preserves.throw _
  | addVariable v =>
    intro w
    refine ⟨?_, rfl⟩
    change (w.module.globals ++ [Global.variable v]).filterMap Global.function? = _
    rw [List.filterMap_append]
    exact List.append_nil _
  | attach name node => exact fun w => ⟨attach_functions name node w.module.globals, rfl⟩

theorem Composed.quiet {α : Type} {m : Build α} (h : ModuleCode m) : Preserves Quiet m :=
  h.preserves ModuleStep.quiet

theorem Composed.sameFunctions {α : Type} {m : Build α} (h : ModuleCode m) :
    Preserves SameFunctions m := fun w => (h.quiet w).functions

/-! ### Maps -/

theorem Defines.sameFunctions {name : String} {made : Option Map.Params} {m : Build Unit}
    (h : Defines name made m) : Preserves SameFunctions m := by
  induction h with
  | say line hrest ih =>
    exact Preserves.bind (build_say_code line).moduleCode.sameFunctions fun _ => ih
  | fail fault => exact Preserves.throw fault
  | create params =>
    exact Preserves.bind (describeVariable_code name params).sameFunctions fun _ _ => rfl

theorem defineAll_functions (compiled : List Syntax.Function) :
    Preserves SameFunctions (Map.defineAll compiled) :=
  Preserves.forM fun d _ => (define_defines d).sameFunctions

/-! ### Programs -/

/-- The function comes from the program, with the given maps. -/
structure Lowered (maps : Table Operand) (d : Syntax.Function) (fn : IR.Function) : Prop where
  name : fn.name = d.name
  result : (returnType d).bind typeOfName = .ok fn.result
  builds : ∃ w parts f, w.maps = maps ∧ f.fn = fn ∧
    Builds fn.result d.body (programStart w d fn.result) parts f

theorem functions_added (globals : List Global) (fn : IR.Function) (added : List Variable) :
    (globals ++ .function fn :: added.map Global.variable).filterMap Global.function? =
      globals.filterMap Global.function? ++ [fn] := by
  have hadded : (added.map Global.variable).filterMap Global.function? = [] := by
    rw [List.filterMap_map, List.filterMap_eq_nil_iff]
    intro v _
    rfl
  rw [List.filterMap_append, List.filterMap_cons, hadded]
  rfl

theorem lowerProgram_inv {d : Syntax.Function} {w w' : Workspace}
    (h : exec (lowerProgram d) w = (.ok (), w')) :
    ∃ fn, Lowered w.maps d fn ∧ w'.maps = w.maps ∧
      w'.module.functions = w.module.functions ++ [fn] := by
  rw [lowerProgram] at h
  obtain ⟨⟨⟩, w₁, hsay, htail⟩ := exec_bind_inv h
  obtain ⟨hfunctions, hmaps⟩ := (build_say_code _).moduleCode.quiet.of_exec hsay
  obtain ⟨result, w₂, hlift, hbuild⟩ := exec_bind_inv htail
  obtain ⟨hresult, rfl⟩ := exec_lift_inv hlift
  obtain ⟨w₃, parts, f, added, hmaps₃, hbuilds, hname, hty, hmaps', hglobals⟩ :=
    buildProgram_inv hbuild
  subst hty
  refine ⟨f.fn, ⟨hname, hresult, w₃, parts, f, hmaps₃.trans hmaps, rfl, hbuilds⟩,
    hmaps'.trans hmaps, ?_⟩
  rw [IR.Module.functions, hglobals, functions_added, ← hfunctions]
  rfl

/-- Every program becomes one function, in order. -/
theorem forM_lowerProgram_inv {programs : List Syntax.Function} {w w' : Workspace}
    (h : exec (programs.forM lowerProgram) w = (.ok (), w')) :
    w'.maps = w.maps ∧ ∃ new, w'.module.functions = w.module.functions ++ new ∧
      List.Forall₂ (Lowered w.maps) programs new := by
  induction programs generalizing w with
  | nil =>
    obtain ⟨-, rfl⟩ := exec_pure_inv h
    exact ⟨rfl, [], (List.append_nil _).symm, .nil⟩
  | cons d rest ih =>
    obtain ⟨⟨⟩, w₁, hfirst, hrest⟩ := exec_bind_inv h
    obtain ⟨fn, hlowered, hmaps, hfunctions⟩ := lowerProgram_inv hfirst
    obtain ⟨hmaps', new, hfunctions', hall⟩ := ih hrest
    rw [hmaps] at hall
    refine ⟨hmaps'.trans hmaps, fn :: new, ?_, .cons hlowered hall⟩
    rw [hfunctions', hfunctions, List.append_assoc]
    rfl

/-- The stages of a lowering.  Only the middle one makes functions, and only the one before it enters
maps. -/
structure Stages (m : Syntax.Module) (w w₁ w₂ w₃ w' : Workspace) : Prop where
  before : ∃ w₀, exec (Build.say "Module") w = (.ok (), w₀) ∧
    exec (m.compiled.forM fun d => Build.say ("Found BPF function: " ++ d.name)) w₀ = (.ok (), w₁)
  maps : exec (Map.defineAll m.compiled) w₁ = (.ok (), w₂)
  programs : exec (m.programs.forM lowerProgram) w₂ = (.ok (), w₃)
  after : ∃ licensed w₄, exec (License.add m) w₃ = (.ok licensed, w₄) ∧
    exec (Retained.add (Retained.names m)) w₄ = (.ok (), w')

theorem lower_stages {m : Syntax.Module} {w w' : Workspace}
    (h : exec (Compile.lower m) w = (.ok (), w')) : ∃ w₁ w₂ w₃, Stages m w w₁ w₂ w₃ w' := by
  rw [Compile.lower] at h
  obtain ⟨⟨⟩, w₀, hsay, htail⟩ := exec_bind_inv h
  obtain ⟨⟨⟩, w₁, hfound, htail⟩ := exec_bind_inv htail
  obtain ⟨⟨⟩, w₂, hmaps, htail⟩ := exec_bind_inv htail
  obtain ⟨⟨⟩, w₃, hprograms, htail⟩ := exec_bind_inv htail
  obtain ⟨licensed, w₄, hlicense, hretained⟩ := exec_bind_inv htail
  exact ⟨w₁, w₂, w₃, ⟨w₀, hsay, hfound⟩, hmaps, hprograms, licensed, w₄, hlicense, hretained⟩

namespace Stages

variable {m : Syntax.Module} {w w₁ w₂ w₃ w' : Workspace}

theorem sameFunctions_before (h : Stages m w w₁ w₂ w₃ w') : SameFunctions w w₂ := by
  obtain ⟨w₀, hsay, hfound⟩ := h.before
  have hsaid := ((build_say_code _).moduleCode.quiet.of_exec hsay).functions
  have hlisted := ((forM_say_code _).moduleCode.quiet.of_exec hfound).functions
  have hmaps := (defineAll_functions _).of_exec h.maps
  exact trans_of SameFunctions (trans_of SameFunctions hsaid hlisted) hmaps

theorem quiet_after (h : Stages m w w₁ w₂ w₃ w') : Quiet w₃ w' := by
  obtain ⟨licensed, w₄, hlicense, hretained⟩ := h.after
  exact trans_of Quiet ((license_code m).quiet.of_exec hlicense)
    ((retained_code _).quiet.of_exec hretained)

end Stages

/-- What is lowered besides the programs makes no function, and the maps are all known before the
programs are lowered. -/
theorem lower_inv {m : Syntax.Module} {w w' : Workspace}
    (h : exec (Compile.lower m) w = (.ok (), w')) :
    ∃ new, w'.module.functions = w.module.functions ++ new ∧
      List.Forall₂ (Lowered w'.maps) m.programs new := by
  obtain ⟨w₁, w₂, w₃, hstages⟩ := lower_stages h
  obtain ⟨hsame, new, hfunctions, hall⟩ := forM_lowerProgram_inv hstages.programs
  refine ⟨new, ?_, ?_⟩
  · rw [hstages.quiet_after.functions, hfunctions, hstages.sameFunctions_before]
  · rw [hstages.quiet_after.maps, hsame]
    exact hall

theorem write_inv {path : String} {out : Text} {w w' : Workspace}
    (h : exec (Compile.write path) w = (.ok out, w')) :
    w' = w ∧ w.module.fault? = none ∧ out = Compile.written path w.module := by
  rw [Compile.write, exec_bind_ok (exec_get w), IR.Module.render] at h
  cases hfault : w.module.fault? with
  | some fault =>
    rw [hfault] at h
    exact exec_throw_inv h
  | none =>
    rw [hfault] at h
    dsimp only at h
    split at h
    · obtain ⟨rfl, rfl⟩ := exec_pure_inv h
      exact ⟨rfl, rfl, rfl⟩
    · exact exec_throw_inv h

theorem start_globals (path : String) (maps : Table Operand) :
    (Compile.start path maps).module.globals = [] := by
  simp [Compile.start, Workspace.ofFile, IR.Module.addNamed,
    (IR.Module.addRecord_annotated _ _ _ _).globals, IR.Module.empty]

theorem start_functions (path : String) (maps : Table Operand) :
    (Compile.start path maps).module.functions = [] := by
  rw [IR.Module.functions, start_globals]
  rfl

theorem exec_source {path : String} {text : List Char} {m : Syntax.Module}
    (h : Syntax.Module.parse (Lexer.universalNewlines text) = .ok m) (w : Workspace) :
    exec (Compile.source path text) w = exec (Compile.tree path m) w := by
  rw [Compile.source, Compile.parse, h]
  rfl

/-- A source that compiles is parsed, and its syntax tree is compiled. -/
theorem source_tree {path : String} {text : List Char} {out : Text} {w w' : Workspace}
    (h : exec (Compile.source path text) w = (.ok out, w')) :
    ∃ m, Syntax.Module.parse (Lexer.universalNewlines text) = .ok m ∧
      exec (Compile.tree path m) w = (.ok out, w') := by
  rw [Compile.source] at h
  obtain ⟨m, w₁, hparse, htail⟩ := exec_bind_inv h
  rw [Compile.parse] at hparse
  cases hread : Syntax.Module.parse (Lexer.universalNewlines text) with
  | error fault =>
    rw [hread] at hparse
    exact exec_throw_inv hparse
  | ok m' =>
    rw [hread] at hparse
    obtain ⟨rfl, rfl⟩ := exec_pure_inv hparse
    exact ⟨m, rfl, htail⟩

/-- A tree that compiles is lowered and signed, and its module can be written. -/
theorem tree_stages {path : String} {m : Syntax.Module} {out : Text} {w w' : Workspace}
    (h : exec (Compile.tree path m) w = (.ok out, w')) :
    ∃ w₁, exec (Compile.lower m) w = (.ok (), w₁) ∧ exec Compile.sign w₁ = (.ok (), w') ∧
      w'.module.fault? = none ∧ out = Compile.written path w'.module := by
  rw [Compile.tree] at h
  obtain ⟨⟨⟩, w₁, hlower, htail⟩ := exec_bind_inv h
  obtain ⟨⟨⟩, w₂, hsign, hwrite⟩ := exec_bind_inv htail
  obtain ⟨rfl, hfault, hout⟩ := write_inv hwrite
  exact ⟨w₁, hlower, hsign, hfault, hout⟩

/-- A source that compiles is parsed, lowered and signed, and its module can be written. -/
theorem source_stages {path : String} {text : List Char} {out : Text} {w w' : Workspace}
    (h : exec (Compile.source path text) w = (.ok out, w')) :
    ∃ m w₁, Syntax.Module.parse (Lexer.universalNewlines text) = .ok m ∧
      exec (Compile.lower m) w = (.ok (), w₁) ∧ exec Compile.sign w₁ = (.ok (), w') ∧
      w'.module.fault? = none := by
  obtain ⟨m, hparse, htree⟩ := source_tree h
  obtain ⟨w₁, hlower, hsign, hfault, -⟩ := tree_stages htree
  exact ⟨m, w₁, hparse, hlower, hsign, hfault⟩

/-- A source that compiles has one function for each of its programs, in order, and its module can be
written. -/
theorem source_inv {path : String} {text : List Char} {maps : Table Operand} {out : Text}
    {w : Workspace}
    (h : exec (Compile.source path text) (Compile.start path maps) = (.ok out, w)) :
    ∃ m, Syntax.Module.parse (Lexer.universalNewlines text) = .ok m ∧
      List.Forall₂ (Lowered w.maps) m.programs w.module.functions ∧ w.module.fault? = none := by
  obtain ⟨m, w₁, hparse, hlower, hsign, hfault⟩ := source_stages h
  have hsigned := sign_code.moduleCode.quiet.of_exec hsign
  obtain ⟨new, hfunctions, hall⟩ := lower_inv hlower
  refine ⟨m, hparse, ?_, hfault⟩
  rw [hsigned.functions, hsigned.maps, hfunctions, start_functions, List.nil_append]
  exact hall

end BpfCompiler.Lower
