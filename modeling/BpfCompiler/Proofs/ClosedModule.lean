import BpfCompiler.Proofs.Inventory

/-!
# Closed modules

A module is closed if it defines every global that it refers to.  What functions refer to is always there.
The list of retained symbols is different: it is made from the names that the source gives to its top-level
definitions, whether they have become globals or not.  So a module is closed exactly when every retained
name is one of those that it provides: its maps, its functions, their format strings, and the licence if the
source returns one.
-/

namespace BpfCompiler.IR.Module

def Defines (m : Module) (name : String) : Prop :=
  ∃ g ∈ m.globals, g.name = name ∧ g.isDefined = true

/-- Every global that is referred to is defined. -/
def Closed (m : Module) : Prop := ∀ g ∈ m.globals, ∀ name ∈ g.referred, m.Defines name

instance (m : Module) (name : String) : Decidable (m.Defines name) :=
  inferInstanceAs (Decidable (∃ g ∈ m.globals, g.name = name ∧ g.isDefined = true))

instance (m : Module) : Decidable m.Closed :=
  inferInstanceAs (Decidable (∀ g ∈ m.globals, ∀ name ∈ g.referred, m.Defines name))

theorem defines_iff {m : Module} (h : ∀ g ∈ m.globals, g.isDefined = true) {name : String} :
    m.Defines name ↔ name ∈ m.names := by
  rw [names, List.mem_map]
  constructor
  · rintro ⟨g, hg, hname, -⟩
    exact ⟨g, hg, hname⟩
  · rintro ⟨g, hg, hname⟩
    exact ⟨g, hg, hname, h g hg⟩

end BpfCompiler.IR.Module

namespace BpfCompiler.Lower

open IR Syntax

/-! ### The end of the module -/

/-- The name of the licence, if the source returns one. -/
def licenseNames (m : Syntax.Module) : List String :=
  if ((License.definition? m).bind License.returnedText?).isSome then ["LICENSE"] else []

theorem license_provides {m : Syntax.Module} {licensed : Bool} {w w' : Workspace}
    (h : exec (License.add m) w = (.ok licensed, w')) : Provides (licenseNames m) w w' := by
  unfold licenseNames
  unfold License.add at h
  split at h
  · rename_i hnone
    obtain ⟨-, rfl⟩ := exec_pure_inv h
    simpa [hnone] using Provides.refl w'
  · rename_i d hsome
    rw [hsome, Option.bind_some]
    split at h
    · rename_i hnone
      obtain ⟨⟨⟩, w₁, hsay, hend⟩ := exec_bind_inv h
      obtain ⟨-, rfl⟩ := exec_pure_inv hend
      simpa [hnone] using (build_say_code _).provides hsay
    · rename_i text htext
      split at h
      · exact exec_throw_inv h
      · rename_i bytes hbytes
        obtain ⟨⟨⟩, w₁, hclaim, htail⟩ := exec_bind_inv h
        obtain ⟨⟨⟩, w₂, hadd, hend⟩ := exec_bind_inv htail
        obtain ⟨-, rfl⟩ := exec_pure_inv hend
        rw [htext, Option.isSome_some, if_pos rfl]
        exact Provides.variable (v := License.licenseVariable bytes) hclaim hadd rfl rfl

/-- A retained symbol is the address of what has its name, and the name is taken then. -/
theorem symbol_inv {name : String} {o : Operand} {w w' : Workspace}
    (htaken : w.module.names ⊆ w.module.scope.used)
    (h : exec (Retained.symbol name) w = (.ok o, w')) :
    o.globalName? = some name ∧ name ∈ w'.module.scope.used ∧ w.module.Annotated w'.module ∧
      w'.maps = w.maps := by
  rw [Retained.symbol, exec_bind_ok (exec_get w)] at h
  split at h
  · rename_i g hfind
    obtain ⟨rfl, rfl⟩ := exec_pure_inv h
    have hname : g.name = name := by simpa using List.find?_some hfind
    refine ⟨by simp [Global.address, Operand.globalName?, hname], ?_, .refl _, rfl⟩
    exact htaken (List.mem_map.mpr ⟨g, List.mem_of_find?_eq_some hfind, hname⟩)
  · obtain ⟨⟨⟩, w₁, hclaim, hend⟩ := exec_bind_inv h
    obtain ⟨rfl, rfl⟩ := exec_pure_inv hend
    obtain ⟨scope, hscope, rfl⟩ := claim_inv hclaim
    obtain ⟨-, hused⟩ := NameScope.claim?_inv hscope
    refine ⟨rfl, ?_, ⟨rfl, ?_, List.prefix_rfl⟩, rfl⟩
    · simp [hused]
    · simp [hused]

theorem mapM_symbol_inv {names : List String} {items : List Operand} {w w' : Workspace}
    (htaken : w.module.names ⊆ w.module.scope.used)
    (h : exec (names.mapM Retained.symbol) w = (.ok items, w')) :
    items.map Operand.globalName? = names.map some ∧ names ⊆ w'.module.scope.used ∧
      w.module.Annotated w'.module ∧ w'.maps = w.maps := by
  induction names generalizing w items with
  | nil =>
    rw [List.mapM_nil] at h
    obtain ⟨rfl, rfl⟩ := exec_pure_inv h
    exact ⟨rfl, List.nil_subset _, .refl _, rfl⟩
  | cons name rest ih =>
    rw [List.mapM_cons] at h
    obtain ⟨o, w₁, hfirst, htail⟩ := exec_bind_inv h
    obtain ⟨others, w₂, hrest, hend⟩ := exec_bind_inv htail
    obtain ⟨rfl, rfl⟩ := exec_pure_inv hend
    obtain ⟨hname, hmem, hmodule, hmaps⟩ := symbol_inv htaken hfirst
    have htaken₁ := (Gains.of_annotated hmodule).names_taken htaken
    obtain ⟨hnames, hused, hmodule', hmaps'⟩ := ih htaken₁ hrest
    refine ⟨?_, List.cons_subset.mpr ⟨hmodule'.used hmem, hused⟩, hmodule.trans hmodule',
      hmaps'.trans hmaps⟩
    rw [List.map_cons, hname, hnames, List.map_cons]

/-- The variable that lists retained symbols. -/
def retainedVariable (count : Nat) (items : List Operand) : Variable :=
  ⟨"llvm.compiler.used", .array count Ty.bytePtr, "appending", false, some (.references items),
    "llvm.metadata", none, none⟩

/-- The list of retained symbols is added, and it has the names that it is given, in order. -/
theorem retained_gains {names : List String} {w w' : Workspace}
    (htaken : w.module.names ⊆ w.module.scope.used)
    (h : exec (Retained.add names) w = (.ok (), w')) :
    ∃ items : List Operand, Gains [.variable (retainedVariable names.length items)] w w' ∧
      items.map Operand.globalName? = names.map some ∧ "llvm.compiler.used" ∉ names := by
  rw [Retained.add] at h
  obtain ⟨items, w₁, hitems, htail⟩ := exec_bind_inv h
  obtain ⟨⟨⟩, w₂, hclaim, hadd⟩ := exec_bind_inv htail
  obtain ⟨hnames, hused, hmodule, -⟩ := mapM_symbol_inv htaken hitems
  obtain ⟨hfree, -⟩ := claim_add_inv hclaim hadd
  have hadded : Gains [.variable (retainedVariable names.length items)] w₁ w' := .add hclaim hadd
  refine ⟨items, (Gains.of_annotated hmodule).trans hadded, hnames, ?_⟩
  -- the name of the list could be claimed, so it is none of those that are taken by then
  exact fun hmem => hfree (hused hmem)

/-- The list of retained symbols refers to the names that it is given, and its own is not among them. -/
theorem retained_inv {names : List String} {w w' : Workspace} (hw : SelfContained w)
    (h : exec (Retained.add names) w = (.ok (), w')) :
    ∃ v : Variable, w'.module.globals = w.module.globals ++ [.variable v] ∧
      v.name = "llvm.compiler.used" ∧ v.initializer.isSome = true ∧
      (Global.variable v).referred = names ∧ "llvm.compiler.used" ∉ names := by
  obtain ⟨items, hgains, hitems, hown⟩ := retained_gains hw.taken h
  refine ⟨_, hgains.globals, rfl, rfl, ?_, hown⟩
  change items.filterMap Operand.globalName? = names
  calc items.filterMap Operand.globalName? = (items.map Operand.globalName?).filterMap id := by
        rw [List.filterMap_map]
        rfl
    _ = names := by
        rw [hitems, List.filterMap_map]
        exact List.filterMap_some

/-! ### Whole modules -/

/-- The names that a source provides, given the functions that its programs have become. -/
def providedNames (m : Syntax.Module) (functions : List IR.Function) : List String :=
  (m.compiled.filter fun d => d.isMap).map (fun d => d.name) ++ functions.flatMap symbolsOf ++
    licenseNames m

/-- Everything but the list of retained symbols comes before it, and refers to nothing else. -/
theorem lower_provides {m : Syntax.Module} {w w' : Workspace} (hw : SelfContained w)
    (h : exec (Compile.lower m) w = (.ok (), w')) :
    ∃ (w₄ : Workspace) (new : List IR.Function) (v : Variable), SelfContained w₄ ∧
      w'.module.functions = w.module.functions ++ new ∧
      w₄.module.names = w.module.names ++ providedNames m new ∧
      w'.module.globals = w₄.module.globals ++ [.variable v] ∧ v.name = "llvm.compiler.used" ∧
      v.initializer.isSome = true ∧ (Global.variable v).referred = Retained.names m ∧
      "llvm.compiler.used" ∉ Retained.names m := by
  obtain ⟨w₁, w₂, w₃, hstages⟩ := lower_stages h
  obtain ⟨w₀, hsay, hfound⟩ := hstages.before
  obtain ⟨licensed, w₄, hlicense, hretained⟩ := hstages.after
  obtain ⟨new, hfunctions, hprograms⟩ := forM_lowerProgram_provides hstages.programs
  have hbefore : Provides [] w w₁ :=
    ((build_say_code _).provides hsay).trans ((forM_say_code _).provides hfound)
  have hall : Provides (providedNames m new) w w₄ :=
    ((hbefore.trans (forM_define_provides hstages.maps)).trans hprograms).trans
      (license_provides hlicense)
  have hw₄ := hall.contained hw
  obtain ⟨v, hv⟩ := retained_inv hw₄ hretained
  refine ⟨w₄, new, v, hw₄, ?_, hall.names, hv⟩
  rw [hstages.quiet_after.functions, hfunctions, hstages.sameFunctions_before]

theorem start_selfContained (path : String) : SelfContained (Compile.start path Table.empty) := by
  have hglobals := start_globals path Table.empty
  constructor
  · simp [IR.Module.names, hglobals]
  · simp [hglobals]
  · intro name o ho
    cases ho
  · simp [hglobals]

section Extended

variable {w : Workspace} {m : IR.Module} {v : Variable}

theorem SelfContained.defines_iff (hw : SelfContained w)
    (hglobals : m.globals = w.module.globals ++ [.variable v])
    (hdefined : v.initializer.isSome = true) (name : String) :
    m.Defines name ↔ name ∈ w.module.names ∨ name = v.name := by
  have hall : ∀ g ∈ m.globals, g.isDefined = true := by
    rw [hglobals, List.forall_mem_append, List.forall_mem_singleton]
    exact ⟨hw.defined, hdefined⟩
  have hnames : m.names = w.module.names ++ [v.name] := by
    rw [IR.Module.names, hglobals, List.map_append]
    rfl
  rw [IR.Module.defines_iff hall, hnames, List.mem_append, List.mem_singleton]

/-- A list of references behind globals that are self-contained leaves the module closed exactly if what it
refers to stands before it. -/
theorem SelfContained.closed_iff (hw : SelfContained w)
    (hglobals : m.globals = w.module.globals ++ [.variable v])
    (hdefined : v.initializer.isSome = true) (hname : v.name ∉ (Global.variable v).referred) :
    m.Closed ↔ ∀ name ∈ (Global.variable v).referred, name ∈ w.module.names := by
  have hdefines := hw.defines_iff hglobals hdefined
  rw [IR.Module.Closed, hglobals, List.forall_mem_append, List.forall_mem_singleton]
  constructor
  · rintro ⟨-, hlast⟩ name hmem
    rcases (hdefines name).mp (hlast name hmem) with hold | rfl
    · exact hold
    · exact absurd hmem hname
  · intro hthere
    refine ⟨fun g hg name hmem => ?_, fun name hmem => ?_⟩
    · exact (hdefines name).mpr (.inl (hw.closed g hg name hmem))
    · exact (hdefines name).mpr (.inl (hthere name hmem))

end Extended

/-- From an empty table of maps, a module has the globals that its source provides and the list of retained
symbols.  What its functions refer to is defined in it, and the module as a whole is closed exactly if every
retained name is provided. -/
theorem source_closed_iff {path : String} {text : List Char} {out : Text} {w : Workspace}
    (h : exec (Compile.source path text) (Compile.start path Table.empty) = (.ok out, w)) :
    ∃ m, Syntax.Module.parse (Lexer.universalNewlines text) = .ok m ∧
      w.module.names = providedNames m w.module.functions ++ ["llvm.compiler.used"] ∧
      (∀ fn ∈ w.module.functions, ∀ name ∈ fn.referred, w.module.Defines name) ∧
      (w.module.Closed ↔
        ∀ name ∈ Retained.names m, name ∈ providedNames m w.module.functions) := by
  obtain ⟨m, w₁, hparse, hlower, hsign, -⟩ := source_stages h
  obtain ⟨w₂, new, v, hw₂, hfunctions, hnames, hglobals, hname, hdefined, hreferred, hown⟩ :=
    lower_provides (start_selfContained path) hlower
  have hsigned := sign_code.annotated.of_exec hsign
  have hnew : w.module.functions = new := by
    rw [hsigned.quiet.functions, hfunctions, start_functions, List.nil_append]
  have hstart : (Compile.start path Table.empty).module.names = [] := by
    rw [IR.Module.names, start_globals]
    rfl
  rw [hstart, List.nil_append, ← hnew] at hnames
  rw [← hsigned.module.globals] at hglobals
  refine ⟨m, hparse, ?_, ?_, ?_⟩
  · rw [IR.Module.names, hglobals, List.map_append, ← hnames, ← hname]
    rfl
  · intro fn hfn name hmem
    have hmem' : .function fn ∈ w₂.module.globals := by
      simpa [hglobals] using IR.Module.mem_functions.mp hfn
    exact (hw₂.defines_iff hglobals hdefined name).mpr (.inl (hw₂.closed _ hmem' name hmem))
  · rw [hw₂.closed_iff hglobals hdefined (by rwa [hname, hreferred]), hreferred, hnames]

/-- A map, a program that uses it and prints, and a licence. -/
def licensedSource : List Char :=
  ("@bpf\n@map\ndef m() -> HashMap:\n    return HashMap(key=c_int64, value=c_int64, max_entries=1)\n" ++
    "@bpf\n@section(\"kprobe\")\ndef f() -> c_int64:\n    k = 1\n    m().lookup(k)\n    print(\"hi\")\n" ++
    "    return c_int64(0)\n@bpf\n@bpfglobal\ndef LICENSE() -> str:\n    return \"GPL\"\n").toList

theorem licensedSource_closed_iff :
    ∃ (out : Text) (w : Workspace) (m : Syntax.Module),
      exec (Compile.source "prog.py" licensedSource) (Compile.start "prog.py" Table.empty) =
        (.ok out, w) ∧
      Syntax.Module.parse (Lexer.universalNewlines licensedSource) = .ok m ∧
      w.module.names = providedNames m w.module.functions ++ ["llvm.compiler.used"] ∧
      (∀ fn ∈ w.module.functions, ∀ name ∈ fn.referred, w.module.Defines name) ∧
      w.module.Closed ∧ ∀ name ∈ Retained.names m, name ∈ providedNames m w.module.functions := by
  have hrun :
      (exec (Compile.source "prog.py" licensedSource)
        (Compile.start "prog.py" Table.empty)).1.isOk = true ∧
      (exec (Compile.source "prog.py" licensedSource)
        (Compile.start "prog.py" Table.empty)).2.module.Closed := by
    decide +kernel
  obtain ⟨out, w, hsource⟩ := exec_of_isOk hrun.1
  rw [hsource] at hrun
  obtain ⟨m, hparse, hnames, hfunctions, hclosed⟩ := source_closed_iff hsource
  exact ⟨out, w, m, hsource, hparse, hnames, hfunctions, hrun.2, hclosed.mp hrun.2⟩

/-- A program and nothing else. -/
def unlicensedSource : List Char := "@bpf\ndef f() -> c_int64:\n    return c_int64(0)\n".toList

/-- The licence is retained, but nothing defines it. -/
theorem unlicensedSource_not_closed :
    ∃ (out : Text) (w : Workspace),
      exec (Compile.source "prog.py" unlicensedSource) (Compile.start "prog.py" Table.empty) =
        (.ok out, w) ∧ ¬w.module.Closed := by
  have hrun :
      (exec (Compile.source "prog.py" unlicensedSource)
        (Compile.start "prog.py" Table.empty)).1.isOk = true ∧
      ¬(exec (Compile.source "prog.py" unlicensedSource)
        (Compile.start "prog.py" Table.empty)).2.module.Closed := by
    decide +kernel
  obtain ⟨out, w, hsource⟩ := exec_of_isOk hrun.1
  rw [hsource] at hrun
  exact ⟨out, w, hsource, hrun.2⟩

end BpfCompiler.Lower
