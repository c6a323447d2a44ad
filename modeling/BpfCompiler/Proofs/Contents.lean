import BpfCompiler.Proofs.ClosedModule

/-!
# The globals of a module, in order

The module of a source that compiles has the variables of the maps first, then every program's function with
its format strings behind it, then the licence if the source returns one, and the list of retained symbols at
the end.  No name occurs twice.  `lower_contents` keeps with each global what it was made from: the run that
described a map, and the run that built a function.
-/

namespace BpfCompiler.Lower

open IR Syntax

/-! ### Maps -/

/-- The variable is that of a map, marked with the node that describes it, and the module has this node. -/
def IsMapOf (m : IR.Module) (d : Syntax.Function) (v : Variable) : Prop :=
  ∃ (params : Map.Params) (node : Nat) (w w' : Workspace), Map.params? d = some params ∧
    exec (Map.debugInfo d.name params) w = (.ok node, w') ∧ w'.module.nodes <+: m.nodes ∧
    v = { Map.mapVariable d.name params with debug := some node }

theorem IsMapOf.mono {m m' : IR.Module} {d : Syntax.Function} {v : Variable} (h : IsMapOf m d v)
    (hnodes : m.nodes <+: m'.nodes) : IsMapOf m' d v := by
  obtain ⟨params, node, w, w', hparams, hdebug, hold, hv⟩ := h
  exact ⟨params, node, w, w', hparams, hdebug, hold.trans hnodes, hv⟩

theorem attach_of_not_mem {name : String} (node : Nat) {globals : List Global}
    (h : name ∉ globals.map Global.name) : Map.attach name node globals = globals := by
  refine (List.map_congr_left ?_).trans (List.map_id' globals)
  rintro (v | fn) hg
  · have hv : v.name ≠ name := fun heq => h (List.mem_map.mpr ⟨_, hg, heq⟩)
    simp [hv]
  · rfl

theorem attach_append (name : String) (node : Nat) (globals added : List Global) :
    Map.attach name node (globals ++ added) =
      Map.attach name node globals ++ Map.attach name node added := List.map_append

/-- A variable that was added last is marked, and no other one is. -/
theorem Gains.attach {v : Variable} {node : Nat} {w w₁ w₂ : Workspace}
    (h : Gains [.variable v] w w₁) (htaken : w.module.names ⊆ w.module.scope.used)
    (hattach : exec (attachNode v.name node) w₁ = (.ok (), w₂)) :
    Gains [.variable { v with debug := some node }] w w₂ := by
  have hfresh : v.name ∉ w.module.scope.used := h.fresh _ List.mem_cons_self
  have hother : v.name ∉ w.module.globals.map Global.name := fun hmem => hfresh (htaken hmem)
  obtain rfl := (Prod.mk.inj hattach).2
  refine ⟨?_, ?_, List.nodup_singleton _, ?_, h.used, h.nodes⟩
  · change Map.attach v.name node w₁.module.globals = _
    rw [h.globals, attach_append, attach_of_not_mem node hother]
    simp [Map.attach]
  · simpa [Global.name] using hfresh
  · simpa [Global.name] using h.taken

theorem describeVariable_gains {name : String} {params : Map.Params} {w w' : Workspace}
    (htaken : w.module.names ⊆ w.module.scope.used)
    (h : exec (describeVariable name params) w = (.ok (), w')) :
    ∃ node w₁ w₂, exec (Map.debugInfo name params) w₁ = (.ok node, w₂) ∧
      w₂.module.nodes <+: w'.module.nodes ∧
      Gains [.variable { Map.mapVariable name params with debug := some node }] w w' := by
  rw [describeVariable] at h
  obtain ⟨⟨⟩, w₁, hclaim, htail⟩ := exec_bind_inv h
  obtain ⟨⟨⟩, w₂, hadd, htail⟩ := exec_bind_inv htail
  obtain ⟨node, w₃, hdebug, htail⟩ := exec_bind_inv htail
  obtain ⟨⟨⟩, w₄, hattach, hsay⟩ := exec_bind_inv htail
  have hadded : Gains [.variable (Map.mapVariable name params)] w w₂ :=
    Gains.add (g := .variable (Map.mapVariable name params)) hclaim hadd
  have hdescribed := (debugInfo_code name params).annotated.of_exec hdebug
  have hbare : Gains [.variable (Map.mapVariable name params)] w w₃ :=
    hadded.trans (.of_annotated hdescribed.module)
  have hsaid : Gains [] w₄ w' := .of_annotated ((build_say_code _).annotated.of_exec hsay).module
  have hnodes : w₄.module.nodes = w₃.module.nodes := by
    obtain rfl := (Prod.mk.inj hattach).2
    rfl
  refine ⟨node, w₂, w₃, hdebug, hnodes ▸ hsaid.nodes, ?_⟩
  exact (hbare.attach htaken hattach).trans hsaid

theorem define_gains {d : Syntax.Function} {w w' : Workspace}
    (htaken : w.module.names ⊆ w.module.scope.used)
    (h : exec (Map.define d) w = (.ok (), w')) :
    ∃ v, IsMapOf w'.module d v ∧ Gains [.variable v] w w' := by
  obtain ⟨params, w₀, w₁, hparams, hsaid, hdescribe, rfl⟩ := (define_defines d).inv h
  have hbefore := Gains.of_annotated hsaid.module
  obtain ⟨node, w₂, w₃, hdebug, hnodes, hgains⟩ :=
    describeVariable_gains (hbefore.names_taken htaken) hdescribe
  refine ⟨_, ⟨params, node, w₂, w₃, hparams, hdebug, hnodes, rfl⟩, ?_⟩
  have hall := hbefore.trans hgains
  exact ⟨hall.globals, hall.fresh, hall.distinct, hall.taken, hall.used, hall.nodes⟩

/-- If every step adds one variable, a run over a list adds a variable for each item.  What is said of it may
depend on nodes of the module. -/
theorem forM_gains {α : Type} {step : α → Build PUnit} (IsOf : IR.Module → α → Variable → Prop)
    (hmono : ∀ {m m' : IR.Module} {a : α} {v : Variable}, IsOf m a v → m.nodes <+: m'.nodes →
      IsOf m' a v)
    (hstep : ∀ {a : α} {w w' : Workspace}, w.module.names ⊆ w.module.scope.used →
      exec (step a) w = (.ok (), w') → ∃ v, IsOf w'.module a v ∧ Gains [.variable v] w w')
    {items : List α} {w w' : Workspace} (htaken : w.module.names ⊆ w.module.scope.used)
    (h : exec (items.forM step) w = (.ok (), w')) :
    ∃ added, List.Forall₂ (IsOf w'.module) items added ∧ Gains (added.map Global.variable) w w' := by
  induction items generalizing w with
  | nil =>
    obtain ⟨-, rfl⟩ := exec_pure_inv h
    exact ⟨[], .nil, .of_annotated (.refl _)⟩
  | cons a rest ih =>
    obtain ⟨⟨⟩, w₁, hfirst, hrest⟩ := exec_bind_inv h
    obtain ⟨v, hv, hgains⟩ := hstep htaken hfirst
    obtain ⟨added, hall, hgains'⟩ := ih (hgains.names_taken htaken) hrest
    exact ⟨v :: added, .cons (hmono hv hgains'.nodes) hall, hgains.trans hgains'⟩

theorem forM_define_gains {definitions : List Syntax.Function} {w w' : Workspace}
    (htaken : w.module.names ⊆ w.module.scope.used)
    (h : exec (definitions.forM Map.define) w = (.ok (), w')) :
    ∃ mapVariables, List.Forall₂ (IsMapOf w'.module) definitions mapVariables ∧
      Gains (mapVariables.map Global.variable) w w' :=
  forM_gains IsMapOf .mono define_gains htaken h

/-! ### Programs -/

/-- A function with the variables of its format strings. -/
@[ext]
structure Routine where
  fn : IR.Function
  texts : List Variable

def Routine.globals (r : Routine) : List Global :=
  .function r.fn :: r.texts.map Global.variable

/-- The routine is what the building of the program has left, with the given maps. -/
structure IsRoutineOf (maps : Table Operand) (d : Syntax.Function) (r : Routine) : Prop where
  result : (returnType d).bind typeOfName = .ok r.fn.result
  run : ∃ w f, w.maps = maps ∧ f.fn = r.fn ∧
    exec (functionBody r.fn.result d.body) (programStart w d r.fn.result) = (.ok (), f) ∧
    Prints (programStart w d r.fn.result) f r.texts

namespace IsRoutineOf

variable {maps : Table Operand} {d : Syntax.Function} {r : Routine}

theorem name (h : IsRoutineOf maps d r) : r.fn.name = d.name := by
  obtain ⟨w, f, -, hfn, -, hprints⟩ := h.run
  rw [← hfn]
  exact hprints.name

/-- The format strings are numbered in the order in which they stand. -/
theorem texts_names (h : IsRoutineOf maps d r) :
    r.texts.map Variable.name = (List.range r.fn.formats).map (formatName d.name) := by
  obtain ⟨w, f, -, hfn, -, hprints⟩ := h.run
  have hformats : r.fn.formats = r.texts.length := by
    rw [← hfn, hprints.formats]
    exact Nat.zero_add _
  rw [hprints.names, hformats, List.range_eq_range']
  rfl

end IsRoutineOf

theorem lowerProgram_gains {d : Syntax.Function} {w w' : Workspace}
    (h : exec (lowerProgram d) w = (.ok (), w')) :
    ∃ r, IsRoutineOf w.maps d r ∧ w'.maps = w.maps ∧ Gains r.globals w w' := by
  rw [lowerProgram] at h
  obtain ⟨⟨⟩, w₁, hsay, htail⟩ := exec_bind_inv h
  have hsaid := (build_say_code _).annotated.of_exec hsay
  obtain ⟨result, w₂, hlift, hbuild⟩ := exec_bind_inv htail
  obtain ⟨hresult, rfl⟩ := exec_lift_inv hlift
  obtain ⟨w₃, f, texts, hmaps, -, hbody, rfl, hprints, hgains⟩ := buildProgram_gains hbuild
  obtain ⟨parts, hbuilds⟩ := functionBody_inv hbody (programStart_inRange _ d result)
  obtain rfl : f.fn.result = result := hbuilds.sameContext.result
  refine ⟨⟨f.fn, texts⟩, ⟨hresult, w₃, f, hmaps.trans hsaid.maps, rfl, hbody, hprints⟩, ?_,
    (Gains.of_annotated hsaid.module).trans hgains⟩
  exact hbuilds.sameContext.maps.trans (hmaps.trans hsaid.maps)

theorem forM_lowerProgram_gains {programs : List Syntax.Function} {w w' : Workspace}
    (h : exec (programs.forM lowerProgram) w = (.ok (), w')) :
    ∃ routines, List.Forall₂ (IsRoutineOf w.maps) programs routines ∧
      Gains (routines.flatMap Routine.globals) w w' := by
  induction programs generalizing w with
  | nil =>
    obtain ⟨-, rfl⟩ := exec_pure_inv h
    exact ⟨[], .nil, .of_annotated (.refl _)⟩
  | cons d rest ih =>
    obtain ⟨⟨⟩, w₁, hfirst, hrest⟩ := exec_bind_inv h
    obtain ⟨r, hr, hmaps, hgains⟩ := lowerProgram_gains hfirst
    obtain ⟨routines, hall, hgains'⟩ := ih hrest
    rw [hmaps] at hall
    refine ⟨r :: routines, .cons hr hall, ?_⟩
    rw [List.flatMap_cons]
    exact hgains.trans hgains'

/-! ### The licence -/

/-- The variable of the licence, if the source returns a text that has bytes. -/
def licenseOf (m : Syntax.Module) : Option Variable :=
  ((License.definition? m).bind License.returnedText?).bind fun text =>
    text.utf8?.map License.licenseVariable

theorem license_gains {m : Syntax.Module} {licensed : Bool} {w w' : Workspace}
    (h : exec (License.add m) w = (.ok licensed, w')) :
    (licenseOf m).isSome = ((License.definition? m).bind License.returnedText?).isSome ∧
      Gains ((licenseOf m).toList.map Global.variable) w w' := by
  unfold licenseOf
  unfold License.add at h
  split at h
  · rename_i hnone
    obtain ⟨-, rfl⟩ := exec_pure_inv h
    simpa [hnone] using Gains.of_annotated (.refl _)
  · rename_i d hsome
    rw [hsome, Option.bind_some]
    split at h
    · rename_i hnone
      obtain ⟨⟨⟩, w₁, hsay, hend⟩ := exec_bind_inv h
      obtain ⟨-, rfl⟩ := exec_pure_inv hend
      simpa [hnone] using Gains.of_annotated ((build_say_code _).annotated.of_exec hsay).module
    · rename_i text htext
      split at h
      · exact exec_throw_inv h
      · rename_i bytes hbytes
        obtain ⟨⟨⟩, w₁, hclaim, htail⟩ := exec_bind_inv h
        obtain ⟨⟨⟩, w₂, hadd, hend⟩ := exec_bind_inv htail
        obtain ⟨-, rfl⟩ := exec_pure_inv hend
        rw [htext, Option.bind_some, hbytes]
        exact ⟨rfl, Gains.add (g := .variable (License.licenseVariable bytes)) hclaim hadd⟩

theorem returnedText?_eq_some_iff {d : Syntax.Function} {text : Text} :
    License.returnedText? d = some text ↔
      ∃ marked, d.body = [.ret (some (.const (.text text) marked))] := by
  constructor
  · intro h
    unfold License.returnedText? at h
    split at h
    · rename_i e hbody
      unfold Expr.textLiteral? at h
      split at h
      · rename_i marked
        obtain rfl := Option.some.inj h
        exact ⟨marked, hbody⟩
      · cases h
    · cases h
  · rintro ⟨marked, hbody⟩
    rw [License.returnedText?, hbody]
    rfl

/-! ### Whole modules -/

/-- The globals of a module by what they are for. -/
structure Contents where
  maps : List Variable
  routines : List Routine
  license : Option Variable
  retained : Variable

/-- The globals in the order in which a module has them. -/
def Contents.globals (c : Contents) : List Global :=
  c.maps.map Global.variable ++ c.routines.flatMap Routine.globals ++
    c.license.toList.map Global.variable ++ [.variable c.retained]

theorem Contents.map_mem_globals (c : Contents) {v : Variable} (hv : v ∈ c.maps) :
    .variable v ∈ c.globals := by
  simp [Contents.globals, hv]

/-- The contents are what the source has become in the module, with the given maps. -/
structure IsContentsOf (m : Syntax.Module) (table : Table Operand) (module : IR.Module)
    (c : Contents) : Prop where
  maps : List.Forall₂ (IsMapOf module) (m.compiled.filter fun d => d.isMap) c.maps
  routines : List.Forall₂ (IsRoutineOf table) m.programs c.routines
  license : c.license = licenseOf m
  licensed : c.license.isSome = ((License.definition? m).bind License.returnedText?).isSome
  retained : ∃ items, c.retained = retainedVariable (Retained.names m).length items ∧
    items.map Operand.globalName? = (Retained.names m).map some

theorem lower_contents {m : Syntax.Module} {w w' : Workspace}
    (htaken : w.module.names ⊆ w.module.scope.used)
    (h : exec (Compile.lower m) w = (.ok (), w')) :
    ∃ c, IsContentsOf m w'.maps w'.module c ∧ Gains c.globals w w' := by
  obtain ⟨w₁, w₂, w₃, hstages⟩ := lower_stages h
  obtain ⟨w₀, hsay, hfound⟩ := hstages.before
  obtain ⟨licensed, w₄, hlicense, hretained⟩ := hstages.after
  have hbefore : Gains [] w w₁ :=
    (Gains.of_annotated ((build_say_code _).annotated.of_exec hsay).module).trans
      (.of_annotated ((forM_say_code _).annotated.of_exec hfound).module)
  obtain ⟨mapVariables, hmaps, hmapped⟩ :=
    forM_define_gains (hbefore.names_taken htaken) hstages.maps
  obtain ⟨routines, hroutines, hprograms⟩ := forM_lowerProgram_gains hstages.programs
  obtain ⟨hlicensed, hlicense⟩ := license_gains hlicense
  have hsofar := ((hbefore.trans hmapped).trans hprograms).trans hlicense
  obtain ⟨items, hlast, hitems, -⟩ := retained_gains (hsofar.names_taken htaken) hretained
  have hlater := (hprograms.trans hlicense).trans hlast
  have htable : w'.maps = w₂.maps :=
    hstages.quiet_after.maps.trans (forM_lowerProgram_inv hstages.programs).1
  refine ⟨⟨mapVariables, routines, licenseOf m, retainedVariable _ items⟩, ?_, hsofar.trans hlast⟩
  exact {
    maps := hmaps.imp fun d v hv => hv.mono hlater.nodes
    routines := htable ▸ hroutines
    license := rfl
    licensed := hlicensed
    retained := ⟨items, rfl, hitems⟩ }

/-- Where names differ, each leads to its global. -/
theorem find?_of_mem {m : IR.Module} (hnames : m.names.Nodup) {g : Global} (hg : g ∈ m.globals) :
    m.find? g.name = some g := by
  cases hfind : m.find? g.name with
  | none =>
    have hnone := List.find?_eq_none.mp hfind g hg
    simp at hnone
  | some g' =>
    have hname : g'.name = g.name := by simpa using List.find?_some hfind
    exact congrArg some
      (List.inj_on_of_nodup_map hnames (List.mem_of_find?_eq_some hfind) hg hname)

/-- A tree that compiles leaves the contents of its module and nothing else, under names that differ. -/
theorem tree_contents {path : String} {m : Syntax.Module} {maps : Table Operand} {out : Text}
    {w : Workspace}
    (h : exec (Compile.tree path m) (Compile.start path maps) = (.ok out, w)) :
    ∃ c, IsContentsOf m w.maps w.module c ∧ w.module.globals = c.globals ∧
      w.module.names.Nodup := by
  obtain ⟨w₁, hlower, hsign, -, -⟩ := tree_stages h
  have hsigned := sign_code.annotated.of_exec hsign
  have hstart := start_globals path maps
  obtain ⟨c, hc, hgains⟩ := lower_contents (by simp [IR.Module.names, hstart]) hlower
  have hglobals : w.module.globals = c.globals := by
    rw [hsigned.module.globals, hgains.globals, hstart, List.nil_append]
  refine ⟨c, ?_, hglobals, ?_⟩
  · rw [hsigned.maps]
    exact {
      maps := hc.maps.imp fun d v hv => hv.mono hsigned.module.nodes
      routines := hc.routines
      license := hc.license
      licensed := hc.licensed
      retained := hc.retained }
  · rw [IR.Module.names, hglobals]
    exact hgains.distinct

/-- Every mark but that of a program keeps its definition. -/
theorem retained_names (m : Syntax.Module) :
    Retained.names m = "LICENSE" :: m.topLevelFunctions.flatMap fun d =>
      (d.marks.filter (· ≠ .program)).map fun _ => d.name := by
  have hkeeps : Retained.keeps = fun mark => decide (mark ≠ .program) := by
    funext mark
    cases mark <;> rfl
  rw [Retained.names, hkeeps]

/-- The globals of the module of a source that compiles are, in this order and each under a name of its own:
the variable of every map; for every program a function of its name, with the format strings of the
function behind it; the licence, if the first definition for it consists of returning a text; and the list
of the retained symbols, which names the licence and then every definition at the top level once for each
mark that keeps it. -/
theorem source_globals_in_order {path : String} {text : List Char} {maps : Table Operand}
    {out : Text} {w : Workspace}
    (h : exec (Compile.source path text) (Compile.start path maps) = (.ok out, w)) :
    ∃ (m : Syntax.Module) (c : Contents),
      Syntax.Module.parse (Lexer.universalNewlines text) = .ok m ∧
      out = Compile.written path w.module ∧
      w.module.globals = c.globals ∧ w.module.names.Nodup ∧
      List.Forall₂ (fun d v => v.name = d.name ∧ v.sectionName = ".maps")
        (m.compiled.filter fun d => d.isMap) c.maps ∧
      List.Forall₂ (fun d r => r.fn.name = d.name ∧
          r.texts.map Variable.name = (List.range r.fn.formats).map (formatName d.name))
        m.programs c.routines ∧
      (c.license.isSome = true ↔ ∃ d text marked,
        m.topLevelFunctions.find? (fun d => d.name = "LICENSE" && d.isCompiled && d.isGlobal) = some d ∧
        d.body = [.ret (some (.const (.text text) marked))]) ∧
      (∀ v ∈ c.license, v.name = "LICENSE") ∧
      c.retained.name = "llvm.compiler.used" ∧
      ∃ items, c.retained.initializer = some (.references items) ∧
        items.map Operand.globalName? = ("LICENSE" :: m.topLevelFunctions.flatMap fun d =>
          (d.marks.filter (· ≠ .program)).map fun _ => d.name).map some := by
  obtain ⟨m, hparse, htree⟩ := source_tree h
  obtain ⟨-, -, -, -, hout⟩ := tree_stages htree
  obtain ⟨c, hc, hglobals, hdistinct⟩ := tree_contents htree
  obtain ⟨items, hretained, hitems⟩ := hc.retained
  refine ⟨m, c, hparse, hout, hglobals, hdistinct, hc.maps.imp ?_, hc.routines.imp ?_, ?_, ?_,
    by rw [hretained]; rfl, items, by rw [hretained]; rfl, retained_names m ▸ hitems⟩
  · rintro d v ⟨params, node, -, -, -, -, -, rfl⟩
    exact ⟨rfl, rfl⟩
  · exact fun d r hr => ⟨hr.name, hr.texts_names⟩
  · rw [hc.licensed, Option.isSome_iff_exists]
    constructor
    · rintro ⟨text, htext⟩
      obtain ⟨d, hd, hreturned⟩ := Option.bind_eq_some_iff.mp htext
      obtain ⟨marked, hbody⟩ := returnedText?_eq_some_iff.mp hreturned
      exact ⟨d, text, marked, hd, hbody⟩
    · rintro ⟨d, text, marked, hd, hbody⟩
      exact ⟨text, Option.bind_eq_some_iff.mpr ⟨d, hd, returnedText?_eq_some_iff.mpr ⟨marked, hbody⟩⟩⟩
  · intro v hv
    rw [hc.license, licenseOf, Option.mem_def, Option.bind_eq_some_iff] at hv
    obtain ⟨text, -, hbytes⟩ := hv
    obtain ⟨bytes, -, rfl⟩ := Option.map_eq_some_iff.mp hbytes
    rfl

/-- The licence first, then a program that prints twice, and the map last. -/
def scatteredSource : List Char :=
  ("@bpf\n@bpfglobal\ndef LICENSE():\n    return \"GPL\"\n" ++
    "@bpf\n@section(\"k\")\ndef f() -> c_int64:\n    print(\"a\")\n    print(\"b\")\n" ++
    "    return c_int64(0)\n@bpf\n@map\ndef m():\n    return HashMap()\n").toList

theorem scatteredSource_globals_in_order :
    ∃ (out : Text) (w : Workspace) (m : Syntax.Module) (c : Contents),
      exec (Compile.source "p.py" scatteredSource) (Compile.start "p.py" Table.empty) =
        (.ok out, w) ∧
      w.module.names = ["m", "f", "f____fmt0", "f____fmt1", "LICENSE", "llvm.compiler.used"] ∧
      Syntax.Module.parse (Lexer.universalNewlines scatteredSource) = .ok m ∧
      w.module.globals = c.globals ∧
      List.Forall₂ (fun d v => v.name = d.name ∧ v.sectionName = ".maps")
        (m.compiled.filter fun d => d.isMap) c.maps ∧
      List.Forall₂ (fun d r => r.fn.name = d.name ∧
          r.texts.map Variable.name = (List.range r.fn.formats).map (formatName d.name))
        m.programs c.routines := by
  have hrun :
      (exec (Compile.source "p.py" scatteredSource)
        (Compile.start "p.py" Table.empty)).1.isOk = true ∧
      (exec (Compile.source "p.py" scatteredSource)
        (Compile.start "p.py" Table.empty)).2.module.names =
          ["m", "f", "f____fmt0", "f____fmt1", "LICENSE", "llvm.compiler.used"] := by
    decide +kernel
  obtain ⟨out, w, hsource⟩ := exec_of_isOk hrun.1
  rw [hsource] at hrun
  obtain ⟨m, c, hparse, -, hglobals, -, hmaps, hroutines, -⟩ := source_globals_in_order hsource
  exact ⟨out, w, m, c, hsource, hrun.2, hparse, hglobals, hmaps, hroutines⟩

end BpfCompiler.Lower
