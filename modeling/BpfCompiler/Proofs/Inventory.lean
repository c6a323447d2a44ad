import BpfCompiler.Proofs.Dominance

/-!
# What a module holds

Every global that a compilation makes gets its name first, has content of its own, and refers to what is
there already: the code of a function to maps of the table and to the format strings that the function has
made.  `SelfContained` says this of a workspace whose table was empty at first, and `Provides` follows
the names of the globals through the stages of a compilation.
-/

namespace BpfCompiler.IR

def Operand.globalName? : Operand → Option String
  | .global name _ => some name
  | _ => none

/-- The names of the globals that a function refers to. -/
def Function.referred (fn : Function) : List String :=
  fn.blocks.flatMap fun b => b.insts.flatMap fun i => i.op.operands.filterMap Operand.globalName?

def Initializer.referred : Initializer → List String
  | .references items => items.filterMap Operand.globalName?
  | _ => []

namespace Global

def referred : Global → List String
  | .variable v => (v.initializer.map Initializer.referred).getD []
  | .function fn => fn.referred

/-- A global that has content of its own is defined, any other one is only declared. -/
def isDefined : Global → Bool
  | .variable v => v.initializer.isSome
  | .function fn => !fn.blocks.isEmpty

end Global

/-- The names of the globals, in order. -/
def Module.names (m : Module) : List String := m.globals.map Global.name

end BpfCompiler.IR

namespace BpfCompiler.Lower

open IR Syntax Emit

/-! ### Globals that are added -/

/-- The module has got the given globals behind those that it had, under names that were free and are taken
now.  Nodes have only been added. -/
structure Gains (added : List Global) (w w' : Workspace) : Prop where
  globals : w'.module.globals = w.module.globals ++ added
  fresh : ∀ g ∈ added, g.name ∉ w.module.scope.used
  distinct : (added.map Global.name).Nodup
  taken : ∀ g ∈ added, g.name ∈ w'.module.scope.used
  used : w.module.scope.used ⊆ w'.module.scope.used
  nodes : w.module.nodes <+: w'.module.nodes

namespace Gains

theorem of_annotated {w w' : Workspace} (h : w.module.Annotated w'.module) : Gains [] w w' where
  globals := by rw [h.globals, List.append_nil]
  fresh := by simp
  distinct := List.nodup_nil
  taken := by simp
  used := h.used
  nodes := h.nodes

theorem trans {w w₁ w₂ : Workspace} {first second : List Global} (h : Gains first w w₁)
    (h' : Gains second w₁ w₂) : Gains (first ++ second) w w₂ where
  globals := by rw [h'.globals, h.globals, List.append_assoc]
  fresh := fun g hg => (List.mem_append.mp hg).elim (h.fresh g) fun hsecond hold =>
    h'.fresh g hsecond (h.used hold)
  distinct := by
    rw [List.map_append, List.nodup_append']
    refine ⟨h.distinct, h'.distinct, fun name hfirst hsecond => ?_⟩
    -- a name of the second part was free when those of the first part were taken
    obtain ⟨g, hg, rfl⟩ := List.mem_map.mp hfirst
    obtain ⟨g', hg', hname⟩ := List.mem_map.mp hsecond
    exact h'.fresh g' hg' (hname ▸ h.taken g hg)
  taken := fun g hg => (List.mem_append.mp hg).elim (fun hfirst => h'.used (h.taken g hfirst))
    (h'.taken g)
  used := List.Subset.trans h.used h'.used
  nodes := h.nodes.trans h'.nodes

theorem names {w w' : Workspace} {added : List Global} (h : Gains added w w') :
    w'.module.names = w.module.names ++ added.map Global.name := by
  rw [IR.Module.names, h.globals, List.map_append]
  rfl

/-- If the names of all globals were taken before, they are taken now. -/
theorem names_taken {w w' : Workspace} {added : List Global} (h : Gains added w w')
    (hw : w.module.names ⊆ w.module.scope.used) : w'.module.names ⊆ w'.module.scope.used := by
  rw [h.names]
  refine List.append_subset.mpr ⟨List.Subset.trans hw h.used, fun name hname => ?_⟩
  obtain ⟨g, hg, rfl⟩ := List.mem_map.mp hname
  exact h.taken g hg

end Gains

/-! ### Format strings -/

/-- Between the two frames the function has made the variables of some texts, with the next numbers. -/
structure Prints (f f' : Frame) (texts : List Variable) : Prop
    extends Gains (texts.map Global.variable) f.workspace f'.workspace where
  name : f'.fn.name = f.fn.name
  formats : f'.fn.formats = f.fn.formats + texts.length
  names : texts.map Variable.name =
    (List.range' f.fn.formats texts.length).map (formatName f.fn.name)
  content : ∀ v ∈ texts, ∃ data, v.initializer = some (.bytes data)
  unmarked : ∀ v ∈ texts, v.debug = none

namespace Prints

theorem nothing {f f' : Frame} (hmodule : f'.workspace.module = f.workspace.module)
    (hname : f'.fn.name = f.fn.name) (hformats : f'.fn.formats = f.fn.formats) :
    Prints f f' [] where
  toGains := .of_annotated (hmodule ▸ .refl _)
  name := hname
  formats := hformats
  names := rfl
  content := by simp
  unmarked := by simp

theorem trans {f f₁ f₂ : Frame} {first second : List Variable} (h : Prints f f₁ first)
    (h' : Prints f₁ f₂ second) : Prints f f₂ (first ++ second) where
  toGains := by
    rw [List.map_append]
    exact h.toGains.trans h'.toGains
  name := h'.name.trans h.name
  formats := by rw [h'.formats, h.formats, List.length_append, Nat.add_assoc]
  names := by
    rw [List.map_append, h.names, h'.names, h.name, h.formats, List.length_append, ← List.map_append,
      List.range'_append_1]
  content := fun v hv => (List.mem_append.mp hv).elim (h.content v) (h'.content v)
  unmarked := fun v hv => (List.mem_append.mp hv).elim (h.unmarked v) (h'.unmarked v)

end Prints

def PrintLine (f f' : Frame) : Prop := ∃ texts, Prints f f' texts

instance : Std.Refl PrintLine := ⟨fun _ => ⟨[], .nothing rfl rfl rfl⟩⟩

instance : IsTrans Frame PrintLine :=
  ⟨fun _ _ _ ⟨first, hfirst⟩ ⟨second, hsecond⟩ => ⟨first ++ second, hfirst.trans hsecond⟩⟩

theorem formatGlobal_prints (text : Text) : Ensures PrintLine (formatGlobal text) := by
  refine fun f => .of_ok fun global f' h => ?_
  obtain ⟨scope, data, -, hscope, -, rfl⟩ := formatGlobal_inv h
  obtain ⟨hfree, hused⟩ := NameScope.claim?_inv hscope
  refine ⟨[textVariable (formatName f.fn.name f.fn.formats) (text ++ "\n\x00") (some data)], ?_⟩
  exact {
    globals := rfl
    fresh := by simpa [Global.name, textVariable] using hfree
    distinct := List.nodup_singleton _
    taken := by simp [Frame.withText, hused, Global.name, textVariable]
    used := by simp [Frame.withText, hused]
    nodes := List.prefix_rfl
    name := rfl
    formats := rfl
    names := rfl
    content := by simp [textVariable]
    unmarked := by simp [textVariable] }

theorem FrameStep.prints {stored : String → Prop} {prints : Prop} {α : Type} {m : Emit α}
    (h : FrameStep stored prints α m) : Ensures PrintLine m := by
  refine h.of_texts (P := fun _ m => Ensures PrintLine m) ?_ fun _ => formatGlobal_prints
  intro _ _ hsame
  exact (Ensures.of_preserves hsame).weaken fun _ _ h => ⟨[], .nothing h.module h.name h.formats⟩

theorem functionBody_prints (result : Ty) (body : List Stmt) :
    Ensures PrintLine (functionBody result body) := by
  have hcode : BodyCode (fun _ => True) (fun _ => True) True (functionBody result body) :=
    functionBody_code result fun _ _ => trivial
  exact hcode.ensures FrameStep.prints

/-! ### Workspaces -/

/-- All globals are defined, under names that are taken, and neither they nor the table of maps refer to
anything else. -/
structure SelfContained (w : Workspace) : Prop where
  taken : w.module.names ⊆ w.module.scope.used
  defined : ∀ g ∈ w.module.globals, g.isDefined = true
  maps : ∀ name o, w.maps.get? name = some o → ∃ ty, o = .global name ty ∧ name ∈ w.module.names
  closed : ∀ g ∈ w.module.globals, ∀ name ∈ g.referred, name ∈ w.module.names

theorem SelfContained.append {w w' : Workspace} {added : List Global} (h : SelfContained w)
    (hgains : Gains added w w') (hmaps : w'.maps = w.maps)
    (hdefined : ∀ g ∈ added, g.isDefined = true)
    (hclosed : ∀ g ∈ added, ∀ name ∈ g.referred, name ∈ w'.module.names) : SelfContained w' := by
  have hsub : w.module.names ⊆ w'.module.names := by
    rw [hgains.names]
    exact List.subset_append_left _ _
  constructor
  · exact hgains.names_taken h.taken
  · rw [hgains.globals]
    exact fun g hg => (List.mem_append.mp hg).elim (h.defined g) (hdefined g)
  · intro name o ho
    rw [hmaps] at ho
    obtain ⟨ty, hty, hname⟩ := h.maps name o ho
    exact ⟨ty, hty, hsub hname⟩
  · rw [hgains.globals]
    intro g hg name hname
    rcases List.mem_append.mp hg with hold | hnew
    · exact hsub (h.closed g hold name hname)
    · exact hclosed g hnew name hname

/-- The module has got globals of the given names, and what was self-contained still is. -/
structure Provides (names : List String) (w w' : Workspace) : Prop where
  names : w'.module.names = w.module.names ++ names
  contained : SelfContained w → SelfContained w'

namespace Provides

theorem trans {first second : List String} {w w₁ w₂ : Workspace} (h : Provides first w w₁)
    (h' : Provides second w₁ w₂) : Provides (first ++ second) w w₂ where
  names := by rw [h'.names, h.names, List.append_assoc]
  contained := fun hw => h'.contained (h.contained hw)

theorem of_annotated {w w' : Workspace} (h : w.Annotated w') : Provides [] w w' where
  names := (Gains.of_annotated h.module).names
  contained := fun hw => hw.append (.of_annotated h.module) h.maps (by simp) (by simp)

theorem refl (w : Workspace) : Provides [] w w := .of_annotated (refl_of Workspace.Annotated w)

end Provides

theorem Composed.provides {α : Type} {m : Build α} (h : NodeCode m) {w w' : Workspace}
    {outcome : Except Fault α} (hexec : exec m w = (outcome, w')) : Provides [] w w' :=
  .of_annotated (h.annotated.of_exec hexec)

theorem claim_inv {name : String} {w w' : Workspace}
    (h : exec (Build.claim name) w = (.ok (), w')) :
    ∃ scope, w.module.scope.claim? name = some scope ∧
      w' = { w with module := { w.module with scope := scope } } := by
  rw [Build.claim, exec_bind_ok (exec_get w)] at h
  cases hscope : w.module.scope.claim? name with
  | none =>
    rw [hscope] at h
    exact exec_throw_inv h
  | some scope =>
    rw [hscope] at h
    exact ⟨scope, rfl, (Prod.mk.inj h).2.symm⟩

theorem claim_add_inv {name : String} {g : Global} {w w₁ w₂ : Workspace}
    (hclaim : exec (Build.claim name) w = (.ok (), w₁))
    (hadd : exec (Build.addGlobal g) w₁ = (.ok (), w₂)) :
    name ∉ w.module.scope.used ∧ w₂.module.globals = w.module.globals ++ [g] ∧ w₂.maps = w.maps ∧
      w₂.module.scope.used = name :: w.module.scope.used := by
  obtain ⟨scope, hscope, rfl⟩ := claim_inv hclaim
  obtain ⟨hfree, hused⟩ := NameScope.claim?_inv hscope
  obtain rfl := (Prod.mk.inj hadd).2
  exact ⟨hfree, rfl, rfl, hused⟩

/-- A global that is added gets its name first. -/
theorem Gains.add {g : Global} {w w₁ w₂ : Workspace}
    (hclaim : exec (Build.claim g.name) w = (.ok (), w₁))
    (hadd : exec (Build.addGlobal g) w₁ = (.ok (), w₂)) : Gains [g] w w₂ := by
  obtain ⟨scope, hscope, rfl⟩ := claim_inv hclaim
  obtain ⟨hfree, hused⟩ := NameScope.claim?_inv hscope
  obtain rfl := (Prod.mk.inj hadd).2
  exact {
    globals := rfl
    fresh := by simpa using hfree
    distinct := List.nodup_singleton _
    taken := by simp [hused]
    used := by simp [hused]
    nodes := List.prefix_rfl }

/-- A variable with content that refers to nothing. -/
theorem Provides.variable {v : Variable} {w w₁ w₂ : Workspace}
    (hclaim : exec (Build.claim v.name) w = (.ok (), w₁))
    (hadd : exec (Build.addGlobal (.variable v)) w₁ = (.ok (), w₂))
    (hcontent : v.initializer.isSome = true) (hreferred : (Global.variable v).referred = []) :
    Provides [v.name] w w₂ := by
  have hgains : Gains [.variable v] w w₂ := .add hclaim hadd
  obtain ⟨-, -, hmaps, -⟩ := claim_add_inv hclaim hadd
  refine ⟨hgains.names, fun hw => hw.append hgains hmaps ?_ ?_⟩
  · simpa [Global.isDefined] using hcontent
  · simp [hreferred]

/-! ### Maps -/

theorem attach_names (name : String) (node : Nat) (globals : List Global) :
    (Map.attach name node globals).map Global.name = globals.map Global.name := by
  rw [Map.attach, List.map_map]
  refine List.map_congr_left fun g _ => ?_
  rcases g with v | fn
  · by_cases hv : v.name = name <;> simp [hv, Global.name]
  · rfl

theorem attach_inv {name : String} {node : Nat} {globals : List Global} {g' : Global}
    (h : g' ∈ Map.attach name node globals) :
    ∃ g ∈ globals, g'.isDefined = g.isDefined ∧ g'.referred = g.referred := by
  obtain ⟨g, hg, rfl⟩ := List.mem_map.mp h
  refine ⟨g, hg, ?_⟩
  rcases g with v | fn
  · by_cases hv : v.name = name <;> simp [hv, Global.isDefined, Global.referred]
  · exact ⟨rfl, rfl⟩

theorem attachNode_provides {name : String} {node : Nat} {w w' : Workspace}
    (h : exec (attachNode name node) w = (.ok (), w')) : Provides [] w w' := by
  obtain ⟨hglobals, hmaps, hscope⟩ : w'.module.globals = Map.attach name node w.module.globals ∧
      w'.maps = w.maps ∧ w'.module.scope = w.module.scope := by
    obtain rfl := (Prod.mk.inj h).2
    exact ⟨rfl, rfl, rfl⟩
  have hnames : w'.module.names = w.module.names := by
    rw [IR.Module.names, hglobals, attach_names]
    rfl
  refine ⟨by rw [hnames, List.append_nil], fun hw => ?_⟩
  constructor
  · rw [hnames, hscope]
    exact hw.taken
  · rw [hglobals]
    intro g' hg'
    obtain ⟨g, hg, hdefined, -⟩ := attach_inv hg'
    exact hdefined.trans (hw.defined g hg)
  · rw [hmaps, hnames]
    exact hw.maps
  · rw [hglobals, hnames]
    intro g' hg'
    obtain ⟨g, hg, -, hreferred⟩ := attach_inv hg'
    rw [hreferred]
    exact hw.closed g hg

theorem describeVariable_provides {name : String} {params : Map.Params} {w w' : Workspace}
    (h : exec (describeVariable name params) w = (.ok (), w')) : Provides [name] w w' := by
  rw [describeVariable] at h
  obtain ⟨⟨⟩, w₁, hclaim, htail⟩ := exec_bind_inv h
  obtain ⟨⟨⟩, w₂, hadd, htail⟩ := exec_bind_inv htail
  obtain ⟨node, w₃, hdebug, htail⟩ := exec_bind_inv htail
  obtain ⟨⟨⟩, w₄, hattach, hsay⟩ := exec_bind_inv htail
  have hvariable : Provides [name] w w₂ :=
    Provides.variable (v := Map.mapVariable name params) hclaim hadd rfl rfl
  have hrest : Provides [] w₂ w' :=
    ((debugInfo_code name params).provides hdebug).trans
      ((attachNode_provides hattach).trans
        ((build_say_code _).provides hsay))
  simpa using hvariable.trans hrest

theorem Defines.provides {name : String} {made : Option Map.Params} {m : Build Unit}
    (h : Defines name made m) {w w' : Workspace} (hexec : exec m w = (.ok (), w')) :
    Provides [name] w w' := by
  induction h generalizing w with
  | say line hrest ih =>
    obtain ⟨⟨⟩, w₁, hsay, htail⟩ := exec_bind_inv hexec
    exact ((build_say_code line).provides hsay).trans (ih htail)
  | fail fault => exact exec_throw_inv hexec
  | create params =>
    obtain ⟨⟨⟩, w₁, hdescribe, henter⟩ := exec_bind_inv hexec
    obtain rfl := (Prod.mk.inj henter).2
    have hprovides := describeVariable_provides hdescribe
    have hname : name ∈ w₁.module.names := by simp [hprovides.names]
    refine ⟨hprovides.names, fun hw => ?_⟩
    have hw₁ := hprovides.contained hw
    refine ⟨hw₁.taken, hw₁.defined, fun other o ho => ?_, hw₁.closed⟩
    change (w₁.maps.insert name (mapAddress name params)).get? other = some o at ho
    rw [Table.get?_insert] at ho
    split at ho
    · rename_i heq
      obtain rfl := Option.some.inj ho
      subst heq
      exact ⟨_, rfl, hname⟩
    · exact hw₁.maps other o ho

theorem forM_define_provides {maps : List Syntax.Function} {w w' : Workspace}
    (h : exec (maps.forM Map.define) w = (.ok (), w')) :
    Provides (maps.map fun d => d.name) w w' := by
  induction maps generalizing w with
  | nil =>
    obtain ⟨-, rfl⟩ := exec_pure_inv h
    exact .refl _
  | cons d rest ih =>
    obtain ⟨⟨⟩, w₁, hfirst, hrest⟩ := exec_bind_inv h
    exact ((define_defines d).provides hfirst).trans (ih hrest)

/-! ### Programs -/

/-- The names that a function takes in the module: its own and those of its format strings. -/
def symbolsOf (fn : IR.Function) : List String :=
  fn.name :: (List.range fn.formats).map (formatName fn.name)

/-- A global that an operand names is a map or a global of the module. -/
theorem Origin.globalName_mem {f : Frame} {before : List Inst} {o : Operand} {name : String}
    (h : Origin f before o) (hname : o.globalName? = some name)
    (hmaps : ∀ x o, f.workspace.maps.get? x = some o →
      ∃ ty, o = .global x ty ∧ x ∈ f.workspace.module.names) :
    name ∈ f.workspace.module.names := by
  cases h with
  | const | result | slot => cases hname
  | @map x _ ho =>
    obtain ⟨ty, rfl, hx⟩ := hmaps x _ ho
    obtain rfl := Option.some.inj hname
    exact hx
  | text hv =>
    obtain rfl := Option.some.inj hname
    exact List.mem_map.mpr ⟨_, hv, rfl⟩

theorem Assembled.referred_mem {f : Frame} (h : Assembled f)
    (hmaps : ∀ x o, f.workspace.maps.get? x = some o →
      ∃ ty, o = .global x ty ∧ x ∈ f.workspace.module.names) {name : String}
    (hname : name ∈ f.fn.referred) : name ∈ f.workspace.module.names := by
  simp only [IR.Function.referred, List.mem_flatMap, List.mem_filterMap] at hname
  obtain ⟨b, hb, i, hi, o, ho, hname⟩ := hname
  obtain ⟨k, hk⟩ := List.getElem?_of_mem hi
  exact (((h b hb).of_getElem? hk).origin o ho).globalName_mem hname hmaps

theorem Prints.names_all {w : Workspace} {d : Syntax.Function} {result : Ty} {f : Frame}
    {texts : List Variable} (h : Prints (programStart w d result) f texts) :
    (.function f.fn :: texts.map Global.variable).map Global.name = symbolsOf f.fn := by
  have hnames : (texts.map Global.variable).map Global.name = texts.map Variable.name := by
    rw [List.map_map]
    rfl
  have hformats : f.fn.formats = texts.length := by
    rw [h.formats]
    exact Nat.zero_add _
  rw [List.map_cons, hnames, h.names, symbolsOf, hformats, List.range_eq_range', ← h.name]
  rfl

theorem Builds.blocks_ne_nil {w : Workspace} {d : Syntax.Function} {result : Ty} {f : Frame}
    {parts : List (Stmt × List Inst)}
    (h : Builds result d.body (programStart w d result) parts f) : f.fn.blocks ≠ [] := by
  obtain ⟨f₁, slots, g, hslots, hlowers, hgrown⟩ := h.stages
  have hin := (hlowers.grown.trans hgrown).inRange
    (hslots.inRange (programStart_inRange w d result))
  exact List.ne_nil_of_length_pos (Nat.zero_lt_of_lt hin)

/-- A program that is built adds its function to the module, with its texts behind it. -/
theorem buildProgram_gains {d : Syntax.Function} {result : Ty} {w w' : Workspace}
    (h : exec (buildProgram d result) w = (.ok (), w')) :
    ∃ (w₁ : Workspace) (f : Frame) (texts : List Variable),
      w₁.maps = w.maps ∧ w₁.module.globals = w.module.globals ∧
      exec (functionBody result d.body) (programStart w₁ d result) = (.ok (), f) ∧
      w' = f.finish ∧ Prints (programStart w₁ d result) f texts ∧
      Gains (.function f.fn :: texts.map Global.variable) w w' := by
  obtain ⟨scope, f, hscope, hbody, rfl⟩ := buildFunction_inv h
  obtain ⟨hfree, hused⟩ := NameScope.claim?_inv hscope
  obtain ⟨parts, hbuilds⟩ := functionBody_inv hbody (programStart_inRange _ d result)
  obtain ⟨texts, hprints⟩ := (functionBody_prints result d.body _).ok hbody
  have hglobals : f.finish.module.globals =
      w.module.globals ++ .function f.fn :: texts.map Global.variable :=
    Frame.finish_globals hprints.globals hbuilds.sameContext.position
  have hname : (Global.function f.fn).name = d.name := hprints.name
  have hscoped : d.name :: w.module.scope.used ⊆ f.workspace.module.scope.used := by
    rw [← show scope.used = d.name :: w.module.scope.used from hused]
    exact hprints.used
  have hfresh : ∀ g ∈ texts.map Global.variable, g.name ∉ d.name :: w.module.scope.used := by
    rw [← show scope.used = d.name :: w.module.scope.used from hused]
    exact hprints.fresh
  rw [List.cons_subset] at hscoped
  refine ⟨{ w with module := { w.module with scope := scope } }, f, texts, rfl, rfl, hbody, rfl,
    hprints, hglobals, ?_, ?_, ?_, hscoped.2, hprints.nodes⟩
  · refine List.forall_mem_cons.mpr ⟨hname.symm ▸ hfree, fun g hg hold => ?_⟩
    exact hfresh g hg (List.mem_cons_of_mem _ hold)
  · rw [List.map_cons, List.nodup_cons]
    refine ⟨fun hmem => ?_, hprints.distinct⟩
    obtain ⟨g, hg, hsame⟩ := List.mem_map.mp hmem
    refine hfresh g hg ?_
    rw [hsame, hname]
    exact List.mem_cons_self
  · exact List.forall_mem_cons.mpr ⟨hname.symm ▸ hscoped.1, hprints.taken⟩

theorem buildProgram_provides {d : Syntax.Function} {result : Ty} {w w' : Workspace}
    (h : exec (buildProgram d result) w = (.ok (), w')) :
    ∃ fn, w'.module.functions = w.module.functions ++ [fn] ∧ Provides (symbolsOf fn) w w' := by
  obtain ⟨w₁, f, texts, hmaps₁, hglobals₁, hbody, rfl, hprints, hgains⟩ := buildProgram_gains h
  obtain ⟨parts, hbuilds⟩ := functionBody_inv hbody (programStart_inRange _ d result)
  have hbefore : f.workspace.module.globals = w.module.globals ++ texts.map Global.variable :=
    hglobals₁ ▸ hprints.globals
  have hmaps : f.workspace.maps = w.maps := hbuilds.sameContext.maps.trans hmaps₁
  have hkept : w.module.names ⊆ f.workspace.module.names := by
    simp [IR.Module.names, hbefore]
  have hfinal : f.workspace.module.names ⊆ f.finish.module.names := by
    simp [IR.Module.names, hbefore, hgains.globals]
  refine ⟨f.fn, ?_, ?_, fun hw => ?_⟩
  · rw [IR.Module.functions, hgains.globals, functions_added]
    rfl
  · rw [hgains.names, hprints.names_all]
  · apply hw.append hgains hmaps
    · refine List.forall_mem_cons.mpr ⟨?_, List.forall_mem_map.mpr fun v hv => ?_⟩
      · simpa [Global.isDefined] using hbuilds.blocks_ne_nil
      · obtain ⟨data, hdata⟩ := hprints.content v hv
        simp [Global.isDefined, hdata]
    · refine List.forall_mem_cons.mpr ⟨fun name hname => ?_, List.forall_mem_map.mpr fun v hv => ?_⟩
      · -- the code names maps, which were there before, and texts, which stand behind the function
        refine hfinal (hbuilds.assembled.referred_mem (fun x o ho => ?_) hname)
        rw [hmaps] at ho
        obtain ⟨ty, hty, hx⟩ := hw.maps x o ho
        exact ⟨ty, hty, hkept hx⟩
      · obtain ⟨data, hdata⟩ := hprints.content v hv
        simp [Global.referred, hdata, Initializer.referred]

theorem lowerProgram_provides {d : Syntax.Function} {w w' : Workspace}
    (h : exec (lowerProgram d) w = (.ok (), w')) :
    ∃ fn, w'.module.functions = w.module.functions ++ [fn] ∧ Provides (symbolsOf fn) w w' := by
  rw [lowerProgram] at h
  obtain ⟨⟨⟩, w₁, hsay, htail⟩ := exec_bind_inv h
  have hsaid : Provides [] w w₁ := (build_say_code _).provides hsay
  have hsame := ((build_say_code _).moduleCode.quiet.of_exec hsay).functions
  obtain ⟨result, w₂, hlift, hbuild⟩ := exec_bind_inv htail
  obtain ⟨-, rfl⟩ := exec_lift_inv hlift
  obtain ⟨fn, hfunctions, hprovides⟩ := buildProgram_provides hbuild
  exact ⟨fn, by rw [hfunctions, hsame], hsaid.trans hprovides⟩

theorem forM_lowerProgram_provides {programs : List Syntax.Function} {w w' : Workspace}
    (h : exec (programs.forM lowerProgram) w = (.ok (), w')) :
    ∃ new, w'.module.functions = w.module.functions ++ new ∧
      Provides (new.flatMap symbolsOf) w w' := by
  induction programs generalizing w with
  | nil =>
    obtain ⟨-, rfl⟩ := exec_pure_inv h
    exact ⟨[], (List.append_nil _).symm, .refl _⟩
  | cons d rest ih =>
    obtain ⟨⟨⟩, w₁, hfirst, hrest⟩ := exec_bind_inv h
    obtain ⟨fn, hfunctions, hprovides⟩ := lowerProgram_provides hfirst
    obtain ⟨new, hfunctions', hprovides'⟩ := ih hrest
    refine ⟨fn :: new, ?_, hprovides.trans hprovides'⟩
    rw [hfunctions', hfunctions, List.append_assoc]
    rfl

end BpfCompiler.Lower
