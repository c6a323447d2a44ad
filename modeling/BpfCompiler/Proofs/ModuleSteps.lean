import BpfCompiler.Compile
import BpfCompiler.Proofs.Composition
import BpfCompiler.Proofs.NameScope

/-!
# Steps on the module

What a compilation does to the module outside of functions is put together from a few steps: it logs a
line, adds metadata, takes a name, adds a variable, or marks a variable with its debug information.  None of
them looks at the table of maps or at the log, so they run alike in workspaces with the same module.  The
debug information of a map and the flags of a module use the first two only, and these leave the globals
alone.
-/

namespace BpfCompiler.IR.Module

/-- The globals are the same, a name that was taken stays taken, and nodes have only been added. -/
structure Annotated (m m' : Module) : Prop where
  globals : m'.globals = m.globals
  used : m.scope.used ⊆ m'.scope.used
  nodes : m.nodes <+: m'.nodes

namespace Annotated

theorem refl (m : Module) : m.Annotated m := ⟨rfl, List.Subset.refl _, List.prefix_rfl⟩

theorem trans {m m₁ m₂ : Module} (h : m.Annotated m₁) (h' : m₁.Annotated m₂) : m.Annotated m₂ :=
  ⟨h'.globals.trans h.globals, List.Subset.trans h.used h'.used, h.nodes.trans h'.nodes⟩

end Annotated

theorem takeTextName_annotated (m : Module) : m.Annotated m.takeTextName :=
  ⟨rfl, m.scope.used_subset_fresh "", List.prefix_rfl⟩

theorem addNode_annotated (m : Module) (node : Node) : m.Annotated (m.addNode node).2 := by
  unfold addNode
  split
  · exact .refl m
  · exact ⟨rfl, m.scope.used_subset_fresh _, List.prefix_append _ _⟩

theorem addRecord_annotated (m : Module) (kind : String) (distinct : Bool)
    (fields : List (String × Field)) : m.Annotated (m.addRecord kind distinct fields).2 :=
  m.addNode_annotated _

theorem addList_annotated (m : Module) (entries : List Entry) :
    m.Annotated (m.addList entries).2 := by
  have hfold : ∀ (step : Module → Entry → Module), (∀ (m : Module) e, m.Annotated (step m e)) →
      ∀ m : Module, m.Annotated (entries.foldl step m) := by
    intro step hstep
    induction entries with
    | nil => exact Annotated.refl
    | cons e rest ih => exact fun m => (hstep m e).trans (ih _)
  refine (hfold _ (fun m e => ?_) m).trans (addNode_annotated _ _)
  split
  · exact m.takeTextName_annotated
  · exact .refl m

theorem addNamed_annotated (m : Module) (name : String) (id : Nat) :
    m.Annotated (m.addNamed name id) := ⟨rfl, List.Subset.refl _, List.prefix_rfl⟩

end BpfCompiler.IR.Module

namespace BpfCompiler.Map

/-- The parameters that a definition gives its map: it is a hash map unless it says otherwise. -/
def params? (d : Syntax.Function) : Option Params :=
  match firstReturn? d.body with
  | some (some (.call (.name "PerfEventArray") args keywords)) => some (.ofPerfCall args keywords)
  | some (some (.call (.name _) args keywords)) => some (.ofHashCall args keywords)
  | _ => none

end BpfCompiler.Map

namespace BpfCompiler.Lower

open IR Syntax

/-- Two workspaces that differ in their maps and their logs at most. -/
structure Workspace.SameModule (w v : Workspace) : Prop where
  module : v.module = w.module
  fileNode : v.fileNode = w.fileNode
  unitNode : v.unitNode = w.unitNode

/-- The steps that log or add metadata. -/
inductive NodeStep : (α : Type) → Build α → Prop
  | say (line : Text) : NodeStep Unit (Build.say line)
  | onModule {α : Type} {change : IR.Module → α × IR.Module}
      (hchange : ∀ m : IR.Module, m.Annotated (change m).2) : NodeStep α (Build.onModule change)

/-- The step that marks a variable with its debug information. -/
def attachNode (name : String) (node : Nat) : Build Unit :=
  modify fun w =>
    { w with module := { w.module with globals := Map.attach name node w.module.globals } }

/-- The steps on the module that make no function. -/
inductive ModuleStep : (α : Type) → Build α → Prop
  | node {α : Type} {m : Build α} (h : NodeStep α m) : ModuleStep α m
  | claim (name : String) : ModuleStep Unit (Build.claim name)
  | addVariable (v : Variable) : ModuleStep Unit (Build.addGlobal (.variable v))
  | attach (name : String) (node : Nat) : ModuleStep Unit (attachNode name node)

abbrev NodeCode {α : Type} (m : Build α) : Prop := Composed NodeStep Workspace.SameModule m

abbrev ModuleCode {α : Type} (m : Build α) : Prop := Composed ModuleStep Workspace.SameModule m

/-- Only metadata was added, and lines to the log. -/
structure Workspace.Annotated (w w' : Workspace) : Prop where
  module : w.module.Annotated w'.module
  maps : w'.maps = w.maps

instance : Std.Refl Workspace.Annotated := ⟨fun w => ⟨.refl w.module, rfl⟩⟩

instance : IsTrans Workspace Workspace.Annotated :=
  ⟨fun _ _ _ h h' => ⟨h.module.trans h'.module, h'.maps.trans h.maps⟩⟩

theorem NodeStep.annotated {α : Type} {m : Build α} (h : NodeStep α m) :
    Preserves Workspace.Annotated m := by
  cases h with
  | say line => exact fun w => ⟨.refl w.module, rfl⟩
  | onModule hchange => exact fun w => ⟨hchange w.module, rfl⟩

theorem Composed.annotated {α : Type} {m : Build α} (h : NodeCode m) :
    Preserves Workspace.Annotated m :=
  h.preserves NodeStep.annotated

theorem Composed.moduleCode {α : Type} {m : Build α} (h : NodeCode m) : ModuleCode m :=
  h.of_basic fun hstep => .basic (.node hstep)

/-! ### Two workspaces at once -/

/-- The relation ties workspaces with the same module, and stays when both change it to the same one or log
the same line. -/
structure Workspace.Congruence (R : Workspace → Workspace → Prop) : Prop where
  sameModule : ∀ {w v : Workspace}, R w v → w.SameModule v
  change : ∀ {w v : Workspace}, R w v → ∀ {m m' : IR.Module}, m' = m →
    R { w with module := m } { v with module := m' }
  say : ∀ line, RunsAlike R (Build.say line)

section Congruence

variable {R : Workspace → Workspace → Prop}

theorem Workspace.Congruence.onModule (hR : Workspace.Congruence R) {α : Type}
    (change : IR.Module → α × IR.Module) : RunsAlike R (Build.onModule change) := by
  intro w v h
  have hmodule := (hR.sameModule h).module
  constructor
  · change Except.ok (change w.module).1 = Except.ok (change v.module).1
    rw [hmodule]
  · exact hR.change h (by rw [hmodule])

theorem ModuleStep.runsAlike (hR : Workspace.Congruence R) {α : Type} {m : Build α}
    (h : ModuleStep α m) : RunsAlike R m := by
  cases h with
  | node h =>
    cases h with
    | say line => exact hR.say line
    | onModule hchange => exact hR.onModule _
  | claim name =>
    refine RunsAlike.read (fun w => ?_) fun w v h => by simp only [(hR.sameModule h).module]
    split
    · exact RunsAlike.modify fun w v h => hR.change h (by rw [(hR.sameModule h).module])
    · exact RunsAlike.throw _
  | addVariable _ | attach _ _ =>
    exact RunsAlike.modify fun w v h => hR.change h (by rw [(hR.sameModule h).module])

theorem Composed.congruent (hR : Workspace.Congruence R) {α : Type} {m : Build α} (h : ModuleCode m) :
    RunsAlike R m :=
  h.runsAlike hR.sameModule (ModuleStep.runsAlike hR)

end Congruence

theorem build_say_code (line : Text) : NodeCode (Build.say line) := .basic (.say line)

theorem claim_code (name : String) : ModuleCode (Build.claim name) := .basic (.claim name)

theorem addVariable_code (v : Variable) : ModuleCode (Build.addGlobal (.variable v)) :=
  .basic (.addVariable v)

/-! ### Debug information -/

theorem record_code (kind : String) (fields : List (String × Field)) :
    NodeCode (Map.record kind fields) :=
  .basic (.onModule fun m => m.addRecord_annotated _ _ _)

theorem distinctRecord_code (kind : String) (fields : List (String × Field)) :
    NodeCode (Map.distinctRecord kind fields) :=
  .basic (.onModule fun m => m.addRecord_annotated _ _ _)

theorem listNode_code (entries : List Entry) : NodeCode (Map.listNode entries) :=
  .basic (.onModule fun m => m.addNode_annotated _)

theorem takeTextName_code : NodeCode Map.takeTextName :=
  .basic (.onModule fun m => m.takeTextName_annotated)

theorem entryOf_code :
    (∀ d : Datum, NodeCode (Map.entryOf d)) ∧
    ∀ items : List Datum, NodeCode (Map.entriesOf items) := by
  apply Map.entryOf.mutual_induct
  · intro items ih
    rw [Map.entryOf]
    refine .bind ih fun entries => ?_
    split
    · exact .bind (.throw _ rfl) fun _ => .bind (listNode_code _) fun _ => .pure _
    · exact .bind (listNode_code _) fun _ => .pure _
  · intro t
    rw [Map.entryOf]
    exact .bind takeTextName_code fun _ => .pure _
  · intro d hlist htext
    rw [Map.entryOf]
    · exact .pure _
    · exact hlist
    · exact htext
  · rw [Map.entriesOf]
    exact .pure _
  · intro d rest ihd ihrest
    rw [Map.entriesOf]
    exact .bind ihd fun _ => .bind ihrest fun _ => .pure _

theorem fieldOf_code (d : Datum) : NodeCode (Map.fieldOf d) := by
  unfold Map.fieldOf
  split
  · refine .bind (entryOf_code.1 _) fun e => ?_
    split <;> exact .pure _
  · exact .throw _ rfl
  · exact .pure _

theorem arrayType_code (base : Nat) (count : Datum) : NodeCode (Map.arrayType base count) :=
  .bind (fieldOf_code count) fun _ => .bind (record_code _ _) fun _ =>
    .bind (listNode_code _) fun _ => record_code _ _

theorem member_code (name : Text) (type index : Nat) : NodeCode (Map.member name type index) :=
  .read (fun _ => record_code _ _) fun w v h => by simp only [h.fileNode]

theorem members_code (types : Map.MemberTypes) (index : Nat) (names : List Text) :
    NodeCode (Map.members types index names) := by
  induction names generalizing index with
  | nil => exact .pure _
  | cons name rest ih =>
    exact .bind (member_code _ _ _) fun _ => .bind (ih _) fun _ => .pure _

theorem kindNumber_code (kind : Datum) : NodeCode (Map.kindNumber kind) := by
  unfold Map.kindNumber
  split
  · exact .pure _
  · exact .throw _ rfl

theorem sizeMember_code (uint : Nat) (params : Map.Params) (index : Nat) :
    NodeCode (Map.sizeMember uint params index) := by
  unfold Map.sizeMember
  split
  · exact .bind (arrayType_code _ _) fun _ => .bind (record_code _ _) fun _ =>
      .bind (member_code _ _ _) fun _ => .pure _
  · exact .pure _

theorem debugInfo_code (name : String) (params : Map.Params) :
    NodeCode (Map.debugInfo name params) := by
  unfold Map.debugInfo
  refine .read (fun _ => ?_) fun w v h => by simp only [h.fileNode]
  refine .bind (record_code _ _) fun uint => ?_
  refine .bind (record_code _ _) fun ulong => ?_
  refine .bind (kindNumber_code _) fun number => ?_
  refine .bind (arrayType_code _ _) fun kindArray => ?_
  refine .bind (record_code _ _) fun kind => ?_
  refine .bind (record_code _ _) fun key => ?_
  refine .bind (record_code _ _) fun value => ?_
  refine .bind (members_code _ _ _) fun fields => ?_
  refine .bind (sizeMember_code _ _ _) fun last => ?_
  refine .bind (listNode_code _) fun elements => ?_
  refine .bind (distinctRecord_code _ _) fun struct => ?_
  refine .read (fun _ => ?_) fun w v h => by simp only [h.unitNode]
  refine .bind (distinctRecord_code _ _) fun variableNode => ?_
  exact .bind (record_code _ _) fun _ => record_code _ _

/-! ### Maps -/

/-- What the making of a map does before the map is entered in the table. -/
def describeVariable (name : String) (params : Map.Params) : Build Unit := do
  Build.claim name
  Build.addGlobal (.variable (Map.mapVariable name params))
  let node ← Map.debugInfo name params
  attachNode name node
  Build.say ("Created BPF map: " ++ name)

/-- The address of the variable of a map. -/
def mapAddress (name : String) (params : Map.Params) : Operand :=
  (Global.variable (Map.mapVariable name params)).address

def enterMap (name : String) (address : Operand) : Build Unit :=
  modify fun w => { w with maps := w.maps.insert name address }

/-- A map is entered in the table when its variable has been described. -/
theorem createVariable_eq (name : String) (params : Map.Params) :
    Map.createVariable name params =
      (do
        describeVariable name params
        enterMap name (mapAddress name params)
        return mapAddress name params) := by
  simp only [Map.createVariable, describeVariable, bind_assoc]
  rfl

theorem describeVariable_code (name : String) (params : Map.Params) :
    ModuleCode (describeVariable name params) := by
  refine .bind (claim_code name) fun _ => ?_
  refine .bind (addVariable_code _) fun _ => ?_
  refine .bind (debugInfo_code name params).moduleCode fun node => ?_
  exact .bind (.basic (.attach name node)) fun _ => (build_say_code _).moduleCode

/-- The definition of a map logs some lines and then makes the variable, from the given parameters if it has
any, or fails. -/
inductive Defines (name : String) (made : Option Map.Params) : Build Unit → Prop
  | say (line : Text) {rest : Build Unit} (hrest : Defines name made rest) :
      Defines name made (Build.say line >>= fun _ => rest)
  | fail (fault : Fault) : Defines name made (throw fault)
  | create (params : Map.Params) (hmade : made = some params) :
      Defines name made (describeVariable name params >>= fun _ =>
        enterMap name (mapAddress name params))

theorem create_defines (name : String) (params : Map.Params) :
    Defines name (some params) (Map.create name params >>= fun _ => pure ()) := by
  unfold Map.create
  split
  · exact .fail _
  · rw [createVariable_eq, bind_assoc]
    exact .create params rfl

theorem sayParams_defines {name : String} {made : Option Map.Params} {rest : Build Unit}
    (hrest : Defines name made rest) (params : Map.Params) :
    Defines name made (Map.sayParams params >>= fun _ => rest) := by
  unfold Map.sayParams
  split
  · exact .fail _
  · exact .say _ hrest

theorem define_defines (d : Syntax.Function) :
    Defines d.name (Map.params? d) (Map.define d) := by
  have hmake : ∀ (line : Text) (params : Map.Params), Defines d.name (some params) (do
      Build.say line
      Map.sayParams params
      let _ ← Map.create d.name params) :=
    fun line params => .say line (sayParams_defines (create_defines d.name params) params)
  unfold Map.define
  refine .say _ (.say _ ?_)
  split
  · exact .fail _
  · rename_i args keywords hreturn
    rw [show Map.params? d = some (.ofHashCall args keywords) by simp [Map.params?, hreturn]]
    exact hmake _ _
  · rename_i args keywords hreturn
    rw [show Map.params? d = some (.ofPerfCall args keywords) by simp [Map.params?, hreturn]]
    exact hmake _ _
  · rename_i args keywords _ _ hreturn
    rw [show Map.params? d = some (.ofHashCall args keywords) by simp [Map.params?, hreturn]]
    exact .say _ (hmake _ _)
  · exact .fail _

/-- A definition that succeeds has made the variable of its map and then entered the map. -/
theorem Defines.inv {name : String} {made : Option Map.Params} {m : Build Unit}
    (h : Defines name made m) {w w' : Workspace} (hexec : exec m w = (.ok (), w')) :
    ∃ params w₀ w₁, made = some params ∧ w.Annotated w₀ ∧
      exec (describeVariable name params) w₀ = (.ok (), w₁) ∧
      w' = { w₁ with maps := w₁.maps.insert name (mapAddress name params) } := by
  induction h generalizing w with
  | say line hrest ih =>
    obtain ⟨⟨⟩, w₁, hsay, htail⟩ := exec_bind_inv hexec
    obtain ⟨params, w₀, w₂, hmade, hannotated, hdescribe, henter⟩ := ih htail
    have hsaid := (build_say_code line).annotated.of_exec hsay
    exact ⟨params, w₀, w₂, hmade, trans_of Workspace.Annotated hsaid hannotated, hdescribe, henter⟩
  | fail fault => exact exec_throw_inv hexec
  | create params hmade =>
    obtain ⟨⟨⟩, w₁, hdescribe, henter⟩ := exec_bind_inv hexec
    exact ⟨params, w, w₁, hmade, refl_of Workspace.Annotated w, hdescribe, (Prod.mk.inj henter).2.symm⟩

/-! ### The end of the module -/

theorem license_code (m : Syntax.Module) : ModuleCode (License.add m) := by
  unfold License.add
  split
  · exact .pure _
  · split
    · exact .bind (build_say_code _).moduleCode fun _ => .pure _
    · split
      · exact .throw _ rfl
      · exact .bind (claim_code _) fun _ => .bind (addVariable_code _) fun _ => .pure _

theorem symbol_code (name : String) : ModuleCode (Retained.symbol name) := by
  unfold Retained.symbol
  refine .read (fun w => ?_) fun w v h => by simp only [h.module]
  split
  · exact .pure _
  · exact .bind (claim_code _) fun _ => .pure _

theorem retained_code (names : List String) : ModuleCode (Retained.add names) :=
  .bind (.mapM fun name _ => symbol_code name) fun _ =>
    .bind (claim_code _) fun _ => addVariable_code _

theorem nameNode_code (name : String) (node : Nat) : NodeCode (Compile.nameNode name node) :=
  .basic (.onModule fun m => m.addNamed_annotated name node)

theorem sign_code : NodeCode Compile.sign := by
  unfold Compile.sign
  refine .bind (.mapM fun flag _ => ?_) fun nodes => ?_
  · exact .basic (.onModule fun m => m.addList_annotated _)
  refine .bind (.forM fun node _ => nameNode_code _ node) fun _ => ?_
  exact .bind (.basic (.onModule fun m => m.addList_annotated _)) fun _ => nameNode_code _ _

theorem forM_say_code (compiled : List Syntax.Function) :
    NodeCode (compiled.forM fun d => Build.say ("Found BPF function: " ++ d.name)) :=
  .forM fun _ _ => build_say_code _

theorem write_code (path : String) : NodeCode (Compile.write path) := by
  unfold Compile.write
  refine .read (fun w => ?_) fun w v h => by simp only [h.module]
  split
  · exact .throw _ rfl
  · dsimp only
    split
    · exact .pure _
    · exact .throw _ rfl

end BpfCompiler.Lower
