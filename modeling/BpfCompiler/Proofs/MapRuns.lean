import BpfCompiler.Proofs.MapGraph

/-!
# Runs of map definitions, whatever fails

The making of a map can fail before there is a variable, when its kind is no key or its name is taken; when
there is a variable and nothing describes it yet; and in the middle of the debug information.  What has been
made up to that point stays in the module, and the name of the variable stays taken.

The map is entered in the table when all is made.  So however a run of such calls mixes failures and
successes, each entry of the table is the address of a variable that was described to the end, and what was in
the module before a call is there after it, at its old place.
-/

namespace BpfCompiler.Lower

open IR Syntax

/-! ### One call -/

/-- A call has a kind that is no key, or it fails while the variable is made and described, or it enters the
map that it has described. -/
theorem create_cases (name : String) (params : Map.Params) (w : Workspace) :
    exec (Map.create name params) w = (.error .notKey, w) ∨
    (∃ fault w', exec (describeVariable name params) w = (.error fault, w') ∧
      exec (Map.create name params) w = (.error fault, w')) ∨
    ∃ w', exec (describeVariable name params) w = (.ok (), w') ∧
      exec (Map.create name params) w = (.ok (mapAddress name params),
        { w' with maps := w'.maps.insert name (mapAddress name params) }) := by
  by_cases hkey : params.kind.isKey = true
  · have hcreate : Map.create name params = Map.createVariable name params := by
      simp [Map.create, hkey]
    rw [hcreate, createVariable_eq, exec_bind]
    cases hdescribe : exec (describeVariable name params) w with
    | mk outcome w' =>
      cases outcome with
      | error fault => exact .inr (.inl ⟨fault, w', rfl, rfl⟩)
      | ok a => exact .inr (.inr ⟨w', rfl, rfl⟩)
  · apply Or.inl
    simp [Map.create, hkey]

theorem claim_annotated (name : String) : Preserves Workspace.Annotated (Build.claim name) := by
  intro w
  rw [Build.claim, exec_bind_ok (exec_get w)]
  cases hclaim : w.module.scope.claim? name with
  | none => exact refl_of Workspace.Annotated w
  | some scope =>
    have hused : w.module.scope.used ⊆ scope.used := by
      rw [(NameScope.claim?_inv hclaim).2]
      exact List.subset_cons_self _ _
    exact ⟨⟨rfl, hused, List.prefix_rfl⟩, rfl⟩

/-- However far the making of a variable gets, it only adds to the module.  The mark at the end is no
exception, since no other global has the name. -/
theorem describeVariable_adds {w : Workspace} (htaken : w.module.names ⊆ w.module.scope.used)
    (name : String) (params : Map.Params) :
    ∃ added, Gains added w (exec (describeVariable name params) w).2 := by
  unfold describeVariable
  apply exec_bind_state (P := fun w' => ∃ added, Gains added w w')
  · exact ⟨[], .of_annotated (claim_annotated name w).module⟩
  intro _ w₁ hclaim
  have hadded : ∀ w₂,
      exec (Build.addGlobal (.variable (Map.mapVariable name params))) w₁ = (.ok (), w₂) →
      Gains [.variable (Map.mapVariable name params)] w w₂ :=
    fun w₂ hadd => Gains.add (g := .variable (Map.mapVariable name params)) hclaim hadd
  apply exec_bind_state (P := fun w' => ∃ added, Gains added w w')
  · exact ⟨_, hadded _ rfl⟩
  intro _ w₂ hadd
  have hdescribed : Gains [.variable (Map.mapVariable name params)] w
      (exec (Map.debugInfo name params) w₂).2 :=
    (hadded w₂ hadd).trans (.of_annotated ((debugInfo_code name params).annotated w₂).module)
  apply exec_bind_state (P := fun w' => ∃ added, Gains added w w')
  · exact ⟨_, hdescribed⟩
  intro node w₃ hdebug
  rw [hdebug] at hdescribed
  have hmarked : Gains [.variable { Map.mapVariable name params with debug := some node }] w
      (exec (attachNode name node) w₃).2 := hdescribed.attach htaken rfl
  exact ⟨_, hmarked.trans (.of_annotated ((build_say_code _).annotated _).module)⟩

theorem create_adds {w : Workspace} (htaken : w.module.names ⊆ w.module.scope.used) (name : String)
    (params : Map.Params) : ∃ added, Gains added w (exec (Map.create name params) w).2 := by
  have hdescribe := describeVariable_adds htaken name params
  obtain hcreate | ⟨fault, w', hfail, hcreate⟩ | ⟨w', hok, hcreate⟩ := create_cases name params w
  · rw [hcreate]
    exact ⟨[], .of_annotated (.refl _)⟩
  · rw [hfail] at hdescribe
    rwa [hcreate]
  · rw [hok] at hdescribe
    obtain ⟨added, hgains⟩ := hdescribe
    rw [hcreate]
    exact ⟨added, hgains.globals, hgains.fresh, hgains.distinct, hgains.taken, hgains.used, hgains.nodes⟩

/-! ### The table -/

/-- The variable carries a mark, and the node of the mark describes the variable of this name. -/
def IsMarked (m : IR.Module) (name : String) (v : Variable) : Prop :=
  ∃ node described expression file unit struct, v.debug = some node ∧
    m.HasNode node (Map.descriptionNode described expression) ∧
    m.HasNode described (Map.mapNode file unit struct name)

/-- The entry is the address of the module's global of this name, which is a variable with a mark. -/
def IsEntryOf (m : IR.Module) (name : String) (o : Operand) : Prop :=
  ∃ v, m.find? name = some (.variable v) ∧ o = (Global.variable v).address ∧ IsMarked m name v

theorem IsEntryOf.mono {added : List Global} {w w' : Workspace} {name : String} {o : Operand}
    (h : IsEntryOf w.module name o) (hgains : Gains added w w') : IsEntryOf w'.module name o := by
  obtain ⟨v, hfind, hv, node, described, expression, file, unit, struct, hnode, hdescription, hmap⟩ := h
  refine ⟨v, ?_, hv, node, described, expression, file, unit, struct, hnode,
    hdescription.mono hgains.nodes, hmap.mono hgains.nodes⟩
  rw [IR.Module.find?] at hfind ⊢
  simp [hgains.globals, List.find?_append, hfind]

/-- The names of all globals are taken, and all entries of the table are addresses of variables with a
mark. -/
structure TableSound (w : Workspace) : Prop where
  taken : w.module.names ⊆ w.module.scope.used
  entries : ∀ name o, w.maps.get? name = some o → IsEntryOf w.module name o

/-- A map whose variable is described to the end has an entry that is sound, and its name was free. -/
theorem describeVariable_entry {name : String} {params : Map.Params} {w w' : Workspace}
    (htaken : w.module.names ⊆ w.module.scope.used)
    (h : exec (describeVariable name params) w = (.ok (), w')) :
    name ∉ w.module.scope.used ∧ IsEntryOf w'.module name (mapAddress name params) := by
  obtain ⟨node, w₁, w₂, hdebug, hnodes, hgains⟩ := describeVariable_gains htaken h
  have hfresh : name ∉ w.module.scope.used := hgains.fresh _ List.mem_cons_self
  have hnone : w.module.globals.find? (fun g => g.name == name) = none := by
    apply List.find?_eq_none.mpr
    intro g hg hname
    exact hfresh (htaken (List.mem_map.mpr ⟨g, hg, by simpa using hname⟩))
  obtain ⟨n, hgraph⟩ := debugInfo_graph hdebug hnodes
  obtain ⟨expression, hdescription⟩ := hgraph.description
  obtain ⟨file, unit, hmap⟩ := hgraph.variableNode
  refine ⟨hfresh, { Map.mapVariable name params with debug := some node }, ?_, rfl, node, _, expression,
    file, unit, _, rfl, hdescription, hmap⟩
  rw [IR.Module.find?, hgains.globals, List.find?_append, hnone]
  simp [Global.name, Map.mapVariable]

theorem TableSound.get?_eq_none {w : Workspace} (h : TableSound w) {name : String}
    (hfree : name ∉ w.module.scope.used) : w.maps.get? name = none := by
  cases hentry : w.maps.get? name with
  | none => rfl
  | some o =>
    obtain ⟨v, hfind, -⟩ := h.entries name o hentry
    have hname : (Global.variable v).name = name := by simpa using List.find?_some hfind
    have hmem : name ∈ w.module.names :=
      List.mem_map.mpr ⟨_, List.mem_of_find?_eq_some hfind, hname⟩
    exact absurd (h.taken hmem) hfree

theorem TableSound.of_sameMaps {w w' : Workspace} {added : List Global} (h : TableSound w)
    (hgains : Gains added w w') (hmaps : w'.maps = w.maps) : TableSound w' where
  taken := hgains.names_taken h.taken
  entries := fun name o hentry => (h.entries name o (hmaps ▸ hentry)).mono hgains

/-- A call that succeeds enters its own name, which was free, and the entry is sound.  One that fails leaves
the table as it is. -/
theorem create_maps {w : Workspace} (htaken : w.module.names ⊆ w.module.scope.used) (name : String)
    (params : Map.Params) :
    match exec (Map.create name params) w with
    | (.ok o, w') => name ∉ w.module.scope.used ∧ IsEntryOf w'.module name o ∧
        w'.maps = w.maps.insert name o
    | (.error _, w') => w'.maps = w.maps := by
  have hquiet := ((describeVariable_code name params).quiet w).maps
  obtain hcreate | ⟨fault, w', hfail, hcreate⟩ | ⟨w', hok, hcreate⟩ := create_cases name params w
  · rw [hcreate]
  · rw [hfail] at hquiet
    rw [hcreate]
    exact hquiet
  · rw [hok] at hquiet
    obtain ⟨hfree, hentry⟩ := describeVariable_entry htaken hok
    rw [hcreate]
    refine ⟨hfree, hentry, ?_⟩
    change w'.maps.insert name _ = _
    rw [hquiet]

theorem create_sound {w : Workspace} (h : TableSound w) (name : String) (params : Map.Params) :
    TableSound (exec (Map.create name params) w).2 := by
  obtain ⟨added, hgains⟩ := create_adds h.taken name params
  have hmaps := create_maps h.taken name params
  cases hexec : exec (Map.create name params) w with
  | mk outcome w' =>
    rw [hexec] at hgains hmaps
    cases outcome with
    | error fault => exact h.of_sameMaps hgains hmaps
    | ok o =>
      obtain ⟨-, hnew, hinsert⟩ := hmaps
      refine ⟨hgains.names_taken h.taken, fun other entry hentry => ?_⟩
      rw [hinsert, Table.get?_insert] at hentry
      by_cases hother : other = name
      · rw [if_pos hother] at hentry
        obtain rfl := Option.some.inj hentry
        exact hother ▸ hnew
      · rw [if_neg hother] at hentry
        exact (h.entries other entry hentry).mono hgains

/-! ### Runs -/

/-- Makes maps one after the other and goes on when a call has failed. -/
def createEach (calls : List (String × Map.Params)) (w : Workspace) : Workspace :=
  calls.foldl (fun w call => (exec (Map.create call.1 call.2) w).2) w

theorem createEach_sound (calls : List (String × Map.Params)) {w : Workspace} (h : TableSound w) :
    TableSound (createEach calls w) ∧ ∃ added, Gains added w (createEach calls w) := by
  induction calls generalizing w with
  | nil => exact ⟨h, [], .of_annotated (.refl _)⟩
  | cons call rest ih =>
    obtain ⟨first, hfirst⟩ := create_adds h.taken call.1 call.2
    obtain ⟨hsound, others, hothers⟩ := ih (create_sound h call.1 call.2)
    exact ⟨hsound, first ++ others, hfirst.trans hothers⟩

/-- After any sequence of calls from an empty table, with any of them failing, every entry is the address of
the module's global of that name, which carries a mark, and the globals and nodes from before are at their
places.  A further call keeps all globals and nodes at their places.  It enters exactly its own name if it
succeeds, and leaves the table as it is if it fails. -/
theorem createEach_table {w : Workspace} (hmaps : w.maps = Table.empty)
    (htaken : w.module.names ⊆ w.module.scope.used) (calls : List (String × Map.Params)) :
    let run := createEach calls w
    (∀ name o, run.maps.get? name = some o → IsEntryOf run.module name o) ∧
    w.module.globals <+: run.module.globals ∧ w.module.nodes <+: run.module.nodes ∧
    ∀ (name : String) (params : Map.Params),
      run.module.globals <+: (exec (Map.create name params) run).2.module.globals ∧
      run.module.nodes <+: (exec (Map.create name params) run).2.module.nodes ∧
      match exec (Map.create name params) run with
      | (.ok o, w') => run.maps.get? name = none ∧ w'.maps = run.maps.insert name o
      | (.error _, w') => w'.maps = run.maps := by
  have hstart : TableSound w := ⟨htaken, fun name o hentry => by simp [hmaps] at hentry⟩
  obtain ⟨hsound, added, hgains⟩ := createEach_sound calls hstart
  refine ⟨hsound.entries, ⟨added, hgains.globals.symm⟩, hgains.nodes, fun name params => ?_⟩
  obtain ⟨more, hmore⟩ := create_adds hsound.taken name params
  have hcall := create_maps hsound.taken name params
  refine ⟨⟨more, hmore.globals.symm⟩, hmore.nodes, ?_⟩
  cases hexec : exec (Map.create name params) (createEach calls w) with
  | mk outcome w' =>
    rw [hexec] at hcall
    cases outcome with
    | error fault => exact hcall
    | ok o => exact ⟨hsound.get?_eq_none hcall.1, hcall.2.2⟩

/-- Two maps with failures in between: a kind that is no key, a name that is taken, a kind that is not known
and a number of entries that no node can hold. -/
def mixedCalls : List (String × Map.Params) :=
  [("first", .ofList [("type", .text "HASH"), ("key", .text "c_int32")]),
   ("listed", .ofList [("type", .list [])]),
   ("first", .ofList [("type", .text "PERF_EVENT_ARRAY")]),
   ("unknown", .ofList [("type", .text "ARRAY")]),
   ("sized", .ofList [("max_entries", .dict [])]),
   ("last", .ofList [("max_entries", .int 4)])]

theorem mixedCalls_table :
    let start := Compile.start "prog.py" Table.empty
    let run := createEach mixedCalls start
    start.maps = Table.empty ∧ start.module.names ⊆ start.module.scope.used ∧
    run.maps.keys = ["first", "last"] ∧
    run.module.names = ["first", "unknown", "sized", "last"] ∧
    (∀ name o, run.maps.get? name = some o → IsEntryOf run.module name o) ∧
    start.module.nodes <+: run.module.nodes := by
  have htaken : (Compile.start "prog.py" Table.empty).module.names ⊆
      (Compile.start "prog.py" Table.empty).module.scope.used := by
    simp [IR.Module.names, start_globals]
  have htable := createEach_table rfl htaken mixedCalls
  exact ⟨rfl, htaken, by decide +kernel, by decide +kernel, htable.1, htable.2.2.1⟩

end BpfCompiler.Lower
