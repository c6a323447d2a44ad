import BpfCompiler.Proofs.Contents

/-!
# Programs are compiled independently

All programs of a source share one module, one table of maps and one scope of names.  Still, what becomes of
a program depends on its definition and on the maps that it names: two sources that compile and share these
have the same function for it and the same format strings, and write them in the same way, whatever else
they define and in whatever order.
-/

namespace BpfCompiler

/-- The text stands somewhere in the other one. -/
def Text.IsPartOf (t whole : Text) : Prop := t.points <:+: whole.points

theorem Text.join_cons_cons (sep t u : Text) (rest : List Text) :
    Text.join sep (t :: u :: rest) = t ++ sep ++ Text.join sep (u :: rest) := rfl

theorem Text.join_prefix (sep : Text) (first second : List Text) :
    (Text.join sep first).points <+: (Text.join sep (first ++ second)).points := by
  induction first with
  | nil => exact List.nil_prefix
  | cons t rest ih =>
    cases rest with
    | nil =>
      cases second with
      | nil => exact List.prefix_rfl
      | cons u more =>
        rw [List.singleton_append, Text.join_cons_cons, Text.points_append, Text.points_append,
          List.append_assoc]
        exact List.prefix_append _ _
    | cons u more =>
      rw [List.cons_append, List.cons_append, Text.join_cons_cons, Text.join_cons_cons,
        Text.points_append, Text.points_append (t ++ sep)]
      exact (List.prefix_append_right_inj _).mpr ih

theorem Text.join_suffix (sep : Text) (first second : List Text) :
    (Text.join sep second).points <:+ (Text.join sep (first ++ second)).points := by
  induction first with
  | nil => exact List.suffix_rfl
  | cons t rest ih =>
    rw [List.cons_append]
    cases hrest : rest ++ second with
    | nil =>
      rw [(List.append_eq_nil_iff.mp hrest).2]
      exact List.nil_suffix
    | cons u more =>
      rw [hrest] at ih
      rw [Text.join_cons_cons, Text.points_append]
      exact ih.trans (List.suffix_append _ _)

/-- What some neighbours are written as stands in what the whole list is written as. -/
theorem Text.join_isPartOf (sep : Text) {some all : List Text} (h : some <:+: all) :
    (Text.join sep some).IsPartOf (Text.join sep all) := by
  obtain ⟨before, after, rfl⟩ := h
  rw [List.append_assoc]
  exact (Text.join_prefix sep some after).isInfix.trans
    (Text.join_suffix sep before (some ++ after)).isInfix

/-- The maps that a program calls methods of. -/
def Syntax.FunctionDef.usedMaps (d : Syntax.Function) : List String :=
  (Syntax.Stmt.reachedAll d.body).flatMap Syntax.Stmt.usedMaps

/-- The definitions of maps. -/
def Syntax.Module.mapDefinitions (m : Syntax.Module) : List Syntax.Function :=
  m.compiled.filter fun d => d.isMap

end BpfCompiler

namespace BpfCompiler.Lower

open IR Syntax Emit

/-! ### One program in two modules -/

/-- Two frames of one program: they are alike, and have made the same format strings. -/
structure Frame.Parallel (known : String → Prop) (before before' : List Global) (f g : Frame) : Prop
    extends Frame.Alike known f g where
  texts : ∃ texts : List Variable,
    f.workspace.module.globals = before ++ texts.map Global.variable ∧
    g.workspace.module.globals = before' ++ texts.map Global.variable

section Parallel

variable {known : String → Prop} {before before' : List Global}

theorem Frame.Parallel.congruence :
    Frame.Congruence known (Frame.Parallel known before before') where
  alike h := h.toAlike
  change h _ _ _ _ _ _ hfn hhere hlocals := ⟨⟨hfn, hhere, hlocals, h.maps⟩, h.texts⟩
  say _ := RunsAlike.modify fun _ _ h => ⟨⟨h.fn, h.here, h.locals, h.maps⟩, h.texts⟩

theorem Frame.Parallel.withText {f g : Frame} (h : Frame.Parallel known before before' f g)
    (scope scope' : NameScope) (v : Variable) :
    Frame.Parallel known before before' (f.withText scope [v]) (g.withText scope' [v]) := by
  obtain ⟨texts, hleft, hright⟩ := h.texts
  refine ⟨⟨by simp only [Frame.withText, h.fn], h.here, h.locals, h.maps⟩, texts ++ [v], ?_, ?_⟩
  · simp [Frame.withText, hleft]
  · simp [Frame.withText, hright]

/-- A format string is numbered within its function, so it gets the same name in both modules. -/
theorem formatGlobal_parallel (text : Text) :
    SucceedsAlike (Frame.Parallel known before before') (formatGlobal text) := by
  intro f g f' g' global global' h hf hg
  obtain ⟨scope, data, hdata, -, rfl, rfl⟩ := formatGlobal_inv hf
  obtain ⟨scope', data', hdata', -, rfl, rfl⟩ := formatGlobal_inv hg
  obtain rfl : data = data' := Option.some.inj (hdata.symm.trans hdata')
  rw [h.fn]
  exact ⟨rfl, h.withText scope scope' _⟩

/-- Whether the module can be shown depends on all of it, but what is logged then does not. -/
theorem showModule_parallel :
    SucceedsAlike (Frame.Parallel known before before') showModule := by
  have hsaid : ∀ {f f' : Frame}, exec showModule f = (.ok (), f') →
      exec (say "<module>") f = (.ok (), f') := by
    intro f f' h
    rw [showModule, exec_bind_ok (exec_get f)] at h
    split at h
    · exact exec_throw_inv h
    · exact h
  intro f g f' g' _ _ h hf hg
  exact (Frame.Parallel.congruence.say _).succeedsAlike h (hsaid hf) (hsaid hg)

theorem Composed.parallel {stored : String → Prop} {α : Type} {m : Emit α}
    (h : BodyCode known stored True m) :
    SucceedsAlike (Frame.Parallel known before before') m :=
  h.succeedsAlike (fun h => h.toAlike) <|
    FrameStep.of_congruence Frame.Parallel.congruence
      (P := fun _ m => SucceedsAlike (Frame.Parallel known before before') m)
      RunsAlike.succeedsAlike formatGlobal_parallel showModule_parallel

end Parallel

/-- What a program becomes is determined by its definition and the maps that it names. -/
theorem IsRoutineOf.unique {maps maps' : Table Operand} {d : Syntax.Function} {r r' : Routine}
    (h : IsRoutineOf maps d r) (h' : IsRoutineOf maps' d r')
    (hmaps : ∀ x ∈ d.usedMaps, maps'.get? x = maps.get? x) : r' = r := by
  have hresult : r'.fn.result = r.fn.result := Except.ok.inj (h'.result.symm.trans h.result)
  obtain ⟨w, f, hw, hfn, hexec, hprints⟩ := h.run
  obtain ⟨w', f', hw', hfn', hexec', hprints'⟩ := h'.run
  rw [hresult] at hexec' hprints'
  have hcode : BodyCode (· ∈ d.usedMaps) (fun _ => True) True (functionBody r.fn.result d.body) :=
    functionBody_code _ fun _ hx => hx
  have hstart : Frame.Parallel (· ∈ d.usedMaps) w.module.globals w'.module.globals
      (programStart w d r.fn.result) (programStart w' d r.fn.result) := by
    refine ⟨⟨rfl, rfl, rfl, fun x hx => ?_⟩, [], ?_, ?_⟩
    · change w'.maps.get? x = w.maps.get? x
      rw [hw, hw', hmaps x hx]
    · exact (List.append_nil _).symm
    · exact (List.append_nil _).symm
  obtain ⟨-, hend⟩ := hcode.parallel hstart hexec hexec'
  obtain ⟨texts, hleft, hright⟩ := hend.texts
  have hinjective : Function.Injective Global.variable := fun _ _ => Global.variable.inj
  have htexts : r.texts = texts :=
    hinjective.list_map (List.append_cancel_left (hprints.globals.symm.trans hleft))
  have htexts' : r'.texts = texts :=
    hinjective.list_map (List.append_cancel_left (hprints'.globals.symm.trans hright))
  exact Routine.ext (hfn'.symm.trans (hend.fn.trans hfn)) (htexts'.trans htexts.symm)

/-! ### The table of maps -/

theorem define_maps {d : Syntax.Function} {w w' : Workspace}
    (h : exec (Map.define d) w = (.ok (), w')) :
    ∃ params, Map.params? d = some params ∧
      w'.maps = w.maps.insert d.name (mapAddress d.name params) := by
  obtain ⟨params, w₀, w₁, hparams, hsaid, hdescribe, rfl⟩ := (define_defines d).inv h
  have hquiet := (describeVariable_code d.name params).quiet.of_exec hdescribe
  exact ⟨params, hparams, by rw [hquiet.maps, hsaid.maps]⟩

/-- The definitions enter their maps; other names keep what they had. -/
theorem forM_define_maps {definitions : List Syntax.Function} {w w' : Workspace}
    (hnames : (definitions.map fun d => d.name).Nodup)
    (h : exec (definitions.forM Map.define) w = (.ok (), w')) :
    (∀ e ∈ definitions, w'.maps.get? e.name = (Map.params? e).map (mapAddress e.name)) ∧
      ∀ x, (∀ e ∈ definitions, e.name ≠ x) → w'.maps.get? x = w.maps.get? x := by
  induction definitions generalizing w with
  | nil =>
    obtain ⟨-, rfl⟩ := exec_pure_inv h
    simp
  | cons d rest ih =>
    obtain ⟨⟨⟩, w₁, hfirst, hrest⟩ := exec_bind_inv h
    obtain ⟨params, hparams, hmaps⟩ := define_maps hfirst
    rw [List.map_cons, List.nodup_cons] at hnames
    obtain ⟨hentered, hkept⟩ := ih hnames.2 hrest
    refine ⟨List.forall_mem_cons.mpr ⟨?_, hentered⟩, fun x hx => ?_⟩
    · have hother : ∀ e ∈ rest, e.name ≠ d.name := fun e he heq =>
        hnames.1 (List.mem_map.mpr ⟨e, he, heq⟩)
      rw [hkept _ hother, hmaps, Table.get?_insert, if_pos rfl, hparams]
      rfl
    · obtain ⟨hd, hothers⟩ := List.forall_mem_cons.mp hx
      rw [hkept x hothers, hmaps, Table.get?_insert, if_neg (Ne.symm hd)]

theorem IsContentsOf.map_names {m : Syntax.Module} {table : Table Operand} {module : IR.Module}
    {c : Contents} (h : IsContentsOf m table module c) :
    (m.mapDefinitions.map fun d => d.name) = c.maps.map Variable.name := by
  rw [← List.forall₂_eq_eq_eq, List.forall₂_map_left_iff, List.forall₂_map_right_iff]
  refine h.maps.imp ?_
  rintro d v ⟨params, node, -, -, -, -, -, rfl⟩
  rfl

theorem tree_maps {path : String} {m : Syntax.Module} {maps : Table Operand} {out : Text}
    {w : Workspace} (h : exec (Compile.tree path m) (Compile.start path maps) = (.ok out, w)) :
    (∀ e ∈ m.mapDefinitions, w.maps.get? e.name = (Map.params? e).map (mapAddress e.name)) ∧
      ∀ x, (∀ e ∈ m.mapDefinitions, e.name ≠ x) → w.maps.get? x = maps.get? x := by
  obtain ⟨c, hc, hglobals, hdistinct⟩ := tree_contents h
  have hnames : (m.mapDefinitions.map fun d => d.name).Nodup := by
    rw [IR.Module.names, hglobals, Contents.globals, List.append_assoc, List.append_assoc,
      List.map_append, List.map_map] at hdistinct
    rw [hc.map_names]
    exact hdistinct.of_append_left
  obtain ⟨w', hlower, hsign, -, -⟩ := tree_stages h
  obtain ⟨w₁, w₂, w₃, hstages⟩ := lower_stages hlower
  obtain ⟨w₀, hsay, hfound⟩ := hstages.before
  have hbefore : w₁.maps = maps :=
    ((forM_say_code _).annotated.of_exec hfound).maps.trans
      ((build_say_code _).annotated.of_exec hsay).maps
  have hafter : w.maps = w₂.maps :=
    (sign_code.annotated.of_exec hsign).maps.trans
      (hstages.quiet_after.maps.trans (forM_lowerProgram_inv hstages.programs).1)
  rw [hafter, ← hbefore]
  exact forM_define_maps hnames hstages.maps

/-- Both sources define the map in the same way, or neither does and the tables that they start with agree
on it. -/
def SharesMap (m m' : Syntax.Module) (maps maps' : Table Operand) (x : String) : Prop :=
  (∃ e ∈ m.mapDefinitions, e ∈ m'.mapDefinitions ∧ e.name = x) ∨
    (∀ e ∈ m.mapDefinitions ++ m'.mapDefinitions, e.name ≠ x) ∧ maps'.get? x = maps.get? x

theorem SharesMap.get?_eq {m m' : Syntax.Module} {maps maps' : Table Operand} {x : String}
    (hshares : SharesMap m m' maps maps' x) {path path' : String} {out out' : Text} {w w' : Workspace}
    (h : exec (Compile.tree path m) (Compile.start path maps) = (.ok out, w))
    (h' : exec (Compile.tree path' m') (Compile.start path' maps') = (.ok out', w')) :
    w'.maps.get? x = w.maps.get? x := by
  obtain ⟨hentered, hkept⟩ := tree_maps h
  obtain ⟨hentered', hkept'⟩ := tree_maps h'
  rcases hshares with ⟨e, he, he', rfl⟩ | ⟨hneither, hmaps⟩
  · rw [hentered e he, hentered' e he']
  · obtain ⟨hnone, hnone'⟩ := List.forall_mem_append.mp hneither
    rw [hkept x hnone, hkept' x hnone', hmaps]

/-! ### The text of a program -/

/-- The lines of a function and of its format strings. -/
def Routine.lines (r : Routine) : List Text :=
  r.fn.render :: r.texts.map (IR.Module.renderVariable fun _ => "")

/-- A function and its format strings as they are written. -/
def Routine.text (r : Routine) : Text := Text.join "\n" r.lines

/-- The module has the globals of the routine, in order, and each is the one that its name leads to; in the
output they are written together. -/
structure HasRoutine (r : Routine) (module : IR.Module) (out : Text) : Prop where
  globals : r.globals <:+: module.globals
  found : ∀ g ∈ r.globals, module.find? g.name = some g
  text : r.text.IsPartOf out

theorem renderVariable_of_unmarked {v : Variable} (h : v.debug = none) (nodeName nodeName' : Nat → String) :
    IR.Module.renderVariable nodeName v = IR.Module.renderVariable nodeName' v := by
  simp only [IR.Module.renderVariable, h, Option.map_none]

theorem Routine.map_renderGlobal {r : Routine} (h : ∀ v ∈ r.texts, v.debug = none)
    (module : IR.Module) : r.globals.map module.renderGlobal = r.lines := by
  rw [Routine.globals, List.map_cons, List.map_map]
  exact congrArg _ (List.map_congr_left fun v hv => renderVariable_of_unmarked (h v hv) _ _)

/-- Neighbours among the globals are neighbours among the lines. -/
theorem HasRoutine.of_globals {r : Routine} {module : IR.Module} (hglobals : r.globals <:+: module.globals)
    (hnames : module.names.Nodup) (hunmarked : ∀ v ∈ r.texts, v.debug = none) (path : String) :
    HasRoutine r module (Compile.written path module) where
  globals := hglobals
  found := fun _ hg => find?_of_mem hnames (hglobals.subset hg)
  text := by
    have hlines : r.lines <:+: module.lines := by
      rw [← Routine.map_renderGlobal hunmarked module]
      exact ((hglobals.map module.renderGlobal).trans (List.infix_append _ _ _)).trans
        (List.prefix_append _ _).isInfix
    exact (Text.join_isPartOf "\n" hlines).trans (List.infix_append _ _ _)

theorem tree_hasRoutine {path : String} {m : Syntax.Module} {maps : Table Operand} {out : Text}
    {w : Workspace} (h : exec (Compile.tree path m) (Compile.start path maps) = (.ok out, w))
    {d : Syntax.Function} (hd : d ∈ m.programs) :
    ∃ r, IsRoutineOf w.maps d r ∧ HasRoutine r w.module out := by
  obtain ⟨-, -, -, -, rfl⟩ := tree_stages h
  obtain ⟨c, hc, hglobals, hnames⟩ := tree_contents h
  obtain ⟨r, hmem, hr⟩ := exists_of_forall₂_left hc.routines hd
  obtain ⟨_, _, _, _, _, hprints⟩ := hr.run
  refine ⟨r, hr, .of_globals ?_ hnames hprints.unmarked path⟩
  have hroutine : r.globals <:+: c.routines.flatMap Routine.globals :=
    List.infix_of_mem_flatten (List.mem_map_of_mem hmem)
  rw [hglobals]
  exact ((hroutine.trans (List.suffix_append _ _).isInfix).trans (List.prefix_append _ _).isInfix).trans
    (List.prefix_append _ _).isInfix

/-- Two sources that compile and that share the definition of a program and those of the maps that it names
have the same function and the same format strings for it, and their outputs have the same text for them,
whatever else they define, in whatever order. -/
theorem source_routine_independent {path path' : String} {text text' : List Char}
    {maps maps' : Table Operand} {out out' : Text} {w w' : Workspace} {m m' : Syntax.Module}
    {d : Syntax.Function}
    (h : exec (Compile.source path text) (Compile.start path maps) = (.ok out, w))
    (h' : exec (Compile.source path' text') (Compile.start path' maps') = (.ok out', w'))
    (hparse : Syntax.Module.parse (Lexer.universalNewlines text) = .ok m)
    (hparse' : Syntax.Module.parse (Lexer.universalNewlines text') = .ok m')
    (hd : d ∈ m.programs) (hd' : d ∈ m'.programs)
    (hmaps : ∀ x ∈ d.usedMaps, SharesMap m m' maps maps' x) :
    ∃ r : Routine, r.fn.name = d.name ∧
      r.texts.map Variable.name = (List.range r.fn.formats).map (formatName d.name) ∧
      HasRoutine r w.module out ∧ HasRoutine r w'.module out' := by
  obtain ⟨_, hparsed, htree⟩ := source_tree h
  obtain rfl := Except.ok.inj (hparse.symm.trans hparsed)
  obtain ⟨_, hparsed', htree'⟩ := source_tree h'
  obtain rfl := Except.ok.inj (hparse'.symm.trans hparsed')
  obtain ⟨r, hr, hhas⟩ := tree_hasRoutine htree hd
  obtain ⟨r', hr', hhas'⟩ := tree_hasRoutine htree' hd'
  obtain rfl : r' = r := hr.unique hr' fun x hx => (hmaps x hx).get?_eq htree htree'
  exact ⟨r', hr.name, hr.texts_names, hhas, hhas'⟩

/-- A map with no parameters. -/
def bareMap : Syntax.Function :=
  ⟨false, "m", [], [.ret (some (.call (.name "HashMap") [] []))], [.name "bpf", .name "map"], none⟩

/-- A program that deletes from the map and prints. -/
def deletingProgram : Syntax.Function :=
  ⟨false, "f", [],
    [.assign [.name "k"] (.const (.int 1) false),
      .expr (.call (.attribute (.call (.name "m") [] []) "delete") [.name "k"] []),
      .expr (.call (.name "print") [.const (.text "a") false] []),
      .ret (some (.call (.name "c_int64") [.const (.int 0) false] []))],
    [.name "bpf"], some (.name "c_int64")⟩

/-- Another program that prints. -/
def printingProgram : Syntax.Function :=
  ⟨false, "g", [], [.expr (.call (.name "print") [.const (.text "b") false] [])], [.name "bpf"],
    some (.name "c_int32")⟩

def bareMapText : String := "@bpf\n@map\ndef m():\n    return HashMap()\n"

def deletingText : String :=
  "@bpf\ndef f() -> c_int64:\n    k = 1\n    m().delete(k)\n    print(\"a\")\n    return c_int64(0)\n"

def printingText : String := "@bpf\ndef g() -> c_int32:\n    print(\"b\")\n"

/-- The map and the program. -/
def shortModule : Syntax.Module := ⟨[.function bareMap, .function deletingProgram]⟩

/-- Another program first, and the map last. -/
def longModule : Syntax.Module :=
  ⟨[.function printingProgram, .function deletingProgram, .function bareMap]⟩

set_option maxRecDepth 20000 in
theorem parse_shortModule : Syntax.Module.parse
    (Lexer.universalNewlines (bareMapText ++ deletingText).toList) = .ok shortModule := by
  rfl

set_option maxRecDepth 20000 in
theorem parse_longModule : Syntax.Module.parse
    (Lexer.universalNewlines (printingText ++ deletingText ++ bareMapText).toList) =
      .ok longModule := by
  rfl

theorem deletingProgram_routine_independent :
    ∃ (out out' : Text) (w w' : Workspace) (r : Routine),
      exec (Compile.source "p.py" (bareMapText ++ deletingText).toList)
        (Compile.start "p.py" Table.empty) = (.ok out, w) ∧
      exec (Compile.source "q.py" (printingText ++ deletingText ++ bareMapText).toList)
        (Compile.start "q.py" Table.empty) = (.ok out', w') ∧
      deletingProgram ∈ shortModule.programs ∧ deletingProgram ∈ longModule.programs ∧
      (∀ x ∈ deletingProgram.usedMaps,
        SharesMap shortModule longModule Table.empty Table.empty x) ∧
      r.fn.name = "f" ∧ HasRoutine r w.module out ∧ HasRoutine r w'.module out' := by
  obtain ⟨out, w, htree⟩ := exec_of_isOk (m := Compile.tree "p.py" shortModule)
    (s := Compile.start "p.py" Table.empty) (by decide +kernel)
  obtain ⟨out', w', htree'⟩ := exec_of_isOk (m := Compile.tree "q.py" longModule)
    (s := Compile.start "q.py" Table.empty) (by decide +kernel)
  have h := (exec_source parse_shortModule (Compile.start "p.py" Table.empty)).trans htree
  have h' := (exec_source parse_longModule (Compile.start "q.py" Table.empty)).trans htree'
  have hd : deletingProgram ∈ shortModule.programs := List.mem_cons_self
  have hd' : deletingProgram ∈ longModule.programs := List.mem_cons_of_mem _ List.mem_cons_self
  have hmaps : ∀ x ∈ deletingProgram.usedMaps,
      SharesMap shortModule longModule Table.empty Table.empty x := by
    intro x hx
    obtain rfl : x = "m" := List.mem_singleton.mp hx
    exact .inl ⟨bareMap, List.mem_cons_self, List.mem_cons_self, rfl⟩
  obtain ⟨r, hname, -, hhas, hhas'⟩ :=
    source_routine_independent h h' parse_shortModule parse_longModule hd hd' hmaps
  exact ⟨out, out', w, w', r, h, h', hd, hd', hmaps, hname, hhas, hhas'⟩

end BpfCompiler.Lower
