import BpfCompiler.Proofs.BodySteps
import BpfCompiler.Proofs.Compilation

/-!
# The table of maps

Only the definition of a map changes the table, and it enters the address of the variable that has the name
of the map.  So a table that compilations have left holds the address of a global under each of its names,
whether the compilations succeeded or not.
-/

namespace BpfCompiler.Compile

/-- The tables that sequences of compilations leave, whatever the files and however each one ends. -/
inductive Leaves : Table IR.Operand → Prop
  | empty : Leaves Table.empty
  | run {maps : Table IR.Operand} (h : Leaves maps) (path : String)
      (text : Except FileFault (List Char)) : Leaves (run path text maps).maps

end BpfCompiler.Compile

namespace BpfCompiler.Lower

open IR Syntax Emit

/-- Every entry is the address of the global that has the name of the map. -/
def HoldsAddresses (maps : Table Operand) : Prop :=
  ∀ name o, maps.get? name = some o → ∃ ty, o = .global name (.ptr ty)

/-- If all entries were addresses before, they still are. -/
def KeepsAddresses (w w' : Workspace) : Prop := HoldsAddresses w.maps → HoldsAddresses w'.maps

instance : Std.Refl KeepsAddresses := ⟨fun _ h => h⟩

instance : IsTrans Workspace KeepsAddresses := ⟨fun _ _ _ h h' hw => h' (h hw)⟩

theorem Composed.keepsAddresses {α : Type} {m : Build α} (h : ModuleCode m) :
    Preserves KeepsAddresses m := by
  intro w hw
  rw [(h.quiet w).maps]
  exact hw

theorem HoldsAddresses.insert {maps : Table Operand} (h : HoldsAddresses maps) (name : String)
    (params : Map.Params) : HoldsAddresses (maps.insert name (mapAddress name params)) := by
  intro other o ho
  rw [Table.get?_insert] at ho
  split at ho
  · rename_i heq
    obtain rfl := Option.some.inj ho
    exact ⟨_, by rw [heq]; rfl⟩
  · exact h other o ho

theorem Defines.keepsAddresses {name : String} {made : Option Map.Params} {m : Build Unit}
    (h : Defines name made m) : Preserves KeepsAddresses m := by
  induction h with
  | say line hrest ih =>
    exact Preserves.bind (build_say_code line).moduleCode.keepsAddresses fun _ => ih
  | fail fault => exact Preserves.throw fault
  | create params =>
    refine Preserves.bind (describeVariable_code name params).keepsAddresses fun _ w hw => ?_
    exact hw.insert name params

/-! ### Functions -/

def Frame.SameMaps (f f' : Frame) : Prop := f'.workspace.maps = f.workspace.maps

instance : Std.Refl Frame.SameMaps := ⟨fun _ => rfl⟩

instance : IsTrans Frame Frame.SameMaps := ⟨fun _ _ _ h h' => Eq.trans h' h⟩

theorem FrameStep.sameMaps {stored : String → Prop} {prints : Prop} {α : Type} {m : Emit α}
    (h : FrameStep stored prints α m) : Preserves Frame.SameMaps m := by
  cases h with
  | straight h =>
    intro f
    obtain ⟨new, hstraight⟩ := h.preserves f
    exact hstraight.maps
  | terminate op =>
    intro f
    rw [exec_terminate]
    split <;> rfl
  | addBlock | moveTo | bindSlot => exact fun _ => rfl

/-- A body leaves the table alone, however it ends. -/
theorem functionBody_sameMaps (result : Ty) (body : List Stmt) :
    Preserves Frame.SameMaps (functionBody result body) := by
  have hcode : BodyCode (fun _ => True) (fun _ => True) True (functionBody result body) :=
    functionBody_code result fun _ _ => trivial
  exact hcode.preserves FrameStep.sameMaps

theorem lowerProgram_keepsAddresses (d : Syntax.Function) :
    Preserves KeepsAddresses (lowerProgram d) := by
  refine Preserves.bind (build_say_code _).moduleCode.keepsAddresses fun _ =>
    Preserves.bind (Preserves.lift _) fun result => ?_
  intro w hw
  rw [buildProgram, buildFunction_eq]
  split
  · exact hw
  · rename_i scope hscope
    let start := Frame.start { w with module := { w.module with scope := scope } }
      (declareProgram d result)
    have hmaps : (exec (functionBody result d.body) start).2.workspace.maps = w.maps :=
      functionBody_sameMaps result d.body start
    change HoldsAddresses (exec (functionBody result d.body) start).2.workspace.maps
    rw [hmaps]
    exact hw

/-! ### Whole compilations -/

theorem source_keepsAddresses (path : String) (text : List Char) :
    Preserves KeepsAddresses (Compile.source path text) := by
  have hlower : ∀ m, Preserves KeepsAddresses (Compile.lower m) := by
    intro m
    refine Preserves.bind (build_say_code _).moduleCode.keepsAddresses fun _ => ?_
    refine Preserves.bind (forM_say_code _).moduleCode.keepsAddresses fun _ => ?_
    refine Preserves.bind (Preserves.forM fun d _ => (define_defines d).keepsAddresses) fun _ => ?_
    refine Preserves.bind (Preserves.forM fun d _ => lowerProgram_keepsAddresses d) fun _ => ?_
    exact Preserves.bind (license_code m).keepsAddresses fun _ => (retained_code _).keepsAddresses
  have hparse : Preserves KeepsAddresses (Compile.parse (Lexer.universalNewlines text)) := by
    unfold Compile.parse
    split
    · exact Preserves.pure _
    · exact Preserves.throw _
  refine Preserves.bind hparse fun m => Preserves.bind (hlower m) fun _ => ?_
  exact Preserves.bind sign_code.moduleCode.keepsAddresses fun _ =>
    (write_code path).moduleCode.keepsAddresses

/-- What compilations leave in the table are addresses of globals. -/
theorem holdsAddresses_of_leaves {maps : Table Operand} (h : Compile.Leaves maps) :
    HoldsAddresses maps := by
  induction h with
  | empty =>
    intro name o ho
    cases ho
  | @run maps _ path text ih =>
    cases text with
    | error fault => exact ih
    | ok text => exact source_keepsAddresses path text (Compile.start path maps) ih

end BpfCompiler.Lower
