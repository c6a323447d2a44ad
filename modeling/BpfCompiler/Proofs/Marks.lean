import BpfCompiler.Host.Marking
import BpfCompiler.Proofs.Compilation

/-!
# Marks in the source and at run time

The compiler goes through the decorators of a definition from the topmost down and stops at the first one
that it looks for.  At run time decorators are applied from the lowest up, and a later one overrides what an
earlier one has set.  Both come to the same: the flags are set by any decorator of their kind, and the section
is that of the topmost decorator which gives one.
-/

namespace BpfCompiler.Host

open IR Lower Syntax

/-! ### Decorators -/

/-- What a decorator in the source is at run time. -/
inductive Decorator.Denotes : Expr → Decorator → Prop
  | bpf : Denotes (.name "bpf") .bpf
  | map : Denotes (.name "map") .map
  | bpfglobal : Denotes (.name "bpfglobal") .bpfglobal
  | place (name : Text) (marked : Bool) :
      Denotes (.call (.name "section") [.const (.text name) marked] []) (.place (.text name))

/-- The compiler reads the marks that decorators set at run time. -/
theorem map_ofMark_filterMap {exprs : List Expr} {decorators : List Decorator}
    (h : List.Forall₂ Decorator.Denotes exprs decorators) :
    (exprs.filterMap Mark.ofDecorator?).map Decorator.ofMark = decorators := by
  induction h with
  | nil => rfl
  | cons hfirst _ ih => cases hfirst <;> exact congrArg (List.cons _) ih

theorem markingOf_eq {d : Syntax.Function} {decorators : List Decorator}
    (h : List.Forall₂ Decorator.Denotes d.decorators decorators) :
    markingOf d = .ofDecorators decorators := by
  rw [markingOf, FunctionDef.marks, map_ofMark_filterMap h]

/-! ### First match and last write -/

/-- The section that a mark gives. -/
def sectionOf? : Mark → Option Text
  | .place sectionName => some sectionName
  | _ => none

theorem ofDecorators_map_ofMark (marks : List Mark) :
    Marking.ofDecorators (marks.map Decorator.ofMark) =
      ⟨marks.contains .program, marks.contains .global, marks.contains .map,
        (marks.findSome? sectionOf?).map Datum.text⟩ := by
  induction marks with
  | nil => rfl
  | cons mark rest ih =>
    -- the topmost decorator is applied to what the others have set
    have hlast : Marking.ofDecorators ((mark :: rest).map Decorator.ofMark) =
        (Marking.ofDecorators (rest.map Decorator.ofMark)).apply (Decorator.ofMark mark) := rfl
    rw [hlast, ih]
    cases mark <;> simp [Marking.apply, Decorator.ofMark, sectionOf?, List.findSome?_cons]

theorem markingOf_eq_marks (d : Syntax.Function) :
    markingOf d = ⟨d.isCompiled, d.isGlobal, d.isMap, (d.marks.findSome? sectionOf?).map Datum.text⟩ :=
  ofDecorators_map_ofMark d.marks

/-- The search for a section stops at marks of globals too, but there is none. -/
theorem probe?_eq {d : Syntax.Function} (hglobal : d.isGlobal = false) :
    d.probe? = some ((d.marks.findSome? sectionOf?).getD "helper") := by
  unfold FunctionDef.isGlobal at hglobal
  unfold FunctionDef.probe?
  generalize d.marks = marks at hglobal ⊢
  induction marks with
  | nil => rfl
  | cons mark rest ih =>
    cases mark with
    | global => simp at hglobal
    | place sectionName => rfl
    | program | map => exact ih (by simpa using hglobal)

theorem probe?_eq_section {d : Syntax.Function} (hglobal : (markingOf d).isGlobal = false) :
    ∃ sectionName, d.probe? = some sectionName ∧
      (markingOf d).sectionName.getD (.text "helper") = .text sectionName := by
  rw [markingOf_eq_marks] at hglobal ⊢
  refine ⟨_, probe?_eq hglobal, ?_⟩
  cases d.marks.findSome? sectionOf? <;> rfl

/-! ### The stages of a compilation -/

/-- A stage that goes through the definitions of one kind comes to each of them in its turn. -/
theorem forM_filter_append_cons {α : Type} (select : α → Bool) (step : α → Build PUnit)
    (before after : List α) (a : α) :
    ((before ++ a :: after).filter select).forM step = (do
      (before.filter select).forM step
      if select a then step a
      (after.filter select).forM step) := by
  rw [List.filter_append, List.filter_cons]
  by_cases ha : select a = true
  · simp [ha]
  · simp [ha]

theorem lowerProgram_section {d : Syntax.Function} (hglobal : (markingOf d).isGlobal = false)
    {w w' : Workspace} (h : exec (lowerProgram d) w = (.ok (), w')) :
    ∃ fn, w'.module.functions = w.module.functions ++ [fn] ∧ fn.name = d.name ∧
      (markingOf d).sectionName.getD (.text "helper") = .text fn.sectionName := by
  obtain ⟨fn, hlowered, -, hfunctions⟩ := lowerProgram_inv h
  obtain ⟨w₁, parts, f, -, rfl, hbuilds⟩ := hlowered.builds
  obtain ⟨scope, blocks, formats, hfn⟩ := hbuilds.sameContext.fn
  obtain ⟨sectionName, hprobe, hsection⟩ := probe?_eq_section hglobal
  have hdeclared : f.fn.sectionName = d.probe?.getD Text.empty := by
    rw [hfn]
    rfl
  refine ⟨f.fn, hfunctions, hlowered.name, ?_⟩
  rw [hsection, hdeclared, hprobe, Option.getD_some]

/-- For a definition whose decorators are any sequence of the four, what the compiler does with it is what
the attributes say that it has at run time.  It is compiled if it is marked for that and is not asynchronous.
The stage of the maps defines it in its turn if it is marked as a map and passes over it otherwise.  The stage
of the programs lowers it in its turn if it is marked neither as a map nor as a global.  The function that it
then becomes is in the section of the attribute, or is a helper if there is none. -/
theorem stages_follow_marking {d : Syntax.Function} {decorators : List Decorator}
    (h : List.Forall₂ Decorator.Denotes d.decorators decorators) :
    let marking := Marking.ofDecorators decorators
    (∀ m : Syntax.Module, d ∈ m.functions →
      (d ∈ m.compiled ↔ marking.isBpf = true ∧ d.isAsync = false)) ∧
    (∀ before after : List Syntax.Function, Map.defineAll (before ++ d :: after) = (do
      Map.defineAll before
      if marking.isMap then Map.define d
      Map.defineAll after)) ∧
    (∀ before after : List Syntax.Function, lowerPrograms (before ++ d :: after) = (do
      lowerPrograms before
      if !marking.isMap && !marking.isGlobal then lowerProgram d
      lowerPrograms after)) ∧
    (marking.isGlobal = false → ∀ w w' : Workspace, exec (lowerProgram d) w = (.ok (), w') →
      ∃ fn, w'.module.functions = w.module.functions ++ [fn] ∧ fn.name = d.name ∧
        marking.sectionName.getD (.text "helper") = .text fn.sectionName) := by
  rw [← markingOf_eq h]
  refine ⟨fun m hm => ?_, fun before after => ?_, fun before after => ?_, fun hglobal w w' hexec => ?_⟩
  · simp [Syntax.Module.compiled, hm, markingOf_eq_marks, and_comm]
  · rw [markingOf_eq_marks]
    exact forM_filter_append_cons _ Map.define before after d
  · rw [markingOf_eq_marks]
    exact forM_filter_append_cons _ lowerProgram before after d
  · exact lowerProgram_section hglobal hexec

/-- A program with two sections and a repeated mark. -/
def twoSections : Syntax.Function where
  isAsync := false
  name := "f"
  params := []
  body := [.ret (some (.call (.name "c_int64") [.const (.int 0) false] []))]
  decorators := [.call (.name "section") [.const (.text "kprobe/a") false] [], .name "bpf",
    .call (.name "section") [.const (.text "kprobe/b") false] [], .name "bpf"]
  returns := some (.name "c_int64")

def twoSectionsDecorators : List Decorator :=
  [.place (.text "kprobe/a"), .bpf, .place (.text "kprobe/b"), .bpf]

theorem twoSections_follows_marking :
    List.Forall₂ Decorator.Denotes twoSections.decorators twoSectionsDecorators ∧
    (twoSections ∈ (⟨[.function twoSections]⟩ : Syntax.Module).compiled) ∧
    ∃ w' fn, exec (lowerProgram twoSections) (Compile.start "prog.py" Table.empty) = (.ok (), w') ∧
      w'.module.functions = [fn] ∧ fn.sectionName = "kprobe/a" := by
  have hdenotes : List.Forall₂ Decorator.Denotes twoSections.decorators twoSectionsDecorators :=
    .cons (.place _ _) (.cons .bpf (.cons (.place _ _) (.cons .bpf .nil)))
  obtain ⟨hcompiled, -, -, hsection⟩ := stages_follow_marking hdenotes
  refine ⟨hdenotes, (hcompiled _ ?_).mpr ⟨rfl, rfl⟩, ?_⟩
  · have hfunctions : (⟨[.function twoSections]⟩ : Syntax.Module).functions = [twoSections] := by cbv
    simp [hfunctions]
  · have hok : (exec (lowerProgram twoSections) (Compile.start "prog.py" Table.empty)).1.isOk = true := by
      decide +kernel
    obtain ⟨⟨⟩, w', hexec⟩ := exec_of_isOk hok
    obtain ⟨fn, hfunctions, -, hsectionName⟩ := hsection rfl _ _ hexec
    refine ⟨w', fn, hexec, ?_, (Datum.text.inj hsectionName).symm⟩
    rw [hfunctions, IR.Module.functions, start_globals]
    rfl

end BpfCompiler.Host
