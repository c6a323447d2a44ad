import BpfCompiler.Proofs.NamedExpressions
import Mathlib.Data.Nat.Init

/-!
# Names in programs

Every value that a statement of a parsed program returns is named, and so is every value that a function of
it returns, through all statements inside the function.
-/

namespace BpfCompiler.Syntax

namespace Stmt

/-- A returned value is named, and so are all values that a function returns. -/
def Named : Stmt → Prop
  | .ret (some e) => e.Named
  | .function d => ∀ e, .ret (some e) ∈ walk d.body → e.Named
  | _ => True

def LevelsNamed (levels : List (List Stmt)) : Prop := ∀ s ∈ levels.flatten, s.Named

/-- All statements at and below those of a list are named. -/
def AllNamed (body : List Stmt) : Prop := LevelsNamed (listLevels body)

/-- The bodies of branches, each behind its test, error or guard. -/
def BranchesNamed {α : Type} (branches : List (α × List Stmt)) : Prop :=
  ∀ branch ∈ branches, AllNamed branch.2

@[simp] theorem levelsNamed_nil : LevelsNamed [] := by simp [LevelsNamed]

@[simp] theorem levelsNamed_cons (level : List Stmt) (rest : List (List Stmt)) :
    LevelsNamed (level :: rest) ↔ (∀ s ∈ level, s.Named) ∧ LevelsNamed rest := by
  simp only [LevelsNamed, List.flatten_cons, List.forall_mem_append]

@[simp] theorem levelsNamed_merge (xs ys : List (List Stmt)) :
    LevelsNamed (merge xs ys) ↔ LevelsNamed xs ∧ LevelsNamed ys := by
  induction xs, ys using merge.induct with
  | case1 ys => simp [merge]
  | case2 xs hxs => cases xs <;> simp [merge]
  | case3 x xs y ys ih =>
    simp only [merge, levelsNamed_cons, List.forall_mem_append, ih]
    exact and_and_and_comm

@[simp] theorem levelsNamed_listLevels (body : List Stmt) :
    LevelsNamed (listLevels body) ↔ AllNamed body := .rfl

@[simp] theorem allNamed_nil : AllNamed [] := levelsNamed_nil

@[simp] theorem allNamed_cons (s : Stmt) (rest : List Stmt) :
    AllNamed (s :: rest) ↔ LevelsNamed (levels s) ∧ AllNamed rest :=
  levelsNamed_merge (levels s) (listLevels rest)

@[simp] theorem allNamed_append (first second : List Stmt) :
    AllNamed (first ++ second) ↔ AllNamed first ∧ AllNamed second := by
  induction first with
  | nil => simp
  | cons s rest ih => simp [ih, and_assoc]

theorem BranchesNamed.nil {α : Type} : BranchesNamed ([] : List (α × List Stmt)) := by
  simp [BranchesNamed]

theorem BranchesNamed.cons {α : Type} {branch : α × List Stmt} {branches : List (α × List Stmt)}
    (h : AllNamed branch.2) (hrest : BranchesNamed branches) : BranchesNamed (branch :: branches) :=
  List.forall_mem_cons.mpr ⟨h, hrest⟩

theorem BranchesNamed.reverse {α : Type} {branches : List (α × List Stmt)} (h : BranchesNamed branches) :
    BranchesNamed branches.reverse :=
  fun branch hbranch => h branch (List.mem_reverse.mp hbranch)

@[simp] theorem levelsNamed_branchLevels (branches : List (Option Expr × List Stmt)) :
    LevelsNamed (branchLevels branches) ↔ BranchesNamed branches := by
  unfold BranchesNamed
  induction branches with
  | nil => simp [branchLevels]
  | cons branch rest ih => simp [branchLevels, ih]

theorem levelsNamed_function {d : Function} (h : AllNamed d.body) : LevelsNamed (levels (.function d)) := by
  have hreturns : Named (.function d) := fun e he => h _ he
  simp [levels, h, hreturns]

/-- The tests of a chain, the last one first, nested into one another. -/
theorem allNamed_chain {branches : List (Expr × List Stmt)} (h : BranchesNamed branches) {last : List Stmt}
    (hlast : AllNamed last) :
    AllNamed (branches.foldl (fun orelse (test, body) => [Stmt.cond test body orelse]) last) := by
  induction branches generalizing last with
  | nil => exact hlast
  | cons branch branches ih =>
    obtain ⟨hfirst, hrest⟩ := List.forall_mem_cons.mp h
    exact ih hrest (by simp [levels, Named, hlast, hfirst])

end Stmt

namespace Grammar

open Reader Stmt

/-- Whatever statement the reader gives is named, with all below it. -/
abbrev ReadsNamed (m : Reader Stmt) : Prop := Reads (fun s => LevelsNamed (levels s)) m

/-- A statement without statements inside it. -/
theorem readsNamed_leaf {s : Stmt} (hlevels : levels s = [[s]]) (hs : s.Named) : ReadsNamed (pure s) :=
  .pure (by simp [hlevels, hs])

/-! ### Simple statements -/

section Simple

variable {l : Level}

theorem expressionStatement_named : ReadsNamed (expressionStatement l) := by
  refine .after fun first => .after fun token => ?_
  split
  · exact .after fun _ => readsNamed_leaf rfl trivial
  · refine .otherwise fun _ => .after fun _ => .after fun annotation => .after fun _ => ?_
    exact .optional fun value => readsNamed_leaf rfl trivial
  · split
    · exact .otherwise fun _ => .after fun _ => .after fun _ => readsNamed_leaf rfl trivial
    · exact readsNamed_leaf rfl trivial
  · exact readsNamed_leaf rfl trivial

theorem importStatement_named : ReadsNamed (importStatement l) :=
  .after fun _ => .when fun _ => readsNamed_leaf rfl trivial

theorem importFromStatement_named : ReadsNamed (importFromStatement l) := by
  refine .after fun dots => .after fun _ => ?_
  refine .ite (.after fun source => ?_) (.after fun _ => .after fun source => ?_)
  all_goals
    refine .after fun _ => .after fun _ => .ite (readsNamed_leaf rfl trivial) (.after fun _ => .ite ?_ ?_)
    · exact .after fun _ => .after fun _ => readsNamed_leaf rfl trivial
    · exact .after fun _ => .when fun _ => readsNamed_leaf rfl trivial

theorem deleteStatement_named : ReadsNamed (deleteStatement l) :=
  .after fun _ => .otherwise fun _ => readsNamed_leaf rfl trivial

theorem simpleStatement_named (h : Reads Expr.Named l.expression) : ReadsNamed (simpleStatement l) := by
  refine .after fun token => ?_
  split
  · refine .after fun _ => .after fun _ => .ite ?_ (readsNamed_leaf rfl trivial)
    exact (starExpressions_named h).bind fun e he => readsNamed_leaf rfl he
  · exact .after fun _ => readsNamed_leaf rfl trivial
  · exact .after fun _ => readsNamed_leaf rfl trivial
  · exact .after fun _ => readsNamed_leaf rfl trivial
  · exact .after fun _ => importStatement_named
  · exact .after fun _ => importFromStatement_named
  · exact .after fun _ => .after fun _ => readsNamed_leaf rfl trivial
  · exact .after fun _ => .after fun _ => readsNamed_leaf rfl trivial
  · exact .after fun _ => deleteStatement_named
  · exact .after fun _ => .after fun _ => .after fun _ => .optional fun _ => readsNamed_leaf rfl trivial
  · refine .after fun _ => .after fun _ => .ite (.after fun _ => .after fun _ => ?_) ?_
    · exact .optional fun _ => readsNamed_leaf rfl trivial
    · exact readsNamed_leaf rfl trivial
  · exact expressionStatement_named

theorem line_named (h : Reads Expr.Named l.expression) : Reads AllNamed (line l) := by
  refine (simpleStatement_named h).bind fun first hfirst => ?_
  refine Reads.bind (Q := fun r : List Stmt × Bool => AllNamed r.1.reverse)
    (.repeatFrom ?_ _ (by simpa using hfirst)) fun _ hstatements => .after fun _ => .pure hstatements
  rintro ⟨statements, done⟩ hstatements
  refine .ite .done (.after fun _ => .ite (.after fun _ => .ite (.next hstatements) ?_) (.next hstatements))
  exact (simpleStatement_named h).bind fun s hs => .next (by simpa using ⟨hstatements, hs⟩)

end Simple

/-! ### Compound statements -/

section Compound

variable {l : Level} {block : Reader (List Stmt)} (hblock : Reads AllNamed block)
include hblock

theorem colonBlock_named : Reads AllNamed (colonBlock block) := .after fun _ => hblock

theorem elseBlock_named : Reads AllNamed (elseBlock block) :=
  .after fun _ => .ite (colonBlock_named hblock) (.pure allNamed_nil)

theorem ifRest_named : ReadsNamed (ifRest l block) := by
  refine .after fun test => (colonBlock_named hblock).bind fun body hbody => ?_
  refine Reads.bind (Q := BranchesNamed)
    (.repeatFrom (fun branches hbranches => .after fun _ => .ite ?_ .done) _ .nil)
    fun branches hbranches => ?_
  · exact .after fun test => (colonBlock_named hblock).bind fun body hbody => .next (.cons hbody hbranches)
  · have hrest : ∀ last, AllNamed last → ReadsNamed (pure (.cond test body
        (branches.foldl (fun orelse (test, body) => [Stmt.cond test body orelse]) last))) :=
      fun last hlast => .pure (by simp [levels, Named, hbody, allNamed_chain hbranches hlast])
    exact .after fun _ => .ite ((colonBlock_named hblock).bind hrest) ((Reads.pure allNamed_nil).bind hrest)

theorem forRest_named (isAsync : Bool) : ReadsNamed (forRest l isAsync block) := by
  refine .after fun target => .after fun _ => .after fun source => ?_
  refine (colonBlock_named hblock).bind fun body hbody => ?_
  exact (elseBlock_named hblock).bind fun orelse horelse => .pure (by simp [levels, Named, hbody, horelse])

theorem withRest_named (isAsync : Bool) : ReadsNamed (withRest l isAsync block) :=
  .after fun _ => hblock.bind fun body hbody => .pure (by simp [levels, Named, hbody])

theorem handler_named (grouped : Option Bool) :
    Reads (fun r => AllNamed r.2.2) (handler l block grouped) := by
  have hrest : ∀ (starred : Bool) (error : Option Expr),
      Reads (fun r => AllNamed r.2.2) (do return (starred, error, ← colonBlock block)) :=
    fun _ _ => (colonBlock_named hblock).bind fun body hbody => .pure hbody
  refine .after fun starred => .when fun _ => .after fun _ => .ite (.after (hrest starred)) ?_
  exact .after fun _ => .after fun _ => .ite (.after fun _ => .after (hrest starred)) (.after (hrest starred))

theorem finallyBlock_named : Reads (fun finish => AllNamed (finish.getD [])) (finallyBlock block) :=
  .after fun _ => .ite ((colonBlock_named hblock).bind fun _ hbody => .pure hbody) (.pure allNamed_nil)

theorem tryRest_named : ReadsNamed (tryRest l block) := by
  refine (colonBlock_named hblock).bind fun body hbody => ?_
  refine Reads.bind (Q := fun r : List (Option Expr × List Stmt) × Option Bool => BranchesNamed r.1)
    (.repeatFrom ?_ _ .nil) ?_
  · rintro ⟨handlers, grouped⟩ hhandlers
    refine .after fun _ => .ite ?_ .done
    exact (handler_named hblock grouped).bind fun ⟨_, _, _⟩ hbody => .next (.cons hbody hhandlers)
  · rintro ⟨handlers, grouped⟩ (hhandlers : BranchesNamed handlers)
    have hrest : ∀ orelse, AllNamed orelse → ReadsNamed (do
        let finish ← finallyBlock block
        if handlers.isEmpty && finish.isNone then missingHandler
        return .tryBlock (grouped.getD false) body handlers.reverse orelse (finish.getD [])) := by
      intro orelse horelse
      refine (finallyBlock_named hblock).bind fun finish hfinish => .when fun _ => .pure ?_
      simp [levels, Named, hbody, horelse, hfinish, hhandlers.reverse]
    exact .ite ((Reads.pure allNamed_nil).bind hrest) ((elseBlock_named hblock).bind hrest)

theorem functionRest_named (isAsync : Bool) (decorators : List Expr) :
    ReadsNamed (functionRest l isAsync decorators block) := by
  refine .after fun name => .after fun _ => .after fun params => .after fun _ => .after fun _ => ?_
  refine .optional fun returns => (colonBlock_named hblock).bind fun body hbody => .pure ?_
  exact levelsNamed_function hbody

theorem classRest_named (decorators : List Expr) : ReadsNamed (classRest l decorators block) := by
  have hrest : ∀ name (arguments : List Expr × List (Option String × Expr)), ReadsNamed (do
      let body ← colonBlock block
      return .classDef name arguments.1 arguments.2 body decorators) :=
    fun _ _ => (colonBlock_named hblock).bind fun body hbody => .pure (by simp [levels, Named, hbody])
  exact .after fun name => .after fun _ => .ite (.after (hrest name)) (.after (hrest name))

theorem decorated_named : ReadsNamed (decorated l block) := by
  refine .after fun decorators => .after fun _ => .ite (classRest_named hblock _) ?_
  exact .after fun isAsync => .after fun _ => functionRest_named hblock _ _

theorem caseBlock_named : Reads (fun branch => AllNamed branch.2) (caseBlock l block) := by
  refine .after fun _ => .after fun _ => .after fun _ => .optional fun guard => ?_
  exact (colonBlock_named hblock).bind fun body hbody => .pure hbody

theorem matchStatement_named : ReadsNamed (matchStatement l block) := by
  have hrest : ∀ subject, ReadsNamed (do
      let first ← caseBlock l block
      let cases ← repeatFrom
        (fun (cases : List (Option Expr × List Stmt)) => do
          if (← peek) == .dedent then return none
          return some ((← caseBlock l block) :: cases))
        (l.fuel + 1) [first]
      advance
      return .matchBlock subject cases.reverse) := by
    refine fun subject => (caseBlock_named hblock).bind fun first hfirst => ?_
    refine Reads.bind (Q := BranchesNamed)
      (.repeatFrom (fun cases hcases => .after fun _ => .ite .done ?_) _ (.cons hfirst .nil))
      fun cases hcases => .after fun _ => .pure (by simp [levels, Named, hcases.reverse])
    exact (caseBlock_named hblock).bind fun branch hbranch => .next (.cons hbranch hcases)
  refine .after fun _ => .after fun ⟨items, trailing⟩ => ?_
  dsimp only
  split
  all_goals
    refine .after fun subject => .after fun _ => .when fun _ => ?_
    exact .after fun _ => .after fun _ => hrest subject

theorem statement_named (h : Reads Expr.Named l.expression) : Reads AllNamed (statement l block) := by
  have hone : ∀ {m : Reader Stmt}, ReadsNamed m → Reads AllNamed (do return [← m]) :=
    fun hm => hm.bind fun s hs => .pure (by simpa using hs)
  refine .after fun token => ?_
  split
  · exact .after fun _ => hone (ifRest_named hblock)
  · refine hone (.after fun _ => .after fun test => (colonBlock_named hblock).bind fun body hbody => ?_)
    exact (elseBlock_named hblock).bind fun orelse horelse => .pure (by simp [levels, Named, hbody, horelse])
  · exact .after fun _ => hone (forRest_named hblock _)
  · exact .after fun _ => hone (withRest_named hblock _)
  · exact .after fun _ => hone (tryRest_named hblock)
  · exact .after fun _ => hone (functionRest_named hblock _ _)
  · exact .after fun _ => hone (classRest_named hblock _)
  · exact hone (decorated_named hblock)
  · refine .after fun _ => .after fun _ => .ite (hone (forRest_named hblock _)) (.after fun _ => .ite ?_ ?_)
    · exact hone (withRest_named hblock _)
    · exact .after fun _ => hone (functionRest_named hblock _ _)
  · exact .orElse (hone (matchStatement_named hblock)) (line_named h)
  · exact line_named h

theorem statementsUntil_named (h : Reads Expr.Named l.expression) (ending : Token) :
    Reads AllNamed (statementsUntil l block ending) := by
  refine Reads.bind (Q := fun statements : List (List Stmt) => AllNamed statements.reverse.flatten)
    (.repeatFrom (fun statements hstatements => .after fun _ => .ite .done ?_) _ allNamed_nil)
    fun _ hstatements => .after fun _ => .pure hstatements
  exact (statement_named hblock h).bind fun body hbody => .next (by simpa using ⟨hstatements, hbody⟩)

end Compound

theorem blocks_named {l : Level} (h : Reads Expr.Named l.expression) (n : Nat) :
    Reads AllNamed (blocks l n) := by
  induction n with
  | zero => exact .stuck
  | succ n ih => exact .after fun _ => .ite (.after fun _ => statementsUntil_named ih h _) (line_named h)

theorem program_named (n : Nat) (strict : Bool) : Reads AllNamed (program n strict) :=
  statementsUntil_named (blocks_named (level_named strict n) n) (level_named strict n) _

end Grammar

namespace Module

theorem parse_named {text : List Char} {m : Module} (hparse : parse text = .ok m) : Stmt.AllNamed m.body := by
  unfold parse Grammar.readWhole at hparse
  split at hparse
  · cases hparse
  · split at hparse
    · rename_i body rest hread
      cases hparse
      exact Grammar.program_named _ _ hread
    · split at hparse
      · split at hparse <;> cases hparse
      · cases hparse

/-- The values that the functions of a source text return are named. -/
theorem named_of_parse {text : List Char} {m : Module} (hparse : parse text = .ok m) {d : Function}
    (hd : d ∈ m.functions) {e : Expr} (he : .ret (some e) ∈ Stmt.walk d.body) : e.Named := by
  obtain ⟨s, hs, hfunction⟩ := List.mem_filterMap.mp hd
  have hnamed := parse_named hparse s hs
  cases s with
  | function d' =>
    cases hfunction
    exact hnamed e he
  | _ => cases hfunction

end Module

end BpfCompiler.Syntax
