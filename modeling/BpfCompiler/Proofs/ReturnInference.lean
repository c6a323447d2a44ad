import BpfCompiler.Lower.ReturnType
import BpfCompiler.Proofs.NamedStatements
import Mathlib.Data.List.Basic

/-!
# Inference of return types

The walk by levels is the walk with a queue: take the node in front, put its parts at the end.  A function
without annotation has the type that the returns so met agree on.  It has none exactly when two of them
differ, whatever their order; only the two types that the message names depend on it.  An empty type would
count as no type, but the types of the returns of a parsed function are not empty.
-/

namespace BpfCompiler.Syntax

namespace Stmt

@[simp]
theorem merge_nil {α : Type} (xs : List (List α)) : merge xs [] = xs := by
  cases xs <;> rfl

theorem merge_assoc {α : Type} (xs ys zs : List (List α)) :
    merge (merge xs ys) zs = merge xs (merge ys zs) := by
  induction xs generalizing ys zs with
  | nil => rfl
  | cons x xs ih =>
    cases ys with
    | nil => rfl
    | cons y ys =>
      cases zs with
      | nil => rfl
      | cons z zs => simp [merge, ih]

end Stmt

/-- What the walk meets on its way to the statements: a statement, or a handler or case with its body. -/
inductive TreeNode where
  | stmt (statement : Stmt)
  | branch (body : List Stmt)

namespace TreeNode

open Stmt (merge levels listLevels branchLevels merge_nil merge_assoc)

def ofBranches (branches : List (Option Expr × List Stmt)) : List TreeNode :=
  branches.map fun (_, body) => branch body

/-- The parts of a node that can hold statements, in the order of its fields. -/
def children : TreeNode → List TreeNode
  | stmt (.function d) => d.body.map stmt
  | stmt (.classDef _ _ _ body _) => body.map stmt
  | stmt (.forLoop _ _ _ body orelse) => body.map stmt ++ orelse.map stmt
  | stmt (.whileLoop _ body orelse) => body.map stmt ++ orelse.map stmt
  | stmt (.cond _ body orelse) => body.map stmt ++ orelse.map stmt
  | stmt (.withBlock _ _ body) => body.map stmt
  | stmt (.matchBlock _ cases) => ofBranches cases
  | stmt (.tryBlock _ body handlers orelse finish) =>
    body.map stmt ++ ofBranches handlers ++ orelse.map stmt ++ finish.map stmt
  | branch body => body.map stmt
  | _ => []

noncomputable def sizeAll : List TreeNode → Nat
  | [] => 0
  | n :: rest => sizeOf n + sizeAll rest

@[simp]
theorem sizeAll_append (xs ys : List TreeNode) : sizeAll (xs ++ ys) = sizeAll xs + sizeAll ys := by
  induction xs with
  | nil => simp [sizeAll]
  | cons x xs ih => simp [sizeAll, ih, Nat.add_assoc]

theorem sizeAll_map_stmt (body : List Stmt) : sizeAll (body.map stmt) + 1 = sizeOf body := by
  induction body with
  | nil => rfl
  | cons s rest ih =>
    simp only [sizeAll, List.map_cons, List.cons.sizeOf_spec, stmt.sizeOf_spec] at ih ⊢
    omega

theorem sizeAll_ofBranches_lt (branches : List (Option Expr × List Stmt)) :
    sizeAll (ofBranches branches) < sizeOf branches := by
  induction branches with
  | nil => simp [sizeAll, ofBranches]
  | cons b rest ih =>
    obtain ⟨guard, body⟩ := b
    simp only [sizeAll, ofBranches, List.map_cons, List.cons.sizeOf_spec, branch.sizeOf_spec,
      Prod.mk.sizeOf_spec] at ih ⊢
    omega

theorem sizeAll_children_lt (n : TreeNode) : sizeAll n.children < sizeOf n := by
  have hbody := sizeAll_map_stmt
  cases n with
  | branch body =>
    simp only [children, branch.sizeOf_spec]
    grind
  | stmt s =>
    cases s with
    | function d =>
      obtain ⟨isAsync, name, params, body, decorators, returns⟩ := d
      simp only [children, stmt.sizeOf_spec, Stmt.function.sizeOf_spec, FunctionDef.mk.sizeOf_spec]
      grind
    | matchBlock subject cases =>
      have hcases := sizeAll_ofBranches_lt cases
      simp only [children, stmt.sizeOf_spec, Stmt.matchBlock.sizeOf_spec]
      omega
    | tryBlock isGroup body handlers orelse finish =>
      have hhandlers := sizeAll_ofBranches_lt handlers
      simp only [children, sizeAll_append, stmt.sizeOf_spec, Stmt.tryBlock.sizeOf_spec]
      grind
    | _ => simp [children, sizeAll] <;> grind

/-- The nodes that a walk meets from those in its queue. -/
def walkFrom : List TreeNode → List TreeNode
  | [] => []
  | n :: rest => n :: walkFrom (rest ++ n.children)
termination_by queue => sizeAll queue
decreasing_by
  have hparts := sizeAll_children_lt n
  simp only [sizeAll, sizeAll_append]
  omega

/-- A walk meets the first nodes of its queue, then the rest and the parts of the first. -/
theorem walkFrom_append (xs ys : List TreeNode) :
    walkFrom (xs ++ ys) = xs ++ walkFrom (ys ++ xs.flatMap children) := by
  induction xs generalizing ys with
  | nil => simp
  | cons x xs ih =>
    rw [List.cons_append, walkFrom, List.append_assoc, ih]
    simp

/-- The statement at a node. -/
def own : TreeNode → List Stmt
  | stmt s => [s]
  | branch _ => []

/-- The statements at and below the nodes of a queue, by depth. -/
def queueLevels : List TreeNode → List (List Stmt)
  | [] => []
  | stmt s :: rest => merge s.levels (queueLevels rest)
  | branch body :: rest => merge ([] :: listLevels body) (queueLevels rest)

theorem queueLevels_append (xs ys : List TreeNode) :
    queueLevels (xs ++ ys) = merge (queueLevels xs) (queueLevels ys) := by
  induction xs with
  | nil => rfl
  | cons x xs ih => cases x <;> simp [queueLevels, ih, merge_assoc]

theorem queueLevels_map_stmt (body : List Stmt) : queueLevels (body.map stmt) = listLevels body := by
  induction body with
  | nil => rfl
  | cons s rest ih => simp [queueLevels, listLevels, ih]

theorem queueLevels_ofBranches (branches : List (Option Expr × List Stmt)) :
    queueLevels (ofBranches branches) = branchLevels branches := by
  induction branches with
  | nil => rfl
  | cons b rest ih =>
    obtain ⟨guard, body⟩ := b
    rw [branchLevels, ← ih]
    rfl

/-- Below a node are the levels of its parts. -/
theorem queueLevels_singleton (n : TreeNode) : queueLevels [n] = n.own :: queueLevels n.children := by
  cases n with
  | branch body => simp [queueLevels, own, children, queueLevels_map_stmt]
  | stmt s =>
    cases s <;>
      simp [queueLevels, levels, own, children, queueLevels_append, queueLevels_map_stmt,
        queueLevels_ofBranches, merge_assoc]

/-- The first level of a queue holds the statements at its nodes, the next ones are those of the parts. -/
theorem queueLevels_cons (n : TreeNode) (rest : List TreeNode) :
    queueLevels (n :: rest) = (n :: rest).flatMap own :: queueLevels ((n :: rest).flatMap children) := by
  induction rest generalizing n with
  | nil => simp [queueLevels_singleton]
  | cons next rest ih =>
    rw [← List.singleton_append, queueLevels_append, queueLevels_singleton, ih next]
    simp [merge, queueLevels_append]

theorem flatten_queueLevels (queue : List TreeNode) :
    (queueLevels queue).flatten = queue.flatMap own ++ (queueLevels (queue.flatMap children)).flatten := by
  cases queue with
  | nil => rfl
  | cons n rest => rw [queueLevels_cons, List.flatten_cons]

theorem sizeAll_flatMap_children_lt (n : TreeNode) (rest : List TreeNode) :
    sizeAll ((n :: rest).flatMap children) < sizeAll (n :: rest) := by
  induction rest generalizing n with
  | nil => simpa [sizeAll] using sizeAll_children_lt n
  | cons next rest ih =>
    have hn := sizeAll_children_lt n
    have hrest := ih next
    rw [List.flatMap_cons, sizeAll_append]
    simp only [sizeAll] at hn hrest ⊢
    omega

/-- The walk with a queue meets the statements level by level. -/
theorem flatMap_own_walkFrom (queue : List TreeNode) :
    (walkFrom queue).flatMap own = (queueLevels queue).flatten := by
  match queue with
  | [] => simp [walkFrom, queueLevels]
  | n :: rest =>
    -- one round of the queue meets one level, and leaves the parts of its nodes
    have ih := flatMap_own_walkFrom ((n :: rest).flatMap children)
    have hstep := walkFrom_append (n :: rest) []
    rw [List.append_nil, List.nil_append] at hstep
    rw [hstep, List.flatMap_append, ih, ← flatten_queueLevels]
termination_by sizeAll queue
decreasing_by exact sizeAll_flatMap_children_lt n rest

end TreeNode

theorem Stmt.walk_eq (body : List Stmt) :
    Stmt.walk body = (TreeNode.walkFrom (body.map .stmt)).flatMap TreeNode.own := by
  rw [TreeNode.flatMap_own_walkFrom, TreeNode.queueLevels_map_stmt, Stmt.walk]

end BpfCompiler.Syntax

/-! ### Texts of expressions -/

namespace BpfCompiler.Double

theorem Decimal.render_ne_empty (style : Style) (d : Decimal) : d.render style ≠ "" := by
  have hdigits : toString d.digits ≠ "" := Nat.repr_ne_empty
  unfold Decimal.render
  dsimp only
  split
  · split
    · simp
    · split <;> simp
  · split
    · rename_i hnil
      exact (hdigits (String.toList_eq_nil_iff.mp hnil)).elim
    · simp

theorem render_ne_empty (style : Style) (d : Double) : d.render style ≠ "" := by
  unfold render
  dsimp only
  split
  · decide
  · split
    · simp
    · split <;> simp [Decimal.render_ne_empty]

end BpfCompiler.Double

namespace BpfCompiler.Syntax.Printer

theorem withoutInfinity_ne_empty {s : String} (h : s ≠ "") : withoutInfinity s ≠ "" := by
  rw [withoutInfinity, ne_eq, String.ofList_eq_empty_iff]
  rw [ne_eq, ← String.toList_eq_nil_iff] at h
  unfold replaceInfinity
  split <;> simp_all

theorem literalText_ne_empty (value : Literal) : literalText false value ≠ "" := by
  cases value with
  | bool b => cases b <;> simp [literalText]
  | int n => cases n <;> simp [literalText, toString, Int.repr, Nat.repr_ne_empty]
  | float d => exact withoutInfinity_ne_empty (Double.render_ne_empty _ d)
  | imaginary d => exact withoutInfinity_ne_empty (by simp)
  | text t => simp [literalText, Text.quoted]
  | _ => simp [literalText, Text.quotedBytes]

@[simp] theorem parens_eq_empty_iff (needed : Bool) (s : String) :
    parens needed s = "" ↔ needed = false ∧ s = "" := by
  cases needed <;> simp [parens]

/-- Apart from names, every expression is written with a sign of its own; a tuple is in brackets at this rank. -/
theorem print_ne_empty {rank : Nat} (hrank : Rank.tuple < rank) {e : Expr} (h : e.Named) :
    print false rank e ≠ some "" := by
  cases e with
  | name id => simpa [print, Expr.Named] using h
  | const value marked => simp [print, literalText_ne_empty]
  | formatted => exact h.elim
  | bool op values =>
    rcases values with _ | ⟨e₁, _ | ⟨e₂, rest⟩⟩
    · simp [Expr.Named] at h
    · simp [Expr.Named] at h
    · intro hs
      simp only [print, printRising, Option.pure_def, Option.bind_eq_bind, Option.bind_eq_some_iff,
        Option.some.injEq] at hs
      obtain ⟨_, ⟨s₁, -, _, ⟨s₂, -, ss, -, rfl⟩, rfl⟩, hempty⟩ := hs
      cases op <;> simp [BoolOp.symbol] at hempty
  | compare left rest =>
    rcases rest with _ | ⟨⟨op, e⟩, rest⟩
    · exact absurd rfl h
    · intro hs
      simp only [print, printCompared, Option.pure_def, Option.bind_eq_bind, Option.bind_eq_some_iff,
        Option.some.injEq] at hs
      obtain ⟨s₁, -, _, ⟨s₂, -, ss, -, rfl⟩, hempty⟩ := hs
      simp [String.join_cons] at hempty
  | yield value => cases value <;> simp [print, Option.bind_eq_some_iff]
  | subscript value index =>
    cases index with
    | tuple elements => cases elements <;> simp [print, Option.bind_eq_some_iff]
    | _ => simp [print, Option.bind_eq_some_iff]
  | unary op operand => cases op <;> simp [print, UnaryOp.symbol, Option.bind_eq_some_iff]
  | set elements => cases elements <;> simp [print, Option.bind_eq_some_iff]
  | tuple elements => simp [print, hrank, Option.bind_eq_some_iff]
  | _ => simp [print, Option.bind_eq_some_iff]

end BpfCompiler.Syntax.Printer

namespace BpfCompiler.Lower

open Syntax

theorem kind_ne_empty (e : Expr) : e.kind ≠ "" := by
  cases e <;> simp [Expr.kind]

theorem sourceOrKind_ne_empty {e : Expr} (h : e.Named) : sourceOrKind e ≠ "" := by
  unfold sourceOrKind
  split
  · rename_i s hsource
    rintro rfl
    unfold Expr.source? at hsource
    split at hsource
    · exact Printer.print_ne_empty (by decide) h hsource
    · cases hsource
  · exact h
  · exact kind_ne_empty _

theorem returnedType_ne_empty {value : Option Expr} (h : ∀ e ∈ value, e.Named) : returnedType value ≠ "" := by
  cases value with
  | none => decide
  | some e =>
    have he := h e rfl
    unfold returnedType
    split
    · decide
    · rename_i value _ _
      cases value <;> simp [Literal.typeName]
    · rename_i heq
      cases heq
      exact he
    · rename_i heq
      cases heq
      exact he
    · rename_i heq
      cases heq
      exact sourceOrKind_ne_empty he
    · rename_i heq
      cases heq
      exact sourceOrKind_ne_empty he

/-- The type of a return at a node. -/
def returned? : TreeNode → Option String
  | .stmt (.ret value) => some (returnedType value)
  | _ => none

/-- The types of the returns that a walk from the function meets. -/
def returnsMet (d : Function) : List String := (TreeNode.walkFrom [.stmt (.function d)]).filterMap returned?

theorem returnsMet_eq (d : Function) : returnsMet d = returnTypes d.body := by
  have hroot : TreeNode.walkFrom [.stmt (.function d)] =
      .stmt (.function d) :: TreeNode.walkFrom (d.body.map .stmt) := by
    rw [TreeNode.walkFrom]
    rfl
  rw [returnsMet, hroot, returnTypes, Stmt.walk_eq, List.filterMap_flatMap, List.filterMap_cons]
  simp only [returned?]
  rw [List.filterMap_eq_flatMap_toList]
  refine List.flatMap_congr fun n _ => ?_
  cases n with
  | branch body => rfl
  | stmt s => cases s <;> rfl

/-! ### Agreement -/

/-- The types fail to agree at the first one that differs from the very first. -/
theorem agreedType_eq_error_iff (types : List String) (fault : Fault) :
    agreedType types = .error fault ↔ ∃ first before later after,
      types = first :: (before ++ later :: after) ∧ (∀ t ∈ before, t = first) ∧ later ≠ first ∧
        fault = .conflictingReturns first later := by
  cases types with
  | nil => simp [agreedType]
  | cons first rest =>
    constructor
    · intro h
      cases hfind : rest.find? fun t => t != first with
      | none => simp [agreedType, hfind] at h
      | some later =>
        obtain ⟨hlater, before, after, hrest, hbefore⟩ := List.find?_eq_some_iff_append.mp hfind
        refine ⟨first, before, later, after, by rw [hrest], by simpa using hbefore,
          by simpa using hlater, ?_⟩
        simpa [agreedType, hfind] using h.symm
    · rintro ⟨first', before, later, after, htypes, hbefore, hlater, rfl⟩
      obtain ⟨rfl, rfl⟩ := List.cons.inj htypes
      have hfind : (before ++ later :: after).find? (fun t => t != first) = some later := by
        rw [List.find?_eq_some_iff_append]
        exact ⟨by simpa using hlater, before, after, rfl, by simpa using hbefore⟩
      simp only [agreedType, hfind]

theorem agreedType_eq_ok_iff (types : List String) (t : String) :
    agreedType types = .ok t ↔ ∃ s, (∀ r ∈ types, r = s) ∧ (types = [] → s = "") ∧
      t = if s = "" then "None" else s := by
  cases types with
  | nil => simp [agreedType, eq_comm]
  | cons first rest =>
    cases hfind : rest.find? fun t => t != first with
    | none =>
      have hrest : ∀ s ∈ rest, s = first := by simpa using hfind
      simp only [agreedType, hfind, Except.ok.injEq, List.forall_mem_cons, List.cons_ne_nil, false_implies,
        true_and]
      constructor
      · rintro rfl
        exact ⟨first, ⟨rfl, hrest⟩, rfl⟩
      · rintro ⟨s, ⟨rfl, -⟩, rfl⟩
        rfl
    | some later =>
      have hmem : later ∈ rest := List.mem_of_find?_eq_some hfind
      have hlater : later ≠ first := by simpa using List.find?_some hfind
      simp only [agreedType, hfind]
      constructor
      · intro h
        cases h
      · rintro ⟨s, hall, -⟩
        have hsame : later = first := (hall later (by simp [hmem])).trans (hall first (by simp)).symm
        exact absurd hsame hlater

theorem exists_agreedType_eq_error_iff (types : List String) :
    (∃ fault, agreedType types = .error fault) ↔ ∃ s ∈ types, ∃ t ∈ types, s ≠ t := by
  constructor
  · rintro ⟨fault, hfault⟩
    obtain ⟨first, before, later, after, rfl, -, hlater, -⟩ :=
      (agreedType_eq_error_iff types fault).mp hfault
    exact ⟨later, by simp, first, by simp, hlater⟩
  · rintro ⟨s, hs, t, ht, hdiffer⟩
    cases hagreed : agreedType types with
    | error fault => exact ⟨fault, rfl⟩
    | ok agreed =>
      obtain ⟨r, hall, -⟩ := (agreedType_eq_ok_iff types agreed).mp hagreed
      exact absurd ((hall s hs).trans (hall t ht).symm) hdiffer

/-- Whether types agree, and on what, does not depend on their order. -/
theorem toOption_agreedType_of_perm {types types' : List String} (h : types.Perm types') :
    (agreedType types).toOption = (agreedType types').toOption := by
  have hagreed : ∀ (ts : List String) (t : String), (agreedType ts).toOption = some t ↔
      ∃ s, (∀ r ∈ ts, r = s) ∧ (ts = [] → s = "") ∧ t = if s = "" then "None" else s := by
    intro ts t
    rw [← agreedType_eq_ok_iff]
    cases agreedType ts <;> simp [Except.toOption]
  have hnil : types = [] ↔ types' = [] := by
    rw [← List.length_eq_zero_iff, h.length_eq, List.length_eq_zero_iff]
  ext t
  rw [hagreed, hagreed, hnil]
  simp only [h.mem_iff]

/-- The types of the returns that are met in a function of a source text are not empty. -/
theorem returnsMet_ne_empty {text : List Char} {m : Syntax.Module} (hparse : Module.parse text = .ok m)
    {d : Function} (hd : d ∈ m.functions) {t : String} (ht : t ∈ returnsMet d) : t ≠ "" := by
  rw [returnsMet_eq] at ht
  obtain ⟨s, hs, hreturned⟩ := List.mem_filterMap.mp ht
  cases s with
  | ret value =>
    obtain rfl := Option.some.inj hreturned
    refine returnedType_ne_empty ?_
    rintro e rfl
    exact Module.named_of_parse hparse hd hs
  | _ => cases hreturned

/-- A function without annotation has the type that the returns met agree on, whatever their order, and none
exactly when two of them differ; the message names the first one and the first that differs from it.  Only an
empty type would be given as `None`, and no return of a source text has one. -/
theorem returnType_of_returnsMet (d : Function) (hnone : d.returns = none) :
    let types := returnsMet d
    ((∃ fault, returnType d = .error fault) ↔ ∃ s ∈ types, ∃ t ∈ types, s ≠ t) ∧
    (∀ fault, returnType d = .error fault → ∃ first before later after,
      types = first :: (before ++ later :: after) ∧ (∀ t ∈ before, t = first) ∧ later ≠ first ∧
        fault = .conflictingReturns first later ∧ fault.className = "ValueError" ∧
        fault.message? = some ("Conflicting return types:" ++ first ++ " vs " ++ later)) ∧
    (∀ t ∈ types, (∀ s ∈ types, s = t) → returnType d = .ok (if t = "" then "None" else t)) ∧
    (∀ text m, Module.parse text = .ok m → d ∈ m.functions →
      ∀ t ∈ types, t ≠ "" ∧ ((∀ s ∈ types, s = t) → returnType d = .ok t)) ∧
    (types = [] → returnType d = .ok "None") ∧
    (∀ d' : Function, d'.returns = none → (returnsMet d').Perm types →
      (returnType d').toOption = (returnType d).toOption) := by
  intro types
  have htype : ∀ f : Function, f.returns = none → returnType f = agreedType (returnsMet f) := by
    intro f hf
    rw [returnType, hf, returnsMet_eq]
  have hagree : ∀ t ∈ types, (∀ s ∈ types, s = t) →
      agreedType types = .ok (if t = "" then "None" else t) := by
    intro t ht hall
    exact (agreedType_eq_ok_iff types _).mpr ⟨t, hall, fun hnil => by simp [hnil] at ht, rfl⟩
  rw [htype d hnone]
  refine ⟨exists_agreedType_eq_error_iff types, ?names, hagree, ?parsed, ?bare, ?order⟩
  case names =>
    intro fault hfault
    obtain ⟨first, before, later, after, htypes, hbefore, hlater, rfl⟩ :=
      (agreedType_eq_error_iff types fault).mp hfault
    exact ⟨first, before, later, after, htypes, hbefore, hlater, rfl, rfl, rfl⟩
  case parsed =>
    intro text m hparse hd t ht
    have hnonempty := returnsMet_ne_empty hparse hd ht
    refine ⟨hnonempty, fun hall => ?_⟩
    rw [← if_neg (c := t = "") (t := "None") (e := t) hnonempty]
    exact hagree t ht hall
  case bare =>
    intro hnil
    exact (agreedType_eq_ok_iff types "None").mpr ⟨"", by simp [hnil], fun _ => rfl, rfl⟩
  case order =>
    intro d' hnone' hperm
    rw [htype d' hnone']
    exact toOption_agreedType_of_perm hperm

/-- A number returned inside a condition, above the text that is returned after it. -/
def mixedReturns : Function :=
  ⟨false, "mixed", [],
    [.cond (.name "x") [.ret (some (.const (.int 1) false))] [], .ret (some (.name "c_text"))], [], none⟩

/-- A function inside a handler returns what the function around it does. -/
def nestedReturns : Function :=
  ⟨false, "outer", [],
    [.tryBlock false [.pass]
      [(none, [.function ⟨false, "inner", [], [.ret (some (.name "int"))], [], none⟩])] [] [],
     .ret (some (.const (.int 0) false))], [], none⟩

/-- A source text with a function inside another. -/
def nestedSource : List Char := "def outer():\n def inner():\n  return int\n return 0\n".toList

/-- The walk meets the later, shallower return first, so it is the one that the message names first. -/
theorem returnType_of_returnsMet_nested :
    returnType nestedReturns = .ok "int" ∧
    (∃ fault, returnType mixedReturns = .error fault ∧ fault.className = "ValueError" ∧
      fault.message? = some "Conflicting return types:c_text vs int") ∧
    ∃ m d, Module.parse nestedSource = .ok m ∧ d ∈ m.functions ∧ returnsMet d = ["int", "int"] ∧
      returnType d = .ok "int" := by
  refine ⟨?nested, ?mixed, ?parsed⟩
  case nested =>
    have htypes : returnsMet nestedReturns = ["int", "int"] := returnsMet_eq nestedReturns
    obtain ⟨-, -, hagree, -⟩ := returnType_of_returnsMet nestedReturns rfl
    rw [htypes] at hagree
    exact hagree "int" (by simp) (by simp)
  case mixed =>
    have htypes : returnsMet mixedReturns = ["c_text", "int"] := returnsMet_eq mixedReturns
    obtain ⟨hfails, hnames, -⟩ := returnType_of_returnsMet mixedReturns rfl
    rw [htypes] at hfails hnames
    obtain ⟨fault, hfault⟩ := hfails.mpr ⟨"c_text", by simp, "int", by simp, by decide⟩
    obtain ⟨first, before, later, after, hmet, -, -, -, hclass, hmessage⟩ := hnames fault hfault
    refine ⟨fault, hfault, hclass, ?_⟩
    obtain ⟨rfl, hrest⟩ := List.cons.inj hmet
    cases before with
    | nil =>
      obtain ⟨rfl, -⟩ := List.cons.inj hrest
      exact hmessage
    | cons other before => simp at hrest
  case parsed =>
    have hchecks : ((Module.parse nestedSource).toOption.any fun m => m.functions.any fun d =>
        d.returns.isNone && returnTypes d.body == ["int", "int"]) = true := by
      decide +kernel
    cases hparse : Module.parse nestedSource with
    | error fault => simp [hparse, Except.toOption] at hchecks
    | ok m =>
      simp only [hparse, Except.toOption, Option.any_some, List.any_eq_true, Bool.and_eq_true,
        Option.isNone_iff_eq_none, beq_iff_eq] at hchecks
      obtain ⟨d, hd, hnone, htypes⟩ := hchecks
      rw [← returnsMet_eq] at htypes
      obtain ⟨-, -, -, hparsed, -⟩ := returnType_of_returnsMet d hnone
      refine ⟨m, d, rfl, hd, htypes, ?_⟩
      exact (hparsed _ m hparse hd "int" (by simp [htypes])).2 (by simp [htypes])

end BpfCompiler.Lower
