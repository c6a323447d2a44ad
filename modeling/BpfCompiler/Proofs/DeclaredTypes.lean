import BpfCompiler.Proofs.Comparisons
import BpfCompiler.Proofs.Printing
import Mathlib.Algebra.Group.Int.Defs

/-!
# Variables with declared types

A variable is declared by an assignment of a constant: a truth value, or a number as a signed or unsigned type of
32 or 64 bits.  Its slot has the width of the type, and nothing of the sign.  A number with a minus sign is no
literal, so that its declaration stores nothing.  What was stored is read as a signed number of its width when it
is compared or printed (`declared_reading`).
-/

namespace BpfCompiler.Lower

open IR Syntax Emit
open Syntax.Words (word)

inductive DeclaredType where
  | truth | int32 | uint32 | int64 | uint64
deriving DecidableEq

namespace DeclaredType

def width : DeclaredType → Nat
  | truth => 1
  | int32 | uint32 => 32
  | int64 | uint64 => 64

/-- The range of the type: its least value and the first one behind it. -/
def range : DeclaredType → Int × Int
  | truth => (0, 2)
  | int32 => (-2 ^ 31, 2 ^ 31)
  | uint32 => (0, 2 ^ 32)
  | int64 => (-2 ^ 63, 2 ^ 63)
  | uint64 => (0, 2 ^ 64)

/-- The name that a number is declared with; a truth value has none. -/
def name? : DeclaredType → Option String
  | truth => none
  | int32 => some "c_int32"
  | uint32 => some "c_uint32"
  | int64 => some "c_int64"
  | uint64 => some "c_uint64"

end DeclaredType

/-- A constant of a type, in its range. -/
structure Constant where
  ty : DeclaredType
  value : Int
  inRange : ty.range.1 ≤ value ∧ value < ty.range.2

namespace Constant

def numeral (n : Int) : Expr :=
  if n < 0 then .unary .minus (.const (.int (-n)) false) else .const (.int n) false

def expr (c : Constant) : Expr :=
  match c.ty.name? with
  | none => .const (.bool (c.value = 1)) false
  | some name => .call (.name name) [numeral c.value] []

/-- The constant as a signed number of the width of its type. -/
def reading (c : Constant) : Int :=
  if c.value < 2 ^ (c.ty.width - 1) then c.value else c.value - 2 ^ c.ty.width

/-- What the declaration stores. -/
def stored? (c : Constant) : Option Value :=
  if c.value < 0 then none else some (.int c.ty.width (BitVec.ofInt c.ty.width c.value))

theorem value_lt (c : Constant) : c.value < 2 ^ c.ty.width := by
  have hhigh := c.inRange.2
  cases hty : c.ty <;> rw [hty] at hhigh <;> simp only [DeclaredType.range] at hhigh <;>
    simp only [DeclaredType.width] <;> omega

theorem toInt_stored (c : Constant) (hvalue : 0 ≤ c.value) :
    (BitVec.ofInt c.ty.width c.value).toInt = c.reading := by
  have hwidth : 2 ^ c.ty.width = 2 * 2 ^ (c.ty.width - 1) := by
    cases c.ty <;> decide
  have hlt := c.value_lt
  rw [BitVec.toInt_ofInt, Int.bmod, reading, Int.emod_eq_of_lt hvalue (by exact_mod_cast hlt)]
  have hhalf : ((2 ^ c.ty.width : Nat) + 1 : Int) / 2 = 2 ^ (c.ty.width - 1) := by
    push_cast [hwidth]
    omega
  rw [hhalf]
  push_cast
  rfl

/-- The word of a constant is that of its reading if the type has the width of a word, or the highest bit of
the constant is not set. -/
theorem word_reading_iff (c : Constant) :
    word c.reading = word c.value ↔ c.ty.width = 64 ∨ c.value < 2 ^ (c.ty.width - 1) := by
  rw [reading]
  split
  · simp [*]
  · rename_i hhigh
    rw [word, word, ← BitVec.toInt_inj, BitVec.toInt_ofInt, BitVec.toInt_ofInt,
      Int.bmod_eq_bmod_iff_bmod_sub_eq_zero]
    have hdifference : c.value - 2 ^ c.ty.width - c.value = -2 ^ c.ty.width := by omega
    rw [hdifference, or_iff_left hhigh]
    cases c.ty <;> decide

theorem natAbs_lt (c : Constant) : c.value.natAbs < 10 ^ 20 := by
  obtain ⟨hlow, hhigh⟩ := c.inRange
  cases hty : c.ty <;> rw [hty] at hlow hhigh <;> simp only [DeclaredType.range] at hlow hhigh <;> omega

end Constant

def declaration (d : String × Constant) : Stmt := .assign [.name d.1] d.2.expr

/-! ### One declaration -/

theorem DeclaredType.eq_truth {ty : DeclaredType} (h : ty.name? = none) : ty = truth := by
  cases ty <;> first | rfl | cases h

theorem DeclaredType.integerType?_name {ty : DeclaredType} {name : String} (h : ty.name? = some name) :
    integerType? name = some (ty.width, name) ∧ Helper.ofName? name = none ∧ name ≠ "deref" := by
  cases ty <;> cases h <;> decide

theorem slotPlan_expr (c : Constant) :
    ∃ align purpose, slotPlan c.expr = .fresh ⟨.int c.ty.width, align, purpose⟩ := by
  unfold Constant.expr
  cases hname : c.ty.name? with
  | none =>
    rw [DeclaredType.eq_truth hname]
    exact ⟨_, _, rfl⟩
  | some name =>
    dsimp only [slotPlan]
    rw [(DeclaredType.integerType?_name hname).1]
    exact ⟨_, _, rfl⟩

/-- A constant is stored and then shown in the log. -/
theorem exec_assign_constant {f : Frame} {x : String} {slot : Slot}
    (hslot : f.locals.get? x = some (some slot)) {width : Nat} (hwidth : slot.ty = .int width) {n : Int}
    (hn : n.natAbs < 10 ^ 20) (line : Text) :
    ∃ name f', exec (do
        assign x (some (Operand.int (.int width) n))
        checkShown (Operand.int (.int width) n)
        say line) f = (.ok (), f') ∧
      Straight f f' [⟨name, .store (Operand.int (.int width) n) slot.address⟩] := by
  have hagrees : slot.ty.agrees (Operand.int (.int width) n).ty = true := by
    simp [hwidth, Operand.int, Operand.ty, Ty.agrees]
  obtain ⟨name, f₁, hassign, hstraight⟩ := exec_assign hslot hagrees
  obtain ⟨f', hsay, hquiet, -⟩ := say_straight line f₁
  have hshown := fault?_int_of_canShow (canShow_of_natAbs_lt hn) width
  refine ⟨name, f', ?_, hstraight.trans hquiet⟩
  rw [exec_bind_ok hassign, exec_bind_ok (exec_checkShown hshown f₁), hsay]

/-- A constant that is written without a sign is stored, and one with a sign is passed over. -/
theorem exec_assignValue_constant {f : Frame} {x : String} {slot : Slot}
    (hslot : f.locals.get? x = some (some slot)) (c : Constant) (hwidth : slot.ty = .int c.ty.width) :
    ∃ code f', exec (assignValue x c.expr) f = (.ok (), f') ∧ Straight f f' code ∧
      (c.value < 0 ∧ code = [] ∨ 0 ≤ c.value ∧
        ∃ name, code = [⟨name, .store (Operand.int (.int c.ty.width) c.value) slot.address⟩]) := by
  unfold Constant.expr
  cases hname : c.ty.name? with
  | none =>
    have htruth := DeclaredType.eq_truth hname
    have hrange := c.inRange
    rw [htruth] at hrange hwidth ⊢
    obtain ⟨hlow, hhigh⟩ : 0 ≤ c.value ∧ c.value < 2 := hrange
    have hbit : (if decide (c.value = 1) = true then 1 else 0) = c.value := by
      simp only [decide_eq_true_eq]
      omega
    obtain ⟨name, f', hexec, hstraight⟩ := exec_assign_constant hslot hwidth c.natAbs_lt
      (("Assigned constant " : Text) ++ (Literal.bool (c.value = 1)).shown ++ " to " ++ x)
    refine ⟨_, f', ?_, hstraight, .inr ⟨hlow, name, rfl⟩⟩
    dsimp only [assignValue, assignConstant, constantOperand?]
    rw [hbit]
    exact hexec
  | some name =>
    obtain ⟨htype, hhelper, hderef⟩ := DeclaredType.integerType?_name hname
    obtain ⟨f₁, hsay, hquiet, -⟩ := say_straight ("Assignment call type: " ++ name) f
    rw [← hquiet.locals] at hslot
    dsimp only [assignValue, assignCall]
    by_cases hneg : c.value < 0
    · obtain ⟨f', hsay', hquiet', -⟩ := say_straight ("Unsupported assignment call type: " ++ name) f₁
      refine ⟨[], f', ?_, hquiet.trans hquiet', .inl ⟨hneg, rfl⟩⟩
      rw [exec_bind_ok hsay, htype, Constant.numeral, if_pos hneg]
      dsimp only [soleLiteral?, Expr.intLiteral?]
      rw [hhelper]
      dsimp only
      rw [if_neg fun h => hderef h.1]
      exact hsay'
    · obtain ⟨store, f', hexec, hstraight⟩ := exec_assign_constant hslot hwidth c.natAbs_lt
        (("Assigned " ++ name ++ " constant " : String) ++ (Literal.int c.value).shown ++ " to " ++ x)
      refine ⟨_, f', ?_, hquiet.trans hstraight, .inr ⟨Int.not_lt.mp hneg, store, rfl⟩⟩
      rw [exec_bind_ok hsay, htype, Constant.numeral, if_neg hneg]
      exact hexec

/-- A declaration fills the empty cell of its variable, if it stores anything. -/
theorem exec_declaration {f : Frame} {x : String} {slot : Slot}
    (hslot : f.locals.get? x = some (some slot)) (c : Constant) (hwidth : slot.ty = .int c.ty.width)
    (result : Ty) (returned : Bool) :
    ∃ code f', exec (lowerStmt result returned (declaration (x, c))) f = (.ok returned, f') ∧
      Straight f f' code ∧
      ∀ results (m : Machine) before after, m.registers slot.register = some (.cell before.length) →
        m.cells = before ++ none :: after →
          m.executeAll results code = some { m with cells := before ++ c.stored? :: after } := by
  obtain ⟨f₁, hsay, hquiet, -⟩ := say_straight (("Processing statement: " : Text) ++
    (Stmt.assign [.name x] c.expr).kind) f
  rw [← hquiet.locals] at hslot
  obtain ⟨code, f', hassign, hstraight, hcode⟩ := exec_assignValue_constant hslot c hwidth
  refine ⟨code, f', ?_, hquiet.trans hstraight, ?_⟩
  · have hsimple : exec (lowerSimple (declaration (x, c))) f = (.ok (), f') := by
      rw [declaration, lowerSimple, exec_bind_ok hsay]
      exact hassign
    rw [lowerStmt_simple rfl, exec_bind_ok hsimple]
    rfl
  · intro results m before after hregister hcells
    rcases hcode with ⟨hneg, rfl⟩ | ⟨hvalue, name, rfl⟩
    · rw [Machine.executeAll_nil, Constant.stored?, if_pos hneg, ← hcells]
    · rw [Machine.executeAll_singleton, Constant.stored?, if_neg (Int.not_lt.mpr hvalue)]
      have hstore : m.execute results
          ⟨name, .store (Operand.int (.int c.ty.width) c.value) slot.address⟩ = some _ :=
        Machine.execute_store rfl hregister slot.ty
      rw [hcells, List.set_append_right _ _ (Nat.le_refl _), Nat.sub_self] at hstore
      exact hstore

/-! ### Several declarations -/

theorem Constant.stored?_hasTy {c : Constant} {v : Value} (h : c.stored? = some v) :
    v.hasTy (.int c.ty.width) = true := by
  unfold stored? at h
  split at h <;> cases h
  simp [Value.hasTy]

/-- The slots lead to the cells from a place on, in order. -/
def Placed (m : Machine) : Nat → List Slot → Prop
  | _, [] => True
  | start, slot :: rest => m.registers slot.register = some (.cell start) ∧ Placed m (start + 1) rest

theorem Placed.of_registers {m m' : Machine} {start : Nat} {slots : List Slot} (h : Placed m start slots)
    (hsame : ∀ slot ∈ slots, m'.registers slot.register = m.registers slot.register) :
    Placed m' start slots := by
  induction slots generalizing start with
  | nil => trivial
  | cons slot rest ih =>
    have hrest := ih h.2 fun s hs => hsame s (List.mem_cons_of_mem _ hs)
    exact ⟨(hsame slot List.mem_cons_self).trans h.1, hrest⟩

/-- New slots lead to new cells, which are empty. -/
theorem executeAll_allocas {aligned : List (Slot × Option Nat)}
    (hdistinct : (aligned.map fun entry => entry.1.register).Nodup) (m : Machine) :
    ∃ m', (∀ results, m.executeAll results (aligned.map slotInst) = some m') ∧ m'.calls = m.calls ∧
      m'.cells = m.cells ++ List.replicate aligned.length none ∧
      (∀ name, name ∉ aligned.map (fun entry => entry.1.register) →
        m'.registers name = m.registers name) ∧
      Placed m' m.cells.length (aligned.map Prod.fst) := by
  induction aligned generalizing m with
  | nil => exact ⟨m, fun _ => rfl, rfl, by simp, fun _ _ => rfl, trivial⟩
  | cons entry rest ih =>
    obtain ⟨hfresh, hrest⟩ := List.nodup_cons.mp hdistinct
    let m₁ : Machine :=
      { m.set entry.1.register (.cell m.cells.length) with cells := m.cells ++ [none] }
    obtain ⟨m', hrun, hcalls, hcells, hothers, hplaced⟩ := ih hrest m₁
    have hregister : m'.registers entry.1.register = some (.cell m.cells.length) :=
      (hothers _ hfresh).trans (Function.update_self _ _ _)
    refine ⟨m', fun results => hrun results, hcalls, ?_, ?_, hregister, ?_⟩
    · rw [hcells, List.length_cons, List.replicate_succ, List.append_assoc]
      rfl
    · intro name hname
      rw [List.map_cons, List.mem_cons, not_or] at hname
      exact (hothers name hname.2).trans (Function.update_of_ne hname.1 _ _)
    · simpa [m₁] using hplaced

/-- The walk over declarations gives each variable a slot of the width of its type. -/
theorem exec_allocateSuite_declarations (decls : List (String × Constant)) (last : Option Slot)
    (f : Frame) :
    ∃ (entries : List ((String × Constant) × Slot)) (f' : Frame), entries.map Prod.fst = decls ∧
      exec (allocateSuite last (decls.map declaration)) f = (.ok (), f') ∧
      (∀ e ∈ entries, e.2.ty = .int e.1.2.ty.width) ∧
      Reserves f f' (entries.map Prod.snd) (entries.map fun e => (e.1.1, e.2)) := by
  induction decls generalizing last f with
  | nil => exact ⟨[], f, rfl, rfl, by simp, .refl f⟩
  | cons d rest ih =>
    obtain ⟨align, purpose, hplan⟩ := slotPlan_expr d.2
    obtain ⟨register, f₁, hfirst, hreserves⟩ := exec_allocateAssign_fresh hplan last d.1 f
    obtain ⟨entries, f', rfl, hexec, htypes, hreserves'⟩ := ih (some ⟨register, .int d.2.ty.width⟩) f₁
    refine ⟨(d, ⟨register, .int d.2.ty.width⟩) :: entries, f', rfl, ?_, ?_, hreserves.trans hreserves'⟩
    · rw [List.map_cons, allocateSuite, declaration, allocateStmt, exec_bind_ok hfirst]
      exact hexec
    · simpa using htypes

/-- The declarations fill the cells of their variables in order. -/
theorem exec_lowerBody_declarations {entries : List ((String × Constant) × Slot)} {f : Frame}
    (hslots : ∀ e ∈ entries, f.locals.get? e.1.1 = some (some e.2))
    (htypes : ∀ e ∈ entries, e.2.ty = .int e.1.2.ty.width) (result : Ty) (returned : Bool) :
    ∃ code f', exec (lowerBody result returned (entries.map fun e => declaration e.1)) f =
        (.ok returned, f') ∧ Straight f f' code ∧
      ∀ results (m : Machine) before, Placed m before.length (entries.map Prod.snd) →
        m.cells = before ++ List.replicate entries.length none →
          m.executeAll results code =
            some { m with cells := before ++ entries.map fun e => e.1.2.stored? } := by
  -- `before` grows by the cell of each declaration, so that the cells still to be filled are the empty ones.
  induction entries generalizing f with
  | nil =>
    refine ⟨[], f, rfl, Straight.refl f, ?_⟩
    intro results m before hplaced hcells
    rw [Machine.executeAll_nil, List.map_nil]
    exact congrArg some (congrArg (Machine.mk m.registers · m.calls) hcells)
  | cons e rest ih =>
    obtain ⟨code, f₁, hfirst, hstraight, hrun⟩ := exec_declaration (hslots e List.mem_cons_self) e.1.2
      (htypes e List.mem_cons_self) result returned
    obtain ⟨code', f', hrest, hstraight', hrun'⟩ := ih
      (fun e' he' => hstraight.locals ▸ hslots e' (List.mem_cons_of_mem _ he'))
      fun e' he' => htypes e' (List.mem_cons_of_mem _ he')
    refine ⟨code ++ code', f', ?_, hstraight.trans hstraight', ?_⟩
    · rw [List.map_cons, lowerBody, exec_bind_ok hfirst]
      exact hrest
    · intro results m before hplaced hcells
      have hstep := hrun results m before (List.replicate rest.length none) hplaced.1 hcells
      let m₁ : Machine :=
        { m with cells := before ++ e.1.2.stored? :: List.replicate rest.length none }
      have hplaced₁ : Placed m₁ (before ++ [e.1.2.stored?]).length (rest.map Prod.snd) := by
        rw [List.length_append]
        exact hplaced.2.of_registers fun _ _ => rfl
      have hrest' := hrun' results m₁ (before ++ [e.1.2.stored?]) hplaced₁ (by simp [m₁])
      rw [Machine.executeAll_append hstep hrest']
      simp [m₁]

theorem content_of_placed {entries : List ((String × Constant) × Slot)} {m : Machine}
    (before : List (Option Value)) (hplaced : Placed m before.length (entries.map Prod.snd))
    (hcells : m.cells = before ++ entries.map fun e => e.1.2.stored?)
    (htypes : ∀ e ∈ entries, e.2.ty = .int e.1.2.ty.width) :
    ∀ e ∈ entries, e.2.content m = e.1.2.stored? := by
  induction entries generalizing before with
  | nil => simp
  | cons e rest ih =>
    intro e' he'
    rcases List.mem_cons.mp he' with rfl | hrest
    · have haddress : e'.2.address.eval m = some (.cell before.length) :=
        Machine.eval_local hplaced.1 rfl
      have hcell : m.cells[before.length]? = some e'.1.2.stored? := by simp [hcells]
      rw [Slot.content, haddress, Option.bind_some, behind, hcell, Option.join_some, htypes e' he']
      cases hstored : e'.1.2.stored? with
      | none => rfl
      | some v => exact Option.filter_eq_some_iff.mpr ⟨rfl, Constant.stored?_hasTy hstored⟩
    · refine ih (before ++ [e.1.2.stored?]) ?_ ?_ ?_ e' hrest
      · rw [List.length_append]
        exact hplaced.2
      · simp [hcells]
      · exact fun e'' he'' => htypes e'' (List.mem_cons_of_mem _ he'')

theorem lookup_reverse_of_nodup {α β : Type} [BEq α] [LawfulBEq α] {entries : List (α × β)}
    (hnodup : (entries.map Prod.fst).Nodup) {a : α} {b : β} (h : (a, b) ∈ entries) :
    entries.reverse.lookup a = some b := by
  obtain ⟨first, second, hsplit⟩ := List.append_of_mem (List.mem_reverse.mpr h)
  refine List.lookup_eq_some_iff.mpr ⟨first, second, hsplit, ?_⟩
  rw [← List.nodup_reverse, ← List.map_reverse, hsplit, List.map_append, List.nodup_append] at hnodup
  intro p hp
  have hne := hnodup.2.2 p.1 (List.mem_map_of_mem hp) a (by simp)
  simpa using hne.symm

/-- Declared variables have slots of the widths of their types, and behind the declarations the slots hold what
was stored. -/
theorem exec_declarations {f : Frame} (hempty : f.locals = Table.empty)
    {decls : List (String × Constant)} (hnames : (decls.map Prod.fst).Nodup) (result : Ty) :
    ∃ (entries : List ((String × Constant) × Slot)) (setup : List Inst) (f' : Frame),
      entries.map Prod.fst = decls ∧
      exec (lowerStatements result (decls.map declaration)) f = (.ok false, f') ∧
      Appends f f' setup ∧ HasSlots f' ∧
      (∀ e ∈ entries, f'.locals.get? e.1.1 = some (some e.2) ∧ e.2.ty = .int e.1.2.ty.width) ∧
      ∀ m : Machine, ∃ m', (∀ results, m.executeAll results setup = some m') ∧ m'.calls = m.calls ∧
        ∀ e ∈ entries, e.2.content m' = e.1.2.stored? := by
  obtain ⟨entries, f₁, rfl, hallocate, htypes, hreserves⟩ :=
    exec_allocateSuite_declarations decls none f
  have hslots₁ : HasSlots f₁ := hasSlots_of_allocate hempty hallocate
  obtain ⟨f₂, hsay, hquiet, -⟩ :=
    say_straight ("Local symbol table: " ++ namesList f₁.locals.keys) f₁
  have hget : ∀ e ∈ entries, f₂.locals.get? e.1.1 = some (some e.2) := by
    intro e he
    rw [hquiet.locals, hreserves.get?_eq_some_iff hempty]
    apply lookup_reverse_of_nodup
    · simpa [List.map_map, Function.comp_def] using hnames
    · exact List.mem_map_of_mem (f := fun e => (e.1.1, e.2)) he
  obtain ⟨stores, f', hbody, hstraight, hstores⟩ :=
    exec_lowerBody_declarations hget htypes result false
  obtain ⟨aligned, happends, hmade⟩ := hreserves.slots
  have hgrown := hquiet.grown.trans hstraight.grown
  refine ⟨entries, aligned.map slotInst ++ ([] ++ stores), f', rfl, ?_, ?_, hslots₁.grown hgrown, ?_, ?_⟩
  · rw [lowerStatements, allocate, exec_bind_ok hallocate, exec_bind_ok (exec_get f₁),
      exec_bind_ok hsay, List.map_map]
    exact hbody
  · exact happends.trans (hquiet.trans hstraight).toAppends
  · exact fun e he => ⟨hstraight.locals ▸ hget e he, htypes e he⟩
  · intro m
    have hdistinct : (aligned.map fun entry => entry.1.register).Nodup := by
      simpa [slotInst, List.map_map, Function.comp_def] using happends.distinct
    obtain ⟨m₁, hrun₁, hcalls₁, hcells₁, -, hplaced₁⟩ := executeAll_allocas hdistinct m
    rw [hmade] at hplaced₁
    have hlength : aligned.length = entries.length := by
      simpa using congrArg List.length hmade
    rw [hlength] at hcells₁
    have hrun₂ := fun results => hstores results m₁ m.cells hplaced₁ hcells₁
    refine ⟨_, fun results => Machine.executeAll_append (hrun₁ results) (hrun₂ results), hcalls₁, ?_⟩
    exact content_of_placed m.cells (hplaced₁.of_registers fun _ _ => rfl) rfl htypes

/-! ### Comparing and printing declared variables -/

/-- Running the code makes the operand a truth value. -/
def RunsToTruth (m : Machine) (code : List Inst) (o : Operand) (b : Bool) : Prop :=
  ∀ results, ∃ m', m.executeAll results code = some m' ∧ o.eval m' = some (truth b)

theorem Computes.runsToTruth_iff {value : Machine → Option Value} {f f' : Frame} {code : List Inst}
    {o : Operand} (h : Computes value f code o f') (m : Machine) (b : Bool) :
    RunsToTruth m code o b ↔ value m = some (truth b) := by
  constructor
  · exact fun htruth => (h.eval_iff (fun _ => 0) m _).mp (htruth _)
  · exact fun hvalue results => (h.eval_iff results m _).mpr hvalue

theorem truth_injective {a b : Bool} (h : truth a = truth b) : a = b := by
  cases a <;> cases b <;> first | rfl | cases h

theorem related_stored_iff (predicate : Predicate) (c d : Constant) (b : Bool) :
    (c.stored?.bind fun u => d.stored?.bind (related predicate (max c.ty.width d.ty.width) u)) =
        some (truth b) ↔
      0 ≤ c.value ∧ 0 ≤ d.value ∧ b = predicate.onIntegers c.reading d.reading := by
  by_cases hc : c.value < 0
  · simp [Constant.stored?, hc, Int.not_le.mpr hc]
  · by_cases hd : d.value < 0
    · simp [Constant.stored?, hc, hd, Int.not_le.mpr hd]
    · have hanswer := related_int predicate (BitVec.ofInt c.ty.width c.value)
        (BitVec.ofInt d.ty.width d.value)
      rw [c.toInt_stored (Int.not_lt.mp hc), d.toInt_stored (Int.not_lt.mp hd)] at hanswer
      simp only [Constant.stored?, hc, hd, if_false, Option.bind_some, hanswer, Option.some_inj]
      constructor
      · exact fun htruth => ⟨Int.not_lt.mp hc, Int.not_lt.mp hd, (truth_injective htruth).symm⟩
      · rintro ⟨-, -, rfl⟩
        rfl

theorem argumentWord_stored_iff (c : Constant) (w : BitVec 64) :
    c.stored?.bind argumentWord = some (.int 64 w) ↔ 0 ≤ c.value ∧ w = word c.reading := by
  by_cases hc : c.value < 0
  · simp [Constant.stored?, hc, Int.not_le.mpr hc]
  · have hword : (BitVec.ofInt c.ty.width c.value).signExtend 64 = word c.reading := by
      rw [BitVec.signExtend, c.toInt_stored (Int.not_lt.mp hc), word]
    simp [Constant.stored?, hc, argumentWord, hword, Int.not_lt.mp hc, eq_comm]

/-- Declared variables are compared and printed as the signed numbers of their widths, and one that was declared
negative has no value.  A comparison is thus right exactly if neither is negative and the relation holds of the
readings as it does of the values. -/
theorem declared_reading {f : Frame} (hempty : f.locals = Table.empty)
    (hin : f.here < f.fn.blocks.length) {decls : List (String × Constant)}
    (hnames : (decls.map Prod.fst).Nodup) (result : Ty) :
    ∃ setup f₁, exec (lowerStatements result (decls.map declaration)) f = (.ok false, f₁) ∧
      Appends f f₁ setup ∧
      ∀ m : Machine, ∃ m₁, (∀ results, m.executeAll results setup = some m₁) ∧ m₁.calls = m.calls ∧
        ∀ x c, (x, c) ∈ decls →
          (∀ y d op relation, (y, d) ∈ decls → op.onIntegers? = some relation →
            ∃ o code f₂, exec (condition (.compare (.name x) [(op, .name y)])) f₁ = (.ok (some o), f₂) ∧
              Straight f₁ f₂ code ∧
              ∀ b, RunsToTruth m₁ code o b ↔
                0 ≤ c.value ∧ 0 ≤ d.value ∧ b = relation c.reading d.reading) ∧
          (f₁.workspace.module.scope.isUsed (formatName f₁.fn.name f₁.fn.formats) = false →
            ∃ o p code f₂, exec (printCall [.joined [.formatted (.name x) none none]]) f₁ =
                (.ok (some o), f₂) ∧ Shows f₁ f₂ code [p] ∧
              ∀ w, p.CallsWith code m₁ [.int 64 w] ↔ 0 ≤ c.value ∧ w = word c.reading) ∧
          (word c.reading = word c.value ↔ c.ty.width = 64 ∨ c.value < 2 ^ (c.ty.width - 1)) := by
  obtain ⟨entries, setup, f₁, rfl, hexec, happends, hslots, hentries, hrun⟩ :=
    exec_declarations hempty hnames result
  refine ⟨setup, f₁, hexec, happends, fun m => ?_⟩
  obtain ⟨m₁, hsetup, hcalls, hcontents⟩ := hrun m
  refine ⟨m₁, hsetup, hcalls, fun x c hc => ?_⟩
  obtain ⟨⟨_, s⟩, hs, rfl⟩ := List.mem_map.mp hc
  obtain ⟨hx, hwidth⟩ := hentries _ hs
  have hcontent := hcontents _ hs
  refine ⟨?_, ?_, c.word_reading_iff⟩
  · intro y d op relation hd hop
    obtain ⟨⟨_, t⟩, ht, rfl⟩ := List.mem_map.mp hd
    obtain ⟨hy, hwidth'⟩ := hentries _ ht
    obtain ⟨predicate, hpredicate, rfl⟩ := predicateOf?_of_onIntegers? hop
    obtain ⟨o, code, f₂, hcondition, hcomputes⟩ :=
      exec_compare_variables hslots.named hx hwidth hy hwidth' hpredicate
    refine ⟨o, code, f₂, hcondition, hcomputes.toStraight, fun b => ?_⟩
    rw [hcomputes.runsToTruth_iff, hcontent, hcontents _ ht]
    exact related_stored_iff predicate c d b
  · intro hfree
    have hpieces : [Expr.formatted (.name x) none none].mapM Piece.ofExpr? = some [.hole x] := rfl
    have hbound : ∀ id ∈ (holesOf [.hole x]).take 3, f₁.locals.get? id ≠ some none := by
      intro id hid
      obtain rfl : id = x := by simpa [holesOf, Piece.named?] using hid
      simp [hx]
    have hencodes : (formatOf [.hole x] ++ ("\n\x00" : Text)).utf8?.isSome = true := by
      -- The name of the variable is not part of the format.
      change (formatOf [.hole ""] ++ ("\n\x00" : Text)).utf8?.isSome = true
      decide +kernel
    obtain ⟨o, f₂, hparts⟩ := exec_printParts hslots hpieces hfree hencodes hbound
    obtain ⟨p, code, values, -, hshows, -, -, hpassed⟩ :=
      printParts_calls hslots (happends.inRange hin) hpieces hparts
    refine ⟨o, p, code, f₂, exec_bind_ok hparts, hshows, fun w => ?_⟩
    have hhole : holeWord f₁.locals x m₁ = c.stored?.bind argumentWord := by
      rw [holeWord, hx]
      exact congrArg (·.bind argumentWord) hcontent
    rw [hpassed, ← argumentWord_stored_iff, ← hhole]
    simp [holesOf, Piece.named?]

/-! ### A truth value, a large unsigned number and a negative one -/

def mixedConstants : List (String × Constant) :=
  [("a", ⟨.truth, 1, by decide⟩), ("b", ⟨.int32, 0, by decide⟩),
    ("u", ⟨.uint32, 4294967295, by decide⟩), ("n", ⟨.int64, -5, by decide⟩)]

/-- The program after its declarations. -/
def mixedDeclared : Frame :=
  (exec (lowerStatements Ty.i64 (mixedConstants.map declaration)) (bareFrame Table.empty)).2

def emptyMachine : Machine := ⟨fun _ => none, [], []⟩

def comparisonAnswer (x : String) (op : CompareOp) (y : String) : Option Value :=
  match exec (condition (.compare (.name x) [(op, .name y)])) mixedDeclared with
  | (.ok (some o), f) => (emptyMachine.executeAll (fun _ => 0) f.block.insts).bind fun m => o.eval m
  | _ => none

def printedWords (x : String) : Option (List Value) :=
  let f := (exec (printCall [.joined [.formatted (.name x) none none]]) mixedDeclared).2
  (emptyMachine.executeAll (fun _ => 0) f.block.insts).map fun m =>
    m.calls.flatMap fun call => call.args.drop 2

/-- A true `a` counts as -1 and 2^32 - 1 as -1, too, and a declared -5 is never stored. -/
theorem mixedConstants_misread :
    comparisonAnswer "a" .gt "b" = some (truth false) ∧ printedWords "a" = some [.int 64 (word (-1))] ∧
      comparisonAnswer "u" .gt "b" = some (truth false) ∧
      printedWords "u" = some [.int 64 (word (-1))] ∧
      comparisonAnswer "n" .lt "b" = none ∧ printedWords "n" = none := by
  decide +kernel

/-- `a` is not found above `b`, and the zero in `b` is printed as it is. -/
theorem mixedConstants_reading :
    ∃ setup f₁, exec (lowerStatements Ty.i64 (mixedConstants.map declaration)) (bareFrame Table.empty) =
        (.ok false, f₁) ∧ Appends (bareFrame Table.empty) f₁ setup ∧
      ∃ m₁, (∀ results, emptyMachine.executeAll results setup = some m₁) ∧
        (∃ o code f₂, exec (condition (.compare (.name "a") [(.gt, .name "b")])) f₁ =
            (.ok (some o), f₂) ∧ RunsToTruth m₁ code o false ∧ ¬RunsToTruth m₁ code o true) ∧
        ∃ (o : Operand) (p : Print) (code : List Inst) (f₂ : Frame),
          exec (printCall [.joined [.formatted (.name "b") none none]]) f₁ = (.ok (some o), f₂) ∧
            p.CallsWith code m₁ [.int 64 0] := by
  have hnames : (mixedConstants.map Prod.fst).Nodup := by decide
  obtain ⟨setup, f₁, hexec, happends, hrun⟩ :=
    declared_reading (f := bareFrame Table.empty) rfl (by decide) hnames Ty.i64
  obtain ⟨m₁, hsetup, -, hvariables⟩ := hrun emptyMachine
  have hfree : f₁.workspace.module.scope.isUsed (formatName f₁.fn.name f₁.fn.formats) = false := by
    have hframe : f₁ = mixedDeclared := by rw [mixedDeclared, hexec]
    rw [hframe]
    decide +kernel
  obtain ⟨hcompare, -, -⟩ := hvariables "a" ⟨.truth, 1, by decide⟩ (by simp [mixedConstants])
  obtain ⟨-, hprint, -⟩ := hvariables "b" ⟨.int32, 0, by decide⟩ (by simp [mixedConstants])
  obtain ⟨o, code, f₂, hcondition, -, htruth⟩ :=
    hcompare "b" ⟨.int32, 0, by decide⟩ .gt _ (by simp [mixedConstants]) rfl
  obtain ⟨o', p, code', f₃, hprinted, -, hwords⟩ := hprint hfree
  refine ⟨setup, f₁, hexec, happends, m₁, hsetup, ⟨o, code, f₂, hcondition, ?_, ?_⟩,
    o', p, code', f₃, hprinted, ?_⟩
  · exact (htruth false).mpr (by decide)
  · exact fun h => absurd ((htruth true).mp h) (by decide)
  · exact (hwords 0).mpr (by decide)

end BpfCompiler.Lower
