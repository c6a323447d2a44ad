import BpfCompiler.IR.Function
import Mathlib.Logic.Function.Basic
import Mathlib.Logic.Relation

/-!
# Running a function

The meaning of the target language.  A machine has registers, which instructions set by name, cells, which
`alloca` makes, and an account of the helper calls so far.  The results of the calls come from outside, one
after the other.

An instruction has no step where the language leaves its effect undefined: a division by zero, a shift by the
width or more, the reading of a cell that nothing was stored in, an operand that does not have the type it is
used with.  Pointers are followed and passed on, but neither compared nor turned into numbers, unless they
were made from one.
-/

namespace BpfCompiler.IR

inductive Value where
  | int (width : Nat) (bits : BitVec width)
  /-- The address of a cell. -/
  | cell (place : Nat)
  /-- A pointer that was made from a number. -/
  | raw (bits : BitVec 64)
  /-- The address of a global. -/
  | symbol (name : String)
deriving DecidableEq

def Value.hasTy : Value → Ty → Bool
  | .int width _, .int width' => width == width'
  | .cell _, .ptr _ | .raw _, .ptr _ | .symbol _, .ptr _ => true
  | _, _ => false

/-- A call of a helper by its number. -/
structure HelperCall where
  number : Nat
  args : List Value
deriving DecidableEq

structure Machine where
  registers : String → Option Value
  cells : List (Option Value)
  calls : List HelperCall

def Machine.set (m : Machine) (name : String) (v : Value) : Machine :=
  { m with registers := Function.update m.registers name (some v) }

@[simp] theorem Machine.set_registers (m : Machine) (name : String) (v : Value) :
    (m.set name v).registers = Function.update m.registers name (some v) := rfl

@[simp] theorem Machine.set_cells (m : Machine) (name : String) (v : Value) :
    (m.set name v).cells = m.cells := rfl

@[simp] theorem Machine.set_calls (m : Machine) (name : String) (v : Value) :
    (m.set name v).calls = m.calls := rfl

/-! ### Values -/

/-- The value of a constant: an integer is cut to the width of its type. -/
def Operand.constant : Ty → Literal → Option Value
  | .int width, .int n => some (.int width (BitVec.ofInt width n))
  | .int 1, .bool b => some (.int 1 (BitVec.ofBool b))
  | .ptr _, .none => some (.raw 0)
  | _, _ => none

def Operand.eval (m : Machine) : Operand → Option Value
  | .const ty value => Operand.constant ty value
  | .local name ty => (m.registers name).filter fun v => v.hasTy ty
  | .global name _ => some (.symbol name)

def Arith.apply {width : Nat} (op : Arith) (a b : BitVec width) : Option (BitVec width) :=
  match op with
  | .add => some (a + b)
  | .sub => some (a - b)
  | .mul => some (a * b)
  | .sdiv => if b = 0 ∨ (a = BitVec.intMin width ∧ b = -1) then none else some (a.sdiv b)
  | .udiv => if b = 0 then none else some (a / b)
  | .srem => if b = 0 ∨ (a = BitVec.intMin width ∧ b = -1) then none else some (a.srem b)
  | .shl => if b.toNat < width then some (a <<< b.toNat) else none
  | .lshr => if b.toNat < width then some (a >>> b.toNat) else none
  | .or => some (a ||| b)
  | .xor => some (a ^^^ b)
  | .and => some (a &&& b)

def Predicate.holds {width : Nat} (predicate : Predicate) (a b : BitVec width) : Bool :=
  match predicate with
  | .eq => a == b
  | .ne => a != b
  | .slt => a.slt b
  | .sle => a.sle b
  | .sgt => b.slt a
  | .sge => b.sle a

/-- What an operation gives for two integers of one width. -/
def arithmetic (op : Arith) : Value → Value → Option Value
  | .int width a, .int width' b =>
    if h : width' = width then (op.apply a (b.cast h)).map (.int width) else none
  | _, _ => none

def comparing (predicate : Predicate) : Value → Value → Option Value
  | .int width a, .int width' b =>
    if h : width' = width then some (.int 1 (BitVec.ofBool (predicate.holds a (b.cast h)))) else none
  | _, _ => none

def converting (kind : Cast) : Value → Ty → Option Value
  | .int width a, .int width' =>
    if kind = .sext ∧ width < width' then some (.int width' (a.signExtend width')) else none
  | .int 64 a, .ptr _ => if kind = .intToPtr then some (.raw a) else none
  | .raw a, .int 64 => if kind = .ptrToInt then some (.int 64 a) else none
  | _, _ => none

/-- The result of a helper as a value of the type that the call gives it. -/
def helperResult (bits : BitVec 64) : Ty → Option Value
  | .int 64 => some (.int 64 bits)
  | .ptr _ => some (.raw bits)
  | _ => none

/-! ### Instructions -/

namespace Machine

def cellAt (m : Machine) (o : Operand) : Option Nat :=
  match o.eval m with
  | some (.cell place) => some place
  | _ => none

def helperAt (m : Machine) (o : Operand) : Option Nat :=
  match o.eval m with
  | some (.raw bits) => some bits.toNat
  | _ => none

/-- The content of a cell, if it has the type. -/
def read (m : Machine) (place : Nat) (ty : Ty) : Option Value :=
  (m.cells[place]?).join.filter fun v => v.hasTy ty

/-- Runs an instruction that does not end its block. -/
def execute (results : Nat → BitVec 64) (m : Machine) (i : Inst) : Option Machine :=
  match i.op with
  | .alloca _ _ => some { m.set i.name (.cell m.cells.length) with cells := m.cells ++ [none] }
  | .load ty source => do
    let place ← m.cellAt source
    return m.set i.name (← m.read place ty)
  | .store value slot => do
    let v ← value.eval m
    return { m with cells := m.cells.set (← m.cellAt slot) (some v) }
  | .arith op lhs rhs => do
    return m.set i.name (← arithmetic op (← lhs.eval m) (← rhs.eval m))
  | .icmp predicate lhs rhs => do
    return m.set i.name (← comparing predicate (← lhs.eval m) (← rhs.eval m))
  | .cast kind value target => do
    return m.set i.name (← converting kind (← value.eval m) target)
  | .call _ result _ _ callee args => do
    let call : HelperCall := ⟨← m.helperAt callee, ← args.mapM (Operand.eval m)⟩
    let v ← helperResult (results m.calls.length) result
    return { m.set i.name v with calls := m.calls ++ [call] }
  | .branch _ | .condBranch .. | .ret _ => none

def executeAll (results : Nat → BitVec 64) (m : Machine) (code : List Inst) : Option Machine :=
  code.foldlM (execute results) m

theorem executeAll_append_eq (results : Nat → BitVec 64) (m : Machine) (first second : List Inst) :
    m.executeAll results (first ++ second) =
      (m.executeAll results first).bind fun m₁ => m₁.executeAll results second :=
  List.foldlM_append

theorem executeAll_append {results : Nat → BitVec 64} {m m₁ m₂ : Machine} {first second : List Inst}
    (h : m.executeAll results first = some m₁) (h' : m₁.executeAll results second = some m₂) :
    m.executeAll results (first ++ second) = some m₂ := by
  rw [executeAll_append_eq, h, Option.bind_some, h']

theorem executeAll_nil (results : Nat → BitVec 64) (m : Machine) :
    m.executeAll results [] = some m := rfl

theorem executeAll_singleton (results : Nat → BitVec 64) (m : Machine) (i : Inst) :
    m.executeAll results [i] = m.execute results i := by
  simp [executeAll]

section Instructions

variable {results : Nat → BitVec 64} {m : Machine} {name register : String} {ty : Ty} {place : Nat}
  {v : Value} {o lhs rhs : Operand} {width : Nat} {a b c : BitVec width}

theorem eval_local (hregister : m.registers name = some v) (hty : v.hasTy ty = true) :
    (Operand.local name ty).eval m = some v := by
  simp [Operand.eval, hregister, Option.filter, hty]

theorem eval_set (m : Machine) (name : String) (hty : v.hasTy ty = true) :
    (Operand.local name ty).eval (m.set name v) = some v :=
  eval_local (by simp) hty

theorem cellAt_local (hregister : m.registers register = some (.cell place)) (t : Ty) :
    m.cellAt (.local register (.ptr t)) = some place := by
  rw [cellAt, eval_local hregister rfl]

theorem execute_load (hregister : m.registers register = some (.cell place))
    (hcell : m.cells[place]? = some (some v)) (hty : v.hasTy ty = true) (t : Ty) :
    m.execute results ⟨name, .load ty (.local register (.ptr t))⟩ = some (m.set name v) := by
  simp [execute, cellAt_local hregister, read, hcell, Option.filter, hty]

theorem execute_store (hvalue : o.eval m = some v)
    (hregister : m.registers register = some (.cell place)) (t : Ty) :
    m.execute results ⟨name, .store o (.local register (.ptr t))⟩ =
      some { m with cells := m.cells.set place (some v) } := by
  simp [execute, cellAt_local hregister, hvalue]

theorem execute_arith {op : Arith} (hlhs : lhs.eval m = some (.int width a))
    (hrhs : rhs.eval m = some (.int width b)) (happly : op.apply a b = some c) :
    m.execute results ⟨name, .arith op lhs rhs⟩ = some (m.set name (.int width c)) := by
  simp [execute, hlhs, hrhs, arithmetic, happly]

theorem execute_icmp (predicate : Predicate) (hlhs : lhs.eval m = some (.int width a))
    (hrhs : rhs.eval m = some (.int width b)) :
    m.execute results ⟨name, .icmp predicate lhs rhs⟩ =
      some (m.set name (.int 1 (BitVec.ofBool (predicate.holds a b)))) := by
  simp [execute, hlhs, hrhs, comparing]

theorem execute_intToPtr {bits : BitVec 64} (hvalue : o.eval m = some (.int 64 bits)) (t : Ty) :
    m.execute results ⟨name, .cast .intToPtr o (.ptr t)⟩ = some (m.set name (.raw bits)) := by
  simp only [execute, hvalue]
  rfl

/-- A call of a helper that gives a word. -/
theorem execute_helper {number : Nat} (hcallee : m.helperAt o = some number) (tail : Bool)
    (params : List Ty) (variadic : Bool) (args : List Operand) :
    m.execute results ⟨name, .call tail (.int 64) params variadic o args⟩ =
      (args.mapM (Operand.eval m)).map fun vs =>
        { m.set name (.int 64 (results m.calls.length)) with calls := m.calls ++ [⟨number, vs⟩] } := by
  cases hargs : args.mapM (Operand.eval m) <;> simp [execute, hcallee, hargs, helperResult]

/-- A call of a helper without arguments that gives a word. -/
theorem execute_call {bits : BitVec 64} (hcallee : o.eval m = some (.raw bits)) (tail : Bool)
    (params : List Ty) (variadic : Bool) :
    m.execute results ⟨name, .call tail (.int 64) params variadic o []⟩ =
      some { m.set name (.int 64 (results m.calls.length)) with
        calls := m.calls ++ [⟨bits.toNat, []⟩] } :=
  execute_helper (by rw [helperAt, hcallee]) tail params variadic []

end Instructions

def start (fn : Function) (arguments : List Value) : Machine where
  registers := fun name => ((fn.params.map Param.name).zip arguments).lookup name
  cells := []
  calls := []

end Machine

/-! ### Control -/

/-- A run is inside a block, with what is left of it, or the function has returned. -/
inductive Config where
  | running (rest : List Inst) (machine : Machine)
  | returned (value : Value) (machine : Machine)

namespace Function

def block? (fn : Function) (label : String) : Option Block :=
  fn.blocks.find? fun b => b.label == label

def enter (fn : Function) (label : String) (m : Machine) : Option Config :=
  (fn.block? label).map fun b => .running b.insts m

def step (fn : Function) (results : Nat → BitVec 64) : Config → Option Config
  | .running (i :: rest) m =>
    match i.op with
    | .branch target => fn.enter target m
    | .condBranch condition yes no =>
      match condition.bind (Operand.eval m) with
      | some (.int 1 bit) => fn.enter (if bit = 1 then yes else no) m
      | _ => none
    | .ret value => if value.ty = fn.result then (value.eval m).map (.returned · m) else none
    | _ => (m.execute results i).map (.running rest)
  | _ => none

/-- The runs of a function: step after step. -/
def Runs (fn : Function) (results : Nat → BitVec 64) : Config → Config → Prop :=
  Relation.ReflTransGen fun c c' => fn.step results c = some c'

/-- The start of a call: the first block, from its beginning. -/
def start (fn : Function) (arguments : List Value) : Config :=
  .running ((fn.blocks.head?.map Block.insts).getD []) (Machine.start fn arguments)

namespace Runs

variable {fn : Function} {results : Nat → BitVec 64} {m m' : Machine} {rest : List Inst}

theorem refl (c : Config) : fn.Runs results c c := Relation.ReflTransGen.refl

theorem trans {c c₁ c₂ : Config} (h : fn.Runs results c c₁) (h' : fn.Runs results c₁ c₂) :
    fn.Runs results c c₂ :=
  Relation.ReflTransGen.trans h h'

theorem single {c c' : Config} (h : fn.step results c = some c') : fn.Runs results c c' :=
  Relation.ReflTransGen.single h

/-- Code without a terminator runs to its end. -/
theorem straight {code : List Inst} (hplain : ∀ i ∈ code, i.op.isTerminator = false)
    (h : m.executeAll results code = some m') :
    fn.Runs results (.running (code ++ rest) m) (.running rest m') := by
  induction code generalizing m with
  | nil =>
    obtain rfl : m = m' := Option.some.inj h
    exact refl _
  | cons i code ih =>
    rw [Machine.executeAll, List.foldlM_cons] at h
    obtain ⟨m₁, hfirst, hrest⟩ := Option.bind_eq_some_iff.mp h
    have htail := ih (fun j hj => hplain j (List.mem_cons_of_mem _ hj)) hrest
    have hi := hplain i List.mem_cons_self
    refine (single ?_).trans htail
    rw [List.cons_append, step]
    -- the first three cases are the terminators, which straight-line code does not have
    split
    · simp_all [Op.isTerminator]
    · simp_all [Op.isTerminator]
    · simp_all [Op.isTerminator]
    · rw [hfirst]
      rfl

theorem branch {name label : String} {b : Block} (hblock : fn.block? label = some b) :
    fn.Runs results (.running (⟨name, .branch label⟩ :: rest) m) (.running b.insts m) := by
  apply single
  simp only [step, enter, hblock, Option.map_some]

theorem condBranch {name yes no : String} {condition : Operand} {holds : Bool} {b : Block}
    (htest : condition.eval m = some (.int 1 (BitVec.ofBool holds)))
    (hblock : fn.block? (if holds then yes else no) = some b) :
    fn.Runs results (.running (⟨name, .condBranch (some condition) yes no⟩ :: rest) m)
      (.running b.insts m) := by
  apply single
  have hbit : (if BitVec.ofBool holds = 1 then yes else no) = if holds then yes else no := by
    cases holds <;> rfl
  unfold step
  dsimp only [Option.bind_some]
  rw [htest]
  change fn.enter (if BitVec.ofBool holds = 1 then yes else no) m = some (.running b.insts m)
  rw [hbit, enter, hblock]
  rfl

theorem ret {name : String} {o : Operand} {v : Value} (hty : o.ty = fn.result)
    (hvalue : o.eval m = some v) :
    fn.Runs results (.running (⟨name, .ret o⟩ :: rest) m) (.returned v m) := by
  apply single
  simp only [step, hty, if_true, hvalue, Option.map_some]

end Runs

end Function

end BpfCompiler.IR
