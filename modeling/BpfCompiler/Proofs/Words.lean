import BpfCompiler.Proofs.Lowering
import BpfCompiler.Proofs.Machine

/-!
# Programs of words

The part of the language whose only values are words of 64 bits: variables, literals, the two helpers without
arguments, six operations, comparisons and branches.  Arithmetic wraps around and comparisons read a word as a
signed number.  A run goes wrong in one way only, by the reading of a variable that has not been assigned
(`runSuite_supported`), and a suite with a return of its own returns (`runSuite_returned`).
-/

namespace BpfCompiler.Syntax.Words

open IR

abbrev Word := BitVec 64

def word (n : Int) : Word := BitVec.ofInt 64 n

def lowHalf (w : Word) : Word := (w.setWidth 32).setWidth 64

/-! ### Runs -/

/-- Why a run stops before its end. -/
inductive Halt where
  | unassigned (name : String)
  /-- The statement is not one of the part of the language. -/
  | unsupported
deriving DecidableEq

/-- The variables, and the helper calls so far. -/
structure State where
  vars : String → Option Word
  calls : List HelperCall

namespace State

def empty : State := ⟨fun _ => none, []⟩

def assign (σ : State) (x : String) (w : Word) : State :=
  { σ with vars := Function.update σ.vars x (some w) }

/-- Calls a helper without arguments: the next of the results is its answer. -/
def call (results : Nat → Word) (σ : State) (number : Nat) : Word × State :=
  (results σ.calls.length, { σ with calls := σ.calls ++ [⟨number, []⟩] })

end State

def operand (σ : State) : Expr → Except Halt Word
  | .name x => (σ.vars x).elim (.error (.unassigned x)) .ok
  | .const (.int n) _ => .ok (word n)
  | _ => .error .unsupported

def operation? : BinaryOp → Option (Word → Word → Word)
  | .add => some fun a b => a + b
  | .sub => some fun a b => a - b
  | .mult => some fun a b => a * b
  | .bitAnd => some fun a b => a &&& b
  | .bitOr => some fun a b => a ||| b
  | .bitXor => some fun a b => a ^^^ b
  | _ => none

def comparison? : CompareOp → Option (Word → Word → Bool)
  | .eq => some fun a b => a = b
  | .notEq => some fun a b => a ≠ b
  | .lt => some fun a b => a.toInt < b.toInt
  | .ltEq => some fun a b => a.toInt ≤ b.toInt
  | .gt => some fun a b => a.toInt > b.toInt
  | .gtEq => some fun a b => a.toInt ≥ b.toInt
  | _ => none

def isWordType (id : String) : Bool := id == "c_int64" || id == "c_uint64"

def value (results : Nat → Word) (σ : State) : Expr → Except Halt (Word × State)
  | .const (.int n) _ => .ok (word n, σ)
  | .call (.name id) [] [] =>
    if id = "ktime" then .ok (σ.call results 5)
    else if id = "pid" then .ok (lowHalf (σ.call results 14).1, (σ.call results 14).2)
    else .error .unsupported
  | .call (.name id) [.const (.int n) _] [] =>
    if isWordType id then .ok (word n, σ) else .error .unsupported
  | .binary left op right => do
    match operation? op with
    | some apply => return (apply (← operand σ left) (← operand σ right), σ)
    | none => throw .unsupported
  | _ => .error .unsupported

def test (σ : State) : Expr → Except Halt Bool
  | .const (.int n) _ => .ok (n ≠ 0)
  | .name x => do return (← operand σ (.name x)) ≠ 0
  | .compare left [(op, right)] => do
    match comparison? op with
    | some holds => return holds (← operand σ left) (← operand σ right)
    | none => throw .unsupported
  | _ => .error .unsupported

def result : Option Expr → Except Halt Word
  | some (.call (.name id) [.const (.int n) _] []) =>
    if id = "c_int64" then .ok (word n) else .error .unsupported
  | _ => .error .unsupported

/-- How a suite ends: it goes on behind it, or the function returns. -/
inductive Outcome where
  | next (σ : State)
  | returned (value : Word) (σ : State)

mutual

def runStmt (results : Nat → Word) (σ : State) : Stmt → Except Halt Outcome
  | .assign [.name x] e => do
    let (w, σ') ← value results σ e
    return .next (σ'.assign x w)
  | .cond e body orelse => do
    if ← test σ e then runSuite results σ body else runSuite results σ orelse
  | .ret e => do return .returned (← result e) σ
  | _ => .error .unsupported

def runSuite (results : Nat → Word) (σ : State) : List Stmt → Except Halt Outcome
  | [] => .ok (.next σ)
  | s :: rest => do
    match ← runStmt results σ s with
    | .next σ' => runSuite results σ' rest
    | .returned w σ' => return .returned w σ'

end

/-! ### The part of the language -/

/-- The number is a word, read as unsigned. -/
def IsWord (n : Int) : Prop := 0 ≤ n ∧ n ≤ 0xFFFFFFFFFFFFFFFF

instance (n : Int) : Decidable (IsWord n) := inferInstanceAs (Decidable (_ ∧ _))

def isLiteral : Expr → Bool
  | .const (.int n) _ => IsWord n
  | _ => false

def isOperand (vars : List String) : Expr → Bool
  | .name x => vars.contains x
  | e => isLiteral e

def isValue (vars : List String) : Expr → Bool
  | .call (.name id) [] [] => id == "ktime" || id == "pid"
  | .call (.name id) [arg] [] => isWordType id && isLiteral arg
  | .binary left op right => (operation? op).isSome && isOperand vars left && isOperand vars right
  | e => isLiteral e

def isTest (vars : List String) : Expr → Bool
  | .compare left [(op, right)] =>
    (comparison? op).isSome && isOperand vars left && isOperand vars right
  | e => isOperand vars e

def isResult : Option Expr → Bool
  | some (.call (.name id) [arg] []) => id == "c_int64" && isLiteral arg
  | _ => false

mutual

def isStmt (vars : List String) : Stmt → Bool
  | .assign [.name _] e => isValue vars e
  | .cond e body orelse => isTest vars e && isSuite vars body && isSuite vars orelse
  | .ret e => isResult e
  | _ => false

/-- A suite of such statements, in which a return stands at the end. -/
def isSuite (vars : List String) : List Stmt → Bool
  | [] => true
  | s :: rest => isStmt vars s && (!s.isReturn || rest.isEmpty) && isSuite vars rest

end

def target? : Stmt → Option String
  | .assign [.name x] _ => some x
  | _ => none

/-- The variables that are assigned somewhere in a suite. -/
def assigned (body : List Stmt) : List String := (Stmt.reachedAll body).filterMap target?

/-- A program of words: it declares that it returns one, it reads only variables that are assigned somewhere
in it, and it ends in a return. -/
structure IsProgram (d : Syntax.Function) : Prop where
  returns : d.returns = some (.name "c_int64")
  suite : isSuite (assigned d.body) d.body = true
  ends : (d.body.getLast?.any Stmt.isReturn) = true

theorem IsProgram.any_isReturn {d : Syntax.Function} (h : IsProgram d) :
    d.body.any Stmt.isReturn = true := by
  have hends := h.ends
  cases hlast : d.body.getLast? with
  | none =>
    rw [hlast] at hends
    cases hends
  | some s =>
    rw [hlast] at hends
    exact List.any_eq_true.mpr ⟨s, List.mem_of_getLast? hlast, hends⟩

/-! ### The forms -/

theorem isLiteral_cases {e : Expr} (h : isLiteral e = true) :
    ∃ n marked, e = .const (.int n) marked ∧ IsWord n := by
  unfold isLiteral at h
  split at h
  · rename_i n marked
    exact ⟨n, marked, rfl, by simpa using h⟩
  · cases h

theorem isOperand_cases {vars : List String} {e : Expr} (h : isOperand vars e = true) :
    (∃ x, e = .name x ∧ x ∈ vars) ∨ isLiteral e = true := by
  unfold isOperand at h
  split at h
  · rename_i x
    exact .inl ⟨x, rfl, by simpa using h⟩
  · exact .inr h

theorem isValue_cases {vars : List String} {e : Expr} (h : isValue vars e = true) :
    e = .call (.name "ktime") [] [] ∨ e = .call (.name "pid") [] [] ∨
    (∃ id arg, e = .call (.name id) [arg] [] ∧ isWordType id = true ∧ isLiteral arg = true) ∨
    (∃ left op right apply, e = .binary left op right ∧ operation? op = some apply ∧
      isOperand vars left = true ∧ isOperand vars right = true) ∨ isLiteral e = true := by
  unfold isValue at h
  split at h
  · rename_i id
    rcases (by simpa using h : id = "ktime" ∨ id = "pid") with rfl | rfl
    · exact .inl rfl
    · exact .inr (.inl rfl)
  · rename_i id arg
    rw [Bool.and_eq_true] at h
    exact .inr (.inr (.inl ⟨id, arg, rfl, h.1, h.2⟩))
  · rename_i left op right
    rw [Bool.and_eq_true, Bool.and_eq_true] at h
    obtain ⟨apply, happly⟩ := Option.isSome_iff_exists.mp h.1.1
    exact .inr (.inr (.inr (.inl ⟨left, op, right, apply, rfl, happly, h.1.2, h.2⟩)))
  · exact .inr (.inr (.inr (.inr h)))

theorem isTest_cases {vars : List String} {e : Expr} (h : isTest vars e = true) :
    (∃ left op right holds, e = .compare left [(op, right)] ∧ comparison? op = some holds ∧
      isOperand vars left = true ∧ isOperand vars right = true) ∨ isOperand vars e = true := by
  unfold isTest at h
  split at h
  · rename_i left op right
    rw [Bool.and_eq_true, Bool.and_eq_true] at h
    obtain ⟨holds, hholds⟩ := Option.isSome_iff_exists.mp h.1.1
    exact .inl ⟨left, op, right, holds, rfl, hholds, h.1.2, h.2⟩
  · exact .inr h

theorem isResult_cases {e : Option Expr} (h : isResult e = true) :
    ∃ n marked, e = some (.call (.name "c_int64") [.const (.int n) marked] []) ∧
      IsWord n := by
  unfold isResult at h
  split at h
  · rename_i id arg
    rw [Bool.and_eq_true, beq_iff_eq] at h
    obtain ⟨n, marked, rfl, hn⟩ := isLiteral_cases h.2
    exact ⟨n, marked, by rw [h.1], hn⟩
  · cases h

theorem isStmt_cases {vars : List String} {s : Stmt} (h : isStmt vars s = true) :
    (∃ x e, s = .assign [.name x] e ∧ isValue vars e = true) ∨
    (∃ e body orelse, s = .cond e body orelse ∧ isTest vars e = true ∧
      isSuite vars body = true ∧ isSuite vars orelse = true) ∨
    ∃ e, s = .ret e ∧ isResult e = true := by
  unfold isStmt at h
  split at h
  · rename_i x e
    exact .inl ⟨x, e, rfl, h⟩
  · rename_i e body orelse
    rw [Bool.and_eq_true, Bool.and_eq_true] at h
    exact .inr (.inl ⟨e, body, orelse, rfl, h.1.1, h.1.2, h.2⟩)
  · rename_i e
    exact .inr (.inr ⟨e, rfl, h⟩)
  · cases h

theorem isSuite_cons {vars : List String} {s : Stmt} {rest : List Stmt}
    (h : isSuite vars (s :: rest) = true) :
    isStmt vars s = true ∧ (s.isReturn = true → rest = []) ∧ isSuite vars rest = true := by
  rw [isSuite, Bool.and_eq_true, Bool.and_eq_true] at h
  refine ⟨h.1.1, fun hreturn => ?_, h.2⟩
  simpa [hreturn] using h.1.2

/-! ### The variables -/

theorem isSuite_cond {vars : List String} {e : Expr} {body orelse rest : List Stmt}
    (h : isSuite vars (.cond e body orelse :: rest) = true) :
    isTest vars e = true ∧ isSuite vars body = true ∧ isSuite vars orelse = true ∧
      isSuite vars rest = true := by
  obtain ⟨hstmt, -, hrest⟩ := isSuite_cons h
  rw [isStmt, Bool.and_eq_true, Bool.and_eq_true] at hstmt
  exact ⟨hstmt.1.1, hstmt.1.2, hstmt.2, hrest⟩

/-- The variables that a statement assigns, those inside it included. -/
def targets (s : Stmt) : List String := s.reached.filterMap target?

theorem assigned_cons (s : Stmt) (rest : List Stmt) :
    assigned (s :: rest) = targets s ++ assigned rest := by
  rw [assigned, Stmt.reachedAll, List.filterMap_append]
  rfl

theorem targets_assign (x : String) (e : Expr) : targets (.assign [.name x] e) = [x] := by
  rw [targets, Stmt.reached_of_isSimple rfl]
  rfl

theorem targets_cond (e : Expr) (body orelse : List Stmt) :
    targets (.cond e body orelse) = assigned body ++ assigned orelse := by
  rw [targets, Stmt.reached, List.filterMap_cons, List.filterMap_append]
  rfl

/-! ### What runs do -/

/-- The run does not leave the part of the language. -/
def Supported {α : Type} (run : Except Halt α) : Prop := run ≠ .error .unsupported

theorem Supported.ok {α : Type} (a : α) : Supported (.ok a) := by
  simp [Supported]

theorem Supported.bind {α β : Type} {run : Except Halt α} {k : α → Except Halt β}
    (h : Supported run) (hk : ∀ a, Supported (k a)) : Supported (run >>= k) := by
  cases run with
  | ok a => exact hk a
  | error halt => simpa [Supported, Bind.bind, Except.bind] using h

theorem operand_supported {vars : List String} {e : Expr} (h : isOperand vars e = true)
    (σ : State) : Supported (operand σ e) := by
  rcases isOperand_cases h with ⟨x, rfl, -⟩ | hliteral
  · cases hx : σ.vars x with
    | none => simp [operand, hx, Supported]
    | some w => simp [operand, hx, Supported]
  · obtain ⟨n, marked, rfl, -⟩ := isLiteral_cases hliteral
    exact .ok _

theorem value_supported {vars : List String} {e : Expr} (h : isValue vars e = true)
    (results : Nat → Word) (σ : State) : Supported (value results σ e) := by
  rcases isValue_cases h with rfl | rfl | ⟨id, arg, rfl, hid, harg⟩ |
    ⟨left, op, right, apply, rfl, hop, hleft, hright⟩ | hliteral
  · exact .ok _
  · exact .ok _
  · obtain ⟨n, marked, rfl, -⟩ := isLiteral_cases harg
    rw [value, if_pos hid]
    exact .ok _
  · rw [value, hop]
    exact (operand_supported hleft σ).bind fun _ =>
      (operand_supported hright σ).bind fun _ => .ok _
  · obtain ⟨n, marked, rfl, -⟩ := isLiteral_cases hliteral
    exact .ok _

theorem test_supported {vars : List String} {e : Expr} (h : isTest vars e = true) (σ : State) :
    Supported (test σ e) := by
  rcases isTest_cases h with ⟨left, op, right, holds, rfl, hop, hleft, hright⟩ | hoperand
  · rw [test, hop]
    exact (operand_supported hleft σ).bind fun _ =>
      (operand_supported hright σ).bind fun _ => .ok _
  · rcases isOperand_cases hoperand with ⟨x, rfl, -⟩ | hliteral
    · exact (operand_supported hoperand σ).bind fun _ => .ok _
    · obtain ⟨n, marked, rfl, -⟩ := isLiteral_cases hliteral
      exact .ok _

theorem result_supported {e : Option Expr} (h : isResult e = true) : Supported (result e) := by
  obtain ⟨n, marked, rfl, -⟩ := isResult_cases h
  exact .ok _

theorem runSuite_supported (vars : List String) (results : Nat → Word) :
    (∀ s, isStmt vars s = true → ∀ σ, Supported (runStmt results σ s)) ∧
    ∀ body, isSuite vars body = true → ∀ σ, Supported (runSuite results σ body) := by
  apply isStmt.mutual_induct
  · intro x e h σ
    rw [runStmt]
    exact (value_supported h results σ).bind fun _ => .ok _
  · intro e body orelse ihbody ihorelse h σ
    rw [isStmt, Bool.and_eq_true, Bool.and_eq_true] at h
    rw [runStmt]
    refine (test_supported h.1.1 σ).bind fun holds => ?_
    cases holds with
    | true => exact ihbody h.1.2 σ
    | false => exact ihorelse h.2 σ
  · intro e h σ
    rw [runStmt]
    exact (result_supported h).bind fun _ => .ok _
  · intro s hassign hcond hret h
    rw [isStmt] at h
    · cases h
    · exact hassign
    · exact hcond
    · exact hret
  · intro h σ
    exact .ok _
  · intro s rest ihstmt ihrest h σ
    obtain ⟨hstmt, -, hrest⟩ := isSuite_cons h
    rw [runSuite]
    refine (ihstmt hstmt σ).bind fun outcome => ?_
    cases outcome with
    | next σ' => exact ihrest hrest σ'
    | returned w σ' => exact .ok _

theorem runSuite_cons {results : Nat → Word} {σ : State} {s : Stmt} {rest : List Stmt}
    {outcome : Outcome} (h : runSuite results σ (s :: rest) = .ok outcome) :
    (∃ σ₁, runStmt results σ s = .ok (.next σ₁) ∧ runSuite results σ₁ rest = .ok outcome) ∨
    ∃ w σ₁, runStmt results σ s = .ok (.returned w σ₁) ∧ outcome = .returned w σ₁ := by
  rw [runSuite] at h
  cases hstmt : runStmt results σ s with
  | error halt =>
    rw [hstmt] at h
    cases h
  | ok first =>
    rw [hstmt] at h
    cases first with
    | next σ₁ => exact .inl ⟨σ₁, rfl, h⟩
    | returned w σ₁ => exact .inr ⟨w, σ₁, rfl, (Except.ok.inj h).symm⟩

theorem runStmt_assign {results : Nat → Word} {σ : State} {x : String} {e : Expr}
    {outcome : Outcome} (h : runStmt results σ (.assign [.name x] e) = .ok outcome) :
    ∃ w σ', value results σ e = .ok (w, σ') ∧ outcome = .next (σ'.assign x w) := by
  rw [runStmt] at h
  cases hvalue : value results σ e with
  | error halt =>
    rw [hvalue] at h
    cases h
  | ok first =>
    obtain ⟨w, σ'⟩ := first
    rw [hvalue] at h
    exact ⟨w, σ', rfl, (Except.ok.inj h).symm⟩

theorem runStmt_cond {results : Nat → Word} {σ : State} {e : Expr} {body orelse : List Stmt}
    {outcome : Outcome} (h : runStmt results σ (.cond e body orelse) = .ok outcome) :
    ∃ holds, test σ e = .ok holds ∧
      runSuite results σ (if holds then body else orelse) = .ok outcome := by
  rw [runStmt] at h
  cases htest : test σ e with
  | error halt =>
    rw [htest] at h
    cases h
  | ok holds =>
    rw [htest] at h
    refine ⟨holds, rfl, ?_⟩
    cases holds <;> exact h

theorem runStmt_ret {results : Nat → Word} {σ : State} {e : Option Expr} {outcome : Outcome}
    (h : runStmt results σ (.ret e) = .ok outcome) :
    ∃ w, result e = .ok w ∧ outcome = .returned w σ := by
  rw [runStmt] at h
  cases hresult : result e with
  | error halt =>
    rw [hresult] at h
    cases h
  | ok w =>
    rw [hresult] at h
    exact ⟨w, rfl, (Except.ok.inj h).symm⟩

/-- A suite with a return of its own does not go on behind it. -/
theorem runSuite_returned {results : Nat → Word} {body : List Stmt}
    (hreturn : body.any Stmt.isReturn = true) {σ σ' : State} :
    runSuite results σ body ≠ .ok (.next σ') := by
  induction body generalizing σ with
  | nil => cases hreturn
  | cons s rest ih =>
    intro hrun
    rcases runSuite_cons hrun with ⟨σ₁, hstmt, hrest⟩ | ⟨w, σ₁, -, houtcome⟩
    · have hnot : s.isReturn = false := by
        cases s with
        | ret e =>
          obtain ⟨w, -, houtcome⟩ := runStmt_ret hstmt
          cases houtcome
        | _ => rfl
      rw [List.any_cons, hnot, Bool.false_or] at hreturn
      exact ih hreturn hrest
    · cases houtcome

end BpfCompiler.Syntax.Words
