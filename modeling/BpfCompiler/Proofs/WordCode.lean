import BpfCompiler.Proofs.Words
import Mathlib.Algebra.Group.Nat.Defs

/-!
# The code of words

What a machine does with the code that is emitted for the values and tests of programs of words.  The slots of
the variables tie a machine to the state of the program (`Matches`).  Code that evaluates an expression leaves
this tie as it is, apart from the helper calls, and sets only registers that had no name before (`Carries`), so
that operands which were evaluated earlier keep their values.
-/

namespace BpfCompiler.Lower

open IR Syntax Emit
open Syntax.Words (State Word Halt word)

/-! ### Machines and states -/

/-- The machine has the values of the variables in their slots and has made the same calls. -/
structure Matches (locals : Table (Option Slot)) (σ : State) (m : Machine) : Prop where
  calls : m.calls = σ.calls
  cell : ∀ x slot, locals.get? x = some (some slot) →
    ∃ place, m.registers slot.register = some (.cell place) ∧ place < m.cells.length ∧
      ∀ w, σ.vars x = some w → m.cells[place]? = some (some (.int 64 w))
  apart : ∀ x y slot slot' place, x ≠ y → locals.get? x = some (some slot) →
    locals.get? y = some (some slot') → m.registers slot.register = some (.cell place) →
      m.registers slot'.register ≠ some (.cell place)

/-- The registers with these names are the same. -/
def SameOn (names : List String) (m m' : Machine) : Prop :=
  ∀ name ∈ names, m'.registers name = m.registers name

/-- A register that the operand reads has one of these names. -/
def Settled (names : List String) (o : Operand) : Prop :=
  ∀ name ty, o = .local name ty → name ∈ names

theorem Settled.eval {names : List String} {o : Operand} (h : Settled names o) {m m' : Machine}
    (hsame : SameOn names m m') : o.eval m' = o.eval m := by
  cases o with
  | const ty value => rfl
  | «local» name ty => simp only [Operand.eval, hsame name (h name ty rfl)]
  | global name ty => rfl

/-- The slots of the variables have names that are taken. -/
def SlotsNamed (f : Frame) : Prop :=
  ∀ x slot, f.locals.get? x = some (some slot) → slot.register ∈ f.fn.scope.used

theorem SlotsNamed.grown {f f' : Frame} (h : SlotsNamed f) (hgrown : Grown f f') :
    SlotsNamed f' := by
  intro x slot hx
  rw [hgrown.locals] at hx
  exact hgrown.used (h x slot hx)

/-- The code takes the machine to one that matches the new state, and sets no register whose name was
taken. -/
structure Carries (results : Nat → Word) (f : Frame) (code : List Inst) (m : Machine) (σ : State)
    (m' : Machine) : Prop where
  run : m.executeAll results code = some m'
  state : Matches f.locals σ m'
  same : SameOn f.fn.scope.used m m'

namespace Carries

variable {results : Nat → Word} {f f₁ : Frame} {code code' : List Inst} {m m₁ m₂ : Machine}
  {σ σ₁ σ₂ : State}

theorem nil (h : Matches f.locals σ m) : Carries results f [] m σ m :=
  ⟨Machine.executeAll_nil results m, h, fun _ _ => rfl⟩

theorem trans (h : Carries results f code m σ₁ m₁) (hgrown : Grown f f₁)
    (h' : Carries results f₁ code' m₁ σ₂ m₂) : Carries results f (code ++ code') m σ₂ m₂ where
  run := Machine.executeAll_append h.run h'.run
  state := by
    rw [← hgrown.locals]
    exact h'.state
  same := fun name hname => (h'.same name (hgrown.used hname)).trans (h.same name hname)

/-- An instruction that sets a register of its own, and may call a helper. -/
theorem single {i : Inst} {v : Value} (hnamed : SlotsNamed f) (hfresh : i.name ∉ f.fn.scope.used)
    (h : Matches f.locals σ m) (hexec : m.execute results i = some m₁)
    (hregisters : m₁.registers = Function.update m.registers i.name (some v))
    (hcells : m₁.cells = m.cells) (hvars : σ₁.vars = σ.vars) (hcalls : m₁.calls = σ₁.calls) :
    Carries results f [i] m σ₁ m₁ := by
  have hsame : SameOn f.fn.scope.used m m₁ := by
    intro name hname
    rw [hregisters]
    have hne : name ≠ i.name := fun heq => hfresh (heq ▸ hname)
    exact Function.update_of_ne hne _ _
  refine ⟨by rw [Machine.executeAll_singleton, hexec], ⟨hcalls, ?_, ?_⟩, hsame⟩
  · intro x slot hx
    rw [hsame _ (hnamed x slot hx), hcells, hvars]
    exact h.cell x slot hx
  · intro x y slot slot' place hne hx hy
    rw [hsame _ (hnamed x slot hx), hsame _ (hnamed y slot' hy)]
    exact h.apart x y slot slot' place hne hx hy

theorem append {i : Inst} {v : Value} (h : Carries results f code m σ m₁)
    (hstraight : Straight f f₁ code) (hnamed : SlotsNamed f) (hfresh : i.name ∉ f₁.fn.scope.used)
    (hexec : m₁.execute results i = some (m₁.set i.name v)) :
    Carries results f (code ++ [i]) m σ (m₁.set i.name v) := by
  have hmatches : Matches f₁.locals σ m₁ := by
    rw [hstraight.locals]
    exact h.state
  refine h.trans hstraight.grown ?_
  exact single (hnamed.grown hstraight.grown) hfresh hmatches hexec rfl rfl rfl h.state.calls

end Carries

/-! ### Frames -/

/-- Every variable has a slot of a word, and what has been built can be written. -/
structure WordFrame (vars : List String) (f : Frame) : Prop where
  inRange : f.here < f.fn.blocks.length
  slots : ∀ x ∈ vars, ∃ register, f.locals.get? x = some (some ⟨register, Ty.i64⟩)
  named : SlotsNamed f
  rest : f.workspace.module.fault? = none
  code : f.fn.fault? = none

theorem SameContext.rest_fault? {f f' : Frame} (h : SameContext f f')
    (hrest : f.workspace.module.fault? = none) : f'.workspace.module.fault? = none := by
  obtain ⟨log, scope, added, hworkspace⟩ := h.workspace
  rw [IR.Module.fault?_eq_none_iff] at hrest
  rw [hworkspace, IR.Module.fault?_eq_none_iff]
  refine ⟨fun fn hfn => ?_, hrest.2⟩
  rcases List.mem_append.mp hfn with hold | hadded
  · exact hrest.1 fn hold
  · obtain ⟨v, -, hv⟩ := List.mem_map.mp hadded
    cases hv

theorem Appends.code_fault? {f f' : Frame} {new : List Inst} (h : Appends f f' new)
    (hcode : f.fn.fault? = none) (hnew : ∀ i ∈ new, i.op.fault? = none) : f'.fn.fault? = none := by
  rw [IR.Function.fault?_eq_none_iff] at hcode ⊢
  intro b hb i hi
  rw [h.blocks] at hb
  obtain ⟨k, hk⟩ := List.getElem?_of_mem hb
  rw [List.getElem?_modify] at hk
  obtain ⟨b', hb', rfl⟩ := Option.map_eq_some_iff.mp hk
  split at hi
  · rcases List.mem_append.mp hi with hold | hadded
    · exact hcode b' (List.mem_of_getElem? hb') i hold
    · exact hnew i hadded
  · exact hcode b' (List.mem_of_getElem? hb') i hi

namespace WordFrame

variable {vars : List String} {f f' : Frame}

theorem grown (h : WordFrame vars f) (hgrown : Grown f f') (hcode : f'.fn.fault? = none) :
    WordFrame vars f' where
  inRange := hgrown.inRange h.inRange
  slots := by
    rw [hgrown.locals]
    exact h.slots
  named := h.named.grown hgrown
  rest := hgrown.rest_fault? h.rest
  code := hcode

theorem straight {new : List Inst} (h : WordFrame vars f) (hstraight : Straight f f' new)
    (hnew : ∀ i ∈ new, i.op.fault? = none) : WordFrame vars f' :=
  h.grown hstraight.grown (hstraight.code_fault? h.code hnew)

theorem moved (h : WordFrame vars f) {place : Nat} (hin : place < f.fn.blocks.length) :
    WordFrame vars (f.moved place) :=
  ⟨hin, h.slots, h.named, h.rest, h.code⟩

theorem wholeModule (h : WordFrame vars f) : f.wholeModule.fault? = none := by
  have hrest := IR.Module.fault?_eq_none_iff.mp h.rest
  rw [IR.Module.fault?_eq_none_iff]
  refine ⟨fun fn hfn => ?_, hrest.2⟩
  rcases List.eq_or_mem_of_mem_insertIdx hfn with hnew | hold
  · cases hnew
    exact h.code
  · exact hrest.1 fn hold

end WordFrame

/-! ### Operands -/

theorem canShow_of_natAbs_lt {n : Int} (h : n.natAbs < 10 ^ 20) : (Literal.int n).canShow = true := by
  have hle : 10 ^ 20 ≤ Literal.shownLimit := by
    unfold Literal.shownLimit
    apply Nat.pow_le_pow_right
    · omega
    · omega
  rw [Literal.canShow, decide_eq_true_eq]
  omega

theorem canShow_word {n : Int} (h : Words.IsWord n) : (Literal.int n).canShow = true := by
  obtain ⟨hlow, hhigh⟩ := h
  exact canShow_of_natAbs_lt (by omega)

theorem fault?_int_of_canShow {n : Int} (h : (Literal.int n).canShow = true) (width : Nat) :
    (Operand.int (.int width) n).fault? = none := by
  rw [Operand.int, Operand.fault?, h]
  · rfl
  · simp
  · simp

theorem fault?_int {n : Int} (h : Words.IsWord n) (width : Nat) :
    (Operand.int (.int width) n).fault? = none :=
  fault?_int_of_canShow (canShow_word h) width

theorem fault?_local (name : String) (ty : Ty) : (Operand.local name ty).fault? = none := rfl

/-- The code evaluates an expression to an operand of the given type.  What the expression means may depend on
the results of helpers; `embed` gives its values as those of the machine. -/
structure Evaluates {β : Type} (embed : β → Value) (ty : Ty)
    (meaning : (Nat → Word) → State → Except Halt (β × State)) (f : Frame) (code : List Inst)
    (o : Operand) (f' : Frame) : Prop extends Straight f f' code where
  writable : ∀ i ∈ code, i.op.fault? = none
  ofTy : o.ty = ty
  shown : o.fault? = none
  settled : Settled f'.fn.scope.used o
  carries : ∀ results σ m b σ', Matches f.locals σ m → meaning results σ = .ok (b, σ') →
    ∃ m', Carries results f code m σ' m' ∧ o.eval m' = some (embed b)

/-- The value of an expression that changes nothing. -/
def reading {β : Type} (value : State → Except Halt β) :
    (Nat → Word) → State → Except Halt (β × State) :=
  fun _ σ => (value σ).map fun b => (b, σ)

theorem reading_eq_ok {β : Type} {value : State → Except Halt β} {results : Nat → Word}
    {σ σ' : State} {b : β} : reading value results σ = .ok (b, σ') ↔ value σ = .ok b ∧ σ' = σ := by
  cases h : value σ with
  | error halt => simp [reading, h, Except.map]
  | ok a =>
    simp only [reading, h, Except.map, Except.ok.injEq, Prod.mk.injEq]
    exact and_congr_right fun _ => eq_comm

namespace Evaluates

variable {β : Type} {embed : β → Value} {ty : Ty}
  {meaning : (Nat → Word) → State → Except Halt (β × State)} {f f₀ f₁ f' : Frame}
  {code : List Inst} {o : Operand}

theorem after (h : Evaluates embed ty meaning f₀ code o f') (hquiet : Straight f f₀ []) :
    Evaluates embed ty meaning f code o f' where
  toStraight := hquiet.trans h.toStraight
  writable := h.writable
  ofTy := h.ofTy
  shown := h.shown
  settled := h.settled
  carries := by
    intro results σ m b σ' hmatches hmeaning
    rw [← hquiet.locals] at hmatches
    obtain ⟨m', hcarries, heval⟩ := h.carries results σ m b σ' hmatches hmeaning
    exact ⟨m', (Carries.nil (by rwa [← hquiet.locals])).trans hquiet.grown hcarries, heval⟩

theorem before (h : Evaluates embed ty meaning f code o f₁) (hquiet : Straight f₁ f' []) :
    Evaluates embed ty meaning f code o f' where
  toStraight := by simpa using h.toStraight.trans hquiet
  writable := h.writable
  ofTy := h.ofTy
  shown := h.shown
  settled := fun name ty ho => hquiet.used (h.settled name ty ho)
  carries := h.carries

theorem congr {meaning' : (Nat → Word) → State → Except Halt (β × State)}
    (h : Evaluates embed ty meaning f code o f')
    (hmeaning : ∀ results σ, meaning' results σ = meaning results σ) :
    Evaluates embed ty meaning' f code o f' where
  toStraight := h.toStraight
  writable := h.writable
  ofTy := h.ofTy
  shown := h.shown
  settled := h.settled
  carries := by
    intro results σ m b σ' hmatches hok
    rw [hmeaning] at hok
    exact h.carries results σ m b σ' hmatches hok

end Evaluates

/-- Two words one after the other, combined into one value. -/
def combining {β : Type} (combine : Word → Word → β)
    (first second : (Nat → Word) → State → Except Halt (Word × State)) :
    (Nat → Word) → State → Except Halt (β × State) :=
  fun results σ => do
    let (x, σ₁) ← first results σ
    let (y, σ₂) ← second results σ₁
    return (combine x y, σ₂)

theorem combining_eq_ok {β : Type} {combine : Word → Word → β}
    {first second : (Nat → Word) → State → Except Halt (Word × State)} {results : Nat → Word}
    {σ σ₂ : State} {b : β} (h : combining combine first second results σ = .ok (b, σ₂)) :
    ∃ x σ₁ y, first results σ = .ok (x, σ₁) ∧ second results σ₁ = .ok (y, σ₂) ∧
      combine x y = b := by
  rw [combining] at h
  cases hfirst : first results σ with
  | error halt =>
    rw [hfirst] at h
    cases h
  | ok outcome =>
    obtain ⟨x, σ₁⟩ := outcome
    rw [hfirst] at h
    cases hsecond : second results σ₁ with
    | error halt =>
      simp only [Bind.bind, Except.bind, hsecond] at h
      cases h
    | ok outcome =>
      obtain ⟨y, σ'⟩ := outcome
      simp only [Bind.bind, Except.bind, hsecond] at h
      obtain ⟨rfl, rfl⟩ := Prod.mk.inj (Except.ok.inj h)
      exact ⟨x, σ₁, y, rfl, hsecond, rfl⟩

/-- An instruction on two words that were evaluated before. -/
theorem Evaluates.binary {β : Type} {embed : β → Value} {ty : Ty} {combine : Word → Word → β}
    {first second : (Nat → Word) → State → Except Halt (Word × State)} {f f₁ f₂ f' : Frame}
    {code₁ code₂ : List Inst} {l r : Operand} {name : String} {op : Op}
    (h : Evaluates (Value.int 64) Ty.i64 first f code₁ l f₁)
    (h' : Evaluates (Value.int 64) Ty.i64 second f₁ code₂ r f₂) (hnamed : SlotsNamed f)
    (hstraight : Straight f₂ f' [⟨name, op⟩]) (hfault : op.fault? = none)
    (hembed : ∀ b, (embed b).hasTy ty = true)
    (hexec : ∀ (results : Nat → Word) (m : Machine) (x y : Word),
      l.eval m = some (.int 64 x) → r.eval m = some (.int 64 y) →
        m.execute results ⟨name, op⟩ = some (m.set name (embed (combine x y)))) :
    Evaluates embed ty (combining combine first second) f (code₁ ++ code₂ ++ [⟨name, op⟩])
      (.local name ty) f' where
  toStraight := (h.toStraight.trans h'.toStraight).trans hstraight
  writable := by
    intro i hi
    simp only [List.mem_append, List.mem_singleton] at hi
    rcases hi with (hi | hi) | rfl
    · exact h.writable i hi
    · exact h'.writable i hi
    · exact hfault
  ofTy := rfl
  shown := rfl
  settled := by
    rintro _ _ ⟨⟩
    exact hstraight.taken _ (List.mem_singleton_self _)
  carries := by
    intro results σ m b σ' hmatches hmeaning
    obtain ⟨x, σ₁, y, hfirst, hsecond, rfl⟩ := combining_eq_ok hmeaning
    obtain ⟨m₁, hcarries₁, hl⟩ := h.carries results σ m x σ₁ hmatches hfirst
    have hmatches₁ : Matches f₁.locals σ₁ m₁ := by
      rw [h.locals]
      exact hcarries₁.state
    obtain ⟨m₂, hcarries₂, hr⟩ := h'.carries results σ₁ m₁ y σ' hmatches₁ hsecond
    -- the second operand is evaluated in registers that the first does not use
    have hl' : l.eval m₂ = some (.int 64 x) := (h.settled.eval hcarries₂.same).trans hl
    have hboth := hcarries₁.trans h.grown hcarries₂
    have hfresh := hstraight.fresh _ (List.mem_singleton_self _)
    exact ⟨_, hboth.append (h.toStraight.trans h'.toStraight) hnamed hfresh
      (hexec results m₂ x y hl' hr), Machine.eval_set _ _ (hembed _)⟩

section Operands

variable {vars : List String} {f f' : Frame}

theorem literal_evaluates {n : Int} (hn : Words.IsWord n) (marked : Bool) (f : Frame) :
    Evaluates (Value.int 64) Ty.i64 (reading (Words.operand · (.const (.int n) marked))) f []
      (Operand.int Ty.i64 n) f where
  toStraight := Straight.refl f
  writable := by simp
  ofTy := rfl
  shown := fault?_int hn 64
  settled := by simp [Settled, Operand.int]
  carries := by
    intro results σ m w σ' hmatches hmeaning
    obtain ⟨hvalue, rfl⟩ := reading_eq_ok.mp hmeaning
    obtain rfl : word n = w := Except.ok.inj hvalue
    exact ⟨m, Carries.nil hmatches, rfl⟩

theorem load_evaluates (hnamed : SlotsNamed f) {x register name : String}
    (hx : f.locals.get? x = some (some ⟨register, Ty.i64⟩))
    (hstraight : Straight f f' [⟨name, .load Ty.i64 (.local register (.ptr Ty.i64))⟩]) :
    Evaluates (Value.int 64) Ty.i64 (reading (Words.operand · (.name x))) f
      [⟨name, .load Ty.i64 (.local register (.ptr Ty.i64))⟩] (.local name Ty.i64) f' where
  toStraight := hstraight
  writable := by simp [Op.fault?, Op.operands, fault?_local]
  ofTy := rfl
  shown := rfl
  settled := by
    rintro _ _ ⟨⟩
    exact hstraight.taken _ (List.mem_singleton_self _)
  carries := by
    intro results σ m w σ' hmatches hmeaning
    obtain ⟨hvalue, rfl⟩ := reading_eq_ok.mp hmeaning
    have hvar : σ'.vars x = some w := by
      cases hx : σ'.vars x with
      | none => simp [Words.operand, hx] at hvalue
      | some w' => simpa [Words.operand, hx] using hvalue
    obtain ⟨place, hregister, -, hcell⟩ := hmatches.cell x _ hx
    have hexec : m.execute results ⟨name, .load Ty.i64 (.local register (.ptr Ty.i64))⟩ =
        some (m.set name (.int 64 w)) :=
      Machine.execute_load hregister (hcell w hvar) rfl Ty.i64
    refine ⟨m.set name (.int 64 w), ?_, Machine.eval_set _ _ rfl⟩
    have hfresh := hstraight.fresh _ (List.mem_singleton_self _)
    exact Carries.single hnamed hfresh hmatches hexec rfl rfl rfl hmatches.calls

theorem exec_arithOperand (hf : WordFrame vars f) {e : Expr} (he : Words.isOperand vars e = true)
    (unsupported : Fault) :
    ∃ o text code f', exec (arithOperand unsupported e) f = (.ok (o, text), f') ∧
      Evaluates (Value.int 64) Ty.i64 (reading (Words.operand · e)) f code o f' := by
  rcases Words.isOperand_cases he with ⟨x, rfl, hx⟩ | hliteral
  · obtain ⟨register, hslot⟩ := hf.slots x hx
    obtain ⟨name, f', hexec, hstraight⟩ :=
      exec_append (.load Ty.i64 (.local register (.ptr Ty.i64))) rfl f
    have hrun : exec (arithOperand unsupported (.name x)) f =
        (.ok (.local name Ty.i64,
          Inst.render ⟨name, .load Ty.i64 (.local register (.ptr Ty.i64))⟩), f') := by
      rw [arithOperand, exec_bind_ok (exec_get f), hslot]
      dsimp only [dereference, Slot.address]
      rw [chase, exec_bind_ok hexec]
      rfl
    exact ⟨_, _, _, f', hrun, load_evaluates hf.named hslot hstraight⟩
  · obtain ⟨n, marked, rfl, hn⟩ := Words.isLiteral_cases hliteral
    exact ⟨_, _, [], f, rfl, literal_evaluates hn marked f⟩

theorem exec_eval (hf : WordFrame vars f) {e : Expr} (he : Words.isOperand vars e = true) :
    ∃ o code f', exec (eval e) f = (.ok (some o), f') ∧
      Evaluates (Value.int 64) Ty.i64 (reading (Words.operand · e)) f code o f' := by
  rcases Words.isOperand_cases he with ⟨x, rfl, hx⟩ | hliteral
  · obtain ⟨line, hshape⟩ : ∃ line, eval (.name x) = (do say line; readName x) := ⟨_, rfl⟩
    obtain ⟨f₀, hsay, hquiet, -⟩ := say_straight line f
    obtain ⟨register, hslot⟩ := (hf.straight hquiet (by simp)).slots x hx
    obtain ⟨name, f', hexec, hstraight⟩ :=
      exec_append (.load Ty.i64 (.local register (.ptr Ty.i64))) rfl f₀
    have hrun : exec (eval (.name x)) f = (.ok (some (.local name Ty.i64)), f') := by
      rw [hshape, exec_bind_ok hsay, readName, exec_bind_ok (exec_get f₀), hslot]
      dsimp only [load, Slot.address]
      rw [exec_bind_ok hexec]
      rfl
    have hload := load_evaluates (hf.named.grown hquiet.grown) hslot hstraight
    exact ⟨_, _, f', hrun, hload.after hquiet⟩
  · obtain ⟨n, marked, rfl, hn⟩ := Words.isLiteral_cases hliteral
    obtain ⟨line, hshape⟩ : ∃ line, eval (.const (.int n) marked) =
        (do say line; evalConstant (.int n)) := ⟨_, rfl⟩
    obtain ⟨f₀, hsay, hquiet, -⟩ := say_straight line f
    have hrun : exec (eval (.const (.int n) marked)) f = (.ok (some (Operand.int Ty.i64 n)), f₀) := by
      rw [hshape, exec_bind_ok hsay]
      rfl
    exact ⟨_, [], f₀, hrun, (literal_evaluates hn marked f₀).after hquiet⟩

end Operands

/-! ### Values -/

section Values

variable {vars : List String} {f : Frame}

/-- The pointer to a helper, and the call through it. -/
theorem helper_evaluates (hnamed : SlotsNamed f) {number : Nat} (hnumber : Words.IsWord number)
    {pointer name : String} {t : Ty} {tail variadic : Bool} {params : List Ty} {f₁ f₂ : Frame}
    (hcast : Straight f f₁
      [⟨pointer, .cast .intToPtr (Operand.int Ty.i64 number) (.ptr t)⟩])
    (hcall : Straight f₁ f₂
      [⟨name, .call tail Ty.i64 params variadic (.local pointer (.ptr t)) []⟩]) :
    Evaluates (Value.int 64) Ty.i64 (fun results σ => .ok (σ.call results number)) f
      ([⟨pointer, .cast .intToPtr (Operand.int Ty.i64 number) (.ptr t)⟩] ++
        [⟨name, .call tail Ty.i64 params variadic (.local pointer (.ptr t)) []⟩])
      (.local name Ty.i64) f₂ where
  toStraight := hcast.trans hcall
  writable := by simp [Op.fault?, Op.operands, fault?_int hnumber 64, fault?_local]
  ofTy := rfl
  shown := rfl
  settled := by
    rintro _ _ ⟨⟩
    exact hcall.taken _ (List.mem_singleton_self _)
  carries := by
    intro results σ m w σ' hmatches hmeaning
    obtain ⟨rfl, rfl⟩ := Prod.mk.inj (Except.ok.inj hmeaning)
    have hbits : (BitVec.ofInt 64 (number : Int)).toNat = number := by
      have hlt := hnumber.2
      rw [BitVec.ofInt_natCast, BitVec.toNat_ofNat]
      exact Nat.mod_eq_of_lt (by omega)
    have hfirst : Carries results f _ m σ (m.set pointer (.raw (BitVec.ofInt 64 number))) :=
      Carries.single hnamed (hcast.fresh _ (List.mem_singleton_self _)) hmatches
        (Machine.execute_intToPtr rfl t) rfl rfl rfl hmatches.calls
    have hmatches₁ : Matches f₁.locals σ (m.set pointer (.raw (BitVec.ofInt 64 number))) := by
      rw [hcast.locals]
      exact hfirst.state
    have hcallee : (Operand.local pointer (.ptr t)).eval
        (m.set pointer (.raw (BitVec.ofInt 64 number))) = some (.raw (BitVec.ofInt 64 number)) :=
      Machine.eval_set m pointer rfl
    have hcalls : m.calls ++ [⟨(BitVec.ofInt 64 (number : Int)).toNat, []⟩] =
        (σ.call results number).2.calls := by
      rw [hbits, hmatches.calls]
      rfl
    have hsecond : Carries results f₁ _ _ (σ.call results number).2 _ :=
      Carries.single (hnamed.grown hcast.grown) (hcall.fresh _ (List.mem_singleton_self _)) hmatches₁
        (Machine.execute_call hcallee tail params variadic) rfl rfl rfl hcalls
    refine ⟨_, hfirst.trans hcast.grown hsecond, ?_⟩
    refine Machine.eval_local ?_ rfl
    rw [← hmatches.calls]
    exact Function.update_self _ _ _

theorem exec_callKernel (hnamed : SlotsNamed f) {s : Signature} (hparams : s.params = [])
    (hresult : s.result = Ty.i64) (hnumber : Words.IsWord s.number) :
    ∃ o code f', exec (callKernel s []) f = (.ok o, f') ∧
      Evaluates (Value.int 64) Ty.i64 (fun results σ => .ok (σ.call results s.number)) f code o
        f' := by
  obtain ⟨pointer, f₁, hcast, hstraight₁⟩ :=
    exec_append (.cast .intToPtr (Operand.int Ty.i64 s.number) (.ptr s.ty)) rfl f
  obtain ⟨name, f₂, hcall, hstraight₂⟩ := exec_append
    (.call s.variadic Ty.i64 [] s.variadic (.local pointer (.ptr s.ty)) []) rfl f₁
  have hrun : exec (callKernel s []) f = (.ok (.local name Ty.i64), f₂) := by
    have haccepts : s.accepts [] = true := by simp [Signature.accepts, hparams]
    rw [callKernel, exec_bind_ok hcast, haccepts, if_pos rfl, hresult, hparams]
    dsimp only [Inst.result, Op.result?, Option.getD]
    rw [exec_bind_ok hcall]
    rfl
  exact ⟨_, _, f₂, hrun, helper_evaluates hnamed hnumber hstraight₁ hstraight₂⟩

theorem exec_arith {l r : Operand} (hl : l.ty = Ty.i64) (hr : r.ty = Ty.i64) (op : Arith)
    (f : Frame) : ∃ name f', exec (arith op l r) f = (.ok (.local name Ty.i64), f') ∧
      Straight f f' [⟨name, .arith op l r⟩] := by
  obtain ⟨name, f', hexec, hstraight⟩ := exec_append (.arith op l r) rfl f
  refine ⟨name, f', ?_, hstraight⟩
  have hagrees : l.ty.agrees r.ty = true := by
    rw [hl, hr]
    rfl
  rw [arith, if_pos hagrees, exec_bind_ok hexec]
  simp [Inst.result, Op.result?, hl]

theorem and_lowHalf (w : Word) : w &&& BitVec.ofInt 64 0xFFFFFFFF = Words.lowHalf w := by
  apply BitVec.eq_of_toNat_eq
  have hmask : (BitVec.ofInt 64 0xFFFFFFFF).toNat = 2 ^ 32 - 1 := rfl
  have hlt : w.toNat % 2 ^ 32 < 2 ^ 64 := by omega
  rw [BitVec.toNat_and, hmask, Nat.and_two_pow_sub_one_eq_mod, Words.lowHalf, BitVec.toNat_setWidth,
    BitVec.toNat_setWidth, Nat.mod_eq_of_lt hlt]

/-- The process number is the lower half of what the helper gives. -/
theorem exec_pidCall (hnamed : SlotsNamed f) :
    ∃ o code f', exec pidCall f = (.ok o, f') ∧
      Evaluates (Value.int 64) Ty.i64
        (fun results σ => .ok (Words.lowHalf (σ.call results 14).1, (σ.call results 14).2)) f code o
          f' := by
  obtain ⟨both, code, f₁, hcall, heval⟩ := exec_callKernel hnamed (s := .pidTgid) rfl rfl (by decide)
  have hmask := literal_evaluates (n := 0xFFFFFFFF) (by decide) false f₁
  obtain ⟨name, f₂, harith, hstraight⟩ := exec_arith heval.ofTy hmask.ofTy .and f₁
  have hrun : exec pidCall f = (.ok (.local name Ty.i64), f₂) := by
    rw [pidCall, exec_bind_ok hcall, harith]
  refine ⟨_, _, f₂, hrun, (heval.binary hmask hnamed hstraight ?_ (fun _ => rfl)
    fun results m x y hx hy => Machine.execute_arith hx hy rfl).congr ?_⟩
  · simp [Op.fault?, Op.operands, heval.shown, hmask.shown]
  · intro results σ
    rw [← and_lowHalf]
    rfl

theorem arithOf?_of_operation? {op : BinaryOp} {apply : Word → Word → Word}
    (h : Words.operation? op = some apply) :
    ∃ a, arithOf? op = some a ∧ ∀ x y : Word, a.apply x y = some (apply x y) := by
  cases op <;> simp only [Words.operation?, reduceCtorEq, Option.some.injEq] at h <;> subst h <;>
    exact ⟨_, rfl, fun _ _ => rfl⟩

end Values

/-! ### Tests -/

section Tests

variable {vars : List String} {f : Frame}

def truth (b : Bool) : Value := .int 1 (BitVec.ofBool b)

theorem predicateOf?_of_comparison? {op : CompareOp} {holds : Word → Word → Bool}
    (h : Words.comparison? op = some holds) :
    ∃ p, predicateOf? op = some p ∧ ∀ x y : Word, p.holds x y = holds x y := by
  cases op <;> simp only [Words.comparison?, reduceCtorEq, Option.some.injEq] at h <;> subst h <;>
    refine ⟨_, rfl, fun x y => ?_⟩
  · exact beq_eq_decide x y
  · simp [Predicate.holds, bne, beq_eq_decide]
  · rfl
  · rfl
  · rfl
  · rfl

theorem Evaluates.compare {first second : (Nat → Word) → State → Except Halt (Word × State)}
    {f₁ f₂ f' : Frame} {code₁ code₂ : List Inst} {l r : Operand} {name : String}
    {predicate : Predicate}
    (h : Evaluates (Value.int 64) Ty.i64 first f code₁ l f₁)
    (h' : Evaluates (Value.int 64) Ty.i64 second f₁ code₂ r f₂) (hnamed : SlotsNamed f)
    (hstraight : Straight f₂ f' [⟨name, .icmp predicate l r⟩]) :
    Evaluates truth Ty.i1 (combining (fun x y => predicate.holds x y) first second) f
      (code₁ ++ code₂ ++ [⟨name, .icmp predicate l r⟩]) (.local name Ty.i1) f' := by
  refine h.binary h' hnamed hstraight ?_ (fun _ => rfl) ?_
  · simp [Op.fault?, Op.operands, h.shown, h'.shown]
  · intro results m x y hx hy
    exact Machine.execute_icmp predicate hx hy

theorem combining_reading {β : Type} (combine : Word → Word → β) (left right : Expr)
    (results : Nat → Word) (σ : State) :
    reading (fun σ => do return combine (← Words.operand σ left) (← Words.operand σ right)) results
        σ =
      combining combine (reading (Words.operand · left)) (reading (Words.operand · right)) results
        σ := by
  cases hleft : Words.operand σ left with
  | error halt => simp [reading, combining, hleft, Bind.bind, Except.bind, Except.map]
  | ok x =>
    cases hright : Words.operand σ right with
    | error halt => simp [reading, combining, hleft, hright, Bind.bind, Except.bind, Except.map]
    | ok y =>
      simp [reading, combining, hleft, hright, Bind.bind, Except.bind, Except.map, Pure.pure,
        Except.pure]

theorem exec_compare (hf : WordFrame vars f) {left right : Expr} {op : CompareOp}
    {holds : Word → Word → Bool} (hop : Words.comparison? op = some holds)
    (hleft : Words.isOperand vars left = true) (hright : Words.isOperand vars right = true) :
    ∃ o code f', exec (condition (.compare left [(op, right)])) f = (.ok (some o), f') ∧
      Evaluates truth Ty.i1 (reading (Words.test · (.compare left [(op, right)]))) f code o f' := by
  obtain ⟨l, code₁, f₁, hexec₁, heval₁⟩ := exec_eval hf hleft
  obtain ⟨r, code₂, f₂, hexec₂, heval₂⟩ :=
    exec_eval (hf.straight heval₁.toStraight heval₁.writable) hright
  obtain ⟨predicate, hpredicate, hholds⟩ := predicateOf?_of_comparison? hop
  obtain ⟨name, f₃, hexec₃, hstraight⟩ := exec_append (.icmp predicate l r) rfl f₂
  have hrun : exec (condition (.compare left [(op, right)])) f =
      (.ok (some (.local name Ty.i1)), f₃) := by
    have hagrees : l.ty.agrees r.ty = true := by
      rw [heval₁.ofTy, heval₂.ofTy]
      rfl
    have hbalance : exec (balance l r) f₂ = (.ok (some (l, r)), f₂) := by
      rw [balance, if_pos hagrees, exec_pure]
    rw [condition, exec_bind_ok hexec₁, exec_bind_ok hexec₂]
    dsimp only
    rw [comparison, exec_bind_ok hbalance]
    dsimp only
    rw [hpredicate]
    dsimp only [Emit.compare]
    rw [bind_assoc, exec_bind_ok hexec₃]
    rfl
  refine ⟨_, _, f₃, hrun, (heval₁.compare heval₂ hf.named hstraight).congr fun results σ => ?_⟩
  rw [show (fun x y : Word => predicate.holds x y) = holds from funext₂ hholds,
    ← combining_reading]
  simp only [Words.test, hop]

theorem exec_isNonzero (hf : WordFrame vars f) {x : String} (hx : x ∈ vars) :
    ∃ o code f', exec (isNonzero x) f = (.ok (some o), f') ∧
      Evaluates truth Ty.i1 (reading (Words.test · (.name x))) f code o f' := by
  obtain ⟨register, hslot⟩ := hf.slots x hx
  obtain ⟨name₁, f₁, hexec₁, hstraight₁⟩ :=
    exec_append (.load Ty.i64 (.local register (.ptr Ty.i64))) rfl f
  obtain ⟨name₂, f₂, hexec₂, hstraight₂⟩ :=
    exec_append (.icmp .ne (.local name₁ Ty.i64) (Operand.int Ty.i64 0)) rfl f₁
  have hrun : exec (isNonzero x) f = (.ok (some (.local name₂ Ty.i1)), f₂) := by
    have hword : ¬(Inst.result ⟨name₁, .load Ty.i64 (.local register (.ptr Ty.i64))⟩).ty = Ty.i1 := by
      change ¬Ty.i64 = Ty.i1
      decide
    have hcompare : exec (Emit.compare .ne (.local name₁ Ty.i64) (Operand.int Ty.i64 0)) f₁ =
        (.ok (.local name₂ Ty.i1), f₂) := by
      rw [Emit.compare, exec_bind_ok hexec₂]
      rfl
    rw [isNonzero, exec_bind_ok (exec_get f), hslot]
    dsimp only [load, Slot.address]
    rw [exec_bind_ok hexec₁, if_neg hword]
    exact exec_bind_ok hcompare
  have hload := load_evaluates hf.named hslot hstraight₁
  have hzero := literal_evaluates (n := 0) (by decide) false f₁
  refine ⟨_, _, f₂, hrun, (hload.compare hzero hf.named hstraight₂).congr fun results σ => ?_⟩
  rw [← combining_reading]
  cases hvalue : Words.operand σ (.name x) with
  | error halt => simp [reading, Words.test, hvalue, Bind.bind, Except.bind, Except.map]
  | ok w =>
    simp [reading, Words.test, Bind.bind, Except.bind, Except.map, Pure.pure, Except.pure,
      Predicate.holds, Words.operand, word, bne, beq_eq_decide]

theorem truthOf_evaluates {n : Int} (marked : Bool) (f : Frame) :
    Evaluates truth Ty.i1 (reading (Words.test · (.const (.int n) marked))) f []
      (truthOf (n != 0)) f where
  toStraight := Straight.refl f
  writable := by simp
  ofTy := rfl
  shown := by
    have hsmall : ∀ b : Bool, Words.IsWord (if b then 1 else 0) := by decide
    exact fault?_int (hsmall _) 1
  settled := by simp [Settled, truthOf, Operand.int]
  carries := by
    intro results σ m b σ' hmatches hmeaning
    obtain ⟨hvalue, rfl⟩ := reading_eq_ok.mp hmeaning
    obtain rfl : decide (n ≠ 0) = b := Except.ok.inj hvalue
    refine ⟨m, Carries.nil hmatches, ?_⟩
    have hbne : (n != 0) = decide (n ≠ 0) := by simp [bne, beq_eq_decide]
    rw [hbne]
    cases decide (n ≠ 0) <;> rfl

theorem exec_condition (hf : WordFrame vars f) {e : Expr} (he : Words.isTest vars e = true) :
    ∃ o code f', exec (condition e) f = (.ok (some o), f') ∧
      Evaluates truth Ty.i1 (reading (Words.test · e)) f code o f' := by
  rcases Words.isTest_cases he with ⟨left, op, right, holds, rfl, hop, hleft, hright⟩ | hoperand
  · exact exec_compare hf hop hleft hright
  · rcases Words.isOperand_cases hoperand with ⟨x, rfl, hx⟩ | hliteral
    · exact exec_isNonzero hf hx
    · obtain ⟨n, marked, rfl, -⟩ := Words.isLiteral_cases hliteral
      exact ⟨_, [], f, rfl, truthOf_evaluates marked f⟩

end Tests

end BpfCompiler.Lower
