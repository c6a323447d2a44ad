import BpfCompiler.Proofs.Registers

/-!
# The keys of map methods

A key reaches a helper as a pointer: a variable is passed by the address of its own slot, and an integer
constant by that of a fresh slot that holds it.  `keyPointer?` says which of the two a key is.  Updates and
deletions take every such key; a lookup gives its slot no alignment and fails on a constant.  So the three
methods treat a key alike exactly if it is no integer constant (`keyMethods_alike_iff`).
-/

namespace BpfCompiler.Lower

open IR Syntax Emit

/-! ### Pointers to keys -/

/-- What is passed for a key: the slot of a variable, or one that is made for a constant. -/
inductive KeyPointer where
  | slot (s : Slot)
  | constant (value : Literal)

/-- The pointer that a key asks for, if it is a variable with a slot or an integer constant. -/
def keyPointer? (locals : Table (Option Slot)) (e : Expr) : Option KeyPointer :=
  match e.name? with
  | some id => (locals.get? id).join.map .slot
  | none => e.intLiteral?.map .constant

namespace KeyPointer

/-- The code that makes the slot of a constant: aligned, and with the constant in it. -/
def constantCode (value : Literal) (s : Slot) (store : String) : List Inst :=
  [⟨s.register, .alloca Ty.i64 (some 8)⟩, ⟨store, .store (.const Ty.i64 value) s.address⟩]

/-- The code makes the slot that the pointer leads to; that of a variable is there. -/
def MadeBy : KeyPointer → Slot → List Inst → Prop
  | slot t, s, code => s = t ∧ code = []
  | constant value, s, code => s.ty = Ty.i64 ∧ ∃ store, code = constantCode value s store

/-- Behind the code the slot is the one that the pointer leads to.  The slot of a constant is made first, and
nothing else is stored into it. -/
def PassedAs : KeyPointer → Slot → List Inst → Prop
  | slot t, s, _ => s = t
  | constant value, s, code => s.ty = Ty.i64 ∧ ∃ store rest, code = constantCode value s store ++ rest ∧
      ∀ i ∈ rest, ∀ o, i.op ≠ .store o s.address

end KeyPointer

theorem intLiteral?_of_name? {e : Expr} {id : String} (h : e.name? = some id) : e.intLiteral? = none := by
  cases e with
  | name => rfl
  | _ => cases h

/-- A variable with a slot, and a constant other than in a lookup, gets its pointer. -/
theorem exec_argumentSlot {f : Frame} {e : Expr} {p : KeyPointer} {method : KeyMethod}
    (hp : keyPointer? f.locals e = some p) (hmethod : method = .lookup → e.intLiteral? = none) (role : Role) :
    ∃ s code f', exec (argumentSlot method role e) f = (.ok (some s), f') ∧ Straight f f' code ∧
      p.MadeBy s code := by
  unfold keyPointer? at hp
  unfold argumentSlot
  cases hname : e.name? with
  | some id =>
    rw [hname] at hp
    obtain ⟨s, hs, rfl⟩ := Option.map_eq_some_iff.mp hp
    refine ⟨s, [], f, ?_, Straight.refl f, rfl, rfl⟩
    dsimp only
    rw [exec_bind_ok (exec_get f), Option.join_eq_some_iff.mp hs]
    rfl
  | none =>
    rw [hname] at hp
    obtain ⟨value, hvalue, rfl⟩ := Option.map_eq_some_iff.mp hp
    obtain ⟨register, f₁, halloca, hstraight₁⟩ := exec_alloca "" Ty.i64 (some 8) f
    obtain ⟨store, f₂, hstore, hstraight₂⟩ :=
      exec_append (.store (.const Ty.i64 value) (Slot.mk register Ty.i64).address) rfl f₁
    have hrun : exec (Emit.store (some (.const Ty.i64 value)) (some ⟨register, Ty.i64⟩)) f₁ = (.ok (), f₂) := by
      have hagrees : Ty.i64.agrees (Operand.const Ty.i64 value).ty = true := rfl
      dsimp only [Emit.store]
      rw [if_pos hagrees, exec_bind_ok hstore]
      rfl
    have hne : ¬method = .lookup := fun hlookup => by simp [hmethod hlookup] at hvalue
    refine ⟨⟨register, Ty.i64⟩, _, f₂, ?_, hstraight₁.trans hstraight₂, rfl, store, rfl⟩
    rw [hvalue]
    dsimp only
    rw [if_neg hne, exec_bind_ok halloca, exec_bind_ok hrun]
    rfl

/-- Nothing else gets a pointer. -/
theorem argumentSlot_inv {f f' : Frame} {e : Expr} {s : Slot} {method : KeyMethod} {role : Role}
    (h : exec (argumentSlot method role e) f = (.ok (some s), f')) :
    (keyPointer? f.locals e).isSome = true ∧ (method = .lookup → e.intLiteral? = none) := by
  unfold argumentSlot at h
  unfold keyPointer?
  cases hname : e.name? with
  | some id =>
    refine ⟨?_, fun _ => intLiteral?_of_name? hname⟩
    rw [hname] at h
    dsimp only at h ⊢
    rw [exec_bind_ok (exec_get f)] at h
    split at h
    · rename_i slot hslot
      obtain ⟨rfl, -⟩ := exec_pure_inv h
      simp [hslot]
    · exact exec_throw_inv h
  | none =>
    rw [hname] at h
    cases hvalue : e.intLiteral? with
    | none =>
      rw [hvalue] at h
      exact exec_throw_inv h
    | some value =>
      rw [hvalue] at h
      refine ⟨rfl, fun hlookup => ?_⟩
      dsimp only at h
      rw [if_pos hlookup] at h
      obtain ⟨slot, f₁, -, hthrow⟩ := exec_bind_inv h
      exact exec_throw_inv hthrow

/-! ### Calls -/

/-- The flags that an update takes: none, an integer constant, or a variable of a word. -/
def acceptsFlags (locals : Table (Option Slot)) : Option Expr → Bool
  | none => true
  | some e =>
    match e.name? with
    | some id => (locals.get? id).join.any fun s => s.ty = Ty.i64
    | none => e.intLiteral?.isSome

theorem exec_flagsOperand {f : Frame} {flags : Option Expr} (h : acceptsFlags f.locals flags = true) :
    ∃ o code f', exec (flagsOperand flags) f = (.ok o, f') ∧ Straight f f' code ∧ o.ty = Ty.i64 ∧
      ∀ i ∈ code, ∀ v a, i.op ≠ .store v a := by
  cases flags with
  | none => exact ⟨_, [], f, rfl, Straight.refl f, rfl, by simp⟩
  | some e =>
    dsimp only [acceptsFlags] at h
    dsimp only [flagsOperand]
    cases hname : e.name? with
    | none =>
      rw [hname] at h
      obtain ⟨value, hvalue⟩ := Option.isSome_iff_exists.mp h
      refine ⟨.const Ty.i64 value, [], f, ?_, Straight.refl f, rfl, by simp⟩
      rw [hvalue]
      rfl
    | some id =>
      simp only [hname, Option.any_eq_true, decide_eq_true_eq] at h
      obtain ⟨s, hs, hty⟩ := h
      obtain ⟨name, f', hload, hstraight⟩ := exec_append (.load s.ty s.address) rfl f
      refine ⟨.local name s.ty, _, f', ?_, hstraight, hty, by simp⟩
      rw [intLiteral?_of_name? hname]
      dsimp only
      rw [exec_bind_ok (exec_get f), Option.join_eq_some_iff.mp hs]
      dsimp only [load]
      rw [exec_bind_ok hload]
      rfl

/-- The helper of a method. -/
def keySignature : KeyMethod → Signature
  | .lookup => .lookup
  | .update => .update
  | .delete => .delete

/-- The method called with a key; an update has a value and perhaps flags behind it. -/
def keyCall (map : Operand) (value : Expr) (flags : Option Expr) (key : Expr) : KeyMethod → Emit Operand
  | .lookup => lookupCall map [key]
  | .update => updateCall map (key :: value :: flags.toList)
  | .delete => deleteCall map [key]

/-- The step ended in a call of the method's helper, with the map and the pointer as first arguments. -/
def Passes (method : KeyMethod) (map : Operand) (p : KeyPointer) (f f' : Frame) : Prop :=
  ∃ s code pointer name args, p.PassedAs s code ∧
    Straight f f' (code ++ kernelCode (keySignature method) pointer name (map :: s.address :: args))

theorem agrees_of_isPointer {ty : Ty} (h : ty.isPointer = true) (t : Ty) : ty.agrees (.ptr t) = true := by
  cases ty with
  | ptr => rfl
  | _ => cases h

theorem address_agrees (s : Slot) (t : Ty) : s.address.ty.agrees (.ptr t) = true := rfl

/-- What is computed behind the slot of a key does not store into it, if it is fresh: the slot of a value is
another one. -/
theorem KeyPointer.MadeBy.not_stored {p q : KeyPointer} {s t : Slot} {code code' : List Inst}
    {f f₁ f₂ : Frame} (hp : p.MadeBy s code) (hcode : Straight f f₁ code) (hq : q.MadeBy t code')
    (hcode' : Straight f₁ f₂ code') {value : Literal} (hvalue : p = .constant value) :
    ∀ i ∈ code', ∀ o, i.op ≠ .store o s.address := by
  subst hvalue
  obtain ⟨-, store, rfl⟩ := hp
  cases q with
  | slot => simp [hq.2]
  | constant value' =>
    obtain ⟨-, store', rfl⟩ := hq
    have htaken : s.register ∈ f₁.fn.scope.used := hcode.taken _ List.mem_cons_self
    have hfresh : t.register ∉ f₁.fn.scope.used := hcode'.fresh _ List.mem_cons_self
    have hne : t.address ≠ s.address := by
      intro heq
      have hregister : t.register = s.register := (Operand.local.inj heq).1
      exact hfresh (hregister ▸ htaken)
    simp [constantCode, hne]

theorem KeyPointer.MadeBy.passedAs {p : KeyPointer} {s : Slot} {code rest : List Inst} (h : p.MadeBy s code)
    (hrest : ∀ value, p = .constant value → ∀ i ∈ rest, ∀ o, i.op ≠ .store o s.address) :
    p.PassedAs s (code ++ rest) := by
  cases p with
  | slot => exact h.1
  | constant value =>
    obtain ⟨hty, store, rfl⟩ := h
    exact ⟨hty, store, rest, rfl, hrest value rfl⟩

section Keys

variable {f : Frame} {map : Operand} {key value : Expr} {flags : Option Expr} {p : KeyPointer}

/-- A lookup or a deletion passes the pointer of its key. -/
theorem exec_keyed {method : KeyMethod} (hmap : map.ty.isPointer = true)
    (hp : keyPointer? f.locals key = some p) (hmethod : method = .lookup → key.intLiteral? = none)
    (hparams : (keySignature method).params = [Ty.bytePtr, Ty.bytePtr]) (fault : Fault) :
    ∃ o f', exec (do
        match ← argumentSlot method .key key with
        | some slot => callKernel (keySignature method) [map, slot.address]
        | none => throw fault) f = (.ok o, f') ∧ Passes method map p f f' := by
  obtain ⟨s, code, f₁, hslot, hstraight₁, hmade⟩ := exec_argumentSlot hp hmethod .key
  have haccepts : (keySignature method).accepts [map, s.address] = true := by
    simp [Signature.accepts, hparams, agrees_of_isPointer hmap, address_agrees]
  obtain ⟨pointer, name, f₂, hcall, hstraight₂, -⟩ := exec_callKernel_of_accepts haccepts f₁
  have hpassed : p.PassedAs s (code ++ []) := hmade.passedAs (by simp)
  rw [List.append_nil] at hpassed
  refine ⟨.local name (keySignature method).result, f₂, ?_, s, code, pointer, name, [], hpassed,
    hstraight₁.trans hstraight₂⟩
  rw [exec_bind_ok hslot]
  exact hcall

theorem exec_updateWith (hmap : map.ty.isPointer = true) (hp : keyPointer? f.locals key = some p)
    (hvalue : (keyPointer? f.locals value).isSome = true) (hflags : acceptsFlags f.locals flags = true) :
    ∃ o f', exec (updateWith map key value flags) f = (.ok o, f') ∧ Passes .update map p f f' := by
  obtain ⟨q, hq⟩ := Option.isSome_iff_exists.mp hvalue
  obtain ⟨s, code₁, f₁, hslot₁, hstraight₁, hmade₁⟩ :=
    exec_argumentSlot hp (nofun : KeyMethod.update = .lookup → _) .key
  rw [← hstraight₁.locals] at hq hflags
  obtain ⟨t, code₂, f₂, hslot₂, hstraight₂, hmade₂⟩ :=
    exec_argumentSlot hq (nofun : KeyMethod.update = .lookup → _) .value
  rw [← hstraight₂.locals] at hflags
  obtain ⟨o, code₃, f₃, hoperand, hstraight₃, hty, hstores⟩ := exec_flagsOperand hflags
  have haccepts : Signature.update.accepts [map, s.address, t.address, o] = true := by
    simp [Signature.accepts, Signature.update, agrees_of_isPointer hmap, address_agrees, hty, Ty.agrees]
  obtain ⟨pointer, name, f₄, hcall, hstraight₄, -⟩ := exec_callKernel_of_accepts haccepts f₃
  refine ⟨.local name Ty.i64, f₄, ?_, s, code₁ ++ (code₂ ++ code₃), pointer, name, [t.address, o], ?_,
    (hstraight₁.trans (hstraight₂.trans hstraight₃)).trans hstraight₄⟩
  · rw [updateWith, exec_bind_ok hslot₁, exec_bind_ok hslot₂, exec_bind_ok hoperand]
    exact hcall
  · refine hmade₁.passedAs fun value hconstant i hi v => ?_
    rcases List.mem_append.mp hi with hi | hi
    · exact hmade₁.not_stored hstraight₁ hmade₂ hstraight₂ hconstant i hi v
    · exact hstores i hi v s.address

/-- With a key that it can point to, every method but a lookup of a constant passes the pointer on. -/
theorem exec_keyCall (hmap : map.ty.isPointer = true) (hvalue : (keyPointer? f.locals value).isSome = true)
    (hflags : acceptsFlags f.locals flags = true) (hp : keyPointer? f.locals key = some p)
    {method : KeyMethod} (hmethod : method = .lookup → key.intLiteral? = none) :
    ∃ o f', exec (keyCall map value flags key method) f = (.ok o, f') ∧ Passes method map p f f' := by
  cases method with
  | lookup => exact exec_keyed hmap hp hmethod rfl _
  | delete => exact exec_keyed hmap hp hmethod rfl _
  | update =>
    have hupdate := exec_updateWith hmap hp hvalue hflags
    cases flags with
    | none => exact hupdate
    | some e => exact hupdate

/-- Other keys are refused. -/
theorem keyCall_inv {method : KeyMethod} {o : Operand} {f' : Frame}
    (h : exec (keyCall map value flags key method) f = (.ok o, f')) :
    (keyPointer? f.locals key).isSome = true ∧ (method = .lookup → key.intLiteral? = none) := by
  -- the pointer of the key is asked for first, and a method that gets none fails later on
  obtain ⟨slot, f₁, hslot, hrest⟩ : ∃ slot f₁, exec (argumentSlot method .key key) f = (.ok slot, f₁) ∧
      (slot = none → False) := by
    cases method with
    | lookup =>
      obtain ⟨slot, f₁, hslot, hrest⟩ := exec_bind_inv h
      refine ⟨slot, f₁, hslot, ?_⟩
      rintro rfl
      exact exec_throw_inv hrest
    | delete =>
      obtain ⟨slot, f₁, hslot, hrest⟩ := exec_bind_inv h
      refine ⟨slot, f₁, hslot, ?_⟩
      rintro rfl
      exact exec_throw_inv hrest
    | update =>
      have hupdate : exec (updateWith map key value flags) f = (.ok o, f') := by
        cases flags <;> exact h
      obtain ⟨slot, f₁, hslot, hrest⟩ := exec_bind_inv hupdate
      obtain ⟨other, f₂, -, hrest⟩ := exec_bind_inv hrest
      obtain ⟨operand, f₃, -, hrest⟩ := exec_bind_inv hrest
      refine ⟨slot, f₁, hslot, ?_⟩
      rintro rfl
      exact exec_throw_inv hrest
  cases slot with
  | none => exact (hrest rfl).elim
  | some s => exact argumentSlot_inv hslot

end Keys

/-- For every state, every table of variables and every key, with a value and flags that an update accepts: a
method accepts the key exactly if the key has a pointer and is, for a lookup, no constant; a method that
accepts the key calls its helper with that pointer; and the three methods accept the key together exactly if
it is no integer constant. -/
theorem keyMethods_alike_iff {f : Frame} {map : Operand} (hmap : map.ty.isPointer = true) {value : Expr}
    (hvalue : (keyPointer? f.locals value).isSome = true) {flags : Option Expr}
    (hflags : acceptsFlags f.locals flags = true) (key : Expr) :
    (∀ method, (exec (keyCall map value flags key method) f).1.isOk = true ↔
      (keyPointer? f.locals key).isSome = true ∧ (method = .lookup → key.intLiteral? = none)) ∧
    (∀ method o f', exec (keyCall map value flags key method) f = (.ok o, f') →
      ∃ p, keyPointer? f.locals key = some p ∧ Passes method map p f f') ∧
    ((∀ method method', (exec (keyCall map value flags key method) f).1.isOk = true ↔
        (exec (keyCall map value flags key method') f).1.isOk = true) ↔
      key.intLiteral? = none) := by
  have haccepts : ∀ method, (exec (keyCall map value flags key method) f).1.isOk = true ↔
      (keyPointer? f.locals key).isSome = true ∧ (method = .lookup → key.intLiteral? = none) := by
    intro method
    constructor
    · intro hok
      obtain ⟨o, f', hexec⟩ := exec_of_isOk hok
      exact keyCall_inv hexec
    · rintro ⟨hsome, hmethod⟩
      obtain ⟨p, hp⟩ := Option.isSome_iff_exists.mp hsome
      obtain ⟨o, f', hexec, -⟩ := exec_keyCall hmap hvalue hflags hp hmethod
      rw [hexec]
      rfl
  refine ⟨haccepts, ?_, ?_⟩
  · intro method o f' hexec
    obtain ⟨hsome, hmethod⟩ := keyCall_inv hexec
    obtain ⟨p, hp⟩ := Option.isSome_iff_exists.mp hsome
    obtain ⟨o', f'', hexec', hpasses⟩ := exec_keyCall hmap hvalue hflags hp hmethod
    rw [hexec] at hexec'
    cases hexec'
    exact ⟨p, hp, hpasses⟩
  · constructor
    · intro halike
      by_contra hconstant
      obtain ⟨literal, hliteral⟩ := Option.ne_none_iff_exists'.mp hconstant
      have hname : key.name? = none := by
        cases hid : key.name? with
        | none => rfl
        | some id => exact absurd (intLiteral?_of_name? hid) hconstant
      have hdelete : (exec (keyCall map value flags key .delete) f).1.isOk = true := by
        rw [haccepts]
        exact ⟨by simp [keyPointer?, hname, hliteral], nofun⟩
      exact hconstant (((haccepts .lookup).mp ((halike .delete .lookup).mp hdelete)).2 rfl)
    · intro hnone method method'
      rw [haccepts, haccepts]
      simp [hnone]

/-- A variable is a key of all methods, and the constant 5 is not. -/
theorem mixedKeys_alike :
    ∃ (f : Frame) (map : Operand) (value : Expr), map.ty.isPointer = true ∧
      (keyPointer? f.locals value).isSome = true ∧
      (∀ method method', (exec (keyCall map value none (.name "k") method) f).1.isOk = true ↔
        (exec (keyCall map value none (.name "k") method') f).1.isOk = true) ∧
      (∃ o f', exec (keyCall map value none (.name "k") .lookup) f = (.ok o, f') ∧
        Passes .lookup map (.slot ⟨"k", Ty.i64⟩) f f') ∧
      ¬∀ method method', (exec (keyCall map value none (.const (.int 5) false) method) f).1.isOk = true ↔
        (exec (keyCall map value none (.const (.int 5) false) method') f).1.isOk = true := by
  have hvalue : (keyPointer? (slotFrame [("k", Ty.i64)]).locals (.const (.int 1) false)).isSome = true := rfl
  have hmap : (Operand.global "m" (.ptr Ty.i64)).ty.isPointer = true := rfl
  have hflags : acceptsFlags (slotFrame [("k", Ty.i64)]).locals none = true := rfl
  obtain ⟨haccepts, hpasses, halike⟩ := keyMethods_alike_iff hmap hvalue hflags (.name "k")
  obtain ⟨-, -, hconstant⟩ := keyMethods_alike_iff hmap hvalue hflags (.const (.int 5) false)
  refine ⟨slotFrame [("k", Ty.i64)], .global "m" (.ptr Ty.i64), .const (.int 1) false, hmap, hvalue,
    halike.mpr rfl, ?_, ?_⟩
  · obtain ⟨o, f', hexec⟩ := exec_of_isOk ((haccepts .lookup).mpr ⟨rfl, fun _ => rfl⟩)
    obtain ⟨p, hp, hpassed⟩ := hpasses .lookup o f' hexec
    cases hp
    exact ⟨o, f', hexec, hpassed⟩
  · rw [hconstant]
    nofun

/-- The call of a method of the map `m` with the key 5. -/
def fiveOf (method : String) : Stmt :=
  .expr (.call (.attribute (.call (.name "m") [] []) method) [.const (.int 5) false] [])

/-- The deletion makes a slot for the key, and the lookup fails to. -/
theorem constantLookup_refused :
    ∃ maps : Table Operand,
      (exec (functionBody Ty.i64 [fiveOf "delete"]) (bareFrame maps)).1 = .ok () ∧
      (exec (functionBody Ty.i64 [fiveOf "lookup"]) (bareFrame maps)).1 = .error .slotAlignment ∧
      Fault.slotAlignment.className = "TypeError" := by
  refine ⟨Table.empty.insert "m" (.global "m" (.ptr Ty.i64)), ?_⟩
  decide +kernel

end BpfCompiler.Lower
