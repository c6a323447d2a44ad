import BpfCompiler.Proofs.Comparisons
import BpfCompiler.Proofs.Printing

/-!
# Two ways of reading a variable

`x = v + 0` reads `v` through all its pointers, and `x = deref(v)` reads it once.  Both are lowered to code that
computes a value and stores it, so that their effects are compared by what they leave in the cells.  The two
agree on every variable but one that holds a pointer: there the sum is the word behind the pointer, and the
single read has the type of the pointer, which the slot of a word does not take (`readOnce_agrees_iff`).
-/

namespace BpfCompiler.Lower

open IR Syntax Emit

/-! ### Values that are stored -/

/-- The cells after a value has been put into a slot. -/
def Slot.put (s : Slot) (m : Machine) (v : Value) : Option (List (Option Value)) :=
  (m.cellAt s.address).map fun place => m.cells.set place (some v)

theorem execute_store_eq (results : Nat → BitVec 64) (m : Machine) (name : String) (o : Operand)
    (s : Slot) :
    (m.execute results ⟨name, .store o s.address⟩).map Machine.cells = (o.eval m).bind (s.put m) := by
  unfold Machine.execute
  dsimp only
  cases o.eval m with
  | none => rfl
  | some v => cases hplace : m.cellAt s.address <;> simp [Slot.put, hplace]

theorem Computes.before {value : Machine → Option Value} {f f₁ f' : Frame} {code : List Inst} {o : Operand}
    (h : Computes value f code o f₁) (hquiet : Straight f₁ f' []) : Computes value f code o f' where
  toStraight := by simpa using h.toStraight.trans hquiet
  settled := fun name ty heq => hquiet.used (h.settled name ty heq)
  carries := h.carries
  complete := h.complete

/-- The code of a value and of its store puts the value into the slot, if there is one. -/
theorem Computes.executeAll_store {value : Machine → Option Value} {f f₁ : Frame} {code : List Inst}
    {o : Operand} (h : Computes value f code o f₁) {s : Slot} (hs : s.register ∈ f.fn.scope.used)
    (name : String) (results : Nat → BitVec 64) (m : Machine) :
    (m.executeAll results (code ++ [⟨name, .store o s.address⟩])).map Machine.cells =
      (value m).bind (s.put m) := by
  have hsettled : Settled f.fn.scope.used s.address := by
    rintro _ _ ⟨⟩
    exact hs
  cases hvalue : value m with
  | some v =>
    obtain ⟨m₁, hsets, heval⟩ := h.carries results m v hvalue
    rw [hsets.executeAll_append, Machine.executeAll_singleton, execute_store_eq, heval,
      Option.bind_some, Option.bind_some, Slot.put, Slot.put, Machine.cellAt, Machine.cellAt,
      hsettled.eval hsets.same, hsets.cells]
  | none =>
    rw [Machine.executeAll_append_eq]
    cases hrun : m.executeAll results code with
    | none => rfl
    | some m₁ =>
      -- a machine that gets to the store has no value to put there
      have heval : o.eval m₁ = none := by
        cases heval : o.eval m₁ with
        | none => rfl
        | some v => exact absurd (h.complete results m m₁ v hrun heval) (by simp [hvalue])
      rw [Option.bind_some, Machine.executeAll_singleton, execute_store_eq, heval]
      rfl

theorem arithmetic_add_zero {v : Value} (h : v.hasTy Ty.i64 = true) :
    arithmetic .add v (.int 64 0#64) = some v := by
  cases v with
  | int width bits =>
    obtain rfl : width = 64 := by simpa [Value.hasTy] using h
    simp [arithmetic, Arith.apply]
  | _ => cases h

/-- Zero can be added to a word behind its code, and the value stays. -/
theorem Computes.addZero {value : Machine → Option Value} {f f₁ f' : Frame} {code : List Inst}
    {o : Operand} {name : String} (h : Computes value f code o f₁)
    (hword : ∀ m v, o.eval m = some v → v.hasTy Ty.i64 = true)
    (hstraight : Straight f₁ f' [⟨name, .arith .add o (Operand.int Ty.i64 0)⟩]) :
    Computes value f (code ++ [⟨name, .arith .add o (Operand.int Ty.i64 0)⟩]) (.local name Ty.i64) f' := by
  have hsum : Computes (fun m => (o.eval m).bind some) f₁ [⟨name, .arith .add o (Operand.int Ty.i64 0)⟩]
      (.local name Ty.i64) f' := by
    refine .single hstraight (fun m v hv => hword m v (by simpa using hv)) fun results m => ?_
    cases heval : o.eval m with
    | none => simp [Machine.execute, heval]
    | some v =>
      have hzero : (Operand.int Ty.i64 0).eval m = some (.int 64 0) := rfl
      simp [Machine.execute, heval, hzero, arithmetic_add_zero (hword m v heval)]
  simpa using h.chain (fun _ v => some v) hsum

/-! ### The two statements -/

/-- `x = v + 0` -/
def addZero (x v : String) : Stmt := .assign [.name x] (.binary (.name v) .add (.const (.int 0) false))

/-- `x = deref(v)` -/
def readOnce (x v : String) : Stmt := .assign [.name x] (.call (.name "deref") [.name v] [])

/-- The statement is lowered, and its code has the given effect on the cells of every machine. -/
def Leaves (s : Stmt) (f : Frame)
    (effect : (Nat → BitVec 64) → Machine → Option (List (Option Value))) : Prop :=
  ∃ code f', exec (lowerSimple s) f = (.ok (), f') ∧ Straight f f' code ∧
    ∀ results m, (m.executeAll results code).map Machine.cells = effect results m

theorem Leaves.unique {s : Stmt} {f : Frame}
    {effect effect' : (Nat → BitVec 64) → Machine → Option (List (Option Value))}
    (hin : f.here < f.fn.blocks.length) (h : Leaves s f effect) (h' : Leaves s f effect') :
    effect = effect' := by
  obtain ⟨code, f₁, hexec, hstraight, heffect⟩ := h
  obtain ⟨code', f₂, hexec', hstraight', heffect'⟩ := h'
  rw [hexec] at hexec'
  cases hexec'
  obtain rfl := hstraight.toAppends.unique hstraight'.toAppends hin
  funext results m
  rw [← heffect, heffect']

theorem chase_inv {ty : Ty} {source : Operand} {f f' : Frame} {i : Inst}
    (h : exec (chase ty source) f = (.ok i, f')) : ty.leadsToWord = true := by
  fun_induction Ty.leadsToWord ty generalizing source f with
  | case1 t ih =>
    rw [chase] at h
    obtain ⟨first, f₁, -, hrest⟩ := exec_bind_inv h
    exact ih hrest
  | case2 => rfl
  | case3 ty hptr hword =>
    rw [chase] at h
    · obtain ⟨first, f₁, -, hrest⟩ := exec_bind_inv h
      exact exec_throw_inv hrest
    · exact hptr
    · exact hword

theorem exec_say (line : Text) (f : Frame) :
    ∃ f', exec (say line) f = (.ok (), f') ∧ Straight f f' [] ∧ f'.wholeModule = f.wholeModule := by
  obtain ⟨f', hexec, hstraight, -⟩ := say_straight line f
  refine ⟨f', hexec, hstraight, ?_⟩
  obtain rfl : (exec (say line) f).2 = f' := by rw [hexec]
  rfl

theorem exec_showModule {f : Frame} (h : f.wholeModule.fault? = none) :
    ∃ f', exec showModule f = (.ok (), f') ∧ Straight f f' [] := by
  obtain ⟨f', hsay, hquiet, -⟩ := say_straight "<module>" f
  refine ⟨f', ?_, hquiet⟩
  rw [showModule, exec_bind_ok (exec_get f), h]
  exact hsay

section Reads

variable {g : Frame} {x v : String} {slot t : Slot}

/-- A sum is lowered only in a module that can be written, and of a variable that leads to a word. -/
theorem addZero_inv {f' : Frame} (hv : g.locals.get? v = some (some slot))
    (h : exec (lowerSimple (addZero x v)) g = (.ok (), f')) :
    g.wholeModule.fault? = none ∧ slot.ty.leadsToWord = true := by
  obtain ⟨line, hshape⟩ : ∃ line, lowerSimple (addZero x v) = (do
      say line
      assignBinary x (.name v) .add (.const (.int 0) false)) := ⟨_, rfl⟩
  obtain ⟨g₀, hsay, hquiet, hmodule⟩ := exec_say line g
  rw [hshape, exec_bind_ok hsay, assignBinary] at h
  obtain ⟨⟨⟩, g₁, hshow, h⟩ := exec_bind_inv h
  have hwritable : g₀.wholeModule.fault? = none := by
    rw [showModule, exec_bind_ok (exec_get g₀)] at hshow
    split at hshow
    · exact exec_throw_inv hshow
    · assumption
  rw [← hmodule]
  refine ⟨hwritable, ?_⟩
  obtain ⟨g₁', hshow', hquiet'⟩ := exec_showModule hwritable
  rw [hshow] at hshow'
  cases hshow'
  obtain ⟨left, g₂, hleft, -⟩ := exec_bind_inv h
  rw [arithOperand, exec_bind_ok (exec_get g₁), hquiet'.locals, hquiet.locals, hv] at hleft
  obtain ⟨i, g₃, hchase, -⟩ := exec_bind_inv hleft
  exact chase_inv hchase

theorem addZero_leaves (hnamed : SlotsNamed g) (hwritable : g.wholeModule.fault? = none)
    (hv : g.locals.get? v = some (some slot)) (hword : slot.ty.leadsToWord = true)
    (hx : g.locals.get? x = some (some t)) (ht : t.ty = Ty.i64) :
    Leaves (addZero x v) g fun _ m => (slot.target m).bind (t.put m) := by
  obtain ⟨line, hshape⟩ : ∃ line, lowerSimple (addZero x v) = (do
      say line
      assignBinary x (.name v) .add (.const (.int 0) false)) := ⟨_, rfl⟩
  obtain ⟨g₀, hsay, hquiet₀, hmodule⟩ := exec_say line g
  obtain ⟨g₁, hshow, hquiet₁⟩ := exec_showModule (hmodule ▸ hwritable)
  have hquiet := hquiet₀.trans hquiet₁
  have hv₁ : g₁.locals.get? v = some (some slot) := by rw [hquiet.locals, hv]
  have haddress : Computes (fun m => slot.address.eval m) g₁ [] slot.address g₁ :=
    .operand (settled_address (hnamed.grown hquiet.grown) hv₁)
  obtain ⟨i, code, g₂, hchase, hresult, hcomputes⟩ := exec_chase hword haddress
  have hleft : exec (arithOperand .leftOperand (.name v)) g₁ = (.ok (i.result, i.render), g₂) := by
    rw [arithOperand, exec_bind_ok (exec_get g₁), hv₁]
    exact exec_bind_ok hchase
  have hl : i.result.ty = Ty.i64 := by rw [hresult]; rfl
  have hlshown : i.result.fault? = none := by rw [hresult]; rfl
  have hrshown : (Operand.int Ty.i64 0).fault? = none :=
    fault?_int_of_canShow (canShow_of_natAbs_lt (by decide)) 64
  obtain ⟨text, hright⟩ : ∃ text, exec (arithOperand .rightOperand (.const (.int 0) false)) g₂ =
    (.ok (Operand.int Ty.i64 0, text), g₂) := ⟨_, rfl⟩
  obtain ⟨g₃, hsay₃, hquiet₃, -⟩ := say_straight (("left is " : Text) ++ i.render ++ ", right is " ++
    text ++ ", op is <ast." ++ BinaryOp.add.kind ++ ">") g₂
  obtain ⟨name, g₄, harith, hstraight₄⟩ := exec_arith hl (rfl : (Operand.int Ty.i64 0).ty = _) .add g₃
  have hx₄ : g₄.locals.get? x = some (some t) := by
    rw [hstraight₄.locals, hquiet₃.locals, hcomputes.locals, hquiet.locals, hx]
  obtain ⟨store, g₅, hassign, hstraight₅⟩ :=
    exec_assign (o := .local name Ty.i64) hx₄ (by rw [ht]; rfl)
  have hword : ∀ m w, i.result.eval m = some w → w.hasTy Ty.i64 = true := by
    rw [hresult]
    exact fun m w hw => eval_hasTy hw
  have hsum := (hcomputes.after hquiet).addZero hword (hquiet₃.trans hstraight₄)
  refine ⟨_, g₅, ?_, hsum.toStraight.trans hstraight₅, fun results m => ?_⟩
  · rw [hshape, exec_bind_ok hsay, assignBinary, exec_bind_ok hshow, exec_bind_ok hleft]
    dsimp only
    rw [exec_bind_ok hright]
    dsimp only
    rw [exec_bind_ok (exec_checkShown hlshown g₂), exec_bind_ok (exec_checkShown hrshown g₂),
      exec_bind_ok hsay₃]
    dsimp only [arithOf?]
    rw [exec_bind_ok harith, hassign]
  · exact hsum.executeAll_store (hnamed x t hx) store results m

theorem exec_evalDeref (hnamed : SlotsNamed g) (hv : g.locals.get? v = some (some slot)) :
    ∃ name code g₁, exec (evalDeref [.name v]) g = (.ok (some ⟨name, .load slot.ty slot.address⟩), g₁) ∧
      Computes slot.content g code (.local name slot.ty) g₁ := by
  obtain ⟨g₀, hsay₀, hquiet₀, -⟩ := say_straight "Evaluating expression: <ast.Call>" g
  obtain ⟨g₁, hsay₁, hquiet₁, -⟩ := say_straight "Handling deref Call" g₀
  have hquiet := hquiet₀.trans hquiet₁
  have hv₁ : g₁.locals.get? v = some (some slot) := by rw [hquiet.locals, hv]
  obtain ⟨name, code, g₂, hload, hcomputes⟩ := exec_load (hnamed.grown hquiet.grown) hv₁
  refine ⟨name, code, g₂, ?_, hcomputes.after hquiet⟩
  rw [evalDeref, exec_bind_ok hsay₀, exec_bind_ok hsay₁, derefCall, exec_bind_ok (exec_get g₁), hv₁]
  dsimp only
  rw [exec_bind_ok hload]
  rfl

/-- The code of `x = deref(v)` up to the store. -/
theorem exec_readOnce (hnamed : SlotsNamed g) (hv : g.locals.get? v = some (some slot)) (x : String) :
    ∃ name code g₁ line, Computes slot.content g code (.local name slot.ty) g₁ ∧
      exec (lowerSimple (readOnce x v)) g =
        exec (do assign x (some (.local name slot.ty)); say line) g₁ := by
  obtain ⟨line, line', hshape⟩ : ∃ line line', lowerSimple (readOnce x v) = (do
      say line
      say line'
      assignDeref x [.name v]) := ⟨_, _, rfl⟩
  obtain ⟨g₀, hsay₀, hquiet₀, -⟩ := say_straight line g
  obtain ⟨g₁, hsay₁, hquiet₁, -⟩ := say_straight line' g₀
  obtain ⟨g₂, hsay₂, hquiet₂, -⟩ := say_straight "Handling deref assignment Call" g₁
  have hquiet := (hquiet₀.trans hquiet₁).trans hquiet₂
  have hv₂ : g₂.locals.get? v = some (some slot) := by rw [hquiet.locals, hv]
  obtain ⟨name, code, g₃, hread, hcomputes⟩ := exec_evalDeref (hnamed.grown hquiet.grown) hv₂
  obtain ⟨g₄, hsay₄, hquiet₄, -⟩ := say_straight (("Dereferenced value: " : Text) ++
    (⟨name, .load slot.ty slot.address⟩ : Inst).render ++ ", storing in " ++ x) g₃
  refine ⟨name, code, g₄, "Dereferenced and assigned to " ++ x, ?_, ?_⟩
  · exact (hcomputes.after hquiet).before hquiet₄
  · rw [hshape, exec_bind_ok hsay₀, exec_bind_ok hsay₁, assignDeref, exec_bind_ok hsay₂, exec_bind_ok hread]
    dsimp only
    rw [exec_bind_ok hsay₄]
    rfl

/-- A single read is stored only into a slot of its type. -/
theorem readOnce_inv {f' : Frame} (hnamed : SlotsNamed g) (hv : g.locals.get? v = some (some slot))
    (hx : g.locals.get? x = some (some t)) (h : exec (lowerSimple (readOnce x v)) g = (.ok (), f')) :
    t.ty.agrees slot.ty = true := by
  obtain ⟨name, code, g₁, line, hcomputes, hrun⟩ := exec_readOnce hnamed hv x
  rw [hrun] at h
  obtain ⟨⟨⟩, g₂, hassign, -⟩ := exec_bind_inv h
  rw [assign, exec_bind_ok (exec_get g₁), hcomputes.locals, hx] at hassign
  dsimp only [store] at hassign
  split at hassign
  · assumption
  · exact exec_throw_inv hassign

theorem readOnce_leaves (hnamed : SlotsNamed g) (hv : g.locals.get? v = some (some slot))
    (hx : g.locals.get? x = some (some t)) (hagrees : t.ty.agrees slot.ty = true) :
    Leaves (readOnce x v) g fun _ m => (slot.content m).bind (t.put m) := by
  obtain ⟨name, code, g₁, line, hcomputes, hrun⟩ := exec_readOnce hnamed hv x
  have hx₁ : g₁.locals.get? x = some (some t) := by rw [hcomputes.locals, hx]
  obtain ⟨store, g₂, hassign, hstraight⟩ := exec_assign (o := .local name slot.ty) hx₁ hagrees
  obtain ⟨g₃, hsay, hquiet, -⟩ := say_straight line g₂
  refine ⟨_, g₃, ?_, hcomputes.toStraight.trans (hstraight.trans hquiet), fun results m => ?_⟩
  · rw [hrun, exec_bind_ok hassign, hsay]
  · exact hcomputes.executeAll_store (hnamed x t hx) store results m

end Reads

/-- In a function whose slots have been made, and for a variable `x` with the slot of a word: where `x = v + 0`
is lowered, `x = deref(v)` is lowered as well and leaves the same cells, whatever the machine, exactly if the
variable does not hold a pointer (or the module cannot be written, and no sum is lowered). -/
theorem readOnce_agrees_iff {body : List Stmt} {f f₁ g : Frame} (hempty : f.locals = Table.empty)
    (hslots : exec (allocate body) f = (.ok (), f₁)) (hgrown : Grown f₁ g)
    (hin : g.here < g.fn.blocks.length) {v x register : String} {slot : Slot}
    (hv : g.locals.get? v = some (some slot))
    (hx : g.locals.get? x = some (some ⟨register, Ty.i64⟩)) :
    (∀ effect, Leaves (addZero x v) g effect → Leaves (readOnce x v) g effect) ↔
      (g.wholeModule.fault? = none → slot.ty ≠ .ptr Ty.i64) := by
  have hnamed : SlotsNamed g := (hasSlots_of_allocate hempty hslots).named.grown hgrown
  have hty : slot.ty ∈ slotTypes := by
    rw [hgrown.locals] at hv
    exact (slot_of_allocate hempty hslots hv).2
  constructor
  · intro hagree hwritable hpointer
    have hsum := addZero_leaves hnamed hwritable hv (by rw [hpointer]; rfl) hx rfl
    obtain ⟨code, f', hexec, -⟩ := hagree _ hsum
    have hagrees := readOnce_inv hnamed hv hx hexec
    rw [hpointer] at hagrees
    cases hagrees
  · intro hnot effect hsum
    obtain ⟨code, f', hexec, -⟩ := id hsum
    obtain ⟨hwritable, hword⟩ := addZero_inv hv hexec
    -- of the types that lead to a word, the pointer is excluded
    have hi64 : slot.ty = Ty.i64 := by
      have htypes : ∀ ty ∈ slotTypes, ty.leadsToWord = true → ty ≠ .ptr Ty.i64 → ty = Ty.i64 := by decide
      exact htypes _ hty hword (hnot hwritable)
    have hsame : slot.target = slot.content := by
      funext m
      rw [Slot.target, Slot.content, hi64]
      rfl
    have hsum' := addZero_leaves hnamed hwritable hv hword hx rfl
    rw [hsum.unique hin hsum', hsame]
    exact readOnce_leaves hnamed hv hx (by rw [hi64]; rfl)

/-- `k = 0` and `v = m().lookup(k)`, before a last statement. -/
def lookupThen (s : Stmt) : List Stmt :=
  [.assign [.name "k"] (.const (.int 0) false),
    .assign [.name "v"] (.call (.attribute (.call (.name "m") [] []) "lookup") [.name "k"] []), s]

/-- The two ways of reading agree on the key, and not on what was found. -/
theorem lookupThen_reads :
    ∃ f₁, exec (allocate (lookupThen (addZero "x" "v"))) (bareFrame Table.empty) = (.ok (), f₁) ∧
      f₁.locals.get? "k" = some (some ⟨"k", Ty.i64⟩) ∧
      f₁.locals.get? "v" = some (some ⟨"v", .ptr Ty.i64⟩) ∧
      (∀ effect, Leaves (addZero "x" "k") f₁ effect → Leaves (readOnce "x" "k") f₁ effect) ∧
      ¬∀ effect, Leaves (addZero "x" "v") f₁ effect → Leaves (readOnce "x" "v") f₁ effect := by
  have hrun : (exec (allocate (lookupThen (addZero "x" "v"))) (bareFrame Table.empty)).1.isOk = true := by decide +kernel
  obtain ⟨⟨⟩, f₁, hexec⟩ := exec_of_isOk hrun
  have hframe : (exec (allocate (lookupThen (addZero "x" "v"))) (bareFrame Table.empty)).2 = f₁ := by rw [hexec]
  have hin : f₁.here < f₁.fn.blocks.length := by rw [← hframe]; decide +kernel
  have hk : f₁.locals.get? "k" = some (some ⟨"k", Ty.i64⟩) := by rw [← hframe]; decide +kernel
  have hv : f₁.locals.get? "v" = some (some ⟨"v", .ptr Ty.i64⟩) := by rw [← hframe]; decide +kernel
  have hx : f₁.locals.get? "x" = some (some ⟨"x", Ty.i64⟩) := by rw [← hframe]; decide +kernel
  have hwritable : f₁.wholeModule.fault? = none := by rw [← hframe]; decide +kernel
  refine ⟨f₁, hexec, hk, hv, ?_, ?_⟩
  · rw [readOnce_agrees_iff rfl hexec (Grown.refl f₁) hin hk hx]
    exact fun _ => by decide
  · rw [readOnce_agrees_iff rfl hexec (Grown.refl f₁) hin hv hx]
    exact fun h => h hwritable rfl

/-- The program with the sum is accepted, and the one with the single read is refused. -/
theorem readOnce_refused :
    ∃ maps : Table Operand,
      (exec (functionBody Ty.i64 (lookupThen (addZero "x" "v"))) (bareFrame maps)).1.isOk = true ∧
      (exec (functionBody Ty.i64 (lookupThen (readOnce "x" "v"))) (bareFrame maps)).1 =
        .error .storeMismatch ∧ Fault.storeMismatch.className = "TypeError" := by
  refine ⟨Table.empty.insert "m" (.global "m" (.ptr Ty.i64)), ?_⟩
  decide +kernel

end BpfCompiler.Lower
