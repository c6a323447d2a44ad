import BpfCompiler.Proofs.Registers

/-!
# Comparisons of variables

The comparison of two integer variables reads both, extends the narrower one by its sign and compares signed
numbers.  Whatever the widths are, the answer is that of the two contents as signed integers
(`exec_compare_variables`, with `related_int`).
-/

namespace BpfCompiler.IR

def Predicate.onIntegers (predicate : Predicate) (a b : Int) : Bool :=
  match predicate with
  | .eq => a = b
  | .ne => a ≠ b
  | .slt => a < b
  | .sle => a ≤ b
  | .sgt => b < a
  | .sge => b ≤ a

theorem Predicate.holds_eq_onIntegers {width : Nat} (predicate : Predicate) (a b : BitVec width) :
    predicate.holds a b = predicate.onIntegers a.toInt b.toInt := by
  cases predicate with
  | eq =>
    rw [holds, onIntegers, Bool.eq_iff_iff]
    simp [BitVec.toInt_inj]
  | ne =>
    rw [holds, onIntegers, Bool.eq_iff_iff]
    simp [BitVec.toInt_inj]
  | _ => rfl

/-- An integer of this width or less, extended by its sign. -/
def widened (width : Nat) : Value → Option Value
  | .int w bits => if w ≤ width then some (.int width (bits.signExtend width)) else none
  | _ => none

theorem widened_self {v : Value} {width : Nat} (hty : v.hasTy (.int width) = true) :
    widened width v = some v := by
  cases v with
  | int w bits =>
    obtain rfl : w = width := by simpa [Value.hasTy] using hty
    simp [widened]
  | _ => cases hty

theorem converting_sext {v : Value} {w width : Nat} (hty : v.hasTy (.int w) = true) (hlt : w < width) :
    converting .sext v (.int width) = widened width v := by
  cases v with
  | int w' bits =>
    obtain rfl : w' = w := by simpa [Value.hasTy] using hty
    simp [converting, widened, hlt, Nat.le_of_lt hlt]
  | _ => cases hty

/-- The answer of a comparison behind the extension to one width. -/
def related (predicate : Predicate) (width : Nat) (u v : Value) : Option Value :=
  (widened width u).bind fun u' => (widened width v).bind (comparing predicate u')

theorem related_int (predicate : Predicate) {a b : Nat} (u : BitVec a) (v : BitVec b) :
    related predicate (max a b) (.int a u) (.int b v) =
      some (.int 1 (BitVec.ofBool (predicate.onIntegers u.toInt v.toInt))) := by
  have ha : a ≤ max a b := Nat.le_max_left a b
  have hb : b ≤ max a b := Nat.le_max_right a b
  simp [related, widened, comparing, Predicate.holds_eq_onIntegers, BitVec.toInt_signExtend_of_le, ha, hb]

theorem Machine.execute_icmp_eq (results : Nat → BitVec 64) (m : Machine) (name : String)
    (predicate : Predicate) (l r : Operand) :
    m.execute results ⟨name, .icmp predicate l r⟩ =
      ((l.eval m).bind fun u => (r.eval m).bind (comparing predicate u)).map (m.set name) := by
  unfold execute
  dsimp only
  cases l.eval m with
  | none => rfl
  | some u =>
    cases r.eval m with
    | none => rfl
    | some v => cases hvalue : comparing predicate u v <;> simp [hvalue]

theorem comparing_hasTy {predicate : Predicate} {u v w : Value} (h : comparing predicate u v = some w) :
    w.hasTy Ty.i1 = true := by
  unfold comparing at h
  split at h
  · split at h <;> cases h
    rfl
  · cases h

theorem eval_hasTy {name : String} {ty : Ty} {m : Machine} {v : Value}
    (h : (Operand.local name ty).eval m = some v) : v.hasTy ty = true :=
  (Option.filter_eq_some_iff.mp h).2

end BpfCompiler.IR

namespace BpfCompiler.Syntax

/-- The relation of integers that an operator stands for. -/
def CompareOp.onIntegers? : CompareOp → Option (Int → Int → Bool)
  | .eq => some fun a b => a = b
  | .notEq => some fun a b => a ≠ b
  | .lt => some fun a b => a < b
  | .ltEq => some fun a b => a ≤ b
  | .gt => some fun a b => a > b
  | .gtEq => some fun a b => a ≥ b
  | _ => none

end BpfCompiler.Syntax

namespace BpfCompiler.Lower

open IR Syntax Emit

theorem predicateOf?_of_onIntegers? {op : CompareOp} {relation : Int → Int → Bool}
    (h : op.onIntegers? = some relation) :
    ∃ predicate, predicateOf? op = some predicate ∧ predicate.onIntegers = relation := by
  cases op <;> cases h <;> exact ⟨_, rfl, rfl⟩

/-- A value of two operands, behind the code that computes them. -/
theorem ComputesAll.combine {first second : Machine → Option Value} {f f₁ f' : Frame}
    {code code' : List Inst} {l r o : Operand} (h : ComputesAll [first, second] f code [l, r] f₁)
    {next : Value → Value → Option Value}
    (h' : Computes (fun m => (l.eval m).bind fun u => (r.eval m).bind (next u)) f₁ code' o f') :
    Computes (fun m => (first m).bind fun u => (second m).bind (next u)) f (code ++ code') o f' where
  toStraight := h.toStraight.trans h'.toStraight
  settled := h'.settled
  carries := by
    intro results m w hw
    obtain ⟨u, hu, hrest⟩ := Option.bind_eq_some_iff.mp hw
    obtain ⟨v, hv, hnext⟩ := Option.bind_eq_some_iff.mp hrest
    obtain ⟨m₁, hsets, hevals⟩ := h.carries results m [u, v] (.cons hu (.cons hv .nil))
    obtain ⟨hl, hr⟩ : l.eval m₁ = some u ∧ r.eval m₁ = some v := by simpa using hevals
    obtain ⟨m', hsets', heval⟩ := h'.carries results m₁ w (by simp [hl, hr, hnext])
    exact ⟨m', hsets.trans h.grown hsets', heval⟩
  complete := by
    intro results m m' w hrun hw
    rw [Machine.executeAll_append_eq] at hrun
    obtain ⟨m₁, hfirst, hlast⟩ := Option.bind_eq_some_iff.mp hrun
    have hvalue := h'.complete results m₁ m' w hlast hw
    obtain ⟨u, hu, hrest⟩ := Option.bind_eq_some_iff.mp hvalue
    obtain ⟨v, hv, hnext⟩ := Option.bind_eq_some_iff.mp hrest
    have hvalues := h.complete results m m₁ [u, v] hfirst (.cons hu (.cons hv .nil))
    obtain ⟨hu', hv'⟩ : first m = some u ∧ second m = some v := by simpa using hvalues
    simp [hu', hv', hnext]

theorem computes_icmp {f f' : Frame} {name : String} {predicate : Predicate} {l r : Operand}
    (hstraight : Straight f f' [⟨name, .icmp predicate l r⟩]) :
    Computes (fun m => (l.eval m).bind fun u => (r.eval m).bind (comparing predicate u)) f
      [⟨name, .icmp predicate l r⟩] (.local name Ty.i1) f' := by
  refine .single hstraight ?_ fun results m => m.execute_icmp_eq results name predicate l r
  intro m w hw
  obtain ⟨u, -, hrest⟩ := Option.bind_eq_some_iff.mp hw
  obtain ⟨v, -, hcompare⟩ := Option.bind_eq_some_iff.mp hrest
  exact comparing_hasTy hcompare

theorem exec_eval_name {f : Frame} (hnamed : SlotsNamed f) {x : String} {slot : Slot}
    (hslot : f.locals.get? x = some (some slot)) :
    ∃ name code f', exec (eval (.name x)) f = (.ok (some (.local name slot.ty)), f') ∧
      Computes slot.content f code (.local name slot.ty) f' := by
  obtain ⟨line, hshape⟩ : ∃ line, eval (.name x) = (do say line; readName x) := ⟨_, rfl⟩
  obtain ⟨f₀, hsay, hquiet, -⟩ := say_straight line f
  rw [← hquiet.locals] at hslot
  obtain ⟨name, code, f', hload, hcomputes⟩ := exec_load (hnamed.grown hquiet.grown) hslot
  refine ⟨name, code, f', ?_, hcomputes.after hquiet⟩
  rw [hshape, exec_bind_ok hsay, readName, exec_bind_ok (exec_get f₀), hslot]
  exact exec_bind_ok hload

section Widths

variable {f : Frame} {x y : String}

theorem computes_local (hx : x ∈ f.fn.scope.used) (width : Nat) :
    Computes (fun m => ((Operand.local x (.int width)).eval m).bind (widened width)) f []
      (.local x (.int width)) f := by
  have hsame : (fun m => ((Operand.local x (.int width)).eval m).bind (widened width)) =
      fun m => (Operand.local x (.int width)).eval m := by
    funext m
    cases hv : (Operand.local x (.int width)).eval m with
    | none => rfl
    | some v => exact widened_self (eval_hasTy hv)
  rw [hsame]
  apply Computes.operand
  rintro _ _ ⟨⟩
  exact hx

theorem exec_sext (hx : x ∈ f.fn.scope.used) {w width : Nat} (hlt : w < width) :
    ∃ name code f', exec (Emit.cast .sext (.local x (.int w)) (.int width)) f =
        (.ok (.local name (.int width)), f') ∧
      Computes (fun m => ((Operand.local x (.int w)).eval m).bind (widened width)) f code
        (.local name (.int width)) f' := by
  have hne : (Operand.local x (.int w)).ty.agrees (.int width) = false := by
    simp [Operand.ty, Ty.agrees, Nat.ne_of_lt hlt]
  obtain ⟨name, f', hcast, hstraight⟩ := exec_cast .sext hne f
  have hsame : (fun m => ((Operand.local x (.int w)).eval m).bind (widened width)) =
      fun m => ((Operand.local x (.int w)).eval m).bind (converting .sext · (.int width)) := by
    funext m
    cases hv : (Operand.local x (.int w)).eval m with
    | none => rfl
    | some v => exact (converting_sext (eval_hasTy hv) hlt).symm
  have hoperand : Settled f.fn.scope.used (.local x (.int w)) := by
    rintro _ _ ⟨⟩
    exact hx
  exact ⟨name, _, f', hcast, hsame ▸ (Computes.operand hoperand).cast hstraight⟩

/-- Both operands are brought to the larger of their widths. -/
theorem exec_balance (hx : x ∈ f.fn.scope.used) (hy : y ∈ f.fn.scope.used) (a b : Nat) :
    ∃ l r code f', exec (balance (.local x (.int a)) (.local y (.int b))) f = (.ok (some (l, r)), f') ∧
      ComputesAll [fun m => ((Operand.local x (.int a)).eval m).bind (widened (max a b)),
        fun m => ((Operand.local y (.int b)).eval m).bind (widened (max a b))] f code [l, r] f' := by
  have hkept : Kept f fun m => ((Operand.local y (.int b)).eval m).bind (widened (max a b)) := by
    refine (Kept.operand ?_).bind fun _ => widened (max a b)
    rintro _ _ ⟨⟩
    exact hy
  by_cases hwidths : a = b
  · subst hwidths
    rw [Nat.max_self] at hkept ⊢
    refine ⟨_, _, _, f, ?_, (computes_local hx a).both (computes_local hy a) hkept⟩
    simp [balance, Operand.ty, Ty.agrees]
  · have hbalance : balance (.local x (.int a)) (.local y (.int b)) =
        if a < b then
          return some (← Emit.cast .sext (.local x (.int a)) (.int b), .local y (.int b))
        else return some (.local x (.int a), ← Emit.cast .sext (.local y (.int b)) (.int a)) := by
      simp [balance, Operand.ty, Ty.agrees, hwidths]
    by_cases hlt : a < b
    · rw [Nat.max_eq_right (Nat.le_of_lt hlt)] at hkept ⊢
      obtain ⟨name, code, f', hcast, hcomputes⟩ := exec_sext hx hlt
      refine ⟨_, _, _, f', ?_, hcomputes.both (computes_local (hcomputes.used hy) b) hkept⟩
      rw [hbalance, if_pos hlt, exec_bind_ok hcast]
      rfl
    · have hgt : b < a := by omega
      rw [Nat.max_eq_left (Nat.le_of_lt hgt)] at hkept ⊢
      obtain ⟨name, code, f', hcast, hcomputes⟩ := exec_sext hy hgt
      refine ⟨_, _, _, f', ?_, (computes_local hx a).both hcomputes hkept⟩
      rw [hbalance, if_neg hlt, exec_bind_ok hcast]
      rfl

theorem exec_comparison (hx : x ∈ f.fn.scope.used) (hy : y ∈ f.fn.scope.used) (a b : Nat)
    {op : CompareOp} {predicate : Predicate} (hop : predicateOf? op = some predicate) :
    ∃ o code f', exec (comparison op (.local x (.int a)) (.local y (.int b))) f = (.ok (some o), f') ∧
      Computes (fun m => ((Operand.local x (.int a)).eval m).bind fun u =>
        ((Operand.local y (.int b)).eval m).bind (related predicate (max a b) u)) f code o f' := by
  obtain ⟨l, r, code, f₁, hbalance, hcomputes⟩ := exec_balance hx hy a b
  obtain ⟨name, f', hicmp, hstraight⟩ := exec_append (.icmp predicate l r) rfl f₁
  have hcompare : exec (Emit.compare predicate l r) f₁ = (.ok (.local name Ty.i1), f') :=
    exec_bind_ok hicmp
  have hsame : (fun m => ((Operand.local x (.int a)).eval m).bind fun u =>
        ((Operand.local y (.int b)).eval m).bind (related predicate (max a b) u)) =
      fun m => (((Operand.local x (.int a)).eval m).bind (widened (max a b))).bind fun u =>
        (((Operand.local y (.int b)).eval m).bind (widened (max a b))).bind (comparing predicate u) := by
    funext m
    cases (Operand.local x (.int a)).eval m with
    | none => rfl
    | some u =>
      cases (Operand.local y (.int b)).eval m with
      | none => cases hwide : widened (max a b) u <;> simp [hwide]
      | some v => rfl
  refine ⟨_, _, f', ?_, hsame ▸ hcomputes.combine (computes_icmp hstraight)⟩
  rw [comparison, exec_bind_ok hbalance]
  dsimp only
  rw [hop]
  dsimp only
  rw [exec_bind_ok hcompare]
  rfl

end Widths

/-- The comparison of two variables gives the answer for their contents. -/
theorem exec_compare_variables {f : Frame} (hnamed : SlotsNamed f) {x y : String} {s t : Slot} {a b : Nat}
    (hx : f.locals.get? x = some (some s)) (hs : s.ty = .int a)
    (hy : f.locals.get? y = some (some t)) (ht : t.ty = .int b)
    {op : CompareOp} {predicate : Predicate} (hop : predicateOf? op = some predicate) :
    ∃ o code f', exec (condition (.compare (.name x) [(op, .name y)])) f = (.ok (some o), f') ∧
      Computes (fun m => (s.content m).bind fun u =>
        (t.content m).bind (related predicate (max a b) u)) f code o f' := by
  obtain ⟨l, code₁, f₁, hleft, hcomputes₁⟩ := exec_eval_name hnamed hx
  have hkept := kept_content hnamed hy
  rw [← hcomputes₁.locals] at hy
  obtain ⟨r, code₂, f₂, hright, hcomputes₂⟩ := exec_eval_name (hnamed.grown hcomputes₁.grown) hy
  rw [hs] at hleft hcomputes₁
  rw [ht] at hright hcomputes₂
  have hl : l ∈ f₂.fn.scope.used := hcomputes₂.used (hcomputes₁.settled l _ rfl)
  have hr : r ∈ f₂.fn.scope.used := hcomputes₂.settled r _ rfl
  obtain ⟨o, code₃, f₃, hcompare, hcomputes₃⟩ := exec_comparison hl hr a b hop
  refine ⟨o, _, f₃, ?_, (hcomputes₁.both hcomputes₂ hkept).combine hcomputes₃⟩
  rw [condition, exec_bind_ok hleft, exec_bind_ok hright]
  exact hcompare

end BpfCompiler.Lower
