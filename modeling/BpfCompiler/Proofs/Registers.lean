import BpfCompiler.Proofs.SlotUse
import BpfCompiler.Proofs.WordLowering
import Mathlib.Data.Nat.Init

/-!
# Values in registers

Code that only computes sets registers whose names were free and leaves the cells and the calls as they are
(`Sets`).  `Computes value f code o f'` says that after such code the operand `o` has the value that `value`
reads off the machine before it.  A value that is read off cells and registers with taken names stays the same
while code computes (`Kept`), so that operands which are computed one after the other can be used together.
-/

namespace BpfCompiler.IR

/-- What stands behind an address, if it has the type. -/
def behind (cells : List (Option Value)) (ty : Ty) : Value → Option Value
  | .cell place => (cells[place]?).join.filter fun v => v.hasTy ty
  | _ => none

/-- What is found behind an address when pointers are followed to their end. -/
def chased (cells : List (Option Value)) : Ty → Value → Option Value
  | .ptr t, v => (behind cells (.ptr t) v).bind fun u => chased cells t u
  | ty, v => behind cells ty v

theorem behind_hasTy {cells : List (Option Value)} {ty : Ty} {v w : Value}
    (h : behind cells ty v = some w) : w.hasTy ty = true := by
  cases v with
  | cell place => exact (Option.filter_eq_some_iff.mp h).2
  | int | raw | symbol => cases h

theorem converting_hasTy {kind : Cast} {ty : Ty} {v w : Value} (h : converting kind v ty = some w) :
    w.hasTy ty = true := by
  unfold converting at h
  split at h
  · split at h <;> cases h
    simp [Value.hasTy]
  · split at h <;> cases h
    rfl
  · split at h <;> cases h
    rfl
  · cases h

/-- The type leads through pointers to a word. -/
def Ty.leadsToWord : Ty → Bool
  | .ptr t => t.leadsToWord
  | .int 64 => true
  | _ => false

theorem leadsToWord_of_chased {cells : List (Option Value)} {ty : Ty} {v : Value} {w : BitVec 64}
    (h : chased cells ty v = some (.int 64 w)) : ty.leadsToWord = true := by
  fun_induction chased cells ty v with
  | case1 t v ih =>
    obtain ⟨u, -, hu⟩ := Option.bind_eq_some_iff.mp h
    exact ih u hu
  | case2 ty v hty =>
    have hword := behind_hasTy h
    cases ty with
    | int width =>
      obtain rfl : 64 = width := by simpa [Value.hasTy] using hword
      rfl
    | _ => cases hword

namespace Machine

theorem execute_load_eq (results : Nat → BitVec 64) (m : Machine) (name : String) (ty : Ty)
    (source : Operand) :
    m.execute results ⟨name, .load ty source⟩ =
      ((source.eval m).bind (behind m.cells ty)).map (m.set name) := by
  unfold execute cellAt read
  dsimp only
  cases source.eval m with
  | none => rfl
  | some v =>
    cases v with
    | cell place => cases hread : (m.cells[place]?).join.filter fun v => v.hasTy ty <;> simp [behind, hread]
    | int | raw | symbol => rfl

theorem execute_cast_eq (results : Nat → BitVec 64) (m : Machine) (name : String) (kind : Cast)
    (o : Operand) (target : Ty) :
    m.execute results ⟨name, .cast kind o target⟩ =
      ((o.eval m).bind (converting kind · target)).map (m.set name) := by
  unfold execute
  dsimp only
  cases o.eval m with
  | none => rfl
  | some v => cases hvalue : converting kind v target <;> simp [hvalue]

end Machine

end BpfCompiler.IR

namespace BpfCompiler.Lower

open IR Syntax Emit

/-! ### Code that only computes -/

/-- The code runs to its end and sets only registers whose names were free. -/
structure Sets (results : Nat → BitVec 64) (f : Frame) (code : List Inst) (m m' : Machine) : Prop where
  run : m.executeAll results code = some m'
  same : SameOn f.fn.scope.used m m'
  cells : m'.cells = m.cells
  calls : m'.calls = m.calls

namespace Sets

variable {results : Nat → BitVec 64} {f f₁ : Frame} {code code' : List Inst} {m m₁ m₂ : Machine}

theorem nil (results : Nat → BitVec 64) (f : Frame) (m : Machine) : Sets results f [] m m :=
  ⟨Machine.executeAll_nil results m, fun _ _ => rfl, rfl, rfl⟩

theorem trans (h : Sets results f code m m₁) (hgrown : Grown f f₁)
    (h' : Sets results f₁ code' m₁ m₂) : Sets results f (code ++ code') m m₂ where
  run := Machine.executeAll_append h.run h'.run
  same := fun name hname => (h'.same name (hgrown.used hname)).trans (h.same name hname)
  cells := h'.cells.trans h.cells
  calls := h'.calls.trans h.calls

theorem single {i : Inst} {v : Value} (hfresh : i.name ∉ f.fn.scope.used)
    (hexec : m.execute results i = some (m.set i.name v)) :
    Sets results f [i] m (m.set i.name v) where
  run := by rw [Machine.executeAll_singleton, hexec]
  same := by
    intro name hname
    have hne : name ≠ i.name := fun heq => hfresh (heq ▸ hname)
    exact Function.update_of_ne hne _ _
  cells := rfl
  calls := rfl

theorem executeAll_append (h : Sets results f code m m₁) (rest : List Inst) :
    m.executeAll results (code ++ rest) = m₁.executeAll results rest := by
  rw [Machine.executeAll_append_eq, h.run, Option.bind_some]

end Sets

/-- The value depends only on the cells and on registers whose names are taken. -/
def Kept (f : Frame) (value : Machine → Option Value) : Prop :=
  ∀ m m' : Machine, SameOn f.fn.scope.used m m' → m'.cells = m.cells → value m' = value m

theorem Kept.operand {f : Frame} {o : Operand} (h : Settled f.fn.scope.used o) :
    Kept f fun m => o.eval m :=
  fun _ _ hsame _ => h.eval hsame

theorem Kept.bind {f : Frame} {value : Machine → Option Value} (h : Kept f value)
    (next : List (Option Value) → Value → Option Value) :
    Kept f fun m => (value m).bind (next m.cells) := by
  intro m m' hsame hcells
  dsimp only
  rw [h m m' hsame hcells, hcells]

/-- After the code the operand has the value that is read off the machine before it, and no other. -/
structure Computes (value : Machine → Option Value) (f : Frame) (code : List Inst) (o : Operand)
    (f' : Frame) : Prop extends Straight f f' code where
  settled : Settled f'.fn.scope.used o
  carries : ∀ results m v, value m = some v → ∃ m', Sets results f code m m' ∧ o.eval m' = some v
  complete : ∀ results m m' v, m.executeAll results code = some m' → o.eval m' = some v →
    value m = some v

namespace Computes

variable {value value' : Machine → Option Value} {f f₀ f₁ f' : Frame} {code code' : List Inst}
  {o o' : Operand}

theorem operand (h : Settled f.fn.scope.used o) : Computes (fun m => o.eval m) f [] o f where
  toStraight := Straight.refl f
  settled := h
  carries := fun results m _ hv => ⟨m, Sets.nil results f m, hv⟩
  complete := by
    rintro results m m' v ⟨⟩ hv
    exact hv

theorem after (h : Computes value f₀ code o f') (hquiet : Straight f f₀ []) :
    Computes value f code o f' where
  toStraight := hquiet.trans h.toStraight
  settled := h.settled
  carries := by
    intro results m v hv
    obtain ⟨m', hsets, heval⟩ := h.carries results m v hv
    exact ⟨m', (Sets.nil results f m).trans hquiet.grown hsets, heval⟩
  complete := h.complete

/-- The code of one instruction. -/
theorem single {name : String} {op : Op} {ty : Ty} (hstraight : Straight f f' [⟨name, op⟩])
    (hty : ∀ m v, value m = some v → v.hasTy ty = true)
    (hexec : ∀ results (m : Machine), m.execute results ⟨name, op⟩ = (value m).map (m.set name)) :
    Computes value f [⟨name, op⟩] (.local name ty) f' where
  toStraight := hstraight
  settled := by
    rintro _ _ ⟨⟩
    exact hstraight.taken _ (List.mem_singleton_self _)
  carries := by
    intro results m v hv
    have hrun : m.execute results ⟨name, op⟩ = some (m.set name v) := by
      rw [hexec, hv, Option.map_some]
    have hfresh := hstraight.fresh _ (List.mem_singleton_self _)
    exact ⟨_, Sets.single hfresh hrun, Machine.eval_set _ _ (hty m v hv)⟩
  complete := by
    intro results m m' w hrun hw
    rw [Machine.executeAll_singleton, hexec] at hrun
    obtain ⟨v, hv, rfl⟩ := Option.map_eq_some_iff.mp hrun
    rw [Machine.eval_set _ _ (hty m v hv)] at hw
    rw [hv, hw]

/-- What is computed from an operand, behind the code of the operand. -/
theorem chain (h : Computes value f code o f₁) (next : List (Option Value) → Value → Option Value)
    (h' : Computes (fun m => (o.eval m).bind (next m.cells)) f₁ code' o' f') :
    Computes (fun m => (value m).bind (next m.cells)) f (code ++ code') o' f' where
  toStraight := h.toStraight.trans h'.toStraight
  settled := h'.settled
  carries := by
    intro results m w hw
    obtain ⟨v, hv, hnext⟩ := Option.bind_eq_some_iff.mp hw
    obtain ⟨m₁, hsets, heval⟩ := h.carries results m v hv
    have hvalue : (o.eval m₁).bind (next m₁.cells) = some w := by
      rw [heval, Option.bind_some, hsets.cells, hnext]
    obtain ⟨m', hsets', heval'⟩ := h'.carries results m₁ w hvalue
    exact ⟨m', hsets.trans h.grown hsets', heval'⟩
  complete := by
    intro results m m' w hrun hw
    rw [Machine.executeAll_append_eq] at hrun
    obtain ⟨m₁, hfirst, hlast⟩ := Option.bind_eq_some_iff.mp hrun
    obtain ⟨v, hv, hnext⟩ := Option.bind_eq_some_iff.mp (h'.complete results m₁ m' w hlast hw)
    have hvalue := h.complete results m m₁ v hfirst hv
    obtain ⟨m₂, hsets, -⟩ := h.carries results m v hvalue
    obtain rfl : m₂ = m₁ := Option.some.inj (hsets.run.symm.trans hfirst)
    rw [hvalue, Option.bind_some, ← hsets.cells, hnext]

theorem load {name : String} {ty : Ty} (h : Computes value f code o f₁)
    (hstraight : Straight f₁ f' [⟨name, .load ty o⟩]) :
    Computes (fun m => (value m).bind (behind m.cells ty)) f (code ++ [⟨name, .load ty o⟩])
      (.local name ty) f' := by
  refine h.chain (behind · ty) (.single hstraight ?_ ?_)
  · intro m w hw
    obtain ⟨v, -, hw⟩ := Option.bind_eq_some_iff.mp hw
    exact behind_hasTy hw
  · exact fun results m => m.execute_load_eq results name ty o

theorem cast {name : String} {kind : Cast} {target : Ty} (h : Computes value f code o f₁)
    (hstraight : Straight f₁ f' [⟨name, .cast kind o target⟩]) :
    Computes (fun m => (value m).bind (converting kind · target)) f
      (code ++ [⟨name, .cast kind o target⟩]) (.local name target) f' := by
  refine h.chain (fun _ v => converting kind v target) (.single hstraight ?_ ?_)
  · intro m w hw
    obtain ⟨v, -, hw⟩ := Option.bind_eq_some_iff.mp hw
    exact converting_hasTy hw
  · exact fun results m => m.execute_cast_eq results name kind o target

theorem eval_iff (h : Computes value f code o f') (results : Nat → BitVec 64) (m : Machine) (v : Value) :
    (∃ m', m.executeAll results code = some m' ∧ o.eval m' = some v) ↔ value m = some v := by
  constructor
  · rintro ⟨m', hrun, heval⟩
    exact h.complete results m m' v hrun heval
  · intro hv
    obtain ⟨m', hsets, heval⟩ := h.carries results m v hv
    exact ⟨m', hsets.run, heval⟩

end Computes

theorem exec_cast (kind : Cast) {o : Operand} {target : Ty} (hne : o.ty.agrees target = false)
    (f : Frame) :
    ∃ name f', exec (Emit.cast kind o target) f = (.ok (.local name target), f') ∧
      Straight f f' [⟨name, .cast kind o target⟩] := by
  obtain ⟨name, f', hexec, hstraight⟩ := exec_append (.cast kind o target) rfl f
  refine ⟨name, f', ?_, hstraight⟩
  rw [Emit.cast, if_neg (by simp [hne])]
  exact exec_bind_ok hexec

/-! ### Several operands -/

/-- The same for several operands, which are computed one after the other. -/
structure ComputesAll (values : List (Machine → Option Value)) (f : Frame) (code : List Inst)
    (os : List Operand) (f' : Frame) : Prop extends Straight f f' code where
  settled : ∀ o ∈ os, Settled f'.fn.scope.used o
  carries : ∀ results m vs, List.Forall₂ (fun value v => value m = some v) values vs →
    ∃ m', Sets results f code m m' ∧ List.Forall₂ (fun o v => o.eval m' = some v) os vs
  complete : ∀ results m m' vs, m.executeAll results code = some m' →
    List.Forall₂ (fun o v => o.eval m' = some v) os vs →
      List.Forall₂ (fun value v => value m = some v) values vs

namespace ComputesAll

theorem nil (f : Frame) : ComputesAll [] f [] [] f where
  toStraight := Straight.refl f
  settled := by simp
  carries := by
    rintro results m _ ⟨⟩
    exact ⟨m, Sets.nil results f m, .nil⟩
  complete := by
    rintro results m m' _ - ⟨⟩
    exact .nil

theorem cons {value : Machine → Option Value} {values : List (Machine → Option Value)}
    {f f₁ f' : Frame} {code code' : List Inst} {o : Operand} {os : List Operand}
    (h : Computes value f code o f₁) (h' : ComputesAll values f₁ code' os f')
    (hkept : ∀ value ∈ values, Kept f value) :
    ComputesAll (value :: values) f (code ++ code') (o :: os) f' := by
  -- the values of the others are the same before and after the code of the first
  have hsame : ∀ {results m m₁ vs}, Sets results f code m m₁ →
      (List.Forall₂ (fun value v => value m₁ = some v) values vs ↔
        List.Forall₂ (fun value v => value m = some v) values vs) := by
    intro results m m₁ vs hsets
    constructor
    · intro hvs
      refine (List.forall₂_and_left _ _).mpr ⟨hkept, hvs⟩ |>.imp ?_
      rintro value v ⟨hvalue, hv⟩
      rw [← hvalue m m₁ hsets.same hsets.cells, hv]
    · intro hvs
      refine (List.forall₂_and_left _ _).mpr ⟨hkept, hvs⟩ |>.imp ?_
      rintro value v ⟨hvalue, hv⟩
      rw [hvalue m m₁ hsets.same hsets.cells, hv]
  constructor
  · exact h.toStraight.trans h'.toStraight
  · intro o' ho'
    rcases List.mem_cons.mp ho' with rfl | ho'
    · exact fun name ty heq => h'.used (h.settled name ty heq)
    · exact h'.settled o' ho'
  · intro results m vs hvalues
    obtain ⟨v, rest, hv, hvs, rfl⟩ := List.forall₂_cons_left_iff.mp hvalues
    obtain ⟨m₁, hsets, heval⟩ := h.carries results m v hv
    obtain ⟨m₂, hsets', hevals⟩ := h'.carries results m₁ rest ((hsame hsets).mpr hvs)
    exact ⟨m₂, hsets.trans h.grown hsets', .cons ((h.settled.eval hsets'.same).trans heval) hevals⟩
  · intro results m m' vs hrun hevals
    obtain ⟨v, rest, hv, hvs, rfl⟩ := List.forall₂_cons_left_iff.mp hevals
    rw [Machine.executeAll_append_eq] at hrun
    obtain ⟨m₁, hfirst, hlast⟩ := Option.bind_eq_some_iff.mp hrun
    have hrest := h'.complete results m₁ m' rest hlast hvs
    obtain ⟨m₂, hsets', -⟩ := h'.carries results m₁ rest hrest
    obtain rfl : m₂ = m' := Option.some.inj (hsets'.run.symm.trans hlast)
    rw [h.settled.eval hsets'.same] at hv
    have hvalue := h.complete results m m₁ v hfirst hv
    obtain ⟨m₃, hsets, -⟩ := h.carries results m v hvalue
    obtain rfl : m₃ = m₁ := Option.some.inj (hsets.run.symm.trans hfirst)
    exact .cons hvalue ((hsame hsets).mp hrest)

end ComputesAll

/-- The second operand is computed in registers that the first does not use. -/
theorem Computes.both {value value' : Machine → Option Value} {f f₁ f' : Frame} {code code' : List Inst}
    {o o' : Operand} (h : Computes value f code o f₁) (h' : Computes value' f₁ code' o' f')
    (hkept : Kept f value') : ComputesAll [value, value'] f (code ++ code') [o, o'] f' := by
  have hsecond := ComputesAll.cons h' (.nil f') (by simp)
  rw [List.append_nil] at hsecond
  exact .cons h hsecond (by simpa using hkept)

/-! ### Variables -/

theorem settled_address {f : Frame} (hnamed : SlotsNamed f) {x : String} {slot : Slot}
    (hslot : f.locals.get? x = some (some slot)) : Settled f.fn.scope.used slot.address := by
  rintro _ _ ⟨⟩
  exact hnamed x slot hslot

/-- What a slot holds. -/
def Slot.content (s : Slot) (m : Machine) : Option Value := (s.address.eval m).bind (behind m.cells s.ty)

theorem kept_content {f : Frame} (hnamed : SlotsNamed f) {x : String} {slot : Slot}
    (hslot : f.locals.get? x = some (some slot)) : Kept f slot.content :=
  (Kept.operand (settled_address hnamed hslot)).bind (behind · slot.ty)

theorem content_hasTy {slot : Slot} {m : Machine} {v : Value} (h : slot.content m = some v) :
    v.hasTy slot.ty = true := by
  obtain ⟨address, -, hbehind⟩ := Option.bind_eq_some_iff.mp h
  exact behind_hasTy hbehind

theorem exec_load {f : Frame} (hnamed : SlotsNamed f) {x : String} {slot : Slot}
    (hslot : f.locals.get? x = some (some slot)) :
    ∃ name code f', exec (load (some slot)) f = (.ok ⟨name, .load slot.ty slot.address⟩, f') ∧
      Computes slot.content f code (.local name slot.ty) f' := by
  obtain ⟨name, f', hexec, hstraight⟩ := exec_append (.load slot.ty slot.address) rfl f
  have haddress := Computes.operand (settled_address hnamed hslot)
  exact ⟨name, _, f', hexec, haddress.load hstraight⟩

theorem exec_assign {f : Frame} {x : String} {slot : Slot}
    (hslot : f.locals.get? x = some (some slot)) {o : Operand} (hty : slot.ty.agrees o.ty = true) :
    ∃ name f', exec (assign x (some o)) f = (.ok (), f') ∧
      Straight f f' [⟨name, .store o slot.address⟩] := by
  obtain ⟨name, f', hexec, hstraight⟩ := exec_append (.store o slot.address) rfl f
  refine ⟨name, f', ?_, hstraight⟩
  rw [assign, exec_bind_ok (exec_get f), hslot]
  dsimp only [store]
  rw [if_pos hty, exec_bind_ok hexec]
  rfl

/-- What is found when the pointers that a slot holds are followed. -/
def Slot.target (s : Slot) (m : Machine) : Option Value := (s.address.eval m).bind (chased m.cells s.ty)

theorem exec_chase {ty : Ty} (hty : ty.leadsToWord = true) {value : Machine → Option Value}
    {f f₁ : Frame} {code : List Inst} {source : Operand} (h : Computes value f code source f₁) :
    ∃ i code' f', exec (chase ty source) f₁ = (.ok i, f') ∧ i.result = .local i.name Ty.i64 ∧
      Computes (fun m => (value m).bind (chased m.cells ty)) f code' i.result f' := by
  fun_induction Ty.leadsToWord ty generalizing value code source f₁ with
  | case1 t ih =>
    obtain ⟨name, f₂, hexec, hstraight⟩ := exec_append (.load (.ptr t) source) rfl f₁
    obtain ⟨i, code', f', hchase, hresult, hcomputes⟩ := ih hty (h.load hstraight)
    refine ⟨i, code', f', ?_, hresult, ?_⟩
    · rw [chase, exec_bind_ok hexec]
      exact hchase
    · simpa only [chased, Option.bind_assoc] using hcomputes
  | case2 =>
    obtain ⟨name, f₂, hexec, hstraight⟩ := exec_append (.load (.int 64) source) rfl f₁
    exact ⟨_, _, f₂, hexec, rfl, h.load hstraight⟩
  | case3 => cases hty

/-! ### Frames and machines with given variables -/

/-- The frame of a program that has slots of these types for its variables, and no code yet. -/
def slotFrame (slots : List (String × Ty)) : Frame :=
  let f := bareFrame Table.empty
  { f with
    fn := { f.fn with scope := { f.fn.scope with used := slots.map Prod.fst ++ f.fn.scope.used } }
    locals := ⟨slots.map fun (name, ty) => (name, some ⟨name, ty⟩)⟩ }

theorem slotFrame_named (slots : List (String × Ty)) : SlotsNamed (slotFrame slots) := by
  intro x slot hx
  obtain ⟨⟨name, ty⟩, hmem, heq⟩ := List.mem_map.mp (mem_of_lookup hx)
  cases heq
  exact List.mem_append_left _ (List.mem_map_of_mem hmem)

/-- The machine that has these values in the slots of the variables, each in a cell of its own. -/
def slotMachine (values : List (String × Value)) : Machine where
  registers := fun name => (values.findIdx? fun entry => entry.1 == name).map Value.cell
  cells := values.map fun entry => some entry.2
  calls := []

end BpfCompiler.Lower
