import BpfCompiler.Lower.Arithmetic
import BpfCompiler.Proofs.SlotUse

/-!
# Reading through pointers

An operand of an operation is read through all its pointers.  Each load decides by the type of what it gave
whether there is another one.  A slot that holds `k` pointers over a base takes `k + 1` loads, one for the slot
and one for each pointer, and the next one always reads from the result of the one before.  A base that is not
a word is refused only behind the last load, so that the fault leaves the same function as a success does
(`dereference_readsThrough`).
-/

namespace BpfCompiler.IR

/-- The type with `k` pointers over a base. -/
def Ty.pointers (base : Ty) : Nat → Ty
  | 0 => base
  | k + 1 => .ptr (base.pointers k)

/-- The instruction reads what `source` points to. -/
def Inst.ReadsFrom (i : Inst) (source : Operand) : Prop :=
  ∃ t, source.ty = .ptr t ∧ i.op = .load t source

/-- Loads that lead from `source` to the result of the last one: the first reads from `source`, and each further
one from the result of the one before it. -/
structure LoadPath (source : Operand) (loads : List Inst) (last : Inst) : Prop where
  first : ∀ i ∈ loads.head?, i.ReadsFrom source
  next : loads.IsChain fun i j => j.ReadsFrom i.result
  last : loads.getLast? = some last

namespace LoadPath

theorem single {i : Inst} {source : Operand} (h : i.ReadsFrom source) : LoadPath source [i] i where
  first := by simpa using h
  next := .singleton i
  last := rfl

theorem cons {i last : Inst} {source : Operand} {rest : List Inst} (h : i.ReadsFrom source)
    (hrest : LoadPath i.result rest last) : LoadPath source (i :: rest) last where
  first := by simpa using h
  next := by
    cases rest with
    | nil => exact .singleton i
    | cons j rest => exact .cons_cons (hrest.first j rfl) hrest.next
  last := by rw [List.getLast?_cons, hrest.last, Option.getD_some]

end LoadPath

namespace NameScope

/-- The names that the next `n` instructions without names of their own take. -/
def nextNames (s : NameScope) : Nat → List String
  | 0 => []
  | n + 1 => (s.fresh "").1 :: (s.fresh "").2.nextNames n

/-- The scope behind these names. -/
def past (s : NameScope) : Nat → NameScope
  | 0 => s
  | n + 1 => (s.fresh "").2.past n

theorem not_mem_used_of_nextNames {s : NameScope} {n : Nat} {name : String} (h : name ∈ s.nextNames n) :
    name ∉ s.used := by
  induction n generalizing s with
  | zero => cases h
  | succ n ih =>
    rcases List.mem_cons.mp h with rfl | hlater
    · exact s.fresh_not_mem ""
    · exact fun hused => ih hlater (s.used_subset_fresh "" hused)

theorem nextNames_nodup (s : NameScope) (n : Nat) : (s.nextNames n).Nodup := by
  induction n generalizing s with
  | zero => exact List.nodup_nil
  | succ n ih =>
    refine List.nodup_cons.mpr ⟨fun hlater => ?_, ih _⟩
    -- the first name is taken when the others are chosen
    exact not_mem_used_of_nextNames hlater (s.fresh_mem_used "")

end NameScope

end BpfCompiler.IR

namespace BpfCompiler.Lower

open IR Emit

/-- The frame with unnamed instructions at the end of the current block: the scope has given out one name for
each, and nothing else is different. -/
def Frame.extend (f : Frame) (new : List Inst) : Frame :=
  { f with fn := { f.fn with
      scope := f.fn.scope.past new.length
      blocks := f.fn.blocks.modify f.here fun b => b.extend new } }

theorem Frame.extend_cons (f : Frame) (i : Inst) (rest : List Inst) :
    (f.extend [i]).extend rest = f.extend (i :: rest) := by
  have hblock : (fun b : Block => b.extend rest) ∘ (fun b : Block => b.extend [i]) =
      fun b : Block => b.extend (i :: rest) := by
    funext b
    simp
  simp only [Frame.extend, List.modify_modify_eq, hblock, List.length_cons, List.length_nil,
    NameScope.past]

theorem exec_append_extend (op : Op) (f : Frame) :
    exec (append op) f =
      (.ok ⟨(f.fn.scope.fresh "").1, op⟩, f.extend [⟨(f.fn.scope.fresh "").1, op⟩]) := rfl

/-- Behind the last pointer there is one load, whatever is found there. -/
theorem exec_chase_base {base : Ty} (hbase : base.isPointer = false) (source : Operand) (f : Frame) :
    exec (chase base source) f =
      (if base = Ty.i64 then .ok ⟨(f.fn.scope.fresh "").1, .load base source⟩
        else .error (.notDereferenceable base),
        f.extend [⟨(f.fn.scope.fresh "").1, .load base source⟩]) := by
  fun_cases chase base source with
  | case1 t => cases hbase
  | case2 => exact exec_append_extend _ f
  | case3 _ _ _ hword =>
    rw [exec_bind_ok (exec_append_extend _ f), exec_throw, if_neg hword]

/-- A pointer is loaded, and the reading goes on from what was loaded. -/
theorem exec_chase_ptr (t : Ty) (source : Operand) (f : Frame) :
    exec (chase (.ptr t) source) f =
      exec (chase t (.local (f.fn.scope.fresh "").1 (.ptr t)))
        (f.extend [⟨(f.fn.scope.fresh "").1, .load (.ptr t) source⟩]) := by
  rw [chase, exec_bind_ok (exec_append_extend _ f)]
  rfl

theorem exec_chase_pointers {base : Ty} (hbase : base.isPointer = false) (k : Nat) {source : Operand}
    (hsource : source.ty = .ptr (base.pointers k)) (f : Frame) :
    ∃ (loads : List Inst) (last : Inst),
      LoadPath source loads last ∧ loads.length = k + 1 ∧
      loads.map Inst.name = f.fn.scope.nextNames (k + 1) ∧ last.result = .local last.name base ∧
      exec (chase (base.pointers k) source) f =
        (if base = Ty.i64 then .ok last else .error (.notDereferenceable base), f.extend loads) := by
  -- the frame and the source change with every load, and only the number of pointers is sure to go down
  induction k generalizing source f with
  | zero => exact ⟨_, _, .single ⟨base, hsource, rfl⟩, rfl, rfl, rfl, exec_chase_base hbase source f⟩
  | succ k ih =>
    let i : Inst := ⟨(f.fn.scope.fresh "").1, .load (base.pointers (k + 1)) source⟩
    have hfirst : i.ReadsFrom source := ⟨_, hsource, rfl⟩
    -- what `i` gives has one pointer less, and the rest of the run starts from there
    obtain ⟨loads, last, hpath, hlength, hnames, hresult, hrun⟩ :=
      ih (show i.result.ty = _ from rfl) (f.extend [i])
    refine ⟨i :: loads, last, .cons hfirst hpath, ?_, ?_, hresult, ?_⟩
    · rw [List.length_cons, hlength]
    · rw [List.map_cons, hnames]
      rfl
    · rw [← Frame.extend_cons, ← hrun]
      exact exec_chase_ptr (base.pointers k) source f

/-- A slot that holds `k` pointers over a base is read by exactly `k + 1` loads at the end of the current block,
the first from the slot and each further one from the result of the one before it, under the next names of the
scope.  The last value is returned if it is a word.  Any other base is named in the fault, and the frame is then
the same. -/
theorem dereference_readsThrough (register : String) (k : Nat) (base : Ty) (hbase : base.isPointer = false)
    (f : Frame) :
    ∃ (loads : List Inst) (last : Inst),
      LoadPath (Slot.address ⟨register, base.pointers k⟩) loads last ∧ loads.length = k + 1 ∧
      loads.map Inst.name = f.fn.scope.nextNames (k + 1) ∧ (loads.map Inst.name).Nodup ∧
      (∀ i ∈ loads, i.name ∉ f.fn.scope.used) ∧ last.result = .local last.name base ∧
      exec (dereference (some ⟨register, base.pointers k⟩)) f =
        (if base = Ty.i64 then .ok last else .error (.notDereferenceable base), f.extend loads) ∧
      (Fault.notDereferenceable base).className = "TypeError" ∧
      (Fault.notDereferenceable base).message? =
        some ("Unsupported type for dereferencing: " ++ base.render) := by
  obtain ⟨loads, last, hpath, hlength, hnames, hresult, hrun⟩ :=
    exec_chase_pointers hbase k (show (Slot.address ⟨register, base.pointers k⟩).ty = _ from rfl) f
  refine ⟨loads, last, hpath, hlength, hnames, ?_, ?_, hresult, hrun, rfl, rfl⟩
  · rw [hnames]
    exact f.fn.scope.nextNames_nodup (k + 1)
  · intro i hi
    have hname : i.name ∈ f.fn.scope.nextNames (k + 1) := hnames ▸ List.mem_map_of_mem hi
    exact NameScope.not_mem_used_of_nextNames hname

/-- A frame with one variable `p`, which holds a value of the given type. -/
def frameHolding (ty : Ty) : Frame :=
  let f := (exec (alloca "p" ty none) (bareFrame Table.empty)).2
  { f with locals := f.locals.insert "p" (some ⟨"p", ty⟩) }

/-- A pointer to a pointer is read by three loads.  A word comes out of it, and a shorter integer does not. -/
theorem doublePointers_readThrough :
    Ty.i64.isPointer = false ∧ Ty.i32.isPointer = false ∧
    (∃ (loads : List Inst) (last : Inst),
      LoadPath (.local "p" (.ptr (.ptr (.ptr Ty.i64)))) loads last ∧
      loads.map Inst.name = [".2", ".3", ".4"] ∧ last.result = .local last.name Ty.i64 ∧
      exec (dereference (some ⟨"p", .ptr (.ptr Ty.i64)⟩)) (frameHolding (.ptr (.ptr Ty.i64))) =
        (.ok last, (frameHolding (.ptr (.ptr Ty.i64))).extend loads)) ∧
    ∃ (loads : List Inst) (last : Inst),
      LoadPath (.local "p" (.ptr (.ptr (.ptr Ty.i32)))) loads last ∧
      loads.map Inst.name = [".2", ".3", ".4"] ∧
      exec (dereference (some ⟨"p", .ptr (.ptr Ty.i32)⟩)) (frameHolding (.ptr (.ptr Ty.i32))) =
        (.error (.notDereferenceable Ty.i32), (frameHolding (.ptr (.ptr Ty.i32))).extend loads) := by
  refine ⟨rfl, rfl, ?_, ?_⟩
  · have hnext : (frameHolding (.ptr (.ptr Ty.i64))).fn.scope.nextNames 3 = [".2", ".3", ".4"] := by
      decide +kernel
    obtain ⟨loads, last, hpath, -, hnames, -, -, hresult, hrun, -⟩ :=
      dereference_readsThrough "p" 2 Ty.i64 rfl (frameHolding (.ptr (.ptr Ty.i64)))
    exact ⟨loads, last, hpath, hnames.trans hnext, hresult, hrun⟩
  · have hnext : (frameHolding (.ptr (.ptr Ty.i32))).fn.scope.nextNames 3 = [".2", ".3", ".4"] := by
      decide +kernel
    obtain ⟨loads, last, hpath, -, hnames, -, -, -, hrun, -⟩ :=
      dereference_readsThrough "p" 2 Ty.i32 rfl (frameHolding (.ptr (.ptr Ty.i32)))
    exact ⟨loads, last, hpath, hnames.trans hnext, hrun⟩

end BpfCompiler.Lower
