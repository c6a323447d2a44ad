import BpfCompiler.Proofs.Nodes
import BpfCompiler.Proofs.Registers
import BpfCompiler.Proofs.Texts

/-!
# The arguments of a print

A text with holes is printed by its format, which has a directive for each hole, and by the values of the
variables in its holes.  The helper takes three values at most.  So the first three holes are passed as words, in
order; a variable without a slot gives zero, and further holes keep their directive but get no argument
(`printCall_passes_holes`).
-/

namespace BpfCompiler.IR

/-- The type is that of a pointer, or of an integer that is no wider than a word. -/
def Ty.fitsWord : Ty → Bool
  | .ptr _ => true
  | .int width => width ≤ 64
  | _ => false

/-- A value as a word: an integer is extended by its sign, and a pointer counts as its address. -/
def argumentWord : Value → Option Value
  | .int _ bits => some (.int 64 (bits.signExtend 64))
  | .raw bits => some (.int 64 bits)
  | _ => none

end BpfCompiler.IR

namespace BpfCompiler.Lower

open IR Syntax Emit

/-! ### Frames behind the slots of a body -/

/-- The variables have slots with taken names, each for a pointer or for an integer of a word at most. -/
structure HasSlots (f : Frame) : Prop where
  named : SlotsNamed f
  fits : ∀ x slot, f.locals.get? x = some (some slot) → slot.ty.fitsWord = true

theorem HasSlots.grown {f f' : Frame} (h : HasSlots f) (hgrown : Grown f f') : HasSlots f' where
  named := h.named.grown hgrown
  fits := by
    rw [hgrown.locals]
    exact h.fits

theorem integerType?_width {name : String} {entry : Nat × String}
    (h : integerType? name = some entry) : entry.1 = 32 ∨ entry.1 = 64 := by
  unfold integerType? at h
  split at h
  · rename_i hname
    simp only [integerTypeNames, List.contains_cons, List.contains_nil, Bool.or_false, Bool.or_eq_true,
      beq_iff_eq] at hname
    rcases hname with rfl | rfl | rfl | rfl
    all_goals
      cases h
      decide
  · cases h

/-- The types of the slots that assignments ask for. -/
def slotTypes : List Ty := [Ty.i1, Ty.i32, Ty.i64, .ptr Ty.i64]

theorem slotPlan_ty {value : Expr} {request : SlotRequest} (h : slotPlan value = .fresh request) :
    request.ty ∈ slotTypes := by
  unfold slotPlan wordSlot at h
  split at h
  · split at h
    · rename_i entry hentry
      cases h
      rcases integerType?_width hentry with hwidth | hwidth
      · simp only at hwidth
        simp [slotTypes, hwidth]
      · simp only at hwidth
        simp [slotTypes, hwidth]
    · split at h
      · cases h
        simp [slotTypes]
      · split at h <;> cases h
        simp [slotTypes]
  all_goals
    cases h
    try simp [slotTypes]

theorem Allots.ty_mem {last : Option Slot} {body : List Stmt} {made : List Slot}
    {bound : List (String × Slot)} (h : Allots last body made bound) :
    ∀ slot ∈ made, slot.ty ∈ slotTypes := by
  induction h with
  | nil => simp
  | fresh hplan hrest ih =>
    intro slot hslot
    rcases List.mem_cons.mp hslot with rfl | hslot
    · exact slotPlan_ty hplan
    · exact ih slot hslot
  | reuse hplan hrest ih => exact ih
  | branch hbody horelse hrest ihbody ihorelse ihrest =>
    intro slot hslot
    simp only [List.mem_append] at hslot
    rcases hslot with hslot | hslot | hslot
    · exact ihbody slot hslot
    · exact ihorelse slot hslot
    · exact ihrest slot hslot
  | pass hpass hrest ih => exact ih

/-- A slot of the table that is made for a body has a taken name and one of these types. -/
theorem slot_of_allocate {body : List Stmt} {f f' : Frame} (hempty : f.locals = Table.empty)
    (h : exec (allocate body) f = (.ok (), f')) {x : String} {slot : Slot}
    (hx : f'.locals.get? x = some (some slot)) :
    slot.register ∈ f'.fn.scope.used ∧ slot.ty ∈ slotTypes := by
  obtain ⟨made, bound, hallots, hreserves⟩ := allots_of_exec.2 none body h
  rw [hreserves.get?_eq_some_iff hempty] at hx
  have hbound := List.mem_reverse.mp (mem_of_lookup hx)
  have hmade : slot ∈ made := (hallots.bound_made _ hbound).resolve_left nofun
  refine ⟨?_, hallots.ty_mem slot hmade⟩
  obtain ⟨aligned, happends, rfl⟩ := hreserves.slots
  obtain ⟨entry, hentry, rfl⟩ := List.mem_map.mp hmade
  exact happends.taken _ (List.mem_map_of_mem (f := slotInst) hentry)

/-- The slots that are made for a body are such slots. -/
theorem hasSlots_of_allocate {body : List Stmt} {f f' : Frame} (hempty : f.locals = Table.empty)
    (h : exec (allocate body) f = (.ok (), f')) : HasSlots f' where
  named := fun _ _ hx => (slot_of_allocate hempty h hx).1
  fits := by
    have hfits : ∀ ty ∈ slotTypes, ty.fitsWord = true := by decide
    exact fun _ _ hx => hfits _ (slot_of_allocate hempty h hx).2

/-! ### Holes -/

/-- What is passed for a variable: the word of its value, and zero if it has no slot. -/
def holeWord (locals : Table (Option Slot)) (id : String) (m : Machine) : Option Value :=
  match locals.get? id with
  | none => some (.int 64 0)
  | some none => none
  | some (some slot) => (slot.content m).bind argumentWord

theorem kept_holeWord {f : Frame} (hnamed : SlotsNamed f) (id : String) :
    Kept f (holeWord f.locals id) := by
  intro m m' hsame hcells
  unfold holeWord
  split
  · rfl
  · rfl
  · rename_i slot hslot
    rw [kept_content hnamed hslot m m' hsame hcells]

theorem converting_eq_argumentWord {v : Value} {ty : Ty} {kind : Cast} (hty : v.hasTy ty = true)
    (h : kind = .ptrToInt ∧ ty.isPointer = true ∨ kind = .sext ∧ ∃ width < 64, ty = .int width) :
    converting kind v Ty.i64 = argumentWord v := by
  rcases h with ⟨rfl, hpointer⟩ | ⟨rfl, width, hwidth, rfl⟩
  · cases ty with
    | ptr t => cases v <;> first | rfl | cases hty
    | _ => cases hpointer
  · cases v with
    | int width' bits =>
      obtain rfl : width' = width := by simpa [Value.hasTy] using hty
      simp [converting, argumentWord, hwidth]
    | _ => cases hty

theorem argumentWord_word {v : Value} (hty : v.hasTy Ty.i64 = true) : argumentWord v = some v := by
  cases v with
  | int width bits =>
    obtain rfl : width = 64 := by simpa [Value.hasTy] using hty
    simp [argumentWord]
  | _ => cases hty

/-- A value that is no word is converted to one. -/
theorem Computes.exec_converted {value : Machine → Option Value} {f f₁ : Frame} {code : List Inst}
    {name : String} {ty : Ty} {kind : Cast} (h : Computes value f code (.local name ty) f₁)
    (hty : ∀ m v, value m = some v → v.hasTy ty = true)
    (hkind : kind = .ptrToInt ∧ ty.isPointer = true ∨ kind = .sext ∧ ∃ width < 64, ty = .int width) :
    ∃ o code' f', exec (Emit.cast kind (.local name ty) Ty.i64) f₁ = (.ok o, f') ∧ o.ty = Ty.i64 ∧
      Computes (fun m => (value m).bind argumentWord) f code' o f' := by
  have hne : ty.agrees Ty.i64 = false := by
    rcases hkind with ⟨-, hpointer⟩ | ⟨-, width, hwidth, rfl⟩
    · cases ty <;> first | rfl | cases hpointer
    · simp only [Ty.agrees, beq_eq_false_iff_ne]
      omega
  obtain ⟨name', f', hexec, hstraight⟩ := exec_cast kind (o := .local name ty) hne f₁
  have hsame : (fun m => (value m).bind argumentWord) =
      fun m => (value m).bind (converting kind · Ty.i64) := by
    funext m
    cases hv : value m with
    | none => rfl
    | some v => exact (converting_eq_argumentWord (hty m v hv) hkind).symm
  exact ⟨_, _, f', hexec, rfl, hsame ▸ h.cast hstraight⟩

/-- A variable without a slot is passed as zero. -/
theorem exec_holeArgument_unbound {f : Frame} {id : String} (hid : f.locals.get? id = none) :
    ∃ f', exec (holeArgument (.variable id)) f = (.ok (Operand.int Ty.i64 0), f') ∧
      Straight f f' [] := by
  obtain ⟨f₁, hsay₁, hquiet₁, -⟩ := say_straight "Evaluating expression: <ast.Name>" f
  obtain ⟨f₂, hsay₂, hquiet₂, -⟩ := say_straight ("Undefined variable " ++ id) f₁
  obtain ⟨f₃, hsay₃, hquiet₃, -⟩ := say_straight
    ("Warning: Failed to evaluate expression for bpf_printk argument. " ++
      "It will be converted to 0.") f₂
  have heval : exec (evalHole (.variable id)) f = (.ok none, f₂) := by
    rw [evalHole, exec_bind_ok hsay₁, readName, exec_bind_ok (exec_get f₁), hquiet₁.locals, hid]
    dsimp only
    rw [exec_bind_ok hsay₂]
    rfl
  refine ⟨f₃, ?_, hquiet₁.trans (hquiet₂.trans hquiet₃)⟩
  rw [holeArgument, exec_bind_ok heval]
  dsimp only
  rw [exec_bind_ok hsay₃]
  rfl

theorem exec_holeArgument {f : Frame} (hslots : HasSlots f) {id : String}
    (hid : f.locals.get? id ≠ some none) :
    ∃ o code f', exec (holeArgument (.variable id)) f = (.ok o, f') ∧ o.ty = Ty.i64 ∧
      Computes (holeWord f.locals id) f code o f' := by
  cases hentry : f.locals.get? id with
  | none =>
    obtain ⟨f', hexec, hstraight⟩ := exec_holeArgument_unbound hentry
    have hsettled : Settled f'.fn.scope.used (Operand.int Ty.i64 0) := by
      rintro _ _ ⟨⟩
    have hzero : holeWord f.locals id = fun m => (Operand.int Ty.i64 0).eval m := by
      funext m
      rw [holeWord, hentry]
      rfl
    exact ⟨_, [], f', hexec, rfl, hzero ▸ (Computes.operand hsettled).after hstraight⟩
  | some entry =>
    cases entry with
    | none => exact absurd hentry hid
    | some slot =>
      obtain ⟨f₁, hsay, hquiet, -⟩ := say_straight "Evaluating expression: <ast.Name>" f
      have hslot : f₁.locals.get? id = some (some slot) := by rw [hquiet.locals, hentry]
      obtain ⟨name, code, f₂, hload, hcomputes⟩ :=
        exec_load (hslots.named.grown hquiet.grown) hslot
      have heval : exec (evalHole (.variable id)) f = (.ok (some (.local name slot.ty)), f₂) := by
        rw [evalHole, exec_bind_ok hsay, readName, exec_bind_ok (exec_get f₁), hslot]
        exact exec_bind_ok hload
      have hword : holeWord f.locals id = fun m => (slot.content m).bind argumentWord := by
        funext m
        rw [holeWord, hentry]
      have hfits := hslots.fits id slot hentry
      have hcontent := hcomputes.after hquiet
      have hty : ∀ m v, slot.content m = some v → v.hasTy slot.ty = true := fun _ _ => content_hasTy
      rw [hword, holeArgument, exec_bind_ok heval]
      dsimp only [Operand.ty]
      cases hslotTy : slot.ty with
      | ptr t =>
        rw [hslotTy] at hcontent hty
        exact hcontent.exec_converted hty (.inl ⟨rfl, rfl⟩)
      | int width =>
        rw [hslotTy] at hcontent hty hfits
        dsimp only
        split
        · rename_i hwidth
          exact hcontent.exec_converted hty (.inr ⟨rfl, width, hwidth, rfl⟩)
        · obtain rfl : width = 64 := by
            simp only [Ty.fitsWord, decide_eq_true_eq] at hfits
            omega
          have hsame : (fun m => (slot.content m).bind argumentWord) = slot.content := by
            funext m
            cases hv : slot.content m with
            | none => rfl
            | some v => exact argumentWord_word (hty m v hv)
          rw [hsame]
          exact ⟨_, code, f₂, rfl, rfl, hcontent⟩
      | _ =>
        rw [hslotTy] at hfits
        cases hfits

/-- A variable whose entry has no slot cannot be read. -/
theorem bound_of_holeArgument {f f' : Frame} {id : String} {o : Operand}
    (h : exec (holeArgument (.variable id)) f = (.ok o, f')) : f.locals.get? id ≠ some none := by
  intro hid
  obtain ⟨value, f₂, heval, -⟩ := exec_bind_inv h
  obtain ⟨⟨⟩, f₁, hsay, hread⟩ := exec_bind_inv heval
  rw [readName, exec_bind_ok (exec_get f₁), (say_callless hsay).locals, hid] at hread
  obtain ⟨i, f₃, hload, -⟩ := exec_bind_inv hread
  exact exec_throw_inv hload

theorem holeArgument_computes {f f' : Frame} (hslots : HasSlots f) {id : String} {o : Operand}
    (h : exec (holeArgument (.variable id)) f = (.ok o, f')) :
    ∃ code, o.ty = Ty.i64 ∧ Computes (holeWord f.locals id) f code o f' := by
  obtain ⟨o', code, f₁, hexec, hty, hcomputes⟩ := exec_holeArgument hslots (bound_of_holeArgument h)
  rw [h] at hexec
  cases hexec
  exact ⟨code, hty, hcomputes⟩

/-! ### Several holes -/

theorem mapM_holeArgument_computes {f f' : Frame} (hslots : HasSlots f) {ids : List String}
    {os : List Operand}
    (h : exec ((ids.map Hole.variable).mapM holeArgument) f = (.ok os, f')) :
    ∃ code, os.length = ids.length ∧ (∀ o ∈ os, o.ty = Ty.i64) ∧
      ComputesAll (ids.map (holeWord f.locals)) f code os f' := by
  induction ids generalizing f os with
  | nil =>
    obtain ⟨rfl, rfl⟩ := exec_pure_inv h
    exact ⟨[], rfl, by simp, .nil f'⟩
  | cons id rest ih =>
    rw [List.map_cons, List.mapM_cons] at h
    obtain ⟨o, f₁, hfirst, htail⟩ := exec_bind_inv h
    obtain ⟨others, f₂, hrest, hend⟩ := exec_bind_inv htail
    obtain ⟨rfl, rfl⟩ := exec_pure_inv hend
    obtain ⟨code, hty, hcomputes⟩ := holeArgument_computes hslots hfirst
    obtain ⟨code', hlength, htys, hall⟩ := ih (hslots.grown hcomputes.grown) hrest
    rw [hcomputes.locals] at hall
    refine ⟨code ++ code', by simp [hlength], by simpa using ⟨hty, htys⟩, ?_⟩
    refine ComputesAll.cons hcomputes hall ?_
    intro value hvalue
    obtain ⟨id', -, rfl⟩ := List.mem_map.mp hvalue
    exact kept_holeWord hslots.named id'

/-- The helper is called with the values of the arguments. -/
theorem executeAll_printkCode {f f' : Frame} {pointer name : String} {args : List Operand}
    (hstraight : Straight f f' (printkCode pointer name args))
    (hsettled : ∀ o ∈ args, Settled f.fn.scope.used o) (results : Nat → BitVec 64) (m : Machine) :
    m.executeAll results (printkCode pointer name args) =
      (args.mapM (Operand.eval m)).map fun vs =>
        { (m.set pointer (.raw 6)).set name (.int 64 (results m.calls.length)) with
          calls := m.calls ++ [⟨6, vs⟩] } := by
  have hfresh : pointer ∉ f.fn.scope.used := hstraight.fresh _ List.mem_cons_self
  have hcast : m.execute results
      ⟨pointer, .cast .intToPtr (Operand.int Ty.i64 Signature.printk.number) (.ptr Signature.printk.ty)⟩ =
        some (m.set pointer (.raw 6)) :=
    Machine.execute_intToPtr rfl _
  have hsets := Sets.single (f := f) (i := ⟨pointer, _⟩) hfresh hcast
  have hargs : args.mapM (Operand.eval (m.set pointer (.raw 6))) = args.mapM (Operand.eval m) :=
    mapM_congr fun o ho => (hsettled o ho).eval hsets.same
  have hcallee : (m.set pointer (.raw 6)).helperAt (.local pointer (.ptr Signature.printk.ty)) =
      some 6 := by
    rw [Machine.helperAt, Machine.eval_set m pointer rfl]
    rfl
  have hrun : m.executeAll results (printkCode pointer name args) =
      (m.set pointer (.raw 6)).executeAll results [⟨name, printkCall pointer args⟩] :=
    hsets.executeAll_append _
  rw [hrun, Machine.executeAll_singleton, ← hargs]
  exact Machine.execute_helper hcallee true _ true args

/-! ### Texts with holes -/

/-- A part of a text with holes: a text, or a hole with a variable. -/
inductive Piece where
  | text (t : Text)
  | hole (id : String)

namespace Piece

def ofExpr? : Expr → Option Piece
  | .const (.text t) _ => some (.text t)
  | .formatted (.name id) _ _ => some (.hole id)
  | _ => none

/-- The directive for a word. -/
def directive : Text := "%lld"

def format : Piece → Text
  | .text t => t
  | .hole _ => directive

def named? : Piece → Option String
  | .text _ => none
  | .hole id => some id

end Piece

def formatOf (pieces : List Piece) : Text := Text.concat (pieces.map Piece.format)

def holesOf (pieces : List Piece) : List String := pieces.filterMap Piece.named?

theorem partOf_of_piece {e : Expr} {piece : Piece} (h : Piece.ofExpr? e = some piece) :
    partOf e = .ok (piece.format, piece.named?.map Hole.variable) := by
  unfold Piece.ofExpr? at h
  split at h
  · cases h
    rfl
  · cases h
    rfl
  · cases h

theorem formatParts_of_pieces {parts : List Expr} {pieces : List Piece}
    (h : parts.mapM Piece.ofExpr? = some pieces) :
    formatParts parts = .ok (formatOf pieces, (holesOf pieces).map Hole.variable) := by
  have hparts : parts.mapM partOf =
      .ok (pieces.map fun piece => (piece.format, piece.named?.map Hole.variable)) := by
    induction parts generalizing pieces with
    | nil =>
      cases h
      rfl
    | cons e rest ih =>
      rw [List.mapM_cons] at h
      obtain ⟨piece, hpiece, htail⟩ := Option.bind_eq_some_iff.mp h
      obtain ⟨others, hothers, hend⟩ := Option.bind_eq_some_iff.mp htail
      cases hend
      rw [List.mapM_cons, partOf_of_piece hpiece, ih hothers]
      rfl
  have hholes : (pieces.map fun piece => (piece.format, piece.named?.map Hole.variable)).filterMap
      Prod.snd = (holesOf pieces).map Hole.variable := by
    simp [holesOf, List.filterMap_map, List.map_filterMap]
  rw [formatParts, hparts]
  simp only [bind, Except.bind, pure, Except.pure, hholes, formatOf, List.map_map, Function.comp_def]

def percent : CodePoint := CodePoint.ofChar '%'

/-- The format has as many directives as there are holes. -/
theorem count_percent {pieces : List Piece} (hplain : ∀ t, .text t ∈ pieces → percent ∉ t.points) :
    (formatOf pieces).points.count percent = (holesOf pieces).length := by
  induction pieces with
  | nil => rfl
  | cons piece rest ih =>
    have hrest := ih fun t ht => hplain t (List.mem_cons_of_mem _ ht)
    have hpoints : (formatOf (piece :: rest)).points =
        piece.format.points ++ (formatOf rest).points := rfl
    rw [hpoints, List.count_append, hrest]
    cases piece with
    | text t =>
      rw [Piece.format, List.count_eq_zero_of_not_mem (hplain t List.mem_cons_self), Nat.zero_add]
      rfl
    | hole id =>
      have hdirective : Piece.directive.points.count percent = 1 := by decide
      rw [Piece.format, hdirective, Nat.add_comm]
      rfl

/-! ### Prints with holes -/

/-- The print passes the address of its text, its number of characters, and words. -/
def Print.Passes (p : Print) (values : List Operand) : Prop :=
  ∃ pointer, p.call.op = printkCall pointer
      ((Global.variable p.holder).address :: Operand.int Ty.i32 p.full.length :: values) ∧
    ∀ o ∈ values, o.ty = Ty.i64

/-- Running the code calls the helper once, with the words behind the address and the length of the text. -/
def Print.CallsWith (p : Print) (code : List Inst) (m : Machine) (words : List Value) : Prop :=
  ∀ results, ∃ m', m.executeAll results code = some m' ∧ m'.cells = m.cells ∧
    m'.calls = m.calls ++
      [⟨6, .symbol p.holder.name :: .int 32 (BitVec.ofInt 32 p.full.length) :: words⟩]

theorem callsWith_iff {values : List (Machine → Option Value)} {f f₁ f' : Frame} {code : List Inst}
    {os : List Operand} (h : ComputesAll values f code os f₁) {p : Print} {pointer name : String}
    (hstraight : Straight f₁ f' (printkCode pointer name
      ((Global.variable p.holder).address :: Operand.int Ty.i32 p.full.length :: os)))
    (m : Machine) (words : List Value) :
    p.CallsWith (code ++ printkCode pointer name
        ((Global.variable p.holder).address :: Operand.int Ty.i32 p.full.length :: os)) m words ↔
      List.Forall₂ (fun value v => value m = some v) values words := by
  have hsettled : ∀ o ∈ (Global.variable p.holder).address ::
      Operand.int Ty.i32 p.full.length :: os, Settled f₁.fn.scope.used o := by
    intro o ho
    simp only [List.mem_cons] at ho
    rcases ho with rfl | rfl | ho
    · rintro _ _ ⟨⟩
    · rintro _ _ ⟨⟩
    · exact h.settled o ho
  have hcall := executeAll_printkCode hstraight hsettled
  constructor
  · intro hcalls
    obtain ⟨m', hrun, -, hcalled⟩ := hcalls fun _ => 0
    rw [Machine.executeAll_append_eq] at hrun
    obtain ⟨m₁, hfirst, hlast⟩ := Option.bind_eq_some_iff.mp hrun
    rw [hcall] at hlast
    obtain ⟨vs, hvs, rfl⟩ := Option.map_eq_some_iff.mp hlast
    obtain ⟨-, hcalled⟩ := List.append_inj' hcalled rfl
    obtain rfl : vs = _ := by simpa using hcalled
    obtain ⟨-, hvs⟩ := List.forall₂_cons.mp (mapM_eq_some_iff.mp hvs)
    obtain ⟨-, hvs⟩ := List.forall₂_cons.mp hvs
    exact h.complete _ m m₁ words hfirst hvs
  · intro hwords results
    obtain ⟨m₁, hsets, hevals⟩ := h.carries results m words hwords
    have hargs : ((Global.variable p.holder).address :: Operand.int Ty.i32 p.full.length :: os).mapM
        (Operand.eval m₁) =
          some (.symbol p.holder.name :: .int 32 (BitVec.ofInt 32 p.full.length) :: words) :=
      mapM_of_forall₂ (.cons rfl (.cons rfl hevals))
    have hrun := hsets.executeAll_append (printkCode pointer name
      ((Global.variable p.holder).address :: Operand.int Ty.i32 p.full.length :: os))
    rw [hcall, hargs, Option.map_some, hsets.calls] at hrun
    exact ⟨_, hrun, hsets.cells, rfl⟩

theorem printParts_calls {f f' : Frame} (hslots : HasSlots f)
    (hin : f.here < f.fn.blocks.length) {parts : List Expr} {pieces : List Piece}
    (hpieces : parts.mapM Piece.ofExpr? = some pieces) {o : Operand}
    (h : exec (printParts parts) f = (.ok o, f')) :
    ∃ (p : Print) (code : List Inst) (values : List Operand), p.text = formatOf pieces ∧
      Shows f f' code [p] ∧ p.Passes values ∧ values.length = min (holesOf pieces).length 3 ∧
      ∀ m words, p.CallsWith code m words ↔
        List.Forall₂ (fun id w => holeWord f.locals id m = some w) ((holesOf pieces).take 3) words := by
  obtain ⟨format, holes, global, f₁, f₂, f₃, values, hformat, hglobal, hquiet, hvalues, hcall⟩ :=
    printParts_inv h
  rw [formatParts_of_pieces hpieces] at hformat
  cases hformat
  obtain ⟨scope, data, -, -, -, hf₁⟩ := formatGlobal_inv hglobal
  have hbefore : Straight f f₂ [] := (hf₁ ▸ f.withText_straight scope _).trans hquiet.toStraight
  rw [← List.map_take] at hvalues
  obtain ⟨code, hlength, htys, hcomputes⟩ :=
    mapM_holeArgument_computes (hslots.grown hbefore.grown) hvalues
  -- The code that gives the arguments their values is the code that has no calls: only one was appended.
  obtain ⟨code', hcomputing⟩ := (mapM_holeArgument_computing _).of_exec hvalues
  obtain rfl : code' = code :=
    hcomputing.unique hcomputes.toAppends (hbefore.inRange hin)
  obtain ⟨p, pointer, name, htext, hp, hprintk, hshows⟩ :=
    shows_of_call hglobal (hquiet.trans hcomputing) hcall
  refine ⟨p, _, values, htext, hshows, ⟨pointer, by rw [hp], htys⟩, ?_, ?_⟩
  · rw [hlength, List.length_take, Nat.min_comm]
  · intro m words
    rw [List.nil_append, callsWith_iff hcomputes hprintk, List.forall₂_map_left_iff, hbefore.locals]

theorem exec_mapM_holeArgument {f : Frame} (hslots : HasSlots f) {ids : List String}
    (hbound : ∀ id ∈ ids, f.locals.get? id ≠ some none) :
    ∃ os f', exec ((ids.map Hole.variable).mapM holeArgument) f = (.ok os, f') := by
  induction ids generalizing f with
  | nil => exact ⟨[], f, rfl⟩
  | cons id rest ih =>
    obtain ⟨o, code, f₁, hfirst, -, hcomputes⟩ :=
      exec_holeArgument hslots (hbound id List.mem_cons_self)
    obtain ⟨os, f₂, hrest⟩ := ih (hslots.grown hcomputes.grown) fun id' hid' =>
      hcomputes.locals ▸ hbound id' (List.mem_cons_of_mem _ hid')
    refine ⟨o :: os, f₂, ?_⟩
    rw [List.map_cons, List.mapM_cons, exec_bind_ok hfirst, exec_bind_ok hrest]
    rfl

/-- A text with holes is printed if its variable can be made and the variables in its holes can be read. -/
theorem exec_printParts {f : Frame} (hslots : HasSlots f) {parts : List Expr} {pieces : List Piece}
    (hpieces : parts.mapM Piece.ofExpr? = some pieces)
    (hfree : f.workspace.module.scope.isUsed (formatName f.fn.name f.fn.formats) = false)
    (hencodes : (formatOf pieces ++ ("\n\x00" : Text)).utf8?.isSome = true)
    (hbound : ∀ id ∈ (holesOf pieces).take 3, f.locals.get? id ≠ some none) :
    ∃ o f', exec (printParts parts) f = (.ok o, f') := by
  obtain ⟨scope, hscope⟩ :
      ∃ scope, f.workspace.module.scope.claim? (formatName f.fn.name f.fn.formats) = some scope := by
    rw [NameScope.claim?, hfree]
    exact ⟨_, rfl⟩
  let v := textVariable (formatName f.fn.name f.fn.formats) (formatOf pieces ++ ("\n\x00" : Text))
    (formatOf pieces ++ ("\n\x00" : Text)).utf8?
  let size := (formatOf pieces ++ ("\n\x00" : Text)).length
  have hglobal : exec (formatGlobal (formatOf pieces)) f =
      (.ok ((Global.variable v).address, size), f.withText scope [v]) := by
    rw [exec_formatGlobal]
    simp only [hscope, hencodes, if_true]
    rfl
  -- With or without the warning about holes in excess, the rest starts from a frame with the same code.
  have htail : ∀ f₂, Straight f f₂ [] → ∃ o f', exec (do
      let values ← (((holesOf pieces).map Hole.variable).take 3).mapM holeArgument
      callKernel .printk ((Global.variable v).address :: Operand.int Ty.i32 size :: values)) f₂ =
        (.ok o, f') := by
    intro f₂ hquiet
    rw [← List.map_take]
    have hbound₂ : ∀ id ∈ (holesOf pieces).take 3, f₂.locals.get? id ≠ some none :=
      hquiet.locals ▸ hbound
    obtain ⟨values, f₃, hvalues⟩ := exec_mapM_holeArgument (hslots.grown hquiet.grown) hbound₂
    obtain ⟨pointer, name, f', hcall, -, -⟩ := exec_printk v size values f₃
    exact ⟨_, f', (exec_bind_ok hvalues).trans hcall⟩
  have hmade := f.withText_straight scope [v]
  rw [printParts, formatParts_of_pieces hpieces, exec_bind_ok (exec_lift _ f), exec_bind_ok hglobal]
  dsimp only
  split
  · obtain ⟨f₂, hsay, hquiet, -⟩ := say_straight
      "Warning: bpf_printk supports up to 3 arguments, extra arguments will be ignored."
      (f.withText scope [v])
    rw [exec_bind_ok hsay]
    exact htail f₂ (hmade.trans hquiet)
  · exact htail _ hmade

/-- The format has a directive for each hole, and the call passes one word for each of the first three: the
values of their variables, in order. -/
theorem printCall_passes_holes {f f' : Frame} (hslots : HasSlots f)
    (hin : f.here < f.fn.blocks.length) {parts more : List Expr}
    {pieces : List Piece} (hpieces : parts.mapM Piece.ofExpr? = some pieces)
    (hplain : ∀ t, .text t ∈ pieces → percent ∉ t.points) {result : Option Operand}
    (h : exec (printCall (.joined parts :: more)) f = (.ok result, f')) :
    ∃ (p : Print) (code : List Inst) (values : List Operand),
      Shows f f' code [p] ∧ p.holder.data? = (formatOf pieces ++ ("\n\x00" : Text)).utf8? ∧
      (formatOf pieces).points.count percent = (holesOf pieces).length ∧
      p.Passes values ∧ values.length = min (holesOf pieces).length 3 ∧
      ∀ m words, p.CallsWith code m words ↔
        List.Forall₂ (fun id w => holeWord f.locals id m = some w) ((holesOf pieces).take 3) words := by
  unfold printCall at h
  obtain ⟨o, f₁, hparts, hend⟩ := exec_bind_inv h
  obtain ⟨-, rfl⟩ := exec_pure_inv hend
  obtain ⟨p, code, values, htext, hshows, hpasses, hlength, hcalls⟩ :=
    printParts_calls hslots hin hpieces hparts
  refine ⟨p, code, values, hshows, ?_, count_percent hplain, hpasses, hlength, hcalls⟩
  rw [(hshows.made p (List.mem_singleton_self p)).data, Print.full, htext]

/-! ### Four holes -/

theorem slotFrame_hasSlots {slots : List (String × Ty)}
    (hfits : ∀ entry ∈ slots, entry.2.fitsWord = true) : HasSlots (slotFrame slots) where
  named := slotFrame_named slots
  fits := by
    intro x slot hx
    obtain ⟨⟨name, ty⟩, hmem, heq⟩ := List.mem_map.mp (mem_of_lookup hx)
    cases heq
    exact hfits _ hmem

def fourSlots : List (String × Ty) :=
  [("a", Ty.i32), ("b", Ty.i64), ("c", .ptr Ty.i64), ("d", Ty.i64)]

/-- `a` is -5, `b` is 7, `c` is an address and `d` is 9. -/
def fourValues : Machine :=
  slotMachine [("a", .int 32 (-5)), ("b", .int 64 7), ("c", .raw 4096), ("d", .int 64 9)]

/-- The text `a: {a}{b}{c}{d}`. -/
def fourHoles : List Expr :=
  .const (.text "a: ") false :: ["a", "b", "c", "d"].map fun id => .formatted (.name id) none none

def fourPieces : List Piece := .text "a: " :: ["a", "b", "c", "d"].map .hole

def fourPrinted : Frame := (exec (printCall [.joined fourHoles]) (slotFrame fourSlots)).2

/-- Four directives stand in the format, and three words are passed. -/
theorem fourHoles_passes_three :
    (lastVariable? fourPrinted).bind Variable.data? =
        (formatOf fourPieces ++ ("\n\x00" : Text)).utf8? ∧
      (formatOf fourPieces).points.count percent = 4 ∧
      (fourValues.executeAll (fun _ => 0) fourPrinted.block.insts).map Machine.calls =
        some [⟨6, [.symbol "f____fmt0", .int 32 21, .int 64 (-5), .int 64 7, .int 64 4096]⟩] := by
  decide +kernel

/-- The print of four holes is made, and passes the first three of them. -/
theorem fourHoles_arguments :
    ∃ result f' p code values, exec (printCall [.joined fourHoles]) (slotFrame fourSlots) =
        (.ok result, f') ∧ Shows (slotFrame fourSlots) f' code [p] ∧ p.Passes values ∧
      values.length = 3 ∧
      p.CallsWith code fourValues [.int 64 (-5), .int 64 7, .int 64 4096] := by
  have hrun : (exec (printCall [.joined fourHoles]) (slotFrame fourSlots)).1.isOk = true := by
    decide +kernel
  obtain ⟨result, f', hexec⟩ := exec_of_isOk hrun
  have hslots : HasSlots (slotFrame fourSlots) := slotFrame_hasSlots (by decide)
  have hplain : ∀ t, .text t ∈ fourPieces → percent ∉ t.points := by
    intro t ht
    obtain rfl : t = "a: " := by simpa [fourPieces] using ht
    decide
  obtain ⟨p, code, values, hshows, -, -, hpasses, hlength, hcalls⟩ :=
    printCall_passes_holes hslots (by decide) (rfl : fourHoles.mapM Piece.ofExpr? = some fourPieces)
      hplain hexec
  refine ⟨result, f', p, code, values, hexec, hshows, hpasses, hlength, (hcalls _ _).mpr ?_⟩
  exact .cons (by decide +kernel) (.cons (by decide +kernel) (.cons (by decide +kernel) .nil))

end BpfCompiler.Lower
