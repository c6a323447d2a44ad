import BpfCompiler.Proofs.BodySteps
import BpfCompiler.Proofs.Conditions

/-!
# Stores find their slots

A body is walked over twice: first the slots are made, then the statements are lowered and store into them.
The two walks look at the values of assignments in the same way, so a statement that stores has had a slot
made for its variable, and no body fails for want of one.

The slot need not have the type of what is stored, since a variable has only one slot in the end.  Where every
assignment makes a slot of its own and those of one variable have one type, the values whose type shows in
their form find a slot of exactly that type.
-/

namespace BpfCompiler.Lower

open IR Syntax Emit

/-! ### Slots are never missing -/

/-- The table has an entry for each of the variables. -/
def Covers (stored : String → Prop) (f : Frame) : Prop :=
  ∀ x, stored x → ∃ slot, f.locals.get? x = some slot

/-- If the table covered the variables before, it still does. -/
def KeepsCovered (stored : String → Prop) (f f' : Frame) : Prop := Covers stored f → Covers stored f'

instance (stored : String → Prop) : Std.Refl (KeepsCovered stored) := ⟨fun _ h => h⟩

instance (stored : String → Prop) : IsTrans Frame (KeepsCovered stored) :=
  ⟨fun _ _ _ h h' hf => h' (h hf)⟩

theorem KeepsCovered.of_locals {stored : String → Prop} {f f' : Frame} (h : f'.locals = f.locals) :
    KeepsCovered stored f f' := by
  intro hf x hx
  rw [h]
  exact hf x hx

/-- From the frame, the action does not fail for want of a slot. -/
def Slotted {α : Type} (f : Frame) (m : Emit α) : Prop :=
  Ends f m (fun _ _ => True) fun fault _ => fault.isNoSlot = false

theorem FrameStep.keepsCovered {stored : String → Prop} {prints : Prop} {α : Type} {m : Emit α}
    (h : FrameStep stored prints α m) : Preserves (KeepsCovered stored) m := by
  cases h with
  | straight h =>
    intro f
    obtain ⟨new, hstraight⟩ := h.preserves f
    exact .of_locals hstraight.locals
  | terminate op =>
    intro f
    rw [exec_terminate]
    split <;> exact .of_locals rfl
  | addBlock | moveTo => exact fun _ => .of_locals rfl
  | bindSlot name slot =>
    intro f hf x hx
    change ∃ s, (f.locals.insert name (some slot)).get? x = some s
    rw [Table.get?_insert]
    split
    · exact ⟨_, rfl⟩
    · exact hf x hx

theorem store_slotted (value : Option Operand) (slot : Option Slot) (f : Frame) :
    Slotted f (store value slot) := by
  unfold store
  split
  · split
    · exact .of_exec_ok rfl trivial
    · exact .throw rfl
  · exact .throw rfl

/-- Only a store can want a slot, and it stores into a variable that has one. -/
theorem FrameStep.slotted {stored : String → Prop} {prints : Prop} {α : Type} {m : Emit α} {f : Frame}
    (h : FrameStep stored prints α m) (hf : Covers stored f) : Slotted f m := by
  cases h with
  | straight h =>
    cases h with
    | say line => exact .of_exec_ok rfl trivial
    | append base hop => exact .of_exec_ok rfl trivial
    | text _ text =>
      have hexec := exec_formatGlobal text f
      dsimp only at hexec
      split at hexec
      · exact .of_exec_error hexec rfl
      · split at hexec
        · exact .of_exec_ok hexec trivial
        · exact .of_exec_error hexec rfl
    | showModule =>
      refine .get ?_
      split
      · exact .throw rfl
      · exact .of_exec_ok rfl trivial
    | @assign name hname value =>
      obtain ⟨slot, hslot⟩ := hf name hname
      refine .get ?_
      rw [hslot]
      exact store_slotted value slot f
  | terminate op =>
    have hexec := exec_terminate op f
    split at hexec
    · exact .of_exec_error hexec rfl
    · exact .of_exec_ok hexec trivial
  | addBlock | moveTo | bindSlot => exact .of_exec_ok rfl trivial

/-- Code that stores into covered variables only does not fail for want of a slot. -/
theorem Composed.slotted {known stored : String → Prop} {α : Type} {m : Emit α}
    (h : BodyCode known stored True m) {f : Frame} (hf : Covers stored f) : Slotted f m := by
  induction h generalizing f with
  | basic h => exact h.slotted hf
  | pure a => exact .pure trivial
  | throw fault hfault => exact .throw hfault
  | bind hx hk ihx ihk =>
    refine (ihx hf).afterOk fun a f₁ hexec _ => ihk a ?_
    exact (Composed.preserves FrameStep.keepsCovered hx).of_exec hexec hf
  | read hk hview ihk => exact .get (ihk f hf)

/-! ### What the first walk provides -/

/-- What an assignment enters in the table: its variable and the type of the slot that it asks for.  Without a
type, the variable takes the slot that was made last. -/
def entryOf? : Stmt → Option (String × Option Ty)
  | .assign [.name x] value =>
    match slotPlan value with
    | .fresh request => some (x, some request.ty)
    | .reuse => some (x, none)
    | .skip _ => none
  | _ => none

/-- What a suite enters in the table, in order. -/
def entriesOf (body : List Stmt) : List (String × Option Ty) :=
  (Stmt.reachedAll body).filterMap entryOf?

section Entries

variable {x : String} {value : Expr} {request : SlotRequest} {s : Stmt} (rest : List Stmt)

theorem entryOf?_fresh (h : slotPlan value = .fresh request) :
    entryOf? (.assign [.name x] value) = some (x, some request.ty) := by
  rw [entryOf?, h]

theorem entryOf?_reuse (h : slotPlan value = .reuse) :
    entryOf? (.assign [.name x] value) = some (x, none) := by
  rw [entryOf?, h]

theorem entryOf?_of_isPassed (h : s.isPassed = true) : s.reached = [s] ∧ entryOf? s = none := by
  unfold Stmt.isPassed at h
  split at h
  · cases h
  · rename_i value
    cases hplan : slotPlan value with
    | skip reason => exact ⟨rfl, by rw [entryOf?, hplan]⟩
    | _ => simp [hplan] at h
  · rename_i hcond hassign
    refine ⟨?_, ?_⟩
    · unfold Stmt.reached
      split
      · exact absurd rfl (hcond _ _ _)
      · rfl
    · unfold entryOf?
      split
      · exact absurd rfl (hassign _ _)
      · rfl

theorem entriesOf_cons (h : s.reached = [s]) :
    entriesOf (s :: rest) = (entryOf? s).toList ++ entriesOf rest := by
  rw [entriesOf, Stmt.reachedAll, h, List.filterMap_append]
  cases hs : entryOf? s <;> simp [hs, entriesOf]

theorem entriesOf_cond (test : Expr) (body orelse : List Stmt) :
    entriesOf (.cond test body orelse :: rest) =
      entriesOf body ++ (entriesOf orelse ++ entriesOf rest) := by
  simp [entriesOf, Stmt.reachedAll, Stmt.reached, entryOf?, List.filterMap_cons]

theorem entryOf?_of_stored (h : x ∈ s.storedVariable?) : ∃ ty, entryOf? s = some (x, some ty) := by
  unfold Stmt.storedVariable? at h
  split at h
  · rename_i y value
    cases hplan : slotPlan value with
    | fresh request =>
      obtain rfl : y = x := by simpa [hplan, SlotPlan.isFresh] using h
      exact ⟨request.ty, entryOf?_fresh hplan⟩
    | _ => simp [hplan, SlotPlan.isFresh] at h
  · cases h

end Entries

/-- The slot that the variable was bound to has the type that was asked for. -/
def Answers (asked : String × Option Ty) (entry : String × Slot) : Prop :=
  asked.1 = entry.1 ∧ ∀ ty, asked.2 = some ty → entry.2.ty = ty

/-- The walk binds what the suite enters in the table. -/
theorem Allots.answers {last : Option Slot} {body : List Stmt} {made : List Slot}
    {bound : List (String × Slot)} (h : Allots last body made bound) :
    List.Forall₂ Answers (entriesOf body) bound := by
  induction h with
  | nil => exact .nil
  | fresh hplan hrest ih =>
    rw [entriesOf_cons _ (Stmt.reached_of_isSimple rfl), entryOf?_fresh hplan]
    refine .cons ⟨rfl, ?_⟩ ih
    rintro _ ⟨⟩
    rfl
  | reuse hplan hrest ih =>
    rw [entriesOf_cons _ (Stmt.reached_of_isSimple rfl), entryOf?_reuse hplan]
    exact .cons ⟨rfl, nofun⟩ ih
  | branch hbody horelse hrest ihbody ihorelse ihrest =>
    rw [entriesOf_cond]
    exact List.rel_append ihbody (List.rel_append ihorelse ihrest)
  | pass hpass hrest ih =>
    obtain ⟨hreached, hnone⟩ := entryOf?_of_isPassed hpass
    rw [entriesOf_cons _ hreached, hnone]
    exact ih

/-- A name that was bound has the slot that it was bound to last. -/
theorem Reserves.exists_slot {f f' : Frame} {made : List Slot} {bound : List (String × Slot)}
    (h : Reserves f f' made bound) {x : String} {slot : Slot} (hx : (x, slot) ∈ bound) :
    ∃ last, f'.locals.get? x = some (some last) ∧ (x, last) ∈ bound := by
  cases hlookup : bound.reverse.lookup x with
  | none =>
    have hne := List.lookup_eq_none_iff.mp hlookup (x, slot) (List.mem_reverse.mpr hx)
    simp at hne
  | some last =>
    refine ⟨last, ?_, List.mem_reverse.mp (mem_of_lookup hlookup)⟩
    rw [h.locals, get?_bindAll, hlookup]
    rfl

/-- The variables that the statements of a body store into. -/
def StoredIn (body : List Stmt) (x : String) : Prop :=
  ∃ s ∈ Stmt.reachedAll body, x ∈ s.storedVariable?

theorem allocate_covers {body : List Stmt} {f f' : Frame} (h : exec (allocate body) f = (.ok (), f')) :
    ∀ x, StoredIn body x → ∃ slot, f'.locals.get? x = some (some slot) := by
  rintro x ⟨s, hs, hx⟩
  obtain ⟨made, bound, hallots, hreserves⟩ := allots_of_exec.2 none body h
  obtain ⟨ty, hentry⟩ := entryOf?_of_stored hx
  obtain ⟨⟨y, slot⟩, hslot, rfl, -⟩ :=
    exists_of_forall₂_left hallots.answers (List.mem_filterMap.mpr ⟨s, hs, hentry⟩)
  obtain ⟨last, hlast, -⟩ := hreserves.exists_slot hslot
  exact ⟨last, hlast⟩

/-- No body fails for want of a slot, whatever the maps and however it ends. -/
theorem functionBody_slotted (result : Ty) (body : List Stmt) (f : Frame) :
    Slotted f (functionBody result body) := by
  have hallocate : BodyCode (fun _ => True) (fun _ => False) True (allocate body) :=
    allocateSuite_code.2 none body
  have hlower : BodyCode (fun _ => True) (StoredIn body) True (lowerBody result false body) :=
    lowerBody_code result false (fun _ _ => trivial) fun s hs x hx => ⟨s, hs, hx⟩
  have hstatements : Slotted f (lowerStatements result body) := by
    refine (hallocate.slotted nofun).afterOk fun _ f₁ hexec _ => ?_
    have hcovers : Covers (StoredIn body) f₁ := fun x hx =>
      (allocate_covers hexec x hx).imp' some fun _ h => h
    have hrest : BodyCode (fun _ => True) (StoredIn body) True (do
        Emit.say ("Local symbol table: " ++ namesList (← get).locals.keys)
        lowerBody result false body) :=
      .read (fun g => .bind (say_bodyCode _) fun _ => hlower) fun g g' h => by simp only [h.locals]
    exact hrest.slotted hcovers
  have hend : BodyCode (fun _ => True) (fun _ => False) True (terminate (.ret (Operand.int Ty.i32 0))) :=
    terminate_code _
  refine hstatements.bind fun returned f₂ _ => ?_
  cases returned with
  | true => exact .pure trivial
  | false => exact hend.slotted nofun

/-! ### Slots of the stored type -/

/-- The type of what is stored, for values whose form shows it: constants, words that a helper gives and
results of operations. -/
def storedType? : Expr → Option Ty
  | .const (.bool _) _ => some Ty.i1
  | .const (.int _) _ => some Ty.i64
  | .call (.name id) args _ =>
    match integerType? id, soleLiteral? args, Helper.ofName? id with
    | some (width, _), some _, _ => some (.int width)
    | _, _, some .ktime | _, _, some .pid => some Ty.i64
    | _, _, _ => none
  | .binary .. => some Ty.i64
  | _ => none

/-- Each assignment that is entered in the table makes a slot of its own, and the slots that are made for one
variable have one type. -/
def OwnSlots (body : List Stmt) : Prop :=
  (∀ entry ∈ entriesOf body, entry.2.isSome = true) ∧
    ∀ entry ∈ entriesOf body, ∀ entry' ∈ entriesOf body, entry.1 = entry'.1 → entry.2 = entry'.2

instance (body : List Stmt) : Decidable (OwnSlots body) := inferInstanceAs (Decidable (_ ∧ _))

/-- No helper has the name of a type. -/
theorem integerType?_of_helper {id : String} {helper : Helper} (h : Helper.ofName? id = some helper) :
    integerType? id = none := by
  unfold Helper.ofName? at h
  split at h <;> first | rfl | cases h

/-- A call whose type shows converts a literal, or it gives the time or the process number. -/
theorem storedType?_call {id : String} {args : List Expr} {keywords : List (Option String × Expr)}
    {ty : Ty} (h : storedType? (.call (.name id) args keywords) = some ty) :
    (∃ width name value, integerType? id = some (width, name) ∧ soleLiteral? args = some value ∧
      ty = .int width) ∨
    ∃ helper, Helper.ofName? id = some helper ∧ (helper = .ktime ∨ helper = .pid) ∧ ty = Ty.i64 := by
  rw [storedType?] at h
  split at h
  · rename_i width name value hid hargs
    exact .inl ⟨width, name, value, hid, hargs, (Option.some.inj h).symm⟩
  · rename_i hhelper _
    exact .inr ⟨_, hhelper, .inl rfl, (Option.some.inj h).symm⟩
  · rename_i hhelper _
    exact .inr ⟨_, hhelper, .inr rfl, (Option.some.inj h).symm⟩
  · cases h

/-- A value whose type shows asks for a slot of that type. -/
theorem slotPlan_of_storedType? {value : Expr} {ty : Ty} (h : storedType? value = some ty) :
    ∃ request, slotPlan value = .fresh request ∧ request.ty = ty := by
  unfold storedType? at h
  split at h
  · obtain rfl := Option.some.inj h
    exact ⟨_, rfl, rfl⟩
  · obtain rfl := Option.some.inj h
    exact ⟨_, rfl, rfl⟩
  · rename_i id args keywords
    have hcall : storedType? (.call (.name id) args keywords) = some ty := h
    rw [slotPlan]
    rcases storedType?_call hcall with
      ⟨width, name, value, hid, -, rfl⟩ | ⟨helper, hhelper, -, rfl⟩
    · rw [hid]
      exact ⟨_, rfl, rfl⟩
    · rw [integerType?_of_helper hhelper, hhelper]
      exact ⟨_, rfl, rfl⟩
  · obtain rfl := Option.some.inj h
    exact ⟨_, rfl, rfl⟩
  · cases h

/-- The instruction stores into the slot, and what it stores has the type of the slot, if it is a store at
all. -/
def SuitsSlot (slot : Slot) (i : Inst) : Prop :=
  ∀ value address, i.op = .store value address → address = slot.address ∧ value.ty = slot.ty

/-- The step appended code that suits the slot. -/
def Fitting (slot : Slot) (f f' : Frame) : Prop :=
  ∃ new, Straight f f' new ∧ ∀ i ∈ new, SuitsSlot slot i

namespace Fitting

variable {slot : Slot} {f f₁ f₂ : Frame}

theorem refl (f : Frame) : Fitting slot f f := ⟨[], Straight.refl f, by simp⟩

theorem trans (h : Fitting slot f f₁) (h' : Fitting slot f₁ f₂) : Fitting slot f f₂ := by
  obtain ⟨first, hstraight, hfirst⟩ := h
  obtain ⟨second, hstraight', hsecond⟩ := h'
  refine ⟨first ++ second, hstraight.trans hstraight', fun i hi => ?_⟩
  exact (List.mem_append.mp hi).elim (hfirst i) (hsecond i)

theorem locals (h : Fitting slot f f₁) : f₁.locals = f.locals := by
  obtain ⟨new, hstraight, -⟩ := h
  exact hstraight.locals

end Fitting

/-- The step appended code that suits the slot before it failed, but not for a store into a slot of another
type. -/
def FailsFitting (slot : Slot) (fault : Fault) (f f' : Frame) : Prop :=
  Fitting slot f f' ∧ fault ≠ .storeMismatch

instance (slot : Slot) : Composable (Fitting slot) (FailsFitting slot) where
  ready _ := .refl _
  trans := Fitting.trans
  fault h h' := ⟨h.trans h'.1, h'.2⟩

instance (slot : Slot) : AllowsLog (Fitting slot) := ⟨fun _ h => ⟨[], h, by simp⟩⟩

/-- However the action ends from the frame, it is not for a store into a slot of another type, and what it
appends suits the slot.  If it succeeds, its result satisfies the condition. -/
def Suits (slot : Slot) (f : Frame) {α : Type} (m : Emit α) (Q : α → Prop) : Prop :=
  Leads (Fitting slot) (FailsFitting slot) f m fun a _ => Q a

namespace Suits

variable {slot : Slot} {f : Frame} {α : Type} {Q : α → Prop} {m : Emit α}

theorem fault {fault : Fault} (h : fault ≠ .storeMismatch) :
    Suits slot f (throw fault : Emit α) Q :=
  Leads.throw ⟨.refl f, h⟩

theorem append {op : Op} (hop : op.isTerminator = false)
    (hstore : ∀ value address, op = .store value address →
      address = slot.address ∧ value.ty = slot.ty) :
    Suits slot f (Emit.append op) fun i => i.op = op :=
  fun _ => Ends.append hop fun _ _ hstraight => ⟨⟨_, hstraight, by simpa [SuitsSlot] using hstore⟩, rfl⟩

theorem fits (h : Suits slot f m Q) : (exec m f).1 ≠ .error .storeMismatch :=
  fun herror => ((h (.refl f)).error (Prod.ext herror rfl)).2 rfl

theorem stores (h : Suits slot f m Q) : Fitting slot f (exec m f).2 := by
  cases hexec : exec m f with
  | mk outcome f' =>
    cases outcome with
    | ok a => exact ((h (.refl f)).ok hexec).1
    | error fault => exact ((h (.refl f)).error hexec).1

end Suits

section Operations

variable {slot : Slot} {f : Frame}

theorem checkShown_suits (o : Operand) : Suits slot f (checkShown o) fun _ => True := by
  unfold checkShown
  split
  · exact Suits.fault nofun
  · exact .pure trivial

theorem showModule_suits : Suits slot f showModule fun _ => True := by
  refine .get ?_
  split
  · exact Suits.fault nofun
  · exact .say _

theorem assign_suits {x : String} {o : Operand} (hslot : f.locals.get? x = some (some slot))
    (ho : o.ty = slot.ty) : Suits slot f (assign x (some o)) fun _ => True := by
  refine .get ?_
  rw [hslot]
  change Suits slot f (if slot.ty.agrees o.ty then _ else _) fun _ => True
  rw [ho, Ty.agrees_self, if_pos rfl]
  refine .bind (Suits.append rfl ?_) fun _ _ _ _ => .pure trivial
  rintro value address ⟨⟩
  exact ⟨rfl, ho⟩

theorem load_suits (ty : Ty) (source : Operand) :
    Suits slot f (append (.load ty source)) fun i => i.op = .load ty source :=
  Suits.append rfl nofun

/-- Reading through pointers ends with a word. -/
theorem chase_suits (ty : Ty) (source : Operand) :
    Suits slot f (chase ty source) fun i => i.result.ty = Ty.i64 := by
  induction ty, source using chase.induct generalizing f with
  | case1 t source ih =>
    rw [chase]
    exact .bind (load_suits _ _) fun i f₁ _ _ => ih i
  | case2 source =>
    rw [chase]
    exact (load_suits _ _).weaken fun i _ hi => ty_result hi rfl
  | case3 ty source hptr hword =>
    rw [chase]
    · exact .bind (load_suits _ _) fun _ _ _ _ => Suits.fault (by simp)
    · exact hptr
    · exact hword

theorem arithOperand_suits {fault : Fault} (hfault : fault ≠ .storeMismatch) (e : Expr) :
    Suits slot f (arithOperand fault e) fun out => out.1.ty = Ty.i64 := by
  unfold arithOperand
  split
  · refine .get ?_
    split
    · rename_i source _
      refine .bind (P := fun i _ => i.result.ty = Ty.i64) ?_ fun i f₁ _ hi => .pure hi
      unfold dereference
      split
      · exact chase_suits _ _
      · exact Suits.fault nofun
    · exact Suits.fault nofun
  · exact .pure rfl
  · exact Suits.fault hfault

theorem arith_suits (op : Arith) {lhs rhs : Operand} (hlhs : lhs.ty = Ty.i64) :
    Suits slot f (arith op lhs rhs) fun o => o.ty = Ty.i64 := by
  unfold arith
  split
  · exact .bind (Suits.append rfl nofun) fun i f₁ _ hi => .pure (ty_result hi (congrArg some hlhs))
  · exact Suits.fault nofun

theorem callKernel_suits (s : Signature) (args : List Operand) :
    Suits slot f (callKernel s args) fun o => o.ty = s.result := by
  refine .bind (Suits.append rfl nofun) fun callee f₁ _ _ => ?_
  split
  · exact .bind (Suits.append rfl nofun) fun i f₂ _ hi => .pure (ty_result hi rfl)
  · exact Suits.fault nofun

theorem assignConstant_suits {x : String} {value : Literal} {o : Operand}
    (hconstant : constantOperand? value = some o) (hslot : f.locals.get? x = some (some slot))
    (ho : o.ty = slot.ty) : Suits slot f (assignConstant x value) fun _ => True := by
  unfold assignConstant
  rw [hconstant]
  exact .bind (assign_suits hslot ho) fun _ _ _ _ => .bind (checkShown_suits o) fun _ _ _ _ => .say _

theorem assignBinary_suits {x : String} (left : Expr) (op : BinaryOp) (right : Expr)
    (hslot : f.locals.get? x = some (some slot)) (hword : slot.ty = Ty.i64) :
    Suits slot f (assignBinary x left op right) fun _ => True := by
  refine .bind showModule_suits fun _ f₁ h₁ _ => ?_
  refine .bind (arithOperand_suits (by simp) left) fun ⟨l, leftText⟩ f₂ h₂ hl => ?_
  refine .bind (arithOperand_suits (by simp) right) fun ⟨r, rightText⟩ f₃ h₃ hr => ?_
  refine .bind (checkShown_suits l) fun _ f₄ h₄ _ => ?_
  refine .bind (checkShown_suits r) fun _ f₅ h₅ _ => ?_
  refine .bind (.say _) fun _ f₆ h₆ _ => ?_
  split
  · refine .bind (arith_suits _ hl) fun o f₇ h₇ ho => assign_suits ?_ (ho.trans hword.symm)
    rw [h₇.locals, h₆.locals, h₅.locals, h₄.locals, h₃.locals, h₂.locals, h₁.locals, hslot]
  · exact Suits.fault nofun

theorem assignHelper_suits {x : String} {helper : Helper} {args : List Expr} (id : String)
    (hhelper : helper = .ktime ∨ helper = .pid) (hslot : f.locals.get? x = some (some slot))
    (hword : slot.ty = Ty.i64) :
    Suits slot f (do
      assign x (← callPlain false helper args)
      say ("Assigned constant " ++ id ++ " to " ++ x)) fun _ => True := by
  have hcall : Suits slot f (callPlain false helper args) fun value =>
      ∃ o, value = some o ∧ o.ty = Ty.i64 := by
    rcases hhelper with rfl | rfl
    · exact .bind (callKernel_suits .ktime []) fun o _ _ ho => .pure ⟨o, rfl, ho⟩
    · exact .bind (.bind (callKernel_suits .pidTgid []) fun both _ _ hboth => arith_suits _ hboth)
        fun o _ _ ho => .pure ⟨o, rfl, ho⟩
  refine .bind hcall fun value f₁ h₁ hvalue => ?_
  obtain ⟨o, rfl, ho⟩ := hvalue
  exact .bind (assign_suits (by rw [h₁.locals, hslot]) (ho.trans hword.symm)) fun _ _ _ _ => .say _

theorem assignCall_suits {x id : String} {args : List Expr} {keywords : List (Option String × Expr)}
    (hty : storedType? (.call (.name id) args keywords) = some slot.ty)
    (hslot : f.locals.get? x = some (some slot)) :
    Suits slot f (assignCall x id args) fun _ => True := by
  unfold assignCall
  refine .bind (.say _) fun _ f₁ h₁ _ => ?_
  have hslot₁ : f₁.locals.get? x = some (some slot) := by rw [h₁.locals, hslot]
  rcases storedType?_call hty with
    ⟨width, name, value, hid, hargs, hwidth⟩ | ⟨helper, hhelper, hword, hslotTy⟩
  · rw [hid, hargs]
    exact .bind (assign_suits hslot₁ hwidth.symm) fun _ _ _ _ =>
      .bind (checkShown_suits _) fun _ _ _ _ => .say _
  · rw [integerType?_of_helper hhelper, hhelper]
    exact assignHelper_suits id hword hslot₁ hslotTy

/-- An assignment of a value whose type shows suits a slot of that type. -/
theorem assignValue_suits {x : String} {value : Expr} (hty : storedType? value = some slot.ty)
    (hslot : f.locals.get? x = some (some slot)) :
    Suits slot f (assignValue x value) fun _ => True := by
  unfold storedType? at hty
  split at hty
  · rename_i b marked
    have hconstant : constantOperand? (.bool b) = some (Operand.int Ty.i1 (if b then 1 else 0)) := rfl
    exact assignConstant_suits hconstant hslot (Option.some.inj hty)
  · rename_i n marked
    have hconstant : constantOperand? (.int n) = some (Operand.int Ty.i64 n) := rfl
    exact assignConstant_suits hconstant hslot (Option.some.inj hty)
  · rename_i id args keywords
    have hcall : storedType? (.call (.name id) args keywords) = some slot.ty := hty
    exact assignCall_suits hcall hslot
  · exact assignBinary_suits _ _ _ hslot (Option.some.inj hty).symm
  · cases hty

end Operations

theorem isStored_of_storedType? {value : Expr} {ty : Ty} (h : storedType? value = some ty)
    (maps : Table Operand) (locals : Table (Option Slot)) : isStored maps locals value = true := by
  unfold storedType? at h
  split at h
  · rfl
  · rfl
  · rename_i id args keywords
    have hcall : storedType? (.call (.name id) args keywords) = some ty := h
    rcases storedType?_call hcall with
      ⟨width, name, value, hid, hargs, -⟩ | ⟨helper, hhelper, -⟩
    · simp [isStored, hid, hargs]
    · simp [isStored, hhelper]
  · rfl
  · cases h

theorem slotPlan_of_isStored {maps : Table Operand} {locals : Table (Option Slot)} {value : Expr}
    (h : isStored maps locals value = true) : (slotPlan value).isFresh = true := by
  unfold isStored at h
  split at h
  · rename_i literal marked
    cases literal <;> first | rfl | cases h
  · rename_i id args keywords
    apply slotPlan_call_isFresh
    rw [Bool.or_eq_true, Bool.or_eq_true, Bool.and_eq_true] at h
    rcases h with (⟨htype, -⟩ | hhelper) | hderef
    · exact .inl htype
    · exact .inr (.inl hhelper)
    · obtain ⟨hid, x, slot, rfl, -⟩ := readsThrough_inv hderef
      exact .inr (.inr ⟨hid, rfl⟩)
  · rfl
  · rfl
  · cases h

/-- The assignment stores into the slot only, values of its type, and it does not fail for a mismatch.  If it
succeeds, it has stored. -/
structure Fills (slot : Slot) (x : String) (value : Expr) (f : Frame) : Prop where
  fits : (exec (assignValue x value) f).1 ≠ .error .storeMismatch
  stores : ∃ new, Straight f (exec (assignValue x value) f).2 new ∧ ∀ i ∈ new, SuitsSlot slot i
  stored : Adds (StoresTo f.locals x) f (assignValue x value)

/-- The two walks over a body agree.  No body fails for want of a slot; every assignment that stores has had a
slot made for its variable; and where assignments make slots of their own, of one type for each variable, a value
whose type shows finds a slot of exactly its type. -/
theorem functionBody_findsSlots (result : Ty) (body : List Stmt) (f : Frame) :
    (∀ x, (Fault.noSlot x).className = "KeyError" ∧
      (exec (functionBody result body) f).1 ≠ .error (.noSlot x)) ∧
    ∀ f₁, exec (allocate body) f = (.ok (), f₁) →
      (∀ x value maps, .assign [.name x] value ∈ Stmt.reachedAll body →
        isStored maps f₁.locals value = true → ∃ slot, f₁.locals.get? x = some (some slot)) ∧
      (OwnSlots body → ∀ x value ty, .assign [.name x] value ∈ Stmt.reachedAll body →
        storedType? value = some ty →
          ∃ slot, f₁.locals.get? x = some (some slot) ∧ slot.ty = ty ∧
            ∀ f₂ : Frame, f₂.locals = f₁.locals → Fills slot x value f₂) := by
  refine ⟨fun x => ⟨rfl, fun herror => ?_⟩, fun f₁ hallocate => ⟨?_, ?_⟩⟩
  · cases (functionBody_slotted result body f).error (Prod.ext herror rfl)
  · intro x value maps hmem hstored
    refine allocate_covers hallocate x ⟨_, hmem, ?_⟩
    simp [Stmt.storedVariable?, slotPlan_of_isStored hstored]
  · intro hown x value ty hmem hty
    obtain ⟨made, bound, hallots, hreserves⟩ := allots_of_exec.2 none body hallocate
    obtain ⟨request, hplan, rfl⟩ := slotPlan_of_storedType? hty
    have hentry : (x, some request.ty) ∈ entriesOf body :=
      List.mem_filterMap.mpr ⟨_, hmem, entryOf?_fresh hplan⟩
    obtain ⟨⟨_, first⟩, hbound, rfl, -⟩ := exists_of_forall₂_left hallots.answers hentry
    obtain ⟨slot, hslot, hlast⟩ := hreserves.exists_slot hbound
    have hslotTy : slot.ty = request.ty := by
      -- the last assignment to the variable asked for the same type
      obtain ⟨asked, hasked, hname, hanswers⟩ := exists_of_forall₂_left hallots.answers.flip hlast
      exact hanswers _ (hown.2 asked hasked _ hentry hname)
    refine ⟨slot, hslot, hslotTy, fun f₂ hlocals => ?_⟩
    have hsuits : Suits slot f₂ (assignValue x value) fun _ => True :=
      assignValue_suits (by rw [hty, hslotTy]) (by rw [hlocals, hslot])
    exact ⟨hsuits.fits, hsuits.stores,
      assignValue_adds rfl rfl x (isStored_of_storedType? hty f₂.workspace.maps f₂.locals)⟩

/-- The frame of a program before anything is built in it, in a module with the given maps. -/
def bareFrame (maps : Table Operand) : Frame :=
  Frame.start (Compile.start "p.py" maps) (IR.Function.declare "f" Ty.i64 [] true Text.empty)

/-- `n = 1`, `if n:` with `n = n + 1` and `t = ktime()`, and `k = c_int32(4)`. -/
def mixedStores : List Stmt :=
  [.assign [.name "n"] (.const (.int 1) false),
    .cond (.name "n") [.assign [.name "n"] (.binary (.name "n") .add (.const (.int 1) false)),
      .assign [.name "t"] (.call (.name "ktime") [] [])] [],
    .assign [.name "k"] (.call (.name "c_int32") [.const (.int 4) false] [])]

/-- Each kind of store finds its slot, also where a variable is assigned twice. -/
theorem mixedStores_findSlots :
    OwnSlots mixedStores ∧ (exec (functionBody Ty.i64 mixedStores) (bareFrame Table.empty)).1.isOk = true ∧
    ∃ f₁, exec (allocate mixedStores) (bareFrame Table.empty) = (.ok (), f₁) ∧
      (∃ slot, f₁.locals.get? "t" = some (some slot)) ∧
      ∃ slot, f₁.locals.get? "k" = some (some slot) ∧ slot.ty = Ty.i32 ∧
        ∀ f₂ : Frame, f₂.locals = f₁.locals →
          Fills slot "k" (.call (.name "c_int32") [.const (.int 4) false] []) f₂ := by
  have hown : OwnSlots mixedStores := by decide +kernel
  have hrun : (exec (functionBody Ty.i64 mixedStores) (bareFrame Table.empty)).1.isOk = true ∧
      (exec (allocate mixedStores) (bareFrame Table.empty)).1.isOk = true := by
    decide +kernel
  obtain ⟨⟨⟩, f₁, hexec⟩ := exec_of_isOk hrun.2
  obtain ⟨hcovered, htyped⟩ := (functionBody_findsSlots Ty.i64 mixedStores _).2 f₁ hexec
  refine ⟨hown, hrun.1, f₁, hexec, ?_, ?_⟩
  · exact hcovered "t" (.call (.name "ktime") [] []) Table.empty
      (by simp [mixedStores, Stmt.reachedAll, Stmt.reached]) rfl
  · exact htyped hown "k" _ _ (by simp [mixedStores, Stmt.reachedAll, Stmt.reached]) rfl

/-- `x = m().ktime()`, for a map `m`. -/
def mapClock : List Stmt :=
  [.assign [.name "x"] (.call (.attribute (.call (.name "m") [] []) "ktime") [] [])]

/-- The time that is asked of a map is stored into a slot for a pointer, and the types differ. -/
theorem mapClock_storeMismatch :
    OwnSlots mapClock ∧ ∃ maps : Table Operand,
      (exec (allocate mapClock) (bareFrame maps)).1.isOk = true ∧
      (exec (functionBody Ty.i64 mapClock) (bareFrame maps)).1 = .error .storeMismatch := by
  refine ⟨by decide +kernel, Table.empty.insert "m" (.global "m" (.ptr Ty.i64)), ?_⟩
  decide +kernel

end BpfCompiler.Lower
