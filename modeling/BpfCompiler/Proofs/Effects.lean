import BpfCompiler.Proofs.StraightLine

/-!
# What an action is sure to add

A step that succeeds may have passed something over, so success alone does not tell what was emitted.
`Lays f m Q` says that `m`, when it succeeds from the frame `f`, has appended code that satisfies `Q` with its
result.  Two cases of it are used most: `Adds P f m`, that an instruction with the property `P` was appended, and
`Silent f m`, that nothing was.  They are proved along the sequence of steps: one step that adds is enough, and
all of them have to be silent.
-/

namespace BpfCompiler.IR

def Op.isCall : Op → Bool
  | .call .. => true
  | _ => false

def Op.isStore : Op → Bool
  | .store .. => true
  | _ => false

end BpfCompiler.IR

namespace BpfCompiler.Lower

open IR Syntax Emit

variable {α β : Type}

/-- The tables that a statement is lowered with are the same. -/
structure SameTables (f f' : Frame) : Prop where
  locals : f'.locals = f.locals
  maps : f'.workspace.maps = f.workspace.maps

theorem Straight.sameTables {f f' : Frame} {new : List Inst} (h : Straight f f' new) :
    SameTables f f' :=
  ⟨h.locals, h.maps⟩

theorem SameTables.trans {f f₁ f₂ : Frame} (h : SameTables f f₁) (h' : SameTables f₁ f₂) :
    SameTables f f₂ :=
  ⟨h'.locals.trans h.locals, h'.maps.trans h.maps⟩

/-! ### Code that is appended -/

def Lays (f : Frame) (m : Emit α) (Q : α → List Inst → Prop) : Prop :=
  Ends f m (fun a f' => ∃ code, Straight f f' code ∧ Q a code) AnyFault

namespace Lays

variable {f : Frame} {P : α → List Inst → Prop} {Q : β → List Inst → Prop}

theorem pure {b : β} (h : Q b []) : Lays f (Pure.pure b) Q := Ends.pure ⟨[], Straight.refl f, h⟩

theorem say {line : Text} {Q : Unit → List Inst → Prop} (h : Q () []) : Lays f (Emit.say line) Q :=
  Ends.say fun _ hstraight => ⟨[], hstraight, h⟩

theorem get {k : Frame → Emit β} (hk : Lays f (k f) Q) : Lays f (MonadState.get >>= k) Q :=
  Ends.get hk

theorem lift {x : Except Fault α} {k : α → Emit β} (hk : ∀ a, x = .ok a → Lays f (k a) Q) :
    Lays f (liftM x >>= k) Q := Ends.lift hk fun _ _ => trivial

theorem append {op : Op} {Q : Inst → List Inst → Prop} (hop : op.isTerminator = false)
    (h : ∀ name, Q ⟨name, op⟩ [⟨name, op⟩]) : Lays f (Emit.append op) Q :=
  Ends.append hop fun name _ hstraight => ⟨_, hstraight, h name⟩

theorem of_straightLine {m : Emit β} (hm : Preserves StraightLine m) (h : ∀ b code, Q b code) :
    Lays f m Q :=
  .of_ok fun b _ hexec => (hm.of_exec hexec).imp fun code hcode => ⟨hcode, h b code⟩

theorem mono {Q' : β → List Inst → Prop} {m : Emit β} (h : Lays f m Q)
    (hQ : ∀ b code, Q b code → Q' b code) : Lays f m Q' :=
  h.weaken fun b _ => Exists.imp fun code hcode => ⟨hcode.1, hQ b code hcode.2⟩

/-- The code of a sequence is that of its first step, and then that of the rest. -/
theorem afterOk {x : Emit α} {k : α → Emit β} (hx : Lays f x P)
    (hk : ∀ a f₁ code, exec x f = (.ok a, f₁) → SameTables f f₁ → P a code →
      Lays f₁ (k a) fun b more => Q b (code ++ more)) : Lays f (x >>= k) Q := by
  refine Ends.afterOk hx fun a f₁ hexec ⟨code, hcode, ha⟩ => ?_
  refine (hk a f₁ code hexec hcode.sameTables ha).weaken fun b f' ⟨more, hmore, hb⟩ => ?_
  exact ⟨code ++ more, hcode.trans hmore, hb⟩

end Lays

/-! ### Adding an instruction -/

def Adds (P : Inst → Prop) (f : Frame) (m : Emit α) : Prop := Lays f m fun _ code => ∃ i ∈ code, P i

namespace Adds

variable {P : Inst → Prop} {f : Frame}

theorem append {op : Op} (hop : op.isTerminator = false) (hP : ∀ name, P ⟨name, op⟩) :
    Adds P f (Emit.append op) :=
  Lays.append hop fun name => ⟨_, List.mem_singleton_self _, hP name⟩

/-- The first step adds the instruction. -/
theorem first {x : Emit α} {k : α → Emit β} (hx : Adds P f x)
    (hk : ∀ a, Preserves StraightLine (k a)) : Adds P f (x >>= k) :=
  Lays.afterOk hx fun a _ _ _ _ ⟨i, hi, hP⟩ =>
    .of_straightLine (hk a) fun _ _ => ⟨i, List.mem_append_left _ hi, hP⟩

/-- A later step adds the instruction, given how the first one ends. -/
theorem afterOk {x : Emit α} {k : α → Emit β} (hx : Preserves StraightLine x)
    (hk : ∀ a f₁, exec x f = (.ok a, f₁) → SameTables f f₁ → Adds P f₁ (k a)) :
    Adds P f (x >>= k) :=
  Lays.afterOk (P := fun _ _ => True) (.of_straightLine hx fun _ _ => trivial)
    fun a f₁ _ hexec htables _ => Lays.mono (hk a f₁ hexec htables)
      fun _ _ ⟨i, hi, hP⟩ => ⟨i, List.mem_append_right _ hi, hP⟩

/-- A later step adds the instruction. -/
theorem later {x : Emit α} {k : α → Emit β} (hx : Preserves StraightLine x)
    (hk : ∀ a f₁, SameTables f f₁ → Adds P f₁ (k a)) : Adds P f (x >>= k) :=
  afterOk hx fun a f₁ _ => hk a f₁

end Adds

/-! ### Adding nothing -/

def Silent (f : Frame) (m : Emit α) : Prop := Lays f m fun _ code => code = []

namespace Silent

variable {f : Frame}

theorem of_straight {m : Emit α}
    (h : ∀ ⦃a : α⦄ ⦃f' : Frame⦄, exec m f = (.ok a, f') → Straight f f' []) : Silent f m :=
  .of_ok fun _ _ hexec => ⟨[], h hexec, rfl⟩

theorem straight {m : Emit α} (h : Silent f m) {a : α} {f' : Frame} (hexec : exec m f = (.ok a, f')) :
    Straight f f' [] := by
  obtain ⟨_, hstraight, rfl⟩ := h.ok hexec
  exact hstraight

theorem say (line : Text) : Silent f (Emit.say line) := Lays.say rfl

/-- All steps add nothing, given how the first one ends. -/
theorem afterOk {x : Emit α} {k : α → Emit β} (hx : Silent f x)
    (hk : ∀ a f₁, exec x f = (.ok a, f₁) → SameTables f f₁ → Silent f₁ (k a)) :
    Silent f (x >>= k) := by
  refine Lays.afterOk hx fun a f₁ code hexec htables hcode => ?_
  subst hcode
  exact hk a f₁ hexec htables

theorem bind {x : Emit α} {k : α → Emit β} (hx : Silent f x)
    (hk : ∀ a f₁, SameTables f f₁ → Silent f₁ (k a)) : Silent f (x >>= k) :=
  afterOk hx fun a f₁ _ => hk a f₁

end Silent

/-! ### Stores -/

/-- The instruction writes into the slot of a variable. -/
def StoresTo (locals : Table (Option Slot)) (name : String) (i : Inst) : Prop :=
  ∃ slot value, locals.get? name = some (some slot) ∧ i.op = .store value slot.address

theorem assign_adds {f : Frame} {locals : Table (Option Slot)} (hlocals : f.locals = locals)
    (name : String) (value : Option Operand) :
    Adds (StoresTo locals name) f (assign name value) := by
  subst hlocals
  unfold assign
  refine .get ?_
  split
  · rename_i slot hslot
    unfold store
    split
    · rename_i s v
      split
      · refine Adds.first (Adds.append rfl fun register => ?_) fun _ => Preserves.pure _
        exact ⟨s, v, hslot, rfl⟩
      · exact .throw trivial
    · exact .throw trivial
  · exact .throw trivial

/-! ### Helper calls -/

def IsCall (i : Inst) : Prop := i.op.isCall = true

theorem callKernel_adds (f : Frame) (s : Signature) (args : List Operand) :
    Adds IsCall f (callKernel s args) := by
  unfold callKernel
  refine Adds.later (append_preserves rfl) fun callee f₁ _ => ?_
  split
  · exact Adds.first (Adds.append rfl fun _ => rfl) fun _ => Preserves.pure _
  · exact .throw trivial

theorem ktimeCall_adds (f : Frame) : Adds IsCall f ktimeCall := callKernel_adds f _ _

theorem pidCall_adds (f : Frame) : Adds IsCall f pidCall :=
  Adds.first (callKernel_adds f _ _) fun _ => (arith_code _ _ _).straightLine

theorem lookupCall_adds (f : Frame) (map : Operand) (args : List Expr) :
    Adds IsCall f (lookupCall map args) := by
  unfold lookupCall
  split
  · exact .throw trivial
  · refine Adds.later (argumentSlot_code _ _ _).straightLine fun slot f₁ _ => ?_
    split
    · exact callKernel_adds f₁ _ _
    · exact .throw trivial
  · exact .throw trivial

theorem deleteCall_adds (f : Frame) (map : Operand) (args : List Expr) :
    Adds IsCall f (deleteCall map args) := by
  unfold deleteCall
  split
  · refine Adds.later (argumentSlot_code _ _ _).straightLine fun slot f₁ _ => ?_
    split
    · exact callKernel_adds f₁ _ _
    · exact .throw trivial
  · exact .throw trivial

theorem updateWith_adds (f : Frame) (map : Operand) (key value : Expr) (flags : Option Expr) :
    Adds IsCall f (updateWith map key value flags) := by
  unfold updateWith
  refine Adds.later (argumentSlot_code _ _ _).straightLine fun keySlot f₁ _ => ?_
  refine Adds.later (argumentSlot_code _ _ _).straightLine fun valueSlot f₂ _ => ?_
  refine Adds.later (flagsOperand_code _).straightLine fun flags f₃ _ => ?_
  split
  · exact callKernel_adds f₃ _ _
  · exact .throw trivial

theorem updateCall_adds (f : Frame) (map : Operand) (args : List Expr) :
    Adds IsCall f (updateCall map args) := by
  unfold updateCall
  split
  · exact updateWith_adds f _ _ _ _
  · exact updateWith_adds f _ _ _ _
  · exact .throw trivial

theorem callMethod_adds (f : Frame) (map : Operand) (helper : Helper) (args : List Expr) :
    Adds IsCall f (callMethod map helper args) := by
  unfold callMethod
  cases helper with
  | lookup => exact Adds.first (lookupCall_adds f _ _) fun _ => Preserves.pure _
  | update => exact Adds.first (updateCall_adds f _ _) fun _ => Preserves.pure _
  | delete => exact Adds.first (deleteCall_adds f _ _) fun _ => Preserves.pure _
  | ktime => exact Adds.first (ktimeCall_adds f) fun _ => Preserves.pure _
  | pid => exact Adds.first (pidCall_adds f) fun _ => Preserves.pure _
  | print => exact .throw trivial

theorem printText_adds (f : Frame) (text : Text) : Adds IsCall f (printText text) := by
  unfold printText
  refine Adds.later (formatGlobal_code trivial _).straightLine fun global f₁ _ => ?_
  exact Adds.first (callKernel_adds f₁ _ _) fun _ => Preserves.pure _

theorem printParts_adds (f : Frame) (parts : List Expr) : Adds IsCall f (printParts parts) := by
  unfold printParts
  refine .lift fun ⟨format, holes⟩ _ => ?_
  refine Adds.later (formatGlobal_code trivial format).straightLine fun ⟨address, length⟩ f₁ _ => ?_
  have hcall : ∀ f₂, Adds IsCall f₂
      (do
        let values ← (holes.take 3).mapM holeArgument
        callKernel .printk (address :: Operand.int Ty.i32 length :: values)) := by
    intro f₂
    refine Adds.later (Composed.mapM fun hole _ => holeArgument_code hole).straightLine fun _ f₃ _ => ?_
    exact callKernel_adds f₃ _ _
  dsimp only
  split
  · exact Adds.later (say_preserves _) fun _ f₂ _ => hcall f₂
  · exact hcall f₁

theorem forM_printText_adds (f : Frame) {texts : List Text} (htexts : texts ≠ []) :
    Adds IsCall f (texts.forM printText) := by
  cases texts with
  | nil => exact (htexts rfl).elim
  | cons text rest =>
    refine Adds.first (printText_adds f text) fun _ => ?_
    exact (Composed.forM fun text _ => printText_code trivial text).straightLine

/-- Whether `print` is given a text at all. -/
def printsText : List Expr → Bool
  | .joined _ :: _ => true
  | args => !(args.filterMap Expr.textLiteral?).isEmpty

theorem printCall_adds (f : Frame) {args : List Expr} (htext : printsText args = true) :
    Adds IsCall f (printCall args) := by
  unfold printCall
  split
  · exact .throw trivial
  · exact Adds.first (printParts_adds f _) fun _ => Preserves.pure _
  · rename_i hjoined
    rw [printsText] at htext
    · exact Adds.first (forM_printText_adds f (by simpa using htext)) fun _ => Preserves.pure _
    · exact hjoined

/-- Whether a plain function calls the kernel, if it succeeds at all. -/
def callsPlain (helper : Helper) (args : List Expr) : Bool :=
  match helper with
  | .print => printsText args
  | _ => true

theorem callPlain_adds (f : Frame) (canPrint : Bool) {helper : Helper} {args : List Expr}
    (hcalls : callsPlain helper args = true) : Adds IsCall f (callPlain canPrint helper args) := by
  unfold callPlain
  cases helper with
  | ktime => exact Adds.first (ktimeCall_adds f) fun _ => Preserves.pure _
  | pid => exact Adds.first (pidCall_adds f) fun _ => Preserves.pure _
  | print =>
    dsimp only
    split
    · exact printCall_adds f hcalls
    · exact .throw trivial
  | _ => exact .throw trivial

end BpfCompiler.Lower
