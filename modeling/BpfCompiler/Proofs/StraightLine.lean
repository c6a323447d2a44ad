import BpfCompiler.Lower.Statement
import BpfCompiler.Proofs.Composition
import BpfCompiler.Proofs.Emission

/-!
# Expressions, conditions and assignments are straight-line code

The lowering of an expression, a condition or an assignment is put together from five steps: it logs a
line, appends an instruction that does not end the block, makes a global for a text, shows the module, or
stores into a variable.  However it ends, it has then only appended such instructions to the current block:
it makes no block, moves nowhere and leaves the variables alone.  Of the table of maps it reads the maps that
it names, and it stores only into the variables that its assignments ask slots for.
-/

namespace BpfCompiler.Syntax.Expr

/-- The map that an expression calls a method of. -/
def methodMap? : Expr → Option String
  | .call (.attribute (.call (.name map) _ _) _) _ _ => some map
  | _ => none

/-- The maps that a test calls methods of. -/
def testMaps : Expr → List String
  | .compare left rest => (left :: rest.map Prod.snd).filterMap methodMap?
  | _ => []

end BpfCompiler.Syntax.Expr

def BpfCompiler.Lower.SlotPlan.isFresh : Lower.SlotPlan → Bool
  | .fresh _ => true
  | _ => false

/-- The variable that a statement itself stores into, apart from the statements inside it. -/
def BpfCompiler.Syntax.Stmt.storedVariable? : Syntax.Stmt → Option String
  | .assign [.name x] value => if (Lower.slotPlan value).isFresh then some x else none
  | _ => none

/-- The maps that a statement itself calls methods of, apart from the statements inside it. -/
def BpfCompiler.Syntax.Stmt.usedMaps : Syntax.Stmt → List String
  | .expr value => value.methodMap?.toList
  | .assign _ value => value.methodMap?.toList
  | .cond test _ _ => test.testMaps
  | _ => []

namespace BpfCompiler.Lower

open IR Syntax Emit

/-- The steps that straight-line code is put together from, if it stores into the given variables and may
print or not. -/
inductive StraightStep (stored : String → Prop) (prints : Prop) : (α : Type) → Emit α → Prop
  | say (line : Text) : StraightStep stored prints Unit (say line)
  | append (base : String) {op : Op} (hop : op.isTerminator = false) :
      StraightStep stored prints Inst (appendNamed base op)
  | text (h : prints) (text : Text) : StraightStep stored prints (Operand × Nat) (formatGlobal text)
  | showModule : StraightStep stored prints Unit showModule
  | assign {name : String} (hname : stored name) (value : Option Operand) :
      StraightStep stored prints Unit (assign name value)

/-- Two frames that the lowering cannot tell apart as long as it asks for known maps only: the function,
the place in it and the variables are the same. -/
structure Frame.Alike (known : String → Prop) (f g : Frame) : Prop where
  fn : g.fn = f.fn
  here : g.here = f.here
  locals : g.locals = f.locals
  maps : ∀ name, known name → g.workspace.maps.get? name = f.workspace.maps.get? name

/-- Straight-line code that asks for known maps only, stores into the given variables only, and makes texts only
if it may print. -/
abbrev StraightCode (known stored : String → Prop) (prints : Prop) {α : Type} (m : Emit α) : Prop :=
  Composed (StraightStep stored prints) (Frame.Alike known) m

/-! ### What the steps do -/

/-- The frame after one more text: it is counted, and its variable has the given name scope. -/
def Frame.withText (f : Frame) (scope : NameScope) (texts : List Variable) : Frame :=
  { f with
    fn := { f.fn with formats := f.fn.formats + 1 }
    workspace := { f.workspace with
      module := { f.workspace.module with
        scope := scope
        globals := f.workspace.module.globals ++ texts.map Global.variable } } }

theorem Frame.withText_straight (f : Frame) (scope : NameScope) (texts : List Variable) :
    Straight f (f.withText scope texts) [] := by
  refine ⟨Appends.of_same ?_ rfl rfl, rfl, by simp⟩
  exact {
    workspace := ⟨f.workspace.log, scope, texts, rfl⟩
    fn := ⟨f.fn.scope, f.fn.blocks, _, rfl⟩
    position := rfl
    used := List.Subset.refl _ }

/-- The variable of a text, which has the given bytes if it has any. -/
def textVariable (name : String) (full : Text) : Option (List UInt8) → Variable
  | some data => ⟨name, .array full.length Ty.i8, "internal", true, some (.bytes data), "", some 1, none⟩
  | none => ⟨name, .array full.length Ty.i8, "", true, none, "", none, none⟩

/-- A text is counted first; then its name has to be free; and last it has to have a UTF-8 form. -/
theorem exec_formatGlobal (text : Text) (f : Frame) :
    exec (formatGlobal text) f =
      let full := text ++ "\n\x00"
      let name := formatName f.fn.name f.fn.formats
      let v := textVariable name full full.utf8?
      match f.workspace.module.scope.claim? name with
      | none => (.error (.duplicateName name), f.withText f.workspace.module.scope [])
      | some scope =>
        (if full.utf8?.isSome then .ok ((Global.variable v).address, full.length)
          else .error .noEncoding, f.withText scope [v]) := by
  rw [formatGlobal, exec_bind_ok (exec_get f)]
  dsimp only
  rw [exec_bind_ok (exec_modify _ f), exec_bind, claimGlobal, exec_bind_ok (exec_get _)]
  dsimp only
  cases f.workspace.module.scope.claim? (formatName f.fn.name f.fn.formats) with
  | none =>
    dsimp only
    rw [exec_throw, Frame.withText]
    simp
  | some scope =>
    dsimp only
    rw [exec_modify]
    cases (text ++ "\n\x00").utf8? <;> rfl

theorem formatGlobal_inv {text : Text} {global : Operand × Nat} {f f' : Frame}
    (h : exec (formatGlobal text) f = (.ok global, f')) :
    ∃ scope data, (text ++ "\n\x00").utf8? = some data ∧
      f.workspace.module.scope.claim? (formatName f.fn.name f.fn.formats) = some scope ∧
      let v := textVariable (formatName f.fn.name f.fn.formats) (text ++ "\n\x00") (some data)
      global = ((Global.variable v).address, (text ++ "\n\x00").length) ∧
        f' = f.withText scope [v] := by
  rw [exec_formatGlobal] at h
  dsimp only at h
  cases hscope : f.workspace.module.scope.claim? (formatName f.fn.name f.fn.formats) with
  | none =>
    rw [hscope] at h
    simp at h
  | some scope =>
    rw [hscope] at h
    cases hdata : (text ++ "\n\x00").utf8? with
    | none =>
      rw [hdata] at h
      simp at h
    | some data =>
      rw [hdata] at h
      obtain ⟨hglobal, hframe⟩ := Prod.mk.inj h
      exact ⟨scope, data, rfl, rfl, (Except.ok.inj hglobal).symm, hframe.symm⟩

theorem formatGlobal_preserves (text : Text) : Preserves StraightLine (formatGlobal text) := by
  intro f
  rw [exec_formatGlobal]
  dsimp only
  split
  · exact ⟨[], f.withText_straight _ _⟩
  · exact ⟨[], f.withText_straight _ _⟩

/-- The code that calls a kernel function through its number. -/
def kernelCode (s : Signature) (pointer name : String) (args : List Operand) : List Inst :=
  [⟨pointer, .cast .intToPtr (Operand.int Ty.i64 s.number) (.ptr s.ty)⟩,
    ⟨name, .call s.variadic s.result s.params s.variadic (.local pointer (.ptr s.ty)) args⟩]

theorem exec_callKernel_of_accepts {s : Signature} {args : List Operand} (h : s.accepts args = true)
    (f : Frame) :
    ∃ pointer name f', exec (callKernel s args) f = (.ok (.local name s.result), f') ∧
      Straight f f' (kernelCode s pointer name args) ∧ f'.workspace = f.workspace := by
  obtain ⟨pointer, f₁, hcast, hstraight₁⟩ :=
    exec_append (.cast .intToPtr (Operand.int Ty.i64 s.number) (.ptr s.ty)) rfl f
  obtain ⟨name, f₂, hcall, hstraight₂⟩ := exec_append
    (.call s.variadic s.result s.params s.variadic (.local pointer (.ptr s.ty)) args) rfl f₁
  have hworkspace₁ : f.workspace = f₁.workspace := congrArg (fun run => run.2.workspace) hcast
  have hworkspace₂ : f₁.workspace = f₂.workspace := congrArg (fun run => run.2.workspace) hcall
  refine ⟨pointer, name, f₂, ?_, hstraight₁.trans hstraight₂, (hworkspace₁.trans hworkspace₂).symm⟩
  rw [callKernel, exec_bind_ok hcast, if_pos h]
  exact exec_bind_ok hcall

theorem showModule_preserves : Preserves StraightLine showModule := by
  unfold showModule
  refine Preserves.bind Preserves.get fun f => ?_
  split
  · exact Preserves.throw _
  · exact say_preserves _

theorem store_preserves (value : Option Operand) (slot : Option Slot) :
    Preserves StraightLine (store value slot) := by
  unfold store
  split
  · split
    · exact Preserves.bind (append_preserves rfl) fun _ => Preserves.pure _
    · exact Preserves.throw _
  · exact Preserves.throw _

theorem assign_preserves (name : String) (value : Option Operand) :
    Preserves StraightLine (assign name value) := by
  unfold assign
  refine Preserves.bind Preserves.get fun f => ?_
  split
  · exact store_preserves value _
  · exact Preserves.throw _

theorem StraightStep.preserves {stored : String → Prop} {prints : Prop} {α : Type} {m : Emit α}
    (h : StraightStep stored prints α m) : Preserves StraightLine m := by
  cases h with
  | say line => exact say_preserves line
  | @append base op hop =>
    intro f
    obtain ⟨name, f', hexec, happends, hlocals⟩ := exec_appendNamed base op f
    rw [hexec]
    exact ⟨_, happends, hlocals, by simpa using hop⟩
  | text _ text => exact formatGlobal_preserves text
  | showModule => exact showModule_preserves
  | assign hname value => exact assign_preserves _ value

/-- Code of any maps and variables appends straight-line instructions. -/
theorem Composed.straightLine {α : Type} {m : Emit α}
    (h : StraightCode (fun _ => True) (fun _ => True) True m) : Preserves StraightLine m :=
  h.preserves StraightStep.preserves

section Code

variable {known stored : String → Prop} {prints : Prop}

theorem say_code (line : Text) : StraightCode known stored prints (say line) := .basic (.say line)

theorem append_code {op : Op} (hop : op.isTerminator = false) : StraightCode known stored prints (append op) :=
  .basic (.append "" hop)

theorem alloca_code (name : String) (ty : Ty) (align : Option Nat) :
    StraightCode known stored prints (alloca name ty align) :=
  .bind (.basic (.append name rfl)) fun _ => .pure _

theorem formatGlobal_code (hprint : prints) (text : Text) :
    StraightCode known stored prints (formatGlobal text) :=
  .basic (.text hprint text)

theorem showModule_code : StraightCode known stored prints showModule := .basic .showModule

/-! ### Operations -/

theorem checkShown_code (o : Operand) : StraightCode known stored prints (checkShown o) := by
  unfold checkShown
  split
  · exact .throw _ rfl
  · exact .pure _

theorem load_code (slot : Option Slot) : StraightCode known stored prints (load slot) := by
  unfold load
  split
  · exact append_code rfl
  · exact .throw _ rfl

theorem store_code (value : Option Operand) (slot : Option Slot) :
    StraightCode known stored prints (store value slot) := by
  unfold store
  split
  · split
    · exact .bind (append_code rfl) fun _ => .pure _
    · exact .throw _ rfl
  · exact .throw _ rfl

theorem assign_code {name : String} (hname : stored name) (value : Option Operand) :
    StraightCode known stored prints (assign name value) :=
  .basic (.assign hname value)

theorem cast_code (kind : Cast) (value : Operand) (target : Ty) :
    StraightCode known stored prints (Emit.cast kind value target) := by
  unfold Emit.cast
  split
  · exact .pure _
  · exact .bind (append_code rfl) fun _ => .pure _

theorem arith_code (op : Arith) (lhs rhs : Operand) :
    StraightCode known stored prints (arith op lhs rhs) := by
  unfold arith
  split
  · exact .bind (append_code rfl) fun _ => .pure _
  · exact .throw _ rfl

theorem compare_code (predicate : Predicate) (lhs rhs : Operand) :
    StraightCode known stored prints (Emit.compare predicate lhs rhs) :=
  .bind (append_code rfl) fun _ => .pure _

/-! ### Helper calls -/

theorem callKernel_code (s : Signature) (args : List Operand) :
    StraightCode known stored prints (callKernel s args) := by
  unfold callKernel
  refine .bind (append_code rfl) fun callee => ?_
  split
  · exact .bind (append_code rfl) fun _ => .pure _
  · exact .throw _ rfl

theorem argumentSlot_code (method : KeyMethod) (role : Role) (e : Expr) :
    StraightCode known stored prints (argumentSlot method role e) := by
  unfold argumentSlot
  split
  · refine .read (fun f => ?_) fun f g h => by simp only [h.locals]
    split
    · exact .pure _
    · exact .throw _ rfl
  · split
    · exact .bind (alloca_code _ _ _) fun _ => .throw _ rfl
    · exact .bind (alloca_code _ _ _) fun slot =>
        .bind (store_code _ _) fun _ => .pure _
  · exact .throw _ rfl

theorem flagsOperand_code (flags : Option Expr) :
    StraightCode known stored prints (flagsOperand flags) := by
  unfold flagsOperand
  split
  · exact .pure _
  · split
    · exact .pure _
    · refine .read (fun f => ?_) fun f g h => by simp only [h.locals]
      split
      · exact .bind (load_code _) fun _ => .pure _
      · exact .throw _ rfl
    · exact .throw _ rfl

theorem lookupCall_code (map : Operand) (args : List Expr) :
    StraightCode known stored prints (lookupCall map args) := by
  unfold lookupCall
  split
  · exact .throw _ rfl
  · refine .bind (argumentSlot_code _ _ _) fun slot => ?_
    split
    · exact callKernel_code _ _
    · exact .throw _ rfl
  · exact .throw _ rfl

theorem deleteCall_code (map : Operand) (args : List Expr) :
    StraightCode known stored prints (deleteCall map args) := by
  unfold deleteCall
  split
  · refine .bind (argumentSlot_code _ _ _) fun slot => ?_
    split
    · exact callKernel_code _ _
    · exact .throw _ rfl
  · exact .throw _ rfl

theorem updateWith_code (map : Operand) (key value : Expr) (flags : Option Expr) :
    StraightCode known stored prints (updateWith map key value flags) := by
  unfold updateWith
  refine .bind (argumentSlot_code _ _ _) fun keySlot =>
    .bind (argumentSlot_code _ _ _) fun valueSlot =>
      .bind (flagsOperand_code _) fun flags => ?_
  split
  · exact callKernel_code _ _
  · exact .throw _ rfl

theorem updateCall_code (map : Operand) (args : List Expr) :
    StraightCode known stored prints (updateCall map args) := by
  unfold updateCall
  split
  · exact updateWith_code _ _ _ _
  · exact updateWith_code _ _ _ _
  · exact .throw _ rfl

theorem ktimeCall_code : StraightCode known stored prints ktimeCall :=
  callKernel_code _ _

theorem pidCall_code : StraightCode known stored prints pidCall :=
  .bind (callKernel_code _ _) fun _ => arith_code _ _ _

theorem readName_code (id : String) : StraightCode known stored prints (readName id) := by
  unfold readName
  refine .read (fun f => ?_) fun f g h => by simp only [h.locals]
  split
  · exact .bind (load_code _) fun _ => .pure _
  · exact .bind (say_code _) fun _ => .pure _

/-! ### Printing -/

theorem evalHole_code (hole : Hole) : StraightCode known stored prints (evalHole hole) := by
  unfold evalHole
  split
  · exact .bind (say_code _) fun _ => readName_code _
  · exact .bind (checkShown_code _) fun _ => .bind (say_code _) fun _ =>
      .bind (say_code _) fun _ => .pure _

theorem holeArgument_code (hole : Hole) : StraightCode known stored prints (holeArgument hole) := by
  unfold holeArgument
  refine .bind (evalHole_code hole) fun value => ?_
  split
  · split
    · exact cast_code _ _ _
    · split
      · exact cast_code _ _ _
      · exact .pure _
    · exact .bind (say_code _) fun _ => .pure _
  · exact .bind (say_code _) fun _ => .pure _

theorem partOf_fault {e : Expr} {fault : Fault} (h : partOf e = .error fault) :
    fault.isNoSlot = false := by
  unfold partOf at h
  split at h
  · cases h
  · split at h <;> cases h
    rfl
  · cases h
  · cases h
    rfl
  · cases h
    rfl

theorem formatParts_fault {parts : List Expr} {fault : Fault} (h : formatParts parts = .error fault) :
    fault.isNoSlot = false := by
  have hparts : parts.mapM partOf = .error fault := by
    unfold formatParts at h
    cases hmap : parts.mapM partOf with
    | error other =>
      rw [hmap] at h
      exact congrArg Except.error (Except.error.inj h)
    | ok out =>
      rw [hmap] at h
      cases h
  clear h
  induction parts with
  | nil => cases hparts
  | cons e rest ih =>
    rw [List.mapM_cons] at hparts
    cases hpart : partOf e with
    | error other =>
      rw [hpart] at hparts
      obtain rfl := Except.error.inj hparts
      exact partOf_fault hpart
    | ok part =>
      rw [hpart] at hparts
      cases hrest : rest.mapM partOf with
      | error other =>
        rw [hrest] at hparts
        obtain rfl := Except.error.inj hparts
        exact ih hrest
      | ok out =>
        rw [hrest] at hparts
        cases hparts

theorem printParts_code (hprint : prints) (parts : List Expr) :
    StraightCode known stored prints (printParts parts) := by
  unfold printParts
  refine .bind (.lift fun _ => formatParts_fault) fun ⟨format, holes⟩ =>
    .bind (formatGlobal_code hprint format) fun ⟨address, length⟩ => ?_
  have hcall : StraightCode known stored prints
      (do
        let values ← (holes.take 3).mapM holeArgument
        callKernel .printk (address :: Operand.int Ty.i32 length :: values)) :=
    .bind (.mapM fun hole _ => holeArgument_code hole) fun _ => callKernel_code _ _
  dsimp only
  split
  · exact .bind (say_code _) fun _ => hcall
  · exact hcall

theorem printText_code (hprint : prints) (text : Text) :
    StraightCode known stored prints (printText text) :=
  .bind (formatGlobal_code hprint text) fun _ =>
    .bind (callKernel_code _ _) fun _ => .pure _

theorem printCall_code (hprint : prints) (args : List Expr) :
    StraightCode known stored prints (printCall args) := by
  unfold printCall
  split
  · exact .throw _ rfl
  · exact .bind (printParts_code hprint _) fun _ => .pure _
  · exact .bind (.forM fun text _ => printText_code hprint text) fun _ => .pure _

/-! ### Dispatch -/

theorem callPlain_code {canPrint : Bool} (hprint : canPrint = true → prints) (helper : Helper)
    (args : List Expr) : StraightCode known stored prints (callPlain canPrint helper args) := by
  cases helper with
  | ktime => exact .bind ktimeCall_code fun _ => .pure _
  | pid => exact .bind pidCall_code fun _ => .pure _
  | print =>
    cases canPrint with
    | true => exact printCall_code (hprint rfl) args
    | false => exact .throw _ rfl
  | lookup | update | delete => exact .throw _ rfl

theorem callMethod_code (map : Operand) (helper : Helper) (args : List Expr) :
    StraightCode known stored prints (callMethod map helper args) := by
  cases helper with
  | lookup => exact .bind (lookupCall_code _ _) fun _ => .pure _
  | update => exact .bind (updateCall_code _ _) fun _ => .pure _
  | delete => exact .bind (deleteCall_code _ _) fun _ => .pure _
  | ktime => exact .bind ktimeCall_code fun _ => .pure _
  | pid => exact .bind pidCall_code fun _ => .pure _
  | print => exact .throw _ rfl

theorem helperCall_code {canPrint : Bool} (hprint : canPrint = true → prints) {e : Expr}
    (hmap : ∀ map ∈ e.methodMap?, known map) :
    StraightCode known stored prints (helperCall canPrint e) := by
  unfold helperCall
  split
  · split
    · exact callPlain_code hprint _ _
    · exact .throw _ rfl
  · refine .read (fun f => ?_) fun f g h => by simp only [h.maps _ (hmap _ rfl)]
    split
    · split
      · exact callMethod_code _ _ _
      · exact .throw _ rfl
    · exact .throw _ rfl
  · exact .throw _ rfl
  · exact .pure _
  · exact .throw _ rfl

/-! ### Expressions and conditions -/

theorem derefCall_code (args : List Expr) : StraightCode known stored prints (derefCall args) := by
  unfold derefCall
  split
  · exact .bind (say_code _) fun _ => .pure _
  · refine .read (fun f => ?_) fun f g h => by simp only [h.locals]
    split
    · exact .bind (load_code _) fun _ => .pure _
    · exact .bind (say_code _) fun _ => .pure _
    · exact .bind (say_code _) fun _ => .pure _
  · exact .throw _ rfl
  · exact .bind (say_code _) fun _ => .pure _

theorem evalDeref_code (args : List Expr) : StraightCode known stored prints (evalDeref args) :=
  .bind (say_code _) fun _ => .bind (say_code _) fun _ =>
    derefCall_code args

theorem unsupported_code : StraightCode known stored prints unsupported :=
  .bind (say_code _) fun _ => .pure _

theorem evalConstant_code (value : Literal) :
    StraightCode known stored prints (evalConstant value) := by
  unfold evalConstant
  split
  · exact .pure _
  · exact .bind (say_code _) fun _ => .pure _

theorem eval_code {e : Expr} (hmap : ∀ map ∈ e.methodMap?, known map) :
    StraightCode known stored True (eval e) := by
  unfold eval
  split
  · split
    · exact .bind (evalDeref_code _) fun _ => .pure _
    · refine .bind (say_code _) fun _ => ?_
      split
      · exact helperCall_code (fun _ => trivial) hmap
      · exact unsupported_code
  · refine .bind (say_code _) fun _ => ?_
    split
    · exact helperCall_code (fun _ => trivial) hmap
    · exact unsupported_code
  · refine .bind (say_code _) fun _ => ?_
    split
    · exact readName_code _
    · exact evalConstant_code _
    · exact unsupported_code

theorem isNonzero_code (id : String) : StraightCode known stored prints (isNonzero id) := by
  unfold isNonzero
  refine .read (fun f => ?_) fun f g h => by simp only [h.locals]
  split
  · refine .bind (load_code _) fun i => ?_
    dsimp only
    split
    · exact .pure _
    · exact .bind (compare_code _ _ _) fun _ => .pure _
  · exact .bind (say_code _) fun _ => .pure _

theorem balance_code (lhs rhs : Operand) : StraightCode known stored prints (balance lhs rhs) := by
  unfold balance
  split
  · exact .pure _
  · split
    · split
      · exact .bind (cast_code _ _ _) fun _ => .pure _
      · exact .bind (cast_code _ _ _) fun _ => .pure _
    · exact .pure _

theorem comparison_code (op : CompareOp) (lhs rhs : Operand) :
    StraightCode known stored prints (comparison op lhs rhs) := by
  unfold comparison
  refine .bind (balance_code lhs rhs) fun balanced => ?_
  split
  · exact .bind (say_code _) fun _ => .pure _
  · split
    · exact .bind (compare_code _ _ _) fun _ => .pure _
    · exact .bind (say_code _) fun _ => .pure _

theorem condition_code {test : Expr} (hmaps : ∀ map ∈ test.testMaps, known map) :
    StraightCode known stored True (condition test) := by
  have hside : ∀ {left e : Expr} {rest : List (CompareOp × Expr)}, test = .compare left rest →
      e ∈ left :: rest.map Prod.snd → ∀ map ∈ e.methodMap?, known map := by
    rintro left e rest rfl he map hmap
    exact hmaps map (List.mem_filterMap.mpr ⟨e, he, hmap⟩)
  unfold condition
  split
  · split
    · exact .pure _
    · exact .bind (say_code _) fun _ => .pure _
  · exact isNonzero_code _
  · refine .bind (eval_code (hside rfl (by simp))) fun lhs =>
      .bind (eval_code (hside rfl (by simp))) fun rhs => ?_
    split
    · exact comparison_code _ _ _
    · exact .throw _ rfl
  · exact .bind (eval_code (hside rfl (by simp))) fun _ => .bind (say_code _) fun _ => .pure _
  · exact .bind (say_code _) fun _ => .pure _

/-! ### Assignments -/

theorem chase_code (ty : Ty) (source : Operand) : StraightCode known stored prints (chase ty source) := by
  fun_induction chase ty source with
  | case1 t source ih => exact .bind (append_code rfl) fun i => ih i
  | case2 source => exact append_code rfl
  | case3 ty source => exact .bind (append_code rfl) fun _ => .throw _ rfl

theorem dereference_code (slot : Option Slot) : StraightCode known stored prints (dereference slot) := by
  unfold dereference
  split
  · exact chase_code _ _
  · exact .throw _ rfl

theorem arithOperand_code {fault : Fault} (hfault : fault.isNoSlot = false) (e : Expr) :
    StraightCode known stored prints (arithOperand fault e) := by
  unfold arithOperand
  split
  · refine .read (fun f => ?_) fun f g h => by simp only [h.locals]
    split
    · exact .bind (dereference_code _) fun _ => .pure _
    · exact .throw _ rfl
  · exact .pure _
  · exact .throw _ hfault

theorem assignBinary_code {target : String} (htarget : stored target) (left : Expr) (op : BinaryOp)
    (right : Expr) : StraightCode known stored prints (assignBinary target left op right) := by
  unfold assignBinary
  refine .bind showModule_code fun _ =>
    .bind (arithOperand_code rfl left) fun ⟨l, leftText⟩ =>
      .bind (arithOperand_code rfl right) fun ⟨r, rightText⟩ =>
        .bind (checkShown_code l) fun _ =>
          .bind (checkShown_code r) fun _ =>
            .bind (say_code _) fun _ => ?_
  split
  · exact .bind (arith_code _ _ _) fun _ => assign_code htarget _
  · exact .throw _ rfl

theorem assignConstant_code {target : String} {value : Literal} {marked : Bool}
    (htarget : (slotPlan (.const value marked)).isFresh = true → stored target) :
    StraightCode known stored prints (assignConstant target value) := by
  unfold assignConstant
  split
  · rename_i o hconstant
    have hfresh : (slotPlan (.const value marked)).isFresh = true := by
      cases value <;> first | rfl | cases hconstant
    exact .bind (assign_code (htarget hfresh) _) fun _ => .bind (checkShown_code _) fun _ =>
      say_code _
  · exact say_code _

theorem assignDeref_code {target : String} (htarget : stored target) (args : List Expr) :
    StraightCode known stored prints (assignDeref target args) := by
  unfold assignDeref
  refine .bind (say_code _) fun _ =>
    .bind (evalDeref_code args) fun i => ?_
  split
  · exact say_code _
  · exact .bind (say_code _) fun _ => .bind (assign_code htarget _) fun _ =>
      say_code _

/-- A call that is stored asks for a slot. -/
theorem slotPlan_call_isFresh {id : String} {args : List Expr}
    {keywords : List (Option String × Expr)}
    (h : (integerType? id).isSome = true ∨ (Helper.ofName? id).isSome = true ∨
      (id = "deref" ∧ args.length = 1)) :
    (slotPlan (.call (.name id) args keywords)).isFresh = true := by
  rw [slotPlan]
  cases hid : integerType? id with
  | some entry => rfl
  | none =>
    dsimp only
    split
    · rfl
    · rename_i hhelper
      rw [if_pos ((h.resolve_left (by simp [hid])).resolve_left hhelper)]
      rfl

theorem assignCall_code {target id : String} {args : List Expr}
    {keywords : List (Option String × Expr)}
    (htarget : (slotPlan (.call (.name id) args keywords)).isFresh = true → stored target) :
    StraightCode known stored prints (assignCall target id args) := by
  unfold assignCall
  refine .bind (say_code _) fun _ => ?_
  split
  · rename_i hid _
    have hstored := htarget (slotPlan_call_isFresh (.inl (by rw [hid]; rfl)))
    exact .bind (assign_code hstored _) fun _ => .bind (checkShown_code _) fun _ =>
      say_code _
  · split
    · rename_i hhelper
      have hstored := htarget (slotPlan_call_isFresh (.inr (.inl (by rw [hhelper]; rfl))))
      exact .bind (callPlain_code (by simp) _ _) fun _ =>
        .bind (assign_code hstored _) fun _ => say_code _
    · split
      · rename_i hderef
        exact assignDeref_code (htarget (slotPlan_call_isFresh (.inr (.inr hderef)))) _
      · exact say_code _

theorem assignMethod_code {target : String} (htarget : stored target) {map : String}
    (hmap : known map) (method : String) (args : List Expr) :
    StraightCode known stored prints (assignMethod target map method args) := by
  unfold assignMethod
  refine .read (fun f => ?_) fun f g h => by simp only [h.maps _ hmap]
  split
  · exact .bind (callMethod_code _ _ _) fun _ => assign_code htarget _
  · exact .pure _

theorem assignValue_code {target : String} {value : Expr}
    (hmap : ∀ map ∈ value.methodMap?, known map)
    (htarget : (slotPlan value).isFresh = true → stored target) :
    StraightCode known stored prints (assignValue target value) := by
  unfold assignValue
  split
  · exact assignConstant_code htarget
  · exact assignCall_code htarget
  · exact assignMethod_code (htarget rfl) (hmap _ rfl) _ _
  · exact say_code _
  · exact say_code _
  · exact assignBinary_code (htarget rfl) _ _ _
  · exact say_code _

theorem lowerAssign_code {targets : List Expr} {value : Expr}
    (hmap : ∀ map ∈ value.methodMap?, known map)
    (htarget : ∀ x ∈ (Stmt.assign targets value).storedVariable?, stored x) :
    StraightCode known stored prints (lowerAssign targets value) := by
  unfold lowerAssign
  split
  · exact assignValue_code hmap fun hfresh => htarget _ (by simp [Stmt.storedVariable?, hfresh])
  · exact say_code _
  · exact say_code _

theorem lowerExpr_code {value : Expr} (hmap : ∀ map ∈ value.methodMap?, known map) :
    StraightCode known stored True (lowerExpr value) := by
  unfold lowerExpr
  refine .bind (say_code _) fun _ => ?_
  split
  · exact .bind (eval_code hmap) fun _ => .pure _
  · exact say_code _

/-- What a statement that is no branch and no return adds is straight-line code. -/
theorem lowerSimple_code {s : Stmt} (hmaps : ∀ map ∈ s.usedMaps, known map)
    (hstored : ∀ x ∈ s.storedVariable?, stored x) : StraightCode known stored True (lowerSimple s) := by
  unfold lowerSimple
  refine .bind (say_code _) fun _ => ?_
  split
  · exact lowerExpr_code fun map hmap => hmaps map (Option.mem_toList.mpr hmap)
  · exact lowerAssign_code (fun map hmap => hmaps map (Option.mem_toList.mpr hmap)) hstored
  · exact .throw _ rfl
  · exact .pure _

end Code

end BpfCompiler.Lower
