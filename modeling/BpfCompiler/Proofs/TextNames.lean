import BpfCompiler.Proofs.Texts

/-!
# The names of format strings

What a program prints can be read off its statements, in the order in which the lowering meets them.  When the
lowering of a list of programs succeeds, it has made one variable for each of these texts, named after the
function and numbered from zero through all its suites.  The number stands behind a letter, so it can be read
back off the name, whatever the function is called: names of different texts differ.
-/

namespace BpfCompiler.Lower

open IR Syntax Emit

/-! ### Numbers in names -/

theorem takeWhile_isDigit_formatName (function : String) (count : Nat) :
    (formatName function count).toList.reverse.takeWhile Char.isDigit = (Nat.toDigits 10 count).reverse := by
  have hdigits : ∀ c ∈ (Nat.toDigits 10 count).reverse, c.isDigit = true := by
    intro c hc
    exact Nat.isDigit_of_mem_toDigits (by decide) (Nat.le_refl 10) (List.mem_reverse.mp hc)
  have hname : (formatName function count).toList.reverse =
      (Nat.toDigits 10 count).reverse ++ 't' :: ("____fm".toList.reverse ++ function.toList.reverse) := by
    simp [formatName]
  rw [hname, List.takeWhile_append_of_pos hdigits, List.takeWhile_cons_of_neg (by decide), List.append_nil]

/-- The name of a text tells the function and the number. -/
theorem formatName_inj {f g : String} {j k : Nat} (h : formatName f j = formatName g k) : f = g ∧ j = k := by
  have hdigits : Nat.toDigits 10 j = Nat.toDigits 10 k := by
    rw [← List.reverse_inj, ← takeWhile_isDigit_formatName f, ← takeWhile_isDigit_formatName g, h]
  have hcount : j = k := by
    simpa using congrArg (fun digits => Nat.ofDigitChars 10 digits 0) hdigits
  subst hcount
  refine ⟨?_, rfl⟩
  have hchars := congrArg String.toList h
  simp only [formatName, String.toList_append, List.append_cancel_right_eq] at hchars
  exact String.toList_inj.mp hchars

/-! ### Variables of texts -/

/-- The variable of a text that a function prints after the given number of others. -/
def printedVariable (function : String) (count : Nat) (text : Text) : Variable :=
  textVariable (formatName function count) (text ++ "\n\x00") (text ++ ("\n\x00" : Text)).utf8?

def printedVariables (function : String) (start : Nat) (texts : List Text) : List Variable :=
  texts.mapIdx fun k text => printedVariable function (start + k) text

theorem printedVariables_append (function : String) (start : Nat) (first second : List Text) :
    printedVariables function start (first ++ second) =
      printedVariables function start first ++ printedVariables function (start + first.length) second := by
  have hshift : (fun i text => printedVariable function (start + (i + first.length)) text) =
      fun k text => printedVariable function (start + first.length + k) text := by
    funext k text
    rw [Nat.add_assoc, Nat.add_comm k]
  rw [printedVariables, List.mapIdx_append, hshift]
  rfl

/-- Between the two frames the function has made the variables of the texts, with the next numbers. -/
structure Spelled (texts : List Text) (f f' : Frame) : Prop where
  globals : f'.workspace.module.globals = f.workspace.module.globals ++
    (printedVariables f.fn.name f.fn.formats texts).map Global.variable
  name : f'.fn.name = f.fn.name
  formats : f'.fn.formats = f.fn.formats + texts.length

namespace Spelled

theorem nothing {f f' : Frame} (h : f.SameTexts f') : Spelled [] f f' :=
  ⟨by simp [printedVariables, h.module], h.name, h.formats⟩

theorem trans {f f₁ f₂ : Frame} {first second : List Text} (h : Spelled first f f₁)
    (h' : Spelled second f₁ f₂) : Spelled (first ++ second) f f₂ where
  globals := by simp [printedVariables_append, h'.globals, h.globals, h.name, h.formats]
  name := h'.name.trans h.name
  formats := by simp [h'.formats, h.formats, Nat.add_assoc]

end Spelled

/-- When the action succeeds, it has made the variables of the texts. -/
def Spells (texts : List Text) {α : Type} (m : Emit α) : Prop := Ensures (Spelled texts) m

namespace Spells

variable {α β : Type} {texts first second : List Text}

theorem pure (a : α) : Spells [] (Pure.pure a : Emit α) := fun _ => .pure (.nothing ⟨rfl, rfl, rfl⟩)

theorem bind {x : Emit α} {k : α → Emit β} (hx : Spells first x) (hk : ∀ a, Spells second (k a)) :
    Spells (first ++ second) (x >>= k) := hx.seq hk fun _ _ _ => .trans

/-- A step without texts may come before others. -/
theorem after {x : Emit α} {k : α → Emit β} (hx : Spells [] x) (hk : ∀ a, Spells texts (k a)) :
    Spells texts (x >>= k) := hx.bind hk

/-- A step without texts may follow others. -/
theorem before {x : Emit α} {k : α → Emit β} (hx : Spells texts x) (hk : ∀ a, Spells [] (k a)) :
    Spells texts (x >>= k) := by
  have h := hx.bind hk
  rwa [List.append_nil] at h

end Spells

/-- Code that does not print, whatever maps and variables it uses. -/
theorem Composed.spellsNothing {α : Type} {m : Emit α}
    (h : BodyCode (fun _ => True) (fun _ => True) False m) : Spells [] m := by
  have hsame : Preserves Frame.SameTexts m :=
    h.preserves fun hstep =>
      hstep.of_texts (P := fun _ m => Preserves Frame.SameTexts m) id False.elim
  exact (Ensures.of_preserves hsame).weaken fun _ _ => .nothing

theorem Composed.silent {α : Type} {m : Emit α} (h : StraightCode (fun _ => True) (fun _ => True) False m) :
    Spells [] m :=
  h.bodyCode.spellsNothing

theorem say_silent (line : Text) : Spells [] (say line) := Composed.silent (say_code line)

/-! ### Prints -/

theorem formatGlobal_spells (text : Text) : Spells [text] (formatGlobal text) := by
  refine fun f => .of_ok fun global f' h => ?_
  obtain ⟨scope, data, hdata, -, -, rfl⟩ := formatGlobal_inv h
  refine ⟨?_, rfl, rfl⟩
  simp [printedVariables, printedVariable, hdata, Frame.withText]

theorem printText_spells (text : Text) : Spells [text] (printText text) :=
  (formatGlobal_spells text).before fun _ =>
    Spells.after (Composed.silent (callKernel_code _ _)) fun _ => .pure _

theorem forM_printText_spells (texts : List Text) : Spells texts (texts.forM printText) := by
  induction texts with
  | nil => exact .pure _
  | cons text rest ih => exact (printText_spells text).bind fun _ => ih

theorem printParts_spells (parts : List Expr) :
    Spells ((formatParts parts).toOption.toList.map Prod.fst) (printParts parts) := by
  unfold printParts
  refine fun f => .lift (fun ⟨format, holes⟩ hparts => ?_) fun _ _ => trivial
  rw [hparts]
  have hcall : ∀ address length, Spells []
      (do
        let values ← (holes.take 3).mapM holeArgument
        callKernel .printk (address :: Operand.int Ty.i32 length :: values)) := fun _ _ =>
    Composed.silent (.bind (.mapM fun hole _ => holeArgument_code hole) fun _ => callKernel_code _ _)
  refine (formatGlobal_spells format).before (fun ⟨address, length⟩ => ?_) f
  dsimp only
  split
  · exact (say_silent _).after fun _ => hcall address length
  · exact hcall address length

theorem printCall_spells (args : List Expr) : Spells (printedTexts args) (printCall args) := by
  unfold printCall
  split
  · exact .throw _
  · exact (printParts_spells _).before fun _ => .pure _
  · rename_i hnotEmpty hnotJoined
    rw [printedTexts]
    · exact (forM_printText_spells _).before fun _ => .pure _
    · exact hnotJoined

/-! ### Texts of statements -/

/-- The texts that the evaluation of an expression prints. -/
def exprTexts : Expr → List Text
  | .call (.name id) args _ => if id = "print" then printedTexts args else []
  | _ => []

/-- The texts that a test prints: of a chain of comparisons only the first operand is looked at. -/
def testTexts : Expr → List Text
  | .compare left [(_, right)] => exprTexts left ++ exprTexts right
  | .compare left _ => exprTexts left
  | _ => []

/-- The texts that a statement itself prints, apart from the statements inside it. -/
def ownTexts : Stmt → List Text
  | .expr value => exprTexts value
  | .cond test _ _ => testTexts test
  | _ => []

/-- The texts that a body prints, through all suites that the lowering looks into. -/
def textsIn (body : List Stmt) : List Text := (Stmt.reachedAll body).flatMap ownTexts

theorem ofName?_eq_print_iff (id : String) : Helper.ofName? id = some .print ↔ id = "print" := by
  unfold Helper.ofName?
  split <;> simp_all

theorem callPlain_spells {id : String} {helper : Helper} (hid : Helper.ofName? id = some helper)
    (args : List Expr) :
    Spells (if id = "print" then printedTexts args else []) (callPlain true helper args) := by
  by_cases hprint : helper = .print
  · subst hprint
    rw [if_pos ((ofName?_eq_print_iff id).mp hid)]
    exact printCall_spells args
  · have hother : id ≠ "print" := by
      intro hname
      rw [(ofName?_eq_print_iff id).mpr hname] at hid
      exact hprint (Option.some.inj hid).symm
    rw [if_neg hother]
    cases helper with
    | print => exact (hprint rfl).elim
    | ktime => exact Composed.silent (.bind ktimeCall_code fun _ => .pure _)
    | pid => exact Composed.silent (.bind pidCall_code fun _ => .pure _)
    | lookup | update | delete => exact .throw _

/-- A method of a map prints nothing. -/
theorem helperCall_method_silent (canPrint : Bool) (map method : String) (mapArgs args : List Expr)
    (mapKeywords keywords : List (Option String × Expr)) :
    Spells [] (helperCall canPrint
      (.call (.attribute (.call (.name map) mapArgs mapKeywords) method) args keywords)) := by
  refine Ensures.read fun f => ?_
  split
  · split
    · exact Composed.silent (callMethod_code _ _ _)
    · exact .throw _
  · exact .throw _

theorem eval_spells (e : Expr) : Spells (exprTexts e) (eval e) := by
  unfold eval
  split
  · rename_i id args keywords
    by_cases hderef : id = "deref"
    · subst hderef
      exact Composed.silent (.bind (evalDeref_code args) fun _ => .pure _)
    · rw [if_neg hderef]
      refine (say_silent _).after fun _ => ?_
      cases hid : Helper.ofName? id with
      | some helper =>
        simp only [helperCall, hid, Option.isSome_some, if_true]
        exact callPlain_spells hid args
      | none =>
        have hother : id ≠ "print" := fun hname => by simp [hname, Helper.ofName?] at hid
        simp only [exprTexts, if_neg hother, Option.isSome_none, Bool.false_eq_true, if_false]
        exact Composed.silent unsupported_code
  · refine (say_silent _).after fun _ => ?_
    split
    · exact helperCall_method_silent _ _ _ _ _ _ _
    · exact Composed.silent unsupported_code
  · rename_i hplain hmethod
    have hnone : exprTexts e = [] := by
      unfold exprTexts
      split
      · exact (hplain _ _ _ rfl).elim
      · rfl
    rw [hnone]
    refine (say_silent _).after fun _ => ?_
    split
    · exact Composed.silent (readName_code _)
    · exact Composed.silent (evalConstant_code _)
    · exact Composed.silent unsupported_code

theorem condition_spells (test : Expr) : Spells (testTexts test) (condition test) := by
  unfold condition
  split
  · split
    · exact .pure _
    · exact (say_silent _).after fun _ => .pure _
  · exact Composed.silent (isNonzero_code _)
  · rename_i left op right
    refine (eval_spells left).bind fun lhs => (eval_spells right).before fun rhs => ?_
    split
    · exact Composed.silent (comparison_code _ _ _)
    · exact .throw _
  · rename_i left rest hchain
    rw [testTexts]
    · exact (eval_spells left).before fun _ => (say_silent _).after fun _ => .pure _
    · exact hchain
  · rename_i hconst hname hcompare hchain
    have hnone : testTexts test = [] := by
      unfold testTexts
      split
      · exact (hcompare _ _ _ rfl).elim
      · exact (hchain _ _ rfl).elim
      · rfl
    rw [hnone]
    exact (say_silent _).after fun _ => .pure _

theorem lowerExpr_spells (value : Expr) : Spells (exprTexts value) (lowerExpr value) := by
  unfold lowerExpr
  refine (say_silent _).after fun _ => ?_
  split
  · exact (eval_spells _).before fun _ => .pure _
  · rename_i hcall
    have hnone : exprTexts value = [] := by
      unfold exprTexts
      split
      · exact (hcall _ _ _ rfl).elim
      · rfl
    rw [hnone]
    exact say_silent _

theorem lowerSimple_spells {s : Stmt} (hsimple : s.isSimple = true) : Spells (ownTexts s) (lowerSimple s) := by
  unfold lowerSimple
  refine (say_silent _).after fun _ => ?_
  cases s with
  | expr value => exact lowerExpr_spells value
  | assign targets value =>
    exact Composed.silent (lowerAssign_code (fun _ _ => trivial) fun _ _ => trivial)
  | augAssign => exact .throw _
  | cond => cases hsimple
  | _ => exact .pure _

/-! ### Bodies -/

theorem fillBlock_spells {texts : List Text} (place : Nat) {suite : Emit Unit} (hsuite : Spells texts suite)
    (label : String) : Spells texts (fillBlock place suite label) := by
  refine Spells.after ?_ fun _ => hsuite.before fun _ => ?_
  · exact Composed.spellsNothing (.basic (.moveTo place))
  · exact Composed.spellsNothing (joinAt_code label)

/-- A branch prints what its test prints; what its suites print comes behind it. -/
theorem openBranch_spells (test : Expr) (hasElse : Bool) :
    Spells (testTexts test) (openBranch test hasElse) := by
  refine Spells.after ?_ fun _ => (condition_spells test).before fun _ => ?_
  · exact Composed.spellsNothing (makeArms_code hasElse)
  · exact Composed.spellsNothing (.bind (terminate_code _) fun _ => .pure _)

theorem lowerStmt_cond_spells {body orelse : List Stmt} (hbody : Spells (textsIn body) (lowerSuite body))
    (horelse : Spells (textsIn orelse) (lowerSuite orelse)) (result : Ty) (returned : Bool) (test : Expr) :
    Spells (testTexts test ++ (textsIn body ++ textsIn orelse))
      (lowerStmt result returned (.cond test body orelse)) := by
  have hmove : ∀ place, Spells [] (moveTo place) := fun place =>
    Composed.spellsNothing (.basic (.moveTo place))
  rw [lowerStmt]
  refine (say_silent _).after fun _ => (say_silent _).after fun _ => ?_
  refine fun f => Ends.afterOk (openBranch_spells test _ f) fun arms g hopen hspelled => ?_
  have hother := openBranch_other hopen
  suffices hsuites : Spells (textsIn body ++ textsIn orelse) _ from
    (hsuites g).weaken fun _ _ => hspelled.trans
  refine Spells.bind (fillBlock_spells _ hbody _) fun _ => ?_
  cases harms : arms.other with
  | some other => exact (fillBlock_spells _ horelse _).before fun _ => (hmove _).after fun _ => .pure _
  | none =>
    have hempty : orelse = [] := by simpa [harms] using hother
    rw [hempty]
    exact (hmove _).after fun _ => .pure _

theorem lowerStmt_spells :
    (∀ (result : Ty) (returned : Bool) (s : Stmt),
      Spells (s.reached.flatMap ownTexts) (lowerStmt result returned s)) ∧
    ∀ body : List Stmt, Spells (textsIn body) (lowerSuite body) := by
  apply lowerStmt.mutual_induct
  · intro result returned test body orelse ihbody ihorelse
    rw [Stmt.reached, List.flatMap_cons, List.flatMap_append]
    exact lowerStmt_cond_spells ihbody ihorelse result returned test
  · intro result returned value
    rw [lowerStmt]
    refine Composed.spellsNothing (.bind (say_bodyCode _) fun _ => ?_)
    exact .bind (.lift fun _ => returnOperand_fault) fun _ => .bind (terminate_code _) fun _ => .pure _
  · intro result returned s hcond hret
    have hsimple : s.isSimple = true := by
      cases s with
      | cond test body orelse => exact (hcond test body orelse rfl).elim
      | ret value => exact (hret value rfl).elim
      | _ => rfl
    rw [Stmt.reached_of_isSimple hsimple, List.flatMap_singleton, lowerStmt_simple hsimple]
    exact (lowerSimple_spells hsimple).before fun _ => .pure _
  · rw [lowerSuite]
    exact .pure _
  · intro s rest ihstmt ihrest
    rw [lowerSuite, textsIn, Stmt.reachedAll, List.flatMap_append]
    exact ihstmt.bind fun _ => ihrest

theorem lowerBody_spells (result : Ty) (returned : Bool) (body : List Stmt) :
    Spells (textsIn body) (lowerBody result returned body) := by
  induction body generalizing returned with
  | nil => exact .pure _
  | cons s rest ih =>
    rw [lowerBody, textsIn, Stmt.reachedAll, List.flatMap_append]
    exact (lowerStmt_spells.1 result returned s).bind fun returned => ih returned

/-- The body of a function makes the texts that its statements print, in order. -/
theorem functionBody_spells (result : Ty) (body : List Stmt) :
    Spells (textsIn body) (functionBody result body) := by
  have hslots : Spells [] (allocate body) := Composed.spellsNothing (allocateSuite_code.2 none body)
  have hstatements : Spells (textsIn body) (lowerStatements result body) :=
    hslots.after fun _ => Ensures.read fun _ => (say_silent _).after fun _ => lowerBody_spells result false body
  refine hstatements.before fun returned => ?_
  cases returned with
  | true => exact .pure _
  | false => exact Composed.spellsNothing (terminate_code _)

/-! ### Programs -/

/-- The format strings of a program are the texts that its body prints, numbered in order. -/
theorem IsRoutineOf.texts_eq {maps : Table Operand} {d : Syntax.Function} {r : Routine}
    (h : IsRoutineOf maps d r) : r.texts = printedVariables d.name 0 (textsIn d.body) := by
  obtain ⟨w, f, -, -, hexec, hprints⟩ := h.run
  have hspelled := (functionBody_spells r.fn.result d.body _).ok hexec
  have hglobals := hprints.globals.symm.trans hspelled.globals
  exact (List.map_inj_right fun _ _ => Global.variable.inj).mp (List.append_cancel_left hglobals)

theorem Routine.text_names_sublist (routines : List Routine) :
    (routines.flatMap fun r => r.texts.map Variable.name).Sublist
      ((routines.flatMap Routine.globals).map Global.name) := by
  induction routines with
  | nil => exact List.Sublist.refl _
  | cons r rest ih =>
    have hfirst : (r.texts.map Variable.name).Sublist (r.globals.map Global.name) := by
      rw [Routine.globals, List.map_cons, List.map_map]
      exact List.sublist_cons_self _ _
    rw [List.flatMap_cons, List.flatMap_cons, List.map_append]
    exact hfirst.append ih

/-- A text that was made has bytes, and its variable holds them. -/
theorem IsRoutineOf.getElem?_texts {maps : Table Operand} {d : Syntax.Function} {r : Routine}
    (h : IsRoutineOf maps d r) {k : Nat} {text : Text} (hk : (textsIn d.body)[k]? = some text) :
    ∃ v data, r.texts[k]? = some v ∧ v.name = d.name ++ "____fmt" ++ toString k ∧
      (text ++ ("\n\x00" : Text)).utf8? = some data ∧ v.initializer = some (.bytes data) := by
  have hv : r.texts[k]? = some (printedVariable d.name k text) := by
    rw [h.texts_eq, printedVariables, List.getElem?_mapIdx, hk]
    simp
  obtain ⟨w, f, -, -, -, hprints⟩ := h.run
  obtain ⟨data, hdata⟩ := hprints.content _ (List.mem_of_getElem? hv)
  cases hbytes : (text ++ ("\n\x00" : Text)).utf8? with
  | none => simp [printedVariable, hbytes, textVariable] at hdata
  | some bytes =>
    refine ⟨_, bytes, hv, ?_, rfl, ?_⟩
    · simp [printedVariable, hbytes, textVariable, formatName]
    · simp [printedVariable, hbytes, textVariable]

/-- When the lowering of programs succeeds, the `k`-th text that a program prints, through all its suites, is
in the variable that is named after the program and `k`; and such a name belongs to one program and one
number only, whatever the programs are called. -/
theorem texts_numbered {programs : List Syntax.Function} {w w' : Workspace}
    (h : exec (programs.forM lowerProgram) w = (.ok (), w')) :
    (∃ routines : List Routine,
      w'.module.globals = w.module.globals ++ routines.flatMap Routine.globals ∧
      List.Forall₂ (fun d r => r.fn.name = d.name ∧ r.texts.length = (textsIn d.body).length ∧
          ∀ (k : Nat) (text : Text), (textsIn d.body)[k]? = some text →
            ∃ v data, r.texts[k]? = some v ∧ v.name = d.name ++ "____fmt" ++ toString k ∧
              (text ++ ("\n\x00" : Text)).utf8? = some data ∧ v.initializer = some (.bytes data))
        programs routines ∧
      (routines.flatMap fun r => r.texts.map Variable.name).Nodup) ∧
    ∀ (f g : String) (j k : Nat),
      f ++ "____fmt" ++ toString j = g ++ "____fmt" ++ toString k → f = g ∧ j = k := by
  obtain ⟨routines, hroutines, hgains⟩ := forM_lowerProgram_gains h
  refine ⟨⟨routines, hgains.globals, hroutines.imp fun d r hr => ?_, ?_⟩, fun _ _ _ _ => formatName_inj⟩
  · refine ⟨hr.name, ?_, fun k text => hr.getElem?_texts⟩
    simp [hr.texts_eq, printedVariables]
  · exact hgains.distinct.sublist (Routine.text_names_sublist routines)

/-- A program that prints two plain texts and a text with a hole, in the two suites of a branch. -/
def branchPrinter : Syntax.Function :=
  ⟨false, "f2", [],
    [.cond (.const (.int 1) false)
      [.expr (.call (.name "print") [.const (.text "a") false, .const (.text "b") false] [])]
      [.expr (.call (.name "print") [.joined [.formatted (.name "x") none none]] [])],
     .ret (some (.call (.name "c_int64") [.const (.int 0) false] []))], [], some (.name "c_int64")⟩

/-- A program whose name looks like that of a fourth text of the other one. -/
def lookalikePrinter : Syntax.Function :=
  ⟨false, "f2____fmt3", [],
    [.expr (.call (.name "print") [.const (.text "d") false] []),
     .ret (some (.call (.name "c_int64") [.const (.int 0) false] []))], [], some (.name "c_int64")⟩

theorem lookalike_texts_numbered :
    ∃ (w' : Workspace) (routines : List Routine),
      exec ([branchPrinter, lookalikePrinter].forM lowerProgram) (Compile.start "p.py" Table.empty) =
        (.ok (), w') ∧
      w'.module.globals = routines.flatMap Routine.globals ∧
      w'.module.names = ["f2", "f2____fmt0", "f2____fmt1", "f2____fmt2", "f2____fmt3", "f2____fmt3____fmt0"] ∧
      (routines.flatMap fun r => r.texts.map Variable.name).Nodup := by
  have hrun :
      (exec ([branchPrinter, lookalikePrinter].forM lowerProgram)
        (Compile.start "p.py" Table.empty)).1.isOk = true ∧
      (exec ([branchPrinter, lookalikePrinter].forM lowerProgram)
        (Compile.start "p.py" Table.empty)).2.module.names =
          ["f2", "f2____fmt0", "f2____fmt1", "f2____fmt2", "f2____fmt3", "f2____fmt3____fmt0"] := by
    decide +kernel
  obtain ⟨⟨⟩, w', hexec⟩ := exec_of_isOk hrun.1
  rw [hexec] at hrun
  obtain ⟨⟨routines, hglobals, -, hdistinct⟩, -⟩ := texts_numbered hexec
  rw [start_globals, List.nil_append] at hglobals
  exact ⟨w', routines, hexec, hglobals, hrun.2, hdistinct⟩

end BpfCompiler.Lower
