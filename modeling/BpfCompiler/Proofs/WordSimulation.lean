import BpfCompiler.Proofs.WordLowering

/-!
# Programs of words and their code

A machine that runs the code of a suite of words does what the suite says (`Lowers.simulates`): it comes to the
end of the code with the variables as the suite leaves them, or it returns the same word.  The code is that of
the finished function, of which a suite sees only its own part; other statements have continued the blocks
since (`Completes`).
-/

namespace BpfCompiler.IR.Function

theorem block?_of_getElem? {fn : Function} (hdistinct : (fn.blocks.map Block.label).Nodup)
    {k : Nat} {b : Block} (hb : fn.blocks[k]? = some b) : fn.block? b.label = some b := by
  have hmem := List.mem_of_getElem? hb
  cases hfind : fn.block? b.label with
  | none =>
    have hnone := List.find?_eq_none.mp hfind b hmem
    simp at hnone
  | some b' =>
    have hlabel : b'.label = b.label := by simpa using List.find?_some hfind
    have hmem' := List.mem_of_find?_eq_some hfind
    exact congrArg some (List.inj_on_of_nodup_map hdistinct hmem' hmem hlabel)

end BpfCompiler.IR.Function

namespace BpfCompiler.Lower

open IR Syntax Emit
open Syntax.Words (State Word Halt Outcome word)

/-! ### The finished function -/

/-- The function is what the frame has been building, with more code behind that of each block. -/
structure Completes (fn : IR.Function) (f : Frame) : Prop where
  extended : ∀ (k : Nat) (b : Block), f.fn.blocks[k]? = some b →
    ∃ more, fn.blocks[k]? = some (b.extend more)
  distinct : (fn.blocks.map Block.label).Nodup
  writable : fn.fault? = none
  result : fn.result = Ty.i64

/-- The code of the function from the place on where the frame appends. -/
def Ahead (fn : IR.Function) (f : Frame) (rest : List Inst) : Prop :=
  fn.blocks[f.here]? = some (f.block.extend rest)

theorem Ahead.unique {fn : IR.Function} {f : Frame} {rest rest' : List Inst} (h : Ahead fn f rest)
    (h' : Ahead fn f rest') : rest = rest' := by
  have hblock : f.block.extend rest = f.block.extend rest' := Option.some.inj (h.symm.trans h')
  exact List.append_cancel_left (congrArg Block.insts hblock)

theorem Ahead.of_appends {fn : IR.Function} {f f' : Frame} {new rest : List Inst}
    (h : Ahead fn f' rest) (happends : Appends f f' new) (hin : f.here < f.fn.blocks.length) :
    Ahead fn f (new ++ rest) := by
  rw [Ahead, happends.here, happends.block hin, Block.extend_extend] at h
  exact h

namespace Completes

variable {fn : IR.Function} {f f' : Frame}

theorem of_grown (h : Completes fn f') (hgrown : Grown f f') : Completes fn f where
  extended := by
    intro k b hb
    obtain ⟨more, hmore⟩ := hgrown.extended k b hb
    obtain ⟨more', hmore'⟩ := h.extended k _ hmore
    exact ⟨more ++ more', by rw [hmore', Block.extend_extend]⟩
  distinct := h.distinct
  writable := h.writable
  result := h.result

theorem of_moved {place : Nat} (h : Completes fn (f.moved place)) : Completes fn f :=
  ⟨h.extended, h.distinct, h.writable, h.result⟩

theorem ahead (h : Completes fn f) (hin : f.here < f.fn.blocks.length) :
    ∃ rest, Ahead fn f rest :=
  h.extended f.here f.block (Frame.getElem?_here hin)

/-- What has been appended comes first in the code ahead. -/
theorem ahead_appends (h : Completes fn f') {new rest : List Inst} (happends : Appends f f' new)
    (hin : f.here < f.fn.blocks.length) (hahead : Ahead fn f rest) :
    ∃ more, rest = new ++ more ∧ Ahead fn f' more := by
  obtain ⟨more, hmore⟩ := h.ahead (happends.inRange hin)
  exact ⟨more, hahead.unique (hmore.of_appends happends hin), hmore⟩

/-- What can be written as a whole could be written before. -/
theorem code_fault? (h : Completes fn f) : f.fn.fault? = none := by
  have hwritable := IR.Function.fault?_eq_none_iff.mp h.writable
  rw [IR.Function.fault?_eq_none_iff]
  intro b hb i hi
  obtain ⟨k, hk⟩ := List.getElem?_of_mem hb
  obtain ⟨more, hmore⟩ := h.extended k b hk
  exact hwritable _ (List.mem_of_getElem? hmore) i (List.mem_append_left _ hi)

/-- A branch to a block that is still empty goes on where the frame fills it. -/
theorem enters (h : Completes fn f) {place : Nat} {label : String}
    (hplace : f.fn.blocks[place]? = some ⟨label, []⟩) :
    ∃ b, fn.block? label = some b ∧ Ahead fn (f.moved place) b.insts := by
  obtain ⟨more, hmore⟩ := h.extended place _ hplace
  refine ⟨_, IR.Function.block?_of_getElem? h.distinct hmore, ?_⟩
  rw [Ahead, Frame.block_of_getElem? (f := f.moved place) hplace]
  exact hmore

end Completes

/-- How a run of the function that starts in the given way fits an outcome: it comes to `rest` with the
variables as they should be, or it returns the word. -/
def EndsIn (fn : IR.Function) (results : Nat → Word) (locals : Table (Option Slot))
    (rest : List Inst) (c : Config) : Outcome → Prop
  | .next σ => ∃ m, fn.Runs results c (.running rest m) ∧ Matches locals σ m
  | .returned w σ => ∃ m, fn.Runs results c (.returned (.int 64 w) m) ∧ m.calls = σ.calls

theorem EndsIn.after {fn : IR.Function} {results : Nat → Word} {locals : Table (Option Slot)}
    {rest : List Inst} {c c' : Config} {outcome : Outcome}
    (h : EndsIn fn results locals rest c' outcome) (hruns : fn.Runs results c c') :
    EndsIn fn results locals rest c outcome := by
  cases outcome with
  | next σ =>
    obtain ⟨m, hend, hmatches⟩ := h
    exact ⟨m, hruns.trans hend, hmatches⟩
  | returned w σ =>
    obtain ⟨m, hend, hcalls⟩ := h
    exact ⟨m, hruns.trans hend, hcalls⟩

/-! ### Statements and suites -/

section Simulation

variable {fn : IR.Function} {results : Nat → Word} {vars : List String} {f g : Frame}
  {locals : Table (Option Slot)} {σ : State} {m : Machine} {rest rest' : List Inst}

/-- The code between two frames does what the suite says. -/
def Simulates (fn : IR.Function) (results : Nat → Word) (locals : Table (Option Slot))
    (body : List Stmt) (f f' : Frame) : Prop :=
  ∀ ⦃σ : State⦄ ⦃m : Machine⦄ ⦃rest rest' : List Inst⦄ ⦃outcome : Outcome⦄,
    Ahead fn f rest → Ahead fn f' rest' → Matches locals σ m →
      Words.runSuite results σ body = .ok outcome →
        EndsIn fn results locals rest' (.running rest m) outcome

theorem EndsIn.cons {s : Stmt} {suite : List Stmt} {c : Config} {outcome : Outcome}
    (hstmt : ∀ first, Words.runStmt results σ s = .ok first →
      EndsIn fn results locals rest c first)
    (hsuite : ∀ σ₁ m₁, Matches locals σ₁ m₁ → Words.runSuite results σ₁ suite = .ok outcome →
      EndsIn fn results locals rest' (.running rest m₁) outcome)
    (hrun : Words.runSuite results σ (s :: suite) = .ok outcome) :
    EndsIn fn results locals rest' c outcome := by
  rcases Words.runSuite_cons hrun with ⟨σ₁, hfirst, hrest⟩ | ⟨w, σ₁, hfirst, rfl⟩
  · obtain ⟨m₁, hruns, hmatches⟩ := hstmt _ hfirst
    exact (hsuite σ₁ m₁ hmatches hrest).after hruns
  · exact hstmt _ hfirst

theorem EndsIn.assign {f' : Frame} {x : String} {e : Expr} {code : List Inst}
    (hperforms : Performs (storing x fun results σ => Words.value results σ e) f code f')
    (hmatches : Matches f.locals σ m) {outcome : Outcome}
    (hrun : Words.runStmt results σ (.assign [.name x] e) = .ok outcome) :
    EndsIn fn results f.locals rest (.running (code ++ rest) m) outcome := by
  obtain ⟨w, σ', hvalue, rfl⟩ := Words.runStmt_assign hrun
  have hstored : storing x (fun results σ => Words.value results σ e) results σ =
      .ok (σ'.assign x w) := by
    rw [storing, hvalue]
    rfl
  obtain ⟨m', hexec, hmatches'⟩ := hperforms.carries results σ m _ hmatches hstored
  exact ⟨m', Function.Runs.straight hperforms.plain hexec, hmatches'⟩

theorem EndsIn.ret {e : Option Expr} {o : Operand} {name : String}
    (he : Words.isResult e = true) (hoperand : returnOperand Ty.i64 e = .ok o)
    (hresult : fn.result = Ty.i64) (hmatches : Matches locals σ m) {outcome : Outcome}
    (hrun : Words.runStmt results σ (.ret e) = .ok outcome) :
    EndsIn fn results locals rest' (.running (⟨name, .ret o⟩ :: rest) m) outcome := by
  obtain ⟨n, marked, rfl, hn⟩ := Words.isResult_cases he
  obtain ⟨w, hw, rfl⟩ := Words.runStmt_ret hrun
  obtain rfl : Operand.int Ty.i64 n = o := Except.ok.inj hoperand
  obtain rfl : word n = w := Except.ok.inj hw
  exact ⟨m, Function.Runs.ret hresult.symm rfl, hmatches.calls⟩

/-- The test of a branch leads to the block of its outcome. -/
theorem Opens.lands {test : Expr} {arms : Arms} {new : List Inst} (hopens : Opens test f g arms new)
    (hf : WordFrame vars f) (htest : Words.isTest vars test = true) (hcompletes : Completes fn g)
    (hahead : Ahead fn f rest) (hmatches : Matches f.locals σ m) {holds : Bool}
    (hholds : Words.test σ test = .ok holds) {b : Block}
    (hblock : fn.block? (if holds then arms.thenLabel else arms.otherwise) = some b) :
    ∃ m', fn.Runs results (.running rest m) (.running b.insts m') ∧ Matches f.locals σ m' := by
  obtain ⟨f₁, f₂, code, outcome, name, hmakes, hexec, hcode, hends, -, rfl⟩ := hopens.run
  have hf₁ := hf.grown hmakes.grown (hmakes.code_fault? hf.code)
  obtain ⟨o, code', f₂', hexec', heval⟩ := exec_condition hf₁ htest
  rw [hexec] at hexec'
  obtain ⟨houtcome, rfl⟩ := Prod.mk.inj hexec'
  obtain rfl : outcome = some o := Except.ok.inj houtcome
  obtain rfl : code = code' := hcode.toAppends.unique heval.toAppends hf₁.inRange
  -- the block goes on with the code of the test and the branch itself
  obtain ⟨more, hmore⟩ := hcompletes.extended _ _ (hopens.getElem?_start hf.inRange)
  rw [Block.extend_extend] at hmore
  rw [hahead.unique hmore, List.append_assoc]
  rw [← hmakes.locals] at hmatches
  obtain ⟨m', hcarries, ho⟩ :=
    heval.carries results σ m holds σ hmatches (reading_eq_ok.mpr ⟨hholds, rfl⟩)
  refine ⟨m', (Function.Runs.straight hcode.plain hcarries.run).trans ?_, ?_⟩
  · exact Function.Runs.condBranch ho hblock
  · rw [← hmakes.locals]
    exact hcarries.state

/-- The block with this label is the start of code that does what the suite says and then comes to `rest`. -/
def BlockRuns (fn : IR.Function) (results : Nat → Word) (locals : Table (Option Slot))
    (label : String) (body : List Stmt) (rest : List Inst) : Prop :=
  ∃ b, fn.block? label = some b ∧ ∀ ⦃σ : State⦄ ⦃m : Machine⦄ ⦃outcome : Outcome⦄,
    Matches locals σ m → Words.runSuite results σ body = .ok outcome →
      EndsIn fn results locals rest (.running b.insts m) outcome

theorem BlockRuns.nil {label : String} {b : Block} (hblock : fn.block? label = some b) :
    BlockRuns fn results locals label [] b.insts := by
  refine ⟨b, hblock, ?_⟩
  intro σ m outcome hmatches hrun
  obtain rfl : Outcome.next σ = outcome := Except.ok.inj hrun
  exact ⟨m, Function.Runs.refl _, hmatches⟩

/-- The suite of a branch, and then the block behind the branch. -/
theorem Simulates.blockRuns {place : Nat} {body : List Stmt} {f' : Frame}
    {parts : List (Stmt × List Inst)} {entry label : String} {join : List Inst}
    (h : Simulates fn results locals body (f.moved place) g)
    (hlowers : Lowers Ty.i64 body (f.moved place) parts g) (hjoins : Joins label g f' join)
    (hcompletes : Completes fn f') (hplace : f.fn.blocks[place]? = some ⟨entry, []⟩) {b : Block}
    (hblock : fn.block? label = some b) : BlockRuns fn results locals entry body b.insts := by
  have hin : (f.moved place).here < (f.moved place).fn.blocks.length :=
    (List.getElem?_eq_some_iff.mp hplace).1
  have hin' := hlowers.grown.inRange hin
  have hcompletes₁ := hcompletes.of_grown hjoins.grown
  obtain ⟨b₀, hb₀, hahead⟩ := (hcompletes₁.of_grown hlowers.grown).of_moved.enters hplace
  obtain ⟨rest, hrest⟩ := hcompletes₁.ahead hin'
  refine ⟨b₀, hb₀, ?_⟩
  intro σ m outcome hmatches hrun
  have hends := h hahead hrest hmatches hrun
  cases outcome with
  | returned w σ' => exact hends
  | next σ' =>
    obtain ⟨m', hruns, hmatches'⟩ := hends
    cases hjoins with
    | ended hended =>
      -- a suite that has ended in a return does not come to its end
      rw [hlowers.isTerminated hin, Frame.block_of_getElem? (f := f.moved place) hplace] at hended
      exact absurd hrun (Words.runSuite_returned hended)
    | branch hopen happends hlocals =>
      obtain ⟨more, rfl, -⟩ := hcompletes.ahead_appends happends hin' hrest
      exact ⟨m', hruns.trans (Function.Runs.branch hblock), hmatches'⟩

/-- A branch does what its two suites do. -/
theorem Opens.endsIn {test : Expr} {body orelse : List Stmt} {arms : Arms} {new : List Inst}
    (hopens : Opens test f g arms new) (hf : WordFrame vars f)
    (htest : Words.isTest vars test = true) (hcompletes : Completes fn g)
    (hahead : Ahead fn f rest) (hmatches : Matches f.locals σ m)
    (hthen : BlockRuns fn results f.locals arms.thenLabel body rest')
    (helse : BlockRuns fn results f.locals arms.otherwise orelse rest') {outcome : Outcome}
    (hrun : Words.runStmt results σ (.cond test body orelse) = .ok outcome) :
    EndsIn fn results f.locals rest' (.running rest m) outcome := by
  obtain ⟨holds, hholds, hsuite⟩ := Words.runStmt_cond hrun
  cases holds with
  | true =>
    obtain ⟨b, hblock, hbody⟩ := hthen
    obtain ⟨m₁, hruns, hmatches₁⟩ :=
      hopens.lands hf htest hcompletes hahead hmatches hholds hblock
    exact (hbody hmatches₁ hsuite).after hruns
  | false =>
    obtain ⟨b, hblock, horelse⟩ := helse
    obtain ⟨m₁, hruns, hmatches₁⟩ :=
      hopens.lands hf htest hcompletes hahead hmatches hholds hblock
    exact (horelse hmatches₁ hsuite).after hruns

/-- The code of a suite does what the suite says. -/
theorem Lowers.simulates {result : Ty} {body : List Stmt} {f' : Frame}
    {parts : List (Stmt × List Inst)} (h : Lowers result body f parts f')
    (hresult : result = Ty.i64) (hsuite : Words.isSuite vars body = true)
    (hassigned : Words.assigned body ⊆ vars) (hf : WordFrame vars f) (hcompletes : Completes fn f')
    (hlocals : f.locals = locals) : Simulates fn results locals body f f' := by
  induction h with
  | nil =>
    intro σ m rest rest' outcome hahead hahead' hmatches hrun
    obtain rfl := hahead.unique hahead'
    obtain rfl : Outcome.next σ = outcome := Except.ok.inj hrun
    exact ⟨m, Function.Runs.refl _, hmatches⟩
  | @simple result s suite f f₁ f₂ new parts hsimple hexec hstraight hrest ih =>
    obtain ⟨hstmt, -, hsuite'⟩ := Words.isSuite_cons hsuite
    rw [Words.assigned_cons, List.append_subset] at hassigned
    rcases Words.isStmt_cases hstmt with ⟨x, e, rfl, he⟩ | ⟨e, body, orelse, rfl, -⟩ | ⟨e, rfl, -⟩
    · rw [Words.targets_assign] at hassigned
      obtain ⟨code, f₁', hexec', hperforms⟩ :=
        exec_lowerSimple hf (hassigned.1 (List.mem_singleton_self x)) he
      -- lowering is a function, so the derivation records just this run
      obtain rfl : f₁ = f₁' := (Prod.mk.inj (hexec.symm.trans hexec')).2
      subst hlocals
      have ih' := ih hresult hsuite' hassigned.2 (hf.straight hperforms.toStraight hperforms.writable)
        hcompletes hstraight.locals
      intro σ m rest rest' outcome hahead hahead' hmatches hrun
      obtain ⟨more, rfl, hmore⟩ := (hcompletes.of_grown hrest.grown).ahead_appends
        hperforms.toAppends hf.inRange hahead
      exact EndsIn.cons (fun _ => EndsIn.assign hperforms hmatches)
        (fun σ₁ m₁ hmatches₁ => ih' hmore hahead' hmatches₁) hrun
    · cases hsimple
    · cases hsimple
  | @ret result value o suite f f₁ f₂ name parts hopen hoperand happends hlocals' hrest ih =>
    subst hresult
    obtain ⟨hstmt, -, -⟩ := Words.isSuite_cons hsuite
    intro σ m rest rest' outcome hahead hahead' hmatches hrun
    obtain ⟨more, rfl, -⟩ :=
      (hcompletes.of_grown hrest.grown).ahead_appends happends hf.inRange hahead
    rcases Words.runSuite_cons hrun with ⟨σ₁, hfirst, -⟩ | ⟨w, σ₁, hfirst, rfl⟩
    · obtain ⟨w, -, houtcome⟩ := Words.runStmt_ret hfirst
      cases houtcome
    · exact EndsIn.ret hstmt hoperand hcompletes.result hmatches hfirst
  | @branch result test body suite f g g₁ g₂ f' arms new join parts₁ parts₂ hopens hother hbody hjoins
      hrest ihbody ihrest =>
    subst hlocals
    obtain ⟨htest, hsuite₁, -, hsuite₂⟩ := Words.isSuite_cond hsuite
    rw [Words.assigned_cons, Words.targets_cond, List.append_subset, List.append_subset] at hassigned
    have harm := hbody.grown.trans hjoins.grown
    have hgrown := hopens.grown_after harm
    -- the finished function completes every frame on the way, from the last one back to the first
    have hcompletes₂ := (hcompletes.of_grown hrest.grown).of_moved
    have hcompletes₁ := hcompletes₂.of_grown hjoins.grown
    have hcompletes₀ := (hcompletes₁.of_grown hbody.grown).of_moved
    have hf₀ := hf.grown hopens.grown hcompletes₀.code_fault?
    have hplace := hopens.getElem?_then hf.inRange
    have hthen := ihbody rfl hsuite₁ hassigned.1.1
      (hf₀.moved (List.getElem?_eq_some_iff.mp hplace).1) hcompletes₁ hopens.grown.locals
    have hbehind := ihrest hresult hsuite₂ hassigned.2
      (hf.grown hgrown hcompletes₂.code_fault?) hcompletes hgrown.locals
    intro σ m rest rest' outcome hahead hahead' hmatches hrun
    obtain ⟨b, hblock, haheadEnd⟩ := hcompletes₂.enters (hopens.getElem?_end_after hf.inRange harm)
    have hotherwise : BlockRuns fn results f.locals arms.otherwise [] b.insts := by
      rw [Arms.otherwise, hother]
      exact BlockRuns.nil hblock
    exact EndsIn.cons (fun _ => hopens.endsIn hf htest hcompletes₀ hahead hmatches
      (hthen.blockRuns hbody hjoins hcompletes₂ hplace hblock) hotherwise)
      (fun σ₁ m₁ hmatches₁ => hbehind haheadEnd hahead' hmatches₁) hrun
  | @branchElse result test body orelse suite f g g₁ g₂ g₃ g₄ f' arms elseBlock elseLabel new join
      join' parts₁ parts₂ parts₃ helse hopens hother hbody hjoins horelse hjoins' hrest ihbody ihorelse
      ihrest =>
    subst hlocals
    obtain ⟨htest, hsuite₁, hsuite₂, hsuite₃⟩ := Words.isSuite_cond hsuite
    rw [Words.assigned_cons, Words.targets_cond, List.append_subset, List.append_subset] at hassigned
    have harm := hbody.grown.trans hjoins.grown
    have harm' := horelse.grown.trans hjoins'.grown
    have hgrown := hopens.grown_after_else hother harm harm'
    have hcompletes₄ := (hcompletes.of_grown hrest.grown).of_moved
    have hcompletes₃ := hcompletes₄.of_grown hjoins'.grown
    have hcompletes₂ := (hcompletes₃.of_grown horelse.grown).of_moved
    have hcompletes₁ := hcompletes₂.of_grown hjoins.grown
    have hcompletes₀ := (hcompletes₁.of_grown hbody.grown).of_moved
    have hf₀ := hf.grown hopens.grown hcompletes₀.code_fault?
    have hplace := hopens.getElem?_then hf.inRange
    have hin := (List.getElem?_eq_some_iff.mp hplace).1
    have hplace' := hopens.getElem?_else_after hf.inRange hother harm
    have hf₂ := (hf₀.moved hin).grown harm hcompletes₂.code_fault?
    have hthen := ihbody rfl hsuite₁ hassigned.1.1 (hf₀.moved hin) hcompletes₁ hopens.grown.locals
    have helse := ihorelse rfl hsuite₂ hassigned.1.2
      (hf₂.moved (List.getElem?_eq_some_iff.mp hplace').1) hcompletes₃
      (harm.locals.trans hopens.grown.locals)
    have hbehind := ihrest hresult hsuite₃ hassigned.2
      (hf.grown hgrown hcompletes₄.code_fault?) hcompletes hgrown.locals
    intro σ m rest rest' outcome hahead hahead' hmatches hrun
    obtain ⟨b, hblock, haheadEnd⟩ :=
      hcompletes₄.enters (hopens.getElem?_end_after_else hf.inRange hother harm harm')
    have hotherwise : BlockRuns fn results f.locals arms.otherwise orelse b.insts := by
      rw [Arms.otherwise, hother]
      exact helse.blockRuns horelse hjoins' hcompletes₄ hplace' hblock
    exact EndsIn.cons (fun _ => hopens.endsIn hf htest hcompletes₀ hahead hmatches
      (hthen.blockRuns hbody hjoins hcompletes₂ hplace hblock) hotherwise)
      (fun σ₁ m₁ hmatches₁ => hbehind haheadEnd hahead' hmatches₁) hrun

end Simulation

end BpfCompiler.Lower
