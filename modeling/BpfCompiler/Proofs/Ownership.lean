import BpfCompiler.Proofs.Programs
import Mathlib.Data.List.Perm.Basic

/-!
# Which statement an instruction belongs to

The parts of a derivation list the statements that the lowering meets, each with its own instructions.  The
account is exact: the statements are those of the syntax, in order and at every depth of branches, an
instruction of the lowered suite belongs to one of them, and no two instructions have the same name.
-/

namespace BpfCompiler.Lower

open IR Syntax Emit

/-! ### The statements -/

theorem Lowers.map_fst_parts {result : Ty} {body : List Stmt} {f f' : Frame}
    {parts : List (Stmt × List Inst)} (h : Lowers result body f parts f') :
    parts.map Prod.fst = Stmt.reachedAll body := by
  induction h with
  | nil => rfl
  | simple hsimple hexec hstraight hrest ih =>
    rw [List.map_cons, ih, Stmt.reachedAll, Stmt.reached_of_isSimple hsimple]
    rfl
  | ret hopen hoperand happends hlocals hrest ih =>
    rw [List.map_cons, ih, Stmt.reachedAll, Stmt.reached]
    · rfl
    · simp
  | branch hopens hother hbody hjoins hrest ihbody ihrest =>
    rw [List.map_cons, List.map_append, ihbody, ihrest, Stmt.reachedAll, Stmt.reached,
      Stmt.reachedAll, List.append_nil]
    rfl
  | branchElse helse hopens hother hbody hjoins horelse hjoins' hrest ihbody ihorelse ihrest =>
    rw [List.map_cons, List.map_append, List.map_append, ihbody, ihorelse, ihrest, Stmt.reachedAll,
      Stmt.reached]
    rfl

/-! ### The instructions -/

/-- The instruction stands in some block of the function. -/
def Holds (f : Frame) (i : Inst) : Prop := ∃ b ∈ f.fn.blocks, i ∈ b.insts

theorem holds_iff_getElem? {f : Frame} {i : Inst} :
    Holds f i ↔ ∃ (k : Nat) (b : Block), f.fn.blocks[k]? = some b ∧ i ∈ b.insts := by
  constructor
  · rintro ⟨b, hb, hi⟩
    obtain ⟨k, hk⟩ := List.getElem?_of_mem hb
    exact ⟨k, b, hk, hi⟩
  · rintro ⟨k, b, hk, hi⟩
    exact ⟨b, List.mem_of_getElem? hk, hi⟩

theorem Appends.holds_iff {f f' : Frame} {new : List Inst} (h : Appends f f' new)
    (hin : f.here < f.fn.blocks.length) {i : Inst} : Holds f' i ↔ Holds f i ∨ i ∈ new := by
  rw [holds_iff_getElem?, holds_iff_getElem?, h.blocks]
  constructor
  · rintro ⟨k, b, hk, hi⟩
    rw [List.getElem?_modify] at hk
    obtain ⟨b', hb', hmap⟩ := Option.map_eq_some_iff.mp hk
    by_cases hhere : f.here = k
    · rw [if_pos hhere] at hmap
      rw [← hmap, Block.extend_insts, List.mem_append] at hi
      exact hi.imp_left fun hold => ⟨k, b', hb', hold⟩
    · rw [if_neg hhere] at hmap
      exact .inl ⟨k, b', hb', by rw [← hmap] at hi; exact hi⟩
  · rintro (⟨k, b, hk, hi⟩ | hi)
    · refine ⟨k, _, by rw [List.getElem?_modify, hk]; rfl, ?_⟩
      split
      · exact List.mem_append_left _ hi
      · exact hi
    · refine ⟨f.here, _, by rw [List.getElem?_modify_eq, Frame.getElem?_here hin]; rfl, ?_⟩
      exact List.mem_append_right _ hi

theorem Makes.holds_iff {f f' : Frame} {arms : Arms} (h : Makes f f' arms) {i : Inst} :
    Holds f' i ↔ Holds f i := by
  constructor
  · rintro ⟨b, hb, hi⟩
    rw [h.blocks, List.mem_append] at hb
    rcases hb with hold | hnew
    · exact ⟨b, hold, hi⟩
    · obtain ⟨label, -, rfl⟩ := List.mem_map.mp hnew
      simp at hi
  · rintro ⟨b, hb, hi⟩
    exact ⟨b, by rw [h.blocks]; exact List.mem_append_left _ hb, hi⟩

theorem Opens.holds_iff {test : Expr} {f g : Frame} {arms : Arms} {new : List Inst}
    (h : Opens test f g arms new) (hin : f.here < f.fn.blocks.length) {i : Inst} : Holds g i ↔ Holds f i ∨ i ∈ new := by
  obtain ⟨f₁, hmakes, happends, -⟩ := h.steps
  rw [happends.holds_iff (hmakes.inRange hin), hmakes.holds_iff]

theorem Joins.holds_iff {label : String} {f f' : Frame} {new : List Inst}
    (h : Joins label f f' new) (hin : f.here < f.fn.blocks.length) {i : Inst} :
    Holds f' i ↔ Holds f i ∨ i ∈ new := by
  cases h with
  | ended hended => simp
  | branch hopen happends hlocals => exact happends.holds_iff hin

theorem holds_moved {f : Frame} {place : Nat} {i : Inst} : Holds (f.moved place) i ↔ Holds f i :=
  Iff.rfl

/-- The instructions of a suite are those of its parts. -/
theorem Lowers.holds_iff {result : Ty} {body : List Stmt} {f f' : Frame}
    {parts : List (Stmt × List Inst)} (h : Lowers result body f parts f')
    (hin : f.here < f.fn.blocks.length) {i : Inst} :
    Holds f' i ↔ Holds f i ∨ i ∈ parts.flatMap Prod.snd := by
  induction h with
  | nil => simp
  | simple hsimple hexec hstraight hrest ih =>
    rw [ih (hstraight.grown.inRange hin), hstraight.holds_iff hin, List.flatMap_cons,
      List.mem_append, or_assoc]
  | ret hopen hoperand happends hlocals hrest ih =>
    rw [ih ((happends.grown hlocals).inRange hin), happends.holds_iff hin, List.flatMap_cons,
      List.mem_append, or_assoc]
  | @branch result test body rest f g g₁ g₂ f' arms new join parts₁ parts₂ hopens hother hbody hjoins
      hrest ihbody ihrest =>
    have hthen := hopens.getElem?_then hin
    have hinThen := (List.getElem?_eq_some_iff.mp hthen).1
    have hafter := hopens.getElem?_end_after hin (hbody.grown.trans hjoins.grown)
    rw [ihrest (List.getElem?_eq_some_iff.mp hafter).1, holds_moved,
      hjoins.holds_iff (hbody.grown.inRange hinThen), ihbody hinThen, holds_moved,
      hopens.holds_iff hin, List.flatMap_cons, List.flatMap_append]
    simp only [List.mem_append, or_assoc, or_comm, or_left_comm]
  | @branchElse result test body orelse rest f g g₁ g₂ g₃ g₄ f' arms elseBlock elseLabel new join join'
      parts₁ parts₂ parts₃ helse hopens hother hbody hjoins horelse hjoins' hrest ihbody ihorelse
      ihrest =>
    have harm := hbody.grown.trans hjoins.grown
    have harm' := horelse.grown.trans hjoins'.grown
    have hthen := hopens.getElem?_then hin
    have hinThen := (List.getElem?_eq_some_iff.mp hthen).1
    have helseAt := hopens.getElem?_else_after hin hother harm
    have hinElse := (List.getElem?_eq_some_iff.mp helseAt).1
    have hafter := hopens.getElem?_end_after_else hin hother harm harm'
    rw [ihrest (List.getElem?_eq_some_iff.mp hafter).1, holds_moved,
      hjoins'.holds_iff (horelse.grown.inRange hinElse), ihorelse hinElse, holds_moved,
      hjoins.holds_iff (hbody.grown.inRange hinThen), ihbody hinThen, holds_moved,
      hopens.holds_iff hin, List.flatMap_cons, List.flatMap_append, List.flatMap_append]
    simp only [List.mem_append, or_assoc, or_comm, or_left_comm]

/-! ### Their names -/

/-- The names of the instructions are different, and were taken between the two frames. -/
structure OwnNames (f f' : Frame) (insts : List Inst) : Prop where
  used : f.fn.scope.used ⊆ f'.fn.scope.used
  fresh : ∀ i ∈ insts, i.name ∉ f.fn.scope.used
  taken : ∀ i ∈ insts, i.name ∈ f'.fn.scope.used
  distinct : (insts.map Inst.name).Nodup

namespace OwnNames

variable {f f₁ f₂ : Frame} {first second : List Inst}

theorem of_appends (h : Appends f f₁ first) : OwnNames f f₁ first :=
  ⟨h.used, h.fresh, h.taken, h.distinct⟩

theorem of_makes {arms : Arms} (h : Makes f f₁ arms) : OwnNames f f₁ [] :=
  ⟨h.used, by simp, by simp, by simp⟩

theorem append (h : OwnNames f f₁ first) (h' : OwnNames f₁ f₂ second) :
    OwnNames f f₂ (first ++ second) where
  used := fun _ hname => h'.used (h.used hname)
  fresh := by
    intro i hi
    rcases List.mem_append.mp hi with hfirst | hsecond
    · exact h.fresh i hfirst
    · exact fun hused => h'.fresh i hsecond (h.used hused)
  taken := by
    intro i hi
    rcases List.mem_append.mp hi with hfirst | hsecond
    · exact h'.used (h.taken i hfirst)
    · exact h'.taken i hsecond
  distinct := by
    rw [List.map_append, List.nodup_append]
    refine ⟨h.distinct, h'.distinct, ?_⟩
    intro name hfirst other hsecond heq
    obtain ⟨i, hi, rfl⟩ := List.mem_map.mp hfirst
    obtain ⟨j, hj, rfl⟩ := List.mem_map.mp hsecond
    exact h'.fresh j hj (heq ▸ h.taken i hi)

theorem perm (h : OwnNames f f₁ first) (hperm : first.Perm second) : OwnNames f f₁ second where
  used := h.used
  fresh := fun i hi => h.fresh i (hperm.mem_iff.mpr hi)
  taken := fun i hi => h.taken i (hperm.mem_iff.mpr hi)
  distinct := ((hperm.map Inst.name).nodup_iff).mp h.distinct

theorem of_moved {place : Nat} (h : OwnNames (f.moved place) f₁ first) : OwnNames f f₁ first :=
  ⟨h.used, h.fresh, h.taken, h.distinct⟩

end OwnNames

theorem Opens.ownNames {test : Expr} {f g : Frame} {arms : Arms} {new : List Inst}
    (h : Opens test f g arms new) :
    OwnNames f g new := by
  obtain ⟨f₁, hmakes, happends, -⟩ := h.steps
  exact (OwnNames.of_makes hmakes).append (.of_appends happends)

theorem Joins.ownNames {label : String} {f f' : Frame} {new : List Inst}
    (h : Joins label f f' new) : OwnNames f f' new := by
  cases h with
  | ended hended => exact .of_appends (Appends.refl f)
  | branch hopen happends hlocals => exact .of_appends happends

/-- No two instructions of the parts have the same name. -/
theorem Lowers.ownNames {result : Ty} {body : List Stmt} {f f' : Frame}
    {parts : List (Stmt × List Inst)} (h : Lowers result body f parts f') :
    OwnNames f f' (parts.flatMap Prod.snd) := by
  induction h with
  | nil => exact .of_appends (Appends.refl _)
  | simple hsimple hexec hstraight hrest ih =>
    rw [List.flatMap_cons]
    exact (OwnNames.of_appends hstraight.toAppends).append ih
  | ret hopen hoperand happends hlocals hrest ih =>
    rw [List.flatMap_cons]
    exact (OwnNames.of_appends happends).append ih
  | @branch result test body rest f g g₁ g₂ f' arms new join parts₁ parts₂ hopens hother hbody hjoins
      hrest ihbody ihrest =>
    -- the instructions were made in the order branch, suite, join
    have hmade : OwnNames f f' (new ++ parts₁.flatMap Prod.snd ++ join ++ parts₂.flatMap Prod.snd) :=
      ((hopens.ownNames.append ihbody.of_moved).append hjoins.ownNames).append ihrest.of_moved
    refine hmade.perm ?_
    rw [List.flatMap_cons, List.flatMap_append]
    simp only [List.append_assoc]
    exact (List.perm_append_comm_assoc _ join _).append_left new
  | @branchElse result test body orelse rest f g g₁ g₂ g₃ g₄ f' arms elseBlock elseLabel new join join'
      parts₁ parts₂ parts₃ helse hopens hother hbody hjoins horelse hjoins' hrest ihbody ihorelse
      ihrest =>
    have hmade : OwnNames f f' (new ++ parts₁.flatMap Prod.snd ++ join ++ parts₂.flatMap Prod.snd ++
        join' ++ parts₃.flatMap Prod.snd) :=
      ((((hopens.ownNames.append ihbody.of_moved).append hjoins.ownNames).append
        ihorelse.of_moved).append hjoins'.ownNames).append ihrest.of_moved
    refine hmade.perm ?_
    rw [List.flatMap_cons, List.flatMap_append, List.flatMap_append]
    simp only [List.append_assoc]
    refine List.Perm.append_left new ((List.perm_append_comm_assoc _ join _).trans ?_)
    refine List.Perm.append_left join ?_
    exact ((List.perm_append_comm_assoc _ join' _).append_left _).trans
      (List.perm_append_comm_assoc _ join' _)

end BpfCompiler.Lower
