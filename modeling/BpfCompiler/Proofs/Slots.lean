import BpfCompiler.Proofs.Programs

/-!
# The slots of variables

The slots of a body are made by one walk over its assignments.  `Allots` describes a walk that succeeds: the
slots that it makes and the names that it binds to them, each in order.  An assignment makes a slot of its own,
takes over the slot that its suite made last, or is passed over.  The table then binds each name to what it
was bound to last, and every slot in it has been made by an `alloca` of the first block.
-/

namespace BpfCompiler.Syntax

/-- The walk passes the statement over: it binds no name and has no suites. -/
def Stmt.isPassed : Stmt → Bool
  | .cond .. => false
  | .assign [.name _] value =>
    match Lower.slotPlan value with
    | .skip _ => true
    | _ => false
  | _ => true

end BpfCompiler.Syntax

namespace BpfCompiler.Lower

open IR Syntax Emit

/-- The derivations of walks: a suite makes the slots and binds the names.  Before it, the suite made the slot
`last` last; a nested suite starts without one. -/
inductive Allots : Option Slot → List Stmt → List Slot → List (String × Slot) → Prop
  | nil (last : Option Slot) : Allots last [] [] []
  | fresh {last : Option Slot} {x : String} {value : Expr} {request : SlotRequest} {register : String}
      {rest : List Stmt} {made : List Slot} {bound : List (String × Slot)}
      (hplan : slotPlan value = .fresh request)
      (hrest : Allots (some ⟨register, request.ty⟩) rest made bound) :
      Allots last (.assign [.name x] value :: rest) (⟨register, request.ty⟩ :: made)
        ((x, ⟨register, request.ty⟩) :: bound)
  | reuse {slot : Slot} {x : String} {value : Expr} {rest : List Stmt} {made : List Slot}
      {bound : List (String × Slot)} (hplan : slotPlan value = .reuse)
      (hrest : Allots (some slot) rest made bound) :
      Allots (some slot) (.assign [.name x] value :: rest) made ((x, slot) :: bound)
  | branch {last : Option Slot} {test : Expr} {body orelse rest : List Stmt}
      {made made₁ made₂ : List Slot} {bound bound₁ bound₂ : List (String × Slot)}
      (hbody : Allots none body made bound) (horelse : Allots none orelse made₁ bound₁)
      (hrest : Allots last rest made₂ bound₂) :
      Allots last (.cond test body orelse :: rest) (made ++ (made₁ ++ made₂))
        (bound ++ (bound₁ ++ bound₂))
  | pass {last : Option Slot} {s : Stmt} {rest : List Stmt} {made : List Slot}
      {bound : List (String × Slot)} (hpass : s.isPassed = true) (hrest : Allots last rest made bound) :
      Allots last (s :: rest) made bound

/-- A name is bound to a slot that the suite made, or to the one that was made last before it. -/
theorem Allots.bound_made {last : Option Slot} {body : List Stmt} {made : List Slot}
    {bound : List (String × Slot)} (h : Allots last body made bound) :
    ∀ entry ∈ bound, last = some entry.2 ∨ entry.2 ∈ made := by
  induction h with
  | nil => simp
  | fresh hplan hrest ih =>
    intro entry hentry
    rcases List.mem_cons.mp hentry with rfl | hentry
    · exact .inr List.mem_cons_self
    · rcases ih entry hentry with hlast | hmade
      · exact .inr (Option.some.inj hlast ▸ List.mem_cons_self)
      · exact .inr (List.mem_cons_of_mem _ hmade)
  | reuse hplan hrest ih =>
    intro entry hentry
    rcases List.mem_cons.mp hentry with rfl | hentry
    · exact .inl rfl
    · exact ih entry hentry
  | branch hbody horelse hrest ihbody ihorelse ihrest =>
    intro entry hentry
    simp only [List.mem_append] at hentry ⊢
    rcases hentry with hentry | hentry | hentry
    · exact .inr (.inl ((ihbody entry hentry).resolve_left nofun))
    · exact .inr (.inr (.inl ((ihorelse entry hentry).resolve_left nofun)))
    · exact (ihrest entry hentry).imp_right fun hmade => .inr (.inr hmade)
  | pass hpass hrest ih => exact ih

/-! ### The table -/

/-- The table after names have been bound, one after the other. -/
def bindAll (locals : Table (Option Slot)) (bound : List (String × Slot)) : Table (Option Slot) :=
  bound.foldl (fun table entry => table.insert entry.1 (some entry.2)) locals

theorem bindAll_append (locals : Table (Option Slot)) (first second : List (String × Slot)) :
    bindAll locals (first ++ second) = bindAll (bindAll locals first) second :=
  List.foldl_append

/-- A name that is bound several times keeps the last slot. -/
theorem get?_bindAll (locals : Table (Option Slot)) (bound : List (String × Slot)) (x : String) :
    (bindAll locals bound).get? x = ((bound.reverse.lookup x).map some).or (locals.get? x) := by
  induction bound generalizing locals with
  | nil => rfl
  | cons entry rest ih =>
    obtain ⟨y, s⟩ := entry
    change (bindAll (locals.insert y (some s)) rest).get? x = _
    rw [ih, Table.get?_insert, List.reverse_cons, List.lookup_append]
    cases rest.reverse.lookup x with
    | some slot => rfl
    | none =>
      by_cases hx : x = y
      · simp [hx]
      · have hbeq : (x == y) = false := by simpa using hx
        simp [List.lookup_cons, hx, hbeq]

/-! ### Walks that succeed -/

/-- The instruction that makes a slot with the given alignment. -/
def slotInst (entry : Slot × Option Nat) : Inst := ⟨entry.1.register, .alloca entry.1.ty entry.2⟩

/-- The step made the slots in the current block and bound the names. -/
structure Reserves (f f' : Frame) (made : List Slot) (bound : List (String × Slot)) : Prop where
  slots : ∃ aligned : List (Slot × Option Nat),
    Appends f f' (aligned.map slotInst) ∧ aligned.map Prod.fst = made
  locals : f'.locals = bindAll f.locals bound

namespace Reserves

theorem refl (f : Frame) : Reserves f f [] [] := ⟨⟨[], Appends.refl f, rfl⟩, rfl⟩

theorem trans {f f₁ f₂ : Frame} {made made' : List Slot} {bound bound' : List (String × Slot)}
    (h : Reserves f f₁ made bound) (h' : Reserves f₁ f₂ made' bound') :
    Reserves f f₂ (made ++ made') (bound ++ bound') := by
  obtain ⟨first, happends, rfl⟩ := h.slots
  obtain ⟨second, happends', rfl⟩ := h'.slots
  refine ⟨⟨first ++ second, ?_, List.map_append⟩, ?_⟩
  · rw [List.map_append]
    exact happends.trans happends'
  · rw [h'.locals, h.locals, bindAll_append]

theorem of_straight {f f' : Frame} (h : Straight f f' []) : Reserves f f' [] [] :=
  ⟨⟨[], h.toAppends, rfl⟩, h.locals⟩

theorem bind (f : Frame) (x : String) (slot : Slot) :
    Reserves f (exec (bindSlot x slot) f).2 [] [(x, slot)] :=
  ⟨⟨[], Appends.of_same (.of_eq rfl rfl rfl) rfl rfl, rfl⟩, rfl⟩

variable {f f' : Frame} {made : List Slot} {bound : List (String × Slot)}

/-- The slots have different registers. -/
theorem distinct (h : Reserves f f' made bound) : (made.map Slot.register).Nodup := by
  obtain ⟨aligned, happends, rfl⟩ := h.slots
  simpa [List.map_map, Function.comp_def, slotInst] using happends.distinct

/-- Each slot stands in the block. -/
theorem alloca_mem (h : Reserves f f' made bound) (hin : f.here < f.fn.blocks.length) {s : Slot}
    (hs : s ∈ made) : ∃ align, ⟨s.register, .alloca s.ty align⟩ ∈ f'.block.insts := by
  obtain ⟨aligned, happends, rfl⟩ := h.slots
  obtain ⟨entry, hentry, rfl⟩ := List.mem_map.mp hs
  refine ⟨entry.2, ?_⟩
  rw [happends.block hin]
  exact List.mem_append_right _ (List.mem_map_of_mem (f := slotInst) hentry)

/-- From an empty table, a name has the slot that it was bound to last. -/
theorem get?_eq_some_iff (h : Reserves f f' made bound) (hempty : f.locals = Table.empty)
    {x : String} {s : Slot} :
    f'.locals.get? x = some (some s) ↔ bound.reverse.lookup x = some s := by
  rw [h.locals, get?_bindAll, hempty, Table.get?_empty, Option.or_none]
  simp

end Reserves

/-- What one statement makes and binds: the walk over the rest of the suite goes on from there. -/
def AllotsStmt (last : Option Slot) (s : Stmt) (out : Option Slot) (f f' : Frame) : Prop :=
  ∃ made bound, Reserves f f' made bound ∧ ∀ {rest : List Stmt} {made' : List Slot}
    {bound' : List (String × Slot)}, Allots out rest made' bound' →
      Allots last (s :: rest) (made ++ made') (bound ++ bound')

theorem AllotsStmt.passed {last : Option Slot} {s : Stmt} {f f' : Frame} (hpass : s.isPassed = true)
    (h : Straight f f' []) : AllotsStmt last s last f f' :=
  ⟨[], [], .of_straight h, .pass hpass⟩

/-- An assignment that asks for a slot gets it. -/
theorem exec_allocateAssign_fresh {value : Expr} {request : SlotRequest}
    (hplan : slotPlan value = .fresh request) (last : Option Slot) (x : String) (f : Frame) :
    ∃ register f', exec (allocateAssign last [.name x] value) f =
        (.ok (some ⟨register, request.ty⟩), f') ∧
      Reserves f f' [⟨register, request.ty⟩] [(x, ⟨register, request.ty⟩)] := by
  obtain ⟨register, f₁, halloca, hstraight⟩ := exec_alloca x request.ty request.align f
  obtain ⟨f₂, hsay, hstraight₂, -⟩ :=
    say_straight ("Pre-allocated variable " ++ x ++ " " ++ request.purpose) f₁
  have hmade : Reserves f f₁ [⟨register, request.ty⟩] [] :=
    ⟨⟨[(⟨register, request.ty⟩, request.align)], hstraight.toAppends, rfl⟩, hstraight.locals⟩
  refine ⟨register, _, ?_, (hmade.trans (.of_straight hstraight₂)).trans (.bind f₂ x _)⟩
  unfold allocateAssign
  dsimp only
  rw [hplan]
  dsimp only
  rw [exec_bind_ok halloca, exec_bind_ok hsay]
  rfl

theorem allocateAssign_allots {last out : Option Slot} {targets : List Expr} {value : Expr}
    {f f' : Frame} (h : exec (allocateAssign last targets value) f = (.ok out, f')) :
    AllotsStmt last (.assign targets value) out f f' := by
  have hskip : ∀ reason : Text, (Stmt.assign targets value).isPassed = true →
      exec (do say reason; return last) f = (.ok out, f') →
        AllotsStmt last (.assign targets value) out f f' := by
    intro reason hpass hexec
    obtain ⟨f₁, hsay, hstraight, -⟩ := say_straight reason f
    rw [exec_bind_ok hsay] at hexec
    obtain ⟨rfl, rfl⟩ := exec_pure_inv hexec
    exact .passed hpass hstraight
  have hrun := h
  unfold allocateAssign at h
  split at h
  · rename_i x
    split at h
    · rename_i request hplan
      obtain ⟨register, f₁, hfresh, hreserves⟩ := exec_allocateAssign_fresh hplan last x f
      rw [hfresh] at hrun
      cases hrun
      exact ⟨_, _, hreserves, .fresh hplan⟩
    · rename_i hplan
      split at h
      · rename_i slot
        rw [exec_bind_ok (rfl : exec (bindSlot _ slot) f = (.ok (), _))] at h
        obtain ⟨rfl, rfl⟩ := exec_pure_inv h
        exact ⟨_, _, .bind f x slot, .reuse hplan⟩
      · exact exec_throw_inv h
    · rename_i reason hplan
      exact hskip _ (by simp [Stmt.isPassed, hplan]) h
  · rename_i hname
    refine hskip _ ?_ h
    unfold Stmt.isPassed
    split <;> simp_all
  · rename_i hname hsingle
    refine hskip _ ?_ h
    unfold Stmt.isPassed
    split <;> simp_all

/-- A walk that succeeds makes and binds what its derivation says. -/
theorem allots_of_exec :
    (∀ (last : Option Slot) (s : Stmt) {f f' : Frame} {out : Option Slot},
      exec (allocateStmt last s) f = (.ok out, f') → AllotsStmt last s out f f') ∧
    ∀ (last : Option Slot) (body : List Stmt) {f f' : Frame},
      exec (allocateSuite last body) f = (.ok (), f') →
        ∃ made bound, Allots last body made bound ∧ Reserves f f' made bound := by
  refine allocateStmt.mutual_induct
    (fun last s => ∀ {f f' : Frame} {out : Option Slot},
      exec (allocateStmt last s) f = (.ok out, f') → AllotsStmt last s out f f')
    (fun last body => ∀ {f f' : Frame}, exec (allocateSuite last body) f = (.ok (), f') →
      ∃ made bound, Allots last body made bound ∧ Reserves f f' made bound) ?_ ?_ ?_ ?_ ?_
  · intro last test body orelse ihbody ihorelse f f' out h
    rw [allocateStmt] at h
    obtain ⟨⟨⟩, f₁, hbody, htail⟩ := exec_bind_inv h
    obtain ⟨⟨⟩, f₂, horelse, hend⟩ := exec_bind_inv htail
    obtain ⟨rfl, rfl⟩ := exec_pure_inv hend
    obtain ⟨made, bound, hallots, hreserves⟩ := ihbody hbody
    obtain ⟨made₁, bound₁, hallots₁, hreserves₁⟩ := ihorelse horelse
    refine ⟨_, _, hreserves.trans hreserves₁, fun hrest => ?_⟩
    simpa only [List.append_assoc] using hallots.branch hallots₁ hrest
  · intro last targets value f f' out h
    rw [allocateStmt] at h
    exact allocateAssign_allots h
  · intro s last hcond hassign f f' out h
    rw [allocateStmt] at h
    · obtain ⟨rfl, rfl⟩ := exec_pure_inv h
      refine .passed ?_ (Straight.refl _)
      unfold Stmt.isPassed
      split <;> simp_all
    · exact hcond
    · exact hassign
  · intro last f f' h
    rw [allocateSuite] at h
    obtain ⟨-, rfl⟩ := exec_pure_inv h
    exact ⟨[], [], .nil last, .refl _⟩
  · intro last s rest ihstmt ihrest f f' h
    rw [allocateSuite] at h
    obtain ⟨out, f₁, hstmt, hrest⟩ := exec_bind_inv h
    obtain ⟨made, bound, hreserves, hallots⟩ := ihstmt hstmt
    obtain ⟨made', bound', hallots', hreserves'⟩ := ihrest out hrest
    exact ⟨_, _, hallots hallots', hreserves.trans hreserves'⟩

/-- The current block makes every slot of the table. -/
def TableMade (f : Frame) : Prop :=
  ∀ x slot, f.locals.get? x = some (some slot) →
    ∃ align, ⟨slot.register, .alloca slot.ty align⟩ ∈ f.block.insts

theorem mem_of_lookup {α β : Type} [BEq α] [LawfulBEq α] {entries : List (α × β)} {a : α} {b : β}
    (h : entries.lookup a = some b) : (a, b) ∈ entries := by
  obtain ⟨before, after, rfl, -⟩ := List.lookup_eq_some_iff.mp h
  simp

theorem exists_of_forall₂_left {α β : Type} {R : α → β → Prop} {as : List α} {bs : List β}
    (h : List.Forall₂ R as bs) {a : α} (ha : a ∈ as) : ∃ b ∈ bs, R a b := by
  induction h with
  | nil => cases ha
  | cons hab _ ih =>
    rcases List.mem_cons.mp ha with rfl | hrest
    · exact ⟨_, List.mem_cons_self, hab⟩
    · obtain ⟨b, hb, hR⟩ := ih hrest
      exact ⟨b, List.mem_cons_of_mem _ hb, hR⟩

/-- Every slot of a program is made in its first block. -/
theorem Prepares.tableMade {w : Workspace} {d : Syntax.Function} {result : Ty} {f : Frame}
    {slots : List Inst} (h : Prepares d.body (programStart w d result) f slots) : TableMade f := by
  obtain ⟨f₀, hallocate, hstraight⟩ := h.table
  have hin := programStart_inRange w d result
  obtain ⟨made, bound, hallots, hreserves⟩ := allots_of_exec.2 none d.body hallocate
  intro x slot hx
  rw [hstraight.locals, hreserves.get?_eq_some_iff rfl] at hx
  have hbound : (x, slot) ∈ bound := List.mem_reverse.mp (mem_of_lookup hx)
  have hmade : slot ∈ made := (hallots.bound_made _ hbound).resolve_left nofun
  obtain ⟨align, hmem⟩ := hreserves.alloca_mem hin hmade
  have hblock : f.block = f₀.block := by
    rw [Frame.block, Frame.block, hstraight.blocks_nil, hstraight.here]
  exact ⟨align, hblock ▸ hmem⟩

end BpfCompiler.Lower
