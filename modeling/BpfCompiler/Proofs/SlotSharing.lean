import BpfCompiler.Proofs.SlotUse

/-!
# Variables that share a slot

An assignment of a call that is no helper and no type makes no slot, but it binds its variable to the slot that
the suite made last, and the two variables share it from then on.  Which slot each variable ends with can be read
off the body: the slots are numbered in the order in which they are made, `slotUses` lists the number that each
assignment binds its variable to, and the last one counts.

Two variables have one slot exactly if they end with one number.  So a body without such calls keeps all its
variables apart.
-/

namespace BpfCompiler.Lower

open IR Syntax Emit

/-! ### Numbers of slots -/

/-- How many slots a suite makes. -/
def slotCount (body : List Stmt) : Nat := (entriesOf body).countP fun entry => entry.2.isSome

/-- The number of the slot that the suite made last, after a statement that makes its slot as number `made`. -/
def lastSlot (made : Nat) (last : Option Nat) (s : Stmt) : Option Nat :=
  match entryOf? s with
  | some (_, some _) => some made
  | _ => last

mutual

/-- The variables that a statement binds, each with the number of its slot; `made` slots were made before, and the
suite made `last` last. -/
def stmtUses (made : Nat) (last : Option Nat) : Stmt → List (String × Nat)
  | .cond _ body orelse => slotUses made none body ++ slotUses (made + slotCount body) none orelse
  | s =>
    match entryOf? s with
    | some (x, some _) => [(x, made)]
    | some (x, none) => last.toList.map fun k => (x, k)
    | none => []

/-- The variables that the statements of a suite bind, in order. -/
def slotUses (made : Nat) (last : Option Nat) : List Stmt → List (String × Nat)
  | [] => []
  | s :: rest => stmtUses made last s ++ slotUses (made + slotCount [s]) (lastSlot made last s) rest

end

/-- The number of the slot that a variable of the body ends with. -/
def finalSlot (body : List Stmt) (x : String) : Option Nat := (slotUses 0 none body).reverse.lookup x

section Equations

variable {x : String} {value : Expr} {request : SlotRequest} {s : Stmt} (rest : List Stmt)

theorem slotCount_cons (h : s.reached = [s]) :
    slotCount (s :: rest) = (entryOf? s).toList.countP (fun entry => entry.2.isSome) + slotCount rest := by
  rw [slotCount, entriesOf_cons rest h, List.countP_append, slotCount]

theorem slotCount_cond (test : Expr) (body orelse : List Stmt) :
    slotCount (.cond test body orelse :: rest) =
      slotCount body + (slotCount orelse + slotCount rest) := by
  rw [slotCount, entriesOf_cond, List.countP_append, List.countP_append, slotCount, slotCount, slotCount]

variable (made : Nat) (last : Option Nat)

theorem slotUses_fresh (h : slotPlan value = .fresh request) :
    slotUses made last (.assign [.name x] value :: rest) =
      (x, made) :: slotUses (made + 1) (some made) rest := by
  rw [slotUses, stmtUses, lastSlot, slotCount_cons [] (Stmt.reached_of_isSimple rfl), entryOf?_fresh h]
  · rfl
  · nofun

theorem slotUses_reuse (k : Nat) (h : slotPlan value = .reuse) :
    slotUses made (some k) (.assign [.name x] value :: rest) =
      (x, k) :: slotUses made (some k) rest := by
  rw [slotUses, stmtUses, lastSlot, slotCount_cons [] (Stmt.reached_of_isSimple rfl), entryOf?_reuse h]
  · rfl
  · nofun

theorem slotUses_cond (test : Expr) (body orelse : List Stmt) :
    slotUses made last (.cond test body orelse :: rest) =
      slotUses made none body ++ (slotUses (made + slotCount body) none orelse ++
        slotUses (made + slotCount body + slotCount orelse) last rest) := by
  rw [slotUses, stmtUses, slotCount_cond, List.append_assoc, ← Nat.add_assoc, ← Nat.add_assoc]
  rfl

theorem slotUses_pass (h : s.isPassed = true) :
    slotUses made last (s :: rest) = slotUses made last rest := by
  obtain ⟨hreached, hnone⟩ := entryOf?_of_isPassed h
  rw [slotUses, stmtUses, lastSlot, slotCount_cons [] hreached, hnone]
  · rfl
  · rintro test body orelse rfl
    cases h

end Equations

/-! ### The numbers are right -/

/-- The entry binds the variable to the slot with the number. -/
def Denotes (slots : List Slot) (use : String × Nat) (entry : String × Slot) : Prop :=
  use.1 = entry.1 ∧ slots[use.2]? = some entry.2

theorem getElem?_append_of_some {α : Type} {first : List α} {k : Nat} {a : α}
    (h : first[k]? = some a) (second : List α) : (first ++ second)[k]? = some a := by
  rw [List.getElem?_append_left (List.getElem?_eq_some_iff.mp h).1, h]

theorem Denotes.append {slots : List Slot} {uses : List (String × Nat)} {bound : List (String × Slot)}
    (h : List.Forall₂ (Denotes slots) uses bound) (more : List Slot) :
    List.Forall₂ (Denotes (slots ++ more)) uses bound :=
  h.imp fun _ _ ⟨hname, hslot⟩ => ⟨hname, getElem?_append_of_some hslot more⟩

/-- The number, if there is one, is that of the slot that was made last. -/
def Numbers (slots : List Slot) (number : Option Nat) (last : Option Slot) : Prop :=
  ∀ slot, last = some slot → ∃ k, number = some k ∧ slots[k]? = some slot

/-- The walk binds each variable to the slot that has its number, counted from the slots made before. -/
theorem Allots.slotUses {last : Option Slot} {body : List Stmt} {made : List Slot}
    {bound : List (String × Slot)} (h : Allots last body made bound) {before : List Slot}
    {number : Option Nat} (hlast : Numbers before number last) :
    made.length = slotCount body ∧
      List.Forall₂ (Denotes (before ++ made)) (slotUses before.length number body) bound := by
  induction h generalizing before number with
  | nil => exact ⟨rfl, .nil⟩
  | @fresh _ x value request register rest made bound hplan hrest ih =>
    have hnext : Numbers (before ++ [⟨register, request.ty⟩]) (some before.length)
        (some ⟨register, request.ty⟩) := by
      rintro _ ⟨⟩
      exact ⟨_, rfl, by simp⟩
    obtain ⟨hlength, huses⟩ := ih hnext
    rw [slotUses_fresh rest _ _ hplan, slotCount_cons rest (Stmt.reached_of_isSimple rfl),
      entryOf?_fresh hplan]
    refine ⟨?_, .cons ⟨rfl, by simp⟩ ?_⟩
    · rw [List.length_cons, hlength, Nat.add_comm]
      rfl
    · simpa using huses
  | @reuse slot x value rest made bound hplan hrest ih =>
    obtain ⟨k, rfl, hk⟩ := hlast slot rfl
    obtain ⟨hlength, huses⟩ := ih hlast
    rw [slotUses_reuse rest _ k hplan, slotCount_cons rest (Stmt.reached_of_isSimple rfl),
      entryOf?_reuse hplan]
    refine ⟨?_, .cons ⟨rfl, getElem?_append_of_some hk made⟩ huses⟩
    rw [hlength]
    exact (Nat.zero_add _).symm
  | @branch last test body orelse rest made made₁ made₂ bound bound₁ bound₂ hbody horelse hrest ihbody
      ihorelse ihrest =>
    -- the slots of the three parts stand one after the other behind those made before
    have hnone : ∀ slots, Numbers slots none none := nofun
    have hlast₂ : Numbers (before ++ made ++ made₁) number last := fun slot hslot =>
      (hlast slot hslot).imp fun k hk =>
        ⟨hk.1, getElem?_append_of_some (getElem?_append_of_some hk.2 _) _⟩
    obtain ⟨hlength, huses⟩ := ihbody (hnone before)
    obtain ⟨hlength₁, huses₁⟩ := ihorelse (hnone (before ++ made))
    obtain ⟨hlength₂, huses₂⟩ := ihrest hlast₂
    rw [List.length_append] at huses₁
    rw [List.length_append, List.length_append] at huses₂
    have hall : before ++ (made ++ (made₁ ++ made₂)) = before ++ made ++ made₁ ++ made₂ := by simp
    rw [slotCount_cond, slotUses_cond, ← hlength, ← hlength₁, ← hlength₂, hall]
    refine ⟨by simp, ?_⟩
    exact List.rel_append (Denotes.append (Denotes.append huses _) _)
      (List.rel_append (Denotes.append huses₁ _) huses₂)
  | @pass last s rest made bound hpass hrest ih =>
    obtain ⟨hreached, hnone⟩ := entryOf?_of_isPassed hpass
    obtain ⟨hlength, huses⟩ := ih hlast
    rw [slotUses_pass rest _ _ hpass, slotCount_cons rest hreached, hnone]
    refine ⟨?_, huses⟩
    rw [hlength]
    exact (Nat.zero_add _).symm

/-- If no variable takes over a slot, each is bound to the slot that was made for it. -/
theorem Allots.bound_eq_made {last : Option Slot} {body : List Stmt} {made : List Slot}
    {bound : List (String × Slot)} (h : Allots last body made bound)
    (hown : ∀ entry ∈ entriesOf body, entry.2.isSome = true) : bound.map Prod.snd = made := by
  induction h with
  | nil => rfl
  | fresh hplan hrest ih =>
    rw [entriesOf_cons _ (Stmt.reached_of_isSimple rfl)] at hown
    rw [List.map_cons, ih fun entry hentry => hown entry (List.mem_append_right _ hentry)]
  | @reuse _ x value rest made bound hplan hrest ih =>
    rw [entriesOf_cons _ (Stmt.reached_of_isSimple rfl), entryOf?_reuse hplan] at hown
    cases hown (x, none) List.mem_cons_self
  | branch hbody horelse hrest ihbody ihorelse ihrest =>
    simp only [entriesOf_cond, List.mem_append] at hown
    rw [List.map_append, List.map_append, ihbody fun entry hentry => hown entry (.inl hentry),
      ihorelse fun entry hentry => hown entry (.inr (.inl hentry)),
      ihrest fun entry hentry => hown entry (.inr (.inr hentry))]
  | pass hpass hrest ih =>
    rw [entriesOf_cons _ (entryOf?_of_isPassed hpass).1] at hown
    exact ih fun entry hentry => hown entry (List.mem_append_right _ hentry)

/-! ### Sharing -/

theorem lookup_of_forall₂ {slots : List Slot} {uses : List (String × Nat)}
    {bound : List (String × Slot)} (h : List.Forall₂ (Denotes slots) uses bound) (x : String) :
    (bound.lookup x).map some = (uses.lookup x).map fun k => slots[k]? := by
  induction h with
  | nil => rfl
  | @cons use entry uses bound huse hrest ih =>
    obtain ⟨hname, hk⟩ := huse
    rw [List.lookup_cons, List.lookup_cons, hname]
    cases x == entry.1 with
    | true => exact congrArg some hk.symm
    | false => exact ih

/-- Two variables of the table never have one register. -/
def SeparateSlots (locals : Table (Option Slot)) : Prop :=
  ∀ x y s t, locals.get? x = some (some s) → locals.get? y = some (some t) → x ≠ y →
    s.register ≠ t.register

/-- In a table that a walk filled, each variable has the slot whose number it ends with. -/
theorem Reserves.get?_eq_finalSlot {body : List Stmt} {made : List Slot}
    {bound : List (String × Slot)} {f f' : Frame} (h : Reserves f f' made bound)
    (hallots : Allots none body made bound) (hempty : f.locals = Table.empty) {x : String} {s : Slot} :
    f'.locals.get? x = some (some s) ↔ ∃ k, finalSlot body x = some k ∧ made[k]? = some s := by
  have huses := (hallots.slotUses (nofun : Numbers [] none none)).2
  have hlookup := lookup_of_forall₂ (List.forall₂_reverse_iff.mpr huses) x
  rw [h.locals, get?_bindAll, hempty, Table.get?_empty, Option.or_none, hlookup,
    Option.map_eq_some_iff]
  rfl

/-- Every number that a variable ends with is that of a slot. -/
theorem Allots.exists_of_finalSlot {body : List Stmt} {made : List Slot}
    {bound : List (String × Slot)} (h : Allots none body made bound) {x : String} {k : Nat}
    (hx : finalSlot body x = some k) : ∃ s, made[k]? = some s := by
  have huses := (h.slotUses (nofun : Numbers [] none none)).2
  have hlookup := lookup_of_forall₂ (List.forall₂_reverse_iff.mpr huses) x
  rw [finalSlot] at hx
  obtain ⟨s, -, hs⟩ := Option.map_eq_some_iff.mp (hlookup.trans (congrArg _ hx))
  exact ⟨s, hs.symm⟩

/-- The slots of a walk from an empty table are kept apart exactly if no two variables end with one number; they
are if every assignment that is entered in the table makes a slot of its own. -/
theorem allocate_separateSlots {body : List Stmt} {f f' : Frame} (hempty : f.locals = Table.empty)
    (h : exec (allocate body) f = (.ok (), f')) :
    (SeparateSlots f'.locals ↔
      ∀ x y k, finalSlot body x = some k → finalSlot body y = some k → x = y) ∧
    ((∀ entry ∈ entriesOf body, entry.2.isSome = true) → SeparateSlots f'.locals) := by
  obtain ⟨made, bound, hallots, hreserves⟩ := allots_of_exec.2 none body h
  have hdistinct := hreserves.distinct
  refine ⟨⟨fun hseparate x y k hx hy => ?_, fun hnumbers x y s t hx hy hne hregister => ?_⟩,
    fun hown x y s t hx hy hne hregister => ?_⟩
  · by_contra hne
    obtain ⟨s, hs⟩ := hallots.exists_of_finalSlot hx
    exact hseparate x y s s ((hreserves.get?_eq_finalSlot hallots hempty).mpr ⟨k, hx, hs⟩)
      ((hreserves.get?_eq_finalSlot hallots hempty).mpr ⟨k, hy, hs⟩) hne rfl
  · obtain ⟨k, hk, hs⟩ := (hreserves.get?_eq_finalSlot hallots hempty).mp hx
    obtain ⟨l, hl, ht⟩ := (hreserves.get?_eq_finalSlot hallots hempty).mp hy
    have hin : k < (made.map Slot.register).length := by
      rw [List.length_map]
      exact (List.getElem?_eq_some_iff.mp hs).1
    have hkl : k = l := (List.getElem?_inj hin hdistinct).mp (by simp [hs, ht, hregister])
    exact hne (hnumbers x y k hk (hkl ▸ hl))
  · rw [hreserves.get?_eq_some_iff hempty] at hx hy
    rw [← hallots.bound_eq_made hown, List.map_map] at hdistinct
    have hentry : (x, s) = (y, t) :=
      List.inj_on_of_nodup_map hdistinct (List.mem_reverse.mp (mem_of_lookup hx))
        (List.mem_reverse.mp (mem_of_lookup hy)) hregister
    exact hne (Prod.mk.inj hentry).1

/-- `x = 1` and `y = g()`: the second assignment takes over the slot of the first. -/
def takenOver : List Stmt :=
  [.assign [.name "x"] (.const (.int 1) false), .assign [.name "y"] (.call (.name "g") [] [])]

/-- The two variables have one slot. -/
theorem takenOver_not_separateSlots :
    ¬ ∀ (body : List Stmt) (f f' : Frame), f.locals = Table.empty →
      exec (allocate body) f = (.ok (), f') → SeparateSlots f'.locals := by
  intro hall
  have hrun : (exec (allocate takenOver) (bareFrame Table.empty)).1.isOk = true ∧
      (exec (allocate takenOver) (bareFrame Table.empty)).2.locals.get? "x" = some (some ⟨"x", Ty.i64⟩) ∧
      (exec (allocate takenOver) (bareFrame Table.empty)).2.locals.get? "y" = some (some ⟨"x", Ty.i64⟩) := by
    decide +kernel
  obtain ⟨⟨⟩, f', hexec⟩ := exec_of_isOk hrun.1
  rw [hexec] at hrun
  exact hall takenOver _ f' rfl hexec "x" "y" _ _ hrun.2.1 hrun.2.2 (by decide) rfl

/-- `x = 1`, `y = g()` and `y = 2`. -/
def reassigned : List Stmt := takenOver ++ [.assign [.name "y"] (.const (.int 2) false)]

/-- A later assignment of a number gives `y` a slot of its own, and the variables are apart again; without the
takeover they are apart from the start. -/
theorem reassigned_separateSlots :
    (∃ f', exec (allocate reassigned) (bareFrame Table.empty) = (.ok (), f') ∧ SeparateSlots f'.locals ∧
      f'.locals.get? "y" = some (some ⟨"y", Ty.i64⟩)) ∧
    ∃ f', exec (allocate mixedStores) (bareFrame Table.empty) = (.ok (), f') ∧
      SeparateSlots f'.locals := by
  have hrun : (exec (allocate reassigned) (bareFrame Table.empty)).1.isOk = true ∧
      (exec (allocate reassigned) (bareFrame Table.empty)).2.locals.get? "y" =
        some (some ⟨"y", Ty.i64⟩) ∧
      (exec (allocate mixedStores) (bareFrame Table.empty)).1.isOk = true := by
    decide +kernel
  have huses : (slotUses 0 none reassigned).reverse = [("y", 1), ("y", 0), ("x", 0)] := by
    decide +kernel
  obtain ⟨hok, hy, hok'⟩ := hrun
  obtain ⟨⟨⟩, f', hexec⟩ := exec_of_isOk hok
  obtain ⟨⟨⟩, f'', hexec'⟩ := exec_of_isOk hok'
  rw [hexec] at hy
  refine ⟨⟨f', hexec, (allocate_separateSlots rfl hexec).1.mpr fun x y k hx hy => ?_, hy⟩,
    f'', hexec', (allocate_separateSlots rfl hexec').2 (by decide +kernel)⟩
  rw [finalSlot, huses] at hx hy
  grind

end BpfCompiler.Lower
