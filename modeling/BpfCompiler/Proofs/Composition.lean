import BpfCompiler.Proofs.Steps

/-!
# Actions put together from basic ones

An action is composed if it is a sequence of basic actions, results and faults, and looks at the state only
to read what is the same in all states that are alike.  What is shown once for the basic actions then holds
of the composed ones: a relation that they preserve, what they ensure when they succeed, and that they do
the same in two states that are alike, always or where they succeed in both.

A variable without a slot is a fault of basic actions only.
-/

/-- The fault is that a variable has no slot. -/
def BpfCompiler.Fault.isNoSlot : Fault → Bool
  | .noSlot _ => true
  | _ => false

namespace BpfCompiler.Lower

variable {σ α β : Type}

/-- The actions put together from basic ones.  What they read of the state is the same in states that are
alike. -/
inductive Composed (Basic : (α : Type) → ExceptT Fault (StateM σ) α → Prop) (Alike : σ → σ → Prop) :
    {α : Type} → ExceptT Fault (StateM σ) α → Prop
  | basic {α : Type} {m : ExceptT Fault (StateM σ) α} (h : Basic α m) : Composed Basic Alike m
  | pure {α : Type} (a : α) : Composed Basic Alike (Pure.pure a)
  | throw {α : Type} (fault : Fault) (h : fault.isNoSlot = false) :
      Composed Basic Alike (MonadExcept.throw fault : ExceptT Fault (StateM σ) α)
  | bind {α β : Type} {x : ExceptT Fault (StateM σ) α} {k : α → ExceptT Fault (StateM σ) β}
      (hx : Composed Basic Alike x) (hk : ∀ a, Composed Basic Alike (k a)) :
      Composed Basic Alike (x >>= k)
  | read {β : Type} {k : σ → ExceptT Fault (StateM σ) β} (hk : ∀ s, Composed Basic Alike (k s))
      (hview : ∀ s t, Alike s t → k s = k t) : Composed Basic Alike (MonadState.get >>= k)

/-- When the action succeeds, it leaves a state that is related to the one it started from. -/
def Ensures (R : σ → σ → Prop) (m : ExceptT Fault (StateM σ) α) : Prop :=
  ∀ s, Ends s m (fun _ s' => R s s') AnyFault

namespace Ensures

variable {R R' S : σ → σ → Prop}

theorem of_preserves {m : ExceptT Fault (StateM σ) α} (h : Preserves R m) : Ensures R m :=
  fun _ => .of_ok fun _ _ hexec => h.of_exec hexec

theorem throw (fault : Fault) : Ensures R (MonadExcept.throw fault : ExceptT Fault (StateM σ) α) :=
  fun _ => .throw trivial

theorem weaken {m : ExceptT Fault (StateM σ) α} (h : Ensures R m) (hR : ∀ ⦃s s'⦄, R s s' → R' s s') :
    Ensures R' m :=
  fun s => (h s).weaken fun _ _ => @hR s _

/-- The relation of a sequence is put together from those of its steps. -/
theorem seq {x : ExceptT Fault (StateM σ) α} {k : α → ExceptT Fault (StateM σ) β}
    (hx : Ensures R x) (hk : ∀ a, Ensures R' (k a)) (htrans : ∀ ⦃s s₁ s₂⦄, R s s₁ → R' s₁ s₂ → S s s₂) :
    Ensures S (x >>= k) :=
  fun s => (hx s).bind fun a s₁ h => (hk a s₁).weaken fun _ _ h' => htrans h h'

theorem bind [IsTrans σ R] {x : ExceptT Fault (StateM σ) α} {k : α → ExceptT Fault (StateM σ) β}
    (hx : Ensures R x) (hk : ∀ a, Ensures R (k a)) : Ensures R (x >>= k) :=
  hx.seq hk fun _ _ _ => trans_of R

theorem read {k : σ → ExceptT Fault (StateM σ) β} (hk : ∀ s, Ensures R (k s)) :
    Ensures R (MonadState.get >>= k) :=
  fun s => .get (hk s s)

end Ensures

/-- From the two states the two actions have the same result or fault.  Where they succeed they leave states
that are related by `Q`; `E` relates the states that they leave in any case. -/
structure EndAlike (s t : σ) (x y : ExceptT Fault (StateM σ) α) (Q E : σ → σ → Prop) : Prop where
  outcome : (exec x s).1 = (exec y t).1
  any : E (exec x s).2 (exec y t).2
  ok : (exec x s).1.isOk = true → Q (exec x s).2 (exec y t).2

theorem EndAlike.bind {s t : σ} {x y : ExceptT Fault (StateM σ) α} {k : α → ExceptT Fault (StateM σ) β}
    {P Q E : σ → σ → Prop} (hx : EndAlike s t x y P E)
    (hk : ∀ a s' t', P s' t' → EndAlike s' t' (k a) (k a) Q E) :
    EndAlike s t (x >>= k) (y >>= k) Q E := by
  obtain ⟨houtcome, hany, hok⟩ := hx
  cases hs : exec x s with
  | mk outcome s' =>
    cases ht : exec y t with
    | mk outcome' t' =>
      rw [hs, ht] at houtcome hany hok
      dsimp only at houtcome
      subst houtcome
      cases outcome with
      | error fault => constructor <;> simp_all [exec_bind, Except.isOk, Except.toBool]
      | ok a =>
        obtain ⟨houtcome', hany', hok'⟩ := hk a s' t' (hok rfl)
        constructor <;> rwa [exec_bind_ok hs, exec_bind_ok ht]

/-- From related states the action has the same result or fault, and it leaves related states. -/
def RunsAlike (R : σ → σ → Prop) (m : ExceptT Fault (StateM σ) α) : Prop :=
  ∀ ⦃s t : σ⦄, R s t → (exec m s).1 = (exec m t).1 ∧ R (exec m s).2 (exec m t).2

namespace RunsAlike

variable {R : σ → σ → Prop}

theorem pure (a : α) : RunsAlike R (Pure.pure a : ExceptT Fault (StateM σ) α) :=
  fun _ _ h => ⟨rfl, h⟩

theorem throw (fault : Fault) :
    RunsAlike R (MonadExcept.throw fault : ExceptT Fault (StateM σ) α) :=
  fun _ _ h => ⟨rfl, h⟩

theorem lift (x : Except Fault α) : RunsAlike R (liftM x : ExceptT Fault (StateM σ) α) := by
  cases x with
  | error fault => exact throw fault
  | ok a => exact pure a

theorem endAlike {m : ExceptT Fault (StateM σ) α} (h : RunsAlike R m) {s t : σ} (hst : R s t) :
    EndAlike s t m m R R :=
  ⟨(h hst).1, (h hst).2, fun _ => (h hst).2⟩

/-- Two steps that end in the same way, in related states, may be followed by the same actions. -/
theorem after {x y : ExceptT Fault (StateM σ) α} {k : α → ExceptT Fault (StateM σ) β}
    (hk : ∀ a, RunsAlike R (k a)) {s t : σ} (houtcome : (exec x s).1 = (exec y t).1)
    (hstates : R (exec x s).2 (exec y t).2) :
    (exec (x >>= k) s).1 = (exec (y >>= k) t).1 ∧ R (exec (x >>= k) s).2 (exec (y >>= k) t).2 := by
  have h : EndAlike s t x y R R := ⟨houtcome, hstates, fun _ => hstates⟩
  have hbind := h.bind fun a _ _ => (hk a).endAlike
  exact ⟨hbind.outcome, hbind.any⟩

theorem bind {x : ExceptT Fault (StateM σ) α} {k : α → ExceptT Fault (StateM σ) β}
    (hx : RunsAlike R x) (hk : ∀ a, RunsAlike R (k a)) : RunsAlike R (x >>= k) :=
  fun _ _ h => after hk (hx h).1 (hx h).2

/-- Reading is where two runs could part: if the action goes on in the same way, they do not. -/
theorem read {k : σ → ExceptT Fault (StateM σ) β} (hk : ∀ s, RunsAlike R (k s))
    (hview : ∀ s t, R s t → k s = k t) : RunsAlike R (MonadState.get >>= k) := by
  intro s t h
  rw [exec_bind_ok (exec_get s), exec_bind_ok (exec_get t), ← hview s t h]
  exact hk s h

theorem forM {step : α → ExceptT Fault (StateM σ) PUnit} {items : List α}
    (hstep : ∀ a ∈ items, RunsAlike R (step a)) : RunsAlike R (items.forM step) := by
  induction items with
  | nil => exact pure PUnit.unit
  | cons a rest ih =>
    exact bind (hstep a List.mem_cons_self) fun _ =>
      ih fun c hc => hstep c (List.mem_cons_of_mem a hc)

theorem modify {change : σ → σ} (hchange : ∀ s t, R s t → R (change s) (change t)) :
    RunsAlike R (modify change : ExceptT Fault (StateM σ) PUnit) :=
  fun _ _ h => ⟨rfl, hchange _ _ h⟩

end RunsAlike

/-- Where the action succeeds from both of two related states, it has the same result, and it leaves related
states. -/
def SucceedsAlike (R : σ → σ → Prop) (m : ExceptT Fault (StateM σ) α) : Prop :=
  ∀ ⦃s t s' t' : σ⦄ ⦃a b : α⦄, R s t → exec m s = (.ok a, s') → exec m t = (.ok b, t') →
    a = b ∧ R s' t'

theorem RunsAlike.succeedsAlike {R : σ → σ → Prop} {m : ExceptT Fault (StateM σ) α}
    (h : RunsAlike R m) : SucceedsAlike R m := by
  intro s t s' t' a b hst hs ht
  obtain ⟨hresult, hstates⟩ := h hst
  rw [hs, ht] at hresult hstates
  exact ⟨Except.ok.inj hresult, hstates⟩

namespace SucceedsAlike

variable {R : σ → σ → Prop}

theorem bind {x : ExceptT Fault (StateM σ) α} {k : α → ExceptT Fault (StateM σ) β}
    (hx : SucceedsAlike R x) (hk : ∀ a, SucceedsAlike R (k a)) : SucceedsAlike R (x >>= k) := by
  intro s t s' t' b c hst hs ht
  obtain ⟨a, s₁, hfirst, hrest⟩ := exec_bind_inv hs
  obtain ⟨a', t₁, hfirst', hrest'⟩ := exec_bind_inv ht
  obtain ⟨rfl, hmiddle⟩ := hx hst hfirst hfirst'
  exact hk a hmiddle hrest hrest'

theorem read {k : σ → ExceptT Fault (StateM σ) β} (hk : ∀ s, SucceedsAlike R (k s))
    (hview : ∀ s t, R s t → k s = k t) : SucceedsAlike R (MonadState.get >>= k) := by
  intro s t s' t' b c hst hs ht
  rw [exec_bind_ok (exec_get s)] at hs
  rw [exec_bind_ok (exec_get t), ← hview s t hst] at ht
  exact hk s hst hs ht

end SucceedsAlike

namespace Composed

variable {Basic : (α : Type) → ExceptT Fault (StateM σ) α → Prop} {Alike : σ → σ → Prop}

theorem lift {x : Except Fault α} (h : ∀ fault, x = .error fault → fault.isNoSlot = false) :
    Composed Basic Alike (liftM x : ExceptT Fault (StateM σ) α) := by
  cases x with
  | error fault => exact .throw fault (h fault rfl)
  | ok a => exact .pure a

theorem mapM {step : α → ExceptT Fault (StateM σ) β} {items : List α}
    (hstep : ∀ a ∈ items, Composed Basic Alike (step a)) :
    Composed Basic Alike (items.mapM step) := by
  induction items with
  | nil =>
    rw [List.mapM_nil]
    exact .pure []
  | cons a rest ih =>
    rw [List.mapM_cons]
    refine .bind (hstep a List.mem_cons_self) fun b => ?_
    exact .bind (ih fun c hc => hstep c (List.mem_cons_of_mem a hc)) fun bs => .pure (b :: bs)

theorem forM {step : α → ExceptT Fault (StateM σ) PUnit} {items : List α}
    (hstep : ∀ a ∈ items, Composed Basic Alike (step a)) :
    Composed Basic Alike (items.forM step) := by
  induction items with
  | nil => exact .pure PUnit.unit
  | cons a rest ih =>
    exact .bind (hstep a List.mem_cons_self) fun _ =>
      ih fun c hc => hstep c (List.mem_cons_of_mem a hc)

/-- Basic actions of one kind may be composed of basic actions of another kind. -/
theorem of_basic {Basic' : (α : Type) → ExceptT Fault (StateM σ) α → Prop}
    (hbasic : ∀ {α : Type} {m : ExceptT Fault (StateM σ) α}, Basic α m → Composed Basic' Alike m)
    {m : ExceptT Fault (StateM σ) α} (h : Composed Basic Alike m) : Composed Basic' Alike m := by
  induction h with
  | basic h => exact hbasic h
  | pure a => exact .pure a
  | throw fault hfault => exact .throw fault hfault
  | bind hx hk ihx ihk => exact .bind ihx ihk
  | read hk hview ihk => exact .read ihk hview

theorem preserves {R : σ → σ → Prop} [Std.Refl R] [IsTrans σ R]
    (hbasic : ∀ {α : Type} {m : ExceptT Fault (StateM σ) α}, Basic α m → Preserves R m)
    {m : ExceptT Fault (StateM σ) α} (h : Composed Basic Alike m) : Preserves R m := by
  induction h with
  | basic h => exact hbasic h
  | pure a => exact Preserves.pure a
  | throw fault => exact Preserves.throw fault
  | bind hx hk ihx ihk => exact Preserves.bind ihx ihk
  | read hk hview ihk => exact Preserves.bind Preserves.get ihk

theorem ensures {R : σ → σ → Prop} [Std.Refl R] [IsTrans σ R]
    (hbasic : ∀ {α : Type} {m : ExceptT Fault (StateM σ) α}, Basic α m → Ensures R m)
    {m : ExceptT Fault (StateM σ) α} (h : Composed Basic Alike m) : Ensures R m := by
  induction h with
  | basic h => exact hbasic h
  | pure a => exact .of_preserves (Preserves.pure a)
  | throw fault => exact .of_preserves (Preserves.throw fault)
  | bind hx hk ihx ihk => exact ihx.bind ihk
  | read hk hview ihk => exact .read ihk

theorem runsAlike {R : σ → σ → Prop} (halike : ∀ {s t : σ}, R s t → Alike s t)
    (hbasic : ∀ {α : Type} {m : ExceptT Fault (StateM σ) α}, Basic α m → RunsAlike R m)
    {m : ExceptT Fault (StateM σ) α} (h : Composed Basic Alike m) : RunsAlike R m := by
  induction h with
  | basic h => exact hbasic h
  | pure a => exact RunsAlike.pure a
  | throw fault => exact RunsAlike.throw fault
  | bind hx hk ihx ihk => exact RunsAlike.bind ihx ihk
  | read hk hview ihk => exact RunsAlike.read ihk fun s t h => hview s t (halike h)

theorem succeedsAlike {R : σ → σ → Prop} (halike : ∀ {s t : σ}, R s t → Alike s t)
    (hbasic : ∀ {α : Type} {m : ExceptT Fault (StateM σ) α}, Basic α m → SucceedsAlike R m)
    {m : ExceptT Fault (StateM σ) α} (h : Composed Basic Alike m) : SucceedsAlike R m := by
  induction h with
  | basic h => exact hbasic h
  | pure a => exact (RunsAlike.pure a).succeedsAlike
  | throw fault => exact (RunsAlike.throw fault).succeedsAlike
  | bind hx hk ihx ihk => exact SucceedsAlike.bind ihx ihk
  | read hk hview ihk => exact SucceedsAlike.read ihk fun s t h => hview s t (halike h)

end Composed

end BpfCompiler.Lower
