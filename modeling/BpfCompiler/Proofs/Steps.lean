import BpfCompiler.Lower.Frame
import Mathlib.Order.Defs.Unbundled

/-!
# Running steps

A step on a workspace or on a frame ends with a result or a fault, and with a state in both cases.  `exec`
gives the two together.  A successful run of a sequence is taken apart one step at a time by
`exec_bind_inv`.

`Ends s m Q E` says how a step ends that starts from one state, with a condition on results and one on faults,
and has a rule for each way of putting steps together.  The notions of later modules, such as what code a
step appends, are cases of it and share its rules.  What holds of the states before and after every step,
however it ends and wherever it starts, is a relation that the sequence preserves as soon as its parts do, if
the relation is reflexive and transitive.
-/

namespace BpfCompiler.Lower

variable {σ α β : Type}

/-- How a step ends when it starts from the given state. -/
def exec (m : ExceptT Fault (StateM σ) α) (s : σ) : Except Fault α × σ := m.run.run s

@[simp] theorem exec_pure (a : α) (s : σ) :
    exec (pure a) s = (.ok a, s) := rfl

@[simp] theorem exec_throw (fault : Fault) (s : σ) :
    exec (throw fault : ExceptT Fault (StateM σ) α) s = (.error fault, s) := rfl

@[simp] theorem exec_get (s : σ) :
    exec (get : ExceptT Fault (StateM σ) σ) s = (.ok s, s) := rfl

@[simp] theorem exec_modify (g : σ → σ) (s : σ) :
    exec (modify g : ExceptT Fault (StateM σ) PUnit) s = (.ok ⟨⟩, g s) := rfl

@[simp] theorem exec_lift (x : Except Fault α) (s : σ) :
    exec (liftM x : ExceptT Fault (StateM σ) α) s = (x, s) := by
  cases x <;> rfl

theorem exec_bind (x : ExceptT Fault (StateM σ) α) (k : α → ExceptT Fault (StateM σ) β) (s : σ) :
    exec (x >>= k) s =
      match exec x s with
      | (.ok a, s') => exec (k a) s'
      | (.error fault, s') => (.error fault, s') := by
  simp only [exec, ExceptT.run_bind, StateT.run_bind]
  generalize x.run.run s = outcome
  obtain ⟨_ | _, _⟩ := outcome <;> rfl

theorem exec_bind_ok
    {x : ExceptT Fault (StateM σ) α} {k : α → ExceptT Fault (StateM σ) β} {s s' : σ} {a : α}
    (hx : exec x s = (.ok a, s')) :
    exec (x >>= k) s = exec (k a) s' := by
  rw [exec_bind, hx]

/-- A sequence that succeeds is a first step that succeeds and a rest that does. -/
theorem exec_bind_inv
    {x : ExceptT Fault (StateM σ) α} {k : α → ExceptT Fault (StateM σ) β} {s s'' : σ} {b : β}
    (h : exec (x >>= k) s = (.ok b, s'')) :
    ∃ a s', exec x s = (.ok a, s') ∧ exec (k a) s' = (.ok b, s'') := by
  rw [exec_bind] at h
  cases hx : exec x s with
  | mk outcome s' =>
    rw [hx] at h
    cases outcome with
    | error fault => simp at h
    | ok a => exact ⟨a, s', rfl, h⟩

theorem exec_pure_inv {a b : α} {s s' : σ}
    (h : exec (pure a : ExceptT Fault (StateM σ) α) s = (.ok b, s')) : b = a ∧ s' = s := by
  rw [exec_pure, Prod.mk.injEq, Except.ok.injEq] at h
  exact ⟨h.1.symm, h.2.symm⟩

theorem exec_lift_inv {x : Except Fault α} {a : α} {s s' : σ}
    (h : exec (liftM x : ExceptT Fault (StateM σ) α) s = (.ok a, s')) : x = .ok a ∧ s' = s := by
  rw [exec_lift, Prod.mk.injEq] at h
  exact ⟨h.1, h.2.symm⟩

theorem exec_throw_inv {fault : Fault} {a : α} {s s' : σ} {P : Prop}
    (h : exec (throw fault : ExceptT Fault (StateM σ) α) s = (.ok a, s')) : P := by
  simp at h

theorem exec_of_isOk {m : ExceptT Fault (StateM σ) α} {s : σ} (h : (exec m s).1.isOk = true) :
    ∃ a s', exec m s = (.ok a, s') := by
  cases hexec : exec m s with
  | mk outcome s' =>
    cases outcome with
    | error fault =>
      rw [hexec] at h
      cases h
    | ok a => exact ⟨a, s', rfl⟩

/-- How the step ends that starts from the state: a result and the state behind it satisfy `Q`, a fault and the
state that it leaves satisfy `E`. -/
structure Ends (s : σ) (m : ExceptT Fault (StateM σ) α) (Q : α → σ → Prop) (E : Fault → σ → Prop) :
    Prop where
  ok : ∀ ⦃a : α⦄ ⦃s' : σ⦄, exec m s = (.ok a, s') → Q a s'
  error : ∀ ⦃fault : Fault⦄ ⦃s' : σ⦄, exec m s = (.error fault, s') → E fault s'

/-- The condition on faults for steps of which only success matters. -/
def AnyFault (_ : Fault) (_ : σ) : Prop := True

namespace Ends

variable {s : σ} {P : α → σ → Prop} {Q : β → σ → Prop} {E : Fault → σ → Prop}

theorem of_ok {m : ExceptT Fault (StateM σ) β}
    (h : ∀ ⦃b : β⦄ ⦃s' : σ⦄, exec m s = (.ok b, s') → Q b s') : Ends s m Q AnyFault :=
  ⟨h, fun _ _ _ => trivial⟩

theorem of_exec_ok {m : ExceptT Fault (StateM σ) β} {b : β} {s' : σ} (h : exec m s = (.ok b, s'))
    (hb : Q b s') : Ends s m Q E := by
  constructor <;> rw [h]
  · rintro _ _ ⟨⟩
    exact hb
  · nofun

theorem of_exec_error {m : ExceptT Fault (StateM σ) β} {fault : Fault} {s' : σ}
    (h : exec m s = (.error fault, s')) (hfault : E fault s') : Ends s m Q E := by
  constructor <;> rw [h]
  · nofun
  · rintro _ _ ⟨⟩
    exact hfault

theorem of_exec_eq {m m' : ExceptT Fault (StateM σ) β} {s' : σ} (h : exec m s = exec m' s')
    (h' : Ends s' m' Q E) : Ends s m Q E := by
  constructor <;> rw [h]
  · exact h'.ok
  · exact h'.error

theorem pure {b : β} (h : Q b s) : Ends s (Pure.pure b) Q E := of_exec_ok (exec_pure b s) h

theorem throw {fault : Fault} (h : E fault s) : Ends s (MonadExcept.throw fault) Q E :=
  of_exec_error (exec_throw fault s) h

/-- The rest of a sequence is known to start behind a first step that has succeeded. -/
theorem afterOk {x : ExceptT Fault (StateM σ) α} {k : α → ExceptT Fault (StateM σ) β}
    (hx : Ends s x P E) (hk : ∀ a s', exec x s = (.ok a, s') → P a s' → Ends s' (k a) Q E) :
    Ends s (x >>= k) Q E := by
  cases hexec : exec x s with
  | mk outcome s' =>
    cases outcome with
    | error fault =>
      have hbind : exec (x >>= k) s = (.error fault, s') := by rw [exec_bind, hexec]
      exact of_exec_error hbind (hx.error hexec)
    | ok a => exact of_exec_eq (exec_bind_ok hexec) (hk a s' hexec (hx.ok hexec))

theorem bind {x : ExceptT Fault (StateM σ) α} {k : α → ExceptT Fault (StateM σ) β}
    (hx : Ends s x P E) (hk : ∀ a s', P a s' → Ends s' (k a) Q E) : Ends s (x >>= k) Q E :=
  hx.afterOk fun a s' _ => hk a s'

/-- Of the first step nothing is needed. -/
theorem last {x : ExceptT Fault (StateM σ) α} {k : α → ExceptT Fault (StateM σ) β}
    (hk : ∀ a s', Ends s' (k a) Q AnyFault) : Ends s (x >>= k) Q AnyFault :=
  (of_ok (Q := fun _ _ => True) fun _ _ _ => trivial).bind fun a s' _ => hk a s'

theorem get {k : σ → ExceptT Fault (StateM σ) β} (hk : Ends s (k s) Q E) :
    Ends s (MonadState.get >>= k) Q E :=
  of_exec_eq (exec_bind_ok (exec_get s)) hk

theorem lift {x : Except Fault α} {k : α → ExceptT Fault (StateM σ) β}
    (hk : ∀ a, x = .ok a → Ends s (k a) Q E) (hfault : ∀ fault, x = .error fault → E fault s) :
    Ends s (liftM x >>= k) Q E := by
  cases x with
  | error fault => exact of_exec_error (by rw [exec_bind, exec_lift]) (hfault fault rfl)
  | ok a => exact of_exec_eq (exec_bind_ok (exec_lift _ s)) (hk a rfl)

theorem imp {Q' : β → σ → Prop} {E' : Fault → σ → Prop} {m : ExceptT Fault (StateM σ) β}
    (h : Ends s m Q E) (hQ : ∀ b s', Q b s' → Q' b s') (hE : ∀ fault s', E fault s' → E' fault s') :
    Ends s m Q' E' :=
  ⟨fun _ _ hexec => hQ _ _ (h.ok hexec), fun _ _ hexec => hE _ _ (h.error hexec)⟩

theorem weaken {Q' : β → σ → Prop} {m : ExceptT Fault (StateM σ) β} (h : Ends s m Q E)
    (hQ : ∀ b s', Q b s' → Q' b s') : Ends s m Q' E :=
  h.imp hQ fun _ _ => id

end Ends

/-- What relates the states before and behind a step that succeeds, and before and behind one that fails, is
composed along a sequence.  A step may start from a state that is related to itself. -/
class Composable (R : σ → σ → Prop) (E : Fault → σ → σ → Prop) : Prop where
  ready : ∀ {s s'}, R s s' → R s' s'
  trans : ∀ {s s₁ s₂}, R s s₁ → R s₁ s₂ → R s s₂
  fault : ∀ {s s₁ s₂ e}, R s s₁ → E e s₁ s₂ → E e s s₂

/-- A step that may start from the state leaves a related one, which satisfies `Q` with the result. -/
def Leads (R : σ → σ → Prop) (E : Fault → σ → σ → Prop) (s : σ) (m : ExceptT Fault (StateM σ) α)
    (Q : α → σ → Prop) : Prop :=
  R s s → Ends s m (fun a s' => R s s' ∧ Q a s') fun fault s' => E fault s s'

namespace Leads

variable {R : σ → σ → Prop} {E : Fault → σ → σ → Prop} {s : σ} {P : α → σ → Prop} {Q : β → σ → Prop}

theorem pure {b : β} (h : Q b s) : Leads R E s (Pure.pure b) Q := fun hs => .pure ⟨hs, h⟩

theorem throw {fault : Fault} (h : E fault s s) : Leads R E s (MonadExcept.throw fault) Q :=
  fun _ => .throw h

theorem bind [Composable R E] {x : ExceptT Fault (StateM σ) α} {k : α → ExceptT Fault (StateM σ) β}
    (hx : Leads R E s x P) (hk : ∀ a s', R s s' → P a s' → Leads R E s' (k a) Q) :
    Leads R E s (x >>= k) Q := by
  refine fun hs => (hx hs).bind fun a s' ⟨hR, ha⟩ => ?_
  refine (hk a s' hR ha (Composable.ready E hR)).imp (fun b s'' hb => ?_) fun fault s'' => ?_
  · exact ⟨Composable.trans E hR hb.1, hb.2⟩
  · exact Composable.fault hR

theorem get {k : σ → ExceptT Fault (StateM σ) β} (hk : Leads R E s (k s) Q) :
    Leads R E s (MonadState.get >>= k) Q :=
  fun hs => .get (hk hs)

theorem lift {x : Except Fault α} {k : α → ExceptT Fault (StateM σ) β}
    (hk : ∀ a, x = .ok a → Leads R E s (k a) Q) (hfault : ∀ fault, x = .error fault → E fault s s) :
    Leads R E s (liftM x >>= k) Q :=
  fun hs => .lift (fun a ha => hk a ha hs) hfault

theorem weaken {Q' : β → σ → Prop} {m : ExceptT Fault (StateM σ) β} (h : Leads R E s m Q)
    (hQ : ∀ b s', Q b s' → Q' b s') : Leads R E s m Q' :=
  fun hs => (h hs).weaken fun b s' hb => ⟨hb.1, hQ b s' hb.2⟩

end Leads

/-- However a sequence ends: what holds of the state behind its first step, and behind the rest whenever that
step succeeds, holds of the state behind the whole. -/
theorem exec_bind_state {P : σ → Prop}
    {x : ExceptT Fault (StateM σ) α} {k : α → ExceptT Fault (StateM σ) β} {s : σ}
    (hx : P (exec x s).2) (hk : ∀ a s', exec x s = (.ok a, s') → P (exec (k a) s').2) :
    P (exec (x >>= k) s).2 := by
  rw [exec_bind]
  cases hexec : exec x s with
  | mk outcome s' =>
    cases outcome with
    | error fault =>
      rw [hexec] at hx
      exact hx
    | ok a => exact hk a s' hexec

/-- However the step ends, it leaves a state that is related to the one it started from. -/
def Preserves (R : σ → σ → Prop) (m : ExceptT Fault (StateM σ) α) : Prop :=
  ∀ s, R s (exec m s).2

namespace Preserves

variable {R : σ → σ → Prop}

theorem of_exec {m : ExceptT Fault (StateM σ) α} (hm : Preserves R m)
    {s s' : σ} {outcome : Except Fault α} (h : exec m s = (outcome, s')) : R s s' := by
  have hs := hm s
  rwa [h] at hs

section Reflexive

variable [Std.Refl R]

theorem pure (a : α) : Preserves R (Pure.pure a : ExceptT Fault (StateM σ) α) :=
  fun s => refl_of R s

theorem throw (fault : Fault) :
    Preserves R (MonadExcept.throw fault : ExceptT Fault (StateM σ) α) :=
  fun s => refl_of R s

theorem get : Preserves R (MonadState.get : ExceptT Fault (StateM σ) σ) :=
  fun s => refl_of R s

theorem lift (x : Except Fault α) :
    Preserves R (liftM x : ExceptT Fault (StateM σ) α) := by
  intro s
  rw [exec_lift]
  exact refl_of R s

end Reflexive

theorem bind [IsTrans σ R]
    {x : ExceptT Fault (StateM σ) α} {k : α → ExceptT Fault (StateM σ) β}
    (hx : Preserves R x) (hk : ∀ a, Preserves R (k a)) :
    Preserves R (x >>= k) :=
  fun s => exec_bind_state (hx s) fun a s' hexec => trans_of R (hx.of_exec hexec) (hk a s')

theorem forM [Std.Refl R] [IsTrans σ R] {step : α → ExceptT Fault (StateM σ) PUnit} {items : List α}
    (hstep : ∀ a ∈ items, Preserves R (step a)) : Preserves R (items.forM step) := by
  induction items with
  | nil => exact pure PUnit.unit
  | cons a rest ih =>
    exact bind (hstep a List.mem_cons_self) fun _ =>
      ih fun c hc => hstep c (List.mem_cons_of_mem a hc)

end Preserves

end BpfCompiler.Lower
