import BpfCompiler.Syntax.Grammar.Statement

/-!
# Names in expressions

No identifier of a source text is empty, nor is its normal form.  So an expression that is read is `Named`: it
goes by no empty name, be it a name itself, an attribute or a call of one.

`Reads P m` says that whatever the reader `m` gives satisfies `P`.  It has a rule for each way of putting
readers together, and then one proof for each rule of the grammar, over a level whose expressions are named.
-/

namespace BpfCompiler.Text.Normal

theorem decompose_ne_nil (n : Nat) : decompose n ≠ [] := by
  unfold decompose
  split <;> simp [syllableParts, Image.toList]

theorem insertMark_ne_nil (n : Nat) (before : List Nat) : insertMark n before ≠ [] := by
  cases before with
  | nil => simp [insertMark]
  | cons m before =>
    rw [insertMark]
    split <;> simp

theorem Joined.toList_push_ne_nil (j : Joined) (n : Nat) : (j.push n).toList ≠ [] := by
  unfold Joined.push
  dsimp only
  split
  · simp [Joined.toList]
  · split <;> simp [Joined.toList]

/-- What every step leaves holds after a run of one step or more. -/
theorem foldl_of_ne_nil {α β : Type} {P : β → Prop} {f : β → α → β} (hf : ∀ b a, P (f b a)) {as : List α}
    (h : as ≠ []) (b : β) : P (as.foldl f b) := by
  rw [← List.dropLast_concat_getLast h, List.foldl_append]
  exact hf _ _

theorem form_ne_nil {ns : List Nat} (h : ns ≠ []) : form ns ≠ [] := by
  have hparts : ns.flatMap decompose ≠ [] := by
    obtain ⟨n, hn⟩ := List.exists_mem_of_ne_nil ns h
    simpa using ⟨n, hn, decompose_ne_nil n⟩
  have horder : order (ns.flatMap decompose) ≠ [] := by
    rw [order, ne_eq, List.reverse_eq_nil_iff]
    exact foldl_of_ne_nil (P := (· ≠ [])) (fun before n => insertMark_ne_nil n before) hparts []
  exact foldl_of_ne_nil (P := fun j : Joined => j.toList ≠ []) Joined.toList_push_ne_nil horder _

/-- No identifier vanishes in its normal form. -/
theorem identifier_ne_empty {id : String} (h : id ≠ "") : identifier id ≠ "" := by
  unfold identifier
  split
  · exact h
  · rw [ne_eq, String.ofList_eq_empty_iff, List.map_eq_nil_iff]
    exact form_ne_nil (by simpa using h)

end BpfCompiler.Text.Normal

namespace BpfCompiler.Syntax

/-! ### Readers -/

namespace Reader

variable {α β : Type} {P : α → Prop} {Q : β → Prop}

/-- Whatever a reader gives has the property. -/
def Reads (P : α → Prop) (m : Reader α) : Prop :=
  ∀ ⦃tokens a rest⦄, m tokens = .ok (a, rest) → P a

namespace Reads

theorem pure {a : α} (h : P a) : Reads P (Pure.pure a) := by
  rintro tokens _ _ ⟨⟩
  exact h

theorem throw (e : Stuck) : Reads P (MonadExcept.throw e : Reader α) := by
  rintro tokens _ _ ⟨⟩

theorem bind {x : Reader β} {k : β → Reader α} (hx : Reads Q x) (hk : ∀ b, Q b → Reads P (k b)) :
    Reads P (x >>= k) := by
  intro tokens a rest h
  change (x tokens >>= fun r => k r.1 r.2) = _ at h
  cases hfirst : x tokens with
  | error e =>
    rw [hfirst] at h
    cases h
  | ok r =>
    rw [hfirst] at h
    exact hk r.1 (hx hfirst) h

/-- What the first step gives does not matter. -/
theorem after {x : Reader β} {k : β → Reader α} (hk : ∀ b, Reads P (k b)) : Reads P (x >>= k) :=
  bind (Q := fun _ => True) (fun _ _ _ _ => trivial) fun b _ => hk b

theorem ite {c : Prop} [Decidable c] {x y : Reader α} (hx : Reads P x) (hy : Reads P y) :
    Reads P (if c then x else y) := by
  split
  · exact hx
  · exact hy

/-- A check that gives nothing. -/
theorem when {c : Prop} [Decidable c] {x : Reader Unit} {k : Unit → Reader α} (hk : ∀ u, Reads P (k u)) :
    Reads P (if c then x >>= k else k ()) :=
  .ite (.after hk) (hk ())

theorem otherwise {c : Prop} [Decidable c] {x : Reader Unit} {k : Unit → Reader α}
    (hk : ∀ u, Reads P (k u)) : Reads P (if c then k () else x >>= k) :=
  .ite (hk ()) (.after hk)

/-- A check that a strict reading makes. -/
theorem guarded {c : Prop} [Decidable c] {check : Reader Bool} {x : Reader Unit} {k : Unit → Reader α}
    (hk : ∀ u, Reads P (k u)) :
    Reads P (if c then check >>= fun b => if b = true then x >>= k else k () else k ()) :=
  .ite (.after fun _ => .when hk) (hk ())

/-- A part that may be missing. -/
theorem optional {γ : Type} {c : Prop} [Decidable c] {x : Reader γ} {f : γ → β} {b : β} {k : β → Reader α}
    (hk : ∀ b, Reads P (k b)) :
    Reads P (if c then x >>= fun a => Pure.pure (f a) >>= k else Pure.pure b >>= k) :=
  .ite (.after fun _ => .after hk) (.after hk)

theorem fail {fault : SourceFault} : Reads P (Reader.fail fault) := .after fun _ => .throw _

theorem refuse {fault : SourceFault} : Reads P (Reader.refuse fault) := .after fun _ => .throw _

theorem stuck : Reads P Reader.stuck := .after fun _ => .ite .refuse .fail

theorem orElse {x y : Reader α} (hx : Reads P x) (hy : Reads P y) : Reads P (x.orElse y) := by
  intro tokens a rest h
  unfold Reader.orElse at h
  split at h
  · rename_i r hfirst
    cases h
    exact hx hfirst
  · split at h
    · cases h
    · split at h
      · rename_i r hsecond
        cases h
        exact hy hsecond
      · cases h

theorem repeatFrom {step : α → Reader (Option α)}
    (hstep : ∀ a, P a → Reads (fun next => ∀ a' ∈ next, P a') (step a)) (fuel : Nat) {a : α} (ha : P a) :
    Reads P (Reader.repeatFrom step fuel a) := by
  induction fuel generalizing a with
  | zero => exact .stuck
  | succ fuel ih =>
    refine (hstep a ha).bind fun next hnext => ?_
    cases next with
    | none => exact .pure ha
    | some a' => exact ih (hnext a' rfl)

/-- A round of a repetition that goes on. -/
theorem next {a : α} (h : P a) : Reads (fun next => ∀ a' ∈ next, P a') (Pure.pure (some a)) :=
  .pure (by simpa using h)

/-- The last round of a repetition. -/
theorem done : Reads (fun next => ∀ a' ∈ next, P a') (Pure.pure none : Reader (Option α)) := .pure (by simp)

theorem commaList {item : Reader α} (hitem : Reads P item) (fuel : Nat) (more : Token → Bool) :
    Reads (fun r => ∀ a ∈ r.1, P a) (Reader.commaList fuel more item) := by
  refine hitem.bind fun first hfirst => ?_
  refine bind (Q := fun r : List α × Bool × Bool => ∀ a ∈ r.1, P a)
    (.repeatFrom ?_ _ (by simpa using hfirst)) ?_
  · rintro ⟨items, trailing, done⟩ hitems
    refine .ite .done (.after fun comma => .ite (.after fun token => .ite ?_ (.next hitems)) (.next hitems))
    exact hitem.bind fun a ha => .next (by simpa using ⟨ha, hitems⟩)
  · rintro ⟨items, trailing, done⟩ hitems
    exact .pure (by simpa using hitems)

theorem mapM {f : β → Reader α} {bs : List β} (hf : ∀ b ∈ bs, Reads P (f b)) :
    Reads (fun as => ∀ a ∈ as, P a) (bs.mapM f) := by
  induction bs with
  | nil => exact .pure (by simp)
  | cons b bs ih =>
    rw [List.mapM_cons]
    refine (hf b (by simp)).bind fun a ha => ?_
    refine (ih fun b' hb' => hf b' (by simp [hb'])).bind fun as has => .pure ?_
    simpa using ⟨ha, has⟩

end Reads

/-- No identifier is empty. -/
theorem identifier_reads : Reads (fun id => id ≠ "") identifier := by
  refine .after fun token => ?_
  split
  · rename_i id nonempty
    exact .ite .stuck (.after fun _ => .pure (Text.Normal.identifier_ne_empty nonempty))
  · exact .stuck

end Reader

/-! ### Expressions -/

/-- The expression does not go by an empty name.  What is no name is written with signs of its own, as long as a
comparison and a chain of `and` or `or` have their operands and it is no hole of a text. -/
def Expr.Named : Expr → Prop
  | .name id => id ≠ ""
  | .attribute _ attr => attr ≠ ""
  | .call func _ _ => func.Named
  | .compare _ rest => rest ≠ []
  | .bool _ values => 2 ≤ values.length
  | .formatted .. => False
  | _ => True

namespace Grammar

open Reader

section Rules

variable {l : Level}

/-! These rules hand on no expression of the level below. -/

theorem yieldExpression_named : Reads Expr.Named (yieldExpression l) :=
  .after fun _ => .after fun _ => .ite (.after fun _ => .pure trivial)
    (.after fun _ => .ite (.after fun _ => .pure trivial) (.pure trivial))

/-- Joining makes nothing but texts. -/
theorem mem_joinTexts {es : List Expr} {e : Expr} (he : e ∈ joinTexts es) :
    e ∈ es ∨ ∃ t, e.textLiteral? = some t := by
  fun_induction joinTexts es with
  | case1 => cases he
  | case2 a marked rest b marked' rest' hrest ih =>
    obtain rfl | hmem := List.mem_cons.mp he
    · exact .inr ⟨_, rfl⟩
    · exact (ih (by simp [hrest, hmem])).imp_left (List.mem_cons_of_mem _)
  | case3 a marked rest _ hempty ih => exact (ih he).imp_left (List.mem_cons_of_mem _)
  | case4 a marked rest _ hempty ih =>
    obtain rfl | hmem := List.mem_cons.mp he
    · exact .inr ⟨_, rfl⟩
    · exact (ih hmem).imp_left (List.mem_cons_of_mem _)
  | case5 first rest hother ih =>
    obtain rfl | hmem := List.mem_cons.mp he
    · exact .inl (List.mem_cons_self ..)
    · exact (ih hmem).imp_left (List.mem_cons_of_mem _)

theorem stringParts_text {marked : Bool} {s : StringToken} (hs : s.format = false) :
    Reads (fun parts => ∀ e ∈ parts, ∃ t, e.textLiteral? = some t) (stringParts l marked s) := by
  unfold stringParts
  rw [if_neg (by simp [hs])]
  split
  · exact .pure (by simp [Expr.textLiteral?])
  · exact .fail

theorem joinStrings_named (tokens : List StringToken) : Reads Expr.Named (joinStrings l tokens) := by
  refine .ite ?_ (.ite .fail ?_)
  · split
    · exact .pure trivial
    · exact .fail
  · by_cases hformat : tokens.any StringToken.format = true
    · exact .after fun parts => by simpa only [hformat] using .pure trivial
    · have hplain : ∀ s ∈ tokens, s.format = false := by simpa using hformat
      refine (Reads.mapM fun s hs => stringParts_text (hplain s hs)).bind fun parts hparts => ?_
      dsimp only
      rw [if_neg hformat]
      split
      · rename_i e hjoined
        have he : e ∈ joinTexts parts.flatten := by simp [hjoined]
        obtain ⟨t, ht⟩ : ∃ t, e.textLiteral? = some t := by
          obtain hmem | htext := mem_joinTexts he
          · obtain ⟨part, hpart, hmem⟩ := List.mem_flatten.mp hmem
            exact hparts part hpart e hmem
          · exact htext
        refine .pure ?_
        cases e with
        | const => trivial
        | _ => cases ht
      · exact .pure trivial

theorem strings_named : Reads Expr.Named (strings l) :=
  .after fun _ => .ite (.pure trivial) (joinStrings_named _)

theorem inBrackets_named : Reads Expr.Named (inBrackets l) := by
  refine .after fun _ => .ite (.pure trivial) (.after fun first => .after fun _ => ?_)
  refine .ite ?_ (.after fun _ => .ite ?_ ?_)
  · exact .after fun _ => .after fun _ => .pure trivial
  · exact .after fun _ => .ite (.pure trivial) (.after fun _ => .after fun _ => .pure trivial)
  · exact .after fun _ => .pure trivial

theorem moreItems_named (first : Option Expr × Expr) : Reads Expr.Named (moreItems l first) := by
  have hrest : ∀ rest, Reads Expr.Named (do op "\x7d"; return .dict (first :: rest)) :=
    fun _ => .after fun _ => .pure trivial
  refine .after fun _ => .ite (.after fun _ => ?_) (.after hrest)
  exact .ite (.after fun _ => .after hrest) (.after hrest)

theorem inBraces_named : Reads Expr.Named (inBraces l) := by
  refine .after fun _ => .ite (.pure trivial) (.after fun _ => .ite (.after fun _ => moreItems_named _) ?_)
  refine .after fun _ => .after fun _ => .after fun first => .after fun _ => .ite ?_ ?_
  · refine .after fun value => .after fun _ => .ite ?_ (moreItems_named _)
    exact .after fun _ => .after fun _ => .pure trivial
  · refine .after fun _ => .ite (.after fun _ => .after fun _ => .pure trivial) (.after fun _ => .ite ?_ ?_)
    · exact .after fun _ => .ite (.pure trivial) (.after fun _ => .after fun _ => .pure trivial)
    · exact .after fun _ => .pure trivial

theorem leftGrouped_named (ops : List (String × BinaryOp)) {operand : Reader Expr}
    (hoperand : Reads Expr.Named operand) : Reads Expr.Named (leftGrouped l ops operand) := by
  refine hoperand.bind fun first hfirst => .repeatFrom (fun e he => .after fun token => ?_) _ hfirst
  split
  · split
    · exact .after fun _ => .after fun _ => .next trivial
    · exact .done
  · exact .done

theorem joinedBy_named (w : String) (o : BoolOp) {operand : Reader Expr}
    (hoperand : Reads Expr.Named operand) : Reads Expr.Named (joinedBy l w o operand) := by
  refine hoperand.bind fun first hfirst => ?_
  refine Reads.bind (Q := fun values : List Expr => values ≠ [] ∧ ∀ e ∈ values, e.Named)
    (.repeatFrom (fun values hvalues => .after fun _ => .ite ?_ .done) _ (by simpa using hfirst)) ?_
  · exact hoperand.bind fun e he => .next (by simpa using ⟨he, hvalues.2⟩)
  · intro values hvalues
    split
    · exact .pure (hvalues.2 _ (by simp))
    · rename_i hmany
      refine .pure ?_
      match values, hvalues.1, hmany with
      | e₁ :: e₂ :: rest, _, _ => simp [Expr.Named]
      | [e], _, hmany => exact (hmany e rfl).elim

/-! The others may hand on one as it is. -/

variable (h : Reads Expr.Named l.expression)
include h

theorem namedExpression_named : Reads Expr.Named (namedExpression l) := by
  refine .after fun token => .after fun second => ?_
  split
  · exact .after fun _ => .after fun _ => .after fun _ => .pure trivial
  · exact .guarded fun _ => h

theorem starExpression_named : Reads Expr.Named (starExpression l) :=
  .after fun _ => .ite (.after fun _ => .pure trivial) h

theorem starNamedExpression_named : Reads Expr.Named (starNamedExpression l) :=
  .after fun _ => .ite (.after fun _ => .pure trivial) (namedExpression_named h)

theorem starExpressions_named : Reads Expr.Named (starExpressions l) := by
  refine (Reads.commaList (starExpression_named h) _ _).bind fun ⟨items, trailing⟩ hitems => ?_
  dsimp only
  split
  · exact .pure (hitems _ (by simp))
  · exact .pure trivial

theorem inParens_named : Reads Expr.Named (inParens l) := by
  unfold inParens
  refine .guarded fun _ => ?_
  refine .after fun _ => .ite (.pure trivial) (.after fun _ => .ite ?_ ?_)
  · exact yieldExpression_named.bind fun e he => .after fun _ => .pure he
  · refine (starNamedExpression_named h).bind fun first hfirst => ?_
    refine .after fun _ => .ite ?_ (.after fun _ => .ite ?_ ?_)
    · exact .after fun _ => .after fun _ => .pure trivial
    · exact .after fun _ => .ite (.pure trivial) (.after fun _ => .after fun _ => .pure trivial)
    · exact .ite (.after fun _ => .after fun _ => .pure hfirst) (.after fun _ => .pure hfirst)

theorem atom_named : Reads Expr.Named (atom l) := by
  refine .after fun token => ?_
  split
  · exact .after fun _ => .pure trivial
  · exact .after fun _ => .pure trivial
  · exact .after fun _ => .pure trivial
  · exact identifier_reads.bind fun id hid => .pure hid
  · exact .after fun _ => .pure trivial
  · exact strings_named
  · exact .after fun _ => .pure trivial
  · exact .after fun _ => inParens_named h
  · exact .after fun _ => inBrackets_named
  · exact .after fun _ => inBraces_named
  · exact .stuck

theorem primary_named : Reads Expr.Named (primary l) := by
  refine (atom_named h).bind fun first hfirst => .repeatFrom (fun e he => ?_) _ hfirst
  refine .after fun _ => .ite ?_ (.after fun _ => .ite ?_ (.after fun _ => .ite ?_ ?_))
  · exact identifier_reads.bind fun attr hattr => .next hattr
  · exact .after fun _ => .next he
  · exact .after fun _ => .next trivial
  · exact .done

theorem awaited_named : Reads Expr.Named (awaited l) :=
  .after fun _ => .ite (.after fun _ => .pure trivial) (primary_named h)

theorem factorRule_named : Reads Expr.Named (factorRule l) := by
  have hunary : ∀ op, Reads Expr.Named (do return .unary op (← l.factor)) :=
    fun _ => .after fun _ => .pure trivial
  refine .after fun _ => .ite (hunary _) (.after fun _ => .ite (hunary _) (.after fun _ => ?_))
  refine .ite (hunary _) ((awaited_named h).bind fun base hbase => .after fun _ => ?_)
  exact .ite (.after fun _ => .pure trivial) (.pure hbase)

theorem bitOrRule_named : Reads Expr.Named (bitOrRule l) :=
  leftGrouped_named _ <| leftGrouped_named _ <| leftGrouped_named _ <| leftGrouped_named _ <|
    leftGrouped_named _ <| leftGrouped_named _ (factorRule_named h)

theorem comparison_named : Reads Expr.Named (comparison l) := by
  refine (bitOrRule_named h).bind fun left hleft => .after fun rest => .pure ?_
  split
  · exact hleft
  · simp_all [Expr.Named]

theorem inversion_named : Reads Expr.Named (inversion l) := by
  refine .after fun count => (comparison_named h).bind fun e he => .pure ?_
  induction count generalizing e with
  | zero => exact he
  | succ count ih => exact ih _ trivial

theorem disjunctionRule_named : Reads Expr.Named (disjunctionRule l) :=
  joinedBy_named _ _ (joinedBy_named _ _ (inversion_named h))

theorem expressionRule_named : Reads Expr.Named (expressionRule l) := by
  unfold expressionRule
  refine .guarded fun _ => ?_
  refine .after fun _ => .ite ?_ ((disjunctionRule_named h).bind fun body hbody => ?_)
  · exact .after fun _ => .after fun _ => .after fun _ => .pure trivial
  · exact .after fun _ => .ite (.after fun _ => .after fun _ => .after fun _ => .pure trivial) (.pure hbody)

end Rules

theorem level_named (strict : Bool) (n : Nat) : Reads Expr.Named (level strict n).expression := by
  induction n with
  | zero => exact .stuck
  | succ n ih => exact expressionRule_named ih

end Grammar

end BpfCompiler.Syntax
