import BpfCompiler.IR.NameScope
import Mathlib.Data.List.Nodup
import Mathlib.Data.List.Perm.Subperm

/-!
# Names are fresh

A scope never hands out a name twice.  The search for a number tries one number more than there are
names in use, and different numbers give different names, so one of those it tries is free.
-/

namespace BpfCompiler.IR.NameScope

theorem numbered_injective (base : String) : Function.Injective (numbered base) := by
  intro m n h
  have hchars : (numbered base m).toList = (numbered base n).toList := by rw [h]
  simp only [numbered, String.toList_append, List.append_assoc, List.append_cancel_left_eq] at hchars
  have hvalue := congrArg (fun digits => Nat.ofDigitChars 10 digits 0) hchars
  simpa [Nat.toString_eq_ofList_toDigits] using hvalue

theorem numbered_ne_empty (base : String) (n : Nat) : (numbered base n).isEmpty = false := by
  have hlength : (numbered base n).length ≠ 0 := by
    simp [numbered, String.length_append]
  rw [String.isEmpty_eq_false_iff]
  intro hempty
  rw [hempty] at hlength
  simp at hlength

/-- What the search returns is free, unless every number that it tried is taken. -/
theorem seek_unused_or (s : NameScope) (base : String) (fuel n : Nat) :
    s.isUsed (numbered base (s.seek base fuel n)) = false ∨
      ∀ k, k < fuel → s.isUsed (numbered base (n + 1 + k)) = true := by
  induction fuel generalizing n with
  | zero => exact .inr fun k hk => absurd hk (Nat.not_lt_zero k)
  | succ fuel ih =>
    by_cases htaken : s.isUsed (numbered base (n + 1)) = true
    · rcases ih (n + 1) with hfree | hall
      · left
        simpa [seek, htaken] using hfree
      · right
        intro k hk
        cases k with
        | zero => simpa using htaken
        | succ k =>
          have hk' := hall k (by omega)
          rwa [show n + 1 + 1 + k = n + 1 + (k + 1) by omega] at hk'
    · left
      simp [seek, htaken]

theorem seek_unused (s : NameScope) (base : String) (n : Nat) :
    s.isUsed (numbered base (s.seek base (s.used.length + 1) n)) = false := by
  rcases s.seek_unused_or base (s.used.length + 1) n with hfree | hall
  · exact hfree
  · -- all the names that were tried are different and in use, which is one too many
    exfalso
    let tried := (List.range (s.used.length + 1)).map fun k => numbered base (n + 1 + k)
    have hdistinct : tried.Nodup := by
      refine List.Nodup.map ?_ List.nodup_range
      intro i j hij
      have := numbered_injective base hij
      omega
    have hsubset : tried ⊆ s.used := by
      intro name hname
      obtain ⟨k, hk, rfl⟩ := List.mem_map.mp hname
      have hused := hall k (List.mem_range.mp hk)
      simpa [isUsed, numbered_ne_empty] using hused
    have hlength := (List.subperm_of_subset hdistinct hsubset).length_le
    simp only [tried, List.length_map, List.length_range] at hlength
    omega

theorem fresh_unused (s : NameScope) (base : String) : s.isUsed (s.fresh base).1 = false := by
  by_cases hbase : s.isUsed base = true
  · simpa [fresh, hbase] using s.seek_unused base (s.counter base)
  · simp [fresh, hbase]

theorem fresh_not_mem (s : NameScope) (base : String) : (s.fresh base).1 ∉ s.used := by
  have hunused := s.fresh_unused base
  simp only [isUsed, Bool.or_eq_false_iff, List.contains_eq_mem, decide_eq_false_iff_not] at hunused
  exact hunused.2

@[simp] theorem used_fresh (s : NameScope) (base : String) :
    (s.fresh base).2.used = (s.fresh base).1 :: s.used := by
  by_cases hbase : s.isUsed base = true <;> simp [fresh, hbase]

theorem used_subset_fresh (s : NameScope) (base : String) : s.used ⊆ (s.fresh base).2.used := by
  rw [used_fresh]
  exact List.subset_cons_self _ _

theorem fresh_mem_used (s : NameScope) (base : String) :
    (s.fresh base).1 ∈ (s.fresh base).2.used := by
  rw [used_fresh]
  exact List.mem_cons_self

/-- A name that is claimed was free, and is taken then. -/
theorem claim?_inv {s s' : NameScope} {name : String} (h : s.claim? name = some s') :
    name ∉ s.used ∧ s'.used = name :: s.used := by
  unfold claim? at h
  split at h
  · cases h
  · rename_i hfree
    obtain rfl := Option.some.inj h
    simp only [isUsed, Bool.or_eq_true, not_or, List.contains_eq_mem, decide_eq_true_eq] at hfree
    exact ⟨hfree.2, rfl⟩

end BpfCompiler.IR.NameScope
