import BpfCompiler.Proofs.Emission
import Mathlib.Logic.Relation

/-!
# The flow graph of a function

Control leaves a block through its terminator, for the blocks whose labels the terminator names.
`Function.WellFormedFlow` says what a function needs for its blocks to form a graph that control walks from
the entry to a return: one terminator per block, no branch into nowhere or back to the entry, no cycle.

A cycle is excluded by an order of the blocks in which every branch goes to a later one.  `Ordered` is such
an order for a part of the blocks, with the blocks that are still to come behind it, and the graph of a
function that is ordered as a whole is well-formed.
-/

namespace BpfCompiler.IR

/-- The labels that an instruction may go on at. -/
def Op.targets : Op → List String
  | .branch target => [target]
  | .condBranch _ yes no => [yes, no]
  | _ => []

theorem Op.targets_of_plain {op : Op} (h : op.isTerminator = false) : op.targets = [] := by
  cases op <;> first | rfl | simp [isTerminator] at h

namespace Block

def terminators (b : Block) : List Inst := b.insts.filter fun i => i.op.isTerminator

def targets (b : Block) : List String := b.insts.flatMap fun i => i.op.targets

theorem terminators_extend (b : Block) (new : List Inst) :
    (b.extend new).terminators = b.terminators ++ new.filter fun i => i.op.isTerminator := by
  simp [terminators]

theorem targets_extend (b : Block) (new : List Inst) :
    (b.extend new).targets = b.targets ++ new.flatMap fun i => i.op.targets := by
  simp [targets]

/-- Plain instructions do not change where a block goes. -/
theorem extend_plain {new : List Inst} (hnew : ∀ i ∈ new, i.op.isTerminator = false) (b : Block) :
    (b.extend new).terminators = b.terminators ∧ (b.extend new).targets = b.targets := by
  have hfilter : new.filter (fun i => i.op.isTerminator) = [] := by
    rw [List.filter_eq_nil_iff]
    intro i hi
    simp [hnew i hi]
  have htargets : (new.flatMap fun i => i.op.targets) = [] := by
    rw [List.flatMap_eq_nil_iff]
    intro i hi
    exact Op.targets_of_plain (hnew i hi)
  rw [terminators_extend, targets_extend, hfilter, htargets]
  simp

theorem isTerminated_eq (b : Block) : b.isTerminated = !b.terminators.isEmpty := by
  rw [isTerminated, terminators, Bool.eq_iff_iff]
  simp

theorem terminators_of_open {b : Block} (h : b.isTerminated = false) : b.terminators = [] := by
  rw [isTerminated_eq] at h
  simpa using h

theorem targets_of_open {b : Block} (h : b.isTerminated = false) : b.targets = [] := by
  rw [targets, List.flatMap_eq_nil_iff]
  intro i hi
  rw [isTerminated, List.any_eq_false] at h
  exact Op.targets_of_plain (by simpa using h i hi)

end Block

namespace Function

/-- Control may go from the one block to the other. -/
def Edge (fn : Function) (i j : Nat) : Prop :=
  ∃ b b', fn.blocks[i]? = some b ∧ fn.blocks[j]? = some b' ∧ b'.label ∈ b.targets

/-- The blocks form a graph in which control, from the entry on, comes to a return. -/
structure WellFormedFlow (fn : Function) : Prop where
  terminated : ∀ b ∈ fn.blocks, b.terminators.length = 1
  labels : (fn.blocks.map Block.label).Nodup
  closed : ∀ b ∈ fn.blocks, ∀ label ∈ b.targets, ∃ b' ∈ fn.blocks, b'.label = label
  entry : ∀ entry, fn.blocks.head? = some entry → ∀ b ∈ fn.blocks, entry.label ∉ b.targets
  acyclic : ∀ i, ¬Relation.TransGen fn.Edge i i

end Function

/-! ### Orders -/

def LabelAt (blocks : List Block) (label : String) (i : Nat) : Prop :=
  ∃ b, blocks[i]? = some b ∧ b.label = label

/-- The block is complete: it has one terminator, which goes to some of the given blocks. -/
def Sealed (blocks : List Block) (later : List Nat) (i : Nat) : Prop :=
  ∃ b, blocks[i]? = some b ∧ b.terminators.length = 1 ∧
    ∀ label ∈ b.targets, ∃ j ∈ later, LabelAt blocks label j

theorem Sealed.mono {blocks : List Block} {later later' : List Nat} {i : Nat}
    (h : Sealed blocks later i) (hsub : later ⊆ later') : Sealed blocks later' i := by
  obtain ⟨b, hb, hone, htargets⟩ := h
  refine ⟨b, hb, hone, fun label hlabel => ?_⟩
  obtain ⟨j, hj, hat⟩ := htargets label hlabel
  exact ⟨j, hsub hj, hat⟩

/-- Every block of the first list is complete and goes to blocks behind it only, in the list itself or in
the second one. -/
def Ordered (blocks : List Block) : List Nat → List Nat → Prop
  | [], _ => True
  | i :: rest, later => Sealed blocks (rest ++ later) i ∧ Ordered blocks rest later

namespace Ordered

variable {blocks blocks' : List Block} {first second later later' : List Nat}

theorem mono (h : Ordered blocks first later) (hsub : later ⊆ later') :
    Ordered blocks first later' := by
  induction first with
  | nil => trivial
  | cons i rest ih =>
    obtain ⟨hsealed, hrest⟩ := h
    refine ⟨hsealed.mono ?_, ih hrest⟩
    exact List.append_subset.mpr
      ⟨List.subset_append_left _ _, fun j hj => List.mem_append_right _ (hsub hj)⟩

theorem append (hfirst : Ordered blocks first (second ++ later))
    (hsecond : Ordered blocks second later) : Ordered blocks (first ++ second) later := by
  induction first with
  | nil => exact hsecond
  | cons i rest ih =>
    obtain ⟨hsealed, hrest⟩ := hfirst
    refine ⟨?_, ih hrest⟩
    change Sealed blocks (rest ++ second ++ later) i
    rwa [List.append_assoc]

/-- An order lasts when its blocks stay as they are and no block changes its label. -/
theorem transfer (h : Ordered blocks first later)
    (hsame : ∀ (i : Nat) (b : Block), i ∈ first → blocks[i]? = some b → blocks'[i]? = some b)
    (hlabels : ∀ (i : Nat) (label : String), LabelAt blocks label i → LabelAt blocks' label i) :
    Ordered blocks' first later := by
  induction first with
  | nil => trivial
  | cons i rest ih =>
    obtain ⟨⟨b, hb, hone, htargets⟩, hrest⟩ := h
    refine ⟨⟨b, hsame i b List.mem_cons_self hb, hone, fun label hlabel => ?_⟩,
      ih hrest fun j b' hj => hsame j b' (List.mem_cons_of_mem i hj)⟩
    obtain ⟨j, hj, hat⟩ := htargets label hlabel
    exact ⟨j, hj, hlabels j label hat⟩

theorem sealed_of_mem (h : Ordered blocks first later) {i : Nat} (hi : i ∈ first) :
    Sealed blocks (first ++ later) i := by
  induction first with
  | nil => simp at hi
  | cons k rest ih =>
    obtain ⟨hsealed, hrest⟩ := h
    rcases List.mem_cons.mp hi with rfl | htail
    · exact hsealed.mono (List.subset_cons_self _ _)
    · exact (ih hrest htail).mono (List.subset_cons_self _ _)

end Ordered

/-- Blocks with different labels are found by their labels. -/
theorem LabelAt.unique {blocks : List Block} (hlabels : (blocks.map Block.label).Nodup)
    {label : String} {i j : Nat} (hi : LabelAt blocks label i) (hj : LabelAt blocks label j) :
    i = j := by
  obtain ⟨b, hb, hlabel⟩ := hi
  obtain ⟨b', hb', hlabel'⟩ := hj
  have hin : i < (blocks.map Block.label).length := by
    rw [List.length_map]
    exact (List.getElem?_eq_some_iff.mp hb).1
  refine (List.getElem?_inj hin hlabels).mp ?_
  rw [List.getElem?_map, List.getElem?_map, hb, hb', Option.map_some, Option.map_some, hlabel,
    hlabel']

/-- Along an order, a branch goes up. -/
theorem Ordered.idxOf_lt {blocks : List Block} {order : List Nat} (h : Ordered blocks order [])
    (hlabels : (blocks.map Block.label).Nodup) (horder : order.Nodup) {i j : Nat} {b : Block}
    {label : String} (hi : i ∈ order) (hb : blocks[i]? = some b) (hlabel : label ∈ b.targets)
    (hj : LabelAt blocks label j) : order.idxOf i < order.idxOf j := by
  induction order with
  | nil => simp at hi
  | cons k rest ih =>
    obtain ⟨hsealed, hrest⟩ := h
    obtain ⟨hk, hnodup⟩ := List.nodup_cons.mp horder
    -- wherever `i` stands, its target is behind the head
    have hbehind : j ∈ rest := by
      have hplace : Sealed blocks rest i := by
        rcases List.mem_cons.mp hi with rfl | htail
        · simpa using hsealed
        · simpa using hrest.sealed_of_mem htail
      obtain ⟨b', hb', -, htargets⟩ := hplace
      rw [hb, Option.some.injEq] at hb'
      subst hb'
      obtain ⟨j', hj', hat⟩ := htargets label hlabel
      rwa [hj.unique hlabels hat]
    have hne : k ≠ j := fun heq => hk (heq ▸ hbehind)
    rcases List.mem_cons.mp hi with rfl | htail
    · rw [List.idxOf_cons_self, List.idxOf_cons_ne _ hne]
      exact Nat.succ_pos _
    · have hne' : k ≠ i := fun heq => hk (heq ▸ htail)
      rw [List.idxOf_cons_ne _ hne', List.idxOf_cons_ne _ hne]
      exact Nat.succ_lt_succ (ih hrest hnodup htail)

/-- A function whose blocks all stand in one order, the entry first, has a well-formed graph. -/
theorem Function.wellFormedFlow_of_ordered {fn : Function} {tail : List Nat}
    (hlabels : (fn.blocks.map Block.label).Nodup) (horder : (0 :: tail).Nodup)
    (hall : ∀ i, i < fn.blocks.length → i ∈ 0 :: tail)
    (h : Ordered fn.blocks (0 :: tail) []) : fn.WellFormedFlow := by
  have hsealed : ∀ (i : Nat) (b : Block), fn.blocks[i]? = some b →
      b.terminators.length = 1 ∧ ∀ label ∈ b.targets, ∃ j ∈ tail, LabelAt fn.blocks label j := by
    intro i b hb
    have hi : i ∈ 0 :: tail := hall i (List.getElem?_eq_some_iff.mp hb).1
    have hplace : Sealed fn.blocks tail i := by
      rcases List.mem_cons.mp hi with rfl | htail
      · simpa using h.1
      · simpa using h.2.sealed_of_mem htail
    obtain ⟨b', hb', hone, htargets⟩ := hplace
    rw [hb, Option.some.injEq] at hb'
    subst hb'
    exact ⟨hone, htargets⟩
  refine ⟨?_, hlabels, ?_, ?_, ?_⟩
  · intro b hmem
    obtain ⟨i, hb⟩ := List.getElem?_of_mem hmem
    exact (hsealed i b hb).1
  · intro b hmem label hlabel
    obtain ⟨i, hb⟩ := List.getElem?_of_mem hmem
    obtain ⟨j, -, b', hb', heq⟩ := (hsealed i b hb).2 label hlabel
    exact ⟨b', List.mem_of_getElem? hb', heq⟩
  · intro entry hentry b hmem hlabel
    obtain ⟨i, hb⟩ := List.getElem?_of_mem hmem
    obtain ⟨j, hj, hat⟩ := (hsealed i b hb).2 _ hlabel
    have hzero : LabelAt fn.blocks entry.label 0 :=
      ⟨entry, by rw [← List.head?_eq_getElem?, hentry], rfl⟩
    rw [← hzero.unique hlabels hat] at hj
    exact (List.nodup_cons.mp horder).1 hj
  · intro i hcycle
    have hup : ∀ {j k : Nat}, Relation.TransGen fn.Edge j k →
        (0 :: tail).idxOf j < (0 :: tail).idxOf k := by
      have hstep : ∀ {j k : Nat}, fn.Edge j k → (0 :: tail).idxOf j < (0 :: tail).idxOf k := by
        rintro j k ⟨b, b', hb, hb', hlabel⟩
        exact h.idxOf_lt hlabels horder (hall j (List.getElem?_eq_some_iff.mp hb).1) hb hlabel
          ⟨b', hb', rfl⟩
      intro j k hpath
      induction hpath with
      | single hedge => exact hstep hedge
      | tail _ hedge ih => exact Nat.lt_trans ih (hstep hedge)
    exact Nat.lt_irrefl _ (hup hcycle)

end BpfCompiler.IR
