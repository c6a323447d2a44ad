import BpfCompiler.Proofs.ModuleSteps

/-!
# Reading nodes

Debug information is read by following the fields of records from node to node.  When a node is asked for,
the module has one with that content afterwards, possibly an earlier one that counts as the same, and nodes
that are added later do not disturb it.  So what was put into a field can be read off it in the finished
module.
-/

namespace BpfCompiler

theorem lookup_cons_eq {κ α : Type} [BEq κ] [LawfulBEq κ] [DecidableEq κ] (key : κ) (entry : κ × α)
    (rest : List (κ × α)) :
    (entry :: rest).lookup key = if key = entry.1 then some entry.2 else rest.lookup key := by
  obtain ⟨name, value⟩ := entry
  by_cases hkey : key = name
  · simp [hkey]
  · have hne : (key == name) = false := beq_false_of_ne hkey
    simp [List.lookup_cons, hkey, hne]

theorem mapM_eq_some_iff {α β : Type} {f : α → Option β} {as : List α} {bs : List β} :
    as.mapM f = some bs ↔ List.Forall₂ (fun a b => f a = some b) as bs := by
  induction as generalizing bs with
  | nil => simp [eq_comm]
  | cons a as ih =>
    rw [List.forall₂_cons_left_iff]
    simp only [← ih, List.mapM_cons, Option.bind_eq_bind, Option.pure_def, Option.bind_eq_some_iff,
      Option.some.injEq]
    grind

theorem mapM_congr {α β : Type} {f g : α → Option β} {as : List α} (h : ∀ a ∈ as, f a = g a) :
    as.mapM f = as.mapM g := by
  induction as with
  | nil => rfl
  | cons a as ih =>
    rw [List.mapM_cons, List.mapM_cons, h a List.mem_cons_self,
      ih fun b hb => h b (List.mem_cons_of_mem _ hb)]

theorem mapM_of_forall₂ {α β : Type} {f : α → Option β} {as : List α} {bs : List β}
    (h : List.Forall₂ (fun a b => f a = some b) as bs) : as.mapM f = some bs :=
  mapM_eq_some_iff.mpr h

end BpfCompiler

namespace BpfCompiler.Datum

theorem same_int (d : Datum) (n : Int) : d.same (.int n) = (d.toInt? == some n) := by
  cases d with
  | float x =>
    cases hx : x.toInt? <;> simp [same, toInt?, hx]
  | _ => simp [same, toInt?]

theorem toInt?_of_same {d : Datum} {n : Int} (h : d.same (.int n) = true) : d.toInt? = some n := by
  rw [same_int] at h
  exact eq_of_beq h

end BpfCompiler.Datum

namespace BpfCompiler.IR

namespace Field

def link? : Field → Option Nat
  | .node id => some id
  | .datum _ => none

def number? : Field → Option Int
  | .node _ => none
  | .datum d => d.toInt?

def text? : Field → Option Text
  | .datum (.text t) => some t
  | _ => none

theorem link?_of_same {f : Field} {id : Nat} (h : f.same (.node id) = true) :
    f.link? = some id := by
  cases f with
  | node other => simpa [same, link?] using h
  | datum d => cases h

theorem number?_of_same {f : Field} {n : Int} (h : f.same (.datum (.int n)) = true) :
    f.number? = some n := by
  cases f with
  | node id => cases h
  | datum d => exact Datum.toInt?_of_same h

theorem text?_of_same {f : Field} {t : Text} (h : f.same (.datum (.text t)) = true) :
    f.text? = some t := by
  cases f with
  | node id => cases h
  | datum d => cases d <;> simp_all [same, text?, Datum.same, Datum.toInt?]

end Field

def Entry.link? : Entry → Option Nat
  | .node id => some id
  | _ => none

theorem Entry.eq_of_same_node {e : Entry} {id : Nat} (h : e.same (.node id) = true) :
    e = .node id := by
  cases e with
  | node other => simpa [same] using h
  | const => cases h
  | datum => cases h

namespace Node

def field? (key : String) : Node → Option Field
  | .record _ _ fields => fields.lookup key
  | .list _ => none

/-- The node that a field of a record refers to. -/
def link? (key : String) (n : Node) : Option Nat := (n.field? key).bind Field.link?

def number? (key : String) (n : Node) : Option Int := (n.field? key).bind Field.number?

def text? (key : String) (n : Node) : Option Text := (n.field? key).bind Field.text?

/-- The nodes that a list refers to. -/
def items? : Node → Option (List Nat)
  | .list entries => some (entries.filterMap fun
      | .node id => some id
      | _ => none)
  | .record _ _ _ => none

/-- The nodes that a list refers to, if it holds nothing else. -/
def links? : Node → Option (List Nat)
  | .list entries => entries.mapM Entry.link?
  | .record _ _ _ => none

def kind? : Node → Option String
  | .record kind _ _ => some kind
  | .list _ => none

/-! ### Fields in order -/

theorem lookup_insertField {field : String × Field} {sorted : List (String × Field)}
    (hnew : sorted.lookup field.1 = none) (key : String) :
    (insertField field sorted).lookup key =
      if key = field.1 then some field.2 else sorted.lookup key := by
  induction sorted with
  | nil => exact lookup_cons_eq key field []
  | cons other rest ih =>
    rw [lookup_cons_eq] at hnew
    by_cases hne : field.1 = other.1
    · simp [hne] at hnew
    · rw [if_neg hne] at hnew
      rw [insertField]
      split
      · exact lookup_cons_eq key field (other :: rest)
      · rw [lookup_cons_eq, ih hnew, lookup_cons_eq]
        by_cases hkey : key = field.1
        · simp [hkey, hne]
        · simp [hkey]

theorem lookup_foldl_insertField {fields sorted : List (String × Field)}
    (hkeys : (fields.map Prod.fst).Nodup) (hnew : ∀ f ∈ fields, sorted.lookup f.1 = none)
    (key : String) :
    (fields.foldl (fun sorted field => insertField field sorted) sorted).lookup key =
      (fields.lookup key).or (sorted.lookup key) := by
  induction fields generalizing sorted with
  | nil => simp
  | cons field rest ih =>
    rw [List.map_cons, List.nodup_cons] at hkeys
    have hfirst := hnew field List.mem_cons_self
    have hrest : ∀ f ∈ rest, (insertField field sorted).lookup f.1 = none := by
      intro f hf
      have hne : f.1 ≠ field.1 := fun heq => hkeys.1 (heq ▸ List.mem_map_of_mem hf)
      rw [lookup_insertField hfirst, if_neg hne]
      exact hnew f (List.mem_cons_of_mem _ hf)
    rw [List.foldl_cons, ih hkeys.2 hrest, lookup_insertField hfirst, lookup_cons_eq]
    by_cases hkey : key = field.1
    · have hlater : rest.lookup field.1 = none := by
        rw [List.lookup_eq_none_iff]
        intro f hf
        exact bne_iff_ne.mpr fun heq => hkeys.1 (heq ▸ List.mem_map_of_mem hf)
      simp [hkey, hlater]
    · simp [hkey]

/-- Putting the fields of a record in order does not change what is found under a name. -/
theorem field?_ofFields {fields : List (String × Field)} (hkeys : (fields.map Prod.fst).Nodup)
    (kind : String) (distinct : Bool) (key : String) :
    (ofFields kind distinct fields).field? key = fields.lookup key := by
  rw [ofFields, field?, lookup_foldl_insertField hkeys (by simp)]
  simp

/-! ### Nodes that count as the same -/

theorem sameLists_iff {α : Type} {same : α → α → Bool} {as bs : List α} :
    sameLists same as bs = true ↔ List.Forall₂ (fun a b => same a b = true) as bs := by
  rw [List.forall₂_iff_zip, sameLists, Bool.and_eq_true, beq_iff_eq, List.all_eq_true]
  exact and_congr_right fun _ => ⟨fun h a b hab => h (a, b) hab, fun h ⟨a, b⟩ hab => h hab⟩

theorem field?_of_same {n : Node} {kind : String} {distinct : Bool} {fields : List (String × Field)}
    (h : n.same (.record kind distinct fields) = true) {key : String} {f : Field}
    (hfield : fields.lookup key = some f) : ∃ f', n.field? key = some f' ∧ f'.same f = true := by
  cases n with
  | list => cases h
  | record kind' distinct' fields' =>
    rw [same, Bool.and_eq_true, sameLists_iff] at h
    obtain ⟨-, hfields⟩ := h
    rw [field?]
    induction hfields with
    | nil => cases hfield
    | cons hab _ ih =>
      rw [Bool.and_eq_true, beq_iff_eq] at hab
      rw [lookup_cons_eq, hab.1]
      rw [lookup_cons_eq] at hfield
      split
      · rename_i hkey
        rw [if_pos hkey] at hfield
        obtain rfl := Option.some.inj hfield
        exact ⟨_, rfl, hab.2⟩
      · rename_i hkey
        rw [if_neg hkey] at hfield
        exact ih hfield

theorem kind?_of_same {n n' : Node} (h : n.same n' = true) : n.kind? = n'.kind? := by
  cases n <;> cases n' <;> simp_all [same, kind?]

/-- A list that refers to nodes only counts as the same as itself alone. -/
theorem eq_of_same_links {n : Node} {ids : List Nat}
    (h : n.same (.list (ids.map Entry.node)) = true) : n = .list (ids.map Entry.node) := by
  cases n with
  | record => cases h
  | list entries =>
    rw [same, sameLists_iff, List.forall₂_map_right_iff] at h
    rw [list.injEq]
    induction h with
    | nil => rfl
    | cons hsame _ ih => rw [Entry.eq_of_same_node hsame, List.map_cons, ih]

end Node

namespace Module

/-- What a view finds in a node of the module. -/
def read? {α : Type} (m : Module) (id : Nat) (view : Node → Option α) : Option α :=
  m.nodes[id]?.bind fun entry => view entry.2

/-- What could be read stays readable when nodes are added. -/
theorem read?_mono {α : Type} {m m' : Module} (h : m.nodes <+: m'.nodes) {id : Nat}
    {view : Node → Option α} {a : α} (hread : m.read? id view = some a) :
    m'.read? id view = some a := by
  obtain ⟨entry, hentry, hview⟩ := Option.bind_eq_some_iff.mp hread
  obtain ⟨added, hadded⟩ := h
  rw [read?, ← hadded, List.getElem?_append_left (List.getElem?_eq_some_iff.mp hentry).1, hentry]
  exact hview

/-- The place has a node of the given content, or one that counts as the same. -/
def HasNode (m : Module) (id : Nat) (node : Node) : Prop :=
  ∃ n, m.read? id some = some n ∧ (n = node ∨ n.same node = true)

theorem addNode_hasNode (m : Module) (node : Node) :
    (m.addNode node).2.HasNode (m.addNode node).1 node := by
  unfold addNode
  split
  · rename_i id hid
    obtain ⟨hlt, hsame, -⟩ := List.findIdx?_eq_some_iff_getElem.mp hid
    refine ⟨(m.nodes[id]).2, ?_, .inr hsame⟩
    rw [read?, List.getElem?_eq_getElem hlt]
    rfl
  · exact ⟨node, by simp [read?], .inl rfl⟩

namespace HasNode

variable {m m' : Module} {id : Nat}

theorem mono {node : Node} (h : m.HasNode id node) (hnodes : m.nodes <+: m'.nodes) :
    m'.HasNode id node := by
  obtain ⟨n, hn, hsame⟩ := h
  exact ⟨n, read?_mono hnodes hn, hsame⟩

/-- A view of a node finds what it would find in the content, if it finds this in everything that counts as
the same. -/
theorem read? {α : Type} {node : Node} (h : m.HasNode id node) {view : Node → Option α} {a : α}
    (hview : view node = some a) (hsame : ∀ n : Node, n.same node = true → view n = some a) :
    m.read? id view = some a := by
  obtain ⟨n, hn, rfl | hnode⟩ := h
  all_goals
    obtain ⟨entry, hentry, hsnd⟩ := Option.bind_eq_some_iff.mp hn
    obtain rfl := Option.some.inj hsnd
    rw [Module.read?, hentry]
  · exact hview
  · exact hsame _ hnode

theorem items? {ids : List Nat} (h : m.HasNode id (.list (ids.map Entry.node))) :
    m.read? id Node.items? = some ids := by
  have hitems : (Node.list (ids.map Entry.node)).items? = some ids := by
    rw [Node.items?, List.filterMap_map]
    exact congrArg some List.filterMap_some
  exact h.read? hitems fun n hn => Node.eq_of_same_links hn ▸ hitems

theorem links? {ids : List Nat} (h : m.HasNode id (.list (ids.map Entry.node))) :
    m.read? id Node.links? = some ids := by
  have hlinks : (Node.list (ids.map Entry.node)).links? = some ids :=
    mapM_of_forall₂ (List.forall₂_map_left_iff.mpr (List.forall₂_same.mpr fun _ _ => rfl))
  exact h.read? hlinks fun n hn => Node.eq_of_same_links hn ▸ hlinks

theorem kind? {kind : String} {distinct : Bool} {fields : List (String × Field)}
    (h : m.HasNode id (.ofFields kind distinct fields)) : m.read? id Node.kind? = some kind :=
  h.read? rfl fun _ => Node.kind?_of_same

section Record

variable {kind key : String} {distinct : Bool} {fields : List (String × Field)}
  (h : m.HasNode id (.ofFields kind distinct fields)) (hkeys : (fields.map Prod.fst).Nodup)
include h hkeys

/-- A view of a field finds what was put there, if it finds this in everything that counts as the same. -/
theorem field {α : Type} {view : Field → Option α} {f : Field} {a : α}
    (hfield : fields.lookup key = some f) (hview : view f = some a)
    (hsame : ∀ f' : Field, f'.same f = true → view f' = some a) :
    m.read? id (fun n => (n.field? key).bind view) = some a := by
  have hput : (Node.ofFields kind distinct fields).field? key = some f := by
    rw [Node.field?_ofFields hkeys, hfield]
  refine h.read? (by rw [hput]; exact hview) fun n hn => ?_
  obtain ⟨f', hf', hsame'⟩ := Node.field?_of_same hn hput
  rw [hf']
  exact hsame f' hsame'

theorem link? {target : Nat} (hfield : fields.lookup key = some (.node target)) :
    m.read? id (Node.link? key) = some target :=
  h.field hkeys hfield rfl fun _ => Field.link?_of_same

theorem number? {n : Int} (hfield : fields.lookup key = some (.datum (.int n))) :
    m.read? id (Node.number? key) = some n :=
  h.field hkeys hfield rfl fun _ => Field.number?_of_same

theorem text? {t : Text} (hfield : fields.lookup key = some (.datum (.text t))) :
    m.read? id (Node.text? key) = some t :=
  h.field hkeys hfield rfl fun _ => Field.text?_of_same

end Record

end HasNode

end Module

end BpfCompiler.IR
