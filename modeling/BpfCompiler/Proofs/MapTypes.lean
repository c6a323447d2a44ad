import BpfCompiler.Proofs.MapGraph

/-!
# The types of keys and values in debug information

A loader finds the size of a map's keys and values by following the debug information of its variable: the
struct, its member of that name, the pointer, and the type that it points to.  `pointeeSize?` does that.
What it finds for a hash map does not depend on the types that the definition names: a key always has 32
bits there and a value 64.
-/

namespace BpfCompiler.IR.Module

/-- The struct that describes the variable of the given name. -/
def structOf? (m : Module) (name : String) : Option Nat := do
  let description ← (m.find? name).bind fun
    | .variable v => v.debug
    | .function _ => none
  let variableNode ← m.read? description (Node.link? "var")
  m.read? variableNode (Node.link? "type")

/-- The member of a struct that has the given name. -/
def member? (m : Module) (struct : Nat) (name : Text) : Option Nat := do
  let elements ← m.read? struct (Node.link? "elements")
  let members ← m.read? elements Node.items?
  members.find? fun id => m.read? id (Node.text? "name") = some name

/-- The size of the type that a member of the struct of a map points to. -/
def pointeeSize? (m : Module) (map : String) (name : Text) : Option Int := do
  let struct ← m.structOf? map
  let member ← m.member? struct name
  let pointer ← m.read? member (Node.link? "baseType")
  let target ← m.read? pointer (Node.link? "baseType")
  m.read? target (Node.number? "size")

end BpfCompiler.IR.Module

namespace BpfCompiler.Map.Params

open Syntax

theorem lookup_putEntry (key : Text) (value : Datum) (entries : List (Text × Datum)) (k : Text) :
    (putEntry key value entries).lookup k = if k = key then some value else entries.lookup k := by
  induction entries with
  | nil => exact lookup_cons_eq k (key, value) []
  | cons entry rest ih =>
    rw [putEntry]
    by_cases hentry : entry.1 = key
    · rw [if_pos hentry, lookup_cons_eq, lookup_cons_eq, hentry]
      split <;> rfl
    · rw [if_neg hentry, lookup_cons_eq, lookup_cons_eq, ih]
      by_cases hk : k = key
      · simp [hk, Ne.symm hentry]
      · simp [hk]

theorem contains_set (p : Params) (key : Text) (value : Datum) (k : Text) :
    (p.set key value).contains k = (p.contains k || k == key) := by
  rw [contains, get?, set, lookup_putEntry]
  by_cases hk : k = key
  · simp [hk]
  · simp [hk, contains, get?]

theorem contains_setName (p : Params) (key : Text) (e : Option Expr) (k : Text) :
    (p.setName key e).contains k = (p.contains k || (k == key && (e.bind Expr.name?).isSome)) := by
  unfold setName
  split
  · rename_i id hid
    simp [contains_set, hid]
  · rename_i hnone
    simp [hnone]

theorem contains_setSize (p : Params) (e : Option Expr) (k : Text) :
    (p.setSize e).contains k =
      (p.contains k || (k == "max_entries" && (e.bind sizeDatum?).isSome)) := by
  unfold setSize
  split
  · rename_i d hd
    simp [contains_set, hd]
  · rename_i hnone
    simp [hnone]

/-- Whether a keyword of a hash map sets the given parameter. -/
def isSetBy (k : Text) : Option String × Expr → Bool
  | (some "key", e) => k == "key" && e.name?.isSome
  | (some "value", e) => k == "value" && e.name?.isSome
  | (some "max_entries", e) => k == "max_entries" && (sizeDatum? e).isSome
  | _ => false

theorem contains_hashKeyword (p : Params) (keyword : Option String × Expr) (k : Text) :
    (p.hashKeyword keyword).contains k = (p.contains k || isSetBy k keyword) := by
  unfold hashKeyword isSetBy
  split <;> simp [contains_setName, contains_setSize]

theorem contains_foldl_hashKeyword (p : Params) (keywords : List (Option String × Expr)) (k : Text) :
    (keywords.foldl hashKeyword p).contains k = (p.contains k || keywords.any (isSetBy k)) := by
  induction keywords generalizing p with
  | nil => simp
  | cons keyword rest ih =>
    rw [List.foldl_cons, ih, contains_hashKeyword, List.any_cons, Bool.or_assoc]

/-- The parameters that a hash map has: its kind, and what its arguments and keywords set. -/
theorem contains_ofHashCall (args : List Expr) (keywords : List (Option String × Expr)) (k : Text) :
    (ofHashCall args keywords).contains k =
      (k == "type" || (k == "key" && (args[0]?.bind Expr.name?).isSome) ||
        (k == "value" && (args[1]?.bind Expr.name?).isSome) ||
        (k == "max_entries" && (args[2]?.bind sizeDatum?).isSome) || keywords.any (isSetBy k)) := by
  have hkind : (ofList [("type", .text "HASH")]).contains k = (k == "type") :=
    contains_set ⟨[]⟩ _ _ k
  rw [ofHashCall, contains_foldl_hashKeyword, contains_setSize, contains_setName, contains_setName,
    hkind]

theorem contains_ofHashCall_eq_false (args : List Expr) (keywords : List (Option String × Expr))
    {k : Text} (hkind : (k == "type") = false) (hkey : (k == "key") = false)
    (hvalue : (k == "value") = false) (hsize : (k == "max_entries") = false) :
    (ofHashCall args keywords).contains k = false := by
  have hkeyword : ∀ keyword, isSetBy k keyword = false := by
    intro keyword
    unfold isSetBy
    split <;> simp [hkey, hvalue, hsize]
  simp [contains_ofHashCall, hkind, hkey, hvalue, hsize, hkeyword]

end BpfCompiler.Map.Params

namespace BpfCompiler.Lower

open IR Syntax

/-! ### What the nodes say -/

/-- The node is a member of the given name, and its type is the given node. -/
structure IsMember (m : IR.Module) (name : Text) (type id : Nat) : Prop where
  name : m.read? id (Node.text? "name") = some name
  type : m.read? id (Node.link? "baseType") = some type

theorem isMember_of_hasNode {m : IR.Module} {id : Nat} {name : Text} {type index : Nat}
    (h : ∃ file, m.HasNode id (Map.memberNode file name type index)) : IsMember m name type id := by
  obtain ⟨file, hnode⟩ := h
  have hkeys : (["tag", "name", "file", "baseType", "size", "offset"] : List String).Nodup := by decide
  exact ⟨hnode.text? hkeys rfl, hnode.link? hkeys rfl⟩

theorem IsSizeMember.isMember {m : IR.Module} {base index : Nat} {count : Option Datum}
    {ids : List Nat} (h : IsSizeMember m base index count ids) :
    ∀ id ∈ ids, ∃ type, IsMember m "max_entries" type id := by
  unfold IsSizeMember at h
  split at h
  · simp [h]
  · obtain ⟨id, file, pointer, array, field, rfl, hmember, -⟩ := h
    exact List.forall_mem_singleton.mpr ⟨pointer, isMember_of_hasNode ⟨file, hmember⟩⟩

/-- What can be read off the nodes in a module. -/
structure Describes (m : IR.Module) (params : Map.Params) (node : Nat) (n : MapNodes) : Prop where
  variableNode : m.read? node (Node.link? "var") = some n.variableNode
  struct : m.read? n.variableNode (Node.link? "type") = some n.struct
  elements : m.read? n.struct (Node.link? "elements") = some n.elements
  items : m.read? n.elements Node.items? = some (n.members ++ n.last)
  members : List.Forall₂ (fun name => IsMember m name (n.types.ofName name)) (memberNames params)
    n.members
  last : ∀ id ∈ n.last, ∃ type, IsMember m "max_entries" type id
  key : m.read? n.types.key (Node.link? "baseType") =
    some (if params.contains "key_size" then n.kindArray else n.uint)
  value : m.read? n.types.value (Node.link? "baseType") =
    some (if params.contains "value_size" then n.kindArray else n.ulong)
  uint : m.read? n.uint (Node.number? "size") = some 32
  ulong : m.read? n.ulong (Node.number? "size") = some 64

theorem debugInfo_describes {name : String} {params : Map.Params} {node : Nat} {w w' : Workspace}
    {m : IR.Module} (h : exec (Map.debugInfo name params) w = (.ok node, w'))
    (hm : w'.module.nodes <+: m.nodes) : ∃ n, Describes m params node n := by
  obtain ⟨n, h⟩ := debugInfo_graph h hm
  obtain ⟨expression, hnode⟩ := h.description
  obtain ⟨file, unit, hvariable⟩ := h.variableNode
  obtain ⟨file', hstruct⟩ := h.struct
  have hmembers := h.members.imp fun entry id => isMember_of_hasNode
  refine ⟨n, ?_⟩
  exact {
    variableNode := hnode.link? (by simp) rfl
    struct := hvariable.link? (by simp) rfl
    elements := hstruct.link? (by simp) rfl
    items := h.elements.items?
    members := by
      rw [← List.zipIdx_map_fst 0 (memberNames params)]
      exact List.forall₂_map_left_iff.mpr hmembers
    last := h.last.isMember
    key := h.key.link? (by simp) rfl
    value := h.value.link? (by simp) rfl
    uint := h.uint.number? (by simp) rfl
    ulong := h.ulong.number? (by simp) rfl }

/-! ### What a loader finds -/

namespace Describes

variable {m : IR.Module} {params : Map.Params} {node : Nat} {n : MapNodes}

/-- Every parameter but the number of entries has its member. -/
theorem member? (h : Describes m params node n) {name : Text} (hname : name ∈ memberNames params) :
    ∃ id, m.member? n.struct name = some id ∧ IsMember m name (n.types.ofName name) id := by
  obtain ⟨id, hid, hmember⟩ := exists_of_forall₂_left h.members hname
  have hsome : ((n.members ++ n.last).find? fun id =>
      m.read? id (Node.text? "name") = some name).isSome = true := by
    rw [List.find?_isSome]
    exact ⟨id, List.mem_append_left _ hid, by simp [hmember.name]⟩
  obtain ⟨found, hfound⟩ := Option.isSome_iff_exists.mp hsome
  have hread : m.read? found (Node.text? "name") = some name := by
    simpa using List.find?_some hfound
  refine ⟨found, by simp [IR.Module.member?, h.elements, h.items, hfound], ?_⟩
  -- what is found under this name is the member for it, as the last member has another name
  rcases List.mem_append.mp (List.mem_of_find?_eq_some hfound) with hmem | hmem
  · obtain ⟨other, -, hother⟩ := exists_of_forall₂_left h.members.flip hmem
    obtain rfl : name = other := Option.some.inj (hread.symm.trans hother.name)
    exact hother
  · obtain ⟨type, hlast⟩ := h.last found hmem
    obtain rfl : name = "max_entries" := Option.some.inj (hread.symm.trans hlast.name)
    simp [memberNames] at hname

theorem pointeeSize? (h : Describes m params node n) {map : String} {v : Variable}
    (hfind : m.find? map = some (.variable v)) (hdebug : v.debug = some node) {name : Text}
    (hname : name ∈ memberNames params) {target : Nat} {size : Int}
    (htarget : m.read? (n.types.ofName name) (Node.link? "baseType") = some target)
    (hsize : m.read? target (Node.number? "size") = some size) :
    m.pointeeSize? map name = some size := by
  obtain ⟨id, hid, hmember⟩ := h.member? hname
  simp [IR.Module.pointeeSize?, IR.Module.structOf?, hfind, hdebug, h.variableNode, h.struct, hid,
    hmember.type, htarget, hsize]

end Describes

/-! ### Hash maps -/

theorem mem_memberNames {params : Map.Params} {name : Text} (h : params.contains name = true)
    (hname : name ≠ "max_entries") : name ∈ memberNames params := by
  refine List.mem_filter.mpr ⟨?_, by simpa using hname⟩
  by_contra hnone
  have hlookup : params.get? name = none :=
    List.lookup_eq_none_iff.mpr fun e he =>
      bne_iff_ne.mpr fun heq => hnone (heq ▸ List.mem_map_of_mem he)
  simp [Map.Params.contains, hlookup] at h

/-- The description of a hash map with a type for its keys and one for its values. -/
theorem Describes.pointeeSizes {m : IR.Module} {args : List Expr}
    {keywords : List (Option String × Expr)} {node : Nat} {n : MapNodes} {map : String} {v : Variable}
    (h : Describes m (.ofHashCall args keywords) node n)
    (hfind : m.find? map = some (.variable v)) (hdebug : v.debug = some node)
    (hkey : (Map.Params.ofHashCall args keywords).contains "key" = true)
    (hvalue : (Map.Params.ofHashCall args keywords).contains "value" = true) :
    m.pointeeSize? map "key" = some 32 ∧ m.pointeeSize? map "value" = some 64 := by
  have htarget := h.key
  rw [Map.Params.contains_ofHashCall_eq_false args keywords (by decide) (by decide) (by decide)
    (by decide), if_neg Bool.false_ne_true] at htarget
  have htarget' := h.value
  rw [Map.Params.contains_ofHashCall_eq_false args keywords (by decide) (by decide) (by decide)
    (by decide), if_neg Bool.false_ne_true] at htarget'
  exact ⟨h.pointeeSize? hfind hdebug (mem_memberNames hkey (by decide)) htarget h.uint,
    h.pointeeSize? hfind hdebug (mem_memberNames hvalue (by decide)) htarget' h.ulong⟩

end BpfCompiler.Lower

namespace BpfCompiler.Map

open Syntax

/-- The names that a definition gives by keyword for the types of the keys and the values of a hash map. -/
def declaredTypes? (d : Syntax.Function) : Option (String × String) :=
  match firstReturn? d.body with
  | some (some (.call (.name "HashMap") [] keywords)) => do
    let key ← (keywords.lookup (some "key")).bind Expr.name?
    let value ← (keywords.lookup (some "value")).bind Expr.name?
    return (key, value)
  | _ => none

theorem contains_ofHashCall_of_lookup {keywords : List (Option String × Expr)} {k : String}
    {e : Expr} (h : keywords.lookup (some k) = some e)
    (hset : Params.isSetBy k (some k, e) = true) :
    (Params.ofHashCall [] keywords).contains k = true := by
  obtain ⟨before, after, hkeywords, -⟩ := List.lookup_eq_some_iff.mp h
  simp [Params.contains_ofHashCall, hkeywords, hset]

/-- A definition that names both types gives a hash map both parameters. -/
theorem declaredTypes?_inv {d : Syntax.Function} {key value : String}
    (h : declaredTypes? d = some (key, value)) :
    ∃ keywords, params? d = some (.ofHashCall [] keywords) ∧
      (Params.ofHashCall [] keywords).contains "key" = true ∧
      (Params.ofHashCall [] keywords).contains "value" = true := by
  unfold declaredTypes? at h
  split at h
  · rename_i keywords hreturn
    obtain ⟨k, hk, htail⟩ := Option.bind_eq_some_iff.mp h
    obtain ⟨v, hv, -⟩ := Option.bind_eq_some_iff.mp htail
    obtain ⟨e, hlookup, he⟩ := Option.bind_eq_some_iff.mp hk
    obtain ⟨e', hlookup', he'⟩ := Option.bind_eq_some_iff.mp hv
    refine ⟨keywords, by simp [params?, hreturn], ?_, ?_⟩
    · exact contains_ofHashCall_of_lookup hlookup (by simp [Params.isSetBy, he])
    · exact contains_ofHashCall_of_lookup hlookup' (by simp [Params.isSetBy, he'])
  · cases h

end BpfCompiler.Map

namespace BpfCompiler.Lower

open IR Syntax

/-- The debug information of a hash map gives its keys 32 bits and its values 64, so that it agrees with the
declared types exactly if these have the same sizes. -/
theorem source_declaredSizes_iff {path : String} {text : List Char} {maps : Table Operand}
    {out : Text} {w : Workspace}
    (h : exec (Compile.source path text) (Compile.start path maps) = (.ok out, w)) :
    ∃ m, Syntax.Module.parse (Lexer.universalNewlines text) = .ok m ∧
      ∀ d ∈ m.compiled, d.isMap = true → ∀ (key value : String) (k v : Nat),
        Map.declaredTypes? d = some (key, value) →
        typeOfName key = .ok (.int k) → typeOfName value = .ok (.int v) →
        w.module.pointeeSize? d.name "key" = some 32 ∧
        w.module.pointeeSize? d.name "value" = some 64 ∧
        (w.module.pointeeSize? d.name "key" = some (k : Int) ∧
          w.module.pointeeSize? d.name "value" = some (v : Int) ↔ k = 32 ∧ v = 64) := by
  obtain ⟨m, hparse, htree⟩ := source_tree h
  obtain ⟨c, hc, hglobals, hnames⟩ := tree_contents htree
  refine ⟨m, hparse, fun d hd hmap key value k v hdeclared _ _ => ?_⟩
  obtain ⟨keywords, hparams, hkey, hvalue⟩ := Map.declaredTypes?_inv hdeclared
  obtain ⟨v', hv', params, node, w₁, w₂, hparams', hdebug, hnodes, rfl⟩ :=
    exists_of_forall₂_left hc.maps (List.mem_filter.mpr ⟨hd, hmap⟩)
  obtain rfl : params = _ := Option.some.inj (hparams'.symm.trans hparams)
  obtain ⟨n, hn⟩ := debugInfo_describes hdebug hnodes
  have hfind := find?_of_mem hnames (hglobals ▸ c.map_mem_globals hv')
  obtain ⟨hkeySize, hvalueSize⟩ : w.module.pointeeSize? d.name "key" = some 32 ∧
      w.module.pointeeSize? d.name "value" = some 64 := hn.pointeeSizes hfind rfl hkey hvalue
  refine ⟨hkeySize, hvalueSize, ?_⟩
  rw [hkeySize, hvalueSize, Option.some.injEq, Option.some.injEq]
  omega

/-- A map whose types have the sizes that debug information gives. -/
def plainMapSource : List Char :=
  ("@bpf\n@map\ndef m():\n" ++
    "    return HashMap(value=c_uint64, key=c_int32, max_entries=9)\n").toList

theorem plainMapSource_declaredSizes :
    ∃ (out : Text) (w : Workspace) (m : Syntax.Module) (d : Syntax.Function),
      exec (Compile.source "p.py" plainMapSource) (Compile.start "p.py" Table.empty) =
        (.ok out, w) ∧
      Syntax.Module.parse (Lexer.universalNewlines plainMapSource) = .ok m ∧
      d ∈ m.compiled ∧ d.isMap = true ∧ Map.declaredTypes? d = some ("c_int32", "c_uint64") ∧
      typeOfName "c_int32" = .ok (.int 32) ∧ typeOfName "c_uint64" = .ok (.int 64) ∧
      w.module.pointeeSize? d.name "key" = some 32 ∧
      w.module.pointeeSize? d.name "value" = some 64 := by
  have hrun : (exec (Compile.source "p.py" plainMapSource)
      (Compile.start "p.py" Table.empty)).1.isOk = true := by decide +kernel
  have hdeclared : (Syntax.Module.parse (Lexer.universalNewlines plainMapSource)).toOption.any
      (fun m => m.compiled.any fun d =>
        d.isMap && Map.declaredTypes? d == some ("c_int32", "c_uint64")) = true := by decide +kernel
  obtain ⟨out, w, hsource⟩ := exec_of_isOk hrun
  obtain ⟨m, hparse, hsizes⟩ := source_declaredSizes_iff hsource
  rw [hparse] at hdeclared
  obtain ⟨d, hd, hboth⟩ := List.any_eq_true.mp hdeclared
  rw [Bool.and_eq_true, beq_iff_eq] at hboth
  have hd32 : typeOfName "c_int32" = .ok (.int 32) := rfl
  have hd64 : typeOfName "c_uint64" = .ok (.int 64) := rfl
  obtain ⟨-, -, hagree⟩ := hsizes d hd hboth.1 _ _ _ _ hboth.2 hd32 hd64
  exact ⟨out, w, m, d, hsource, hparse, hd, hboth.1, hboth.2, hd32, hd64, hagree.mpr ⟨rfl, rfl⟩⟩

/-- A map whose keys are longer than debug information says, and whose values are shorter. -/
def longKeySource : List Char :=
  ("@bpf\n@map\ndef m() -> HashMap:\n" ++
    "    return HashMap(key=c_uint64, value=c_uint32, max_entries=1)\n").toList

/-- The declared key has 64 bits, and the one in debug information 32. -/
theorem longKeySource_not_declaredSizes :
    ∃ (out : Text) (w : Workspace) (m : Syntax.Module) (d : Syntax.Function),
      exec (Compile.source "prog.py" longKeySource) (Compile.start "prog.py" Table.empty) =
        (.ok out, w) ∧
      Syntax.Module.parse (Lexer.universalNewlines longKeySource) = .ok m ∧
      d ∈ m.compiled ∧ d.isMap = true ∧ d.name = "m" ∧
      Map.declaredTypes? d = some ("c_uint64", "c_uint32") ∧
      typeOfName "c_uint64" = .ok (.int 64) ∧ typeOfName "c_uint32" = .ok (.int 32) ∧
      w.module.pointeeSize? "m" "key" = some 32 ∧
      w.module.pointeeSize? "m" "value" = some 64 := by
  have hrun :
      (exec (Compile.source "prog.py" longKeySource)
        (Compile.start "prog.py" Table.empty)).1.isOk = true ∧
      (exec (Compile.source "prog.py" longKeySource)
        (Compile.start "prog.py" Table.empty)).2.module.pointeeSize? "m" "key" = some 32 ∧
      (exec (Compile.source "prog.py" longKeySource)
        (Compile.start "prog.py" Table.empty)).2.module.pointeeSize? "m" "value" = some 64 := by
    decide +kernel
  have hdeclared : (Syntax.Module.parse (Lexer.universalNewlines longKeySource)).toOption.any
      (fun m => m.compiled.any fun d => d.isMap && d.name == "m" &&
        Map.declaredTypes? d == some ("c_uint64", "c_uint32")) = true := by decide +kernel
  obtain ⟨out, w, hsource⟩ := exec_of_isOk hrun.1
  obtain ⟨m, hparse, -⟩ := source_tree hsource
  rw [hsource] at hrun
  rw [hparse] at hdeclared
  obtain ⟨d, hd, hall⟩ := List.any_eq_true.mp hdeclared
  simp only [Bool.and_eq_true, beq_iff_eq] at hall
  exact ⟨out, w, m, d, hsource, hparse, hd, hall.1.1, hall.1.2, hall.2, rfl, rfl, hrun.2⟩

end BpfCompiler.Lower
