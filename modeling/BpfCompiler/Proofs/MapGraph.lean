import BpfCompiler.Proofs.Contents
import BpfCompiler.Proofs.Nodes

/-!
# The nodes that describe a map

The debug information of a map is a small graph of nodes.  The node that its variable is marked with leads to
the struct, the struct to its members, and each member to a pointer, which refers to an integer type or to an
array.  `debugInfo_graph` says which node stands at each place.

The nodes are read in a module that has at least the nodes which are there when the map is described, so that
what is found also holds of the finished module.
-/

namespace BpfCompiler.Map

open IR

/-! ### The shapes of nodes -/

def basicNode (name : String) (size : Nat) : Node :=
  .ofFields "DIBasicType" false
    [("name", .text name), ("size", .nat size), ("encoding", encodingUnsigned)]

def rangeNode (count : Field) : Node := .ofFields "DISubrange" false [("count", count)]

def arrayNode (base elements : Nat) : Node :=
  .ofFields "DICompositeType" false
    [("tag", tagArray), ("baseType", .node base), ("size", .nat 32), ("elements", .node elements)]

def pointerNode (base : Nat) : Node :=
  .ofFields "DIDerivedType" false [("tag", tagPointer), ("baseType", .node base), ("size", .nat 64)]

def memberNode (file : Nat) (name : Text) (type index : Nat) : Node :=
  .ofFields "DIDerivedType" false
    [("tag", tagMember), ("name", .datum (.text name)), ("file", .node file), ("baseType", .node type),
     ("size", .nat 64), ("offset", .nat (index * 64))]

def structNode (file size elements : Nat) : Node :=
  .ofFields "DICompositeType" true
    [("tag", tagStruct), ("file", .node file), ("size", .nat size), ("elements", .node elements)]

def mapNode (file unit struct : Nat) (name : String) : Node :=
  .ofFields "DIGlobalVariable" true
    [("name", .text name), ("scope", .node unit), ("file", .node file), ("type", .node struct),
     ("isLocal", .bool false), ("isDefinition", .bool true)]

def descriptionNode (described expression : Nat) : Node :=
  .ofFields "DIGlobalVariableExpression" false
    [("var", .node described), ("expr", .node expression)]

end BpfCompiler.Map

namespace BpfCompiler.Lower

open IR Syntax

/-! ### Making nodes -/

section Nodes

variable {m : IR.Module} {w w' : Workspace}

theorem Composed.nodes {α : Type} {x : Build α} (hx : NodeCode x) {outcome : Except Fault α}
    (h : exec x w = (outcome, w')) (hm : w'.module.nodes <+: m.nodes) :
    w.module.nodes <+: m.nodes :=
  (hx.annotated.of_exec h).module.nodes.trans hm

theorem addNode_hasNode {node : Node} {id : Nat}
    (h : exec (Build.onModule fun m => m.addNode node) w = (.ok id, w'))
    (hm : w'.module.nodes <+: m.nodes) : m.HasNode id node := by
  obtain ⟨hid, rfl⟩ := Prod.mk.inj h
  obtain rfl := Except.ok.inj hid
  exact (w.module.addNode_hasNode node).mono hm

theorem record_hasNode {kind : String} {fields : List (String × Field)} {id : Nat}
    (h : exec (Map.record kind fields) w = (.ok id, w')) (hm : w'.module.nodes <+: m.nodes) :
    m.HasNode id (.ofFields kind false fields) ∧ w.module.nodes <+: m.nodes :=
  ⟨addNode_hasNode h hm, (record_code kind fields).nodes h hm⟩

theorem distinctRecord_hasNode {kind : String} {fields : List (String × Field)} {id : Nat}
    (h : exec (Map.distinctRecord kind fields) w = (.ok id, w')) (hm : w'.module.nodes <+: m.nodes) :
    m.HasNode id (.ofFields kind true fields) ∧ w.module.nodes <+: m.nodes :=
  ⟨addNode_hasNode h hm, (distinctRecord_code kind fields).nodes h hm⟩

theorem listNode_hasNode {entries : List Entry} {id : Nat}
    (h : exec (Map.listNode entries) w = (.ok id, w')) (hm : w'.module.nodes <+: m.nodes) :
    m.HasNode id (.list entries) ∧ w.module.nodes <+: m.nodes :=
  ⟨addNode_hasNode h hm, (listNode_code entries).nodes h hm⟩

/-- The node is an array with the given length. -/
def IsArray (m : IR.Module) (base : Nat) (count : Field) (id : Nat) : Prop :=
  ∃ range elements, m.HasNode range (Map.rangeNode count) ∧
    m.HasNode elements (.list [.node range]) ∧ m.HasNode id (Map.arrayNode base elements)

/-- The field keeps the datum as it is if this is an integer. -/
def KeptIn (d : Datum) (f : Field) : Prop := ∀ n, d = .int n → f = .datum (.int n)

theorem arrayType_isArray {base id : Nat} {count : Datum}
    (h : exec (Map.arrayType base count) w = (.ok id, w')) (hm : w'.module.nodes <+: m.nodes) :
    (∃ field, KeptIn count field ∧ IsArray m base field id) ∧ w.module.nodes <+: m.nodes := by
  rw [Map.arrayType] at h
  obtain ⟨field, w₁, hfield, h⟩ := exec_bind_inv h
  obtain ⟨range, w₂, hrange, h⟩ := exec_bind_inv h
  obtain ⟨elements, w₃, helements, harray⟩ := exec_bind_inv h
  obtain ⟨harray, hm⟩ := record_hasNode harray hm
  obtain ⟨helements, hm⟩ := listNode_hasNode helements hm
  obtain ⟨hrange, hm⟩ := record_hasNode hrange hm
  refine ⟨⟨field, ?_, range, elements, hrange, helements, harray⟩, (fieldOf_code count).nodes hfield hm⟩
  rintro n rfl
  exact (exec_pure_inv hfield).1

theorem member_hasNode {name : Text} {type index id : Nat}
    (h : exec (Map.member name type index) w = (.ok id, w')) (hm : w'.module.nodes <+: m.nodes) :
    (∃ file, m.HasNode id (Map.memberNode file name type index)) ∧ w.module.nodes <+: m.nodes := by
  rw [Map.member, exec_bind_ok (exec_get w)] at h
  obtain ⟨hnode, hw⟩ := record_hasNode h hm
  exact ⟨⟨w.fileNode, hnode⟩, hw⟩

/-- Each name has its member, at the next place and with the type for the name. -/
theorem members_hasNode {types : Map.MemberTypes} {names : List Text} {index : Nat} {ids : List Nat}
    (h : exec (Map.members types index names) w = (.ok ids, w')) (hm : w'.module.nodes <+: m.nodes) :
    List.Forall₂ (fun (entry : Text × Nat) id =>
        ∃ file, m.HasNode id (Map.memberNode file entry.1 (types.ofName entry.1) entry.2))
      (names.zipIdx index) ids ∧ w.module.nodes <+: m.nodes := by
  induction names generalizing index ids w with
  | nil =>
    obtain ⟨rfl, rfl⟩ := exec_pure_inv h
    exact ⟨.nil, hm⟩
  | cons name rest ih =>
    rw [Map.members] at h
    obtain ⟨id, w₁, hfirst, htail⟩ := exec_bind_inv h
    obtain ⟨others, w₂, hrest, hend⟩ := exec_bind_inv htail
    obtain ⟨rfl, rfl⟩ := exec_pure_inv hend
    obtain ⟨hothers, hm₁⟩ := ih hrest
    obtain ⟨hid, hw⟩ := member_hasNode hfirst hm₁
    exact ⟨.cons hid hothers, hw⟩

/-- The member for the number of entries, if there is one: it refers to an array of this length. -/
def IsSizeMember (m : IR.Module) (base index : Nat) (count : Option Datum) (ids : List Nat) : Prop :=
  match count with
  | none => ids = []
  | some d => ∃ id file pointer array field, ids = [id] ∧
    m.HasNode id (Map.memberNode file "max_entries" pointer index) ∧
    m.HasNode pointer (Map.pointerNode array) ∧ KeptIn d field ∧ IsArray m base field array

theorem sizeMember_isSizeMember {uint index : Nat} {params : Map.Params} {ids : List Nat}
    (h : exec (Map.sizeMember uint params index) w = (.ok ids, w')) (hm : w'.module.nodes <+: m.nodes) :
    IsSizeMember m uint index (params.get? "max_entries") ids ∧ w.module.nodes <+: m.nodes := by
  refine ⟨?_, (sizeMember_code uint params index).nodes h hm⟩
  rw [Map.sizeMember] at h
  split at h
  · rename_i count hcount
    obtain ⟨array, w₁, harray, htail⟩ := exec_bind_inv h
    obtain ⟨pointer, w₂, hpointer, htail⟩ := exec_bind_inv htail
    obtain ⟨id, w₃, hmember, hend⟩ := exec_bind_inv htail
    obtain ⟨rfl, rfl⟩ := exec_pure_inv hend
    obtain ⟨⟨file, hmember⟩, hm⟩ := member_hasNode hmember hm
    obtain ⟨hpointer, hm⟩ := record_hasNode hpointer hm
    obtain ⟨⟨field, hfield, harray⟩, -⟩ := arrayType_isArray harray hm
    rw [hcount]
    exact ⟨id, file, pointer, array, field, rfl, hmember, hpointer, hfield, harray⟩
  · rename_i hnone
    obtain ⟨rfl, rfl⟩ := exec_pure_inv h
    rw [hnone]
    rfl

end Nodes

/-! ### The graph -/

/-- The names of the parameters that become members in order; the number of entries comes last. -/
def memberNames (params : Map.Params) : List Text :=
  (params.entries.map Prod.fst).filter fun n => n ≠ ("max_entries" : Text)

/-- The nodes by which a map is described. -/
structure MapNodes where
  variableNode : Nat
  struct : Nat
  elements : Nat
  members : List Nat
  last : List Nat
  types : Map.MemberTypes
  kindArray : Nat
  uint : Nat
  ulong : Nat

/-- Which node stands at each place, in a module where the given node describes a map. -/
structure MapGraph (m : IR.Module) (name : String) (params : Map.Params) (node : Nat) (n : MapNodes) :
    Prop where
  description : ∃ expression, m.HasNode node (Map.descriptionNode n.variableNode expression)
  variableNode : ∃ file unit, m.HasNode n.variableNode (Map.mapNode file unit n.struct name)
  struct : ∃ file,
    m.HasNode n.struct (Map.structNode file (64 * (n.members ++ n.last).length) n.elements)
  elements : m.HasNode n.elements (.list ((n.members ++ n.last).map .node))
  members : List.Forall₂ (fun (entry : Text × Nat) id =>
      ∃ file, m.HasNode id (Map.memberNode file entry.1 (n.types.ofName entry.1) entry.2))
    (memberNames params).zipIdx n.members
  last : IsSizeMember m n.uint (memberNames params).length (params.get? "max_entries") n.last
  kind : m.HasNode n.types.kind (Map.pointerNode n.kindArray)
  key : m.HasNode n.types.key
    (Map.pointerNode (if params.contains "key_size" then n.kindArray else n.uint))
  value : m.HasNode n.types.value
    (Map.pointerNode (if params.contains "value_size" then n.kindArray else n.ulong))
  kindArray : ∃ number, Map.kindNumber? params.kind = some number ∧
    IsArray m n.uint (.nat number) n.kindArray
  uint : m.HasNode n.uint (Map.basicNode "unsigned int" 32)
  ulong : m.HasNode n.ulong (Map.basicNode "unsigned long long" 64)

theorem kindNumber_inv {kind : Datum} {number : Nat} {w w' : Workspace}
    (h : exec (Map.kindNumber kind) w = (.ok number, w')) : Map.kindNumber? kind = some number := by
  unfold Map.kindNumber at h
  split at h
  · rename_i hnumber
    rw [hnumber, (exec_pure_inv h).1]
  · exact exec_throw_inv h

theorem debugInfo_graph {name : String} {params : Map.Params} {node : Nat} {w w' : Workspace}
    {m : IR.Module} (h : exec (Map.debugInfo name params) w = (.ok node, w'))
    (hm : w'.module.nodes <+: m.nodes) : ∃ n, MapGraph m name params node n := by
  rw [Map.debugInfo, exec_bind_ok (exec_get w)] at h
  obtain ⟨uint, w₁, huint, h⟩ := exec_bind_inv h
  obtain ⟨ulong, w₂, hulong, h⟩ := exec_bind_inv h
  obtain ⟨number, w₃, hnumber, h⟩ := exec_bind_inv h
  obtain ⟨kindArray, w₄, hkindArray, h⟩ := exec_bind_inv h
  obtain ⟨kind, w₅, hkind, h⟩ := exec_bind_inv h
  obtain ⟨key, w₆, hkey, h⟩ := exec_bind_inv h
  obtain ⟨value, w₇, hvalue, h⟩ := exec_bind_inv h
  obtain ⟨members, w₈, hmembers, h⟩ := exec_bind_inv h
  obtain ⟨last, w₉, hlast, h⟩ := exec_bind_inv h
  obtain ⟨elements, w₁₀, helements, h⟩ := exec_bind_inv h
  obtain ⟨struct, w₁₁, hstruct, h⟩ := exec_bind_inv h
  rw [exec_bind_ok (exec_get w₁₁)] at h
  obtain ⟨variableNode, w₁₂, hvariable, h⟩ := exec_bind_inv h
  obtain ⟨expression, w₁₃, hexpression, h⟩ := exec_bind_inv h
  -- from the last node back to the first one, each is among those of the module
  obtain ⟨hnode, hm⟩ := record_hasNode h hm
  obtain ⟨-, hm⟩ := record_hasNode hexpression hm
  obtain ⟨hvariable, hm⟩ := distinctRecord_hasNode hvariable hm
  obtain ⟨hstruct, hm⟩ := distinctRecord_hasNode hstruct hm
  obtain ⟨helements, hm⟩ := listNode_hasNode helements hm
  obtain ⟨hlast, hm⟩ := sizeMember_isSizeMember hlast hm
  obtain ⟨hmembers, hm⟩ := members_hasNode hmembers hm
  obtain ⟨hvalue, hm⟩ := record_hasNode hvalue hm
  obtain ⟨hkey, hm⟩ := record_hasNode hkey hm
  obtain ⟨hkind, hm⟩ := record_hasNode hkind hm
  obtain ⟨⟨field, hfield, hkindArray⟩, hm⟩ := arrayType_isArray hkindArray hm
  obtain rfl := hfield number rfl
  have hm := (kindNumber_code _).nodes hnumber hm
  obtain ⟨hulong, hm⟩ := record_hasNode hulong hm
  obtain ⟨huint, -⟩ := record_hasNode huint hm
  refine ⟨⟨variableNode, struct, elements, members, last, ⟨kind, key, value⟩, kindArray, uint, ulong⟩,
    ?_⟩
  exact {
    description := ⟨expression, hnode⟩
    variableNode := ⟨_, _, hvariable⟩
    struct := ⟨_, hstruct⟩
    elements := helements
    members := hmembers
    last := hlast
    kind := hkind
    key := hkey
    value := hvalue
    kindArray := ⟨number, kindNumber_inv hnumber, hkindArray⟩
    uint := huint
    ulong := hulong }

end BpfCompiler.Lower
