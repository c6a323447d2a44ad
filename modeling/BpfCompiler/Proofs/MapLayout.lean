import BpfCompiler.Proofs.MapTypes
import Mathlib.Data.Option.Basic

/-!
# The definition of a map, read off its debug information

A loader learns from the debug information of a map what the map is: its name, the members of its struct with
their places, and the numbers that are written as lengths of arrays.  `structInfo?` reads that from a module and
looks at the kind of every node on the way.

Nodes with the same content are shared, so the maps of a module have nodes in common.  A number in a shared
node may then be another datum that counts as the same, such as a truth value.  As long as all sizes are
integers this does not happen, and each map reads back as it was defined, whatever other maps the module has.
-/

namespace BpfCompiler.IR

/-! ### Integers -/

namespace Field

/-- An integer, and not another datum that equals one. -/
def int? : Field → Option Int
  | .datum (.int n) => some n
  | _ => none

/-- Whether the field holds no truth value and no floating-point number, which may equal an integer. -/
def isExact : Field → Bool
  | .datum (.bool _) | .datum (.float _) => false
  | _ => true

theorem int?_of_isExact {f : Field} (h : f.isExact = true) : f.int? = f.number? := by
  cases f with
  | node id => rfl
  | datum d => cases d <;> first | rfl | cases h

end Field

namespace Node

def int? (key : String) (n : Node) : Option Int := (n.field? key).bind Field.int?

/-- The fields that hold the numbers by which a map is described. -/
def numberKeys : List String := ["tag", "size", "offset", "count"]

/-- Whether the fields for numbers hold no other datum that equals an integer. -/
def exactFields (fields : List (String × Field)) : Bool :=
  fields.all fun field => field.2.isExact || !numberKeys.contains field.1

/-- The numbers of the node are integers. -/
def Integral (n : Node) : Prop := ∀ key ∈ numberKeys, n.int? key = n.number? key

theorem integral_list (entries : List Entry) : (list entries).Integral := fun _ _ => rfl

theorem integral_ofFields {kind : String} {distinct : Bool} {fields : List (String × Field)}
    (hkeys : (fields.map Prod.fst).Nodup) (h : exactFields fields = true) :
    (ofFields kind distinct fields).Integral := by
  intro key hkey
  rw [int?, number?, field?_ofFields hkeys]
  cases hlookup : fields.lookup key with
  | none => rfl
  | some f =>
    have hexact := List.all_eq_true.mp h (key, f) (Lower.mem_of_lookup hlookup)
    exact Field.int?_of_isExact (by simpa [hkey] using hexact)

end Node

namespace Module

/-- The numbers of all nodes are integers. -/
def Integral (m : Module) : Prop := ∀ entry ∈ m.nodes, entry.2.Integral

theorem Integral.addNode {m : Module} (h : m.Integral) {node : Node} (hnode : node.Integral) :
    (m.addNode node).2.Integral := by
  unfold Module.addNode
  split
  · exact h
  · intro entry hentry
    rcases List.mem_append.mp hentry with hold | hnew
    · exact h entry hold
    · rw [List.mem_singleton.mp hnew]
      exact hnode

theorem Integral.addRecord {m : Module} (h : m.Integral) {kind : String} {distinct : Bool}
    {fields : List (String × Field)} (hkeys : (fields.map Prod.fst).Nodup)
    (hexact : Node.exactFields fields = true) : (m.addRecord kind distinct fields).2.Integral :=
  h.addNode (Node.integral_ofFields hkeys hexact)

theorem Integral.read? {m : Module} (h : m.Integral) {key : String} (hkey : key ∈ Node.numberKeys)
    (id : Nat) : m.read? id (Node.int? key) = m.read? id (Node.number? key) := by
  rw [Module.read?, Module.read?]
  cases hentry : m.nodes[id]? with
  | none => rfl
  | some entry => exact h entry (List.mem_of_getElem? hentry) key hkey

theorem HasNode.int? {m : Module} {id : Nat} {n : Int} {kind key : String} {distinct : Bool}
    {fields : List (String × Field)} (h : m.HasNode id (.ofFields kind distinct fields))
    (hm : m.Integral) (hkey : key ∈ Node.numberKeys) (hkeys : (fields.map Prod.fst).Nodup)
    (hfield : fields.lookup key = some (.datum (.int n))) :
    m.read? id (Node.int? key) = some n :=
  (hm.read? hkey id).trans (h.number? hkeys hfield)

/-! ### Reading a struct -/

/-- Whether the node is a record of the given kind with the given tag. -/
def isTagged (m : Module) (kind : String) (tag : Int) (id : Nat) : Bool :=
  m.read? id Node.kind? = some kind ∧ m.read? id (Node.int? "tag") = some tag

/-- The length of an array. -/
def arrayLength? (m : Module) (id : Nat) : Option Int := do
  guard (m.isTagged "DICompositeType" 0x01 id)
  let elements ← m.read? id (Node.link? "elements")
  let [range] ← m.read? elements Node.links? | none
  guard (m.read? range Node.kind? = some "DISubrange")
  m.read? range (Node.int? "count")

/-- What a pointer refers to. -/
def pointee? (m : Module) (id : Nat) : Option Nat := do
  guard (m.isTagged "DIDerivedType" 0x0f id)
  m.read? id (Node.link? "baseType")

/-- A member of a struct, which is a pointer; `count` is the length of the array that it refers to, if it refers
to one. -/
structure MemberInfo where
  name : Text
  offset : Int
  count : Option Int

def memberInfo? (m : Module) (id : Nat) : Option MemberInfo := do
  guard (m.isTagged "DIDerivedType" 0x0d id)
  let name ← m.read? id (Node.text? "name")
  let offset ← m.read? id (Node.int? "offset")
  let pointer ← m.read? id (Node.link? "baseType")
  let target ← m.pointee? pointer
  return ⟨name, offset, m.arrayLength? target⟩

/-- A variable of a struct type, as it is described. -/
structure StructInfo where
  name : Text
  size : Int
  members : List MemberInfo

def StructInfo.count? (info : StructInfo) (name : Text) : Option Int :=
  (info.members.find? fun member => member.name = name).bind MemberInfo.count

/-- What the debug information of a variable says. -/
def structInfo? (m : Module) (variableName : String) : Option StructInfo := do
  let description ← (m.find? variableName).bind fun
    | .variable v => v.debug
    | .function _ => none
  let described ← m.read? description (Node.link? "var")
  guard (m.read? described Node.kind? = some "DIGlobalVariable")
  let name ← m.read? described (Node.text? "name")
  let struct ← m.read? described (Node.link? "type")
  guard (m.isTagged "DICompositeType" 0x13 struct)
  let size ← m.read? struct (Node.int? "size")
  let elements ← m.read? struct (Node.link? "elements")
  let members ← m.read? elements Node.links?
  return ⟨name, size, ← members.mapM m.memberInfo?⟩

end Module

end BpfCompiler.IR

namespace BpfCompiler.Lower

open IR

/-! ### The nodes of a map are read back -/

section Reading

variable {m : IR.Module} (hm : m.Integral)
include hm

theorem IsArray.arrayLength? {base id : Nat} {n : Int} (h : IsArray m base (.datum (.int n)) id) :
    m.arrayLength? id = some n := by
  obtain ⟨range, elements, hrange, helements, harray⟩ := h
  have htagged : m.isTagged "DICompositeType" 0x01 id = true :=
    decide_eq_true ⟨harray.kind?, harray.int? hm (by decide) (by simp) rfl⟩
  have hlink : m.read? id (Node.link? "elements") = some elements := harray.link? (by simp) rfl
  have hitems : m.read? elements Node.links? = some [range] := helements.links?
  have hcount : m.read? range (Node.int? "count") = some n :=
    hrange.int? hm (by decide) (by simp) rfl
  simp [IR.Module.arrayLength?, htagged, hlink, hitems, hrange.kind?, hcount]

theorem pointee?_of_hasNode {id base : Nat} (h : m.HasNode id (Map.pointerNode base)) :
    m.pointee? id = some base := by
  have htagged : m.isTagged "DIDerivedType" 0x0f id = true :=
    decide_eq_true ⟨h.kind?, h.int? hm (by decide) (by simp) rfl⟩
  have hlink : m.read? id (Node.link? "baseType") = some base := h.link? (by simp) rfl
  simp [IR.Module.pointee?, htagged, hlink]

theorem memberInfo?_of_hasNode {file id type index target : Nat} {name : Text}
    (h : m.HasNode id (Map.memberNode file name type index))
    (htype : m.HasNode type (Map.pointerNode target)) :
    m.memberInfo? id = some ⟨name, 64 * index, m.arrayLength? target⟩ := by
  have hkeys : (["tag", "name", "file", "baseType", "size", "offset"] : List String).Nodup := by decide
  have htagged : m.isTagged "DIDerivedType" 0x0d id = true :=
    decide_eq_true ⟨h.kind?, h.int? hm (by decide) hkeys rfl⟩
  have hname : m.read? id (Node.text? "name") = some name := h.text? hkeys rfl
  have hoffset : m.read? id (Node.int? "offset") = some ((index * 64 : Nat) : Int) :=
    h.int? hm (by decide) hkeys rfl
  have hlink : m.read? id (Node.link? "baseType") = some type := h.link? hkeys rfl
  have hplace : ((index * 64 : Nat) : Int) = 64 * index := by omega
  simp [IR.Module.memberInfo?, htagged, hname, hoffset, hlink, pointee?_of_hasNode hm htype, hplace]

end Reading

/-- What the pointer for a parameter refers to. -/
def MapNodes.targetOf (n : MapNodes) (params : Map.Params) (name : Text) : Nat :=
  if name = ("type" : Text) then n.kindArray
  else if Map.occursIn ("key" : Text).points name.points then
    if params.contains "key_size" then n.kindArray else n.uint
  else if params.contains "value_size" then n.kindArray else n.ulong

/-- The parameters in order, with the number of entries moved to the end. -/
def layoutNames (params : Map.Params) : List Text :=
  memberNames params ++ (params.entries.map Prod.fst).filter fun n => n = ("max_entries" : Text)

/-- What a loader is to find: one pointer for each parameter, in order, and the two numbers. -/
structure IsLayoutOf (name : String) (params : Map.Params) (number : Nat) (info : IR.Module.StructInfo) :
    Prop where
  name : info.name = (name : Text)
  size : info.size = 64 * params.size
  length : info.members.length = params.size
  places : (info.members.map fun member => (member.name, member.offset)) =
    (layoutNames params).zipIdx.map fun entry => (entry.1, 64 * (entry.2 : Int))
  kind : info.count? "type" = some (number : Int)
  entries : ∀ d, params.get? "max_entries" = some d →
    ∃ n, d = .int n ∧ info.count? "max_entries" = some n

namespace MapGraph

variable {m : IR.Module} {name : String} {params : Map.Params} {node : Nat} {n : MapNodes}

theorem pointer (h : MapGraph m name params node n) (x : Text) :
    m.HasNode (n.types.ofName x) (Map.pointerNode (n.targetOf params x)) := by
  rw [Map.MemberTypes.ofName, MapNodes.targetOf]
  split
  · exact h.kind
  · split
    · exact h.key
    · exact h.value

end MapGraph

/-! ### The parameters in the order of members -/

theorem filter_eq_get? {params : Map.Params} (hkeys : (params.entries.map Prod.fst).Nodup) (key : Text) :
    ((params.entries.map Prod.fst).filter fun k => k = key) =
      (params.get? key).toList.map fun _ => key := by
  cases hlookup : params.get? key with
  | none =>
    have hnone : ∀ k ∈ params.entries.map Prod.fst, k ≠ key := by
      intro k hk
      obtain ⟨entry, hentry, rfl⟩ := List.mem_map.mp hk
      exact (bne_iff_ne.mp (List.lookup_eq_none_iff.mp hlookup entry hentry)).symm
    simpa [List.filter_eq_nil_iff] using hnone
  | some value =>
    have hmem : key ∈ params.entries.map Prod.fst :=
      List.mem_map_of_mem (f := Prod.fst) (mem_of_lookup hlookup)
    rw [List.filter_eq, List.count_eq_one_of_mem hkeys hmem]
    rfl

theorem length_layoutNames (params : Map.Params) : (layoutNames params).length = params.size := by
  have hsplit : params.size = (memberNames params).length + _ :=
    (List.length_map _).symm.trans (List.length_eq_length_filter_add _)
  rw [hsplit, layoutNames, List.length_append]
  simp

/-! ### The members of a map are read back -/

/-- The member for the number of entries, if there is one. -/
def sizeInfo (index : Nat) (count : Option Datum) : List IR.Module.MemberInfo :=
  count.toList.map fun d => ⟨"max_entries", 64 * index, d.toInt?⟩

theorem IsSizeMember.memberInfo? {m : IR.Module} (hm : m.Integral) {base index : Nat}
    {count : Option Datum} {ids : List Nat} (h : IsSizeMember m base index count ids)
    (hcount : ∀ d ∈ count, ∃ k, d = .int k) :
    List.Forall₂ (fun id info => m.memberInfo? id = some info) ids (sizeInfo index count) := by
  cases count with
  | none =>
    obtain rfl : ids = [] := h
    exact .nil
  | some d =>
    obtain ⟨id, file, pointer, array, field, rfl, hmember, hpointer, hfield, harray⟩ := h
    obtain ⟨k, rfl⟩ := hcount d rfl
    obtain rfl := hfield k rfl
    refine .cons ?_ .nil
    rw [memberInfo?_of_hasNode hm hmember hpointer, harray.arrayLength? hm]
    rfl

theorem StructInfo.count?_of_forall {info : IR.Module.StructInfo} {name : Text} {k : Int}
    (hname : name ∈ info.members.map IR.Module.MemberInfo.name)
    (hall : ∀ member ∈ info.members, member.name = name → member.count = some k) :
    info.count? name = some k := by
  obtain ⟨member, hmember, hnamed⟩ := List.mem_map.mp hname
  have hsome : (info.members.find? fun member => member.name = name).isSome = true := by
    rw [List.find?_isSome]
    exact ⟨member, hmember, by simpa using hnamed⟩
  obtain ⟨found, hfound⟩ := Option.isSome_iff_exists.mp hsome
  rw [IR.Module.StructInfo.count?, hfound]
  exact hall found (List.mem_of_find?_eq_some hfound) (by simpa using List.find?_some hfound)

namespace MapGraph

variable {m : IR.Module} {name : String} {params : Map.Params} {node : Nat} {n : MapNodes}

/-- The members of a map, as they are read. -/
def memberInfos (m : IR.Module) (params : Map.Params) (n : MapNodes) : List IR.Module.MemberInfo :=
  ((memberNames params).zipIdx.map fun entry =>
    ⟨entry.1, 64 * entry.2, m.arrayLength? (n.targetOf params entry.1)⟩) ++
  sizeInfo (memberNames params).length (params.get? "max_entries")

theorem memberInfo? (h : MapGraph m name params node n) (hm : m.Integral)
    (hsize : ∀ d ∈ params.get? "max_entries", ∃ k, d = .int k) :
    List.Forall₂ (fun id info => m.memberInfo? id = some info) (n.members ++ n.last)
      (memberInfos m params n) := by
  refine List.rel_append (List.forall₂_map_right_iff.mpr ?_) (h.last.memberInfo? hm hsize)
  refine (h.members.imp fun entry id hmember => ?_).flip
  obtain ⟨file, hmember⟩ := hmember
  exact memberInfo?_of_hasNode hm hmember (h.pointer entry.1)

theorem structInfo? (h : MapGraph m name params node n) (hm : m.Integral)
    (hsize : ∀ d ∈ params.get? "max_entries", ∃ k, d = .int k) {v : Variable}
    (hfind : m.find? name = some (.variable v)) (hdebug : v.debug = some node) :
    m.structInfo? name =
      some ⟨name, 64 * (memberInfos m params n).length, memberInfos m params n⟩ := by
  obtain ⟨expression, hnode⟩ := h.description
  obtain ⟨file, unit, hvariable⟩ := h.variableNode
  obtain ⟨file', hstruct⟩ := h.struct
  have hinfos := h.memberInfo? hm hsize
  have hdescribed : m.read? node (Node.link? "var") = some n.variableNode := hnode.link? (by simp) rfl
  have hname : m.read? n.variableNode (Node.text? "name") = some (name : Text) :=
    hvariable.text? (by simp) rfl
  have htype : m.read? n.variableNode (Node.link? "type") = some n.struct :=
    hvariable.link? (by simp) rfl
  have htagged : m.isTagged "DICompositeType" 0x13 n.struct = true :=
    decide_eq_true ⟨hstruct.kind?, hstruct.int? hm (by decide) (by simp) rfl⟩
  have hwidth : m.read? n.struct (Node.int? "size") =
      some ((64 * (n.members ++ n.last).length : Nat) : Int) :=
    hstruct.int? hm (by decide) (by simp) rfl
  have helements : m.read? n.struct (Node.link? "elements") = some n.elements :=
    hstruct.link? (by simp) rfl
  rw [hinfos.length_eq] at hwidth
  simp [IR.Module.structInfo?, hfind, hdebug, hdescribed, hvariable.kind?, hname, htype, htagged, hwidth,
    helements, h.elements.links?, mapM_of_forall₂ hinfos]

theorem memberInfos_places (m : IR.Module) (n : MapNodes)
    (hkeys : (params.entries.map Prod.fst).Nodup) :
    ((memberInfos m params n).map fun member => (member.name, member.offset)) =
      (layoutNames params).zipIdx.map fun entry => (entry.1, 64 * (entry.2 : Int)) := by
  rw [memberInfos, sizeInfo, layoutNames, filter_eq_get? hkeys, List.zipIdx_append, List.map_append,
    List.map_append]
  congr 1
  · simp
  · cases params.get? "max_entries" <;> simp

/-- A member that is read was made for a parameter, or it is the one for the number of entries. -/
theorem mem_memberInfos {member : IR.Module.MemberInfo} (h : member ∈ memberInfos m params n) :
    (member.name ∈ memberNames params ∧
      member.count = m.arrayLength? (n.targetOf params member.name)) ∨
    ∃ d, params.get? "max_entries" = some d ∧ member.name = "max_entries" ∧ member.count = d.toInt? := by
  rcases List.mem_append.mp h with h | h
  · obtain ⟨entry, hentry, rfl⟩ := List.mem_map.mp h
    exact .inl ⟨List.fst_mem_of_mem_zipIdx hentry, rfl⟩
  · obtain ⟨d, hd, rfl⟩ := List.mem_map.mp h
    exact .inr ⟨d, by simpa using hd, rfl, rfl⟩

theorem isLayoutOf (h : MapGraph m name params node n) (hm : m.Integral)
    (hsize : ∀ d ∈ params.get? "max_entries", ∃ k, d = .int k)
    (hkeys : (params.entries.map Prod.fst).Nodup) (htype : params.contains "type" = true) {number : Nat}
    (hnumber : Map.kindNumber? params.kind = some number) :
    IsLayoutOf name params number
      ⟨name, 64 * (memberInfos m params n).length, memberInfos m params n⟩ := by
  have hplaces := memberInfos_places m n hkeys
  have hlength : (memberInfos m params n).length = params.size := by
    simpa [length_layoutNames] using congrArg List.length hplaces
  have hnames : (memberInfos m params n).map IR.Module.MemberInfo.name = layoutNames params := by
    simpa [Function.comp_def] using congrArg (List.map Prod.fst) hplaces
  refine ⟨rfl, by rw [hlength], hlength, hplaces, ?_, fun d hd => ?_⟩
  · refine StructInfo.count?_of_forall ?_ fun member hmember hname => ?_
    · rw [hnames]
      exact List.mem_append_left _ (mem_memberNames htype (by decide))
    · rcases mem_memberInfos hmember with ⟨-, hcount⟩ | ⟨d, -, hother, -⟩
      · obtain ⟨number', hnumber', harray⟩ := h.kindArray
        obtain rfl : number' = number := Option.some.inj (hnumber'.symm.trans hnumber)
        rw [hcount, hname]
        exact harray.arrayLength? hm
      · exact absurd (hname.symm.trans hother) (by decide)
  · obtain ⟨k, rfl⟩ := hsize d hd
    refine ⟨k, rfl, StructInfo.count?_of_forall ?_ fun member hmember hname => ?_⟩
    · rw [hnames, layoutNames, filter_eq_get? hkeys, hd]
      exact List.mem_append_right _ List.mem_cons_self
    · rcases mem_memberInfos hmember with ⟨hmem, -⟩ | ⟨d, hd', -, hcount⟩
      · simp [memberNames, hname] at hmem
      · rw [hcount, ← Option.some.inj (hd.symm.trans hd')]
        rfl

end MapGraph

/-! ### Integers stay integers -/

/-- If the numbers of all nodes were integers before, they still are. -/
def KeepsIntegral (w w' : Workspace) : Prop := w.module.Integral → w'.module.Integral

instance : Std.Refl KeepsIntegral := ⟨fun _ h => h⟩

instance : IsTrans Workspace KeepsIntegral := ⟨fun _ _ _ h h' hw => h' (h hw)⟩

theorem listNode_keepsIntegral (entries : List Entry) :
    Preserves KeepsIntegral (Map.listNode entries) :=
  fun _ hw => hw.addNode (Node.integral_list entries)

/-- A record keeps the numbers integers if it has no other number in a field for numbers. -/
theorem record_keepsIntegral {kind : String} {distinct : Bool} {fields : List (String × Field)}
    (hkeys : (fields.map Prod.fst).Nodup) (h : Node.exactFields fields = true) :
    Preserves KeepsIntegral (Build.onModule fun m => m.addRecord kind distinct fields) :=
  fun _ hw => hw.addRecord hkeys h

theorem basicType_keepsIntegral (name : String) (size : Nat) :
    Preserves KeepsIntegral (Map.basicType name size) :=
  record_keepsIntegral (by simp) rfl

theorem arrayType_keepsIntegral (base : Nat) (n : Int) :
    Preserves KeepsIntegral (Map.arrayType base (.int n)) := by
  have hfield : Map.fieldOf (.int n) = pure (.datum (.int n)) := rfl
  rw [Map.arrayType, hfield, pure_bind]
  refine .bind (record_keepsIntegral (by simp) rfl) fun _ => ?_
  exact .bind (listNode_keepsIntegral _) fun _ => record_keepsIntegral (by simp) rfl

theorem pointerTo_keepsIntegral (base : Nat) : Preserves KeepsIntegral (Map.pointerTo base) :=
  record_keepsIntegral (by simp) rfl

theorem member_keepsIntegral (name : Text) (type index : Nat) :
    Preserves KeepsIntegral (Map.member name type index) := by
  have hkeys : (["tag", "name", "file", "baseType", "size", "offset"] : List String).Nodup := by decide
  exact .bind .get fun _ => record_keepsIntegral hkeys rfl

theorem members_keepsIntegral (types : Map.MemberTypes) (index : Nat) (names : List Text) :
    Preserves KeepsIntegral (Map.members types index names) := by
  induction names generalizing index with
  | nil => exact .pure _
  | cons name rest ih =>
    exact .bind (member_keepsIntegral _ _ _) fun _ => .bind (ih _) fun _ => .pure _

theorem sizeMember_keepsIntegral (uint : Nat) {params : Map.Params} (index : Nat)
    (hsize : ∀ d ∈ params.get? "max_entries", ∃ k, d = .int k) :
    Preserves KeepsIntegral (Map.sizeMember uint params index) := by
  unfold Map.sizeMember
  split
  · rename_i d hd
    obtain ⟨k, rfl⟩ := hsize d hd
    exact .bind (arrayType_keepsIntegral _ _) fun _ => .bind (pointerTo_keepsIntegral _) fun _ =>
      .bind (member_keepsIntegral _ _ _) fun _ => .pure _
  · exact .pure _

theorem kindNumber_keepsIntegral (kind : Datum) : Preserves KeepsIntegral (Map.kindNumber kind) := by
  unfold Map.kindNumber
  split
  · exact .pure _
  · exact .throw _

theorem debugInfo_keepsIntegral (name : String) {params : Map.Params}
    (hsize : ∀ d ∈ params.get? "max_entries", ∃ k, d = .int k) :
    Preserves KeepsIntegral (Map.debugInfo name params) := by
  unfold Map.debugInfo
  refine .bind .get fun _ => ?_
  refine .bind (basicType_keepsIntegral _ _) fun uint => ?_
  refine .bind (basicType_keepsIntegral _ _) fun ulong => ?_
  refine .bind (kindNumber_keepsIntegral _) fun number => ?_
  refine .bind (arrayType_keepsIntegral _ _) fun kindArray => ?_
  refine .bind (pointerTo_keepsIntegral _) fun kind => ?_
  refine .bind (pointerTo_keepsIntegral _) fun key => ?_
  refine .bind (pointerTo_keepsIntegral _) fun value => ?_
  refine .bind (members_keepsIntegral _ _ _) fun fields => ?_
  refine .bind (sizeMember_keepsIntegral _ _ hsize) fun last => ?_
  refine .bind (listNode_keepsIntegral _) fun elements => ?_
  refine .bind (record_keepsIntegral (by simp) rfl) fun struct => ?_
  refine .bind .get fun _ => ?_
  refine .bind (record_keepsIntegral (by simp) rfl) fun described => ?_
  refine .bind (record_keepsIntegral (by simp) rfl) fun expression => ?_
  exact record_keepsIntegral (by simp) rfl

theorem create_keepsIntegral (name : String) {params : Map.Params}
    (hsize : ∀ d ∈ params.get? "max_entries", ∃ k, d = .int k) :
    Preserves KeepsIntegral (Map.create name params) := by
  have hclaim : Preserves KeepsIntegral (Build.claim name) := by
    refine .bind .get fun w => ?_
    split
    · exact fun _ hw => hw
    · exact .throw _
  have hrest : Preserves KeepsIntegral (Map.createVariable name params) := by
    refine .bind hclaim fun _ => .bind (fun _ hw => hw) fun _ => ?_
    refine .bind (debugInfo_keepsIntegral name hsize) fun _ => ?_
    exact .bind (fun _ hw => hw) fun _ => .bind (fun _ hw => hw) fun _ => .bind (fun _ hw => hw) fun _ =>
      .pure _
  unfold Map.create
  split
  · exact .bind (.throw _) fun _ => hrest
  · exact hrest

end BpfCompiler.Lower

namespace BpfCompiler.Map

open Syntax

/-! ### Calls that define maps -/

namespace Params

theorem keys_putEntry (key : Text) (value : Datum) (entries : List (Text × Datum)) :
    (putEntry key value entries).map Prod.fst =
      if key ∈ entries.map Prod.fst then entries.map Prod.fst else entries.map Prod.fst ++ [key] := by
  induction entries with
  | nil => rfl
  | cons entry rest ih =>
    rw [putEntry]
    by_cases hentry : entry.1 = key
    · simp [hentry]
    · rw [if_neg hentry, List.map_cons, ih]
      have hne : ¬ key = entry.1 := Ne.symm hentry
      simp only [List.map_cons, List.mem_cons, hne, false_or]
      split <;> rfl

theorem keys_set_nodup {p : Params} (h : (p.entries.map Prod.fst).Nodup) (key : Text) (value : Datum) :
    ((p.set key value).entries.map Prod.fst).Nodup := by
  rw [set, keys_putEntry]
  split
  · exact h
  · rename_i hnew
    exact List.nodup_append'.mpr ⟨h, List.nodup_singleton key, by simpa using hnew⟩

section Induction

variable {P : Params → Prop} (hset : ∀ p key value, key ≠ ("type" : Text) → P p → P (p.set key value))
include hset

theorem setName_of_set {p : Params} (hp : P p) {key : Text} (hkey : key ≠ "type") (e : Option Expr) :
    P (p.setName key e) := by
  unfold setName
  split
  · exact hset p key _ hkey hp
  · exact hp

theorem setSize_of_set {p : Params} (hp : P p) (e : Option Expr) : P (p.setSize e) := by
  unfold setSize
  split
  · exact hset p "max_entries" _ (by decide) hp
  · exact hp

theorem hashKeyword_of_set {p : Params} (hp : P p) (keyword : Option String × Expr) :
    P (p.hashKeyword keyword) := by
  unfold hashKeyword
  split
  · exact setName_of_set hset hp (by decide) _
  · exact setName_of_set hset hp (by decide) _
  · exact setSize_of_set hset hp _
  · exact hp

theorem perfKeyword_of_set {p : Params} (hp : P p) (keyword : Option String × Expr) :
    P (p.perfKeyword keyword) := by
  unfold perfKeyword
  split
  · exact setName_of_set hset hp (by decide) _
  · exact setName_of_set hset hp (by decide) _
  · exact hp

end Induction

end Params

/-- The call that a map is made from. -/
inductive Call where
  | hash (args : List Expr) (keywords : List (Option String × Expr))
  | perf (args : List Expr) (keywords : List (Option String × Expr))

namespace Call

def params : Call → Params
  | hash args keywords => .ofHashCall args keywords
  | perf args keywords => .ofPerfCall args keywords

def kindName : Call → Text
  | hash .. => "HASH"
  | perf .. => "PERF_EVENT_ARRAY"

/-- The number of its kind of map. -/
def number : Call → Nat
  | hash .. => 1
  | perf .. => 4

/-- The parameters of a call are set one by one, after the kind of the map. -/
theorem params_of_set {P : Params → Prop} (call : Call)
    (hstart : P ⟨[("type", .text call.kindName)]⟩)
    (hset : ∀ p key value, key ≠ ("type" : Text) → P p → P (p.set key value)) : P call.params := by
  cases call with
  | hash args keywords =>
    refine List.foldlRecOn keywords _ ?_ fun p hp keyword _ => Params.hashKeyword_of_set hset hp keyword
    refine Params.setSize_of_set hset ?_ _
    exact Params.setName_of_set hset (Params.setName_of_set hset hstart (by decide) _) (by decide) _
  | perf args keywords =>
    refine List.foldlRecOn keywords _ ?_ fun p hp keyword _ => Params.perfKeyword_of_set hset hp keyword
    exact Params.setName_of_set hset (Params.setName_of_set hset hstart (by decide) _) (by decide) _

theorem keys_nodup (call : Call) : (call.params.entries.map Prod.fst).Nodup :=
  call.params_of_set (P := fun p => (p.entries.map Prod.fst).Nodup) (List.nodup_singleton _)
    fun _ key value _ hp => Params.keys_set_nodup hp key value

theorem get?_type (call : Call) : call.params.get? "type" = some (.text call.kindName) := by
  refine call.params_of_set (P := fun p => p.get? "type" = _) rfl fun p key value hkey hp => ?_
  rw [Params.get?, Params.set, Params.lookup_putEntry, if_neg (Ne.symm hkey)]
  exact hp

theorem kindNumber?_params (call : Call) : kindNumber? call.params.kind = some call.number := by
  rw [Params.kind, get?_type]
  cases call <;> rfl

end Call

end BpfCompiler.Map

namespace BpfCompiler.Lower

open IR

/-! ### Sequences of maps -/

/-- Makes maps one after the other. -/
def createAll (calls : List (String × Map.Call)) : Build Unit :=
  calls.forM fun entry => do let _ ← Map.create entry.1 entry.2.params

/-- The names of globals differ and are taken, and the numbers of all nodes are integers. -/
structure Ready (m : IR.Module) : Prop where
  taken : m.names ⊆ m.scope.used
  distinct : m.names.Nodup
  integral : m.Integral

/-- The module has a variable for the map, and its debug information gives back the definition. -/
def LaidOut (m : IR.Module) (name : String) (call : Map.Call) : Prop :=
  ∃ v fields info, m.find? name = some (.variable v) ∧ v.ty = .struct fields ∧
    fields.length = call.params.size ∧ m.structInfo? name = some info ∧
    IsLayoutOf name call.params call.number info

/-- The variable is that of the map, marked with the node that describes it, and the module has this node. -/
def IsMadeBy (m : IR.Module) (entry : String × Map.Call) (v : Variable) : Prop :=
  ∃ node w w', exec (Map.debugInfo entry.1 entry.2.params) w = (.ok node, w') ∧
    w'.module.nodes <+: m.nodes ∧ v = { Map.mapVariable entry.1 entry.2.params with debug := some node }

theorem IsMadeBy.mono {m m' : IR.Module} {entry : String × Map.Call} {v : Variable}
    (h : IsMadeBy m entry v) (hnodes : m.nodes <+: m'.nodes) : IsMadeBy m' entry v := by
  obtain ⟨node, w, w', hdebug, hold, hv⟩ := h
  exact ⟨node, w, w', hdebug, hold.trans hnodes, hv⟩

theorem create_gains {entry : String × Map.Call} {w w' : Workspace}
    (htaken : w.module.names ⊆ w.module.scope.used)
    (h : exec (do let _ ← Map.create entry.1 entry.2.params) w = (.ok (), w')) :
    ∃ v, IsMadeBy w'.module entry v ∧ Gains [.variable v] w w' := by
  obtain ⟨params, w₀, w₁, hparams, hsaid, hdescribe, rfl⟩ := (create_defines _ _).inv h
  obtain rfl := Option.some.inj hparams
  have hbefore := Gains.of_annotated hsaid.module
  obtain ⟨node, w₂, w₃, hdebug, hnodes, hgains⟩ :=
    describeVariable_gains (hbefore.names_taken htaken) hdescribe
  refine ⟨_, ⟨node, w₂, w₃, hdebug, hnodes, rfl⟩, ?_⟩
  have hall := hbefore.trans hgains
  exact ⟨hall.globals, hall.fresh, hall.distinct, hall.taken, hall.used, hall.nodes⟩

/-- Making maps keeps a module ready for more, and each of them has got its variable. -/
theorem createAll_gains {calls : List (String × Map.Call)} {w w' : Workspace}
    (hready : Ready w.module)
    (hsize : ∀ entry ∈ calls, ∀ d ∈ entry.2.params.get? "max_entries", ∃ n, d = .int n)
    (h : exec (createAll calls) w = (.ok (), w')) :
    Ready w'.module ∧ ∀ entry ∈ calls, ∃ v, IsMadeBy w'.module entry v ∧ .variable v ∈ w'.module.globals := by
  obtain ⟨added, hadded, hgains⟩ := forM_gains IsMadeBy .mono create_gains hready.taken h
  refine ⟨⟨hgains.names_taken hready.taken, ?_, ?_⟩, fun entry hentry => ?_⟩
  · rw [hgains.names, List.nodup_append']
    refine ⟨hready.distinct, hgains.distinct, fun name hold hnew => ?_⟩
    obtain ⟨g, hg, rfl⟩ := List.mem_map.mp hnew
    exact hgains.fresh g hg (hready.taken hold)
  · have hkeeps : Preserves KeepsIntegral (createAll calls) :=
      .forM fun entry hentry => .bind (create_keepsIntegral _ (hsize entry hentry)) fun _ => .pure _
    exact hkeeps.of_exec h hready.integral
  · obtain ⟨v, hv, hmade⟩ := exists_of_forall₂_left hadded hentry
    refine ⟨v, hmade, ?_⟩
    rw [hgains.globals]
    exact List.mem_append_right _ (List.mem_map_of_mem hv)

/-- Maps that are made one after the other in one module all read back as they were defined, if the numbers of
entries are integers. -/
theorem createAll_laidOut {calls : List (String × Map.Call)} {w w' : Workspace}
    (hready : Ready w.module)
    (hsize : ∀ entry ∈ calls, ∀ d ∈ entry.2.params.get? "max_entries", ∃ n, d = .int n)
    (h : exec (createAll calls) w = (.ok (), w')) :
    ∀ entry ∈ calls, LaidOut w'.module entry.1 entry.2 := by
  intro entry hentry
  obtain ⟨hready', hall⟩ := createAll_gains hready hsize h
  obtain ⟨v, ⟨node, w₁, w₂, hdebug, hnodes, rfl⟩, hmem⟩ := hall entry hentry
  obtain ⟨n, hgraph⟩ := debugInfo_graph hdebug hnodes
  have hfind := find?_of_mem hready'.distinct hmem
  have hint := hready'.integral
  have hcount := hsize entry hentry
  have htype : entry.2.params.contains "type" = true := by
    rw [Map.Params.contains, Map.Call.get?_type]
    rfl
  refine ⟨_, _, _, hfind, rfl, List.length_replicate, hgraph.structInfo? hint hcount hfind rfl, ?_⟩
  exact hgraph.isLayoutOf hint hcount entry.2.keys_nodup htype entry.2.kindNumber?_params

theorem ofFile_integral (name dataLayout : String) {file unit : List (String × Field)} (maps : Table Operand)
    (hfileKeys : (file.map Prod.fst).Nodup) (hunitKeys : (unit.map Prod.fst ++ ["file"]).Nodup)
    (hfile : Node.exactFields file = true) (hunit : Node.exactFields unit = true) :
    (Workspace.ofFile name dataLayout file unit maps).module.Integral := by
  have hempty : (IR.Module.empty name dataLayout).Integral := nofun
  have hfirst : ((IR.Module.empty name dataLayout).addRecord "DIFile" false file).2.Integral :=
    hempty.addRecord hfileKeys hfile
  have hkeys : ∀ id, ((unit ++ [("file", Field.node id)]).map Prod.fst).Nodup := by
    simpa using hunitKeys
  have hexact : ∀ id, Node.exactFields (unit ++ [("file", Field.node id)]) = true := by
    simpa [Node.exactFields, Field.isExact] using hunit
  have hsecond : ∀ id, (((IR.Module.empty name dataLayout).addRecord "DIFile" false file).2.addRecord
      "DICompileUnit" true (unit ++ [("file", .node id)])).2.Integral :=
    fun id => hfirst.addRecord (hkeys id) (hexact id)
  exact hsecond _

theorem start_ready (path : String) (maps : Table Operand) : Ready (Compile.start path maps).module := by
  have hnames : (Compile.start path maps).module.names = [] := by
    rw [IR.Module.names, start_globals]
    rfl
  refine ⟨by simp [hnames], by simp [hnames], ?_⟩
  exact ofFile_integral path _ maps (by simp) (by simp) rfl rfl

/-- A hash map with one entry, an array of perf events, and another hash map with one entry.  The arrays for the
kind and for the number of entries are one node. -/
def sharedMaps : List (String × Map.Call) :=
  [("counts", .hash [.name "c_uint32", .name "c_uint64"] [(some "max_entries", .const (.int 1) false)]),
    ("events", .perf [] [(some "key_size", .name "c_int32"), (some "value_size", .name "c_uint32")]),
    ("last", .hash [] [(some "max_entries", .const (.int 1) false), (some "key", .name "c_uint64")])]

theorem sharedMaps_laidOut :
    Ready (Compile.start "p.py" Table.empty).module ∧
    (∀ entry ∈ sharedMaps, ∀ d ∈ entry.2.params.get? "max_entries", ∃ n, d = .int n) ∧
    ∃ w, exec (createAll sharedMaps) (Compile.start "p.py" Table.empty) = (.ok (), w) ∧
      ∀ entry ∈ sharedMaps, LaidOut w.module entry.1 entry.2 := by
  have hsize : ∀ entry ∈ sharedMaps, ∀ d ∈ entry.2.params.get? "max_entries", ∃ n, d = .int n := by
    have hcounts : ∀ d ∈ some (Datum.int 1), ∃ n, d = .int n := by
      rintro _ ⟨⟩
      exact ⟨1, rfl⟩
    simp only [sharedMaps, List.forall_mem_cons]
    exact ⟨hcounts, nofun, hcounts, nofun⟩
  have hrun : (exec (createAll sharedMaps) (Compile.start "p.py" Table.empty)).1.isOk = true := by
    decide +kernel
  obtain ⟨⟨⟩, w, hexec⟩ := exec_of_isOk hrun
  have hready := start_ready "p.py" Table.empty
  exact ⟨hready, hsize, w, hexec, createAll_laidOut hready hsize hexec⟩

end BpfCompiler.Lower
