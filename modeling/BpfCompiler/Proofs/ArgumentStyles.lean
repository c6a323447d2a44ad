import BpfCompiler.Proofs.MapLayout

/-!
# Ways of writing a hash map

The types of key and value and the number of entries can be given by position or by keyword, and keywords in
any order.  Parameters are kept in the order in which they come, and the struct that describes a map has its
members in that order.  Only the number of entries has its place at the end.

So all writings of the same three arguments give the same parameters, in different orders.  The debug
information looks at a parameter by its name, and apart from that at the order of those other than the number
of entries: writings in which the key comes before the value are told apart by the log only.
-/

namespace BpfCompiler.Map

open IR Lower Syntax

/-! ### Parameters in order -/

namespace Params

theorem putEntry_of_notMem {key : Text} {entries : List (Text × Datum)} (value : Datum)
    (h : key ∉ entries.map Prod.fst) : putEntry key value entries = entries ++ [(key, value)] := by
  induction entries with
  | nil => rfl
  | cons entry rest ih =>
    simp only [List.map_cons, List.mem_cons, not_or] at h
    rw [putEntry, if_neg (Ne.symm h.1), ih h.2, List.cons_append]

def setAll (p : Params) (pairs : List (Text × Datum)) : Params :=
  pairs.foldl (fun p pair => p.set pair.1 pair.2) p

/-- Parameters that are new stand behind the others, in the order in which they are set. -/
theorem entries_setAll {pairs : List (Text × Datum)} {p : Params}
    (h : ((p.entries ++ pairs).map Prod.fst).Nodup) :
    (p.setAll pairs).entries = p.entries ++ pairs := by
  induction pairs generalizing p with
  | nil => simp [setAll]
  | cons pair rest ih =>
    have hsplit : p.entries ++ pair :: rest = (p.entries ++ [pair]) ++ rest := by simp
    have hnew : pair.1 ∉ p.entries.map Prod.fst := by
      intro hmem
      rw [List.map_append, List.nodup_append'] at h
      exact h.2.2 hmem (by simp)
    have hset : p.set pair.1 pair.2 = ⟨p.entries ++ [pair]⟩ := by
      rw [set, putEntry_of_notMem _ hnew]
    rw [hsplit] at h ⊢
    rw [setAll, List.foldl_cons, hset]
    exact ih h

theorem lookup_eq_of_perm {entries entries' : List (Text × Datum)} (h : entries.Perm entries')
    (hnodup : (entries.map Prod.fst).Nodup) (key : Text) :
    entries'.lookup key = entries.lookup key := by
  induction h with
  | nil => rfl
  | cons entry _ ih =>
    rw [lookup_cons_eq, lookup_cons_eq, ih (List.nodup_cons.mp hnodup).2]
  | swap first second rest =>
    have hne : second.1 ≠ first.1 := by
      intro heq
      simp [heq] at hnodup
    simp only [lookup_cons_eq]
    by_cases hkey : key = first.1
    · simp [hkey, Ne.symm hne]
    · simp [hkey]
  | trans hfirst _ ih ih' =>
    rw [ih' ((hfirst.map Prod.fst).nodup hnodup), ih hnodup]

/-- What the making of a map sees of its parameters. -/
structure SameDescription (p q : Params) : Prop where
  size : q.size = p.size
  lookup : ∀ key, q.get? key = p.get? key
  members : memberNames q = memberNames p

theorem SameDescription.of_perm {p q : Params} (h : p.entries.Perm q.entries)
    (hnodup : (p.entries.map Prod.fst).Nodup) (hmembers : memberNames q = memberNames p) :
    p.SameDescription q :=
  ⟨h.length_eq.symm, lookup_eq_of_perm h hnodup, hmembers⟩

end Params

theorem debugInfo_eq {p q : Params} (h : p.SameDescription q) (name : String) :
    debugInfo name q = debugInfo name p := by
  have hmembers : (q.entries.map Prod.fst).filter (fun n => n ≠ ("max_entries" : Text)) =
      (p.entries.map Prod.fst).filter fun n => n ≠ ("max_entries" : Text) := h.members
  unfold debugInfo sizeMember Params.kind Params.contains
  simp only [h.lookup, hmembers]

theorem create_eq {p q : Params} (h : p.SameDescription q) (name : String) :
    create name q = create name p := by
  unfold create createVariable Params.kind mapVariable
  simp only [h.lookup, h.size, debugInfo_eq h]

/-! ### Writings -/

/-- An argument: the parameter that it gives, how it is written and what it says. -/
structure HashArgument where
  parameter : String
  written : Expr
  datum : Datum

def HashArgument.pair (a : HashArgument) : Text × Datum := (a.parameter, a.datum)

def hashArguments (key value : String) (size : Expr) (entries : Datum) : List HashArgument :=
  [⟨"key", .name key, .text key⟩, ⟨"value", .name value, .text value⟩,
    ⟨"max_entries", size, entries⟩]

/-- A way of giving every argument once: some leading ones by position and the rest by keyword, in any
order. -/
structure Writing (given : List HashArgument) where
  positional : Nat
  keywords : List HashArgument
  perm : keywords.Perm (given.drop positional)

namespace Writing

variable {given : List HashArgument}

def args (writing : Writing given) : List Expr :=
  (given.take writing.positional).map HashArgument.written

def keywordArgs (writing : Writing given) : List (Option String × Expr) :=
  writing.keywords.map fun a => (some a.parameter, a.written)

/-- The arguments as they stand in the call. -/
def order (writing : Writing given) : List HashArgument :=
  given.take writing.positional ++ writing.keywords

/-- The key comes before the value. -/
def KeyFirst (writing : Writing given) : Prop :=
  ["key", "value"].Sublist (writing.order.map HashArgument.parameter)

instance (writing : Writing given) : Decidable writing.KeyFirst :=
  inferInstanceAs (Decidable (List.Sublist _ _))

theorem order_perm (writing : Writing given) : writing.order.Perm given := by
  have happend := writing.perm.append_left (given.take writing.positional)
  rwa [List.take_append_drop] at happend

end Writing

section HashArguments

variable {key value : String} {size : Expr} {entries : Datum}

/-- A keyword sets its parameter, whatever it finds. -/
theorem hashKeyword_eq (hsize : Params.sizeDatum? size = some entries) {a : HashArgument}
    (ha : a ∈ hashArguments key value size entries) (p : Params) :
    p.hashKeyword (some a.parameter, a.written) = p.set a.parameter a.datum := by
  simp only [hashArguments, List.mem_cons, List.not_mem_nil, or_false] at ha
  rcases ha with rfl | rfl | rfl
  · rfl
  · rfl
  · simp [Params.hashKeyword, Params.setSize, hsize]

theorem setPositional_eq (hsize : Params.sizeDatum? size = some entries)
    (writing : Writing (hashArguments key value size entries)) (p : Params) :
    ((p.setName "key" writing.args[0]?).setName "value" writing.args[1]?).setSize writing.args[2]? =
      p.setAll (((hashArguments key value size entries).take writing.positional).map
        HashArgument.pair) := by
  obtain ⟨count, keywords, hperm⟩ := writing
  match count with
  | 0 => rfl
  | 1 => rfl
  | 2 => rfl
  | n + 3 =>
    simp [Writing.args, hashArguments, Params.setAll, Params.setName, Params.setSize, HashArgument.pair,
      Expr.name?, hsize]

/-- The parameter that says that the map is a hash map. -/
def hashKind : Text × Datum := ("type", .text "HASH")

theorem order_names_perm (writing : Writing (hashArguments key value size entries)) :
    ((writing.order.map HashArgument.pair).map Prod.fst).Perm ["key", "value", "max_entries"] :=
  (writing.order_perm.map HashArgument.pair).map Prod.fst

theorem hashKind_order_nodup (writing : Writing (hashArguments key value size entries)) :
    ((hashKind :: writing.order.map HashArgument.pair).map Prod.fst).Nodup := by
  apply ((order_names_perm writing).cons ("type" : Text)).symm.nodup
  decide

/-- The kind of the map comes first, and then the arguments as they stand in the call. -/
theorem ofHashCall_entries (hsize : Params.sizeDatum? size = some entries)
    (writing : Writing (hashArguments key value size entries)) :
    (Params.ofHashCall writing.args writing.keywordArgs).entries =
      hashKind :: writing.order.map HashArgument.pair := by
  have hkeywords : ∀ p : Params, writing.keywordArgs.foldl Params.hashKeyword p =
      p.setAll (writing.keywords.map HashArgument.pair) := by
    intro p
    rw [Writing.keywordArgs, Params.setAll, List.foldl_map, List.foldl_map]
    apply List.foldl_ext
    intro p a ha
    exact hashKeyword_eq hsize (List.mem_of_mem_drop (writing.perm.mem_iff.mp ha)) p
  have hset : Params.ofHashCall writing.args writing.keywordArgs =
      Params.setAll ⟨[hashKind]⟩ (writing.order.map HashArgument.pair) := by
    rw [Params.ofHashCall, hkeywords, setPositional_eq hsize, Writing.order, List.map_append]
    exact (List.foldl_append ..).symm
  rw [hset, Params.entries_setAll (hashKind_order_nodup writing)]
  rfl

/-- Two of the three names stay when the number of entries is left out, so the order of these two is all
there is to know. -/
theorem memberNames_ofHashCall (hsize : Params.sizeDatum? size = some entries)
    {writing : Writing (hashArguments key value size entries)} (h : writing.KeyFirst) :
    memberNames (Params.ofHashCall writing.args writing.keywordArgs) = ["type", "key", "value"] := by
  let isMember : Text → Bool := fun name => name ≠ ("max_entries" : Text)
  let names := (writing.order.map HashArgument.pair).map Prod.fst
  have hsublist : (["key", "value"] : List Text).Sublist names := by
    have hcast := List.Sublist.map Text.ofString h
    simpa [names, HashArgument.pair, Function.comp_def] using hcast
  have hlength : (names.filter isMember).length = 2 :=
    ((order_names_perm writing).filter isMember).length_eq
  have hfiltered : (["key", "value"] : List Text) = names.filter isMember :=
    (hsublist.filter isMember).eq_of_length hlength.symm
  rw [memberNames, ofHashCall_entries hsize, List.map_cons, List.filter_cons_of_pos (by decide)]
  exact congrArg (List.cons _) hfiltered.symm

theorem sameDescription_of_keyFirst (hsize : Params.sizeDatum? size = some entries)
    {first second : Writing (hashArguments key value size entries)} (hfirst : first.KeyFirst)
    (hsecond : second.KeyFirst) :
    (Params.ofHashCall first.args first.keywordArgs).SameDescription
      (Params.ofHashCall second.args second.keywordArgs) := by
  apply Params.SameDescription.of_perm
  · rw [ofHashCall_entries hsize, ofHashCall_entries hsize]
    exact ((first.order_perm.trans second.order_perm.symm).map HashArgument.pair).cons hashKind
  · rw [ofHashCall_entries hsize]
    exact hashKind_order_nodup first
  · rw [memberNames_ofHashCall hsize hfirst, memberNames_ofHashCall hsize hsecond]

end HashArguments

end BpfCompiler.Map

namespace BpfCompiler.Lower

open IR Syntax

/-! ### All but the log -/

structure Workspace.SameButLog (w v : Workspace) : Prop extends Workspace.SameModule w v where
  maps : v.maps = w.maps

theorem Workspace.SameButLog.congruence : Workspace.Congruence Workspace.SameButLog where
  sameModule h := h.toSameModule
  change h _ _ hm := ⟨⟨hm, h.fileNode, h.unitNode⟩, h.maps⟩
  say _ := RunsAlike.modify fun _ _ h => ⟨⟨h.module, h.fileNode, h.unitNode⟩, h.maps⟩

theorem create_runsAlike (name : String) (params : Map.Params) :
    RunsAlike Workspace.SameButLog (Map.create name params) := by
  unfold Map.create
  split
  · exact RunsAlike.throw _
  · rw [createVariable_eq]
    refine RunsAlike.bind ((describeVariable_code name params).congruent
      Workspace.SameButLog.congruence) fun _ => ?_
    refine RunsAlike.bind (RunsAlike.modify fun w v h => ?_) fun _ => RunsAlike.pure _
    exact ⟨⟨h.module, h.fileNode, h.unitNode⟩, by rw [h.maps]⟩

/-- Two lists of parameters that a map sees in the same way are told apart by what the log shows of them. -/
theorem createFrom_sameButLog {p q : Map.Params} (h : p.SameDescription q) (name : String)
    (w : Workspace) :
    let make := fun params => do
      Map.sayParams params
      let _ ← Map.create name params
    (exec (make p) w).1 = (exec (make q) w).1 ∧
      (exec (make p) w).2.SameButLog (exec (make q) w).2 := by
  have hshow : q.canShow = p.canShow := by simp only [Map.Params.canShow, h.lookup]
  dsimp only
  rw [Map.create_eq h]
  unfold Map.sayParams
  rw [hshow]
  by_cases hcan : p.canShow = true
  · have hrest := RunsAlike.bind (create_runsAlike name p) fun _ => RunsAlike.pure ()
    simp only [hcan]
    exact hrest ⟨⟨rfl, rfl, rfl⟩, rfl⟩
  · simp only [hcan]
    exact ⟨rfl, ⟨rfl, rfl, rfl⟩, rfl⟩

/-- However the three arguments are written, the map is made from the same parameters.  Two writings in which
the key comes before the value end in the same way, with the same module and the same maps, and so the same
text is written. -/
theorem createHash_writing {size : Expr} {entries : Datum}
    (hsize : Map.Params.sizeDatum? size = some entries) (name key value : String) :
    (∀ writing : Map.Writing (Map.hashArguments key value size entries), ∃ params : Map.Params,
      params.entries.Perm [("type", .text "HASH"), ("key", .text key), ("value", .text value),
        ("max_entries", entries)] ∧
      Map.createHash name writing.args writing.keywordArgs = (do
        Build.say ("Creating HashMap map: " ++ name)
        Map.sayParams params
        let _ ← Map.create name params)) ∧
    ∀ first second : Map.Writing (Map.hashArguments key value size entries),
      first.KeyFirst → second.KeyFirst → ∀ w : Workspace,
        let create := fun (writing : Map.Writing (Map.hashArguments key value size entries)) =>
          Map.createHash name writing.args writing.keywordArgs
        (exec (create first) w).1 = (exec (create second) w).1 ∧
        (exec (create first) w).2.SameButLog (exec (create second) w).2 ∧
        ∀ path, (exec (create first >>= fun _ => Compile.write path) w).1 =
          (exec (create second >>= fun _ => Compile.write path) w).1 := by
  constructor
  · intro writing
    refine ⟨.ofHashCall writing.args writing.keywordArgs, ?_, rfl⟩
    rw [Map.ofHashCall_entries hsize]
    exact (writing.order_perm.map Map.HashArgument.pair).cons Map.hashKind
  · intro first second hfirst hsecond w
    have hcreate := createFrom_sameButLog (Map.sameDescription_of_keyFirst hsize hfirst hsecond) name
    refine ⟨(hcreate _).1, (hcreate _).2, fun path => ?_⟩
    have hwrite := (write_code path).moduleCode.congruent Workspace.SameButLog.congruence
    exact (RunsAlike.after (fun _ => hwrite) (hcreate _).1 (hcreate _).2).1

/-- The number of entries is 4. -/
def fourEntries : Expr := .const (.int 4) false

def allPositional : Map.Writing (Map.hashArguments "c_int32" "c_int64" fourEntries (.int 4)) :=
  ⟨3, [], .refl _⟩

/-- The number of entries comes first. -/
def sizeFirst : Map.Writing (Map.hashArguments "c_int32" "c_int64" fourEntries (.int 4)) :=
  ⟨0, [⟨"max_entries", fourEntries, .int 4⟩, ⟨"key", .name "c_int32", .text "c_int32"⟩,
    ⟨"value", .name "c_int64", .text "c_int64"⟩],
    (List.Perm.swap _ _ _).trans ((List.Perm.swap _ _ _).cons _)⟩

theorem createHash_positional_sizeFirst :
    allPositional.KeyFirst ∧ sizeFirst.KeyFirst ∧
    let w := Compile.start "prog.py" Table.empty
    let positional := Map.createHash "seen" [.name "c_int32", .name "c_int64", fourEntries] []
    let keyword := Map.createHash "seen" [] [(some "max_entries", fourEntries),
      (some "key", .name "c_int32"), (some "value", .name "c_int64")]
    (exec positional w).1.isOk = true ∧ (exec positional w).2.log ≠ (exec keyword w).2.log ∧
    (exec positional w).1 = (exec keyword w).1 ∧
    (exec positional w).2.SameButLog (exec keyword w).2 := by
  have hfirst : allPositional.KeyFirst := by decide
  have hsecond : sizeFirst.KeyFirst := by decide
  have hsize : Map.Params.sizeDatum? fourEntries = some (.int 4) := rfl
  have hsame := (createHash_writing hsize "seen" "c_int32" "c_int64").2 allPositional sizeFirst
    hfirst hsecond (Compile.start "prog.py" Table.empty)
  exact ⟨hfirst, hsecond, by decide +kernel, by decide +kernel, hsame.1, hsame.2.1⟩

end BpfCompiler.Lower
