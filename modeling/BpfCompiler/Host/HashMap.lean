import BpfCompiler.Datum

/-!
# Hash maps in user space

A map as a program in user space sees it: entries in the order in which their keys were first set.  An
update or a deletion asks for a key that is there; only setting an entry directly can bring in a new one.
Keys are compared by `==`, and the key that came first stays when its value is replaced.
-/

namespace BpfCompiler.Host

/-- No key has two entries. -/
structure HashMap (κ α : Type) [BEq κ] where
  entries : List (κ × α)
  distinct : entries.Pairwise fun a b => (a.1 == b.1) = false

namespace HashMap

variable {κ α : Type} [BEq κ]

def empty : HashMap κ α := ⟨[], .nil⟩

def lookup (m : HashMap κ α) (key : κ) : Option α :=
  (m.entries.find? fun (k, _) => k == key).map Prod.snd

def contains (m : HashMap κ α) (key : κ) : Bool := m.entries.any fun (k, _) => k == key

/-- The entries with the value of a key replaced. -/
def replace (key : κ) (value : α) : List (κ × α) → List (κ × α)
  | [] => []
  | (k, v) :: rest => if k == key then (k, value) :: rest else (k, v) :: replace key value rest

theorem map_fst_replace (key : κ) (value : α) (entries : List (κ × α)) :
    (replace key value entries).map Prod.fst = entries.map Prod.fst := by
  induction entries with
  | nil => rfl
  | cons e rest ih =>
    obtain ⟨k, v⟩ := e
    cases hk : k == key <;> simp [replace, hk, ih]

/-- The map with the value of a key replaced. -/
def put (m : HashMap κ α) (key : κ) (value : α) : HashMap κ α where
  entries := replace key value m.entries
  distinct := by
    have h : (m.entries.map Prod.fst).Pairwise fun a b => (a == b) = false :=
      List.pairwise_map.mpr m.distinct
    rw [← map_fst_replace key value] at h
    exact List.pairwise_map.mp h

/-- The map without the entry of a key. -/
def erase (m : HashMap κ α) (key : κ) : HashMap κ α where
  entries := m.entries.eraseP fun (k, _) => k == key
  distinct := m.distinct.sublist List.eraseP_sublist

/-- The map with an entry for a new key at its end. -/
def append (m : HashMap κ α) (key : κ) (value : α) (h : m.contains key = false) : HashMap κ α where
  entries := m.entries ++ [(key, value)]
  distinct := by
    simp only [contains, List.any_eq_false, Bool.not_eq_true] at h
    rw [List.pairwise_append]
    refine ⟨m.distinct, List.pairwise_singleton _ _, fun e he other hother => ?_⟩
    rw [List.mem_singleton.mp hother]
    exact h e he

/-- Sets the value of a key, which may be new. -/
def set (m : HashMap κ α) (key : κ) (value : α) : HashMap κ α :=
  match h : m.contains key with
  | true => m.put key value
  | false => m.append key value h

end HashMap

/-- What a program asks of a map. -/
inductive MapRequest (κ α : Type) where
  | lookup (key : κ)
  | update (key : κ) (value : α)
  | delete (key : κ)

namespace HashMap

variable {κ α : Type} [BEq κ]

/-- Steps on a map that can fail; the map stays as the steps before the failure left it. -/
abbrev Steps (κ α ε : Type) [BEq κ] := ExceptT ε (StateM (HashMap κ α))

/-- Changes the entry of a key that is there. -/
def change (key : κ) (f : HashMap κ α → HashMap κ α) : Steps κ α κ Unit := do
  if (← get).contains key then modify f else throw key

/-- Answers a request with a value, if there is one; fails at a key that is missing. -/
def serve : MapRequest κ α → Steps κ α κ (Option α)
  | .lookup key => return (← get).lookup key
  | .update key value => do
    change key fun m => m.put key value
    return none
  | .delete key => do
    change key fun m => m.erase key
    return none

end HashMap

instance : BEq Datum := ⟨Datum.same⟩

/-- Why a call on a map fails. -/
inductive MapFault where
  | notHashable
  | missingKey (key : Datum)
  | argumentCount

def MapFault.message? : MapFault → Option Text
  | .missingKey key => some (("Key " : Text) ++ key.shown ++ " not found in map")
  | _ => none

/-- The class of the error that a fault is reported as. -/
def MapFault.className : MapFault → String
  | .missingKey _ => "KeyError"
  | .notHashable | .argumentCount => "TypeError"

/-- A call on a map, with the arguments it was given. -/
inductive MapCall where
  | lookup (args : List Datum)
  | update (args : List Datum)
  | delete (args : List Datum)
  | set (key value : Datum)

abbrev CallSteps := HashMap.Steps Datum Datum MapFault

def hashable (key : Datum) : CallSteps Unit := do
  unless key.isKey do throw .notHashable

/-- Serves a request for a key that can be one. -/
def serveCall (request : MapRequest Datum Datum) (key : Datum) : CallSteps Datum := do
  hashable key
  return (← ExceptT.adapt .missingKey (HashMap.serve request)).getD .null

/-- Carries out a call; its value is null if there is no other. -/
def MapCall.run : MapCall → CallSteps Datum
  | .lookup [key] => serveCall (.lookup key) key
  | .update [key, value] | .update [key, value, _] => serveCall (.update key value) key
  | .delete [key] => serveCall (.delete key) key
  | .set key value => do
    hashable key
    modify fun m => m.set key value
    return .null
  | _ => throw .argumentCount

/-- An array of perf events as user space sees it: the types of its key and value. -/
structure PerfEventArray where
  key : Datum
  value : Datum
  entries : HashMap Datum Datum

/-- An array is made from exactly two arguments. -/
def PerfEventArray.ofArgs? : List Datum → Option PerfEventArray
  | [key, value] => some ⟨key, value, HashMap.empty⟩
  | _ => none

end BpfCompiler.Host
