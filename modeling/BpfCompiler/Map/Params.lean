import BpfCompiler.Datum
import BpfCompiler.Syntax.Expr

/-!
# Map parameters

What a map is made from: named parameters in the order in which they were first given.  A definition in
the source gives the types of key and value by name and the number of entries as a constant, by position
or by keyword; what is written in another way is passed over.
-/

namespace BpfCompiler.Map

open Syntax

structure Params where
  entries : List (Text × Datum)
deriving Inhabited

namespace Params

def putEntry (key : Text) (value : Datum) : List (Text × Datum) → List (Text × Datum)
  | [] => [(key, value)]
  | (k, v) :: rest => if k = key then (k, value) :: rest else (k, v) :: putEntry key value rest

/-- Sets a parameter; one that is there already keeps its place. -/
def set (p : Params) (key : Text) (value : Datum) : Params := ⟨putEntry key value p.entries⟩

def get? (p : Params) (key : Text) : Option Datum := p.entries.lookup key

def contains (p : Params) (key : Text) : Bool := (p.get? key).isSome

def size (p : Params) : Nat := p.entries.length

def ofList (entries : List (Text × Datum)) : Params :=
  entries.foldl (fun p (k, v) => p.set k v) ⟨[]⟩

/-- The kind of the map, a hash map unless a parameter says otherwise. -/
def kind (p : Params) : Datum := (p.get? "type").getD (.text "HASH")

/-- Sets a parameter to the name that an expression is. -/
def setName (p : Params) (key : Text) (e : Option Expr) : Params :=
  match e.bind Expr.name? with
  | some id => p.set key (.text id)
  | none => p

/-- The datum for a constant that can be a number of entries. -/
def sizeDatum? : Expr → Option Datum
  | .const (.int n) _ => some (.int n)
  | .const (.bool b) _ => some (.bool b)
  | .const (.text t) _ => some (.text t)
  | _ => none

def setSize (p : Params) (e : Option Expr) : Params :=
  match e.bind sizeDatum? with
  | some d => p.set "max_entries" d
  | none => p

def hashKeyword (p : Params) : Option String × Expr → Params
  | (some "key", e) => p.setName "key" e
  | (some "value", e) => p.setName "value" e
  | (some "max_entries", e) => p.setSize e
  | _ => p

/-- The parameters of a hash map: key type, value type and number of entries. -/
def ofHashCall (args : List Expr) (keywords : List (Option String × Expr)) : Params :=
  let p := ofList [("type", .text "HASH")]
  let p := ((p.setName "key" args[0]?).setName "value" args[1]?).setSize args[2]?
  keywords.foldl hashKeyword p

def perfKeyword (p : Params) : Option String × Expr → Params
  | (some "key_size", e) => p.setName "key_size" e
  | (some "value_size", e) => p.setName "value_size" e
  | _ => p

/-- The parameters of an array of perf events: the types of key and value. -/
def ofPerfCall (args : List Expr) (keywords : List (Option String × Expr)) : Params :=
  let p := ofList [("type", .text "PERF_EVENT_ARRAY")]
  let p := (p.setName "key_size" args[0]?).setName "value_size" args[1]?
  keywords.foldl perfKeyword p

/-- The parameters as the log shows them. -/
def shown (p : Params) : Text := (Datum.dict p.entries).shown

/-- Whether the number of entries, if it is one, is short enough to be shown. -/
def canShow (p : Params) : Bool :=
  match p.get? "max_entries" with
  | some (.int n) => (Literal.int n).canShow
  | _ => true

end Params

end BpfCompiler.Map
