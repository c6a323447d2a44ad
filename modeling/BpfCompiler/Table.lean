/-!
# Tables

An insertion-ordered table from names to values, the shape of every symbol table here.  Inserting under a
name that is present replaces the value and keeps the place; a new name goes to the end.
-/

namespace BpfCompiler

structure Table (α : Type) where
  entries : List (String × α)

namespace Table

variable {α : Type}

def empty : Table α := ⟨[]⟩

instance : Inhabited (Table α) := ⟨empty⟩

/-- The entries with the value for `key` put in. -/
def put (key : String) (value : α) : List (String × α) → List (String × α)
  | [] => [(key, value)]
  | (k, v) :: rest => if k = key then (k, value) :: rest else (k, v) :: put key value rest

def insert (t : Table α) (key : String) (value : α) : Table α := ⟨put key value t.entries⟩

def get? (t : Table α) (key : String) : Option α := t.entries.lookup key

def contains (t : Table α) (key : String) : Bool := (t.get? key).isSome

def keys (t : Table α) : List String := t.entries.map Prod.fst

def size (t : Table α) : Nat := t.entries.length

def ofList (entries : List (String × α)) : Table α :=
  entries.foldl (fun t (k, v) => t.insert k v) empty

@[simp] theorem get?_empty (k : String) : (empty : Table α).get? k = none := rfl

private theorem lookup_put (key k : String) (value : α) (entries : List (String × α)) :
    (put key value entries).lookup k = if k = key then some value else entries.lookup k := by
  induction entries with
  | nil =>
    by_cases h : k = key
    · simp [put, h]
    · have hb : (k == key) = false := by simpa using h
      simp [put, List.lookup_cons, h, hb]
  | cons e rest ih =>
    obtain ⟨k', v⟩ := e
    by_cases h : k' = key
    · subst h
      by_cases h' : k = k'
      · simp [put, h']
      · have hb : (k == k') = false := by simpa using h'
        simp [put, List.lookup_cons, h', hb]
    · by_cases h' : k = k'
      · subst h'
        simp [put, h]
      · have hb : (k == k') = false := by simpa using h'
        simp [put, List.lookup_cons, h, hb, ih]

theorem get?_insert (t : Table α) (key k : String) (value : α) :
    (t.insert key value).get? k = if k = key then some value else t.get? k :=
  lookup_put key k value t.entries

end Table

end BpfCompiler
