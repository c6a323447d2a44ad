import BpfCompiler.Datum
import BpfCompiler.IR.Value

/-!
# Metadata nodes

A node is a list of entries, or a record of debug information with named fields.  A node with the same
content as an earlier one is that one again, also when it is marked distinct; numbers and truth values
count as the same content when they are equal as numbers.
-/

namespace BpfCompiler.IR

/-- The value of a field of debug information; `node` refers to a node by its place. -/
inductive Field where
  | node (id : Nat)
  | datum (value : Datum)
deriving Inhabited

namespace Field

def text (s : String) : Field := .datum (.text s)

def nat (n : Nat) : Field := .datum (.int n)

def bool (b : Bool) : Field := .datum (.bool b)

def same : Field → Field → Bool
  | .node a, .node b => a == b
  | .datum a, .datum b => a.same b
  | _, _ => false

end Field

/-- An entry of a list node. -/
inductive Entry where
  | node (id : Nat)
  | const (ty : Ty) (value : Literal)
  | datum (value : Datum)
deriving Inhabited

namespace Entry

def same : Entry → Entry → Bool
  | .node a, .node b => a == b
  | .const ty a, .const ty' b => ty == ty' && a == b
  | .datum a, .datum b => a.same b
  | _, _ => false

end Entry

inductive Node where
  | list (entries : List Entry)
  | record (kind : String) (distinct : Bool) (fields : List (String × Field))
deriving Inhabited

namespace Node

def sameLists {α : Type} (same : α → α → Bool) (as bs : List α) : Bool :=
  as.length == bs.length && (as.zip bs).all fun (a, b) => same a b

def same : Node → Node → Bool
  | .list as, .list bs => sameLists Entry.same as bs
  | .record kind distinct as, .record kind' distinct' bs =>
    kind == kind' && distinct == distinct' &&
      sameLists (fun (k, a) (k', b) => k == k' && a.same b) as bs
  | _, _ => false

/-- Puts a field among fields that stand in the order of their names, behind those of its own name. -/
def insertField (field : String × Field) : List (String × Field) → List (String × Field)
  | [] => [field]
  | other :: rest =>
    if field.1 < other.1 then field :: other :: rest else other :: insertField field rest

/-- A record with its fields in the order of their names. -/
def ofFields (kind : String) (distinct : Bool) (fields : List (String × Field)) : Node :=
  .record kind distinct (fields.foldl (fun sorted field => insertField field sorted) [])

end Node

/-- Bytes between quotes: a printable ASCII character stands for itself, except the quote and the
backslash; all else is written in hexadecimal. -/
def escapedBytes (bytes : List UInt8) : String :=
  String.join <| bytes.map fun b =>
    let n := b.toNat
    if 0x20 ≤ n && n < 0x7F && n != 0x22 && n != 0x5C then String.singleton (Char.ofNat n)
    else "\\" ++ Text.hexPadded 2 n

def escapedText (t : Text) : String := escapedBytes (t.utf8?.getD [])

def textFault? (t : Text) : Option RenderFault :=
  if t.utf8?.isNone then some .surrogate else none

namespace Field

/-- The field as it prints; `name` gives the names of nodes. -/
def render (name : Nat → String) : Field → Text
  | .node id => "!" ++ name id
  | .datum .null => "null"
  | .datum (.bool b) => if b then "true" else "false"
  | .datum (.text t) => "\"" ++ escapedText t ++ "\""
  | .datum (.int n) => toString n
  | .datum _ => ""

def fault? : Field → Option RenderFault
  | .datum (.text t) => textFault? t
  | .datum (.float _) | .datum (.list _) | .datum (.dict _) => some .unsupportedField
  | .datum (.int n) => if (Literal.int n).canShow then none else some .longNumber
  | _ => none

end Field

namespace Entry

def render (name : Nat → String) : Entry → Text
  | .node id => "!" ++ name id
  | .const ty value => (Operand.const ty value).typed
  | .datum (.text t) => "!\"" ++ escapedText t ++ "\""
  | .datum .null => "null"
  | .datum _ => ""

def fault? : Entry → Option RenderFault
  | .datum (.text t) => textFault? t
  | .datum .null => none
  | .datum _ => some .bareNumber
  | _ => none

end Entry

namespace Node

def render (name : Nat → String) : Node → Text
  | .list entries => ("!\x7b " : Text) ++ Text.join ", " (entries.map (Entry.render name)) ++ " \x7d"
  | .record kind distinct fields =>
    let field : String × Field → Text := fun (key, value) =>
      (key ++ ": " : String) ++ value.render name
    (if distinct then "distinct " else "" : String) ++ "!" ++ kind ++ "(" ++
      Text.join ", " (fields.map field) ++ ")"

def fault? : Node → Option RenderFault
  | .list entries => entries.findSome? Entry.fault?
  | .record _ _ fields => fields.findSome? fun (_, value) => value.fault?

end Node

end BpfCompiler.IR
